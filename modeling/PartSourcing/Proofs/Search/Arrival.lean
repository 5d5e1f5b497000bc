import PartSourcing.Memory.Tables
import PartSourcing.Memory.Volatile
import PartSourcing.Proofs.Search.Conclusion

/-!
# The order of arrival

Two searches that differ in nothing but the order in which the same fresh sightings arrive find
the same, and leave the same memory, if no two duplicates are on a par.  Only the order in which
the sources of a row are listed may differ, so sightings are compared without that list
(`Sighting.unattributed`).

Nothing on the way looks at it: annotations, scores and ranks do not
(`map_unattributed_result`), and neither does a store that is given the sighting
(`Store.rememberFresh_congr`).  What is left is a merged list whose order is that of arrival, and
a ranking that forgets it.
-/

namespace PartSourcing

open PartSourcing.Calendar Sighting

/-! ## Nothing looks at the sources of a sighting -/

namespace Sighting

variable (s : Sighting)

@[simp] theorem unattributed_identity : s.unattributed.identity = s.identity := rfl

@[simp] theorem unattributed_isHistorical :
    s.unattributed.isHistorical = s.isHistorical := rfl

theorem map_unattributed_identity (l : List Sighting) :
    (l.map unattributed).map identity = l.map identity := by
  rw [List.map_map]
  rfl

/-- **The same offer**, up to the order in which its sources are listed. -/
def SameOffer (s t : Sighting) : Prop :=
  s.unattributed = t.unattributed ∧ s.reportedBy.Perm t.reportedBy

theorem map_unattributed_scoreAll (req : Requirement) (scoring : Scoring Float)
    (reliability : String → Float) (now : Instant) (l : List Sighting) :
    (scoreAll req scoring reliability now l).map unattributed =
      scoreAll req scoring reliability now (l.map unattributed) := by
  rw [scoreAll, scoreAll, List.map_map, List.map_map]
  rfl

theorem map_unattributed_ranked (c : EngineConfig) (l : List Sighting) :
    (ranked c l).map unattributed = ranked c (l.map unattributed) :=
  List.map_mergeSort fun _ _ _ _ => rfl

end Sighting

namespace PartRecord

variable (r : PartRecord) (req : Requirement) (cutoff : Instant) (searchId : SearchId)

theorem annotate_unattributed (s : Sighting) :
    r.annotate req s.unattributed = (r.annotate req s).unattributed := by
  have hpart : s.unattributed.part = s.part := rfl
  have hkey : s.unattributed.vendorKey = s.vendorKey := rfl
  rw [annotate, annotate, hpart, hkey]
  split
  · cases r.annotation? s.vendorKey <;> rfl
  · rfl

/-- Of the vendors that answer it matters only which they are. -/
theorem silent_congr {answering answering' : List String}
    (h : ∀ vendorKey, vendorKey ∈ answering ↔ vendorKey ∈ answering') :
    r.silent answering cutoff = r.silent answering' cutoff := by
  have hmem (vendorKey : String) : answering.contains vendorKey = answering'.contains vendorKey :=
    Bool.eq_iff_iff.mpr
      (List.contains_iff_mem.trans ((h vendorKey).trans List.contains_iff_mem.symm))
  unfold silent
  simp only [hmem]

variable {req}

theorem mem_answering_congr {fresh fresh' : List Sighting}
    (h : ∀ k, k ∈ fresh.map identity ↔ k ∈ fresh'.map identity) (vendorKey : String) :
    vendorKey ∈ answering req fresh ↔ vendorKey ∈ answering req fresh' := by
  rw [mem_answering_iff_identity, mem_answering_iff_identity]
  exact exists_congr fun k => and_congr_left fun _ => h k

theorem map_unattributed_joined (fresh : List Sighting) :
    (r.joined req fresh cutoff searchId).map unattributed =
      r.joined req (fresh.map unattributed) cutoff searchId := by
  have hsilent : r.silent (answering req (fresh.map unattributed)) cutoff =
      r.silent (answering req fresh) cutoff := by
    refine r.silent_congr cutoff (mem_answering_congr fun k => ?_)
    rw [map_unattributed_identity]
  rw [joined, joined, hsilent, List.map_append, List.map_map, List.map_map, List.map_map]
  refine congrArg₂ _ (List.map_congr_left fun s _ => ?_) rfl
  exact (r.annotate_unattributed req s).symm

theorem joined_perm {fresh fresh' : List Sighting} (h : fresh.Perm fresh') :
    (r.joined req fresh cutoff searchId).Perm (r.joined req fresh' cutoff searchId) := by
  have hsilent : r.silent (answering req fresh) cutoff = r.silent (answering req fresh') cutoff :=
    r.silent_congr cutoff (mem_answering_congr fun _ => (h.map identity).mem_iff)
  rw [joined, joined, hsilent]
  exact (h.map _).append_right _

end PartRecord

/-! ## Two searches -/

section TwoSearches

variable (c : EngineConfig) (req : Requirement) (reliability : String → Float) (now : Instant)
  (searchId : SearchId) (record : Option PartRecord)

theorem map_unattributed_assembled (fresh : List Sighting) (cutoff : Instant) :
    (assembled c req now searchId record fresh cutoff).map unattributed =
      (record.getD (PartRecord.empty req.part now)).joined req
        ((mergeDuplicates c fresh).map unattributed) cutoff searchId :=
  PartRecord.map_unattributed_joined _ _ _ _

variable {c} {fresh fresh' : List Sighting}

/-- **What is assembled holds the same offers** in whatever order they arrive. -/
theorem assembled_perm (h : fresh.Perm fresh') (hd : Distinguished c fresh) (cutoff : Instant) :
    ((assembled c req now searchId record fresh cutoff).map unattributed).Perm
      ((assembled c req now searchId record fresh' cutoff).map unattributed) := by
  rw [map_unattributed_assembled, map_unattributed_assembled]
  exact PartRecord.joined_perm _ _ _ (mergeDuplicates_perm h hd)

/-- Two assembled rows on a par are one row. -/
theorem eq_of_rankOf_eq_assembled (hnew : ∀ s ∈ fresh, s.isHistorical = false) (cutoff : Instant)
    {l : List Sighting} (hl : l = scoreAll req c.scoring reliability now
      ((assembled c req now searchId record fresh cutoff).map unattributed)) :
    ∀ s ∈ l, ∀ t ∈ l, rankOf c s = rankOf c t → s = t := by
  intro s hs t ht hrank
  have hnodup : (l.map fun s => (s.identity, s.isHistorical)).Nodup := by
    rw [hl, scoreAll, List.map_map, List.map_map]
    refine PartRecord.nodup_joined ?_ (merged_isHistorical hnew)
    rw [map_identity_mergeDuplicates]
    exact identities_nodup fresh
  -- scores are no part of it: a rank alone says which of these rows it is
  obtain ⟨hid, hhist⟩ := identity_eq_of_rankOf_eq hrank
  exact List.inj_on_of_nodup_map hnodup hs ht (Prod.ext hid hhist)

/-- **Two results agree row by row** but for the sources. -/
theorem map_unattributed_result (h : fresh.Perm fresh')
    (hnew : ∀ s ∈ fresh, s.isHistorical = false) (hd : Distinguished c fresh) :
    (conclude? c req reliability now searchId record fresh).map (List.map unattributed) =
      (conclude? c req reliability now searchId record fresh').map (List.map unattributed) := by
  rw [conclude?_eq, conclude?_eq, Option.map_map, Option.map_map]
  refine congrArg (Option.map · _) (funext fun cutoff => ?_)
  simp only [Function.comp_apply, map_unattributed_ranked, map_unattributed_scoreAll]
  refine ranked_eq_of_perm c ?_ (eq_of_rankOf_eq_assembled req reliability now searchId record
    hnew cutoff rfl)
  exact (assembled_perm req now searchId record h hd cutoff).map _

/-- Rows that agree but for the sources list the same sources. -/
theorem sameOffer_of_mem_result {found found' : List Sighting} (h : fresh.Perm fresh')
    (hnew : ∀ s ∈ fresh, s.isHistorical = false)
    (hfound : conclude? c req reliability now searchId record fresh = some found)
    (hfound' : conclude? c req reliability now searchId record fresh' = some found')
    {s t : Sighting} (hs : s ∈ found) (ht : t ∈ found') (hst : s.unattributed = t.unattributed) :
    s.SameOffer t := by
  have hnew' : ∀ s ∈ fresh', s.isHistorical = false := fun s hs => hnew s (h.mem_iff.mpr hs)
  have hid : s.unattributed.identity = t.unattributed.identity := congrArg identity hst
  have hhist : s.unattributed.isHistorical = t.unattributed.isHistorical :=
    congrArg Sighting.isHistorical hst
  rw [unattributed_identity, unattributed_identity] at hid
  rw [unattributed_isHistorical, unattributed_isHistorical] at hhist
  refine ⟨hst, ?_⟩
  -- who is listed with a row is known from its identity and from whether it is remembered
  rw [reportedBy_of_mem_result hfound hnew hs, reportedBy_of_mem_result hfound' hnew' ht,
    hid, hhist]
  split
  · exact List.Perm.refl []
  · exact eraseDups_perm (reportersOf_perm h t.identity)

end TwoSearches

/-! ## What is remembered of them -/

namespace VendorEntry

theorem updateIn?_unattributed (s : Sighting) (es : List VendorEntry) :
    updateIn? s.unattributed es = updateIn? s es := by
  induction es with
  | nil => rfl
  | cons e es ih =>
    rw [updateIn?, updateIn?, ih]
    rfl

end VendorEntry

theorem PartRecord.remember?_unattributed (r : Option PartRecord) (part : String) (s : Sighting)
    (now : Instant) (staleDays : UInt32) :
    remember? r part s.unattributed now staleDays = remember? r part s now staleDays := by
  have hentries (es : List VendorEntry) :
      VendorEntry.observe s.unattributed es = VendorEntry.observe s es := by
    rw [VendorEntry.observe, VendorEntry.observe, VendorEntry.updateIn?_unattributed]
    rfl
  rw [remember?, remember?, observed?_eq, observed?_eq]
  refine congrArg (Option.map · _) (funext fun cutoff => ?_)
  rw [withSighting, withSighting, hentries]
  rfl

namespace Store

variable {σ : Type} {store : Store σ}

/-- The sources of a row make no difference to a store that does not look at them. -/
theorem rememberAll_map_unattributed
    (hstore : ∀ state part s now, store.upsert state part s.unattributed now =
      store.upsert state part s now)
    (clock : Nat → Instant) (state : σ) (rows : List Sighting) :
    store.rememberAll clock state (rows.map unattributed) =
      store.rememberAll clock state rows := by
  induction rows generalizing state clock with
  | nil => rfl
  | cons s rows ih =>
    have hupsert : store.upsert state (PartNumber.normal s.unattributed.part) s.unattributed
        (clock 0) = store.upsert state (PartNumber.normal s.part) s (clock 0) := hstore _ _ _ _
    rw [List.map_cons, rememberAll, rememberAll, hupsert]
    split
    · rfl
    · exact ih _ _

/-- **A store that does not look at the sources** remembers rows that agree but for them alike. -/
theorem rememberFresh_congr
    (hstore : ∀ state part s now, store.upsert state part s.unattributed now =
      store.upsert state part s now)
    {found found' : List Sighting} (h : found.map unattributed = found'.map unattributed)
    (clock : Nat → Instant) (state : σ) :
    store.rememberFresh clock state found = store.rememberFresh clock state found' := by
  have hbare (l : List Sighting) : store.rememberFresh clock state l =
      store.rememberAll clock state ((l.map unattributed).filter fun s => !s.isHistorical) := by
    rw [rememberFresh, List.filter_map, rememberAll_map_unattributed hstore]
    rfl
  rw [hbare, hbare, h]

end Store

theorem Volatile.upsert_unattributed (v : Volatile) (part : String) (s : Sighting)
    (now : Instant) :
    Volatile.store.upsert v part s.unattributed now = Volatile.store.upsert v part s now := by
  unfold Volatile.store upsert?
  simp only [PartRecord.remember?_unattributed]

theorem Handles.upsert_unattributed {ι : Type} [DecidableEq ι] (staleDays : UInt32) (i : ι)
    (h : Handles ι) (part : String) (s : Sighting) (now : Instant) :
    (Handles.store staleDays i).upsert h part s.unattributed now =
      (Handles.store staleDays i).upsert h part s now := by
  unfold Handles.store Handles.upsert Tables.upsert
  simp only [PartRecord.remember?_unattributed]

/-! ## Main result -/

/-- Lists that agree under a map agree element by element. -/
theorem forall₂_of_map_eq {α β : Type} {f : α → β} {R : α → α → Prop} {l l' : List α}
    (h : l.map f = l'.map f) (hR : ∀ a ∈ l, ∀ b ∈ l', f a = f b → R a b) :
    List.Forall₂ R l l' := by
  induction l generalizing l' with
  | nil =>
    cases l' with
    | nil => exact List.Forall₂.nil
    | cons b l' => exact absurd h.symm (List.cons_ne_nil _ _)
  | cons a l ih =>
    cases l' with
    | nil => exact absurd h (List.cons_ne_nil _ _)
    | cons b l' =>
      obtain ⟨hab, hl⟩ := List.cons.inj h
      refine List.Forall₂.cons (hR a List.mem_cons_self b List.mem_cons_self hab) (ih hl ?_)
      intro x hx y hy
      exact hR x (List.mem_cons_of_mem a hx) y (List.mem_cons_of_mem b hy)

/-- **The order of arrival cannot influence a search.**  Whatever the record of the part is, for
two arrangements of the same fresh sightings, of which no two duplicates are on a par, either
neither search has a result, or both have one.  Then the rows agree one by one but for the order
of their sources, and remembering them leaves the same memory, be it kept or not. -/
theorem order_of_arrival (c : EngineConfig) (req : Requirement) (reliability : String → Float)
    (now : Instant) (searchId : SearchId) (record : Option PartRecord)
    {fresh fresh' : List Sighting} (h : fresh.Perm fresh')
    (hnew : ∀ s ∈ fresh, s.isHistorical = false) (hd : Distinguished c fresh) :
    (conclude? c req reliability now searchId record fresh = none ∧
      conclude? c req reliability now searchId record fresh' = none) ∨
    ∃ found found', conclude? c req reliability now searchId record fresh = some found ∧
      conclude? c req reliability now searchId record fresh' = some found' ∧
      List.Forall₂ SameOffer found found' ∧
      (∀ (clock : Nat → Instant) (v : Volatile), Volatile.store.rememberFresh clock v found =
        Volatile.store.rememberFresh clock v found') ∧
      (∀ (ι : Type) [DecidableEq ι] (staleDays : UInt32) (i : ι) (clock : Nat → Instant)
        (h : Handles ι), (Handles.store staleDays i).rememberFresh clock h found =
          (Handles.store staleDays i).rememberFresh clock h found') := by
  have hmap := map_unattributed_result req reliability now searchId record h hnew hd
  cases hfound : conclude? c req reliability now searchId record fresh with
  | none =>
    rw [hfound, Option.map_none] at hmap
    exact Or.inl ⟨rfl, Option.map_eq_none_iff.mp hmap.symm⟩
  | some found =>
    rw [hfound, Option.map_some] at hmap
    obtain ⟨found', hfound', heq⟩ := Option.map_eq_some_iff.mp hmap.symm
    refine Or.inr ⟨found, found', rfl, hfound', ?_, ?_, ?_⟩
    · exact forall₂_of_map_eq heq.symm fun s hs t ht hst =>
        sameOffer_of_mem_result req reliability now searchId record h hnew hfound hfound' hs ht hst
    · exact Store.rememberFresh_congr Volatile.upsert_unattributed heq.symm
    · exact fun ι _ staleDays i =>
        Store.rememberFresh_congr (Handles.upsert_unattributed staleDays i) heq.symm

/-- One offer as two sources report it, a second apart. -/
def twoReports : List Sighting := [
  { Sighting.bare "acme" "AB1" ⟨0, 0⟩ SearchId.zero with reportedBy := [.mouser] },
  { Sighting.bare "acme" "AB1" ⟨1, 0⟩ SearchId.zero with reportedBy := [.digiKey] }]

/-- Whichever of two sources reports first, the same is found. -/
theorem order_of_two_reports :
    twoReports.Perm twoReports.reverse ∧ (∀ s ∈ twoReports, s.isHistorical = false) ∧
    Distinguished {} twoReports ∧
    ∃ found found',
      conclude? {} ⟨"ab1", 1, [], none, "USD"⟩ (fun _ => 0.5) Instant.epoch SearchId.zero none
        twoReports = some found ∧
      conclude? {} ⟨"ab1", 1, [], none, "USD"⟩ (fun _ => 0.5) Instant.epoch SearchId.zero none
        twoReports.reverse = some found' ∧
      List.Forall₂ SameOffer found found' := by
  have hperm : twoReports.Perm twoReports.reverse := (List.reverse_perm _).symm
  have hnew : ∀ s ∈ twoReports, s.isHistorical = false := by decide
  have hd : Distinguished {} twoReports := by
    refine List.Pairwise.cons (fun t ht _ hpar => ?_) (List.pairwise_singleton _ _)
    obtain rfl := List.mem_singleton.mp ht
    exact absurd ((precedence_eq_iff _ _ _).mp hpar).2.2 (by decide)
  refine ⟨hperm, hnew, hd, ?_⟩
  rcases order_of_arrival {} ⟨"ab1", 1, [], none, "USD"⟩ (fun _ => 0.5) Instant.epoch
      SearchId.zero none hperm hnew hd with
    ⟨hnone, -⟩ | ⟨found, found', hfound, hfound', hrows, -, -⟩
  · exact absurd hnone (Option.some_ne_none _)
  · exact ⟨found, found', hfound, hfound', hrows⟩

end PartSourcing
