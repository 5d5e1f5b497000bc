import Mathlib.Order.Bounds.Basic
import PartSourcing.Proofs.Memory.Growth
import PartSourcing.Proofs.Runs

/-!
# What the counters of a record count

Both counters of a record, that of its searches and that of each vendor, compare a sighting with
the search counted last and with no other.  So **they count runs**: the record the runs of all its
sightings (`Grows.searchCount_eq`), a vendor the runs of those of its sightings that were later
than all before them (`Tallied`).

Searches that upsert one after the other are counted once each.  Two that overlap need not be: a
search that goes on after another one has come in between is counted anew, and that is the only
way in which the counters go wrong.
-/

namespace PartSourcing

open PartSourcing.Calendar PartSourcing.Runs

/-! ## Advancing sightings -/

namespace Sighting

/-- **The sightings later than all before them**, the first one included.  `before` are those
that came earlier still. -/
def advancing (before : List Sighting) : List Sighting → List Sighting
  | [] => []
  | s :: l =>
    if ∀ t ∈ before, t.observedAt < s.observedAt then s :: advancing (before ++ [s]) l
    else advancing (before ++ [s]) l

theorem advancing_sublist (before l : List Sighting) : (advancing before l).Sublist l := by
  induction l generalizing before with
  | nil => exact List.Sublist.slnil
  | cons s l ih =>
    unfold advancing
    split
    · exact (ih _).cons_cons s
    · exact (ih _).cons s

theorem advancing_concat (before l : List Sighting) (s : Sighting) :
    advancing before (l ++ [s]) = advancing before l ++
      if ∀ t ∈ before ++ l, t.observedAt < s.observedAt then [s] else [] := by
  induction l generalizing before with
  | nil =>
    rw [List.append_nil]
    rfl
  | cons t l ih =>
    have hassoc : before ++ [t] ++ l = before ++ t :: l := by simp
    rw [List.cons_append, advancing, advancing, ih, hassoc]
    split <;> rfl

/-- The dates of some sightings. -/
def dates (l : List Sighting) : Set Instant := {t | ∃ s ∈ l, s.observedAt = t}

theorem isGreatest_dates_iff {l : List Sighting} {t : Instant} :
    IsGreatest (dates l) t ↔
      t ∈ l.map (·.observedAt) ∧ ∀ u ∈ l.map (·.observedAt), u ≤ t := by
  simp only [IsGreatest, upperBounds, dates, Set.mem_ofPred_eq, List.mem_map]

theorem dates_concat (l : List Sighting) (s : Sighting) :
    dates (l ++ [s]) = insert s.observedAt (dates l) := by
  ext t
  constructor
  · rintro ⟨u, hu, rfl⟩
    rcases List.mem_append.mp hu with hu | hu
    · exact Or.inr ⟨u, hu, rfl⟩
    · rw [List.mem_singleton.mp hu]
      exact Or.inl rfl
  · rintro (rfl | ⟨u, hu, rfl⟩)
    · exact ⟨s, List.mem_concat_self, rfl⟩
    · exact ⟨u, List.mem_append_left _ hu, rfl⟩

/-- A sighting later than the last date is later than all before it. -/
theorem advancing_concat_of_lt {l : List Sighting} {last : Instant}
    (h : IsGreatest (dates l) last) {s : Sighting} (hlt : last < s.observedAt) :
    advancing [] (l ++ [s]) = advancing [] l ++ [s] := by
  have hlater : ∀ t ∈ [] ++ l, t.observedAt < s.observedAt := by
    intro t ht
    exact lt_of_le_of_lt (h.2 ⟨t, ht, rfl⟩) hlt
  rw [advancing_concat, if_pos hlater]

/-- Any other is no later than the sighting that the last date is from. -/
theorem advancing_concat_of_le {l : List Sighting} {last : Instant}
    (h : IsGreatest (dates l) last) {s : Sighting} (hle : s.observedAt ≤ last) :
    advancing [] (l ++ [s]) = advancing [] l := by
  obtain ⟨t, ht, hlast⟩ := h.1
  have hnot : ¬∀ t ∈ [] ++ l, t.observedAt < s.observedAt := by
    intro hall
    exact absurd (hall t ht) (not_lt.mpr (hlast ▸ hle))
  rw [advancing_concat, if_neg hnot, List.append_nil]

end Sighting

/-! ## One more sighting on a counter -/

/-- A counter that holds the runs of some searches and knows the last one holds the runs of one
search more after counting it, unless it was the last. -/
theorem count_concat {n : UInt32} {ids : List SearchId} {counted : Option SearchId}
    (hn : n.toNat = min Saturating.max32 (runs ids).length) (hlast : counted = ids.getLast?)
    (id : SearchId) :
    (if counted = some id then n else Saturating.succ n).toNat =
      min Saturating.max32 (runs (ids ++ [id])).length := by
  rw [runs_concat, ← hlast]
  by_cases h : counted = some id
  · rw [if_pos h, if_pos h, hn]
  · rw [if_neg h, if_neg h, Saturating.toNat_succ, hn, List.length_append, List.length_singleton]
    omega

namespace VendorEntry

/-- **What the entry of a vendor has counted** after some sightings of it. -/
structure Tallied (l : List Sighting) (e : VendorEntry) : Prop where
  /-- No sighting is later than the last date. -/
  latest : ∀ t ∈ l, t.observedAt ≤ e.lastSeen
  /-- The last date is that of a sighting. -/
  attained : ∃ t ∈ l, t.observedAt = e.lastSeen
  timesSeen : e.timesSeen.toNat =
    min Saturating.max32 (runs ((Sighting.advancing [] l).map (·.searchId))).length
  searchId : e.searchId = ((Sighting.advancing [] l).map (·.searchId)).getLast?

theorem Tallied.first (s : Sighting) : Tallied [s] (ofSighting s) where
  latest t ht := by rw [List.mem_singleton.mp ht]; exact le_rfl
  attained := ⟨s, List.mem_singleton_self s, rfl⟩
  timesSeen := rfl
  searchId := rfl

/-- The last date of an entry is the greatest of its sightings. -/
theorem Tallied.last {l : List Sighting} {e : VendorEntry} (h : Tallied l e) :
    IsGreatest (Sighting.dates l) e.lastSeen := by
  refine ⟨h.attained, ?_⟩
  rintro t ⟨s, hs, rfl⟩
  exact h.latest s hs

theorem Tallied.update {l : List Sighting} {e : VendorEntry} (h : Tallied l e) (s : Sighting) :
    Tallied (l ++ [s]) (e.update s) := by
  rcases lt_or_ge e.lastSeen s.observedAt with hlt | hle
  · have hadv := Sighting.advancing_concat_of_lt h.last hlt
    rw [update_of_lt e s hlt]
    refine ⟨fun t ht => ?_, ⟨s, by simp, rfl⟩, ?_, ?_⟩
    · rw [advance_lastSeen]
      rcases List.mem_append.mp ht with ht | ht
      · exact le_of_lt (lt_of_le_of_lt (h.latest t ht) hlt)
      · rw [List.mem_singleton.mp ht]
    · rw [hadv, List.map_append, List.map_singleton, ← count_concat h.timesSeen h.searchId]
      exact congrArg _ (((e.reachBack s).countSearch_timesSeen s).trans (by simp))
    · rw [hadv, advance_searchId, List.map_append, List.map_singleton, List.getLast?_concat]
  · have hadv := Sighting.advancing_concat_of_le h.last hle
    rw [update_of_le e s hle]
    refine ⟨fun t ht => ?_, ?_, ?_, ?_⟩
    · rw [reachBack_lastSeen]
      rcases List.mem_append.mp ht with ht | ht
      · exact h.latest t ht
      · rwa [List.mem_singleton.mp ht]
    · obtain ⟨t, ht, hlast⟩ := h.attained
      exact ⟨t, List.mem_append_left _ ht, by rw [hlast, reachBack_lastSeen]⟩
    · rw [hadv, reachBack_timesSeen, h.timesSeen]
    · rw [hadv, reachBack_searchId, h.searchId]

/-- **The entry that sightings leave has counted them.** -/
theorem tallied_of_after? {l : List Sighting} {e : VendorEntry} (h : after? l = some e) :
    Tallied l e :=
  after?_induct h Tallied.first fun _ _ s hl => hl.update s

end VendorEntry

/-- Sightings of one vendor, each later than the one before, by the searches of the given
numbers. -/
def twoSearches (ids : List Nat) : List Sighting :=
  ids.mapIdx fun i id => .bare "acme" "AB1" ⟨i, 0⟩ ⟨BitVec.ofNat 128 id⟩

namespace PartRecord.Grows

variable {part : String} {l : List Sighting} {r : PartRecord}

/-- **The record counts the runs of the searches** that have written to it. -/
theorem searchCount_eq (h : Grows part l (some r)) :
    r.searchCount.toNat = min Saturating.max32 (runs (l.map (·.searchId))).length := by
  refine (h.induct (P := fun l r =>
    r.searchCount.toNat = min Saturating.max32 (runs (l.map (·.searchId))).length ∧
      r.searchId = (l.map (·.searchId)).getLast?) (fun _ => ⟨rfl, rfl⟩) ?_ Instant.epoch).1
  rintro l r s now cutoff ⟨hcount, hlast⟩
  rw [List.map_append, List.map_singleton, withSighting_searchCount, withSighting_searchId]
  exact ⟨count_concat hcount hlast s.searchId, List.getLast?_concat.symm⟩

theorem searchCount_eq_length (h : Grows part l (some r))
    (hroom : r.searchCount.toNat < Saturating.max32) :
    r.searchCount.toNat = (runs (l.map (·.searchId))).length := by
  have hcount := h.searchCount_eq
  omega

/-- **No search is left uncounted** while there is room in the counter. -/
theorem card_le_searchCount (h : Grows part l (some r))
    (hroom : r.searchCount.toNat < Saturating.max32) :
    (l.map (·.searchId)).toFinset.card ≤ r.searchCount.toNat := by
  rw [h.searchCount_eq_length hroom]
  exact card_toFinset_le_length_runs _

/-- The entry of a vendor has counted the sightings of that vendor. -/
theorem tallied (h : Grows part l (some r)) {e : VendorEntry} (he : e ∈ r.entries) :
    VendorEntry.Tallied (l.filter fun s => s.vendorKey = e.vendorKey) e :=
  VendorEntry.tallied_of_after? (h.after?_eq_of_mem he)

/-- Where no search goes on after another has come in between, no vendor has been counted more
often than there are searches that saw it. -/
theorem timesSeen_le (h : Grows part l (some r)) (hu : Uninterrupted (l.map (·.searchId)))
    {e : VendorEntry} (he : e ∈ r.entries) :
    e.timesSeen.toNat ≤
      ((l.filter fun s => s.vendorKey = e.vendorKey).map (·.searchId)).toFinset.card := by
  have hsub : ((Sighting.advancing [] (l.filter fun s => s.vendorKey = e.vendorKey)).map
      (·.searchId)).Sublist ((l.filter fun s => s.vendorKey = e.vendorKey).map (·.searchId)) :=
    (Sighting.advancing_sublist [] _).map _
  have hu' := hu.sublist (hsub.trans (List.filter_sublist.map _))
  calc e.timesSeen.toNat
    _ ≤ (runs ((Sighting.advancing [] (l.filter fun s => s.vendorKey = e.vendorKey)).map
          (·.searchId))).length := by
        rw [(h.tallied he).timesSeen]
        exact Nat.min_le_right _ _
    _ = ((Sighting.advancing [] (l.filter fun s => s.vendorKey = e.vendorKey)).map
          (·.searchId)).toFinset.card := (length_runs_eq_card_iff _).mpr hu'
    _ ≤ ((l.filter fun s => s.vendorKey = e.vendorKey).map (·.searchId)).toFinset.card :=
        Finset.card_le_card fun id hid =>
          List.mem_toFinset.mpr (hsub.subset (List.mem_toFinset.mp hid))

/-- **A record counts each search once just where no search goes on after another** has come in
between.  Then no vendor is counted too often either. -/
theorem counts_searches_iff (h : Grows part l (some r))
    (hroom : r.searchCount.toNat < Saturating.max32) :
    (r.searchCount.toNat = (l.map (·.searchId)).toFinset.card ∧
      ∀ e ∈ r.entries, e.timesSeen.toNat ≤
        ((l.filter fun s => s.vendorKey = e.vendorKey).map (·.searchId)).toFinset.card) ↔
      Uninterrupted (l.map (·.searchId)) := by
  rw [h.searchCount_eq_length hroom, length_runs_eq_card_iff]
  exact ⟨fun hu => hu.1, fun hu => ⟨hu, fun e he => h.timesSeen_le hu he⟩⟩

/-- Two searches that each remember two sightings of a vendor, one after the other. -/
theorem counts_two_searches : ∃ r, Grows "AB1" (twoSearches [1, 1, 2, 2]) (some r) ∧
    r.searchCount.toNat < Saturating.max32 ∧
    ((r.searchCount.toNat = ((twoSearches [1, 1, 2, 2]).map (·.searchId)).toFinset.card ∧
      ∀ e ∈ r.entries, e.timesSeen.toNat ≤ (((twoSearches [1, 1, 2, 2]).filter fun s =>
        s.vendorKey = e.vendorKey).map (·.searchId)).toFinset.card) ↔
      Uninterrupted ((twoSearches [1, 1, 2, 2]).map (·.searchId))) := by
  obtain ⟨r, hr⟩ := exists_of_ne_nil "AB1" (l := twoSearches [1, 1, 2, 2]) (List.cons_ne_nil _ _)
  have hroom : r.searchCount.toNat < Saturating.max32 := by
    rw [hr.searchCount_eq]
    decide
  exact ⟨r, hr, hroom, hr.counts_searches_iff hroom⟩

/-- **A search that goes on after another is counted anew**, both by the record and by the
vendor: of two searches three are counted. -/
theorem counts_interrupted_search_twice : ∃ r, Grows "AB1" (twoSearches [1, 2, 1]) (some r) ∧
    ((twoSearches [1, 2, 1]).map (·.searchId)).toFinset.card = 2 ∧
    r.searchCount.toNat = 3 ∧ ∃ e ∈ r.entries, e.timesSeen.toNat = 3 := by
  obtain ⟨r, hr⟩ := exists_of_ne_nil "AB1" (l := twoSearches [1, 2, 1]) (List.cons_ne_nil _ _)
  have hcount : r.searchCount.toNat = 3 := by
    rw [hr.searchCount_eq]
    decide
  obtain ⟨e, he, hseen⟩ : ∃ e, VendorEntry.after? (twoSearches [1, 2, 1]) = some e ∧
      e.timesSeen.toNat = 3 := ⟨_, rfl, rfl⟩
  have hentry : VendorEntry.entryOf r.entries "acme" = some e := by
    rw [hr.entryOf_eq, ← he]
    rfl
  exact ⟨r, hr, rfl, hcount, e, (hr.ascending.entryOf_eq_some_iff.mp hentry).1, hseen⟩

end PartRecord.Grows

end PartSourcing
