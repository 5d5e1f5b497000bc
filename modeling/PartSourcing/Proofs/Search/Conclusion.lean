import PartSourcing.Proofs.Memory.Growth
import PartSourcing.Proofs.Sighting.Offers
import PartSourcing.Proofs.Sighting.Ranking
import PartSourcing.Search.Engine

/-!
# What a search makes of fresh sightings

Behind the sources a search is a pure function.  A part without a record is as one whose record
is empty, so **there is one shape of a result** (`conclude?_eq`): the merged fresh sightings with
their annotations, behind them one row for each silent vendor, all of it scored and ranked.

Scores and ranks leave alone what a sighting is about, so what a result holds can be read off the
list before it is ranked (`map_perm_assembled`).  Two rows of one identity there are a fresh one and
one from memory (`nodup_joined`), which is why ranking never leaves a choice.
-/

namespace PartSourcing

open PartSourcing.Calendar

/-! ## Scores -/

namespace Sighting

/-- Where a sighting comes from: its identity, whether it is remembered, and who reported it. -/
def origin (s : Sighting) : Identity × Bool × List Source :=
  (s.identity, s.isHistorical, s.reportedBy)

/-- A sighting as it is before it is scored. -/
def unscored (s : Sighting) : Sighting := { s with score := none }

theorem eq_of_unscored_eq {s t : Sighting} (h : t.unscored = s.unscored) :
    s = { t with score := s.score } := by
  cases s
  cases t
  simp only [unscored, mk.injEq] at h ⊢
  simp only [h, and_self]

end Sighting

/-! ## Fresh and remembered sightings together -/

namespace PartRecord

/-- Fresh sightings with their annotations, and behind them the rows of silent vendors. -/
def joined (r : PartRecord) (req : Requirement) (fresh : List Sighting) (cutoff : Instant)
    (searchId : SearchId) : List Sighting :=
  fresh.map (r.annotate req) ++
    (r.silent (answering req fresh) cutoff).map fun e => Sighting.ofEntry r.part e searchId

variable {r : PartRecord} {req : Requirement} {fresh : List Sighting} {cutoff : Instant}
  {searchId : SearchId}

theorem mem_joined {s : Sighting} : s ∈ r.joined req fresh cutoff searchId ↔
    (∃ t ∈ fresh, r.annotate req t = s) ∨
      ∃ e ∈ r.silent (answering req fresh) cutoff, Sighting.ofEntry r.part e searchId = s := by
  rw [joined, List.mem_append, List.mem_map, List.mem_map]

theorem map_identity_annotate :
    (fresh.map (r.annotate req)).map Sighting.identity = fresh.map Sighting.identity := by
  rw [List.map_map]
  exact List.map_congr_left fun s _ => r.annotate_identity req s

/-- The rows of silent vendors have different identities. -/
theorem nodup_identity_silent (answering : List String) : (((r.silent answering cutoff).map
    fun e => Sighting.ofEntry r.part e searchId).map Sighting.identity).Nodup := by
  rw [List.map_map]
  refine List.pairwise_map.mpr ((r.silent_ascending _ cutoff).imp fun {a b} hab he => ?_)
  have hkey : a.vendorKey = b.vendorKey := congrArg Identity.vendorKey he
  exact absurd hkey (ne_of_lt hab)

/-- **Of one identity there are a fresh row and a remembered one at most.** -/
theorem nodup_joined (hfresh : (fresh.map Sighting.identity).Nodup)
    (hnew : ∀ s ∈ fresh, s.isHistorical = false) :
    ((r.joined req fresh cutoff searchId).map fun s => (s.identity, s.isHistorical)).Nodup := by
  -- within either part the identities are different, which is more than is asked for
  have hpart {l : List Sighting} (hl : (l.map Sighting.identity).Nodup) :
      (l.map fun s => (s.identity, s.isHistorical)).Nodup := by
    refine List.Nodup.of_map Prod.fst ?_
    rw [List.map_map]
    exact hl
  rw [joined, List.map_append, List.nodup_append]
  refine ⟨hpart ?_, hpart (nodup_identity_silent _), ?_⟩
  · rw [map_identity_annotate]
    exact hfresh
  · rw [List.map_map, List.map_map]
    intro x hx y hy hxy
    obtain ⟨s, hs, rfl⟩ := List.mem_map.mp hx
    obtain ⟨e, -, rfl⟩ := List.mem_map.mp hy
    have hhist : s.isHistorical = true :=
      (r.annotate_isHistorical req s).symm.trans (congrArg Prod.snd hxy)
    exact absurd ((hnew s hs).symm.trans hhist) Bool.false_ne_true

/-- The remembered rows are those of silent vendors. -/
theorem exists_historical_joined (hnew : ∀ s ∈ fresh, s.isHistorical = false) (k : Identity) :
    (∃ s ∈ r.joined req fresh cutoff searchId, s.isHistorical = true ∧ s.identity = k) ↔
      ∃ e ∈ r.silent (answering req fresh) cutoff,
        k = ⟨e.vendorKey, PartNumber.normal r.part, none⟩ := by
  constructor
  · rintro ⟨s, hs, hhist, rfl⟩
    rcases mem_joined.mp hs with ⟨t, ht, rfl⟩ | ⟨e, he, rfl⟩
    · rw [annotate_isHistorical, hnew t ht] at hhist
      exact absurd hhist Bool.false_ne_true
    · exact ⟨e, he, rfl⟩
  · rintro ⟨e, he, rfl⟩
    exact ⟨_, mem_joined.mpr (Or.inr ⟨e, he, rfl⟩), rfl, rfl⟩

/-- The other rows are the fresh sightings. -/
theorem exists_fresh_joined (hnew : ∀ s ∈ fresh, s.isHistorical = false)
    (k : Identity) (sources : List Source) :
    (∃ s ∈ r.joined req fresh cutoff searchId,
      s.isHistorical = false ∧ s.identity = k ∧ s.reportedBy = sources) ↔
      ∃ s ∈ fresh, s.identity = k ∧ s.reportedBy = sources := by
  constructor
  · rintro ⟨s, hs, hhist, hid, hrep⟩
    rcases mem_joined.mp hs with ⟨t, ht, rfl⟩ | ⟨e, he, rfl⟩
    · exact ⟨t, ht, (r.annotate_identity req t).symm.trans hid,
        (r.annotate_reportedBy req t).symm.trans hrep⟩
    · exact absurd hhist Bool.true_eq_false.mp
  · rintro ⟨s, hs, hid, hrep⟩
    exact ⟨r.annotate req s, mem_joined.mpr (Or.inl ⟨s, hs, rfl⟩),
      (r.annotate_isHistorical req s).trans (hnew s hs),
      (r.annotate_identity req s).trans hid, (r.annotate_reportedBy req s).trans hrep⟩

/-- The date before which a vendor is not brought back.  Without a record none is needed, and any
would do. -/
def lookback? (record : Option PartRecord) (now : Instant) (days : UInt32) : Option Instant :=
  record.elim (some now) fun _ => now.minusDays? days.toNat

theorem annotate_empty (part : String) (now : Instant) (s : Sighting) :
    (empty part now).annotate req s = s := by
  unfold annotate
  split <;> rfl

theorem silent_empty (part : String) (now : Instant) (answering : List String) :
    (empty part now).silent answering cutoff = [] := by
  refine List.eq_nil_iff_forall_not_mem.mpr fun e he => ?_
  exact List.not_mem_nil (of_mem_silent he).1

end PartRecord

/-- **Without a record a part is as one with an empty record.** -/
theorem Sighting.withHistory?_eq (fresh : List Sighting) (req : Requirement)
    (record : Option PartRecord) (lookbackDays : UInt32) (now : Instant) (searchId : SearchId) :
    withHistory? fresh req record lookbackDays now searchId =
      (PartRecord.lookback? record now lookbackDays).map fun cutoff =>
        (record.getD (PartRecord.empty req.part now)).joined req fresh cutoff searchId := by
  cases record with
  | some r => rfl
  | none =>
    have hnote : fresh.map ((PartRecord.empty req.part now).annotate req) = fresh :=
      (List.map_congr_left fun s _ => PartRecord.annotate_empty _ _ s).trans (List.map_id fresh)
    simp only [withHistory?, PartRecord.lookback?, Option.elim_none, Option.map_some,
      Option.getD_none, PartRecord.joined, hnote, PartRecord.silent_empty, List.map_nil,
      List.append_nil]

/-! ## Results -/

/-- What can be said in terms of one list can be said in terms of another that agrees with it. -/
theorem exists_iff_of_map_perm {α β : Type} {f : α → β} {l l' : List α}
    (h : (l.map f).Perm (l'.map f)) (P : β → Prop) :
    (∃ a ∈ l, P (f a)) ↔ ∃ a ∈ l', P (f a) := by
  have hmem (m : List α) : (∃ b ∈ m.map f, P b) ↔ ∃ a ∈ m, P (f a) := by
    simp
  rw [← hmem l, ← hmem l']
  exact exists_congr fun b => and_congr_left fun _ => h.mem_iff

section Result

variable (c : EngineConfig) (req : Requirement) (reliability : String → Float) (now : Instant)
  (searchId : SearchId) (record : Option PartRecord) (fresh : List Sighting)

/-- What a search has before it scores and ranks. -/
def assembled (cutoff : Instant) : List Sighting :=
  (record.getD (PartRecord.empty req.part now)).joined req (Sighting.mergeDuplicates c fresh)
    cutoff searchId

/-- **The shape of a result.** -/
theorem conclude?_eq : conclude? c req reliability now searchId record fresh =
    (PartRecord.lookback? record now c.lookbackDays).map fun cutoff =>
      Sighting.ranked c (Sighting.scoreAll req c.scoring reliability now
        (assembled c req now searchId record fresh cutoff)) := by
  rw [conclude?, Sighting.withHistory?_eq, Option.map_map]
  rfl

/-- Where the calendar reaches back far enough there is a result. -/
theorem conclude?_isSome {cutoff : Instant}
    (h : now.minusDays? c.lookbackDays.toNat = some cutoff) :
    (conclude? c req reliability now searchId record fresh).isSome = true := by
  rw [conclude?_eq, Option.isSome_map]
  cases record with
  | none => rfl
  | some r => rw [PartRecord.lookback?, Option.elim_some, h, Option.isSome_some]

variable {c req reliability now searchId record fresh}

/-- **What scores leave alone** is in a result as it was before. -/
theorem map_perm_assembled {α : Type} {found : List Sighting}
    (h : conclude? c req reliability now searchId record fresh = some found) (f : Sighting → α)
    (hf : ∀ s reliability, f (s.scored req c.scoring reliability now) = f s) :
    ∃ cutoff, PartRecord.lookback? record now c.lookbackDays = some cutoff ∧
      (found.map f).Perm ((assembled c req now searchId record fresh cutoff).map f) := by
  rw [conclude?_eq] at h
  obtain ⟨cutoff, hcut, rfl⟩ := Option.map_eq_some_iff.mp h
  refine ⟨cutoff, hcut, ((Sighting.ranked_perm c _).map f).trans ?_⟩
  rw [Sighting.scoreAll, List.map_map]
  exact List.Perm.of_eq (List.map_congr_left fun s _ => hf s _)

/-- Merging makes fresh sightings of fresh ones. -/
theorem merged_isHistorical (hnew : ∀ s ∈ fresh, s.isHistorical = false) :
    ∀ m ∈ Sighting.mergeDuplicates c fresh, m.isHistorical = false := by
  intro m hm
  obtain ⟨-, -, s, hs, hhist⟩ := Sighting.of_mem_mergeDuplicates c hm
  exact hhist.trans (hnew s hs)

/-- **Who is listed with a row of a result**: those who reported its identity, and nobody if it
is remembered. -/
theorem reportedBy_of_mem_result {found : List Sighting}
    (h : conclude? c req reliability now searchId record fresh = some found)
    (hnew : ∀ s ∈ fresh, s.isHistorical = false) {s : Sighting} (hs : s ∈ found) :
    s.reportedBy = if s.isHistorical = true then []
      else (Sighting.reportersOf fresh s.identity).eraseDups := by
  obtain ⟨cutoff, -, hperm⟩ := map_perm_assembled h Sighting.origin fun _ _ => rfl
  obtain ⟨t, ht, horigin⟩ := List.mem_map.mp (hperm.mem_iff.mp (List.mem_map_of_mem hs))
  obtain ⟨hid, hhist, hrep⟩ : t.identity = s.identity ∧ t.isHistorical = s.isHistorical ∧
      t.reportedBy = s.reportedBy := by
    simpa only [Sighting.origin, Prod.mk.injEq] using horigin
  rw [← hid, ← hhist, ← hrep]
  rcases PartRecord.mem_joined.mp ht with ⟨m, hm, rfl⟩ | ⟨e, -, rfl⟩
  · rw [PartRecord.annotate_isHistorical, merged_isHistorical hnew m hm, if_neg Bool.false_ne_true,
      PartRecord.annotate_reportedBy, PartRecord.annotate_identity]
    exact (Sighting.of_mem_mergeDuplicates c hm).2.1
  · rfl

end Result

end PartSourcing
