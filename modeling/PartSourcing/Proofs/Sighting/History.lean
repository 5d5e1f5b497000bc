import PartSourcing.Proofs.Memory.Entries
import PartSourcing.Proofs.Names
import PartSourcing.Sighting.History

/-!
# What memory adds to a result

Fresh sightings keep their order and everything but two annotations (`annotate_eq`).  Behind them
stand the entries of the vendors that did not answer and were seen recently enough, in the order
of their keys, each key once (`silent_ascending`); in a record whose keys are all different every
such entry stands there (`mem_silent`).
-/

namespace PartSourcing

open PartSourcing.Calendar

namespace PartRecord

/-! ## Annotations -/

/-- An annotation sets two fields and leaves all others alone. -/
theorem annotate_eq (r : PartRecord) (req : Requirement) (s : Sighting) :
    ∃ seen first, r.annotate req s = { s with timesSeen := seen, firstSeen := first } := by
  unfold annotate
  split
  · split
    · exact ⟨_, _, rfl⟩
    · exact ⟨s.timesSeen, s.firstSeen, rfl⟩
  · exact ⟨s.timesSeen, s.firstSeen, rfl⟩

@[simp] theorem annotate_identity (r : PartRecord) (req : Requirement) (s : Sighting) :
    (r.annotate req s).identity = s.identity := by
  obtain ⟨seen, first, h⟩ := r.annotate_eq req s
  rw [h]
  rfl

@[simp] theorem annotate_isHistorical (r : PartRecord) (req : Requirement) (s : Sighting) :
    (r.annotate req s).isHistorical = s.isHistorical := by
  obtain ⟨seen, first, h⟩ := r.annotate_eq req s
  rw [h]

@[simp] theorem annotate_reportedBy (r : PartRecord) (req : Requirement) (s : Sighting) :
    (r.annotate req s).reportedBy = s.reportedBy := by
  obtain ⟨seen, first, h⟩ := r.annotate_eq req s
  rw [h]

theorem mem_answering {req : Requirement} {fresh : List Sighting} {vendorKey : String} :
    vendorKey ∈ answering req fresh ↔
      ∃ s ∈ fresh, PartNumber.normal req.part = PartNumber.normal s.part ∧
        s.vendorKey = vendorKey := by
  simp only [answering, List.mem_map, List.mem_filter, Requirement.isPrimary,
    PartNumber.same_iff, and_assoc]

/-! ## Entries that stand for silent vendors -/

/-- From entries in the order of their keys the first of each run is taken, so the keys rise. -/
theorem firstOfRuns_ascending {es : List VendorEntry} {last : Option String}
    (hs : es.Pairwise fun a b => a.vendorKey ≤ b.vendorKey)
    (hlast : ∀ k ∈ last, ∀ e ∈ es, k ≤ e.vendorKey) :
    (firstOfRuns last es).Pairwise (fun a b => a.vendorKey < b.vendorKey) ∧
      (∀ e ∈ firstOfRuns last es, e ∈ es ∧ ∀ k ∈ last, k < e.vendorKey) := by
  -- the last key taken is a bound from below, and each key that is taken raises it
  induction es generalizing last with
  | nil => exact ⟨List.Pairwise.nil, fun e he => absurd he List.not_mem_nil⟩
  | cons e es ih =>
    obtain ⟨he, hs⟩ := List.pairwise_cons.mp hs
    unfold firstOfRuns
    split
    · obtain ⟨hasc, hmem⟩ := ih hs fun k hk x hx => hlast k hk x (List.mem_cons_of_mem _ hx)
      exact ⟨hasc, fun x hx => ⟨List.mem_cons_of_mem _ (hmem x hx).1, (hmem x hx).2⟩⟩
    · rename_i hne
      have hhead : ∀ k ∈ some e.vendorKey, ∀ x ∈ es, k ≤ x.vendorKey := by
        intro k hk x hx
        rw [← Option.mem_some.mp hk]
        exact he x hx
      obtain ⟨hasc, hmem⟩ := ih hs hhead
      have hlt : ∀ k ∈ last, k < e.vendorKey := fun k hk =>
        lt_of_le_of_ne (hlast k hk e List.mem_cons_self) fun heq =>
          hne (heq ▸ Option.mem_def.mp hk)
      refine ⟨List.Pairwise.cons (fun x hx => (hmem x hx).2 _ rfl) hasc, fun x hx => ?_⟩
      rcases List.mem_cons.mp hx with rfl | hx
      · exact ⟨List.mem_cons_self, hlt⟩
      · refine ⟨List.mem_cons_of_mem _ (hmem x hx).1, fun k hk => ?_⟩
        exact lt_trans (hlt k hk) ((hmem x hx).2 _ rfl)

/-- Where no key stands twice in a row nothing is left out. -/
theorem firstOfRuns_eq_self {es : List VendorEntry} {last : Option String}
    (hs : es.Pairwise fun a b => a.vendorKey ≠ b.vendorKey)
    (hlast : ∀ k ∈ last, ∀ e ∈ es, k ≠ e.vendorKey) : firstOfRuns last es = es := by
  induction es generalizing last with
  | nil => rfl
  | cons e es ih =>
    obtain ⟨he, hs⟩ := List.pairwise_cons.mp hs
    unfold firstOfRuns
    rw [if_neg, ih hs]
    · intro k hk x hx
      rw [← Option.mem_some.mp hk]
      exact he x hx
    · intro h
      exact hlast _ (Option.mem_def.mpr h) e List.mem_cons_self rfl

theorem recent_sorted (es : List VendorEntry) :
    (es.mergeSort VendorEntry.precedes).Pairwise fun a b => a.vendorKey ≤ b.vendorKey :=
  VendorEntry.precedes_goesBy.sorted es

/-- **Each silent vendor stands once**, in the order of the keys, whatever the record is. -/
theorem silent_ascending (r : PartRecord) (answering : List String) (cutoff : Instant) :
    (r.silent answering cutoff).Pairwise fun a b => a.vendorKey < b.vendorKey :=
  (firstOfRuns_ascending (recent_sorted _) fun _ h => absurd h (Option.not_mem_none _)).1

theorem of_mem_silent {r : PartRecord} {answering : List String} {cutoff : Instant}
    {e : VendorEntry} (h : e ∈ r.silent answering cutoff) :
    e ∈ r.entries ∧ e.vendorKey ∉ answering ∧ cutoff ≤ e.lastSeen := by
  have hmem := ((firstOfRuns_ascending (recent_sorted _)
    fun _ h => absurd h (Option.not_mem_none _)).2 e h).1
  rw [List.mem_mergeSort, List.mem_filter, Bool.and_eq_true, Bool.not_eq_true',
    decide_eq_true_eq, ← Bool.not_eq_true, List.contains_iff_mem] at hmem
  exact hmem

/-- **The silent vendors of a record** whose keys are all different are those that did not answer
and were seen recently enough. -/
theorem mem_silent {r : PartRecord} (hr : (r.entries.map (·.vendorKey)).Nodup)
    {answering : List String} {cutoff : Instant} {e : VendorEntry} :
    e ∈ r.silent answering cutoff ↔
      e ∈ r.entries ∧ e.vendorKey ∉ answering ∧ cutoff ≤ e.lastSeen := by
  refine ⟨of_mem_silent, fun ⟨hmem, hans, hcut⟩ => ?_⟩
  have hne : r.entries.Pairwise fun a b => a.vendorKey ≠ b.vendorKey := List.pairwise_map.mp hr
  unfold silent
  rw [firstOfRuns_eq_self]
  · rw [List.mem_mergeSort, List.mem_filter, Bool.and_eq_true, Bool.not_eq_true',
      decide_eq_true_eq, ← Bool.not_eq_true, List.contains_iff_mem]
    exact ⟨hmem, hans, hcut⟩
  · exact (List.mergeSort_perm _ _).symm.pairwise (hne.filter _) Ne.symm
  · exact fun _ h => absurd h (Option.not_mem_none _)

end PartRecord

end PartSourcing
