import PartSourcing.Score.Scoring

/-!
# What an accepted scoring guarantees

Validation stops at the first thing wrong, so **a scoring is accepted just if nothing is**
(`Scoring.validate_eq_ok_iff`): the weights are usable and not negative, and their sum is near one;
the half-life is above zero and the tolerance not below; and every constant that can become a factor
lies between zero and one.  This holds of doubles and of exact numbers alike.
-/

namespace PartSourcing

open ScoreNumber

variable {α : Type} [Add α] [Sub α] [Div α] [LE α] [LT α] [DecidableLE α] [DecidableLT α]
  [ScoreNumber α]

/-- **Weights are accepted** just if each is usable and not negative, and their sum is near one. -/
theorem Weights.validate_eq_ok_iff {w : Weights α} : w.validate = .ok () ↔
    (∀ x ∈ w.toList, isFinite x = true ∧ ¬x < (zero : α)) ∧ isNear w.sum one = true := by
  have hany : (w.toList.any fun x => !isFinite x || x < (zero : α)) = false ↔
      ∀ x ∈ w.toList, isFinite x = true ∧ ¬x < (zero : α) := by
    simp only [List.any_eq_false, Bool.or_eq_true, Bool.not_eq_true', decide_eq_true_eq, not_or,
      Bool.not_eq_false]
  unfold Weights.validate
  rw [← hany]
  cases w.toList.any fun x => !isFinite x || x < (zero : α) <;> cases isNear w.sum one <;> simp

/-- **What is right about an accepted scoring.** -/
structure Scoring.Accepted (s : Scoring α) : Prop where
  weights : s.weights.validate = .ok ()
  halfLife : isFinite s.halfLifeDays = true ∧ ¬s.halfLifeDays ≤ (zero : α)
  tolerance : isFinite s.bands.tolerance = true ∧ ¬s.bands.tolerance < (zero : α)
  unit : ∀ f ∈ s.unitFields, isUnit f.2 = true

/-- **A scoring is accepted** just if nothing is wrong with it. -/
theorem Scoring.validate_eq_ok_iff {s : Scoring α} : s.validate = .ok () ↔ s.Accepted := by
  have hhalf : (!isFinite s.halfLifeDays || s.halfLifeDays ≤ (zero : α)) = false ↔
      isFinite s.halfLifeDays = true ∧ ¬s.halfLifeDays ≤ (zero : α) := by
    rw [Bool.or_eq_false_iff, Bool.not_eq_false', decide_eq_false_iff_not]
  have htolerance : (!isFinite s.bands.tolerance || s.bands.tolerance < (zero : α)) = false ↔
      isFinite s.bands.tolerance = true ∧ ¬s.bands.tolerance < (zero : α) := by
    rw [Bool.or_eq_false_iff, Bool.not_eq_false', decide_eq_false_iff_not]
  have hparts : s.Accepted ↔ s.weights.validate = .ok () ∧
      (!isFinite s.halfLifeDays || s.halfLifeDays ≤ (zero : α)) = false ∧
      (!isFinite s.bands.tolerance || s.bands.tolerance < (zero : α)) = false ∧
      ∀ f ∈ s.unitFields, isUnit f.2 = true := by
    rw [hhalf, htolerance]
    exact ⟨fun h => ⟨h.weights, h.halfLife, h.tolerance, h.unit⟩,
      fun h => ⟨h.1, h.2.1, h.2.2.1, h.2.2.2⟩⟩
  have hfault (f : Fault α) : (.error f : Except (Fault α) Unit) ≠ .ok () := by simp
  rw [hparts]
  unfold Scoring.validate
  cases s.weights.validate with
  | error f => exact iff_of_false (hfault f) fun h => hfault f h.1
  | ok _ =>
    cases !isFinite s.halfLifeDays || s.halfLifeDays ≤ (zero : α) with
    | true => exact iff_of_false (hfault _) fun h => Bool.false_ne_true h.2.1.symm
    | false =>
      cases !isFinite s.bands.tolerance || s.bands.tolerance < (zero : α) with
      | true => exact iff_of_false (hfault _) fun h => Bool.false_ne_true h.2.2.1.symm
      | false =>
        -- the first field that is not within the interval is the fault, if there is one
        generalize hfind : s.unitFields.find? _ = found
        cases found with
        | some f =>
          refine iff_of_false (hfault _) fun h => ?_
          have hwrong := List.find?_some hfind
          have hright := h.2.2.2 f (List.mem_of_find?_eq_some hfind)
          exact absurd hwrong (by simp [hright])
        | none =>
          refine iff_of_true rfl ⟨rfl, rfl, rfl, fun f hf => ?_⟩
          simpa using List.find?_eq_none.mp hfind f hf

end PartSourcing
