import Mathlib.Order.Defs.LinearOrder
import PartSourcing.Calendar.Instant

/-!
# The order of instants

Instants are ordered by their seconds and then by their nanoseconds, and this order is linear.

What was observed earlier is no younger, in whole seconds, as long as no leap second is involved
(`secondsSince_le`).  Leap seconds are counted by the time of day alone, and so one at the end of a
day comes out younger than the second after it.  **What was observed at or after a moment has no age
then** (`secondsSince_nonpos`), leap seconds included.
-/

namespace PartSourcing.Calendar.Instant

theorem le_iff (a b : Instant) :
    a ≤ b ↔ a.seconds < b.seconds ∨ (a.seconds = b.seconds ∧ a.nanos ≤ b.nanos) := Iff.rfl

theorem lt_iff (a b : Instant) :
    a < b ↔ a.seconds < b.seconds ∨ (a.seconds = b.seconds ∧ a.nanos < b.nanos) := Iff.rfl

instance : LinearOrder Instant where
  le_refl := Instant.le_refl
  le_trans _ _ _ := Instant.le_trans
  le_antisymm _ _ := Instant.le_antisymm
  le_total := Instant.le_total
  lt_iff_le_not_ge a b := by
    rw [Instant.not_le, lt_iff, le_iff]
    omega
  toDecidableLE := inferInstance

/-! ## Ages -/

/-- **A reading of a clock**: the nanoseconds run past one billion only in the last second of a
minute. -/
def IsReading (i : Instant) : Prop :=
  i.nanos < nanosPerSecond ∨ i.nanos < 2 * nanosPerSecond ∧ i.seconds % 60 = 59

variable {a b now : Instant}

/-- Without a leap second the difference is that of the numbers. -/
theorem leapBetween_eq_zero (ha : a.nanos < nanosPerSecond) (hb : b.nanos < nanosPerSecond) :
    leapBetween a b = 0 := by
  unfold leapBetween
  simp only [Nat.not_le_of_lt ha, Nat.not_le_of_lt hb, decide_false, Bool.and_false,
    Bool.false_eq_true, if_false]

/-- **What was observed earlier is no younger**, if no leap second is involved. -/
theorem secondsSince_le (hnow : now.nanos < nanosPerSecond) (ha : a.nanos < nanosPerSecond)
    (hb : b.nanos < nanosPerSecond) (hle : a ≤ b) : now.secondsSince b ≤ now.secondsSince a := by
  unfold secondsSince
  rw [leapBetween_eq_zero hnow ha, leapBetween_eq_zero hnow hb]
  rw [le_iff] at hle
  unfold nanosPerSecond at *
  refine Int.tdiv_le_tdiv (by decide) ?_
  omega

/-- The leap second of 2016 comes out younger than the second after it. -/
example : (⟨1483228799, 1500000000⟩ : Instant) ≤ ⟨1483228800, 0⟩ ∧
    secondsSince ⟨1483228801, 0⟩ ⟨1483228799, 1500000000⟩ = 0 ∧
    secondsSince ⟨1483228801, 0⟩ ⟨1483228800, 0⟩ = 1 := by decide

/-- **What was observed at or after a moment has no age then.** -/
theorem secondsSince_nonpos (hnow : now.IsReading) (ha : a.IsReading) (hle : now ≤ a) :
    now.secondsSince a ≤ 0 := by
  have hdifference : (now.seconds - a.seconds + leapBetween now a) * 1000000000 +
      ((now.nanos : Int) - a.nanos) < 1000000000 := by
    rw [le_iff] at hle
    unfold IsReading nanosPerSecond at hnow ha
    unfold leapBetween secondOfDay secondsPerDay nanosPerSecond
    -- a leap second is the last of a minute, so no other time of day is just after it
    split
    · rename_i hleap
      rw [Bool.and_eq_true, decide_eq_true_iff, decide_eq_true_iff] at hleap
      omega
    · split <;> omega
  have hzero : (0 : Int) = (999999999 : Int).tdiv 1000000000 := rfl
  rw [hzero]
  exact Int.tdiv_le_tdiv (by decide) (Int.lt_add_one_iff.mp hdifference)

end PartSourcing.Calendar.Instant
