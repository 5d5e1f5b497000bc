import PartSourcing.Proofs.Calendar.Order
import PartSourcing.Proofs.Calendar.Stamp

/-!
# How far the calendar reaches back

Going back by days fails only where it leaves the calendar.  An instant has so many days of the
calendar before it (`reach`), and **going back fails for more days than that and for no others**
(`minusDays?_eq_none_iff`).

In the years 1970 to 9999 the reach is some hundred million days (`Modern.reach_bounds`), which is
far more than anybody looks back, and far less than a number of thirty-two bits can say.
-/

namespace PartSourcing.Calendar.Instant

/-- **How many days the calendar reaches back.** -/
def reach (i : Instant) : Nat := ((i.settled.seconds - firstSecond) / secondsPerDay).toNat

/-- An instant that lies within the calendar, with a leap second counted as what follows it. -/
def InCalendar (i : Instant) : Prop :=
  firstSecond ≤ i.settled.seconds ∧ i.settled.seconds ≤ lastSecond

/-- **Going back leaves the calendar just beyond its reach.** -/
theorem minusDays?_eq_none_iff {i : Instant} (hi : i.InCalendar) (days : Nat) :
    i.minusDays? days = none ↔ i.reach < days := by
  obtain ⟨hfirst, hlast⟩ := hi
  have hday : (0 : Int) < secondsPerDay := by decide
  -- the reach is the greatest number of whole days within what lies behind
  have hreach : (i.reach : Int) = (i.settled.seconds - firstSecond) / secondsPerDay :=
    Int.toNat_of_nonneg (Int.ediv_nonneg (by omega) (Int.le_of_lt hday))
  have hwithin : firstSecond ≤ i.settled.seconds - days * secondsPerDay ↔ days ≤ i.reach := by
    rw [← Int.ofNat_le, hreach, Int.le_ediv_iff_mul_le hday]
    omega
  have hback : i.settled.seconds - days * secondsPerDay ≤ lastSecond := by
    have := Int.mul_nonneg (Int.natCast_nonneg days) (Int.le_of_lt hday)
    omega
  unfold minusDays?
  by_cases hzero : days = 0
  · simp [hzero]
  · rw [if_neg hzero]
    simp only [Bool.and_eq_true, decide_eq_true_eq, hback, and_true, hwithin]
    split <;> simp <;> omega

/-! ## The years 1970 to 9999 -/

/-- **An instant of the years 1970 to 9999.** -/
structure Modern (i : Instant) : Prop where
  ordinary : i.Ordinary
  first : epoch ≤ i

namespace Modern

variable {i : Instant}

theorem settled_bounds (h : i.Modern) :
    0 ≤ i.settled.seconds ∧ i.settled.seconds ≤ 2932897 * secondsPerDay := by
  have hlast := h.ordinary.last
  have hend : (Civil.mk 9999 12 31).toDays = 2932896 := by decide
  rw [hend] at hlast
  have hfirst : 0 ≤ i.seconds := by
    rcases (le_iff _ _).mp h.first with hlt | ⟨heq, -⟩
    · exact Int.le_of_lt hlt
    · exact Int.le_of_eq heq
  -- a leap second settles in the second after it, at most the first one of the year 10000
  unfold settled
  unfold secondsPerDay at hlast ⊢
  split
  · dsimp only
    omega
  · omega

theorem inCalendar (h : i.Modern) : i.InCalendar := by
  obtain ⟨h0, h1⟩ := h.settled_bounds
  have hfirst : firstSecond ≤ 0 := by decide
  have hlast : 2932897 * secondsPerDay ≤ lastSecond := by decide
  exact ⟨Int.le_trans hfirst h0, Int.le_trans h1 hlast⟩

/-- **The reach of the years 1970 to 9999.** -/
theorem reach_bounds (h : i.Modern) : 96465292 ≤ i.reach ∧ i.reach ≤ 99398189 := by
  obtain ⟨h0, h1⟩ := h.settled_bounds
  have hfirst : firstSecond = -(96465292 * 86400) := by decide
  unfold reach
  rw [hfirst]
  unfold secondsPerDay at h1 ⊢
  omega

end Modern

end PartSourcing.Calendar.Instant
