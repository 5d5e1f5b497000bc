import PartSourcing.Calendar.Civil

/-!
# Days and dates

A day has a date (`Civil.ofDays_month`, `Civil.ofDays_day`), and **the date leads back to the day**
(`Civil.toDays_ofDays`).

Within the 400 years of an era a year is found by a division that allows for the leap days.  That
it finds the right one is a fact about two days of every year, the first and the last, since what
is divided never falls from one day to the next; those days are looked at one by one
(`yearStarts`).  The rest of a date is the same in every year that begins in March.
-/

namespace PartSourcing.Calendar.Civil

/-! ## Years of an era -/

/-- The first day of a year within its era. -/
def yearStart (year : Int) : Int := 365 * year + year / 4 - year / 100 + year / 400

theorem yearStart_mono {a b : Int} (h : a ≤ b) : yearStart a ≤ yearStart b := by
  unfold yearStart
  omega

/-- What is divided to find the year of a day within an era: its number without leap days. -/
def commonDays (dayOfEra : Int) : Int :=
  dayOfEra - dayOfEra / 1460 + dayOfEra / 36524 - dayOfEra / 146096

theorem commonDays_mono {a b : Int} (h : a ≤ b) : commonDays a ≤ commonDays b := by
  have hyears : a - a / 1460 ≤ b - b / 1460 := by omega
  have hcenturies : a / 36524 - a / 146096 ≤ b / 36524 - b / 146096 := by omega
  unfold commonDays
  omega

/-- The first and the last day of every year are counted to that year. -/
theorem yearStarts : ∀ y : Fin 400, 365 * (y.val : Int) ≤ commonDays (yearStart y.val) ∧
    commonDays (yearStart (y.val + 1) - 1) < 365 * ((y.val : Int) + 1) := by
  decide +kernel

/-- **The division finds the year of a day.** -/
theorem yearStart_le_and_lt {dayOfEra year : Int} (h0 : 0 ≤ dayOfEra) (h1 : dayOfEra < 146097)
    (hyear : year = commonDays dayOfEra / 365) :
    0 ≤ year ∧ year < 400 ∧ yearStart year ≤ dayOfEra ∧ dayOfEra < yearStart (year + 1) := by
  have hlow : 0 ≤ commonDays dayOfEra := commonDays_mono h0
  have hhigh : commonDays dayOfEra ≤ 145999 := commonDays_mono (Int.le_sub_one_of_lt h1)
  obtain ⟨n, rfl⟩ : ∃ n : Nat, year = n := ⟨year.toNat, by omega⟩
  have hn : n < 400 := by omega
  refine ⟨by omega, by omega, ?_, ?_⟩
  · refine Int.not_lt.mp fun hlt => ?_
    have hn0 : n ≠ 0 := by
      rintro rfl
      exact absurd hlt (Int.not_lt.mpr h0)
    -- The day would come before the last day of the year before.
    have hlast := (yearStarts ⟨n - 1, by omega⟩).2
    have hpred : ((n - 1 : Nat) : Int) + 1 = n := by omega
    rw [hpred] at hlast
    have hmono : commonDays dayOfEra ≤ commonDays (yearStart n - 1) :=
      commonDays_mono (Int.le_sub_one_of_lt hlt)
    omega
  · refine Int.not_le.mp fun hle => ?_
    rcases Nat.lt_or_ge (n + 1) 400 with hlt | hge
    · have hfirst := (yearStarts ⟨n + 1, hlt⟩).1
      have hmono : commonDays (yearStart ((n : Int) + 1)) ≤ commonDays dayOfEra :=
        commonDays_mono hle
      rw [Int.natCast_add] at hfirst
      change 365 * ((n : Int) + 1) ≤ commonDays (yearStart ((n : Int) + 1)) at hfirst
      omega
    · obtain rfl : n = 399 := by omega
      have hend : yearStart ((399 : Nat) + 1) = 146097 := by decide
      omega

/-! ## Days of a year that begins in March -/

/-- The number of the month of a day, March being month 0. -/
def shiftedMonth (dayOfYear : Int) : Int := (5 * dayOfYear + 2) / 153

/-- The number of days of such a year before a month. -/
def daysBefore (shifted : Int) : Int := (153 * shifted + 2) / 5

/-- The number of a month, counted from January. -/
def monthOf (shifted : Int) : Int := if shifted < 10 then shifted + 3 else shifted - 9

/-- A day of a year has a month and a day of that month.  The 29 February is the last one. -/
theorem day_bounds : ∀ d : Fin 366, 0 ≤ shiftedMonth d.val ∧ shiftedMonth d.val ≤ 11 ∧
    1 ≤ (d.val : Int) - daysBefore (shiftedMonth d.val) + 1 ∧
    ((d.val : Int) - daysBefore (shiftedMonth d.val) + 1).toNat ≤
      daysInMonth (if d.val = 365 then 4 else 1) (monthOf (shiftedMonth d.val)).toNat ∧
    (d.val = 365 → shiftedMonth d.val = 11) := by
  decide +kernel

/-! ## The parts of a date -/

/-- The era of a day. -/
def era (n : Int) : Int := (n + 719468) / 146097

/-- The number of a day within its era. -/
def dayOfEra (n : Int) : Int := n + 719468 - era n * 146097

/-- The year of a day within its era. -/
def yearOfEra (n : Int) : Int := commonDays (dayOfEra n) / 365

/-- The number of a day within its year. -/
def dayOfYear (n : Int) : Int := dayOfEra n - yearStart (yearOfEra n)

theorem dayOfEra_bounds (n : Int) : 0 ≤ dayOfEra n ∧ dayOfEra n < 146097 := by
  unfold dayOfEra era
  omega

/-- **The parts of a date make up its day.** -/
theorem parts_spec (n : Int) : 0 ≤ yearOfEra n ∧ yearOfEra n < 400 ∧ 0 ≤ dayOfYear n ∧
    dayOfYear n < yearStart (yearOfEra n + 1) - yearStart (yearOfEra n) ∧
    n = era n * 146097 + yearStart (yearOfEra n) + dayOfYear n - 719468 := by
  obtain ⟨hlow, hhigh⟩ := dayOfEra_bounds n
  obtain ⟨h0, h1, h2, h3⟩ := yearStart_le_and_lt hlow hhigh (rfl : yearOfEra n = _)
  have hday : dayOfYear n = dayOfEra n - yearStart (yearOfEra n) := rfl
  have hera : dayOfEra n = n + 719468 - era n * 146097 := rfl
  exact ⟨h0, h1, by omega, by omega, by omega⟩

/-- A year has 366 days if it ends with a 29 February, and 365 otherwise. -/
theorem dayOfYear_le (n : Int) : dayOfYear n ≤ 365 ∧
    (dayOfYear n = 365 → isLeap (yearOfEra n + era n * 400 + 1) = true) := by
  obtain ⟨h0, h1, -, hlt, -⟩ := parts_spec n
  unfold yearStart at hlt
  refine ⟨by omega, fun hday => ?_⟩
  have hfour : (yearOfEra n + era n * 400 + 1) % 4 = 0 := by omega
  have hhundred : (yearOfEra n + era n * 400 + 1) % 100 ≠ 0 ∨
      (yearOfEra n + era n * 400 + 1) % 400 = 0 := by omega
  simpa [isLeap, hfour] using hhundred

/-- What `day_bounds` says of the day of a date. -/
theorem day_bounds_of (n : Int) : 0 ≤ shiftedMonth (dayOfYear n) ∧
    shiftedMonth (dayOfYear n) ≤ 11 ∧
    1 ≤ dayOfYear n - daysBefore (shiftedMonth (dayOfYear n)) + 1 ∧
    (dayOfYear n - daysBefore (shiftedMonth (dayOfYear n)) + 1).toNat ≤
      daysInMonth (if dayOfYear n = 365 then 4 else 1)
        (monthOf (shiftedMonth (dayOfYear n))).toNat ∧
    (dayOfYear n = 365 → shiftedMonth (dayOfYear n) = 11) := by
  obtain ⟨-, -, h0, -, -⟩ := parts_spec n
  have h1 := (dayOfYear_le n).1
  have hday : ((dayOfYear n).toNat : Int) = dayOfYear n := by omega
  have hbounds := day_bounds ⟨(dayOfYear n).toNat, by omega⟩
  simp only [hday] at hbounds
  have hlast : (dayOfYear n).toNat = 365 ↔ dayOfYear n = 365 := by omega
  simp only [hlast] at hbounds
  exact hbounds

theorem ofDays_eq (n : Int) : ofDays n =
    ⟨if 10 ≤ shiftedMonth (dayOfYear n) then yearOfEra n + era n * 400 + 1
      else yearOfEra n + era n * 400,
      (monthOf (shiftedMonth (dayOfYear n))).toNat,
      (dayOfYear n - daysBefore (shiftedMonth (dayOfYear n)) + 1).toNat⟩ := by
  obtain ⟨h0, h1, -, -, -⟩ := parts_spec n
  have hera : (n + 719468).fdiv 146097 = era n := Int.fdiv_eq_ediv_of_nonneg _ (by decide)
  have hday : dayOfEra n - (365 * yearOfEra n + yearOfEra n / 4 - yearOfEra n / 100) =
      dayOfYear n := by
    unfold dayOfYear yearStart
    omega
  obtain ⟨hs0, hs1, -⟩ := day_bounds_of n
  have hmonth : monthOf (shiftedMonth (dayOfYear n)) ≤ 2 ↔
      10 ≤ shiftedMonth (dayOfYear n) := by
    unfold monthOf
    omega
  unfold ofDays
  simp only [hera]
  change Civil.mk
    (if monthOf (shiftedMonth (dayOfEra n -
        (365 * yearOfEra n + yearOfEra n / 4 - yearOfEra n / 100))) ≤ 2
      then yearOfEra n + era n * 400 + 1 else yearOfEra n + era n * 400)
    (monthOf (shiftedMonth (dayOfEra n -
      (365 * yearOfEra n + yearOfEra n / 4 - yearOfEra n / 100)))).toNat
    (dayOfEra n - (365 * yearOfEra n + yearOfEra n / 4 - yearOfEra n / 100) -
      daysBefore (shiftedMonth (dayOfEra n -
        (365 * yearOfEra n + yearOfEra n / 4 - yearOfEra n / 100))) + 1).toNat = _
  simp only [hday, hmonth]

/-! ## Dates -/

/-- **The date leads back to the day.** -/
theorem toDays_ofDays (n : Int) : (ofDays n).toDays = n := by
  obtain ⟨hy0, hy1, -, -, heq⟩ := parts_spec n
  obtain ⟨hs0, hs1, hd, -, -⟩ := day_bounds_of n
  have hlate : (monthOf (shiftedMonth (dayOfYear n))).toNat ≤ 2 ↔
      10 ≤ shiftedMonth (dayOfYear n) := by
    unfold monthOf
    omega
  have hyear : (if 10 ≤ shiftedMonth (dayOfYear n) then
      (if 10 ≤ shiftedMonth (dayOfYear n) then yearOfEra n + era n * 400 + 1
        else yearOfEra n + era n * 400) - 1
      else if 10 ≤ shiftedMonth (dayOfYear n) then yearOfEra n + era n * 400 + 1
        else yearOfEra n + era n * 400) = yearOfEra n + era n * 400 := by
    split <;> omega
  have hera : (yearOfEra n + era n * 400).fdiv 400 = era n := by
    rw [Int.fdiv_eq_ediv_of_nonneg _ (by decide)]
    omega
  have hshifted : (((monthOf (shiftedMonth (dayOfYear n))).toNat : Int) + 9) % 12 =
      shiftedMonth (dayOfYear n) := by
    unfold monthOf
    omega
  have hday : (153 * shiftedMonth (dayOfYear n) + 2) / 5 +
      ((dayOfYear n - daysBefore (shiftedMonth (dayOfYear n)) + 1).toNat : Int) - 1 =
      dayOfYear n := by
    unfold daysBefore at hd ⊢
    omega
  unfold yearStart at heq
  rw [ofDays_eq]
  unfold toDays
  simp only [hlate, hyear, hera, hshifted, Int.add_sub_cancel, hday]
  omega

/-- Every month of a date is a month. -/
theorem ofDays_month (n : Int) : 1 ≤ (ofDays n).month ∧ (ofDays n).month ≤ 12 := by
  obtain ⟨hs0, hs1, -⟩ := day_bounds_of n
  rw [ofDays_eq]
  simp only [monthOf]
  split <;> omega

/-- A month is no longer in a common year than in a leap year. -/
theorem daysInMonth_le {y y' : Int} (h : isLeap y = true → isLeap y' = true) (month : Nat) :
    daysInMonth y month ≤ daysInMonth y' month := by
  unfold daysInMonth
  split
  · by_cases hy : isLeap y = true
    · exact Nat.le_of_eq ((if_pos hy).trans (if_pos (h hy)).symm)
    · rw [if_neg hy]
      split <;> omega
  all_goals exact Nat.le_refl _

theorem daysInMonth_le_31 (y : Int) (month : Nat) : daysInMonth y month ≤ 31 := by
  unfold daysInMonth
  split
  · split <;> omega
  all_goals omega

/-- **Every day of a date is a day of its month.** -/
theorem ofDays_day (n : Int) :
    1 ≤ (ofDays n).day ∧ (ofDays n).day ≤ daysInMonth (ofDays n).year (ofDays n).month := by
  obtain ⟨hs0, hs1, hd, hlen, hlast⟩ := day_bounds_of n
  rw [ofDays_eq]
  refine ⟨?_, Nat.le_trans hlen (daysInMonth_le (fun hleap => ?_) _)⟩
  · simp only
    omega
  · by_cases hday : dayOfYear n = 365
    · rw [if_pos (by rw [hlast hday]; decide)]
      exact (dayOfYear_le n).2 hday
    · rw [if_neg hday] at hleap
      exact absurd hleap (by decide)

/-- Dates from the first day of year 0 to the last day of year 9999 have four digits. -/
theorem ofDays_year {n : Int} (h0 : (mk 0 1 1).toDays ≤ n) (h1 : n ≤ (mk 9999 12 31).toDays) :
    0 ≤ (ofDays n).year ∧ (ofDays n).year ≤ 9999 := by
  have hfirst : (mk 0 1 1).toDays = -719528 := by decide
  have hlast : (mk 9999 12 31).toDays = 2932896 := by decide
  obtain ⟨hy0, hy1, -, hlt, heq⟩ := parts_spec n
  obtain ⟨hday0, hday1⟩ := dayOfEra_bounds n
  have hday : dayOfEra n = yearStart (yearOfEra n) + dayOfYear n := by
    unfold dayOfEra
    omega
  have hera : dayOfEra n = n + 719468 - era n * 146097 := rfl
  -- Year 0 begins and year 9999 ends within the last year of an era.
  have hend : yearStart 399 = 145731 := by decide
  have hbefore : yearOfEra n ≤ 398 → dayOfEra n < 145731 := by
    intro hle
    have := yearStart_mono (by omega : yearOfEra n + 1 ≤ 399)
    omega
  have hwithin : yearOfEra n = 399 → dayOfEra n = 145731 + dayOfYear n := by
    intro h
    rw [hday, h, hend]
  rw [ofDays_eq]
  unfold shiftedMonth
  simp only
  split <;> omega

end PartSourcing.Calendar.Civil
