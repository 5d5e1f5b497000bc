import Mathlib.Data.List.TakeWhile
import Mathlib.Data.Option.Basic
import PartSourcing.Calendar.Stamp
import PartSourcing.Proofs.Calendar.Civil
import PartSourcing.Proofs.Decimal.Padded

/-!
# Time stamps that are kept

An instant in the years that are written with four digits (`Instant.Ordinary`) is written with
all digits of its fraction, and **the Internet format reads that text back as the same instant**
(`strict?_fullText`), be it in a leap second or not.

The text is a row of padded numbers with one character between any two of them, and the reader
takes them one by one (`number?_padded`).  What it has then are the fields of the date and of the
time of day, which make up the instant again (`instant?_fields`).
-/

namespace PartSourcing.Calendar

open PartSourcing.Decimal

/-- **An instant of the years 0 to 9999.**  The nanoseconds run past one billion only in the last
second of a minute, which is where leap seconds are. -/
structure Instant.Ordinary (i : Instant) : Prop where
  first : (Civil.mk 0 1 1).toDays * secondsPerDay ≤ i.seconds
  last : i.seconds < ((Civil.mk 9999 12 31).toDays + 1) * secondsPerDay
  nanos : i.nanos < nanosPerSecond ∨ i.nanos < 2 * nanosPerSecond ∧ i.seconds % 60 = 59

namespace Stamp

/-! ## One number after the other -/

/-- **A padded number is taken off the front.** -/
theorem number?_padded {width n : Nat} (hw : 0 < width) (h : n < 10 ^ width) (rest : List Char) :
    number? width width (padded width n ++ rest) = some (n, rest) := by
  have hlen := length_padded hw h
  have htake : ((padded width n ++ rest).take width).takeWhile Char.isDigit = padded width n := by
    rw [List.take_left' hlen]
    exact List.takeWhile_eq_self_iff.mpr fun c hc => isDigit_of_mem_padded hc
  unfold number?
  simp only [htake, hlen, Nat.lt_irrefl, if_false, nat?_padded, Option.map_some,
    List.drop_left' hlen]

theorem literal?_cons (c : Char) (rest : List Char) : literal? c (c :: rest) = some rest :=
  if_pos rfl

theorem separator?_cons (rest : List Char) : separator? ('T' :: rest) = some rest := rfl

theorem offset?_utc (between : List Char → Option (List Char)) :
    offset? between ['Z'] = some (0, []) := rfl

/-- The nine digits of a fraction are taken off the front. -/
theorem fraction?_fullFraction {n : Nat} (h : n < 10 ^ 9) :
    fraction? (fullFraction n ++ ['Z']) = some (n, ['Z']) := by
  have hlen := length_padded (by decide : 0 < 9) h
  have hne : (padded 9 n).isEmpty = false := by
    rw [List.isEmpty_eq_false_iff]
    intro hnil
    rw [hnil] at hlen
    exact absurd hlen (by decide)
  have hds : (padded 9 n ++ ['Z']).takeWhile Char.isDigit = padded 9 n :=
    takeWhile_padded 9 n rfl []
  unfold fraction? fullFraction
  simp only [List.cons_append, hds, hlen, Nat.sub_self, List.replicate_zero, List.append_nil,
    List.take_of_length_le (Nat.le_of_eq hlen), nat?_padded, Option.bind_some, hne,
    Bool.false_eq_true, if_false, List.drop_left' hlen]

/-- **What is written reads back** as its fields. -/
theorem strict?_fields (year month day hour minute second nanos : Nat) (hy : year < 10 ^ 4)
    (hmo : month < 10 ^ 2) (hd : day < 10 ^ 2) (hh : hour < 10 ^ 2) (hmi : minute < 10 ^ 2)
    (hs : second < 10 ^ 2) (hn : nanos < 10 ^ 9) :
    strict? (padded 4 year ++ ['-'] ++ padded 2 month ++ ['-'] ++ padded 2 day ++ ['T'] ++
      padded 2 hour ++ [':'] ++ padded 2 minute ++ [':'] ++ padded 2 second ++
      fullFraction nanos ++ ['Z']) =
      Fields.instant? ⟨year, month, day, hour, minute, second, nanos, 0⟩ := by
  have h2 : 0 < 2 := by decide
  unfold strict?
  simp only [List.append_assoc, List.cons_append, List.nil_append]
  -- one number after the other, each with the character behind it
  simp only [number?_padded (by decide : 0 < 4) hy, Option.bind_eq_bind, Option.bind_some,
    literal?_cons]
  simp only [number?_padded h2 hmo, Option.bind_some, literal?_cons]
  simp only [number?_padded h2 hd, Option.bind_some, separator?_cons]
  simp only [number?_padded h2 hh, Option.bind_some, literal?_cons]
  simp only [number?_padded h2 hmi, Option.bind_some, literal?_cons]
  simp only [number?_padded h2 hs, Option.bind_some]
  simp only [fraction?_fullFraction hn, Option.bind_some, offset?_utc]
  rfl

/-! ## The fields of an instant -/

/-- The fields that an instant is written with. -/
def fieldsOf (i : Instant) : Fields where
  year := (Civil.ofDays (i.seconds.fdiv Instant.secondsPerDay)).year
  month := (Civil.ofDays (i.seconds.fdiv Instant.secondsPerDay)).month
  day := (Civil.ofDays (i.seconds.fdiv Instant.secondsPerDay)).day
  hour := i.secondOfDay.toNat / 3600
  minute := i.secondOfDay.toNat / 60 % 60
  second := i.secondOfDay.toNat % 60 + i.nanos / Instant.nanosPerSecond
  nanos := i.nanos % Instant.nanosPerSecond
  offset := 0

/-- The day of an ordinary instant has a date of the years 0 to 9999. -/
theorem day_bounds {i : Instant} (hi : i.Ordinary) :
    (Civil.mk 0 1 1).toDays ≤ i.seconds.fdiv Instant.secondsPerDay ∧
      i.seconds.fdiv Instant.secondsPerDay ≤ (Civil.mk 9999 12 31).toDays := by
  have hfirst := hi.first
  have hlast := hi.last
  unfold Instant.secondsPerDay at *
  rw [Int.fdiv_eq_ediv_of_nonneg _ (by decide)]
  omega

/-- Fields that lie within their ranges denote an instant. -/
theorem instant?_eq_some {f : Fields} {s : Int} {n : Nat}
    (hyear : Civil.firstYear ≤ f.year ∧ f.year ≤ Civil.lastYear)
    (hmonth : 1 ≤ f.month ∧ f.month ≤ 12)
    (hday : 1 ≤ f.day ∧ f.day ≤ Civil.daysInMonth f.year f.month)
    (htime : f.hour < 24 ∧ f.minute < 60 ∧ f.second ≤ 60 ∧ f.offset.natAbs < 86400)
    (hs : (Civil.mk f.year f.month f.day).toDays * Instant.secondsPerDay + f.hour * 3600 +
      f.minute * 60 + ((if f.second = 60 then 59 else f.second : Nat) : Int) - f.offset = s)
    (hn : f.nanos + (if f.second = 60 then Instant.nanosPerSecond else 0) = n)
    (hrange : Instant.firstSecond ≤ s ∧ s ≤ Instant.lastSecond) :
    f.instant? = some ⟨s, n⟩ := by
  have hdate : Civil.of? f.year f.month f.day = some ⟨f.year, f.month, f.day⟩ := by
    refine if_pos ?_
    simp only [Bool.and_eq_true, decide_eq_true_eq]
    exact ⟨⟨⟨⟨hyear, hmonth.1⟩, hmonth.2⟩, hday.1⟩, hday.2⟩
  subst hs
  subst hn
  unfold Fields.instant?
  simp only [hdate, Option.bind_eq_bind, Option.bind_some, guard, if_pos htime, if_pos hrange,
    Option.pure_def]

/-- **The fields of an ordinary instant make it up again.** -/
theorem instant?_fields {i : Instant} (hi : i.Ordinary) : (fieldsOf i).instant? = some i := by
  obtain ⟨hday0, hday1⟩ := day_bounds hi
  obtain ⟨hy0, hy1⟩ := Civil.ofDays_year hday0 hday1
  have hsecond : i.secondOfDay = i.seconds % 86400 := rfl
  have hnanos := hi.nanos
  unfold Instant.nanosPerSecond at hnanos
  refine instant?_eq_some ⟨?_, ?_⟩ (Civil.ofDays_month _) (Civil.ofDays_day _) ?_ ?_ ?_ ⟨?_, ?_⟩
  · exact Int.le_trans (by decide) hy0
  · exact Int.le_trans hy1 (by decide)
  · -- hour, minute and second are the digits of the second of the day
    show i.secondOfDay.toNat / 3600 < 24 ∧ i.secondOfDay.toNat / 60 % 60 < 60 ∧
      i.secondOfDay.toNat % 60 + i.nanos / 1000000000 ≤ 60 ∧ (0 : Int).natAbs < 86400
    omega
  · show (Civil.ofDays (i.seconds.fdiv 86400)).toDays * 86400 +
        ((i.secondOfDay.toNat / 3600 : Nat) : Int) * 3600 +
        ((i.secondOfDay.toNat / 60 % 60 : Nat) : Int) * 60 +
        ((if i.secondOfDay.toNat % 60 + i.nanos / 1000000000 = 60 then 59
          else i.secondOfDay.toNat % 60 + i.nanos / 1000000000 : Nat) : Int) - 0 = i.seconds
    rw [Civil.toDays_ofDays, Int.fdiv_eq_ediv_of_nonneg _ (by decide)]
    split <;> omega
  · show i.nanos % 1000000000 +
      (if i.secondOfDay.toNat % 60 + i.nanos / 1000000000 = 60 then 1000000000 else 0) = i.nanos
    split <;> omega
  · exact Int.le_trans (by decide) hi.first
  · exact Int.le_trans (Int.le_of_lt hi.last) (by decide)

/-- **An instant that is kept reads back**, with every digit of its fraction. -/
theorem strict?_fullText {i : Instant} (hi : i.Ordinary) :
    strict? (fullText i).toList = some i := by
  obtain ⟨hday0, hday1⟩ := day_bounds hi
  obtain ⟨hy0, hy1⟩ := Civil.ofDays_year hday0 hday1
  obtain ⟨hm0, hm1⟩ := Civil.ofDays_month (i.seconds.fdiv Instant.secondsPerDay)
  obtain ⟨hd0, hd1⟩ := Civil.ofDays_day (i.seconds.fdiv Instant.secondsPerDay)
  have hlen := Civil.daysInMonth_le_31
    (Civil.ofDays (i.seconds.fdiv Instant.secondsPerDay)).year
    (Civil.ofDays (i.seconds.fdiv Instant.secondsPerDay)).month
  have hsecond : i.secondOfDay = i.seconds % 86400 := rfl
  have hnanos := hi.nanos
  unfold Instant.nanosPerSecond at hnanos
  have hyear : (((Civil.ofDays (i.seconds.fdiv Instant.secondsPerDay)).year.toNat : Nat) : Int) =
      (Civil.ofDays (i.seconds.fdiv Instant.secondsPerDay)).year := by omega
  have hfields := strict?_fields
    (Civil.ofDays (i.seconds.fdiv Instant.secondsPerDay)).year.toNat (fieldsOf i).month
    (fieldsOf i).day (fieldsOf i).hour (fieldsOf i).minute (fieldsOf i).second (fieldsOf i).nanos
    (by omega) (Nat.lt_of_le_of_lt hm1 (by decide))
    (Nat.lt_of_le_of_lt (Nat.le_trans hd1 hlen) (by decide))
    (by show i.secondOfDay.toNat / 3600 < 10 ^ 2; omega)
    (by show i.secondOfDay.toNat / 60 % 60 < 10 ^ 2; omega)
    (by show i.secondOfDay.toNat % 60 + i.nanos / 1000000000 < 10 ^ 2; omega)
    (Nat.mod_lt _ (by decide))
  rw [hyear] at hfields
  rw [← instant?_fields hi]
  refine Eq.trans (congrArg strict? ?_) hfields
  rw [fullText, write, String.toList_ofList, yearText, if_pos ⟨hy0, hy1⟩]
  rfl

end Stamp

end PartSourcing.Calendar
