import Mathlib.Algebra.Group.Nat.Defs
import PartSourcing.Decimal.Digits

/-!
# Numbers of a fixed width

A number below a power of ten is written with just so many digits (`length_padded`), all of them
digits, and they have its value (`nat?_padded`).  So a reader that takes that many digits takes
the number and nothing else.
-/

namespace PartSourcing.Decimal

theorem isDigit_of_mem_padded {width n : Nat} {c : Char} (h : c ∈ padded width n) :
    c.isDigit = true := by
  rcases List.mem_append.mp h with h | h
  · rw [List.eq_of_mem_replicate h]
    rfl
  · exact Nat.isDigit_of_mem_toDigits (by decide) (by decide) h

theorem length_padded {width n : Nat} (hw : 0 < width) (h : n < 10 ^ width) :
    (padded width n).length = width := by
  have hlen : (digits n).length ≤ width :=
    (Nat.length_toDigits_le_iff (by decide) hw).mpr h
  unfold padded
  rw [List.length_append, List.length_replicate]
  omega

/-- Zeros in front do not change a number. -/
theorem digitsFrom_zeros (k : Nat) (s : List Char) :
    digitsFrom 0 (List.replicate k '0' ++ s) = digitsFrom 0 s := by
  induction k with
  | zero => rfl
  | succ k ih =>
    rw [List.replicate_succ, List.cons_append, digitsFrom]
    exact ih

theorem nat?_of_ne_nil {s : List Char} (h : s ≠ []) : nat? s = digitsFrom 0 s := by
  cases s with
  | nil => exact absurd rfl h
  | cons c s => rfl

/-- **A padded number reads back.** -/
theorem nat?_padded (width n : Nat) : nat? (padded width n) = some n := by
  have hne : padded width n ≠ [] := by
    unfold padded
    exact List.append_ne_nil_of_right_ne_nil _ Nat.toDigits_ne_nil
  rw [nat?_of_ne_nil hne, padded, digitsFrom_zeros, digitsFrom_digits]

/-- Before anything but a digit the digits end. -/
theorem takeWhile_padded (width n : Nat) {c : Char} (hc : c.isDigit = false) (rest : List Char) :
    (padded width n ++ c :: rest).takeWhile Char.isDigit = padded width n := by
  rw [List.takeWhile_append_of_pos fun d hd => isDigit_of_mem_padded hd,
    List.takeWhile_cons_of_neg (by simp [hc]), List.append_nil]

end PartSourcing.Decimal
