/-!
# Digit strings

Reading and writing of naturals in decimal, with nothing but digits: no sign, no separator,
no blank. The key fact is that what is written reads back.
-/

namespace PartSourcing.Decimal

/-- The value of one decimal digit. -/
def digit? (c : Char) : Option Nat :=
  if c.isDigit then some (c.toNat - 48) else none

/-- The value of a run of digits, read after the value `v`; `none` if some character is no
digit. The empty run leaves `v`. -/
def digitsFrom (v : Nat) : List Char → Option Nat
  | [] => some v
  | c :: cs => (digit? c).bind fun d => digitsFrom (10 * v + d) cs

/-- The value of a non-empty run of digits. -/
def nat? : List Char → Option Nat
  | [] => none
  | cs => digitsFrom 0 cs

/-- The value of an optionally signed non-empty run of digits. -/
def int? : List Char → Option Int
  | '-' :: cs => (nat? cs).map fun n => -(n : Int)
  | '+' :: cs => (nat? cs).map fun n => (n : Int)
  | cs => (nat? cs).map fun n => (n : Int)

/-- The digits of a natural, most significant first. -/
def digits (n : Nat) : List Char := Nat.toDigits 10 n

/-- The text of a natural. -/
def natText (n : Nat) : String := String.ofList (digits n)

/-- The text of an integer, with a sign only if it is negative. -/
def intText : Int → String
  | .ofNat n => natText n
  | .negSucc n => "-" ++ natText (n + 1)

/-- A natural written with at least `width` digits. -/
def padded (width n : Nat) : List Char :=
  let ds := digits n
  List.replicate (width - ds.length) '0' ++ ds

theorem digitsFrom_append (v : Nat) (s t : List Char) :
    digitsFrom v (s ++ t) = (digitsFrom v s).bind fun w => digitsFrom w t := by
  induction s generalizing v with
  | nil => rfl
  | cons c s ih =>
    simp only [List.cons_append, digitsFrom]
    cases digit? c with
    | none => rfl
    | some d => simpa using ih _

theorem digit?_digitChar {d : Nat} (h : d < 10) : digit? d.digitChar = some d := by
  match d, h with
  | 0, _ | 1, _ | 2, _ | 3, _ | 4, _ | 5, _ | 6, _ | 7, _ | 8, _ | 9, _ => rfl

/-- **What is written reads back.** -/
theorem digitsFrom_digits (n : Nat) : digitsFrom 0 (digits n) = some n := by
  unfold digits
  induction n using Nat.strongRecOn with
  | _ n ih =>
    by_cases h : n < 10
    · rw [Nat.toDigits_of_lt_base h]
      simp [digitsFrom, digit?_digitChar h]
    · have hq : n / 10 < n := by omega
      rw [Nat.toDigits_of_base_le (by decide) (by omega), digitsFrom_append, ih _ hq]
      simp only [Option.bind_some, digitsFrom,
        digit?_digitChar (Nat.mod_lt n (by decide : 0 < 10)), Option.some.injEq]
      omega

end PartSourcing.Decimal
