import PartSourcing.Json.Basic
import PartSourcing.Decimal.Digits

/-!
# Reading JSON

A reader takes characters and returns a value with the characters after it. Arrays and objects
nest at most 127 deep; the reader of one depth is built from the reader of the depth below,
and the items of one array are counted against the length of the text, so everything is
structural recursion.

A number with a fraction or an exponent, or an integer beyond 64 bits, is read quickly rather
than nearest: as many digits as fit 64 bits are kept, rounded to a double, and scaled by one
power of ten (more than one only beyond 308 places). The last bit can differ from the nearest
double.
-/

namespace PartSourcing.Json

open PartSourcing.Decimal

/-- How deep arrays and objects may nest. -/
def maxDepth : Nat := 127

/-- What a reader of values returns: the value and the rest of the text. -/
abbrev Reading (α : Type) := List Char → Option (α × List Char)

/-- Whether a character may stand between tokens. -/
def isSpace (c : Char) : Bool := c == ' ' || c == '\n' || c == '\t' || c == '\r'

/-- The text after leading spaces. -/
def skip (s : List Char) : List Char := s.dropWhile isSpace

/-- The value of four hexadecimal digits. -/
def hex4? (a b c d : Char) : Option Nat := do
  let digit (c : Char) : Option Nat :=
    if c.isDigit then some (c.toNat - 48)
    else if 'a' ≤ c ∧ c ≤ 'f' then some (c.toNat - 87)
    else if 'A' ≤ c ∧ c ≤ 'F' then some (c.toNat - 55)
    else none
  return ((← digit a) * 16 + (← digit b)) * 256 + ((← digit c) * 16 + (← digit d))

/-- The character that a one-letter escape stands for. -/
def escaped? : Char → Option Char
  | '\x22' => some '\x22'
  | '\\' => some '\\'
  | '/' => some '/'
  | 'b' => some '\x08'
  | 'f' => some '\x0c'
  | 'n' => some '\n'
  | 'r' => some '\r'
  | 't' => some '\t'
  | _ => none

/-- Whether a 16-bit unit is the first half of a pair. -/
def isHighHalf (n : Nat) : Bool := 0xD800 ≤ n && n < 0xDC00

/-- Whether a 16-bit unit is the second half of a pair. -/
def isLowHalf (n : Nat) : Bool := 0xDC00 ≤ n && n < 0xE000

/-- Reads the rest of a string up to its closing quotation mark. A half of a pair must meet
the other half, and control characters must be escaped. -/
def string? : Reading (List Char)
  | [] => none
  | '\x22' :: rest => some ([], rest)
  | '\\' :: 'u' :: a :: b :: c :: d :: '\\' :: 'u' :: e :: f :: g :: h :: rest =>
    match hex4? a b c d with
    | none => none
    | some n =>
      if isHighHalf n then
        match hex4? e f g h with
        | none => none
        | some m =>
          if isLowHalf m then
            (string? rest).map fun (cs, r) =>
              (Char.ofNat (0x10000 + (n - 0xD800) * 0x400 + (m - 0xDC00)) :: cs, r)
          else none
      else if isLowHalf n then none
      else (string? ('\\' :: 'u' :: e :: f :: g :: h :: rest)).map fun (cs, r) =>
        (Char.ofNat n :: cs, r)
  | '\\' :: 'u' :: a :: b :: c :: d :: rest =>
    match hex4? a b c d with
    | none => none
    | some n =>
      if isHighHalf n || isLowHalf n then none
      else (string? rest).map fun (cs, r) => (Char.ofNat n :: cs, r)
  | '\\' :: c :: rest =>
    match escaped? c with
    | some e => (string? rest).map fun (cs, r) => (e :: cs, r)
    | none => none
  | c :: rest =>
    if c.toNat < 0x20 then none
    else (string? rest).map fun (cs, r) => (c :: cs, r)

/-- Significant digits so far and the power of ten they stand for. -/
structure Significand where
  value : Nat
  exponent : Int

/-- Takes one more digit before the point. Digits that no longer fit count as zeros, and so do
all after them. -/
def Significand.whole (s : Significand) (d : Nat) : Significand :=
  if s.exponent = 0 ∧ s.value * 10 + d ≤ maxInt then ⟨s.value * 10 + d, 0⟩
  else ⟨s.value, s.exponent + 1⟩

/-- Takes the digits after the point, as many as fit. -/
def Significand.fraction (s : Significand) : List Char → Significand
  | [] => s
  | c :: cs =>
    let v := s.value * 10 + (c.toNat - 48)
    if v ≤ maxInt then fraction ⟨v, s.exponent - 1⟩ cs else s

/-- The double `10 ^ k`. -/
def tenToThe (k : Nat) : Float := Float.ofScientific 1 false k

/-- Scales by a power of ten, in steps of 308 places when it is a negative one beyond that.
`none` is a number out of range. -/
def scale? (x : Float) (e : Int) : (steps : Nat) → Option Float
  | 0 => some x
  | steps + 1 =>
    if e.natAbs ≤ 308 then
      if 0 ≤ e then
        let y := x * tenToThe e.natAbs
        if y.isInf then none else some y
      else some (x / tenToThe e.natAbs)
    else if x == 0.0 then some x
    else if 0 ≤ e then none
    else scale? (x / tenToThe 308) (e + 308) steps

/-- The greatest exponent that is worked with as it stands. -/
def maxExponent : Nat := UInt32.size / 2 - 1

/-- The double for a significand and a written exponent. -/
def Significand.float? (s : Significand) (e : Int) : Option Float :=
  if maxExponent < e.natAbs then
    if s.value = 0 ∨ e < 0 then some 0.0 else none
  else scale? (nearestOfNat s.value) (s.exponent + e) 5
where
  /-- The double nearest to a natural. -/
  nearestOfNat (n : Nat) : Float := Float.ofScientific n false 0

/-- Reads the exponent of a number: nothing, or `e`, an optional sign and digits. -/
def exponent? : Reading (Option Int)
  | c :: rest =>
    if c = 'e' ∨ c = 'E' then
      let (negative, ds) :=
        match rest with
        | '+' :: r => (false, r)
        | '-' :: r => (true, r)
        | r => (false, r)
      (nat? (ds.takeWhile Char.isDigit)).map fun n =>
        (some (if negative then -(n : Int) else n), ds.dropWhile Char.isDigit)
    else some (none, c :: rest)
  | [] => some (none, [])

/-- Reads a number without its sign. -/
def magnitude? (negative : Bool) : Reading Json := fun s =>
  let whole := s.takeWhile Char.isDigit
  let rest := s.dropWhile Char.isDigit
  if whole.isEmpty ∨ (1 < whole.length ∧ whole.head? = some '0') then none
  else
    let sig := whole.foldl (fun s c => s.whole (c.toNat - 48)) (⟨0, 0⟩ : Significand)
    let signed (x : Float) : Json := .real (if negative then -x else x)
    let scaled (sig : Significand) (rest : List Char) : Option (Json × List Char) :=
      (exponent? rest).bind fun (e, rest) => (sig.float? (e.getD 0)).map fun x => (signed x, rest)
    match rest with
    | '.' :: r =>
      let ds := r.takeWhile Char.isDigit
      if ds.isEmpty then none else scaled (sig.fraction ds) (r.dropWhile Char.isDigit)
    | _ =>
      (exponent? rest).bind fun (e, after) =>
        let value : Int := if negative then -(sig.value : Int) else sig.value
        if e.isSome ∨ sig.exponent ≠ 0 ∨ (negative ∧ sig.value = 0) ∨ value < minInt then
          (sig.float? (e.getD 0)).map fun x => (signed x, after)
        else some (.int value, after)

/-- Reads a number. -/
def number? : Reading Json
  | '-' :: rest => magnitude? true rest
  | s => magnitude? false s

/-- Reads the items of an array after the first token, given a reader of one item. `left`
bounds the number of items. -/
def items (value : Reading Json) : (left : Nat) → Reading (List Json)
  | 0, _ => none
  | left + 1, s =>
    (value (skip s)).bind fun (x, s) =>
      match skip s with
      | ',' :: s => (items value left s).map fun (xs, s) => (x :: xs, s)
      | ']' :: s => some ([x], s)
      | _ => none

/-- Reads the members of an object, given a reader of one value. -/
def memberList (value : Reading Json) : (left : Nat) → Reading (List (String × Json))
  | 0, _ => none
  | left + 1, s =>
    match skip s with
    | '\x22' :: s =>
      (string? s).bind fun (name, s) =>
        match skip s with
        | ':' :: s =>
          (value (skip s)).bind fun (x, s) =>
            match skip s with
            | ',' :: s => (memberList value left s).map fun (ms, s) =>
              ((String.ofList name, x) :: ms, s)
            | '\x7d' :: s => some ([(String.ofList name, x)], s)
            | _ => none
        | _ => none
    | _ => none

/-- Reads a value that is neither an array nor an object. -/
def scalar? : Reading Json
  | 'n' :: 'u' :: 'l' :: 'l' :: s => some (.null, s)
  | 't' :: 'r' :: 'u' :: 'e' :: s => some (.bool true, s)
  | 'f' :: 'a' :: 'l' :: 's' :: 'e' :: s => some (.bool false, s)
  | '\x22' :: s => (string? s).map fun (cs, s) => (.str (String.ofList cs), s)
  | s => number? s

/-- Reads a value that nests at most so deep, in which no array or object has more than `left`
items. -/
def value (left : Nat) : (depth : Nat) → Reading Json
  | 0, s =>
    match s with
    | '[' :: _ | '\x7b' :: _ => none
    | s => scalar? s
  | depth + 1, s =>
    match s with
    | '[' :: s =>
      match skip s with
      | ']' :: s => some (.arr [], s)
      | s => (items (value left depth) left s).map fun (xs, s) => (.arr xs, s)
    | '\x7b' :: s =>
      match skip s with
      | '\x7d' :: s => some (.obj [], s)
      | s => (memberList (value left depth) left s).map fun (ms, s) => (.obj ms, s)
    | s => scalar? s

/-- **Reads a JSON text**, all of it, as it is written. -/
def parse? (s : String) : Option Json :=
  match value (s.length + 1) maxDepth (skip s.toList) with
  | some (j, rest) => if (skip rest).isEmpty then some j else none
  | none => none

end PartSourcing.Json
