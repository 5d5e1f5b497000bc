import PartSourcing.Decimal.Digits
import PartSourcing.Text.Case

/-!
# Reading doubles

Decimal text is read to the nearest double, ties to the even one. The grammar is an optional
sign, digits with at most one point among them, and an optional exponent; the words for
infinity and for no number are read in any case.
-/

namespace PartSourcing.Decimal

/-- The double nearest to `digits · 10 ^ exponent`. Magnitudes that are out of reach in either
direction are settled before any power is formed. -/
def nearestFloat (digits : Nat) (exponent : Int) : Float :=
  let size : Int := (digits.log2 : Int) * 30103 / 100000
  if digits = 0 then 0.0
  else if 400 < exponent + size then 1.0 / 0.0
  else if exponent + size < -400 then 0.0
  else if exponent < 0 then Float.ofScientific digits true exponent.natAbs
  else Float.ofScientific digits false exponent.natAbs

/-- The leading digits of a text and the rest. -/
def spanDigits (s : List Char) : List Char × List Char :=
  (s.takeWhile Char.isDigit, s.dropWhile Char.isDigit)

/-- The exponent part of a number: nothing, or `e` with a signed run of digits. -/
def exponentPart? : List Char → Option Int
  | [] => some 0
  | c :: rest => if c = 'e' || c = 'E' then int? rest else none

/-- An unsigned decimal number, all of the text. At least one digit stands before or after
the point. -/
def unsigned? (s : List Char) : Option Float :=
  let (whole, rest) := spanDigits s
  let (fraction, rest) :=
    match rest with
    | '.' :: r => spanDigits r
    | r => ([], r)
  if whole.isEmpty && fraction.isEmpty then none
  else
    match nat? (whole ++ fraction), exponentPart? rest with
    | some n, some e => some (nearestFloat n (e - fraction.length))
    | _, _ => none

/-- An unsigned number or word. -/
def magnitude? (s : List Char) : Option Float :=
  match s.map Char.toLower with
  | ['i', 'n', 'f'] | ['i', 'n', 'f', 'i', 'n', 'i', 't', 'y'] => some (1.0 / 0.0)
  | ['n', 'a', 'n'] => some (0.0 / 0.0)
  | _ => unsigned? s

/-- **The double that a text denotes**, with an optional sign in front. -/
def float? : List Char → Option Float
  | '-' :: s => (magnitude? s).map (-·)
  | '+' :: s => magnitude? s
  | s => magnitude? s

end PartSourcing.Decimal
