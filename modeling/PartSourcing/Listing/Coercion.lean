import PartSourcing.Decimal.Reader
import PartSourcing.Decimal.Dyadic
import PartSourcing.Lexicon
import PartSourcing.Listing.Basic

/-!
# Numbers in listings

A quantity and a price are numbers, or text that starts with one. What cannot be a quantity or
a price is unknown, never zero: a quantity is a whole number that is not negative, a price is
finite and positive.
-/

namespace PartSourcing

open PartSourcing.Text PartSourcing.Decimal

namespace Loose

/-- Whether a character may stand inside a number. -/
def isNumeric (c : Char) : Bool := c.isDigit || c == '.' || c == ','

/-- The characters of the number at the start of a text: digits, points and commas after an
optional minus sign. -/
def leadingRun : List Char → List Char
  | '-' :: cs => '-' :: cs.takeWhile isNumeric
  | cs => cs.takeWhile isNumeric

/-- The characters without the points at their end. -/
def dropPoints (s : List Char) : List Char := (s.reverse.dropWhile (· == '.')).reverse

/-- **The number at the start of a text**, after blanks. Commas between its digits are ignored,
and so are points that nothing follows. -/
def leadingNumber? (s : List Char) : Option Float :=
  let run := (leadingRun (dropLeading s)).filter (· != ',')
  if run.any Char.isDigit then float? (dropPoints run) else none

/-- The greatest quantity. -/
def maxQuantity : Nat := UInt64.size - 1

/-- The quantity that a number denotes: a whole number that is not negative. The double nearest
to the greatest quantity is one more, and counts as the greatest. -/
def wholeQuantity? (x : Float) : Option UInt64 :=
  match wholeNat? x with
  | some n => if n ≤ maxQuantity + 1 then some (UInt64.ofNat (min n maxQuantity)) else none
  | none => none

/-- **The quantity that a loose value states**, if it states one. -/
def quantity? : Loose → Option UInt64
  | .number x => wholeQuantity? x
  | .text s => (leadingNumber? s.toList).bind wholeQuantity?

/-- A number that can be a price. -/
def positive? (x : Float) : Option Float := if isPositive x then some x else none

/-- **The price that a loose value states**, if it states one, and the code of the currency that
its text marks. The mark is taken out before the number is read, so that it may stand on
either side of it. -/
def price : Loose → Option Float × Option String
  | .number x => (positive? x, none)
  | .text s =>
    let t := lowerChars (trimChars s.toList)
    match currencyMarks.entryFor? (String.ofList t) with
    | some (mark, code) =>
      ((leadingNumber? (replaceFirst t mark.toList [' '])).bind positive?, some code)
    | none => ((leadingNumber? t).bind positive?, none)

end Loose

/-- The currency that a field of its own names: a code of three letters, or a mark. -/
def currencyCode? (s : String) : Option String :=
  if s.toList.length = 3 ∧ s.toList.all Char.isAlpha then some (asciiUpper s)
  else currencyMarks.find? s

end PartSourcing
