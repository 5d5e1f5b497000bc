import PartSourcing.Calendar.Stamp
import PartSourcing.Decimal.Dyadic
import PartSourcing.Decimal.Reader
import PartSourcing.SearchId

/-!
# Stored values

What stands in one column of a stored row: nothing, an integer of 64 bits, a double or a text.
Every column prefers one of these kinds and turns what is written into it where nothing is lost
by it, so a column may well hold another kind than the one it prefers. The readers at the end
say which values each kind of field takes.
-/

namespace PartSourcing

open PartSourcing.Calendar PartSourcing.Decimal

/-- A stored value. -/
inductive Cell where
  | null
  | integer (n : Int)
  | real (x : Float)
  | text (s : String)
  deriving DecidableEq

/-- The kind of value that a column prefers. -/
inductive Affinity where
  | integer
  | real
  | text
  deriving DecidableEq, Repr

namespace Cell

/-- The greatest stored integer. -/
def maxInt : Nat := UInt64.size / 2 - 1

/-- Whether an integer can be stored. -/
def fits (n : Int) : Bool := Int64.minValue.toInt ≤ n && n ≤ maxInt

/-- A double as an integer, if it is a whole number well within the range of integers. -/
def ofWhole (x : Float) : Cell :=
  let whole := (Dyadic.ofFloat? x).bind fun d =>
    d.whole?.map fun n => if d.negative then -(n : Int) else n
  match whole with
  | some n => if n.natAbs < maxInt then .integer n else .real x
  | none => .real x

/-- The double nearest to an integer. -/
def floatOf (n : Int) : Float :=
  if n < 0 then -nearestFloat n.natAbs 0 else nearestFloat n.natAbs 0

/-- A number as a column of doubles holds it; zero has no sign there. -/
def widen : Cell → Cell
  | .integer n => .real (floatOf n)
  | .real x => .real (if x == 0.0 then 0.0 else x)
  | c => c

/-- Whether a character is a blank around a number. -/
def isSpace (c : Char) : Bool := c == ' ' || ('\t' ≤ c && c ≤ '\r')

/-- The number that a text denotes, with blanks around it. -/
def number? (s : List Char) : Option Cell :=
  let s := ((s.dropWhile isSpace).reverse.dropWhile isSpace).reverse
  let (negative, digits) := match s with
    | '-' :: r => (true, r)
    | '+' :: r => (false, r)
    | r => (false, r)
  (unsigned? digits).map fun x =>
    let x := if negative then -x else x
    match int? s with
    | some n => if fits n then .integer n else .real x
    | none => .real x

/-- **A value as a column of the given preference holds it.** -/
def settle : Affinity → Cell → Cell
  | .integer, .real x => ofWhole x
  | .integer, .text s =>
    match number? s.toList with
    | some (.real x) => ofWhole x
    | some n => n
    | none => .text s
  | .real, .text s => ((number? s.toList).map widen).getD (.text s)
  | .real, c => c.widen
  | .text, .integer n => .text (intText n)
  | _, c => c

/-- A text, or nothing. -/
def ofText? : Option String → Cell
  | some s => .text s
  | none => .null

/-- A double, or nothing. What is no number is stored as nothing. -/
def ofFloat? : Option Float → Cell
  | some x => if x.isNaN then .null else .real x
  | none => .null

/-- A quantity, or nothing. One that is too great for a column is stored as the greatest one
that is not. -/
def ofQuantity? : Option UInt64 → Cell
  | some q => .integer (min q.toNat maxInt : Nat)
  | none => .null

/-- An instant, with all digits of its fraction. -/
def ofInstant (i : Instant) : Cell := .text (Stamp.fullText i)

/-- The identifier of a search, or nothing. -/
def ofSearchId? (id : Option SearchId) : Cell := ofText? (id.map SearchId.toText)

/-- A text. -/
def asText? : Cell → Option String
  | .text s => some s
  | _ => none

/-- A text or nothing, each being a value; `none` if it is something else. -/
def asOptionalText? : Cell → Option (Option String)
  | .null => some none
  | .text s => some (some s)
  | _ => none

/-- A number or nothing; `none` if it is something else. -/
def asOptionalFloat? : Cell → Option (Option Float)
  | .null => some none
  | .real x => some (some x)
  | .integer n => some (some (floatOf n))
  | .text _ => none

/-- A quantity or nothing; `none` if it is negative or something else. -/
def asOptionalQuantity? : Cell → Option (Option UInt64)
  | .null => some none
  | .integer n => if 0 ≤ n then some (some (UInt64.ofNat n.toNat)) else none
  | _ => none

/-- A count of 32 bits. -/
def asCount? : Cell → Option UInt32
  | .integer n => if 0 ≤ n ∧ n < UInt32.size then some (UInt32.ofNat n.toNat) else none
  | _ => none

/-- An instant in the Internet format. -/
def asInstant? (c : Cell) : Option Instant := c.asText?.bind fun s => Stamp.strict? s.toList

/-- The identifier of a search or nothing; `none` if it is something else. -/
def asOptionalSearchId? (c : Cell) : Option (Option SearchId) :=
  match c.asOptionalText? with
  | some (some s) => (SearchId.parse? s).map some
  | some none => some none
  | none => none

end Cell

end PartSourcing
