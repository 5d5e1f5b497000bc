import PartSourcing.Decimal.Dyadic

/-!
# The arithmetic of scores

Scoring needs the four operations, comparisons, and four things besides: the naturals, a test
for values that are no usable number, the halving curve and rounding to a whole number. The
class `ScoreNumber` names these four, so that the rules of scoring are written once. Doubles are
what is computed with; a law about exact arithmetic takes a field in their place.
-/

namespace PartSourcing

/-- What scoring needs of a number type besides its operations and its order. -/
class ScoreNumber (α : Type) where
  /-- The number that counts so many. -/
  ofNat : Nat → α
  /-- Whether this is a usable number. -/
  isFinite : α → Bool
  /-- One half to the power of the argument. -/
  halved : α → α
  /-- The nearest integer, a half going away from zero. -/
  nearest : α → Int

namespace ScoreNumber

/-- The double nearest to a natural. -/
def floatOfNat (n : Nat) : Float := Float.ofScientific n false 0

/-- An integer beyond every finite double, which stands for infinity where an integer is asked
for. -/
def beyondFloat : Int := Int.ofNat (Nat.pow 2 1024)

/-- The integer nearest to a double. -/
def nearestInt (x : Float) : Int :=
  match Decimal.Dyadic.ofFloat? x with
  | some d => if d.negative then -(d.nearest : Int) else d.nearest
  | none => if 0.0 < x then beyondFloat else -beyondFloat

instance : ScoreNumber Float where
  ofNat := floatOfNat
  isFinite := Decimal.isFinite
  halved x := Float.exp2 (-x)
  nearest := nearestInt

variable {α : Type} [LE α] [LT α] [DecidableLE α] [DecidableLT α] [ScoreNumber α]

/-- Zero. -/
def zero : α := ofNat 0

/-- One. -/
def one : α := ofNat 1

/-- The nearest value in the interval from zero to one. -/
def clampUnit (x : α) : α := if x < (zero : α) then zero else if (one : α) < x then one else x

/-- Whether a value lies in the interval from zero to one. -/
def isUnit (x : α) : Bool := (zero : α) ≤ x && x ≤ (one : α)

end ScoreNumber

end PartSourcing
