/-!
# The exact value of a double

A finite double is `± mantissa · 2 ^ exponent`. Rules that must be exact about a number
(whether it is whole, which whole number is nearest, which of two is less) are stated on that
value and not through floating-point operations, so that they hold as facts about integers.
-/

namespace PartSourcing.Decimal

/-- A signed integer times a power of two. -/
structure Dyadic where
  negative : Bool
  mantissa : Nat
  exponent : Int
  deriving DecidableEq, Repr

namespace Dyadic

/-- The smallest exponent of a double, that of the subnormal numbers. -/
def leastExponent : Int := -1074

/-- The weight of the leading bit of a normal mantissa, which the format leaves out. -/
def hidden : Nat := Nat.pow 2 52

/-- The weight of the sign bit. -/
def signBit : Nat := Nat.pow 2 63

/-- **The value of a double**; `none` for the infinities and for what is no number. -/
def ofFloat? (x : Float) : Option Dyadic :=
  let bits := x.toBits.toNat
  let negative := bits / signBit == 1
  let biased := bits % signBit / hidden
  let fraction := bits % hidden
  if biased = 2047 then none
  else if biased = 0 then some ⟨negative, fraction, leastExponent⟩
  else some ⟨negative, hidden + fraction, Int.ofNat biased - 1075⟩

/-- The magnitude as a fraction of naturals; the denominator is a power of two. -/
def fraction (d : Dyadic) : Nat × Nat :=
  if 0 ≤ d.exponent then (d.mantissa * Nat.pow 2 d.exponent.toNat, 1)
  else (d.mantissa, Nat.pow 2 (-d.exponent).toNat)

/-- The magnitude, if it is a whole number. -/
def whole? (d : Dyadic) : Option Nat :=
  let (n, m) := d.fraction
  if n % m = 0 then some (n / m) else none

/-- The whole number nearest to the magnitude; a half goes up. -/
def nearest (d : Dyadic) : Nat :=
  let (n, m) := d.fraction
  (2 * n + m) / (2 * m)

end Dyadic

/-- **The order of all doubles**, every bit pattern having its own place: negative numbers by
falling magnitude, then positive ones by rising magnitude, negative zero before zero and what
is no number at the ends. -/
def totalKey (x : Float) : Int :=
  let bits := x.toBits.toNat
  let magnitude := bits % Dyadic.signBit
  if bits / Dyadic.signBit = 1 then -1 - Int.ofNat magnitude else Int.ofNat magnitude

/-- Whether a double is a number with a value: neither infinite nor undefined. -/
def isFinite (x : Float) : Bool := (Dyadic.ofFloat? x).isSome

/-- Whether a double is a number greater than zero. -/
def isPositive (x : Float) : Bool := isFinite x && 0.0 < x

/-- The natural that a double denotes exactly, if it denotes one. Zero counts in either sign. -/
def wholeNat? (x : Float) : Option Nat :=
  match Dyadic.ofFloat? x with
  | some d =>
    match d.whole? with
    | some n => if d.negative && n != 0 then none else some n
    | none => none
  | none => none

theorem Dyadic.fraction_den_pos (d : Dyadic) : 0 < d.fraction.2 := by
  unfold fraction
  split
  · exact Nat.one_pos
  · exact Nat.two_pow_pos _

end PartSourcing.Decimal
