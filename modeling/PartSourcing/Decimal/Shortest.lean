import PartSourcing.Decimal.Dyadic

/-!
# The shortest decimal of a double

Among the decimals that a reader would round to a given double, take one with the fewest
digits, and of those the nearest. The reals that round to `m · 2 ^ e` form an interval around
it, closed if `m` is even; for one digit, two digits, and so on, the two neighbours of the
value on that decimal grid are tried in exact arithmetic. Seventeen digits always suffice.
-/

namespace PartSourcing.Decimal

/-- A decimal `digits · 10 ^ exponent`. -/
structure Scaled where
  digits : Nat
  exponent : Int
  deriving DecidableEq, Repr

namespace Shortest

/-- The powers of ten on both sides of a fraction bar, so that `10 ^ k` is their quotient. -/
def tenTo (k : Int) : Nat × Nat :=
  if 0 ≤ k then (Nat.pow 10 k.toNat, 1) else (1, Nat.pow 10 (-k).toNat)

/-- Whether `10 ^ k ≤ n / d`. -/
def reaches (n d : Nat) (k : Int) : Bool :=
  let (p, q) := tenTo k
  p * d ≤ n * q

/-- The decimal order of magnitude of `n / d`, that is the greatest `k` with
`10 ^ k ≤ n / d`, found from the binary one, which leaves at most two candidates above it. -/
def magnitude (n d : Nat) : Int :=
  let binary : Int := (n.log2 : Int) - d.log2 - 1
  let low := (binary * 1233).fdiv 4096 - 1
  if reaches n d (low + 3) then low + 3
  else if reaches n d (low + 2) then low + 2
  else if reaches n d (low + 1) then low + 1
  else low

/-- What the search compares with: the value and the ends of its interval, as numerators over
one denominator. -/
structure Target where
  low : Nat
  value : Nat
  high : Nat
  denominator : Nat
  closed : Bool

/-- The interval of reals that round to a positive double. It reaches half a step up, and half
a step down unless the mantissa is the least normal one, where the step below is half as
wide. -/
def Target.of (d : Dyadic) : Target :=
  let below := if d.mantissa = Dyadic.hidden && Dyadic.leastExponent < d.exponent then 1 else 2
  let e := d.exponent - 2
  let scale := if 0 ≤ e then Nat.pow 2 e.toNat else 1
  { low := (4 * d.mantissa - below) * scale
    value := 4 * d.mantissa * scale
    high := (4 * d.mantissa + 2) * scale
    denominator := if 0 ≤ e then 1 else Nat.pow 2 (-e).toNat
    closed := d.mantissa % 2 == 0 }

/-- Whether `c · 10 ^ k` lies in the interval. -/
def Target.admits (t : Target) (k : Int) (c : Nat) : Bool :=
  let (p, q) := tenTo k
  let x := c * p * t.denominator
  if t.closed then t.low * q ≤ x && x ≤ t.high * q
  else t.low * q < x && x < t.high * q

/-- The point nearest to the value on the grid of multiples of `10 ^ k`, if the interval has
one of the value's two neighbours there; a tie goes to the even one. -/
def Target.onGrid? (t : Target) (k : Int) : Option Nat :=
  let (p, q) := tenTo k
  let step := p * t.denominator
  let v := t.value * q
  let c := v / step
  match t.admits k c, t.admits k (c + 1) with
  | true, true =>
    let down := v - c * step
    let up := (c + 1) * step - v
    if down < up || (down == up && c % 2 == 0) then some c else some (c + 1)
  | true, false => some c
  | false, true => some (c + 1)
  | false, false => none

/-- The first grid with a point in the interval, finer by a digit each time; `left` is the
number of grids still to be tried. -/
def Target.search (t : Target) (top : Int) : (left : Nat) → Scaled
  | 0 => ⟨t.value / t.denominator, 0⟩
  | left + 1 =>
    let k := top - (16 - (left : Int))
    match t.onGrid? k with
    | some c => ⟨c, k⟩
    | none => t.search top left

/-- Moves trailing zeros of the digits into the exponent; `left` bounds their number. -/
def strip : (left : Nat) → Scaled → Scaled
  | 0, s => s
  | left + 1, s => if s.digits % 10 = 0 then strip left ⟨s.digits / 10, s.exponent + 1⟩ else s

end Shortest

/-- **The shortest decimal** that reads back as the given magnitude. Zero is `0 · 10 ^ 0`. -/
def shortest (d : Dyadic) : Scaled :=
  if d.mantissa = 0 then ⟨0, 0⟩
  else
    let t := Shortest.Target.of d
    Shortest.strip 17 (t.search (Shortest.magnitude t.value t.denominator) 17)

end PartSourcing.Decimal
