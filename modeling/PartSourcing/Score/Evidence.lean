import PartSourcing.Score.Scoring
import PartSourcing.Sighting
import PartSourcing.Requirement

/-!
# From evidence to a score

`Evidence` is the part of a sighting, of the requirement and of the moment that scoring looks
at, and nothing else: two sightings with equal evidence score alike. Its factors and their
weighted sum are defined over any number type with a `ScoreNumber` arithmetic; `Sighting.evidence`
reads the evidence off a sighting, in doubles.

Whatever is unknown has a fallback: a quantity, a price that cannot be compared, a reliability
that is no number. Hence the options in `Evidence`.
-/

namespace PartSourcing

open PartSourcing.Calendar PartSourcing.Text

/-- What scoring looks at. -/
structure Evidence (α : Type) where
  ageSeconds : Nat
  quantity : Option UInt64
  targetQuantity : UInt32
  reliability : Option α
  populated : Nat
  standing : Standing
  /-- The price and the target price, when they can be compared. -/
  prices : Option (α × α)

namespace Evidence

open ScoreNumber

variable {α : Type} [Add α] [Sub α] [Mul α] [Div α] [LE α] [LT α] [DecidableLE α]
  [DecidableLT α] [ScoreNumber α]

/-- The factor of an age: it halves with every half-life. -/
def recency (s : Scoring α) (ageSeconds : Nat) : α :=
  let days := (ofNat ageSeconds : α) / (ofNat 86400 : α)
  let x := halved (days / s.halfLifeDays)
  if isFinite x then clampUnit x else zero

/-- The share of the target that the quantity covers, at most all of it. -/
def quantityFit (s : Scoring α) (quantity : Option UInt64) (target : UInt32) : α :=
  match quantity with
  | none => s.quantityFallback
  | some q =>
    if target = 0 then one
    else
      let share := (ofNat q.toNat : α) / (ofNat target.toNat : α)
      if share < (one : α) then share else one

/-- The factor of an excess over the target price, relative to the target price. -/
def band (b : PriceBands α) (excess : α) : α :=
  if excess ≤ (zero : α) then b.atOrBelow
  else if excess ≤ b.tolerance then b.withinTolerance
  else b.beyond

/-- The factor of a price. -/
def priceFactor (s : Scoring α) : Option (α × α) → α
  | some (price, target) => band s.bands ((price - target) / target)
  | none => s.priceFallback

/-- **The six factors.** -/
def factors (s : Scoring α) (e : Evidence α) : Factors α where
  recency := recency s e.ageSeconds
  quantityFit := quantityFit s e.quantity e.targetQuantity
  vendorReliability := (e.reliability.map clampUnit).getD s.reliabilityFallback
  completeness := (ofNat e.populated : α) / (ofNat Sighting.optionalFieldCount : α)
  sourceCredibility := s.credibility.of e.standing
  priceCompetitiveness := priceFactor s e.prices

end Evidence

/-- The greatest score. -/
def Score.most : Nat := 100

/-- **A weighted sum in percent**, rounded and kept within the scale. What is no usable number
is worth nothing. -/
def Score.percent [Mul α] [ScoreNumber α] (weighted : α) : UInt8 :=
  if ScoreNumber.isFinite weighted then
    let points := ScoreNumber.nearest (weighted * (ScoreNumber.ofNat Score.most : α))
    UInt8.ofNat (min Score.most points.toNat)
  else 0

/-- The score of some evidence in percent. -/
def Evidence.composite [Add α] [Sub α] [Mul α] [Div α] [LE α] [LT α] [DecidableLE α]
    [DecidableLT α] [ScoreNumber α] (s : Scoring α) (e : Evidence α) : UInt8 :=
  Score.percent ((e.factors s).weighted s.weights)

/-- The score of some evidence, with its explanation. -/
def Evidence.score (s : Scoring Float) (e : Evidence Float) : Score where
  factors := e.factors s
  weights := s.weights
  composite := e.composite s

namespace Sighting

/-- A number, unless it is infinite or undefined. -/
def usable? (x : Float) : Option Float := if Decimal.isFinite x then some x else none

/-- The price of a sighting and the target price, when both are known numbers in one currency
and the target is positive. -/
def comparablePrices (s : Sighting) (r : Requirement) : Option (Float × Float) := do
  let price ← s.price
  let target ← r.targetPrice
  guard (sameAsciiCase s.currency (trim r.currency))
  let price ← usable? price
  let target ← usable? target
  guard (0.0 < target)
  return (price, target)

/-- The evidence that a sighting gives for a requirement at a moment. An observation from the
future is as good as one made now. -/
def evidence (s : Sighting) (r : Requirement) (reliability : Float) (now : Instant) :
    Evidence Float where
  ageSeconds := (now.secondsSince s.observedAt).toNat
  quantity := s.quantity
  targetQuantity := r.targetQuantity
  reliability := usable? reliability
  populated := s.populated
  standing := s.standing
  prices := s.comparablePrices r

/-- **The sighting with its score.** -/
def scored (s : Sighting) (r : Requirement) (scoring : Scoring Float) (reliability : Float)
    (now : Instant) : Sighting :=
  { s with score := some ((s.evidence r reliability now).score scoring) }

/-- Scores every sighting, each with the reliability of its vendor. -/
def scoreAll (r : Requirement) (scoring : Scoring Float) (reliability : String → Float)
    (now : Instant) (sightings : List Sighting) : List Sighting :=
  sightings.map fun s => s.scored r scoring (reliability s.vendorKey) now

end Sighting

end PartSourcing
