import PartSourcing.Decimal.Written
import PartSourcing.Score.Arithmetic
import PartSourcing.Score.Basic
import PartSourcing.Source

/-!
# How offers are scored

The curves and fallbacks that turn evidence into factors. `validate` is what makes a scoring
trustworthy: every constant that can become a factor lies between zero and one, the half-life
is positive, and the weights are not negative and sum to one up to a millionth.
-/

namespace PartSourcing

/-- The price factor for each band of the excess over the target price. -/
structure PriceBands (α : Type) where
  tolerance : α
  atOrBelow : α
  withinTolerance : α
  beyond : α
  deriving DecidableEq

/-- The credibility of each standing. -/
structure Credibility (α : Type) where
  authorizedDistributor : α
  marketplace : α
  broker : α
  scrape : α
  deriving DecidableEq

/-- The credibility of evidence of the given standing. -/
def Credibility.of (c : Credibility α) : Standing → α
  | .authorizedDistributor => c.authorizedDistributor
  | .marketplace => c.marketplace
  | .broker => c.broker
  | .scrape => c.scrape

/-- Weights, curves and fallbacks of scoring. -/
structure Scoring (α : Type) where
  weights : Weights α
  halfLifeDays : α
  quantityFallback : α
  priceFallback : α
  reliabilityFallback : α
  bands : PriceBands α
  credibility : Credibility α
  deriving DecidableEq

/-- What can be wrong with a scoring. -/
inductive Scoring.Fault (α : Type) where
  | badWeight
  | weightSum (sum : α)
  | badHalfLife
  | badTolerance
  | outsideUnit (field : String) (value : α)
  deriving DecidableEq

/-- The fault in words. -/
def Scoring.Fault.message : Scoring.Fault Float → String
  | .badWeight => "score weights must be non-negative numbers"
  | .weightSum s => "score weights must sum to 1, got " ++ Decimal.plain s
  | .badHalfLife => "recency_half_life_days must be greater than 0"
  | .badTolerance => "price_bands.tolerance must be >= 0"
  | .outsideUnit f x => f ++ " must be within [0, 1], got " ++ Decimal.plain x

section Validation

variable {α : Type} [Add α] [Sub α] [Div α] [LE α] [LT α] [DecidableLE α] [DecidableLT α]
  [ScoreNumber α]

open ScoreNumber

/-- Whether two numbers differ by at most a millionth. -/
def Weights.isNear (x y : α) : Bool :=
  let d := if x < y then y - x else x - y
  d ≤ (one : α) / (ofNat 1000000 : α)

/-- The first thing wrong with the weights, if anything is. -/
def Weights.validate (w : Weights α) : Except (Scoring.Fault α) Unit :=
  if w.toList.any fun x => !isFinite x || x < (zero : α) then .error .badWeight
  else if !isNear w.sum one then .error (.weightSum w.sum)
  else .ok ()

/-- The constants that can become factors, by the names they are configured under. -/
def Scoring.unitFields (s : Scoring α) : List (String × α) := [
  ("quantity_unknown_fallback", s.quantityFallback),
  ("price_unknown_fallback", s.priceFallback),
  ("reliability_unknown_fallback", s.reliabilityFallback),
  ("price_bands.at_or_below", s.bands.atOrBelow),
  ("price_bands.within_tolerance", s.bands.withinTolerance),
  ("price_bands.beyond", s.bands.beyond),
  ("credibility.authorized_distributor", s.credibility.authorizedDistributor),
  ("credibility.marketplace", s.credibility.marketplace),
  ("credibility.broker", s.credibility.broker),
  ("credibility.scrape", s.credibility.scrape)]

/-- **The first thing wrong with a scoring**, if anything is. -/
def Scoring.validate (s : Scoring α) : Except (Scoring.Fault α) Unit := do
  s.weights.validate
  if !isFinite s.halfLifeDays || s.halfLifeDays ≤ (zero : α) then throw .badHalfLife
  if !isFinite s.bands.tolerance || s.bands.tolerance < (zero : α) then throw .badTolerance
  match s.unitFields.find? fun (_, x) => !isUnit x with
  | some (field, x) => throw (.outsideUnit field x)
  | none => return ()

end Validation

namespace PriceBands

/-- The bands used unless configured otherwise. -/
def default : PriceBands Float := ⟨0.10, 1.0, 0.6, 0.2⟩

open Json in
/-- Decodes bands; a value that is left out keeps its usual value. -/
def decoder : Json.Decoder (PriceBands Float) := record do
  return {
    tolerance := ← Fields.orElse "tolerance" Decoder.float default.tolerance
    atOrBelow := ← Fields.orElse "at_or_below" Decoder.float default.atOrBelow
    withinTolerance :=
      ← Fields.orElse "within_tolerance" Decoder.float default.withinTolerance
    beyond := ← Fields.orElse "beyond" Decoder.float default.beyond }

/-- The JSON form. -/
def toJson (b : PriceBands Float) : Json := .obj [
  ("tolerance", .real b.tolerance),
  ("at_or_below", .real b.atOrBelow),
  ("within_tolerance", .real b.withinTolerance),
  ("beyond", .real b.beyond)]

end PriceBands

namespace Credibility

/-- The credibility used unless configured otherwise. -/
def default : Credibility Float := ⟨1.0, 0.7, 0.5, 0.3⟩

open Json in
/-- Decodes a credibility table; a value that is left out keeps its usual value. -/
def decoder : Json.Decoder (Credibility Float) := record do
  return {
    authorizedDistributor :=
      ← Fields.orElse "authorized_distributor" Decoder.float default.authorizedDistributor
    marketplace := ← Fields.orElse "marketplace" Decoder.float default.marketplace
    broker := ← Fields.orElse "broker" Decoder.float default.broker
    scrape := ← Fields.orElse "scrape" Decoder.float default.scrape }

/-- The JSON form. -/
def toJson (c : Credibility Float) : Json := .obj [
  ("authorized_distributor", .real c.authorizedDistributor),
  ("marketplace", .real c.marketplace),
  ("broker", .real c.broker),
  ("scrape", .real c.scrape)]

end Credibility

namespace Scoring

/-- The scoring used unless configured otherwise. -/
def default : Scoring Float where
  weights := Weights.default
  halfLifeDays := 30.0
  quantityFallback := 0.5
  priceFallback := 0.5
  reliabilityFallback := 0.5
  bands := PriceBands.default
  credibility := Credibility.default

open Json in
/-- Decodes a scoring; what is left out keeps its usual value. -/
def decoder : Json.Decoder (Scoring Float) := record do
  return {
    weights := ← Fields.orElse "weights" Weights.decoder default.weights
    halfLifeDays := ← Fields.orElse "recency_half_life_days" Decoder.float default.halfLifeDays
    quantityFallback :=
      ← Fields.orElse "quantity_unknown_fallback" Decoder.float default.quantityFallback
    priceFallback := ← Fields.orElse "price_unknown_fallback" Decoder.float default.priceFallback
    reliabilityFallback :=
      ← Fields.orElse "reliability_unknown_fallback" Decoder.float default.reliabilityFallback
    bands := ← Fields.orElse "price_bands" PriceBands.decoder default.bands
    credibility := ← Fields.orElse "credibility" Credibility.decoder default.credibility }

/-- The JSON form. -/
def toJson (s : Scoring Float) : Json := .obj [
  ("weights", s.weights.toJson),
  ("recency_half_life_days", .real s.halfLifeDays),
  ("quantity_unknown_fallback", .real s.quantityFallback),
  ("price_unknown_fallback", .real s.priceFallback),
  ("reliability_unknown_fallback", .real s.reliabilityFallback),
  ("price_bands", s.bands.toJson),
  ("credibility", s.credibility.toJson)]

end Scoring

end PartSourcing
