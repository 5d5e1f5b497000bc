import PartSourcing.Json.Decoder

/-!
# Scores

A score explains the rank of an offer by six factors, each weighted. The structures are over
any number type, so that one definition serves the doubles that are computed with and the
exact numbers that laws are stated in.
-/

namespace PartSourcing

/-- The weight of each factor. -/
structure Weights (α : Type) where
  recency : α
  quantityFit : α
  vendorReliability : α
  completeness : α
  sourceCredibility : α
  price : α
  deriving DecidableEq

/-- The value of each factor. -/
structure Factors (α : Type) where
  recency : α
  quantityFit : α
  vendorReliability : α
  completeness : α
  sourceCredibility : α
  priceCompetitiveness : α
  deriving DecidableEq

namespace Weights

/-- The weights in their order. -/
def toList (w : Weights α) : List α :=
  [w.recency, w.quantityFit, w.vendorReliability, w.completeness, w.sourceCredibility, w.price]

/-- Every weight mapped. -/
def map (f : α → β) (w : Weights α) : Weights β :=
  ⟨f w.recency, f w.quantityFit, f w.vendorReliability, f w.completeness, f w.sourceCredibility,
    f w.price⟩

/-- The sum of the weights, added from left to right. -/
def sum [Add α] (w : Weights α) : α :=
  w.recency + w.quantityFit + w.vendorReliability + w.completeness + w.sourceCredibility + w.price

/-- The weights used unless configured otherwise. -/
def default : Weights Float := ⟨0.20, 0.20, 0.15, 0.10, 0.15, 0.20⟩

open Json in
/-- Decodes weights; one that is left out keeps its usual value. -/
def decoder : Json.Decoder (Weights Float) := record do
  return {
    recency := ← Fields.orElse "recency" Decoder.float default.recency
    quantityFit := ← Fields.orElse "quantity_fit" Decoder.float default.quantityFit
    vendorReliability :=
      ← Fields.orElse "vendor_reliability" Decoder.float default.vendorReliability
    completeness := ← Fields.orElse "completeness" Decoder.float default.completeness
    sourceCredibility :=
      ← Fields.orElse "source_credibility" Decoder.float default.sourceCredibility
    price := ← Fields.orElse "price" Decoder.float default.price }

/-- The JSON form. -/
def toJson (w : Weights Float) : Json := .obj [
  ("recency", .real w.recency),
  ("quantity_fit", .real w.quantityFit),
  ("vendor_reliability", .real w.vendorReliability),
  ("completeness", .real w.completeness),
  ("source_credibility", .real w.sourceCredibility),
  ("price", .real w.price)]

end Weights

namespace Factors

/-- **The weighted sum**, added from left to right. -/
def weighted [Add α] [Mul α] (f : Factors α) (w : Weights α) : α :=
  w.recency * f.recency + w.quantityFit * f.quantityFit +
    w.vendorReliability * f.vendorReliability + w.completeness * f.completeness +
    w.sourceCredibility * f.sourceCredibility + w.price * f.priceCompetitiveness

end Factors

/-- A score: the factors, the weights they were combined with, and the result in percent. -/
structure Score where
  factors : Factors Float
  weights : Weights Float
  composite : UInt8
  deriving DecidableEq

namespace Score

open Json in
/-- Decodes a score. -/
def decoder : Json.Decoder Score := record do
  let recency ← Fields.required "recency" Decoder.float
  let quantityFit ← Fields.required "quantity_fit" Decoder.float
  let vendorReliability ← Fields.required "vendor_reliability" Decoder.float
  let completeness ← Fields.required "completeness" Decoder.float
  let sourceCredibility ← Fields.required "source_credibility" Decoder.float
  let priceCompetitiveness ← Fields.required "price_competitiveness" Decoder.float
  let weights ← Fields.required "weights" Weights.decoder
  let composite ← Fields.required "composite" Decoder.uint8
  return {
    factors := { recency, quantityFit, vendorReliability, completeness, sourceCredibility,
                 priceCompetitiveness }
    weights, composite }

/-- The JSON form. -/
def toJson (s : Score) : Json := .obj [
  ("recency", .real s.factors.recency),
  ("quantity_fit", .real s.factors.quantityFit),
  ("vendor_reliability", .real s.factors.vendorReliability),
  ("completeness", .real s.factors.completeness),
  ("source_credibility", .real s.factors.sourceCredibility),
  ("price_competitiveness", .real s.factors.priceCompetitiveness),
  ("weights", s.weights.toJson),
  ("composite", Json.nat s.composite.toNat)]

end Score

end PartSourcing
