import PartSourcing.PartNumber
import PartSourcing.Json.Decoder
import PartSourcing.Decimal.Dyadic

/-!
# Requirements

What a buyer asks for: a part, how many of it, which other parts would do, and what a unit may
cost. `validate` states what makes a requirement worth searching for; `searchTerms` is what is
asked of every source, each part once.
-/

namespace PartSourcing

open PartSourcing.Text

/-- A buyer's ask for one part. -/
structure Requirement where
  part : String
  targetQuantity : UInt32
  substitutes : List String
  targetPrice : Option Float
  currency : String
  deriving DecidableEq

/-- The currency assumed where none is named. -/
def defaultCurrency : String := "USD"

/-- What can be wrong with a requirement. -/
inductive Requirement.Error where
  | blankPart
  | zeroQuantity
  | badPrice
  | blankCurrency
  deriving DecidableEq, Repr

/-- The fault in words. -/
def Requirement.Error.message : Requirement.Error → String
  | .blankPart => "mpn must not be empty"
  | .zeroQuantity => "target_qty must be greater than 0"
  | .badPrice => "target_price must be a positive number"
  | .blankCurrency => "currency must not be empty"

namespace Requirement

/-- **The first thing wrong**, if anything is. -/
def validate (r : Requirement) : Except Error Unit :=
  if (PartNumber.normal r.part).isEmpty then .error .blankPart
  else if r.targetQuantity = 0 then .error .zeroQuantity
  else if r.targetPrice.any fun p => !Decimal.isPositive p then .error .badPrice
  else if isAllBlank r.currency then .error .blankCurrency
  else .ok ()

/-- The terms whose normal form is neither empty nor in `seen`, trimmed, each part once. -/
def distinctTerms (seen : List String) : List String → List String
  | [] => []
  | t :: ts =>
    let k := PartNumber.normal t
    if k.isEmpty || seen.contains k then distinctTerms seen ts
    else trim t :: distinctTerms (k :: seen) ts

/-- **What is asked of a source**: the part, then each further substitute. -/
def searchTerms (r : Requirement) : List String := distinctTerms [] (r.part :: r.substitutes)

/-- Whether a part number is the requested part. -/
def isPrimary (r : Requirement) (mpn : String) : Bool := PartNumber.same r.part mpn

/-- Whether a part number is the requested part or one of its substitutes. -/
def isRequested (r : Requirement) (mpn : String) : Bool :=
  r.isPrimary mpn || r.substitutes.any fun s => PartNumber.same s mpn

open Json in
/-- Decodes a requirement; only the part and its quantity must be given. -/
def decoder : Json.Decoder Requirement := record do
  return {
    part := ← Fields.required "mpn" Decoder.string
    targetQuantity := ← Fields.required "target_qty" Decoder.uint32
    substitutes := ← Fields.orElse "substitutes" (Decoder.list Decoder.string) []
    targetPrice := ← Fields.orElse "target_price" (Decoder.nullable Decoder.float) none
    currency := ← Fields.orElse "currency" Decoder.string defaultCurrency }

/-- The JSON form. -/
def toJson (r : Requirement) : Json := .obj [
  ("mpn", .str r.part),
  ("target_qty", Json.nat r.targetQuantity.toNat),
  ("substitutes", .arr (r.substitutes.map Json.str)),
  ("target_price", Json.ofOption Json.real r.targetPrice),
  ("currency", .str r.currency)]

end Requirement

end PartSourcing
