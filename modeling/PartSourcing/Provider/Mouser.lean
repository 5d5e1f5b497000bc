import PartSourcing.Provider.Basic
import PartSourcing.Sighting

/-!
# Mouser

Part number search at a franchised distributor. What goes wrong with a request is reported
inside a successful response, so the list of errors is looked at before anything else. The price
is that of the break which applies to the target quantity.
-/

namespace PartSourcing.Mouser

open PartSourcing.Json PartSourcing.Provider PartSourcing.Text

/-- The vendor of all its offers. -/
def vendorName : String := "Mouser Electronics"

/-- A part of a response. -/
structure Part where
  part : Option String
  manufacturer : Option String
  stockNumber : Option String
  availability : Option String
  breaks : List PriceBreak
  url : Option String
  leadTime : Option String

/-- Decodes a part. -/
def Part.decoder : Json.Decoder Part := record do
  return {
    part := ← Fields.optional "ManufacturerPartNumber" Decoder.string
    manufacturer := ← Fields.optional "Manufacturer" Decoder.string
    stockNumber := ← Fields.optional "MouserPartNumber" Decoder.string
    availability := ← Fields.optional "Availability" Decoder.string
    breaks := ← Fields.orElse "PriceBreaks"
      (Decoder.list (PriceBreak.decoder "Quantity" "Price" "Currency")) []
    url := ← Fields.optional "ProductDetailUrl" Decoder.string
    leadTime := ← Fields.optional "LeadTime" Decoder.string }

/-- **The quantity in a text on availability**: the count that it starts with, or else the text
as it is. -/
def availableQuantity (s : String) : Loose :=
  let count := (trimChars s.toList).takeWhile fun c => c.isDigit || c == ','
  .text (if count.isEmpty then s else String.ofList count)

/-- The listing of a part. -/
def Part.listing (p : Part) (target : UInt32) : Listing :=
  let applied := applicable? p.breaks target
  { vendorName := some vendorName
    part := given? p.part
    manufacturer := given? p.manufacturer
    stockNumber := given? p.stockNumber
    quantity := p.availability.map availableQuantity
    price := applied.map (·.price)
    currency := given? (applied.bind (·.currency))
    condition := some Condition.new.name
    leadTime := given? p.leadTime
    url := given? p.url
    isAuthorized := true }

/-- A response: the messages of its errors and its parts. -/
structure Reply where
  errors : List String
  parts : List Json

/-- Decodes the message of an error. -/
def errorDecoder (field : String) : Json.Decoder String := record do
  return (← Fields.orElse field Decoder.string "")

/-- Decodes the parts of the search results. -/
def resultsDecoder : Json.Decoder (List Json) := record do
  return (← Fields.orElse "Parts" (Decoder.list Decoder.any) [])

/-- Decodes a response. -/
def Reply.decoder : Json.Decoder Reply := record do
  let errors ← Fields.orElse "Errors" (Decoder.list (errorDecoder "Message")) []
  let results ← Fields.optional "SearchResults" resultsDecoder
  return ⟨errors, results.getD []⟩

/-- The failure that the reported errors stand for, if there are any. -/
def failure? (errors : List String) : Option QueryError :=
  if errors.isEmpty then none
  else
    let message := "; ".intercalate (errors.filterMap nonBlank?)
    if mentionsRefusal message then some (.auth message)
    else if contains (lower message) "too many" then some (.http 429 message)
    else some (.parse ("Mouser reported: " ++ message))

/-- The parts in the text of a response. -/
def payloads (body : String) : Except QueryError (List Json) := do
  let reply ← Http.decodeText Reply.decoder body
  match failure? reply.errors with
  | some e => .error e
  | none => return reply.parts

/-- The request for a term. -/
def request (s : MouserSection) (term : String) : Except QueryError Http.Request := do
  let key ← credential s.apiKey "mouser.api_key"
  return {
    method := .post
    address := Http.endpoint s.baseUrl "api/v1/search/partnumber"
    parameters := [("apiKey", key)]
    body := some (.obj [("SearchByPartRequest", .obj [
      ("mouserPartNumber", .str term), ("partSearchOptions", .str "Exact")])]) }

/-- **The provider.** -/
def provider (s : MouserSection) : Provider where
  source := .mouser
  currency := s.currency
  ready := (credential s.apiKey "mouser.api_key").map fun _ => ()
  request := request s
  payloads := fun _ body => payloads body
  listing := fun r req =>
    (r.decode .mouser Part.decoder).map fun p => p.listing req.targetQuantity

end PartSourcing.Mouser
