import PartSourcing.Decimal.Written
import PartSourcing.Provider.Basic
import PartSourcing.Sighting

/-!
# DigiKey

Keyword search at a franchised distributor. Everything found is its own new stock.
-/

namespace PartSourcing.DigiKey

open PartSourcing.Json PartSourcing.Provider

/-- The vendor of all its offers. -/
def vendorName : String := "Digi-Key"

/-- How many products are asked for. -/
def resultLimit : Nat := 25

/-- A product of a response. -/
structure Product where
  part : Option String
  manufacturer : Option String
  quantity : Option Loose
  price : Option Loose
  url : Option String
  stockNumbers : List (Option String)
  leadWeeks : Option Loose

/-- Decodes a record with one optional text. -/
def textIn (field : String) : Json.Decoder (Option String) := record do
  return (← Fields.optional field Decoder.string)

/-- Decodes a product. -/
def Product.decoder : Json.Decoder Product := record do
  return {
    part := ← Fields.optional "ManufacturerProductNumber" Decoder.string
    manufacturer := (← Fields.optional "Manufacturer" (textIn "Name")).join
    quantity := ← Fields.optional "QuantityAvailable" Loose.decoder
    price := ← Fields.optional "UnitPrice" Loose.decoder
    url := ← Fields.optional "ProductUrl" Decoder.string
    stockNumbers :=
      ← Fields.orElse "ProductVariations" (Decoder.list (textIn "DigiKeyProductNumber")) []
    leadWeeks := ← Fields.optional "ManufacturerLeadWeeks" Loose.decoder }

/-- The lead time in words. -/
def leadTime? : Loose → Option String
  | .number x => some (Decimal.plain x ++ " weeks")
  | .text s => (Text.nonBlank? s).map (· ++ " weeks")

/-- The listing of a product. -/
def Product.listing (p : Product) : Listing where
  vendorName := some vendorName
  part := given? p.part
  manufacturer := given? p.manufacturer
  stockNumber := given? (p.stockNumbers.findSome? id)
  quantity := p.quantity
  price := p.price
  condition := some Condition.new.name
  leadTime := p.leadWeeks.bind leadTime?
  url := given? p.url
  isAuthorized := true

/-- Decodes the products of a response, each as it is. -/
def responseDecoder : Json.Decoder (List Json) := record do
  return (← Fields.orElse "Products" (Decoder.list Decoder.any) [])

/-- The request for a term. -/
def request (s : DigiKeySection) (term : String) : Except QueryError Http.Request := do
  let clientId ← credential s.clientId "digikey.client_id"
  let token ← credential s.accessToken "digikey.access_token"
  return {
    method := .post
    address := Http.endpoint s.baseUrl "products/v4/search/keyword"
    headers := [Http.bearer token, ("x-digikey-client-id", clientId),
      ("x-digikey-locale-currency", s.currency)]
    body := some (.obj [("Keywords", .str term), ("Limit", Json.nat resultLimit)]) }

/-- **The provider.** -/
def provider (s : DigiKeySection) : Provider where
  source := .digiKey
  currency := s.currency
  ready := do
    let _ ← credential s.clientId "digikey.client_id"
    let _ ← credential s.accessToken "digikey.access_token"
  request := request s
  payloads := fun _ body => Http.decodeText responseDecoder body
  listing := fun r _ => (r.decode .digiKey Product.decoder).map Product.listing

end PartSourcing.DigiKey
