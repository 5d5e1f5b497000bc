import PartSourcing.Decimal.Digits
import PartSourcing.Provider.Basic

/-!
# eBay

Offers of a marketplace. They have a title and no part number, so the part is the longest of
the search terms that the title names; if it names none, the record leaves the part open.
-/

namespace PartSourcing.Ebay

open PartSourcing.Json PartSourcing.Provider PartSourcing.Text

/-- An amount of money. -/
structure Amount where
  value : Option Loose
  currency : Option String

/-- An item of a response. -/
structure Item where
  stockNumber : Option String
  title : Option String
  price : Option Amount
  seller : Option String
  condition : Option String
  url : Option String
  quantities : List (Option Loose)

/-- Decodes an amount. -/
def Amount.decoder : Json.Decoder Amount := record do
  return {
    value := ← Fields.optional "value" Loose.decoder
    currency := ← Fields.optional "currency" Decoder.string }

/-- Decodes a seller. -/
def sellerDecoder : Json.Decoder (Option String) := record do
  return (← Fields.optional "username" Decoder.string)

/-- Decodes a statement on availability. -/
def availabilityDecoder : Json.Decoder (Option Loose) := record do
  return (← Fields.optional "estimatedAvailableQuantity" Loose.decoder)

/-- Decodes an item. -/
def Item.decoder : Json.Decoder Item := record do
  return {
    stockNumber := ← Fields.optional "itemId" Decoder.string
    title := ← Fields.optional "title" Decoder.string
    price := ← Fields.optional "price" Amount.decoder
    seller := (← Fields.optional "seller" sellerDecoder).join
    condition := ← Fields.optional "condition" Decoder.string
    url := ← Fields.optional "itemWebUrl" Decoder.string
    quantities :=
      ← Fields.orElse "estimatedAvailabilities" (Decoder.list availabilityDecoder) [] }

/-- The size of a normal form, in octets. -/
def termSize (term : String) : Nat := (PartNumber.normal term).utf8ByteSize

/-- Whether a text in normal form names a term. -/
def names (haystack term : String) : Bool :=
  let needle := PartNumber.normal term
  !needle.isEmpty && contains haystack needle

/-- Of two terms the longer one, or the second if they are equally long. -/
def longer (a b : String) : String := if termSize b < termSize a then a else b

/-- **The longest term that a title names**, the last one of those. -/
def partIn? (title : String) (terms : List String) : Option String :=
  match terms.filter (names (PartNumber.normal title)) with
  | t :: ts => some (ts.foldl longer t)
  | [] => none

/-- The listing of an item. -/
def Item.listing (i : Item) (terms : List String) : Listing where
  vendorName := given? i.seller
  part := i.title.bind fun t => partIn? t terms
  stockNumber := given? i.stockNumber
  quantity := i.quantities.findSome? id
  price := i.price.bind (·.value)
  currency := given? (i.price.bind (·.currency))
  condition := given? i.condition
  url := given? i.url

/-- Decodes the items of a response, each as it is. -/
def responseDecoder : Json.Decoder (List Json) := record do
  return (← Fields.orElse "itemSummaries" (Decoder.list Decoder.any) [])

/-- The request for a term. -/
def request (s : EbaySection) (term : String) : Except QueryError Http.Request := do
  let token ← credential s.accessToken "ebay.access_token"
  return {
    address := Http.endpoint s.baseUrl "buy/browse/v1/item_summary/search"
    parameters := [("q", term), ("limit", Decimal.natText s.limit.toNat)]
    headers := [Http.bearer token, ("x-ebay-c-marketplace-id", s.marketplaceId)] }

/-- **The provider.** -/
def provider (s : EbaySection) : Provider where
  source := .ebay
  currency := s.currency
  ready := (credential s.accessToken "ebay.access_token").map fun _ => ()
  request := request s
  payloads := fun _ body => Http.decodeText responseDecoder body
  listing := fun r req => (r.decode .ebay Item.decoder).map fun i => i.listing req.searchTerms

end PartSourcing.Ebay
