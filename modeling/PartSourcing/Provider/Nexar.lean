import PartSourcing.Decimal.Digits
import PartSourcing.Provider.Basic

/-!
# Nexar

Offers of many sellers, brokers and franchised ones alike, for the parts that match. A response
nests offers in sellers in parts; it is flattened so that every offer becomes a record of its
own, with the part and the seller it stands under.
-/

namespace PartSourcing.Nexar

open PartSourcing.Json PartSourcing.Provider

/-- A seller of a part. -/
structure Seller where
  name : Option String
  isAuthorized : Bool
  offers : List Json

/-- A part with its sellers. -/
structure Part where
  part : Option String
  manufacturer : Option String
  sellers : List Seller

/-- A response: the messages of its errors and its parts. -/
structure Reply where
  errors : List String
  parts : List Part

/-- Decodes a company. -/
def companyDecoder : Json.Decoder (Option String) := record do
  return (← Fields.optional "name" Decoder.string)

/-- Decodes a seller. -/
def Seller.decoder : Json.Decoder Seller := record do
  return {
    name := (← Fields.optional "company" companyDecoder).join
    isAuthorized := ← Fields.orElse "isAuthorized" Decoder.bool false
    offers := ← Fields.orElse "offers" (Decoder.list Decoder.any) [] }

/-- Decodes a part. -/
def Part.decoder : Json.Decoder Part := record do
  return {
    part := ← Fields.optional "mpn" Decoder.string
    manufacturer := (← Fields.optional "manufacturer" companyDecoder).join
    sellers := ← Fields.orElse "sellers" (Decoder.list Seller.decoder) [] }

/-- Decodes one result, which may be without a part. -/
def resultDecoder : Json.Decoder (Option Part) := record do
  return (← Fields.optional "part" Part.decoder)

/-- Decodes the results of a search. -/
def resultsDecoder : Json.Decoder (List (Option Part)) := record do
  return (← Fields.orElse "results" (Decoder.list resultDecoder) [])

/-- Decodes the data of a response. -/
def dataDecoder : Json.Decoder (List Part) := record do
  let results ← Fields.optional "supSearchMpn" resultsDecoder
  return (results.getD []).filterMap id

/-- Decodes an error. -/
def errorDecoder : Json.Decoder String := record do
  return (← Fields.orElse "message" Decoder.string "")

/-- Decodes a response. -/
def Reply.decoder : Json.Decoder Reply := record do
  let data ← Fields.optional "data" dataDecoder
  let errors ← Fields.orElse "errors" (Decoder.list errorDecoder) []
  return ⟨errors, data.getD []⟩

/-- One offer with the part and the seller it stands under. -/
structure FlatOffer where
  part : Option String
  manufacturer : Option String
  seller : Option String
  isAuthorized : Bool
  offer : Json

/-- The offers of one part. -/
def Part.flatten (p : Part) : List FlatOffer :=
  p.sellers.flatMap fun s => s.offers.map fun offer =>
    ⟨p.part, p.manufacturer, s.name, s.isAuthorized, offer⟩

/-- **The offers of a response**, in its order. -/
def Reply.flatten (r : Reply) : List FlatOffer := r.parts.flatMap Part.flatten

namespace FlatOffer

/-- The record of an offer. -/
def toJson (o : FlatOffer) : Json := .obj [
  ("mpn", Json.ofOption .str o.part),
  ("manufacturer", Json.ofOption .str o.manufacturer),
  ("seller", Json.ofOption .str o.seller),
  ("authorized", .bool o.isAuthorized),
  ("offer", o.offer)]

/-- Decodes the record of an offer. -/
def decoder : Json.Decoder FlatOffer := record do
  return {
    part := ← Fields.optional "mpn" Decoder.string
    manufacturer := ← Fields.optional "manufacturer" Decoder.string
    seller := ← Fields.optional "seller" Decoder.string
    isAuthorized := ← Fields.orElse "authorized" Decoder.bool false
    offer := ← Fields.required "offer" Decoder.any }

end FlatOffer

/-- What an offer says of itself. -/
structure Offer where
  stockNumber : Option String
  quantity : Option Loose
  url : Option String
  leadDays : Option UInt32
  prices : List PriceBreak

/-- Decodes an offer. -/
def Offer.decoder : Json.Decoder Offer := record do
  return {
    stockNumber := ← Fields.optional "sku" Decoder.string
    quantity := ← Fields.optional "inventoryLevel" Loose.decoder
    url := ← Fields.optional "clickUrl" Decoder.string
    leadDays := ← Fields.optional "factoryLeadDays" Decoder.uint32
    prices := ← Fields.orElse "prices"
      (Decoder.list (PriceBreak.decoder "quantity" "price" "currency")) [] }

/-- The listing of an offer. Its standing is that of a franchised distributor exactly when the
seller is an authorized one. -/
def Offer.listing (o : Offer) (f : FlatOffer) (target : UInt32) : Listing :=
  let applied := applicable? o.prices target
  { vendorName := given? f.seller
    part := given? f.part
    manufacturer := given? f.manufacturer
    stockNumber := given? o.stockNumber
    quantity := o.quantity
    price := applied.map (·.price)
    currency := given? (applied.bind (·.currency))
    leadTime := o.leadDays.map fun d => Decimal.natText d.toNat ++ " days"
    url := given? o.url
    isAuthorized := f.isAuthorized
    standing := some (if f.isAuthorized then .authorizedDistributor else .broker) }

/-- The listing of a record. -/
def listing (r : RawRecord) (req : Requirement) : Except RawRecord.Fault Listing := do
  let f ← r.decode .nexar FlatOffer.decoder
  let o ← (Json.decode Offer.decoder f.offer).mapError (.malformed .nexar)
  return o.listing f req.targetQuantity

/-- The failure that the reported errors stand for, if there are any. -/
def failure? (errors : List String) : Option QueryError :=
  if errors.isEmpty then none
  else
    let message := "; ".intercalate errors
    if mentionsRefusal message then some (.auth message)
    else some (.parse ("Nexar reported: " ++ message))

/-- The records in the text of a response. -/
def payloads (body : String) : Except QueryError (List Json) := do
  let reply ← Http.decodeText Reply.decoder body
  match failure? reply.errors with
  | some e => .error e
  | none => return reply.flatten.map FlatOffer.toJson

/-- What is asked, with the term, the number of parts and the currency left open. -/
def searchQuery : String := "\n".intercalate [
  "query SupplySearch($q: String!, $limit: Int!, $currency: String!) \x7b",
  "  supSearchMpn(q: $q, limit: $limit, currency: $currency) \x7b",
  "    results \x7b",
  "      part \x7b",
  "        mpn",
  "        manufacturer \x7b name \x7d",
  "        sellers(includeBrokers: true) \x7b",
  "          company \x7b name \x7d",
  "          isAuthorized",
  "          offers \x7b",
  "            sku",
  "            inventoryLevel",
  "            clickUrl",
  "            factoryLeadDays",
  "            prices \x7b quantity price currency \x7d",
  "          \x7d",
  "        \x7d",
  "      \x7d",
  "    \x7d",
  "  \x7d",
  "\x7d"]

/-- The request for a term. -/
def request (s : NexarSection) (term : String) : Except QueryError Http.Request := do
  let token ← credential s.accessToken "nexar.access_token"
  return {
    method := .post
    address := Http.endpoint s.baseUrl "graphql"
    headers := [Http.bearer token]
    body := some (.obj [
      ("query", .str searchQuery),
      ("variables", .obj [
        ("q", .str term), ("limit", Json.nat s.limit.toNat), ("currency", .str s.currency)])]) }

/-- **The provider.** -/
def provider (s : NexarSection) : Provider where
  source := .nexar
  currency := s.currency
  ready := (credential s.accessToken "nexar.access_token").map fun _ => ()
  request := request s
  payloads := fun _ body => payloads body
  listing := listing

end PartSourcing.Nexar
