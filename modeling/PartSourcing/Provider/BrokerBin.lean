import PartSourcing.Provider.Basic

/-!
# BrokerBin

Stock of independent brokers. How soon a broker ships is found in its description, if at all.
-/

namespace PartSourcing.BrokerBin

open PartSourcing.Json PartSourcing.Provider PartSourcing.Text

/-- How many offers are asked for. -/
def pageSize : String := "100"

/-- An offer of a response. -/
structure Offer where
  company : Option String
  part : Option String
  manufacturer : Option String
  condition : Option String
  quantity : Option Loose
  price : Option Loose
  currency : Option String
  description : Option String
  url : Option String

/-- Decodes an offer. -/
def Offer.decoder : Json.Decoder Offer := record do
  return {
    company := ← Fields.optional "company" Decoder.string
    part := ← Fields.optional "part" Decoder.string
    manufacturer := ← Fields.optional "mfg" Decoder.string
    condition := ← Fields.optional "cond" Decoder.string
    quantity := ← Fields.optional "qty" Loose.decoder
    price := ← Fields.optional "price" Loose.decoder
    currency := ← Fields.optional "currency" Decoder.string
    description := ← Fields.optional "description" Decoder.string
    url := ← Fields.optional "url" Decoder.string }

/-- Whether a description tells how soon the stock ships. -/
def tellsLeadTime (description : String) : Bool :=
  let d := lower description
  contains d "stock" || contains d "week"

/-- The listing of an offer. -/
def Offer.listing (o : Offer) : Listing where
  vendorName := given? o.company
  part := given? o.part
  manufacturer := given? o.manufacturer
  quantity := o.quantity
  price := o.price
  currency := given? o.currency
  condition := given? o.condition
  leadTime := (given? o.description).filter tellsLeadTime
  url := given? o.url

/-- Decodes the offers of a response, each as it is. -/
def responseDecoder : Json.Decoder (List Json) := record do
  return (← Fields.orElse "data" (Decoder.list Decoder.any) [])

/-- The request for a term. -/
def request (s : BrokerBinSection) (term : String) : Except QueryError Http.Request := do
  let key ← credential s.apiKey "brokerbin.api_key"
  return {
    address := Http.endpoint s.baseUrl "v2/part/search"
    parameters := [("query", term), ("size", pageSize)]
    headers := [Http.bearer key] }

/-- **The provider.** -/
def provider (s : BrokerBinSection) : Provider where
  source := .brokerBin
  currency := s.currency
  ready := (credential s.apiKey "brokerbin.api_key").map fun _ => ()
  request := request s
  payloads := fun _ body => Http.decodeText responseDecoder body
  listing := fun r _ => (r.decode .brokerBin Offer.decoder).map Offer.listing

end PartSourcing.BrokerBin
