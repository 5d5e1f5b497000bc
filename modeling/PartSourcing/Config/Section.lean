import PartSourcing.Json.Decoder
import PartSourcing.Requirement
import PartSourcing.Source

/-!
# Settings of the sources

One section for each source. A source takes part in a search when its section is there and
carries the credentials that the source asks for; the one that is read from public pages asks
for none.
-/

namespace PartSourcing

open PartSourcing.Text

/-- A credential. It is shown nowhere but in the requests that need it. -/
structure Secret where
  text : String
  deriving DecidableEq

namespace Secret

/-- Decodes a credential. -/
def decoder : Json.Decoder Secret := fun d j => (Json.Decoder.string d j).map Secret.mk

/-- The JSON form, with which configurations are saved. -/
def toJson (s : Secret) : Json := .str s.text

/-- Whether a credential is given and is not blank. -/
def isGiven (s : Option Secret) : Bool := s.any fun s => !isAllBlank s.text

end Secret

/-- Settings of DigiKey. -/
structure DigiKeySection where
  clientId : Option Secret := none
  accessToken : Option Secret := none
  baseUrl : String := "https://api.digikey.com"
  currency : String := defaultCurrency
  deriving DecidableEq

/-- Settings of Mouser. -/
structure MouserSection where
  apiKey : Option Secret := none
  baseUrl : String := "https://api.mouser.com"
  currency : String := defaultCurrency
  deriving DecidableEq

/-- Settings of Nexar. -/
structure NexarSection where
  accessToken : Option Secret := none
  baseUrl : String := "https://api.nexar.com"
  currency : String := defaultCurrency
  limit : UInt32 := 10
  deriving DecidableEq

/-- Settings of BrokerBin. -/
structure BrokerBinSection where
  apiKey : Option Secret := none
  baseUrl : String := "https://search.brokerbin.com/api"
  currency : String := defaultCurrency
  deriving DecidableEq

/-- Settings of eBay. -/
structure EbaySection where
  accessToken : Option Secret := none
  baseUrl : String := "https://api.ebay.com"
  currency : String := defaultCurrency
  marketplaceId : String := "EBAY_US"
  limit : UInt32 := 50
  deriving DecidableEq

/-- Settings of Findchips. -/
structure FindchipsSection where
  baseUrl : String := "https://www.findchips.com"
  currency : String := defaultCurrency
  deriving DecidableEq

/-- A credential that may be left out. -/
def secretField (name : String) : Json.Fields (Option Secret) :=
  Json.Fields.orElse name (Json.Decoder.nullable Secret.decoder) none

/-- A text that has a value of its own when it is left out. -/
def textField (name missing : String) : Json.Fields String :=
  Json.Fields.orElse name Json.Decoder.string missing

namespace DigiKeySection

/-- Whether the source can be asked. -/
def isEnabled (s : DigiKeySection) : Bool :=
  Secret.isGiven s.clientId && Secret.isGiven s.accessToken

/-- Decodes the section. -/
def decoder : Json.Decoder DigiKeySection := Json.record do
  let usual : DigiKeySection := {}
  return {
    clientId := ← secretField "client_id"
    accessToken := ← secretField "access_token"
    baseUrl := ← textField "base_url" usual.baseUrl
    currency := ← textField "currency" usual.currency }

/-- The JSON form. -/
def toJson (s : DigiKeySection) : Json := .obj [
  ("client_id", Json.ofOption Secret.toJson s.clientId),
  ("access_token", Json.ofOption Secret.toJson s.accessToken),
  ("base_url", .str s.baseUrl),
  ("currency", .str s.currency)]

end DigiKeySection

namespace MouserSection

/-- Whether the source can be asked. -/
def isEnabled (s : MouserSection) : Bool := Secret.isGiven s.apiKey

/-- Decodes the section. -/
def decoder : Json.Decoder MouserSection := Json.record do
  let usual : MouserSection := {}
  return {
    apiKey := ← secretField "api_key"
    baseUrl := ← textField "base_url" usual.baseUrl
    currency := ← textField "currency" usual.currency }

/-- The JSON form. -/
def toJson (s : MouserSection) : Json := .obj [
  ("api_key", Json.ofOption Secret.toJson s.apiKey),
  ("base_url", .str s.baseUrl),
  ("currency", .str s.currency)]

end MouserSection

namespace NexarSection

/-- Whether the source can be asked. -/
def isEnabled (s : NexarSection) : Bool := Secret.isGiven s.accessToken

/-- Decodes the section. -/
def decoder : Json.Decoder NexarSection := Json.record do
  let usual : NexarSection := {}
  return {
    accessToken := ← secretField "access_token"
    baseUrl := ← textField "base_url" usual.baseUrl
    currency := ← textField "currency" usual.currency
    limit := ← Json.Fields.orElse "limit" Json.Decoder.uint32 usual.limit }

/-- The JSON form. -/
def toJson (s : NexarSection) : Json := .obj [
  ("access_token", Json.ofOption Secret.toJson s.accessToken),
  ("base_url", .str s.baseUrl),
  ("currency", .str s.currency),
  ("limit", Json.nat s.limit.toNat)]

end NexarSection

namespace BrokerBinSection

/-- Whether the source can be asked. -/
def isEnabled (s : BrokerBinSection) : Bool := Secret.isGiven s.apiKey

/-- Decodes the section. -/
def decoder : Json.Decoder BrokerBinSection := Json.record do
  let usual : BrokerBinSection := {}
  return {
    apiKey := ← secretField "api_key"
    baseUrl := ← textField "base_url" usual.baseUrl
    currency := ← textField "currency" usual.currency }

/-- The JSON form. -/
def toJson (s : BrokerBinSection) : Json := .obj [
  ("api_key", Json.ofOption Secret.toJson s.apiKey),
  ("base_url", .str s.baseUrl),
  ("currency", .str s.currency)]

end BrokerBinSection

namespace EbaySection

/-- Whether the source can be asked. -/
def isEnabled (s : EbaySection) : Bool := Secret.isGiven s.accessToken

/-- Decodes the section. -/
def decoder : Json.Decoder EbaySection := Json.record do
  let usual : EbaySection := {}
  return {
    accessToken := ← secretField "access_token"
    baseUrl := ← textField "base_url" usual.baseUrl
    currency := ← textField "currency" usual.currency
    marketplaceId := ← textField "marketplace_id" usual.marketplaceId
    limit := ← Json.Fields.orElse "limit" Json.Decoder.uint32 usual.limit }

/-- The JSON form. -/
def toJson (s : EbaySection) : Json := .obj [
  ("access_token", Json.ofOption Secret.toJson s.accessToken),
  ("base_url", .str s.baseUrl),
  ("currency", .str s.currency),
  ("marketplace_id", .str s.marketplaceId),
  ("limit", Json.nat s.limit.toNat)]

end EbaySection

namespace FindchipsSection

/-- Decodes the section. -/
def decoder : Json.Decoder FindchipsSection := Json.record do
  let usual : FindchipsSection := {}
  return {
    baseUrl := ← textField "base_url" usual.baseUrl
    currency := ← textField "currency" usual.currency }

/-- The JSON form. -/
def toJson (s : FindchipsSection) : Json := .obj [
  ("base_url", .str s.baseUrl),
  ("currency", .str s.currency)]

end FindchipsSection

/-- The sections that are configured. -/
structure SourceSections where
  digiKey : Option DigiKeySection := none
  mouser : Option MouserSection := none
  nexar : Option NexarSection := none
  brokerBin : Option BrokerBinSection := none
  ebay : Option EbaySection := none
  findchips : Option FindchipsSection := none
  deriving DecidableEq

namespace SourceSections

open Json in
/-- Decodes the sections. -/
def decoder : Json.Decoder SourceSections := record do
  return {
    digiKey := ← Fields.orElse "digikey" (Decoder.nullable DigiKeySection.decoder) none
    mouser := ← Fields.orElse "mouser" (Decoder.nullable MouserSection.decoder) none
    nexar := ← Fields.orElse "nexar" (Decoder.nullable NexarSection.decoder) none
    brokerBin := ← Fields.orElse "brokerbin" (Decoder.nullable BrokerBinSection.decoder) none
    ebay := ← Fields.orElse "ebay" (Decoder.nullable EbaySection.decoder) none
    findchips := ← Fields.orElse "findchips" (Decoder.nullable FindchipsSection.decoder) none }

/-- The JSON form. -/
def toJson (s : SourceSections) : Json := .obj [
  ("digikey", Json.ofOption DigiKeySection.toJson s.digiKey),
  ("mouser", Json.ofOption MouserSection.toJson s.mouser),
  ("nexar", Json.ofOption NexarSection.toJson s.nexar),
  ("brokerbin", Json.ofOption BrokerBinSection.toJson s.brokerBin),
  ("ebay", Json.ofOption EbaySection.toJson s.ebay),
  ("findchips", Json.ofOption FindchipsSection.toJson s.findchips)]

/-- **Whether a source can be asked**; `none` when it has no section. -/
def enabled? (s : SourceSections) : Source → Option Bool
  | .digiKey => s.digiKey.map (·.isEnabled)
  | .mouser => s.mouser.map (·.isEnabled)
  | .nexar => s.nexar.map (·.isEnabled)
  | .brokerBin => s.brokerBin.map (·.isEnabled)
  | .ebay => s.ebay.map (·.isEnabled)
  | .findchips => s.findchips.map fun _ => true

/-- The sources that take part in a search, in their order. -/
def active (s : SourceSections) : List Source :=
  Source.all.filter fun source => (s.enabled? source).getD false

end SourceSections

end PartSourcing
