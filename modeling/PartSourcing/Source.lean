import PartSourcing.Json.Decoder

/-!
# Sources and the evidence they give

Six sources can be searched. What a source reports is evidence of a certain standing, from a
franchised distributor's own stock down to what was read off a public page; a record can claim
another standing than its source usually has.
-/

namespace PartSourcing

/-- The sources that can be searched. -/
inductive Source where
  | digiKey
  | mouser
  | nexar
  | brokerBin
  | ebay
  | findchips
  deriving DecidableEq, Repr

/-- The standing of a piece of evidence. -/
inductive Standing where
  | authorizedDistributor
  | marketplace
  | broker
  | scrape
  deriving DecidableEq, Repr

namespace Standing

/-- Every standing. -/
def all : List Standing := [.authorizedDistributor, .marketplace, .broker, .scrape]

/-- The name used in configuration and storage. -/
def name : Standing → String
  | .authorizedDistributor => "authorized_distributor"
  | .marketplace => "marketplace"
  | .broker => "broker"
  | .scrape => "scrape"

/-- The standing of the given name. -/
def ofName? (s : String) : Option Standing := all.find? (·.name == s)

/-- Decodes a standing by its name. -/
def decoder : Json.Decoder Standing := Json.Decoder.name ofName?

/-- The JSON form. -/
def toJson (s : Standing) : Json := .str s.name

@[simp] theorem ofName?_name (s : Standing) : ofName? s.name = some s := by
  cases s <;> decide

end Standing

namespace Source

/-- Every source, in the order in which they are asked and reported. -/
def all : List Source := [.digiKey, .mouser, .nexar, .brokerBin, .ebay, .findchips]

/-- The name used in data. -/
def name : Source → String
  | .digiKey => "digi_key"
  | .mouser => "mouser"
  | .nexar => "nexar"
  | .brokerBin => "broker_bin"
  | .ebay => "ebay"
  | .findchips => "findchips"

/-- The name shown to people. -/
def displayName : Source → String
  | .digiKey => "DigiKey"
  | .mouser => "Mouser"
  | .nexar => "Nexar"
  | .brokerBin => "BrokerBin"
  | .ebay => "eBay"
  | .findchips => "Findchips"

/-- The standing of what the source normally reports. -/
def standing : Source → Standing
  | .digiKey | .mouser => .authorizedDistributor
  | .nexar | .brokerBin => .broker
  | .ebay => .marketplace
  | .findchips => .scrape

/-- The source of the given name. -/
def ofName? (s : String) : Option Source := all.find? (·.name == s)

/-- Decodes a source by its name. -/
def decoder : Json.Decoder Source := Json.Decoder.name ofName?

/-- The JSON form. -/
def toJson (s : Source) : Json := .str s.name

end Source

end PartSourcing
