import PartSourcing.Calendar.Stamp
import PartSourcing.PartNumber
import PartSourcing.Score.Basic
import PartSourcing.SearchId
import PartSourcing.Source

/-!
# Sightings

A sighting is one offer as it was observed: which vendor, which part, how many, at what price.
Fresh ones come from the sources asked in the current search; historical ones are built from
what was remembered. Two sightings are duplicates when their identities are equal, that is
vendor, part and stock number in normal form.
-/

namespace PartSourcing

open PartSourcing.Calendar

/-- The physical condition of offered stock. -/
inductive Condition where
  | new
  | refurbished
  | used
  deriving DecidableEq, Repr

namespace Condition

/-- The name used in data. -/
def name : Condition → String
  | .new => "new"
  | .refurbished => "refurbished"
  | .used => "used"

/-- The condition of the given name. -/
def ofName? (s : String) : Option Condition :=
  [Condition.new, .refurbished, .used].find? (·.name == s)

/-- The JSON form. -/
def toJson (c : Condition) : Json := .str c.name

end Condition

/-- One observed offer. -/
structure Sighting where
  vendorName : String
  vendorKey : String
  part : String
  isSubstitute : Bool
  manufacturer : Option String
  stockNumber : Option String
  quantity : Option UInt64
  price : Option Float
  currency : String
  condition : Option Condition
  leadTime : Option String
  standing : Standing
  reportedBy : List Source
  isAuthorized : Bool
  url : Option String
  observedAt : Instant
  isHistorical : Bool
  timesSeen : Option UInt32
  firstSeen : Option Instant
  searchId : SearchId
  score : Option Score
  deriving DecidableEq

/-- What makes two sightings duplicates of each other. -/
structure Identity where
  vendorKey : String
  part : String
  stockNumber : Option String
  deriving DecidableEq

namespace Sighting

/-- **The identity of a sighting.** A stock number of blanks alone counts as none. -/
def identity (s : Sighting) : Identity where
  vendorKey := s.vendorKey
  part := PartNumber.normal s.part
  stockNumber := (s.stockNumber.map PartNumber.normal).filter fun k => !k.isEmpty

/-- The number of optional fields that count toward completeness. -/
def optionalFieldCount : Nat := 6

/-- How many of the optional fields carry a value. -/
def populated (s : Sighting) : Nat :=
  [s.manufacturer.isSome, s.quantity.isSome, s.price.isSome, s.condition.isSome,
    s.leadTime.isSome, s.url.isSome].count true

/-- The score in percent, or zero before scoring. -/
def composite (s : Sighting) : UInt8 := (s.score.map (·.composite)).getD 0

theorem populated_le (s : Sighting) : s.populated ≤ optionalFieldCount := by
  unfold populated optionalFieldCount
  exact List.count_le_length

/-- Decodes a time stamp in any spelling. -/
def stampDecoder : Json.Decoder Instant :=
  Json.Decoder.parsed fun s => Stamp.relaxed? s.toList

/-- The JSON form of an instant. -/
def stampJson (i : Instant) : Json := .str (Stamp.shortText i)

/-- Decodes the identifier of a search in any spelling. -/
def searchIdDecoder : Json.Decoder SearchId := Json.Decoder.parsed SearchId.parse?

/-- The JSON form of the identifier of a search. -/
def searchIdJson (id : SearchId) : Json := .str id.toText

open Json in
/-- Decodes a sighting. -/
def decoder : Json.Decoder Sighting := record do
  return {
    vendorName := ← Fields.required "vendor_name" Decoder.string
    vendorKey := ← Fields.required "vendor_key" Decoder.string
    part := ← Fields.required "mpn_matched" Decoder.string
    isSubstitute := ← Fields.required "is_substitute" Decoder.bool
    manufacturer := ← Fields.optional "manufacturer" Decoder.string
    stockNumber := ← Fields.optional "sku" Decoder.string
    quantity := ← Fields.optional "qty_available" Decoder.uint64
    price := ← Fields.optional "unit_price" Decoder.float
    currency := ← Fields.required "currency" Decoder.string
    condition := ← Fields.optional "condition" (Decoder.name Condition.ofName?)
    leadTime := ← Fields.optional "lead_time" Decoder.string
    standing := ← Fields.required "source_type" Standing.decoder
    reportedBy := ← Fields.orElse "merged_from" (Decoder.list Source.decoder) []
    isAuthorized := ← Fields.required "is_authorized" Decoder.bool
    url := ← Fields.optional "source_url" Decoder.string
    observedAt := ← Fields.required "observed_at" stampDecoder
    isHistorical := ← Fields.required "is_historical" Decoder.bool
    timesSeen := ← Fields.optional "times_seen" Decoder.uint32
    firstSeen := ← Fields.optional "first_seen" stampDecoder
    searchId := ← Fields.required "search_id" searchIdDecoder
    score := ← Fields.optional "score" Score.decoder }

/-- The JSON form. -/
def toJson (s : Sighting) : Json := .obj [
  ("vendor_name", .str s.vendorName),
  ("vendor_key", .str s.vendorKey),
  ("mpn_matched", .str s.part),
  ("is_substitute", .bool s.isSubstitute),
  ("manufacturer", Json.ofOption .str s.manufacturer),
  ("sku", Json.ofOption .str s.stockNumber),
  ("qty_available", Json.ofOption (fun q => Json.nat q.toNat) s.quantity),
  ("unit_price", Json.ofOption .real s.price),
  ("currency", .str s.currency),
  ("condition", Json.ofOption Condition.toJson s.condition),
  ("lead_time", Json.ofOption .str s.leadTime),
  ("source_type", s.standing.toJson),
  ("merged_from", .arr (s.reportedBy.map Source.toJson)),
  ("is_authorized", .bool s.isAuthorized),
  ("source_url", Json.ofOption .str s.url),
  ("observed_at", stampJson s.observedAt),
  ("is_historical", .bool s.isHistorical),
  ("times_seen", Json.ofOption (fun n => Json.nat n.toNat) s.timesSeen),
  ("first_seen", Json.ofOption stampJson s.firstSeen),
  ("search_id", searchIdJson s.searchId),
  ("score", Json.ofOption Score.toJson s.score)]

end Sighting

end PartSourcing
