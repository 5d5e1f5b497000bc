import PartSourcing.Sighting

/-!
# Records of parts

What is remembered across searches: one record for each part, with one entry for each vendor
that has offered it, in the order of the vendor keys.
-/

namespace PartSourcing

open PartSourcing.Calendar

/-- What is remembered about one vendor of one part. -/
structure VendorEntry where
  vendorKey : String
  vendorName : String
  price : Option Float
  currency : Option String
  quantity : Option UInt64
  standing : Standing
  /-- How many searches have seen the vendor offer the part. -/
  timesSeen : UInt32
  firstSeen : Instant
  lastSeen : Instant
  /-- The search that was counted last. -/
  searchId : Option SearchId
  deriving DecidableEq

/-- What is remembered about one part. -/
structure PartRecord where
  part : String
  bestPrice : Option Float
  bestCurrency : Option String
  /-- How many searches have found the part. -/
  searchCount : UInt32
  /-- The search that was counted last. -/
  searchId : Option SearchId
  entries : List VendorEntry
  createdAt : Instant
  updatedAt : Instant
  deriving DecidableEq

namespace VendorEntry

/-- Whether an entry comes no later than another. -/
def precedes (a b : VendorEntry) : Bool := a.vendorKey ≤ b.vendorKey

open Json in
/-- Decodes an entry. -/
def decoder : Json.Decoder VendorEntry := record do
  return {
    vendorKey := ← Fields.required "vendor_key" Decoder.string
    vendorName := ← Fields.required "vendor_name" Decoder.string
    price := ← Fields.optional "last_price" Decoder.float
    currency := ← Fields.optional "last_currency" Decoder.string
    quantity := ← Fields.optional "last_qty" Decoder.uint64
    standing := ← Fields.required "source_type" Standing.decoder
    timesSeen := ← Fields.required "times_seen" Decoder.uint32
    firstSeen := ← Fields.required "first_seen" Sighting.stampDecoder
    lastSeen := ← Fields.required "last_seen" Sighting.stampDecoder
    searchId := ← Fields.optional "last_search_id" Sighting.searchIdDecoder }

/-- The JSON form. -/
def toJson (e : VendorEntry) : Json := .obj [
  ("vendor_key", .str e.vendorKey),
  ("vendor_name", .str e.vendorName),
  ("last_price", Json.ofOption .real e.price),
  ("last_currency", Json.ofOption .str e.currency),
  ("last_qty", Json.ofOption (fun q => Json.nat q.toNat) e.quantity),
  ("source_type", e.standing.toJson),
  ("times_seen", Json.nat e.timesSeen.toNat),
  ("first_seen", Sighting.stampJson e.firstSeen),
  ("last_seen", Sighting.stampJson e.lastSeen),
  ("last_search_id", Json.ofOption Sighting.searchIdJson e.searchId)]

end VendorEntry

namespace PartRecord

/-- A record in which nothing has been seen yet. -/
def empty (part : String) (now : Instant) : PartRecord where
  part := PartNumber.normal part
  bestPrice := none
  bestCurrency := none
  searchCount := 0
  searchId := none
  entries := []
  createdAt := now
  updatedAt := now

/-- The entry of a vendor. -/
def entryFor? (r : PartRecord) (vendorKey : String) : Option VendorEntry :=
  r.entries.find? (·.vendorKey == vendorKey)

open Json in
/-- Decodes a record. -/
def decoder : Json.Decoder PartRecord := record do
  return {
    part := ← Fields.required "mpn" Decoder.string
    bestPrice := ← Fields.optional "best_price" Decoder.float
    bestCurrency := ← Fields.optional "best_price_currency" Decoder.string
    searchCount := ← Fields.required "search_count" Decoder.uint32
    searchId := ← Fields.optional "last_search_id" Sighting.searchIdDecoder
    entries := ← Fields.required "vendors" (Decoder.list VendorEntry.decoder)
    createdAt := ← Fields.required "created_at" Sighting.stampDecoder
    updatedAt := ← Fields.required "updated_at" Sighting.stampDecoder }

/-- The JSON form. -/
def toJson (r : PartRecord) : Json := .obj [
  ("mpn", .str r.part),
  ("best_price", Json.ofOption .real r.bestPrice),
  ("best_price_currency", Json.ofOption .str r.bestCurrency),
  ("search_count", Json.nat r.searchCount.toNat),
  ("last_search_id", Json.ofOption Sighting.searchIdJson r.searchId),
  ("vendors", .arr (r.entries.map VendorEntry.toJson)),
  ("created_at", Sighting.stampJson r.createdAt),
  ("updated_at", Sighting.stampJson r.updatedAt)]

end PartRecord

end PartSourcing
