import PartSourcing.Calendar.Instant
import PartSourcing.Json.Decoder
import PartSourcing.Source

/-!
# Listings

What a source says about one offer, as loosely as sources say it: numbers may come as text,
anything may be missing. A `RawRecord` is the record as it was received, with the term that was
asked for; each source has its own way of reading it as a `Listing`.
-/

namespace PartSourcing

open PartSourcing.Calendar

/-- A number as sources send it, at times as a number and at times as text. -/
inductive Loose where
  | number (x : Float)
  | text (s : String)
  deriving DecidableEq

/-- Decodes a loose value. -/
def Loose.decoder : Json.Decoder Loose
  | _, .str s => .ok (.text s)
  | d, j => (Json.Decoder.float d j).map .number

/-- One offer as a source describes it. -/
structure Listing where
  vendorName : Option String := none
  part : Option String := none
  manufacturer : Option String := none
  stockNumber : Option String := none
  quantity : Option Loose := none
  price : Option Loose := none
  currency : Option String := none
  condition : Option String := none
  leadTime : Option String := none
  url : Option String := none
  isAuthorized : Bool := false
  /-- The standing of this record where it is not the usual one of its source. -/
  standing : Option Standing := none
  deriving DecidableEq

/-- The JSON form, which names the kind of value. -/
def Loose.toJson : Loose → Json
  | .number x => .obj [("number", .real x)]
  | .text s => .obj [("text", .str s)]

namespace Listing

open Json in
/-- Decodes a listing; everything may be missing. -/
def decoder : Json.Decoder Listing := record do
  return {
    vendorName := ← Fields.optional "vendor_name" Decoder.string
    part := ← Fields.optional "mpn" Decoder.string
    manufacturer := ← Fields.optional "manufacturer" Decoder.string
    stockNumber := ← Fields.optional "sku" Decoder.string
    quantity := ← Fields.optional "quantity" Loose.decoder
    price := ← Fields.optional "price" Loose.decoder
    currency := ← Fields.optional "currency" Decoder.string
    condition := ← Fields.optional "condition" Decoder.string
    leadTime := ← Fields.optional "lead_time" Decoder.string
    url := ← Fields.optional "url" Decoder.string
    isAuthorized := (← Fields.optional "is_authorized" Decoder.bool).getD false
    standing := ← Fields.optional "source_type" Standing.decoder }

/-- The JSON form. -/
def toJson (l : Listing) : Json := .obj [
  ("vendor_name", Json.ofOption .str l.vendorName),
  ("mpn", Json.ofOption .str l.part),
  ("manufacturer", Json.ofOption .str l.manufacturer),
  ("sku", Json.ofOption .str l.stockNumber),
  ("quantity", Json.ofOption Loose.toJson l.quantity),
  ("price", Json.ofOption Loose.toJson l.price),
  ("currency", Json.ofOption .str l.currency),
  ("condition", Json.ofOption .str l.condition),
  ("lead_time", Json.ofOption .str l.leadTime),
  ("url", Json.ofOption .str l.url),
  ("is_authorized", .bool l.isAuthorized),
  ("source_type", Json.ofOption Standing.toJson l.standing)]

end Listing

/-- A record as a source sent it. -/
structure RawRecord where
  source : Source
  payload : Json
  /-- The term that the record was found under. -/
  term : Option String := none
  fetchedAt : Instant

/-- Why a record cannot be read as a listing. -/
inductive RawRecord.Fault where
  | malformed (source : Source) (reason : Json.Mismatch)
  | wrongSource (expected found : Source)
  deriving DecidableEq

/-- The fault in words. -/
def RawRecord.Fault.message : RawRecord.Fault → String
  | .malformed s r => "malformed record: " ++ s.displayName ++ ": " ++ r.message
  | .wrongSource e f =>
    "record from " ++ f.displayName ++ " handed to " ++ e.displayName ++ " mapper"

/-- Decodes the payload of a record that must come from the given source. -/
def RawRecord.decode (r : RawRecord) (source : Source) (f : Json.Decoder α) :
    Except Fault α :=
  if r.source = source then (Json.decode f r.payload).mapError (.malformed source)
  else .error (.wrongSource source r.source)

end PartSourcing
