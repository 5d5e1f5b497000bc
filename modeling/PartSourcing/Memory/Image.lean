import PartSourcing.Json.Decoder
import PartSourcing.Json.Reader
import PartSourcing.Json.Writer
import PartSourcing.Memory.Tables

/-!
# Tables as text

The tables of a database as one JSON text, row by row and column by column, so that they can be
written to a file and read back.
-/

namespace PartSourcing

namespace Cell

/-- The JSON form. -/
def toJson : Cell → Json
  | .null => .null
  | .integer n => .int n
  | .real x => .real x
  | .text s => .str s

/-- Decodes a cell. -/
def decoder : Json.Decoder Cell
  | _, .null => .ok .null
  | _, .int n => .ok (.integer n)
  | _, .real x => .ok (.real x)
  | _, .str s => .ok (.text s)
  | _, _ => .error .kind

end Cell

namespace PartRow

/-- The JSON form. -/
def toJson (r : PartRow) : Json := .arr [.str r.part, r.bestPrice.toJson, r.bestCurrency.toJson,
  r.searchCount.toJson, r.searchId.toJson, r.createdAt.toJson, r.updatedAt.toJson]

open Json in
/-- Decodes the row of a part. -/
def decoder : Json.Decoder PartRow := record do
  return {
    part := ← Fields.required "part" Decoder.string
    bestPrice := ← Fields.required "best_price" Cell.decoder
    bestCurrency := ← Fields.required "best_currency" Cell.decoder
    searchCount := ← Fields.required "search_count" Cell.decoder
    searchId := ← Fields.required "search_id" Cell.decoder
    createdAt := ← Fields.required "created_at" Cell.decoder
    updatedAt := ← Fields.required "updated_at" Cell.decoder }

end PartRow

namespace VendorRow

/-- The JSON form. -/
def toJson (r : VendorRow) : Json := .arr [.str r.part, .str r.vendorKey, r.vendorName.toJson,
  r.price.toJson, r.currency.toJson, r.quantity.toJson, r.standing.toJson, r.timesSeen.toJson,
  r.firstSeen.toJson, r.lastSeen.toJson, r.searchId.toJson]

open Json in
/-- Decodes the row of a vendor. -/
def decoder : Json.Decoder VendorRow := record do
  return {
    part := ← Fields.required "part" Decoder.string
    vendorKey := ← Fields.required "vendor_key" Decoder.string
    vendorName := ← Fields.required "vendor_name" Cell.decoder
    price := ← Fields.required "price" Cell.decoder
    currency := ← Fields.required "currency" Cell.decoder
    quantity := ← Fields.required "quantity" Cell.decoder
    standing := ← Fields.required "standing" Cell.decoder
    timesSeen := ← Fields.required "times_seen" Cell.decoder
    firstSeen := ← Fields.required "first_seen" Cell.decoder
    lastSeen := ← Fields.required "last_seen" Cell.decoder
    searchId := ← Fields.required "search_id" Cell.decoder }

end VendorRow

namespace Tables

/-- The text of a database file. -/
def toText (t : Tables) : String := Json.write <| .obj [
  ("parts", .arr (t.parts.map PartRow.toJson)),
  ("vendors", .arr (t.vendors.map VendorRow.toJson)),
  ("version", Json.ofOption .str t.version)]

open Json in
/-- Decodes tables. -/
def decoder : Json.Decoder Tables := record do
  return {
    parts := ← Fields.required "parts" (Decoder.list PartRow.decoder)
    vendors := ← Fields.required "vendors" (Decoder.list VendorRow.decoder)
    version := ← Fields.required "version" (Decoder.nullable Decoder.string) }

/-- **Reads the text of a database file.** -/
def ofText? (s : String) : Option Tables := (Json.parse? s).bind (Json.decode? decoder)

end Tables

end PartSourcing
