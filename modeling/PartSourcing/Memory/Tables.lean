import PartSourcing.Memory.Cell
import PartSourcing.Memory.Observation
import PartSourcing.Memory.Store

/-!
# Memory that is kept

The records of parts as rows of two tables: one row for each part, and one for each vendor of a
part. Rows are found by their keys; everything else in them is a stored value, and may be
anything. Reading a record makes sense of all its rows or fails; writing one adds rows or
replaces them and never takes any away.

Several handles may be open on the same tables (`Handles`), each with an opinion of its own on how
long offers compete for the best price. A handle is locked while a sighting is remembered through
it. If that breaks down the tables are as they were before, but the lock is poisoned, and the handle
is of no use any more; the others are none the worse for it.
-/

namespace PartSourcing

open PartSourcing.Calendar

/-- The stored row of a part. -/
structure PartRow where
  part : String
  bestPrice : Cell
  bestCurrency : Cell
  searchCount : Cell
  searchId : Cell
  createdAt : Cell
  updatedAt : Cell
  deriving DecidableEq

/-- The stored row of a vendor of a part. -/
structure VendorRow where
  part : String
  vendorKey : String
  vendorName : Cell
  price : Cell
  currency : Cell
  quantity : Cell
  standing : Cell
  timesSeen : Cell
  firstSeen : Cell
  lastSeen : Cell
  searchId : Cell
  deriving DecidableEq

/-- The stored tables. -/
structure Tables where
  parts : List PartRow := []
  vendors : List VendorRow := []
  /-- The version that the tables were laid out under. -/
  version : Option String := some "1"
  deriving DecidableEq

namespace PartRow

/-- The row of a record. -/
def ofRecord (r : PartRecord) : PartRow where
  part := r.part
  bestPrice := (Cell.ofFloat? r.bestPrice).settle .real
  bestCurrency := Cell.ofText? r.bestCurrency
  searchCount := .integer r.searchCount.toNat
  searchId := Cell.ofSearchId? r.searchId
  createdAt := Cell.ofInstant r.createdAt
  updatedAt := Cell.ofInstant r.updatedAt

/-- The record of a row, given its entries. -/
def record? (row : PartRow) (entries : List VendorEntry) : Option PartRecord := do
  return {
    part := row.part
    bestPrice := ← row.bestPrice.asOptionalFloat?
    bestCurrency := ← row.bestCurrency.asOptionalText?
    searchCount := ← row.searchCount.asCount?
    searchId := ← row.searchId.asOptionalSearchId?
    entries := entries
    createdAt := ← row.createdAt.asInstant?
    updatedAt := ← row.updatedAt.asInstant? }

end PartRow

namespace VendorRow

/-- Whether a row is that of a vendor of a part. -/
def isOf (part vendorKey : String) (row : VendorRow) : Bool :=
  row.part == part && row.vendorKey == vendorKey

/-- Whether a row comes no later than another of the same part. -/
def precedes (a b : VendorRow) : Bool := a.vendorKey ≤ b.vendorKey

/-- The row of an entry. -/
def ofEntry (part : String) (e : VendorEntry) : VendorRow where
  part := part
  vendorKey := e.vendorKey
  vendorName := .text e.vendorName
  price := (Cell.ofFloat? e.price).settle .real
  currency := Cell.ofText? e.currency
  quantity := Cell.ofQuantity? e.quantity
  standing := .text e.standing.name
  timesSeen := .integer e.timesSeen.toNat
  firstSeen := Cell.ofInstant e.firstSeen
  lastSeen := Cell.ofInstant e.lastSeen
  searchId := Cell.ofSearchId? e.searchId

/-- The entry of a row. -/
def toVendor? (row : VendorRow) : Option VendorEntry := do
  return {
    vendorKey := row.vendorKey
    vendorName := ← row.vendorName.asText?
    price := ← row.price.asOptionalFloat?
    currency := ← row.currency.asOptionalText?
    quantity := ← row.quantity.asOptionalQuantity?
    standing := ← row.standing.asText?.bind Standing.ofName?
    timesSeen := ← row.timesSeen.asCount?
    firstSeen := ← row.firstSeen.asInstant?
    lastSeen := ← row.lastSeen.asInstant?
    searchId := ← row.searchId.asOptionalSearchId? }

end VendorRow

namespace Tables

/-- The row of a part in normal form. -/
def row? (t : Tables) (k : String) : Option PartRow := t.parts.find? (·.part == k)

/-- The rows of the vendors of a part in normal form, in the order of their keys. -/
def vendorRows (t : Tables) (k : String) : List VendorRow :=
  (t.vendors.filter (·.part == k)).mergeSort VendorRow.precedes

/-- The record kept under a part number in normal form. -/
def load (t : Tables) (k : String) : Except StoreFault (Option PartRecord) :=
  match t.row? k with
  | none => .ok none
  | some row =>
    match (t.vendorRows k).mapM VendorRow.toVendor? with
    | none => .error .unreadable
    | some entries =>
      match row.record? entries with
      | some r => .ok (some r)
      | none => .error .unreadable

/-- **What is remembered of a part.** -/
def read (t : Tables) (part : String) : Except StoreFault (Option PartRecord) :=
  t.load (PartNumber.normal part)

/-- The rows of parts with that of a record replaced, or added at the end. A row that is there
keeps the date when it was made. -/
def putPart (row : PartRow) : List PartRow → List PartRow
  | [] => [row]
  | old :: rows =>
    if old.part = row.part then { row with createdAt := old.createdAt } :: rows
    else old :: putPart row rows

/-- The rows of vendors with one replaced, or added at the end. -/
def putVendor (row : VendorRow) : List VendorRow → List VendorRow
  | [] => [row]
  | old :: rows =>
    if old.isOf row.part row.vendorKey then row :: rows else old :: putVendor row rows

/-- The tables with a record written into them. -/
def save (t : Tables) (r : PartRecord) : Tables :=
  { t with
    parts := putPart (PartRow.ofRecord r) t.parts
    vendors :=
      r.entries.foldl (fun rows e => putVendor (VendorRow.ofEntry r.part e) rows) t.vendors }

/-- **The record of a part after one more sighting**, and the tables with it. -/
def upsert (t : Tables) (staleDays : UInt32) (part : String) (s : Sighting) (now : Instant) :
    Except StoreFault (PartRecord × Tables) :=
  let k := PartNumber.normal part
  match t.load k with
  | .error e => .error e
  | .ok r =>
    match PartRecord.remember? r k s now staleDays with
    | none => .error .beyondCalendar
    | some r => .ok (r, t.save r)

/-- The part numbers, in order. -/
def partNumbers (t : Tables) : List String := (t.parts.map (·.part)).mergeSort

/-- The version that the tables were laid out under, if it is a number. -/
def versionNumber? (t : Tables) : Option UInt32 :=
  t.version.bind fun v =>
    let digits := match v.toList with
      | '+' :: r => r
      | r => r
    (Decimal.nat? digits).bind fun n => if n < UInt32.size then some (UInt32.ofNat n) else none

/-- The version of the layout described here. -/
def currentVersion : String := "1"

/-- The tables as a new handle finds them: without a version they get the current one. -/
def opened (t : Tables) : Tables := { t with version := t.version.or (some currentVersion) }

/-- A column that can be overwritten from outside. -/
inductive Column where
  | standing
  | quantity
  | firstSeen
  | vendorSearchId
  | createdAt
  | partSearchId
  | version
  deriving DecidableEq, Repr

/-- The column of the given name. -/
def Column.ofName? : String → Option Column
  | "source_type" => some .standing
  | "last_qty" => some .quantity
  | "first_seen" => some .firstSeen
  | "vendor_search_id" => some .vendorSearchId
  | "created_at" => some .createdAt
  | "record_search_id" => some .partSearchId
  | "schema_version" => some .version
  | _ => none

/-- How many rows have a column. -/
def rowCount (t : Tables) : Column → Nat
  | .standing | .quantity | .firstSeen | .vendorSearchId => t.vendors.length
  | .createdAt | .partSearchId => t.parts.length
  | .version => t.version.toList.length

/-- The tables with one value in a column of every row, and how many rows that are. -/
def overwrite (t : Tables) (column : Column) (c : Cell) : Nat × Tables :=
  let text := c.settle .text
  (t.rowCount column,
    match column with
    | .standing => { t with vendors := t.vendors.map ({ · with standing := text }) }
    | .quantity => { t with vendors := t.vendors.map ({ · with quantity := c.settle .integer }) }
    | .firstSeen => { t with vendors := t.vendors.map ({ · with firstSeen := text }) }
    | .vendorSearchId => { t with vendors := t.vendors.map ({ · with searchId := text }) }
    | .createdAt => { t with parts := t.parts.map ({ · with createdAt := text }) }
    | .partSearchId => { t with parts := t.parts.map ({ · with searchId := text }) }
    | .version => { t with version := t.version.map fun v => text.asText?.getD v })

/-- The tables without their version, and how many rows that takes away. -/
def dropVersion (t : Tables) : Nat × Tables :=
  (t.rowCount .version, { t with version := none })

/-- A record that cannot be read is an unreadable one. -/
theorem eq_unreadable_of_load {t : Tables} {k : String} {f : StoreFault}
    (h : t.load k = .error f) : f = .unreadable := by
  unfold load at h
  split at h
  · cases h
  · split at h
    · exact (Except.error.inj h).symm
    · split at h
      · cases h
      · exact (Except.error.inj h).symm

/-- **A sighting is remembered just where the record can be read** and the calendar reaches back
far enough. -/
theorem upsert_eq_error_iff (t : Tables) (staleDays : UInt32) (part : String) (s : Sighting)
    (now : Instant) (cutoff : Instant) (h : now.minusDays? staleDays.toNat = some cutoff)
    (f : StoreFault) :
    t.upsert staleDays part s now = .error f ↔ t.read part = .error f := by
  unfold upsert read
  cases hl : t.load (PartNumber.normal part) with
  | error e => simp [hl]
  | ok r => simp only [hl, PartRecord.remember?, PartRecord.observed?, h, Option.map_some,
      reduceCtorEq]

end Tables

/-- Tables behind handles `ι`, and the handles that have broken down. -/
structure Handles (ι : Type) where
  tables : Tables := {}
  poisoned : List ι := []

namespace Handles

variable {ι α : Type} [DecidableEq ι]

/-- What the tables answer through a handle. -/
def ask (h : Handles ι) (i : ι) (answer : Tables → Except StoreFault α) : Except StoreFault α :=
  if i ∈ h.poisoned then .error .poisoned else answer h.tables

/-- **The record of a part after one more sighting** through a handle, and what is left behind. -/
def upsert (h : Handles ι) (staleDays : UInt32) (i : ι) (part : String) (s : Sighting)
    (now : Instant) : Except StoreFault PartRecord × Handles ι :=
  match h.ask i fun t => t.upsert staleDays part s now with
  | .ok (r, t) => (.ok r, { h with tables := t })
  | .error .beyondCalendar => (.error .beyondCalendar, { h with poisoned := i :: h.poisoned })
  | .error f => (.error f, h)

/-- A handle as a store. -/
def store (staleDays : UInt32) (i : ι) : Store (Handles ι) where
  read h part := h.ask i fun t => t.read part
  upsert h part s now := h.upsert staleDays i part s now

end Handles

end PartSourcing
