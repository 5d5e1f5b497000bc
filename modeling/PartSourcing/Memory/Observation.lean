import PartSourcing.Memory.BestPrice
import PartSourcing.Saturating

/-!
# Remembering a sighting

How one sighting changes the record of its part. A search counts once, both for the record and
for each of its vendors, as long as its sightings follow each other; an entry takes over what
a sighting says only if the sighting is later than all before it, and keeps what the sighting
leaves open; only the first date can move back.

The best price needs the date before which offers are stale, which can lie outside the
calendar. Then the sighting cannot be remembered, and `observed?` gives nothing.
-/

namespace PartSourcing

open PartSourcing.Calendar

namespace VendorEntry

/-- The entry of a vendor that is seen for the first time. -/
def ofSighting (s : Sighting) : VendorEntry where
  vendorKey := s.vendorKey
  vendorName := s.vendorName
  price := s.price
  currency := s.price.map fun _ => s.currency
  quantity := s.quantity
  standing := s.standing
  timesSeen := 1
  firstSeen := s.observedAt
  lastSeen := s.observedAt
  searchId := some s.searchId

/-- The entry with a first date that is no later than the sighting. -/
def reachBack (e : VendorEntry) (s : Sighting) : VendorEntry :=
  if s.observedAt < e.firstSeen then { e with firstSeen := s.observedAt } else e

/-- The entry with the search of the sighting counted, unless it was counted last. -/
def countSearch (e : VendorEntry) (s : Sighting) : VendorEntry :=
  if e.searchId = some s.searchId then e
  else { e with timesSeen := Saturating.succ e.timesSeen, searchId := some s.searchId }

/-- The entry with what a later sighting says. -/
def advance (e : VendorEntry) (s : Sighting) : VendorEntry :=
  let e := e.countSearch s
  { e with
    lastSeen := s.observedAt
    vendorName := s.vendorName
    standing := s.standing
    price := s.price.or e.price
    currency := if s.price.isSome then some s.currency else e.currency
    quantity := s.quantity.or e.quantity }

/-- **The entry after one more sighting** of the vendor. -/
def update (e : VendorEntry) (s : Sighting) : VendorEntry :=
  let e := e.reachBack s
  if e.lastSeen < s.observedAt then e.advance s else e

/-- The first entry of the vendor updated; `none` if there is none. -/
def updateIn? (s : Sighting) : List VendorEntry → Option (List VendorEntry)
  | [] => none
  | e :: es =>
    if e.vendorKey = s.vendorKey then some (e.update s :: es)
    else (updateIn? s es).map (e :: ·)

/-- The entries after a sighting of one vendor. -/
def observe (s : Sighting) (entries : List VendorEntry) : List VendorEntry :=
  (updateIn? s entries).getD ((entries ++ [ofSighting s]).mergeSort precedes)

end VendorEntry

namespace PartRecord

/-- The record with the search of the sighting counted, unless it was counted last. -/
def countSearch (r : PartRecord) (s : Sighting) : PartRecord :=
  if r.searchId = some s.searchId then r
  else { r with searchCount := Saturating.succ r.searchCount, searchId := some s.searchId }

/-- How long offers compete for the best price, in days, unless configured otherwise. -/
def defaultStaleDays : UInt32 := 180

/-- **The record after one more sighting** of its part. `none` means that the calendar does
not reach back so many days. -/
def observed? (r : PartRecord) (s : Sighting) (now : Instant) (staleDays : UInt32) :
    Option PartRecord :=
  (now.minusDays? staleDays.toNat).map fun cutoff =>
    let r := r.countSearch s
    { { r with entries := VendorEntry.observe s r.entries }.withBestSince cutoff with
      updatedAt := now }

/-- The record after a sighting, starting an empty one if there is none yet. -/
def remember? (r : Option PartRecord) (part : String) (s : Sighting) (now : Instant)
    (staleDays : UInt32) : Option PartRecord :=
  (r.getD (empty part now)).observed? s now staleDays

end PartRecord

end PartSourcing
