import PartSourcing.Config.Engine
import PartSourcing.Listing.Coercion
import PartSourcing.Provider.Basic
import PartSourcing.Url.Canonical

/-!
# Reading records as sightings

The rules that all sources share. A listing without a usable vendor makes no sighting. A part
number that is missing is the term the record was found under, or else the requested part; a
currency that is missing is the one marked in the price, or else the usual one of the source.
What cannot be read as a number stays unknown, and a record that cannot be read at all affects
no other.
-/

namespace PartSourcing.Provider

open PartSourcing.Text

/-- The vendor's name and key, if the listing has a usable vendor. -/
def vendor? (c : EngineConfig) (l : Listing) : Option (String × String) :=
  let name := (l.vendorName.map trim).getD ""
  let key := Vendor.key name
  if key.isEmpty || c.isPlaceholder key then none else some (name, key)

/-- The part number of a record: its own, or the term it was found under, or the requested
part. -/
def partOf (req : Requirement) (term : Option String) (l : Listing) : String :=
  ((given? l.part).or (given? term)).getD (trim req.part)

/-- The currency of a record: its own, or the one marked in the price, or the usual one. -/
def currencyOf (p : Provider) (l : Listing) (marked : Option String) : String :=
  (((given? l.currency).bind currencyCode?).or marked).getD (upper (trim p.currency))

/-- **The sighting that a listing makes**, if it has a usable vendor. -/
def sightingOf? (p : Provider) (c : EngineConfig) (req : Requirement) (searchId : SearchId)
    (r : RawRecord) (l : Listing) : Option Sighting :=
  (vendor? c l).map fun (vendorName, vendorKey) =>
    let part := partOf req r.term l
    let (price, marked) := (l.price.map Loose.price).getD (none, none)
    { vendorName, vendorKey, part
      isSubstitute := !req.isRequested part
      manufacturer := given? l.manufacturer
      stockNumber := given? l.stockNumber
      quantity := l.quantity.bind Loose.quantity?
      price
      currency := p.currencyOf l marked
      condition := (given? l.condition).bind conditionWords.find?
      leadTime := given? l.leadTime
      standing := l.standing.getD p.source.standing
      reportedBy := [r.source]
      isAuthorized := l.isAuthorized
      url := l.url.bind Url.canonical?
      observedAt := r.fetchedAt
      isHistorical := false
      timesSeen := none
      firstSeen := none
      searchId
      score := none }

/-- The sighting in a record. -/
def sighting (p : Provider) (c : EngineConfig) (req : Requirement) (searchId : SearchId)
    (r : RawRecord) : Except RawRecord.Fault (Option Sighting) :=
  (p.listing r req).map (p.sightingOf? c req searchId r)

/-- **The sightings in some records**, in their order. Records that make none are left out. -/
def sightings (p : Provider) (c : EngineConfig) (req : Requirement) (searchId : SearchId)
    (records : List RawRecord) : List Sighting :=
  records.filterMap fun r => ((p.sighting c req searchId r).toOption).join

end PartSourcing.Provider
