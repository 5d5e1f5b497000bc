import PartSourcing.Memory.Record
import PartSourcing.Requirement

/-!
# Sightings from memory

A vendor remembered for the requested part either answers again, and then its fresh sightings
are annotated with how often it has been seen, or is brought back with its last known offer,
unless that is too long ago. Offers of substitutes are no answer for the requested part.

The date before which a vendor is not brought back can lie outside the calendar; then nothing
can be said, and the result is `none`.
-/

namespace PartSourcing

open PartSourcing.Calendar

namespace Sighting

/-- The sighting that stands for a vendor's last known offer. -/
def ofEntry (part : String) (e : VendorEntry) (searchId : SearchId) : Sighting where
  vendorName := e.vendorName
  vendorKey := e.vendorKey
  part := part
  isSubstitute := false
  manufacturer := none
  stockNumber := none
  quantity := e.quantity
  price := e.price
  currency := e.currency.getD defaultCurrency
  condition := none
  leadTime := none
  standing := e.standing
  reportedBy := []
  isAuthorized := e.standing == .authorizedDistributor
  url := none
  observedAt := e.lastSeen
  isHistorical := true
  timesSeen := some e.timesSeen
  firstSeen := some e.firstSeen
  searchId := searchId
  score := none

end Sighting

namespace PartRecord

/-- The entry that annotates a vendor's sightings. A key stands once in a record that grew by
sightings; should it stand more than once, the last entry counts. -/
def annotation? (r : PartRecord) (vendorKey : String) : Option VendorEntry :=
  r.entries.reverse.find? (·.vendorKey == vendorKey)

/-- A fresh sighting of the requested part with what is remembered of its vendor. -/
def annotate (r : PartRecord) (req : Requirement) (s : Sighting) : Sighting :=
  if req.isPrimary s.part then
    match r.annotation? s.vendorKey with
    | some e => { s with timesSeen := some e.timesSeen, firstSeen := some e.firstSeen }
    | none => s
  else s

/-- The vendors with a fresh sighting of the requested part. -/
def answering (req : Requirement) (fresh : List Sighting) : List String :=
  (fresh.filter fun s => req.isPrimary s.part).map (·.vendorKey)

/-- The entries whose key is not the one right before them, `last` being the key before the
first. -/
def firstOfRuns (last : Option String) : List VendorEntry → List VendorEntry
  | [] => []
  | e :: es =>
    if last = some e.vendorKey then firstOfRuns last es
    else e :: firstOfRuns (some e.vendorKey) es

/-- The entries of vendors that did not answer and were seen recently enough, by key. -/
def silent (r : PartRecord) (answering : List String) (cutoff : Instant) : List VendorEntry :=
  let recent :=
    r.entries.filter fun e => !answering.contains e.vendorKey && cutoff ≤ e.lastSeen
  firstOfRuns none (recent.mergeSort VendorEntry.precedes)

/-- The sightings of a search together with what is remembered of its part. -/
def resurface? (r : PartRecord) (req : Requirement) (fresh : List Sighting)
    (lookbackDays : UInt32) (now : Instant) (searchId : SearchId) : Option (List Sighting) :=
  (now.minusDays? lookbackDays.toNat).map fun cutoff =>
    fresh.map (r.annotate req) ++
      (r.silent (answering req fresh) cutoff).map fun e => Sighting.ofEntry r.part e searchId

end PartRecord

/-- **Fresh sightings, then historical ones.** Without a record there is nothing to add, and no
date to reckon with. -/
def Sighting.withHistory? (fresh : List Sighting) (req : Requirement)
    (record : Option PartRecord) (lookbackDays : UInt32) (now : Instant) (searchId : SearchId) :
    Option (List Sighting) :=
  match record with
  | none => some fresh
  | some r => r.resurface? req fresh lookbackDays now searchId

end PartSourcing
