import PartSourcing.Config.Engine
import PartSourcing.Sighting

/-!
# Merging duplicates

Sources report the same offer more than once. Sightings of one identity become a single one:
the most complete of them, with what it leaves open filled in from the others. The order in
which they are consulted is the precedence order; the order in which sources are listed is that
in which they reported.
-/

namespace PartSourcing.Sighting

/-- The identities of some sightings, each once, in order of first appearance. -/
def identities (sightings : List Sighting) : List Identity := (sightings.map identity).eraseDups

/-- The sightings of one identity, in their order. -/
def groupOf (sightings : List Sighting) (k : Identity) : List Sighting :=
  sightings.filter fun s => s.identity = k

/-- **Precedence among duplicates**: the more complete first, then the more authoritative, then
the more recent. -/
def precedes (c : EngineConfig) (a b : Sighting) : Bool :=
  if a.populated ≠ b.populated then b.populated < a.populated
  else if c.priorityOf a.standing ≠ c.priorityOf b.standing then
    c.priorityOf a.standing < c.priorityOf b.standing
  else b.observedAt ≤ a.observedAt

/-- A sighting with what it leaves open filled in from another. A price brings its currency
along, since it means nothing in another one. -/
def fill (base other : Sighting) : Sighting :=
  let takesPrice := base.price.isNone && other.price.isSome
  { base with
    manufacturer := base.manufacturer.or other.manufacturer
    quantity := base.quantity.or other.quantity
    price := if takesPrice then other.price else base.price
    currency := if takesPrice then other.currency else base.currency
    condition := base.condition.or other.condition
    leadTime := base.leadTime.or other.leadTime
    url := base.url.or other.url }

/-- One sighting for all of a group. -/
def mergeGroup? (c : EngineConfig) (group : List Sighting) : Option Sighting :=
  match group.mergeSort (precedes c) with
  | [] => none
  | base :: others =>
    some { others.foldl fill base with
      reportedBy := (group.flatMap (·.reportedBy)).eraseDups
      isAuthorized := group.any (·.isAuthorized) }

/-- **One sighting for each identity**, in order of first appearance. -/
def mergeDuplicates (c : EngineConfig) (sightings : List Sighting) : List Sighting :=
  (identities sightings).filterMap fun k => mergeGroup? c (groupOf sightings k)

end PartSourcing.Sighting
