import PartSourcing.Config.Engine
import PartSourcing.Sighting

/-!
# The order of the result

Sightings are ranked by score; fresh ones come before historical ones of the same score; then
authority, vendor, part and stock number decide. On sightings of different identities the order
is strict, so the ranking does not depend on the order in which they arrived.
-/

namespace PartSourcing.Sighting

/-- What ranks a sighting; less comes first. -/
structure Rank where
  shortfall : Nat
  historical : Nat
  priority : Nat
  vendorKey : String
  part : String
  stockNumber : Option String
  deriving DecidableEq

/-- The rank of a sighting. -/
def rankOf (c : EngineConfig) (s : Sighting) : Rank where
  shortfall := 255 - s.composite.toNat
  historical := s.isHistorical.toNat
  priority := c.priorityOf s.standing
  vendorKey := s.vendorKey
  part := PartNumber.normal s.part
  stockNumber := s.stockNumber

/-- The order of optional texts: a missing one comes first. -/
def leOption : Option String → Option String → Bool
  | none, _ => true
  | some _, none => false
  | some a, some b => a ≤ b

/-- Whether a rank comes no later than another. -/
def Rank.le (a b : Rank) : Bool :=
  if a.shortfall ≠ b.shortfall then a.shortfall < b.shortfall
  else if a.historical ≠ b.historical then a.historical < b.historical
  else if a.priority ≠ b.priority then a.priority < b.priority
  else if a.vendorKey ≠ b.vendorKey then a.vendorKey < b.vendorKey
  else if a.part ≠ b.part then a.part < b.part
  else leOption a.stockNumber b.stockNumber

/-- **The ranked list.** -/
def ranked (c : EngineConfig) (sightings : List Sighting) : List Sighting :=
  sightings.mergeSort fun a b => (rankOf c a).le (rankOf c b)

end PartSourcing.Sighting
