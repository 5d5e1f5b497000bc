import PartSourcing.Decimal.Dyadic
import PartSourcing.Memory.Record
import PartSourcing.Requirement

/-!
# The best price of a part

Prices compete only within one currency, the dominant one: that in which most vendors quote
whose last offer is recent enough; of equally frequent ones the default currency, or else the
first in alphabetical order. Distinct currencies are never on a par, so the choice does not
hang on the order in which they are looked at.
-/

namespace PartSourcing

open PartSourcing.Calendar

/-- A price in its currency. -/
abbrev Quote := Float × String

namespace Quote

/-- How many quotes are in a currency. -/
def count (quotes : List Quote) (currency : String) : Nat :=
  quotes.countP fun q => q.2 == currency

/-- Whether a currency is to be preferred to another. -/
def outranks (quotes : List Quote) (a b : String) : Bool :=
  let m := count quotes a
  let n := count quotes b
  if m = n then
    if a = defaultCurrency then b != defaultCurrency
    else b != defaultCurrency && a < b
  else n < m

/-- The preferred one of some currencies. -/
def preferred (quotes : List Quote) (first : String) (others : List String) : String :=
  others.foldl (fun best c => if outranks quotes c best then c else best) first

/-- **The dominant currency** of some quotes. -/
def dominant? (quotes : List Quote) : Option String :=
  match quotes.map (·.2) with
  | [] => none
  | c :: cs => some (preferred quotes c cs)

/-- The least of some prices, in the order of all doubles. -/
def least (first : Float) (others : List Float) : Float :=
  others.foldl (fun best x => if Decimal.totalKey x < Decimal.totalKey best then x else best) first

/-- The least price in a currency. -/
def leastIn? (quotes : List Quote) (currency : String) : Option Float :=
  match (quotes.filter fun q => q.2 == currency).map (·.1) with
  | [] => none
  | p :: ps => some (least p ps)

/-- **The best of some quotes**: the least price in the dominant currency. -/
def best? (quotes : List Quote) : Option Quote :=
  (dominant? quotes).bind fun c => (leastIn? quotes c).map fun p => (p, c)

end Quote

/-- The price of an entry with its currency, the default one where none is known. -/
def VendorEntry.quote? (e : VendorEntry) : Option Quote :=
  e.price.map fun p => (p, e.currency.getD defaultCurrency)

/-- The quotes of the vendors seen at or after the given instant. -/
def PartRecord.quotesSince (r : PartRecord) (cutoff : Instant) : List Quote :=
  (r.entries.filter fun e => cutoff ≤ e.lastSeen).filterMap VendorEntry.quote?

/-- The record with its best price taken anew. -/
def PartRecord.withBestSince (r : PartRecord) (cutoff : Instant) : PartRecord :=
  let best := Quote.best? (r.quotesSince cutoff)
  { r with bestPrice := best.map (·.1), bestCurrency := best.map (·.2) }

end PartSourcing
