import PartSourcing.Memory.BestPrice

/-!
# Counting quotes by currency

The quotes in each currency are counted in a table, and the dominant currency is its greatest entry:
by number first, then the default currency over all others, then by name, the first in the alphabet
being the greatest. A table has no order of its own, so its entries may be looked at in any.
-/

namespace PartSourcing.Quote

/-- The greatest of some elements, the last one where several are on a par. -/
def greatest? (cmp : α → α → Ordering) : List α → Option α
  | [] => none
  | x :: xs => some (xs.foldl (fun best y => if cmp best y = .gt then best else y) x)

/-- **How many quotes are in each of their currencies**, in the order in which the table happens to
be gone through. -/
structure Tally (quotes : List Quote) where
  counts : List (String × Nat)
  nodup : (counts.map (·.1)).Nodup
  mem_iff : ∀ entry, entry ∈ counts ↔ entry.2 = count quotes entry.1 ∧ 0 < entry.2

namespace Tally

/-- How two entries compare. -/
def comparison (a b : String × Nat) : Ordering :=
  (compare a.2 b.2).then <|
    (compare (a.1 == defaultCurrency) (b.1 == defaultCurrency)).then (compare b.1 a.1)

variable {quotes : List Quote}

/-- The dominant currency by the table. -/
def dominant? (t : Tally quotes) : Option String := (greatest? comparison t.counts).map (·.1)

/-- **The best of some quotes by the table**: the least price in the dominant currency. -/
def best? (t : Tally quotes) : Option Quote :=
  t.dominant?.bind fun c => (leastIn? quotes c).map fun p => (p, c)

end Tally

end PartSourcing.Quote
