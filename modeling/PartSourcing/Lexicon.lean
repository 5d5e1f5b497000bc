import PartSourcing.Sighting
import PartSourcing.Text.Containment

/-!
# Lexicons

A lexicon maps words that occur in free text to values. One word can be part of another (`$`
of `US$`, `new` of `like new`), so the longest word that occurs decides, counted in
characters; of equally long ones the one listed first. Case is ignored.

Entries are kept in the order in which they are tried, which makes looking up a search for the
first entry that occurs.
-/

namespace PartSourcing

open PartSourcing.Text

/-- Words in lower case with their values, in the order in which they are tried. -/
structure Lexicon (α : Type) where
  entries : List (String × α)

namespace Lexicon

/-- Whether an entry is tried before another or may be: it is at least as long. -/
def precedes (a b : String × α) : Bool := b.1.length ≤ a.1.length

/-- **A lexicon** from its entries in any order. Words without characters are left out. -/
def ofList (entries : List (String × α)) : Lexicon α where
  entries := ((entries.map fun (w, a) => (lower w, a)).filter fun (w, _) => !w.isEmpty).mergeSort
    precedes

/-- **The entry that decides** for a text. -/
def entryFor? (l : Lexicon α) (text : String) : Option (String × α) :=
  let t := lower text
  l.entries.find? fun (w, _) => contains t w

/-- The value for a text. -/
def find? (l : Lexicon α) (text : String) : Option α := (l.entryFor? text).map (·.2)

/-- The words in the order in which they are tried. -/
def words (l : Lexicon α) : List String := l.entries.map (·.1)

/-- The entry that decides is one of the lexicon, and its word occurs in the text. -/
theorem mem_of_entryFor? {l : Lexicon α} {text w : String} {a : α}
    (h : l.entryFor? text = some (w, a)) :
    (w, a) ∈ l.entries ∧ contains (lower text) w = true := by
  refine ⟨List.mem_of_find?_eq_some h, ?_⟩
  simpa using List.find?_some h

/-- There is an entry that decides exactly when some word occurs. -/
theorem entryFor?_isSome_iff {l : Lexicon α} {text : String} :
    (l.entryFor? text).isSome ↔ ∃ e ∈ l.entries, contains (lower text) e.1 = true := by
  simp [entryFor?]

end Lexicon

/-- Marks of currencies in prices. -/
def currencyMarks : Lexicon String := .ofList [
  ("$", "USD"), ("US$", "USD"), ("USD", "USD"), ("CA$", "CAD"), ("C$", "CAD"), ("CAD", "CAD"),
  ("A$", "AUD"), ("AUD", "AUD"), ("€", "EUR"), ("EUR", "EUR"), ("£", "GBP"), ("GBP", "GBP"),
  ("¥", "JPY"), ("JPY", "JPY"), ("CNY", "CNY"), ("RMB", "CNY")]

/-- Wordings of conditions. -/
def conditionWords : Lexicon Condition := .ofList [
  ("new", .new), ("brand new", .new), ("factory new", .new), ("factory sealed", .new),
  ("new other", .new), ("like new", .used), ("used", .used), ("pre-owned", .used),
  ("open box", .used), ("pulls", .used), ("pulled", .used), ("refurb", .refurbished),
  ("refurbished", .refurbished), ("renewed", .refurbished), ("reconditioned", .refurbished),
  ("remanufactured", .refurbished)]

end PartSourcing
