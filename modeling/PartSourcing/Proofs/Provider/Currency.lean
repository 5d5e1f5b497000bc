import PartSourcing.Proofs.Listing.NamedCurrency
import PartSourcing.Proofs.Provider.Reading

/-!
# The currency of a sighting

A listing names its currency in a field or behind the number of its price, and the field counts
first.  **By one and the same text both name the same currency** (`currency_of_mark`), whatever
source, vendor and part a listing is from, unless the text is `RMB` in some letter case: a price has
the code of that mark, and a field keeps its three letters.  Two offers in that currency are then of
different ones (`currency_differs_for_rmb`).
-/

namespace PartSourcing.Provider

open PartSourcing.Text

variable {p : Provider} {c : EngineConfig} {req : Requirement} {id : SearchId} {r : RawRecord}
  {l : Listing} {s : Sighting} {named code : String}

theorem currency_of_sightingOf? (h : p.sightingOf? c req id r l = some s) :
    s.currency = p.currencyOf l ((l.price.map Loose.price).getD (none, none)).2 := by
  obtain ⟨v, -, rfl⟩ := Option.map_eq_some_iff.mp h
  rfl

/-- A currency that is named in a field. -/
theorem currency_of_field (hnamed : currencyMarks.find? named = some code)
    (hfield : l.currency = some named) (h : p.sightingOf? c req id r l = some s) :
    s.currency = if sameAsciiCase (trim named) "RMB" then "RMB" else code := by
  have hgiven : given? (some named) = some (trim named) := by
    rw [given?_some]
    exact nonBlank?_eq_some_iff.mpr ⟨notBlank_of_mark hnamed, rfl⟩
  rw [currency_of_sightingOf? h, currencyOf, hfield, hgiven, Option.bind_some,
    currencyCode?_of_mark ((find?_marks_trim named).trans hnamed), Option.some_or, Option.getD_some]

/-- A currency that is named behind the number of a price. -/
theorem currency_of_price {number : String} (hnumber : currencyMarks.find? number = none)
    (hnamed : currencyMarks.find? named = some code) (hopen : given? l.currency = none)
    (hprice : l.price = some (.text (number ++ " " ++ named)))
    (h : p.sightingOf? c req id r l = some s) : s.currency = code := by
  rw [currency_of_sightingOf? h, currencyOf, hopen, hprice]
  dsimp only [Option.map_some, Option.getD_some]
  rw [Loose.price_of_mark hnumber hnamed]
  rfl

/-- **Currencies that are named by a mark.**  A field and a price name the same one, except for
`RMB` in a field. -/
theorem currency_of_mark (hnamed : currencyMarks.find? named = some code) :
    (∀ (p : Provider) c req id r l s, l.currency = some named →
      p.sightingOf? c req id r l = some s →
      s.currency = if sameAsciiCase (trim named) "RMB" then "RMB" else code) ∧
    ∀ (p : Provider) c req id r l s number, currencyMarks.find? number = none →
      given? l.currency = none → l.price = some (.text (number ++ " " ++ named)) →
      p.sightingOf? c req id r l = some s → s.currency = code :=
  ⟨fun _ _ _ _ _ _ _ => currency_of_field hnamed,
    fun _ _ _ _ _ _ _ _ hnumber => currency_of_price hnumber hnamed⟩

section TwoOffers

/-- An offer whose currency is named in a field. -/
def offerByField (named : String) : Listing := { vendorName := some "Acme", currency := some named }

/-- An offer whose currency is named behind the number of its price. -/
def offerByPrice (number named : String) : Listing :=
  { vendorName := some "Acme", price := some (.text (number ++ " " ++ named)) }

/-- What a broker source reads in a listing. -/
def readByBroker (l : Listing) : Option Sighting :=
  (BrokerBin.provider {}).sightingOf? {} ⟨"LM317T", 5, [], none, "USD"⟩ .zero
    ⟨.brokerBin, .null, none, .epoch⟩ l

theorem exists_readByBroker {l : Listing} (h : l.vendorName = some "Acme") :
    ∃ s, readByBroker l = some s := by
  have hplaceholder : ∀ q ∈ ({} : EngineConfig).placeholderVendors,
      Vendor.key q ≠ Vendor.key "Acme" := by decide +kernel
  exact exists_sightingOf?_iff.mpr ⟨"Acme", h, by decide, hplaceholder⟩

/-- Both name the euro. -/
theorem currency_of_mark_euro :
    currencyMarks.find? " (Eur)" = some "EUR" ∧
    ∃ s s', readByBroker (offerByField " (Eur)") = some s ∧
      readByBroker (offerByPrice "1,200.50" " (Eur)") = some s' ∧
      s.currency = "EUR" ∧ s'.currency = "EUR" := by
  have hnamed : currencyMarks.find? " (Eur)" = some "EUR" := by
    rw [Lexicon.find?, Lexicon.entryFor?, currencyMarks_entries]
    decide +kernel
  obtain ⟨s, hs⟩ := exists_readByBroker (l := offerByField " (Eur)") rfl
  obtain ⟨s', hs'⟩ := exists_readByBroker (l := offerByPrice "1,200.50" " (Eur)") rfl
  have hnumber : currencyMarks.find? "1,200.50" = none := find?_marks_of_numeric rfl
  have hcurrency := currency_of_mark hnamed
  refine ⟨hnamed, s, s', hs, hs', ?_, hcurrency.2 _ _ _ _ _ _ _ _ hnumber rfl rfl hs'⟩
  exact (hcurrency.1 _ _ _ _ _ _ _ rfl hs).trans (by decide +kernel)

/-- **Two offers in one currency that have different ones**: each names the mark `RMB`, which is one
of the Chinese yuan. -/
theorem currency_differs_for_rmb :
    currencyMarks.find? "RMB" = some "CNY" ∧ currencyMarks.find? "7" = none ∧
    ∃ s s', readByBroker (offerByField "RMB") = some s ∧
      readByBroker (offerByPrice "7" "RMB") = some s' ∧
      s.currency = "RMB" ∧ s'.currency = "CNY" ∧ s.currency ≠ s'.currency := by
  have hnamed : currencyMarks.find? "RMB" = some "CNY" := by
    rw [Lexicon.find?, Lexicon.entryFor?, currencyMarks_entries]
    decide +kernel
  have hnumber : currencyMarks.find? "7" = none := by
    rw [Lexicon.find?, Lexicon.entryFor?, currencyMarks_entries]
    decide +kernel
  obtain ⟨s, hs⟩ := exists_readByBroker (l := offerByField "RMB") rfl
  obtain ⟨s', hs'⟩ := exists_readByBroker (l := offerByPrice "7" "RMB") rfl
  have hfield : s.currency = "RMB" := (currency_of_field hnamed rfl hs).trans (by decide +kernel)
  have hprice : s'.currency = "CNY" := currency_of_price hnumber hnamed rfl rfl hs'
  refine ⟨hnamed, hnumber, s, s', hs, hs', hfield, hprice, ?_⟩
  rw [hfield, hprice]
  decide

end TwoOffers

end PartSourcing.Provider
