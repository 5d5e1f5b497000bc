import PartSourcing.Proofs.Listing.Quantity
import PartSourcing.Proofs.Provider.Reading

/-!
# Counts on availability

One source states its stock in words.  The count that such a text starts with is cut out before the
rule that all sources share reads a quantity in it.  The count consists of digits and commas, the
number that the shared rule looks for may have a point as well.  **So both find the same as long as
no point follows the count** (`quantity?_availableQuantity`), whatever else the text says; where one
follows, the quantity is what the shared rule makes of the count alone
(`quantity_of_availability`), and that is not what it makes of the text
(`quantity_of_fractional_availability`).
-/

namespace PartSourcing.Mouser

open PartSourcing.Text PartSourcing.Loose

/-- Whether a character belongs to a count. -/
def isCounting (c : Char) : Bool := c.isDigit || c == ','

/-- The count at the start of a text. -/
def countOf (s : String) : List Char := (trimChars s.toList).takeWhile isCounting

/-- **A point follows the count** that a text starts with. -/
def PointFollows (s : String) : Prop :=
  countOf s ≠ [] ∧ ∃ rest, dropLeading s.toList = countOf s ++ '.' :: rest

theorem isNumeric_iff {c : Char} : isNumeric c = true ↔ isCounting c = true ∨ c = '.' := by
  simp only [isNumeric, isCounting, Bool.or_eq_true, beq_iff_eq]
  tauto

theorem isCounting_of_mem_countOf {s : String} {c : Char} (hc : c ∈ countOf s) :
    isCounting c = true :=
  List.mem_takeWhile_imp hc

/-- A count is the quantity that is looked for, and a text without one is looked at as a whole. -/
theorem availableQuantity_eq (s : String) :
    availableQuantity s = .text (if countOf s = [] then s else String.ofList (countOf s)) := by
  have hcount : (trimChars s.toList).takeWhile (fun c => c.isDigit || c == ',') = countOf s := rfl
  simp only [availableQuantity, hcount, List.isEmpty_iff]

/-- The count is at the start of the text, after blanks: trimming its end takes none of it. -/
theorem exists_dropLeading (s : String) : ∃ rest, dropLeading s.toList = countOf s ++ rest ∧
    ∀ c ∈ rest.head?, isCounting c = false := by
  have hcut : ∃ behind, (∀ c ∈ behind, isBlank c = true) ∧
      dropLeading s.toList = trimChars s.toList ++ behind :=
    ⟨(dropLeading s.toList).rtakeWhile isBlank, fun c hc => List.mem_rtakeWhile_imp hc,
      (List.rdropWhile_append_rtakeWhile ..).symm⟩
  obtain ⟨behind, hbehind, hcut⟩ := hcut
  refine ⟨(trimChars s.toList).dropWhile isCounting ++ behind, ?_, ?_⟩
  · rw [hcut, countOf, ← List.append_assoc, List.takeWhile_append_dropWhile]
  · intro c hc
    cases hrest : (trimChars s.toList).dropWhile isCounting with
    | nil =>
      -- behind the trimmed text there are only blanks
      rw [hrest, List.nil_append] at hc
      have hblank := hbehind c (List.mem_of_mem_head? hc)
      by_contra hcount
      rw [Bool.not_eq_false] at hcount
      rw [isBlank_of_isNumeric (isNumeric_iff.mpr (.inl hcount))] at hblank
      cases hblank
    | cons d rest =>
      rw [hrest] at hc
      obtain rfl := Option.some.inj hc
      have hhead := List.head_dropWhile_not isCounting (hrest ▸ List.cons_ne_nil _ rest)
      simpa [hrest] using hhead

/-- The blanks in front of a number are not looked at. -/
theorem leadingNumber?_dropLeading (s : List Char) :
    leadingNumber? (dropLeading s) = leadingNumber? s := by
  have hsplit : s = s.takeWhile isBlank ++ dropLeading s := List.takeWhile_append_dropWhile.symm
  conv_rhs => rw [hsplit]
  exact (leadingNumber?_blanks (fun c hc => List.mem_takeWhile_imp hc) _).symm

/-- **A count is read as it is, whatever follows but a point.** -/
theorem leadingNumber?_count {n rest : List Char} (hne : n ≠ [])
    (hn : ∀ c ∈ n, isCounting c = true) (hrest : ∀ c ∈ rest.head?, isNumeric c = false) :
    leadingNumber? (n ++ rest) = leadingNumber? n := by
  have hnumeric : ∀ c ∈ n, isNumeric c = true := fun c hc => isNumeric_iff.mpr (.inl (hn c hc))
  have halone : leadingRun (dropLeading (n ++ [])) = n := leadingRun_append hne hnumeric (by simp)
  rw [List.append_nil] at halone
  rw [leadingNumber?, leadingNumber?, leadingRun_append hne hnumeric hrest, halone]

/-- **Both rules find the same quantity** in a text in which no point follows the count. -/
theorem quantity?_availableQuantity {s : String} (h : ¬PointFollows s) :
    (availableQuantity s).quantity? = (text s).quantity? := by
  rw [availableQuantity_eq]
  by_cases hne : countOf s = []
  · rw [if_pos hne]
  · obtain ⟨rest, hs, hrest⟩ := exists_dropLeading s
    have hstop : ∀ c ∈ rest.head?, isNumeric c = false := by
      intro c hc
      by_contra hnumeric
      rw [Bool.not_eq_false] at hnumeric
      rcases isNumeric_iff.mp hnumeric with hcount | rfl
      · rw [hrest c hc] at hcount
        cases hcount
      · obtain ⟨rest, rfl⟩ := List.head?_eq_some_iff.mp hc
        exact h ⟨hne, rest, hs⟩
    rw [if_neg hne, quantity?, quantity?, String.toList_ofList,
      ← leadingNumber?_dropLeading s.toList, hs,
      leadingNumber?_count hne (fun _ => isCounting_of_mem_countOf) hstop]

theorem listing_of_decode {m : MouserSection} {req : Requirement} {r : RawRecord} {p : Part}
    (hp : r.decode .mouser Part.decoder = .ok p) :
    (provider m).listing r req = .ok (p.listing req.targetQuantity) := by
  simp only [provider, hp]
  rfl

/-- The quantity of a sighting is the one found in the count of the part. -/
theorem quantity_of_sighting {m : MouserSection} {c : EngineConfig} {req : Requirement}
    {id : SearchId} {r : RawRecord} {p : Part} (hp : r.decode .mouser Part.decoder = .ok p)
    {sighting : Sighting} (h : (provider m).sighting c req id r = .ok (some sighting)) :
    sighting.quantity = (p.availability.map availableQuantity).bind Loose.quantity? := by
  rw [Provider.sighting, listing_of_decode hp] at h
  obtain ⟨v, -, hs⟩ := Option.map_eq_some_iff.mp (Except.ok.inj h)
  rw [← hs]
  rfl

/-- **The quantity of a sighting**: what the shared rule finds in the text on availability if no
point follows the count, and else what it finds in the count. -/
theorem quantity_of_availability {m : MouserSection} {c : EngineConfig} {req : Requirement}
    {id : SearchId} {r : RawRecord} {p : Part} (hp : r.decode .mouser Part.decoder = .ok p)
    {s : String} (hs : p.availability = some s) {sighting : Sighting}
    (h : (provider m).sighting c req id r = .ok (some sighting)) :
    (¬PointFollows s → sighting.quantity = (text s).quantity?) ∧
      (PointFollows s →
        sighting.quantity = (text (String.ofList (countOf s))).quantity?) := by
  have hquantity := quantity_of_sighting hp h
  rw [hs, Option.map_some, Option.bind_some] at hquantity
  constructor
  · intro hpoint
    exact hquantity.trans (quantity?_availableQuantity hpoint)
  · intro hpoint
    rw [hquantity, availableQuantity_eq, if_neg hpoint.1]

section Stock

/-- The record of a part with the given text on availability. -/
def partInStock (availability : String) : RawRecord where
  source := .mouser
  payload := .obj [
    ("ManufacturerPartNumber", .str "AB1"), ("Availability", .str availability)]
  fetchedAt := .epoch

/-- What is read in such a record, where no vendor is a placeholder. -/
def readInStock (availability : String) : Except RawRecord.Fault (Option Sighting) :=
  (provider {}).sighting { placeholderVendors := [] } ⟨"AB1", 1, [], none, "USD"⟩ .zero
    (partInStock availability)

theorem decode_partInStock (availability : String) :
    (partInStock availability).decode .mouser Part.decoder =
      .ok ⟨some "AB1", none, none, some availability, [], none, none⟩ := rfl

/-- A sighting is made of every such record. -/
theorem exists_readInStock (availability : String) :
    ∃ s, readInStock availability = .ok (some s) := by
  have hvendor : Provider.HasVendor { placeholderVendors := [] }
      ((⟨some "AB1", none, none, some availability, [], none, none⟩ : Part).listing 1) :=
    ⟨vendorName, rfl, by decide, List.forall_mem_nil _⟩
  obtain ⟨s, hs⟩ : ∃ s, (provider {}).sightingOf? { placeholderVendors := [] }
      ⟨"AB1", 1, [], none, "USD"⟩ .zero (partInStock availability) _ = some s :=
    Provider.exists_sightingOf?_iff.mpr hvendor
  refine ⟨s, ?_⟩
  rw [readInStock, Provider.sighting, listing_of_decode (decode_partInStock availability)]
  exact congrArg Except.ok hs

/-- A count with a comma, and one that a point follows. -/
theorem quantity_of_availability_stock :
    ¬PointFollows "1,234 In Stock" ∧ PointFollows "12. In Stock" ∧
    ∃ s s', readInStock "1,234 In Stock" = .ok (some s) ∧
      readInStock "12. In Stock" = .ok (some s') ∧
      s.quantity = some 1234 ∧ s'.quantity = some 12 := by
  have hcount : countOf "1,234 In Stock" = "1,234".toList := by decide +kernel
  have hcount' : countOf "12. In Stock" = "12".toList := by decide +kernel
  have hnot : ¬PointFollows "1,234 In Stock" := by
    rintro ⟨-, rest, hrest⟩
    have hdrop : dropLeading "1,234 In Stock".toList = "1,234".toList ++ " In Stock".toList := rfl
    rw [hcount, hdrop] at hrest
    have hhead := congrArg List.head? (List.append_cancel_left hrest)
    rw [List.head?_cons] at hhead
    exact absurd hhead (by decide)
  have hpoint : PointFollows "12. In Stock" := by
    rw [PointFollows, hcount']
    exact ⟨by decide, " In Stock".toList, rfl⟩
  obtain ⟨s, hs⟩ := exists_readInStock "1,234 In Stock"
  obtain ⟨s', hs'⟩ := exists_readInStock "12. In Stock"
  refine ⟨hnot, hpoint, s, s', hs, hs', ?_, ?_⟩
  · rw [(quantity_of_availability (decode_partInStock _) rfl hs).1 hnot]
    decide +kernel
  · rw [(quantity_of_availability (decode_partInStock _) rfl hs').2 hpoint, hcount']
    decide +kernel

/-- **A point after the count makes a difference**: an amount that is no quantity becomes one, and a
quantity is lost. -/
theorem quantity_of_fractional_availability :
    ∃ s s', readInStock "12.5 In Stock" = .ok (some s) ∧ s.quantity = some 12 ∧
      (text "12.5 In Stock").quantity? = none ∧
      readInStock ",.0 In Stock" = .ok (some s') ∧ s'.quantity = none ∧
      (text ",.0 In Stock").quantity? = some 0 := by
  obtain ⟨s, hs⟩ := exists_readInStock "12.5 In Stock"
  obtain ⟨s', hs'⟩ := exists_readInStock ",.0 In Stock"
  refine ⟨s, s', hs, ?_, by decide +kernel, hs', ?_, by decide +kernel⟩
  · rw [quantity_of_sighting (decode_partInStock _) hs]
    decide +kernel
  · rw [quantity_of_sighting (decode_partInStock _) hs']
    decide +kernel

end Stock

end PartSourcing.Mouser
