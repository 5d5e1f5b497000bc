import PartSourcing.Proofs.Provider.Reading

/-!
# Parts that a record leaves open

A marketplace names no part in its records, so it is looked for in the title, among the terms that
are asked for (`mem_of_partIn?`).  Where a record names no part at all, it is of the term that it
was found under, or else of the requested part.  **Either way the part is requested**
(`isSubstitute_of_open`, `isSubstitute_of_ebay`): what is asked for, what is recognised and what
counts as requested are the same parts, whatever their spelling.
-/

namespace PartSourcing

open PartSourcing.Json PartSourcing.Text

/-! ## Titles -/

namespace Ebay

/-- Of two terms one is the longer one. -/
theorem longer_cases (a b : String) : longer a b = a ∨ longer a b = b := by
  unfold longer
  split
  · exact .inl rfl
  · exact .inr rfl

theorem foldl_longer_mem (t : String) (ts : List String) : ts.foldl longer t ∈ t :: ts := by
  induction ts generalizing t with
  | nil => exact List.mem_cons_self
  | cons u us ih =>
    rw [List.foldl_cons]
    rcases List.mem_cons.mp (ih (longer t u)) with h | h
    · rw [h]
      rcases longer_cases t u with hfirst | hsecond
      · rw [hfirst]
        exact List.mem_cons_self
      · rw [hsecond]
        exact List.mem_cons_of_mem _ List.mem_cons_self
    · exact List.mem_cons_of_mem _ (List.mem_cons_of_mem _ h)

/-- **What a title names is one of the terms.** -/
theorem mem_of_partIn? {title t : String} {terms : List String}
    (h : partIn? title terms = some t) : t ∈ terms := by
  unfold partIn? at h
  split at h
  · rename_i u us hnamed
    have hmem : t ∈ terms.filter (names (PartNumber.normal title)) := by
      rw [hnamed, ← Option.some.inj h]
      exact foldl_longer_mem u us
    exact (List.mem_filter.mp hmem).1
  · cases h

end Ebay

namespace Provider

variable {p : Provider} {c : EngineConfig} {req : Requirement} {id : SearchId} {r : RawRecord}
  {l : Listing} {s : Sighting}

theorem part_of_sightingOf? (h : p.sightingOf? c req id r l = some s) :
    s.part = partOf req r.term l ∧ s.isSubstitute = !req.isRequested (partOf req r.term l) := by
  obtain ⟨v, -, rfl⟩ := Option.map_eq_some_iff.mp h
  exact ⟨rfl, rfl⟩

/-- A term that is asked for is given as it is. -/
theorem given?_of_mem {t : String} (h : t ∈ req.searchTerms) : given? (some t) = some t := by
  rw [given?_some]
  exact (Requirement.trimmed_of_mem h).nonBlank?_eq

/-- **A part that a record leaves open** is that of its term, which is asked for, or else the
requested one. -/
theorem isRequested_partOf (hterm : ∀ t ∈ r.term, t ∈ req.searchTerms)
    (hopen : given? l.part = none) : req.isRequested (partOf req r.term l) = true := by
  unfold partOf
  rw [hopen, Option.none_or]
  cases hr : r.term with
  | none => exact (req.isRequested_trim req.part).trans req.isRequested_part
  | some t =>
    have ht := hterm t hr
    rw [given?_of_mem ht]
    exact Requirement.isRequested_of_mem ht

/-- **No substitute where the part is left open.** -/
theorem isSubstitute_of_open (hterm : ∀ t ∈ r.term, t ∈ req.searchTerms)
    (hopen : given? l.part = none) (h : p.sightingOf? c req id r l = some s) :
    s.isSubstitute = false := by
  rw [(part_of_sightingOf? h).2, isRequested_partOf hterm hopen]
  rfl

/-- The part of a marketplace listing is left open, or it is asked for. -/
theorem part_of_ebay {settings : EbaySection}
    (h : (Ebay.provider settings).listing r req = .ok l) :
    given? l.part = none ∨ ∃ t ∈ req.searchTerms, l.part = some t := by
  obtain ⟨item, -, rfl⟩ := exists_of_map_eq_ok h
  cases hpart : (item.listing req.searchTerms).part with
  | none => exact .inl rfl
  | some t =>
    obtain ⟨title, -, ht⟩ := Option.bind_eq_some_iff.mp hpart
    exact .inr ⟨t, Ebay.mem_of_partIn? ht, rfl⟩

/-- **No substitute at the marketplace**, whether the part is found in the title or not. -/
theorem isSubstitute_of_ebay {settings : EbaySection} (hterm : ∀ t ∈ r.term, t ∈ req.searchTerms)
    (h : (Ebay.provider settings).sighting c req id r = .ok (some s)) : s.isSubstitute = false := by
  obtain ⟨l, hl, hs⟩ := exists_of_map_eq_ok h
  rcases part_of_ebay hl with hopen | ⟨t, ht, hpart⟩
  · exact isSubstitute_of_open hterm hopen hs
  · rw [(part_of_sightingOf? hs).2, partOf, hpart, given?_of_mem ht]
    exact congrArg not (Requirement.isRequested_of_mem ht)

end Provider

namespace Requirement

/-- **What a requirement asks for.**  Its terms are trimmed, they are the normal forms of the parts
that it names, each once and in the order of first appearance, with the requested part in front, and
a part is requested just if there is a term for it.  So a record found under one of them is no
substitute, if its part is found in a title or left open. -/
theorem searchTerms_cover (req : Requirement) :
    (∀ t ∈ req.searchTerms, Trimmed t) ∧
    (req.searchTerms.map PartNumber.normal).Nodup ∧
    IsFirsts ((req.namedParts.map PartNumber.normal).filter (· ≠ ""))
      (req.searchTerms.map PartNumber.normal) ∧
    (isAllBlank req.part = false → req.searchTerms.head? = some (trim req.part)) ∧
    (∀ m, PartNumber.normal m ≠ "" → (req.isRequested m = true ↔
      ∃ t ∈ req.searchTerms, PartNumber.normal t = PartNumber.normal m)) ∧
    ∀ r : RawRecord, (∀ t ∈ r.term, t ∈ req.searchTerms) → ∀ (c : EngineConfig) (id : SearchId) s,
      (∀ settings, (Ebay.provider settings).sighting c req id r = .ok (some s) →
        s.isSubstitute = false) ∧
      ∀ (p : Provider) l, p.listing r req = .ok l → Provider.given? l.part = none →
        p.sightingOf? c req id r l = some s → s.isSubstitute = false := by
  refine ⟨fun t => trimmed_of_mem, (isFirsts_searchTerms req).nodup, isFirsts_searchTerms req,
    fun hpart => ?_, fun m => isRequested_iff_searchTerms, fun r hterm c id s => ⟨?_, ?_⟩⟩
  · rw [searchTerms_eq_cons hpart, List.head?_cons]
  · exact fun _ => Provider.isSubstitute_of_ebay hterm
  · exact fun _ _ _ hopen => Provider.isSubstitute_of_open hterm hopen

/-- A lot that is found under a substitute, which its title does not name, and one of the requested
part. -/
theorem searchTerms_cover_lots :
    let req : Requirement := ⟨"LM317T", 5, [" lm 317t", "", "LM350T"], none, "USD"⟩
    let lot (title : String) : RawRecord := ⟨.ebay, .obj [("title", .str title),
      ("seller", .obj [("username", .str "parts-direct")])], some "LM350T", .epoch⟩
    req.searchTerms = ["LM317T", "LM350T"] ∧
    (∃ s, (Ebay.provider {}).sighting {} req .zero (lot "Assorted regulators") = .ok (some s) ∧
      s.part = "LM350T" ∧ s.isSubstitute = false) ∧
    ∃ s, (Ebay.provider {}).sighting {} req .zero (lot "2x lm317t") = .ok (some s) ∧
      s.part = "LM317T" ∧ s.isSubstitute = false := by
  intro req lot
  have hterms : req.searchTerms = ["LM317T", "LM350T"] := by decide +kernel
  have hterm (title : String) : ∀ t ∈ (lot title).term, t ∈ req.searchTerms := by
    rintro _ ⟨⟩
    rw [hterms]
    decide
  have hread {title part : String}
      (h : ((Ebay.provider {}).sighting {} req .zero (lot title)).toOption.join.map (·.part) =
        some part) :
      ∃ s, (Ebay.provider {}).sighting {} req .zero (lot title) = .ok (some s) ∧ s.part = part ∧
        s.isSubstitute = false := by
    obtain ⟨s, hs, hpart⟩ := Option.map_eq_some_iff.mp h
    cases hmade : (Ebay.provider {}).sighting {} req .zero (lot title) with
    | error e =>
      rw [hmade] at hs
      cases hs
    | ok o =>
      rw [hmade] at hs
      obtain rfl : o = some s := hs
      have hcover := (searchTerms_cover req).2.2.2.2.2 (lot title) (hterm title) {} .zero s
      exact ⟨s, rfl, hpart, hcover.1 {} hmade⟩
  exact ⟨hterms, hread (by decide +kernel), hread (by decide +kernel)⟩

end Requirement

end PartSourcing
