import PartSourcing.Proofs.Decimal.TotalOrder
import PartSourcing.Proofs.Json.TableOrder
import PartSourcing.Proofs.Listing.Marks
import PartSourcing.Proofs.Names
import PartSourcing.Proofs.SearchTerms
import PartSourcing.Provider.All
import PartSourcing.Provider.Reading

/-!
# What is read from records

A record is usable if it comes from the source that reads it, can be read as a listing, and names a
vendor that is none of the placeholders (`IsUsable`).  The sightings in some records are those of
the usable ones, in their order, each made from its record alone (`Reads`, `reads_iff`): whatever
stands beside a record does not matter to it.

**Every sighting that is read is well formed** (`WellRead`), whatever was in the records: its vendor
has a key that no placeholder has, it is of a part, it has a currency, and what it leaves open is
missing and not blank.
-/

namespace PartSourcing

open PartSourcing.Json PartSourcing.Text

/-! ## Where records come from -/

theorem RawRecord.source_of_decode {r : RawRecord} {source : Source} {α : Type}
    {f : Json.Decoder α} {a : α} (h : r.decode source f = .ok a) : r.source = source := by
  unfold RawRecord.decode at h
  split at h
  · assumption
  · exact nomatch h

/-- **A source reads its own records only.** -/
theorem SourceSections.source_of_listing {sections : SourceSections} {source : Source}
    {p : Provider} (hp : sections.provider? source = some p) {r : RawRecord} {req : Requirement}
    {l : Listing} (h : p.listing r req = .ok l) : r.source = p.source := by
  cases source with
  | digiKey | mouser | brokerBin | ebay | findchips =>
    obtain ⟨s, -, rfl⟩ := Option.map_eq_some_iff.mp hp
    obtain ⟨a, ha, -⟩ := exists_of_map_eq_ok h
    exact RawRecord.source_of_decode ha
  | nexar =>
    obtain ⟨s, -, rfl⟩ := Option.map_eq_some_iff.mp hp
    obtain ⟨f, hf, -⟩ := exists_of_bind_eq_ok h
    exact RawRecord.source_of_decode hf

/-! ## Currencies that are read -/

theorem isAllBlank_upper {s : String} (h : isAllBlank s = false) :
    isAllBlank (upper s) = false := by
  obtain ⟨c, hc, hb⟩ := isAllBlank_eq_false_iff.mp h
  obtain ⟨d, hd⟩ := List.exists_mem_of_ne_nil _ (upperChar_ne_nil c)
  refine isAllBlank_eq_false_iff.mpr ⟨d, ?_, isBlank_of_mem_upperChar hb hd⟩
  rw [toList_upper]
  exact List.mem_flatMap.mpr ⟨c, hc, hd⟩

theorem isBlank_toUpper_of_isAlpha {c : Char} (h : c.isAlpha = true) :
    isBlank c.toUpper = false := by
  have key : ∀ n < 0x80, (Char.ofNat n).isAlpha = true →
      isBlank (Char.ofNat n).toUpper = false := by
    decide
  have hc := key c.toNat (toNat_lt_of_isAlpha h)
  rw [Char.ofNat_toNat] at hc
  exact hc h

/-- The code of a mark is not blank. -/
theorem notBlank_of_entryFor? {text mark code : String}
    (h : currencyMarks.entryFor? text = some (mark, code)) : isAllBlank code = false := by
  have key : ∀ e ∈ currencyMarks.entries, isAllBlank e.2 = false := by
    rw [currencyMarks_entries]
    decide +kernel
  exact key _ (Lexicon.mem_of_entryFor? h).1

/-- **The currency that a field names is not blank.** -/
theorem notBlank_of_currencyCode? {s code : String} (h : currencyCode? s = some code) :
    isAllBlank code = false := by
  unfold currencyCode? at h
  split at h
  · rename_i hletters
    obtain ⟨hlength, halpha⟩ := hletters
    obtain rfl := Option.some.inj h
    cases hs : s.toList with
    | nil =>
      rw [hs] at hlength
      cases hlength
    | cons c cs =>
      rw [hs] at halpha
      refine isAllBlank_eq_false_iff.mpr ⟨c.toUpper, ?_, isBlank_toUpper_of_isAlpha ?_⟩
      · rw [asciiUpper, String.toList_ofList, hs]
        exact List.mem_cons_self
      · exact (Bool.and_eq_true_iff.mp halpha).1
  · obtain ⟨⟨mark, code⟩, he, rfl⟩ := Option.map_eq_some_iff.mp h
    exact notBlank_of_entryFor? he

namespace Loose

theorem isPositive_of_positive? {o : Option Float} {x : Float} (h : o.bind positive? = some x) :
    Decimal.isPositive x = true := by
  obtain ⟨y, -, hy⟩ := Option.bind_eq_some_iff.mp h
  unfold positive? at hy
  split at hy
  · rename_i hpos
    exact Option.some.inj hy ▸ hpos
  · cases hy

/-- **A price that is read is positive.** -/
theorem isPositive_of_price {v : Loose} {x : Float} (h : v.price.1 = some x) :
    Decimal.isPositive x = true := by
  cases v with
  | number y => exact isPositive_of_positive? (o := some y) h
  | text s =>
    unfold price at h
    dsimp only at h
    split at h
    all_goals exact isPositive_of_positive? h

/-- The currency that a price marks is not blank. -/
theorem notBlank_of_price {v : Loose} {code : String} (h : v.price.2 = some code) :
    isAllBlank code = false := by
  cases v with
  | number y => cases h
  | text s =>
    unfold price at h
    dsimp only at h
    split at h
    · rename_i he
      obtain rfl := Option.some.inj h
      exact notBlank_of_entryFor? he
    · cases h

end Loose

namespace Provider

/-! ## Vendors -/

/-- **A listing has a usable vendor** if it names one that is not blank, and no placeholder in any
spelling. -/
def HasVendor (c : EngineConfig) (l : Listing) : Prop :=
  ∃ name, l.vendorName = some name ∧ isAllBlank name = false ∧
    ∀ q ∈ c.placeholderVendors, Vendor.key q ≠ Vendor.key name

theorem vendor?_eq_some_iff {c : EngineConfig} {l : Listing} {v : String × String} :
    vendor? c l = some v ↔ ∃ name, l.vendorName = some name ∧ v = (trim name, Vendor.key name) ∧
      isAllBlank name = false ∧ ∀ q ∈ c.placeholderVendors, Vendor.key q ≠ Vendor.key name := by
  have hkey (name : String) :
      ((Vendor.key name).isEmpty || c.isPlaceholder (Vendor.key name)) = false ↔
        isAllBlank name = false ∧ ∀ q ∈ c.placeholderVendors, Vendor.key q ≠ Vendor.key name := by
    rw [Bool.or_eq_false_iff, EngineConfig.isPlaceholder, List.any_eq_false, Bool.eq_false_iff,
      Bool.eq_false_iff, ne_eq, String.isEmpty_iff, Vendor.key_eq_empty_iff]
    simp only [beq_iff_eq, ne_eq]
  unfold vendor?
  cases hl : l.vendorName with
  | none =>
    have hempty : (Vendor.key "").isEmpty = true := rfl
    refine iff_of_false ?_ fun ⟨_, h, _⟩ => nomatch h
    dsimp only [Option.map_none, Option.getD_none]
    rw [hempty, Bool.true_or, if_pos rfl]
    exact nofun
  | some name =>
    dsimp only [Option.map_some, Option.getD_some]
    rw [Vendor.key_trim]
    constructor
    · intro h
      split at h
      · cases h
      · rename_i hname
        exact ⟨name, rfl, (Option.some.inj h).symm, (hkey name).mp ((Bool.not_eq_true _).mp hname)⟩
    · rintro ⟨_, hname, rfl, husable⟩
      obtain rfl := Option.some.inj hname
      rw [(hkey name).mpr husable, if_neg Bool.false_ne_true]

theorem exists_sightingOf?_iff {p : Provider} {c : EngineConfig} {req : Requirement}
    {id : SearchId} {r : RawRecord} {l : Listing} :
    (∃ s, p.sightingOf? c req id r l = some s) ↔ HasVendor c l := by
  constructor
  · rintro ⟨s, hs⟩
    obtain ⟨v, hv, -⟩ := Option.map_eq_some_iff.mp hs
    obtain ⟨name, hl, -, husable⟩ := vendor?_eq_some_iff.mp hv
    exact ⟨name, hl, husable⟩
  · rintro ⟨name, hl, husable⟩
    rw [sightingOf?, vendor?_eq_some_iff.mpr ⟨name, hl, rfl, husable⟩]
    exact ⟨_, rfl⟩

/-! ## Records that make a sighting -/

section Records

variable (p : Provider) (c : EngineConfig) (req : Requirement) (id : SearchId)

/-- **A record is usable** if it can be read as a listing and has a usable vendor. -/
def IsUsable (r : RawRecord) : Prop := ∃ l, p.listing r req = .ok l ∧ HasVendor c l

/-- **The sightings in some records**: each usable one, which comes from the source itself, makes
its own, and the others are passed over. -/
inductive Reads : List RawRecord → List Sighting → Prop where
  | nil : Reads [] []
  | kept {r : RawRecord} {l : Listing} {s : Sighting} {rs : List RawRecord} {ss : List Sighting}
      (hsource : r.source = p.source) (hl : p.listing r req = .ok l) (hvendor : HasVendor c l)
      (hs : p.sightingOf? c req id r l = some s) (hrest : Reads rs ss) : Reads (r :: rs) (s :: ss)
  | passed {r : RawRecord} {rs : List RawRecord} {ss : List Sighting}
      (h : ¬IsUsable p c req r) (hrest : Reads rs ss) : Reads (r :: rs) ss

variable {p c req id}

theorem join_sighting {r : RawRecord} {l : Listing} (hl : p.listing r req = .ok l) :
    (p.sighting c req id r).toOption.join = p.sightingOf? c req id r l := by
  rw [sighting, hl]
  exact Option.join_some

/-- **What a record makes**: a sighting if it is usable, and else nothing. -/
theorem sighting_cases (r : RawRecord) :
    (∃ l s, p.listing r req = .ok l ∧ HasVendor c l ∧ p.sightingOf? c req id r l = some s ∧
      (p.sighting c req id r).toOption.join = some s) ∨
    ¬IsUsable p c req r ∧ (p.sighting c req id r).toOption.join = none := by
  cases hl : p.listing r req with
  | error e =>
    refine .inr ⟨fun ⟨l, h, _⟩ => absurd (hl.symm.trans h) nofun, ?_⟩
    rw [sighting, hl]
    rfl
  | ok l =>
    rw [join_sighting hl]
    cases hs : p.sightingOf? c req id r l with
    | some s => exact .inl ⟨l, s, rfl, exists_sightingOf?_iff.mp ⟨s, hs⟩, hs, rfl⟩
    | none =>
      refine .inr ⟨fun ⟨l', h, hvendor⟩ => ?_, rfl⟩
      obtain rfl := Except.ok.inj (hl.symm.trans h)
      obtain ⟨s, hs'⟩ := exists_sightingOf?_iff.mpr hvendor
      exact nomatch hs.symm.trans hs'

theorem sightings_cons (r : RawRecord) (rs : List RawRecord) :
    p.sightings c req id (r :: rs) =
      ((p.sighting c req id r).toOption.join).toList ++ p.sightings c req id rs := by
  rw [sightings, List.filterMap_cons]
  cases (p.sighting c req id r).toOption.join with
  | none => rfl
  | some s => rfl

/-- **What is read from some records**, if a source reads its own ones only. -/
theorem reads_iff (hown : ∀ r l, p.listing r req = .ok l → r.source = p.source)
    {rs : List RawRecord} {ss : List Sighting} :
    Reads p c req id rs ss ↔ ss = p.sightings c req id rs := by
  constructor
  · intro h
    induction h with
    | nil => rfl
    | @kept r l s rs ss _ hl hvendor hs _ ih =>
      rw [sightings_cons, join_sighting hl, hs, ← ih]
      rfl
    | @passed r rs ss hunusable _ ih =>
      rcases sighting_cases r with ⟨l, _, hl, hvendor, -⟩ | ⟨-, hjoin⟩
      · exact absurd ⟨l, hl, hvendor⟩ hunusable
      · rw [sightings_cons, hjoin, ← ih]
        rfl
  · rintro rfl
    induction rs with
    | nil => exact .nil
    | cons r rs ih =>
      rw [sightings_cons]
      rcases sighting_cases r with ⟨l, s, hl, hvendor, hs, hjoin⟩ | ⟨hunusable, hjoin⟩
      · rw [hjoin]
        exact .kept (hown r l hl) hl hvendor hs ih
      · rw [hjoin]
        exact .passed hunusable ih

/-- A sighting that is read is that of a record. -/
theorem Reads.exists_of_mem {rs : List RawRecord} {ss : List Sighting} {s : Sighting}
    (h : Reads p c req id rs ss) (hs : s ∈ ss) :
    ∃ r ∈ rs, ∃ l, r.source = p.source ∧ p.sightingOf? c req id r l = some s := by
  induction h with
  | nil => exact absurd hs List.not_mem_nil
  | @kept r l s' rs ss hsource _ _ hmade _ ih =>
    rcases List.mem_cons.mp hs with rfl | hs
    · exact ⟨r, List.mem_cons_self, l, hsource, hmade⟩
    · obtain ⟨r', hr', hmade'⟩ := ih hs
      exact ⟨r', List.mem_cons_of_mem _ hr', hmade'⟩
  | passed _ _ ih =>
    obtain ⟨r', hr', hmade'⟩ := ih hs
    exact ⟨r', List.mem_cons_of_mem _ hr', hmade'⟩

end Records

/-! ## Sightings that are read -/

/-- **A sighting as a source reads it**, for a requirement and under a configuration. -/
structure WellRead (p : Provider) (c : EngineConfig) (req : Requirement) (s : Sighting) : Prop where
  vendorName : Trimmed s.vendorName
  vendorKey : s.vendorKey = Vendor.key s.vendorName ∧ s.vendorKey ≠ ""
  /-- The key of the vendor is no placeholder, and neither is any spelling of one. -/
  noPlaceholder : ∀ q ∈ c.placeholderVendors, ∀ t, Vendor.key t = Vendor.key q →
    s.vendorKey ≠ t ∧ s.vendorName ≠ t
  part : Trimmed s.part
  isSubstitute : s.isSubstitute = true ↔
    ∀ m ∈ req.namedParts, PartNumber.normal m ≠ PartNumber.normal s.part
  price : ∀ x ∈ s.price, Decimal.isFinite x = true ∧ 0.0 < x
  currency : isAllBlank s.currency = false
  manufacturer : ∀ t ∈ s.manufacturer, Trimmed t
  stockNumber : ∀ t ∈ s.stockNumber, Trimmed t
  leadTime : ∀ t ∈ s.leadTime, Trimmed t
  reportedBy : s.reportedBy = [p.source]

theorem given?_some (s : String) : given? (some s) = nonBlank? s := Option.bind_some ..

theorem trimmed_of_given? {o : Option String} {t : String} (h : given? o = some t) :
    Trimmed t := by
  obtain ⟨s, -, hs⟩ := Option.bind_eq_some_iff.mp h
  exact trimmed_of_nonBlank? hs

theorem trimmed_partOf {req : Requirement} (hpart : isAllBlank req.part = false)
    (term : Option String) (l : Listing) : Trimmed (partOf req term l) := by
  unfold partOf
  cases hown : given? l.part with
  | some t => exact trimmed_of_given? hown
  | none =>
    cases hterm : given? term with
    | some t => exact trimmed_of_given? hterm
    | none => exact trimmed_trim hpart

theorem notBlank_currencyOf {p : Provider} (hp : isAllBlank p.currency = false) (l : Listing)
    {marked : Option String} (hmarked : ∀ code ∈ marked, isAllBlank code = false) :
    isAllBlank (p.currencyOf l marked) = false := by
  unfold currencyOf
  cases hown : (given? l.currency).bind currencyCode? with
  | some code =>
    obtain ⟨t, -, ht⟩ := Option.bind_eq_some_iff.mp hown
    exact notBlank_of_currencyCode? ht
  | none =>
    cases marked with
    | some code => exact hmarked code rfl
    | none => exact isAllBlank_upper ((isAllBlank_trim _).trans hp)

theorem isSubstitute_iff {req : Requirement} {part : String} :
    (!req.isRequested part) = true ↔
      ∀ m ∈ req.namedParts, PartNumber.normal m ≠ PartNumber.normal part := by
  rw [Bool.not_eq_true', Bool.eq_false_iff, ne_eq, Requirement.isRequested_iff, List.mem_map,
    not_exists]
  exact forall_congr' fun m => not_and

theorem wellRead_of_sightingOf? {p : Provider} (hp : isAllBlank p.currency = false)
    {c : EngineConfig} {req : Requirement} (hpart : isAllBlank req.part = false) {id : SearchId}
    {r : RawRecord} (hr : r.source = p.source) {l : Listing} {s : Sighting}
    (h : p.sightingOf? c req id r l = some s) : p.WellRead c req s := by
  obtain ⟨v, hv, hs⟩ := Option.map_eq_some_iff.mp h
  obtain ⟨name, -, rfl, hname, hplaceholder⟩ := vendor?_eq_some_iff.mp hv
  have hprice (x : Float) (hx : ((l.price.map Loose.price).getD (none, none)).1 = some x) :
      Decimal.isPositive x = true := by
    cases hl : l.price with
    | none =>
      rw [hl] at hx
      cases hx
    | some v =>
      rw [hl] at hx
      exact Loose.isPositive_of_price hx
  have hmarked (code : String)
      (hcode : ((l.price.map Loose.price).getD (none, none)).2 = some code) :
      isAllBlank code = false := by
    cases hl : l.price with
    | none =>
      rw [hl] at hcode
      cases hcode
    | some v =>
      rw [hl] at hcode
      exact Loose.notBlank_of_price hcode
  dsimp only at hs
  generalize (l.price.map Loose.price).getD (none, none) = read at hs hprice hmarked
  obtain ⟨price, marked⟩ := read
  subst hs
  exact {
    vendorName := trimmed_trim hname
    vendorKey := ⟨(Vendor.key_trim name).symm, fun hempty => by
      rw [Vendor.key_eq_empty_iff.mp hempty] at hname
      cases hname⟩
    noPlaceholder := fun q hq t ht =>
      ⟨fun heq => hplaceholder q hq (by rw [← ht, ← heq, Vendor.key_key]),
        fun heq => hplaceholder q hq (by rw [← ht, ← heq, Vendor.key_trim])⟩
    part := trimmed_partOf hpart r.term l
    isSubstitute := isSubstitute_iff
    price := fun x hx =>
      ⟨(Bool.and_eq_true_iff.mp (hprice x hx)).1, Decimal.pos_of_isPositive (hprice x hx)⟩
    currency := notBlank_currencyOf hp l hmarked
    manufacturer := fun t ht => trimmed_of_given? ht
    stockNumber := fun t ht => trimmed_of_given? ht
    leadTime := fun t ht => trimmed_of_given? ht
    reportedBy := congrArg (fun source => [source]) hr }

/-- A valid requirement is of a part. -/
theorem notBlank_of_validate {req : Requirement} (h : req.validate = .ok ()) :
    isAllBlank req.part = false := by
  rw [Bool.eq_false_iff]
  intro hblank
  rw [Requirement.validate, PartNumber.normal_eq_empty_iff.mpr hblank] at h
  exact nomatch h

/-- **What is read from records**, of any shape and origin: the sightings of those that are usable,
each of them well formed. -/
theorem sightings_wellRead {sections : SourceSections} {source : Source} {p : Provider}
    (hp : sections.provider? source = some p) (hcurrency : isAllBlank p.currency = false)
    {req : Requirement} (hreq : req.validate = .ok ()) (c : EngineConfig) (id : SearchId)
    (rs : List RawRecord) :
    (∀ ss, Reads p c req id rs ss ↔ ss = p.sightings c req id rs) ∧
      ∀ s ∈ p.sightings c req id rs, p.WellRead c req s := by
  have hreads : ∀ ss, Reads p c req id rs ss ↔ ss = p.sightings c req id rs := fun _ =>
    reads_iff fun _ _ hl => SourceSections.source_of_listing hp hl
  refine ⟨hreads, fun s hs => ?_⟩
  obtain ⟨r, -, l, hsource, hmade⟩ := ((hreads _).mpr rfl).exists_of_mem hs
  exact wellRead_of_sightingOf? hcurrency (notBlank_of_validate hreq) hsource hmade

/-- Two good records with one among them that is malformed, one from elsewhere, and one of a seller
that nobody knows. -/
def fiveRecords : List RawRecord := [
  ⟨.brokerBin, .obj [("company", .str " Acme "), ("part", .str "lm 317t")], some "LM317T", .epoch⟩,
  ⟨.brokerBin, .obj [("company", .int 7), ("part", .str "LM317T")], some "LM317T", .epoch⟩,
  ⟨.ebay, .obj [("company", .str "Acme"), ("part", .str "LM317T")], some "LM317T", .epoch⟩,
  ⟨.brokerBin, .obj [("company", .str "UNKNOWN seller"), ("part", .str "LM317T")], none, .epoch⟩,
  ⟨.brokerBin, .arr [.str "Beta", .str "LM350T", .null, .null, .null, .null, .str "eur", .null,
    .null], none, .epoch⟩]

/-- The good ones are read, and the others do not matter. -/
theorem sightings_wellRead_fiveRecords :
    let p := BrokerBin.provider {}
    let req : Requirement := ⟨"LM317T", 5, [], none, "USD"⟩
    ({ brokerBin := some {} } : SourceSections).provider? .brokerBin = some p ∧
    isAllBlank p.currency = false ∧ req.validate = .ok () ∧
    ∃ ss, Reads p {} req .zero fiveRecords ss ∧ (∀ s ∈ ss, p.WellRead {} req s) ∧
      ss.map (fun s => (s.vendorName, s.vendorKey, s.part, s.isSubstitute, s.currency)) =
        [("Acme", "acme", "lm 317t", false, "USD"), ("Beta", "beta", "LM350T", true, "EUR")] := by
  intro p req
  have hp : ({ brokerBin := some {} } : SourceSections).provider? .brokerBin = some p := rfl
  have hcurrency : isAllBlank p.currency = false := by decide
  have hreq : req.validate = .ok () := by decide +kernel
  obtain ⟨hreads, hwell⟩ := sightings_wellRead hp hcurrency hreq {} .zero fiveRecords
  refine ⟨hp, hcurrency, hreq, p.sightings {} req .zero fiveRecords, (hreads _).mpr rfl, hwell, ?_⟩
  decide +kernel

end Provider

end PartSourcing
