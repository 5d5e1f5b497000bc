import PartSourcing.Proofs.Memory.Dominance
import PartSourcing.Provider.Mouser
import PartSourcing.Provider.Nexar

/-!
# The price for a quantity

Two sources quote by quantity: a record of theirs holds price breaks in any order.  The break that
applies to a target quantity is said here without a search (`Applies`): the greatest one that the
target reaches, or the least of all if it reaches none.  It is what the search through the breaks
finds (`applies_of_applicable?`), and where no two breaks have one quantity it is the only one, so
the order of the breaks does not matter (`applicable?_perm`).

**Price and currency of a listing are those of one break, the one that applies**
(`listing_of_breaks`), and there is no price only where there are no breaks.
-/

namespace PartSourcing

/-- The listing of a record is that of its offer, if this can be read. -/
theorem Nexar.listing_eq {r : RawRecord} {f : Nexar.FlatOffer}
    (hf : r.decode .nexar Nexar.FlatOffer.decoder = .ok f) (req : Requirement) :
    Nexar.listing r req = ((Json.decode Nexar.Offer.decoder f.offer).mapError
      (.malformed .nexar)).map fun o => o.listing f req.targetQuantity := by
  rw [Nexar.listing, hf]
  rfl

namespace Provider

variable {breaks breaks' : List PriceBreak} {target : UInt32} {a b : PriceBreak}

/-! ## The break that applies -/

/-- **The price break that applies** to a target quantity: the greatest one that the target reaches,
or the least one if the target reaches none. -/
inductive Applies (breaks : List PriceBreak) (target : UInt32) (b : PriceBreak) : Prop where
  | reached (hmem : b ∈ breaks) (hb : b.quantity.toNat ≤ target.toNat)
      (hgreatest : ∀ a ∈ breaks, a.quantity.toNat ≤ target.toNat →
        a.quantity.toNat ≤ b.quantity.toNat)
  | unreached (hmem : b ∈ breaks) (hnone : ∀ a ∈ breaks, target.toNat < a.quantity.toNat)
      (hleast : ∀ a ∈ breaks, b.quantity.toNat ≤ a.quantity.toNat)

namespace Applies

theorem mem (h : Applies breaks target b) : b ∈ breaks := by
  cases h <;> assumption

/-- The quantity from which the price holds is determined. -/
theorem quantity_eq (ha : Applies breaks target a) (hb : Applies breaks target b) :
    a.quantity = b.quantity := by
  rw [← UInt64.toNat_inj]
  cases ha with
  | reached hamem hareached hagreatest =>
    cases hb with
    | reached hbmem hbreached hbgreatest =>
      have hle := hagreatest b hbmem hbreached
      have hge := hbgreatest a hamem hareached
      omega
    | unreached _ hnone _ =>
      have hlt := hnone a hamem
      omega
  | unreached hamem hnone haleast =>
    cases hb with
    | reached hbmem hbreached _ =>
      have hlt := hnone b hbmem
      omega
    | unreached hbmem _ hbleast =>
      have hle := haleast b hbmem
      have hge := hbleast a hamem
      omega

theorem perm (h : Applies breaks target b) (hp : breaks.Perm breaks') :
    Applies breaks' target b := by
  have hmem : ∀ a, a ∈ breaks' → a ∈ breaks := fun a ha => hp.mem_iff.mpr ha
  cases h with
  | reached hb hreached hgreatest =>
    exact .reached (hp.mem_iff.mp hb) hreached fun a ha => hgreatest a (hmem a ha)
  | unreached hb hnone hleast =>
    exact .unreached (hp.mem_iff.mp hb) (fun a ha => hnone a (hmem a ha))
      fun a ha => hleast a (hmem a ha)

/-- **Where no two breaks have one quantity, one of them applies.** -/
theorem unique (ha : Applies breaks target a) (hb : Applies breaks target b)
    (hdistinct : (breaks.map (·.quantity)).Nodup) : a = b :=
  List.inj_on_of_nodup_map hdistinct ha.mem hb.mem (ha.quantity_eq hb)

end Applies

/-! ## The search through the breaks -/

theorem greaterBreak_cases (a b : PriceBreak) :
    (greaterBreak a b = a ∧ b.quantity.toNat ≤ a.quantity.toNat) ∨
      (greaterBreak a b = b ∧ a.quantity.toNat ≤ b.quantity.toNat) := by
  unfold greaterBreak
  split
  · rename_i h
    exact .inl ⟨rfl, Nat.le_of_lt (UInt64.lt_iff_toNat_lt.mp h)⟩
  · rename_i h
    exact .inr ⟨rfl, Nat.le_of_not_lt fun hlt => h (UInt64.lt_iff_toNat_lt.mpr hlt)⟩

theorem lesserBreak_cases (a b : PriceBreak) :
    (lesserBreak a b = a ∧ a.quantity.toNat ≤ b.quantity.toNat) ∨
      (lesserBreak a b = b ∧ b.quantity.toNat ≤ a.quantity.toNat) := by
  unfold lesserBreak
  split
  · rename_i h
    exact .inr ⟨rfl, Nat.le_of_lt (UInt64.lt_iff_toNat_lt.mp h)⟩
  · rename_i h
    exact .inl ⟨rfl, Nat.le_of_not_lt fun hlt => h (UInt64.lt_iff_toNat_lt.mpr hlt)⟩

/-- Going through breaks finds one with the greatest quantity. -/
theorem foldl_greaterBreak (b : PriceBreak) (bs : List PriceBreak) :
    bs.foldl greaterBreak b ∈ b :: bs ∧
      ∀ a ∈ b :: bs, a.quantity.toNat ≤ (bs.foldl greaterBreak b).quantity.toNat :=
  Quote.foldl_least (fun b : PriceBreak => OrderDual.toDual b.quantity.toNat) greaterBreak_cases
    b bs

/-- Going through breaks finds one with the least quantity. -/
theorem foldl_lesserBreak (b : PriceBreak) (bs : List PriceBreak) :
    bs.foldl lesserBreak b ∈ b :: bs ∧
      ∀ a ∈ b :: bs, (bs.foldl lesserBreak b).quantity.toNat ≤ a.quantity.toNat :=
  Quote.foldl_least (fun b : PriceBreak => b.quantity.toNat) lesserBreak_cases b bs

theorem mem_reached_iff :
    a ∈ breaks.filter (fun b => b.quantity ≤ target.toUInt64) ↔
      a ∈ breaks ∧ a.quantity.toNat ≤ target.toNat := by
  simp [List.mem_filter, UInt64.le_iff_toNat_le]

/-- **What is found applies.** -/
theorem applies_of_applicable? (h : applicable? breaks target = some b) :
    Applies breaks target b := by
  unfold applicable? at h
  split at h
  · rename_i first others hreached
    obtain rfl := Option.some.inj h
    obtain ⟨hin, hgreatest⟩ := foldl_greaterBreak first others
    rw [← hreached, mem_reached_iff] at hin
    refine .reached hin.1 hin.2 ?_
    intro a ha hle
    refine hgreatest a ?_
    rw [← hreached, mem_reached_iff]
    exact ⟨ha, hle⟩
  · rename_i hreached
    split at h
    · rename_i first others
      obtain rfl := Option.some.inj h
      obtain ⟨hin, hleast⟩ := foldl_lesserBreak first others
      refine .unreached hin ?_ hleast
      intro a ha
      have hnot : a ∉ (first :: others).filter (fun b => b.quantity ≤ target.toUInt64) := by
        rw [hreached]
        exact List.not_mem_nil
      rw [mem_reached_iff, not_and] at hnot
      exact Nat.lt_of_not_le (hnot ha)
    · cases h

/-- **There is nothing to find only where there are no breaks.** -/
theorem applicable?_eq_none_iff : applicable? breaks target = none ↔ breaks = [] := by
  constructor
  · intro h
    unfold applicable? at h
    split at h
    · cases h
    · split at h
      · cases h
      · rfl
  · rintro rfl
    rfl

theorem exists_applicable? (target : UInt32) (h : breaks ≠ []) :
    ∃ b, applicable? breaks target = some b :=
  Option.ne_none_iff_exists'.mp fun hnone => h (applicable?_eq_none_iff.mp hnone)

/-- **The order of breaks with different quantities does not matter.** -/
theorem applicable?_perm (hp : breaks.Perm breaks') (hdistinct : (breaks.map (·.quantity)).Nodup) :
    applicable? breaks' target = applicable? breaks target := by
  by_cases hnil : breaks = []
  · subst hnil
    rw [hp.nil_eq]
  · have hnil' : breaks' ≠ [] := fun h => hnil (h ▸ hp).eq_nil
    obtain ⟨a, ha⟩ := exists_applicable? target hnil
    obtain ⟨b, hb⟩ := exists_applicable? target hnil'
    have hab := (applies_of_applicable? ha).unique ((applies_of_applicable? hb).perm hp.symm)
      hdistinct
    rw [ha, hb, hab]

/-! ## Records with breaks -/

/-- **The price breaks in a record** that can be read, of either source that quotes by quantity. -/
inductive HasBreaks : Provider → RawRecord → List PriceBreak → Prop where
  | mouser (s : MouserSection) {r : RawRecord} {p : Mouser.Part}
      (hp : r.decode .mouser Mouser.Part.decoder = .ok p) : HasBreaks (Mouser.provider s) r p.breaks
  | nexar (s : NexarSection) {r : RawRecord} {f : Nexar.FlatOffer} {o : Nexar.Offer}
      (hf : r.decode .nexar Nexar.FlatOffer.decoder = .ok f)
      (ho : Json.decode Nexar.Offer.decoder f.offer = .ok o) :
      HasBreaks (Nexar.provider s) r o.prices

/-- What a listing says of price and currency is what the break that was found says. -/
theorem HasBreaks.exists_listing {p : Provider} {r : RawRecord} (h : HasBreaks p r breaks)
    (req : Requirement) :
    ∃ l, p.listing r req = .ok l ∧
      l.price = (applicable? breaks req.targetQuantity).map (·.price) ∧
      l.currency = given? ((applicable? breaks req.targetQuantity).bind (·.currency)) := by
  cases h with
  | @mouser s r p hp =>
    refine ⟨p.listing req.targetQuantity, ?_, rfl, rfl⟩
    simp only [Mouser.provider, hp]
    rfl
  | @nexar s r f o hf ho =>
    refine ⟨o.listing f req.targetQuantity, ?_, rfl, rfl⟩
    have hlisting : (Nexar.provider s).listing r req = Nexar.listing r req := rfl
    rw [hlisting, Nexar.listing_eq hf, ho]
    rfl

/-- **What a record with price breaks says**: price and currency are those of the break that
applies, both are missing where there are no breaks and nowhere else, and another order of the
breaks says the same if no two of them have one quantity. -/
theorem listing_of_breaks {p : Provider} {r : RawRecord} (h : HasBreaks p r breaks)
    (req : Requirement) :
    ∃ l, p.listing r req = .ok l ∧
      (breaks ≠ [] → ∃ b, Applies breaks req.targetQuantity b ∧ l.price = some b.price ∧
        l.currency = given? b.currency) ∧
      (l.price = none ∧ l.currency = none ↔ breaks = []) ∧
      ∀ r' breaks', HasBreaks p r' breaks' → breaks.Perm breaks' →
        (breaks.map (·.quantity)).Nodup →
        ∃ l', p.listing r' req = .ok l' ∧ l'.price = l.price ∧ l'.currency = l.currency := by
  obtain ⟨l, hl, hprice, hcurrency⟩ := h.exists_listing req
  refine ⟨l, hl, ?_, ⟨?_, ?_⟩, ?_⟩
  · intro hne
    obtain ⟨b, hb⟩ := exists_applicable? req.targetQuantity hne
    rw [hb] at hprice hcurrency
    exact ⟨b, applies_of_applicable? hb, hprice, hcurrency⟩
  · intro hnone
    rw [hprice, Option.map_eq_none_iff, applicable?_eq_none_iff] at hnone
    exact hnone.1
  · intro hnil
    rw [hprice, hcurrency, applicable?_eq_none_iff.mpr hnil]
    exact ⟨rfl, rfl⟩
  · intro r' breaks' h' hp hdistinct
    obtain ⟨l', hl', hprice', hcurrency'⟩ := h'.exists_listing req
    rw [applicable?_perm hp hdistinct] at hprice' hcurrency'
    exact ⟨l', hl', hprice'.trans hprice.symm, hcurrency'.trans hcurrency.symm⟩

section ThreeBreaks

/-- The record of a part with price breaks, each given by quantity, price and currency. -/
def partWithBreaks (rows : List (Nat × String × String)) : RawRecord where
  source := .mouser
  payload := .obj [
    ("ManufacturerPartNumber", .str "ABC123"),
    ("PriceBreaks", .arr (rows.map fun (quantity, price, currency) => .obj [
      ("Quantity", Json.nat quantity), ("Price", .str price), ("Currency", .str currency)]))]
  fetchedAt := .epoch

/-- What these price breaks are. -/
def breaksOf (rows : List (Nat × String × String)) : List PriceBreak :=
  rows.map fun (quantity, price, currency) =>
    ⟨UInt64.ofNat quantity, .text price, some currency⟩

/-- A break in euro between two in dollars, and not in the order of their quantities. -/
def threeRows : List (Nat × String × String) :=
  [(100, "$0.95", "USD"), (1000, "€0.80", "EUR"), (10, "$1.20", "USD")]

/-- For 250 pieces the break of 100 applies, and it does so too when the breaks come the other way
round. -/
theorem listing_of_breaks_three :
    let p := Mouser.provider {}
    let req : Requirement := ⟨"ABC123", 250, [], none, "USD"⟩
    HasBreaks p (partWithBreaks threeRows) (breaksOf threeRows) ∧
    HasBreaks p (partWithBreaks threeRows.reverse) (breaksOf threeRows.reverse) ∧
    ∃ l l', p.listing (partWithBreaks threeRows) req = .ok l ∧
      p.listing (partWithBreaks threeRows.reverse) req = .ok l' ∧
      l.price = some (.text "$0.95") ∧ l.currency = some "USD" ∧
      l'.price = l.price ∧ l'.currency = l.currency := by
  intro p req
  have h : HasBreaks p (partWithBreaks threeRows) (breaksOf threeRows) :=
    .mouser {} (p := ⟨some "ABC123", none, none, none, breaksOf threeRows, none, none⟩) rfl
  have h' : HasBreaks p (partWithBreaks threeRows.reverse) (breaksOf threeRows.reverse) :=
    .mouser {} (p := ⟨some "ABC123", none, none, none, breaksOf threeRows.reverse, none, none⟩)
      rfl
  have hp : (breaksOf threeRows).Perm (breaksOf threeRows.reverse) :=
    threeRows.reverse_perm.symm.map _
  have hdistinct : ((breaksOf threeRows).map (·.quantity)).Nodup := by decide
  obtain ⟨l, hl, happlies, -, hperm⟩ := listing_of_breaks h req
  obtain ⟨l', hl', hprice, hcurrency⟩ := hperm _ _ h' hp hdistinct
  obtain ⟨b, hb, hlprice, hlcurrency⟩ := happlies (List.cons_ne_nil _ _)
  have hfound : Applies (breaksOf threeRows) 250 ⟨100, .text "$0.95", some "USD"⟩ :=
    applies_of_applicable? rfl
  obtain rfl := hb.unique hfound hdistinct
  refine ⟨h, h', l, l', hl, hl', hlprice, ?_, hprice, hcurrency⟩
  rw [hlcurrency]
  decide

end ThreeBreaks

end Provider

end PartSourcing
