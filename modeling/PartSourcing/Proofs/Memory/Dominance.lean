import Mathlib.Data.Prod.Lex
import Mathlib.Data.String.Basic
import PartSourcing.Memory.Tally
import PartSourcing.Proofs.Decimal.TotalOrder
import PartSourcing.Proofs.FirstAppearance
import PartSourcing.Proofs.Memory.BestPrice
import PartSourcing.Proofs.Memory.Growth

/-!
# The dominant currency

Currencies are ranked by three things: how many quotes are in them, whether they are the default
one, and their names.  The name alone tells two of them apart, so the ranking is a linear order in
which no two currencies are on a par (`preference_injective`).  **That is why the order in which
currencies are looked at does not matter**: whoever finds a foremost one finds the only one, be it
by going through the quotes (`isDominant_of_dominant?`) or through a table of counts that comes in
any order (`Tally.dominant?_eq`).

The best price is then the least one in that currency, and since the order of all doubles is linear
too, it is known from the quotes that there are (`best?_eq_some_iff`).
-/

namespace PartSourcing

open PartSourcing.Calendar

namespace Quote

/-! ## Foremost elements -/

/-- **Going through a list and keeping what comes first** in the order of a key finds an element
that comes first. -/
theorem foldl_least {α κ : Type} [LinearOrder κ] (key : α → κ) {f : α → α → α}
    (hf : ∀ x y, f x y = x ∧ key x ≤ key y ∨ f x y = y ∧ key y ≤ key x)
    (first : α) (others : List α) :
    others.foldl f first ∈ first :: others ∧
      ∀ x ∈ first :: others, key (others.foldl f first) ≤ key x := by
  induction others generalizing first with
  | nil =>
    refine ⟨List.mem_singleton_self first, fun x hx => ?_⟩
    rw [List.mem_singleton.mp hx]
    exact le_refl _
  | cons y ys ih =>
    obtain ⟨hin, hleast⟩ := ih (f first y)
    have hkept := hleast _ List.mem_cons_self
    rw [List.foldl_cons]
    rcases hf first y with ⟨hs, hle⟩ | ⟨hs, hle⟩
    · rw [hs] at hin hleast hkept ⊢
      refine ⟨?_, fun x hx => ?_⟩
      · rcases List.mem_cons.mp hin with h | h
        · rw [h]
          exact List.mem_cons_self
        · exact List.mem_cons_of_mem _ (List.mem_cons_of_mem _ h)
      · rcases List.mem_cons.mp hx with rfl | hx
        · exact hkept
        · rcases List.mem_cons.mp hx with rfl | hx
          · exact hkept.trans hle
          · exact hleast x (List.mem_cons_of_mem _ hx)
    · rw [hs] at hin hleast hkept ⊢
      refine ⟨List.mem_cons_of_mem _ hin, fun x hx => ?_⟩
      rcases List.mem_cons.mp hx with rfl | hx
      · exact hkept.trans hle
      · exact hleast x hx

/-! ## The ranking of currencies -/

/-- The place of a currency with so many quotes. -/
def place (entry : String × Nat) : Natᵒᵈ ×ₗ Boolᵒᵈ ×ₗ String :=
  toLex (OrderDual.toDual entry.2,
    toLex (OrderDual.toDual (decide (entry.1 = defaultCurrency)), entry.1))

/-- The place of a currency among some quotes. -/
def preference (quotes : List Quote) (c : String) : Natᵒᵈ ×ₗ Boolᵒᵈ ×ₗ String :=
  place (c, count quotes c)

theorem place_lt_iff {a b : String × Nat} : place a < place b ↔
    b.2 < a.2 ∨ a.2 = b.2 ∧ (a.1 = defaultCurrency ∧ b.1 ≠ defaultCurrency ∨
      (a.1 = defaultCurrency ↔ b.1 = defaultCurrency) ∧ a.1 < b.1) := by
  simp only [place, Prod.Lex.toLex_lt_toLex, OrderDual.toDual_lt_toDual,
    EmbeddingLike.apply_eq_iff_eq]
  refine or_congr_right (and_congr_right fun _ => ?_)
  by_cases ha : a.1 = defaultCurrency <;> by_cases hb : b.1 = defaultCurrency <;> simp [ha, hb]

variable {quotes : List Quote}

theorem preference_injective : Function.Injective (preference quotes) := by
  intro a b h
  simp only [preference, place, EmbeddingLike.apply_eq_iff_eq, Prod.mk.injEq] at h
  exact h.2.2

theorem outranks_iff {a b : String} :
    outranks quotes a b = true ↔ preference quotes a < preference quotes b := by
  rw [preference, preference, place_lt_iff, outranks]
  by_cases hcount : count quotes a = count quotes b
  · simp only [hcount, if_true, lt_irrefl, false_or, true_and]
    by_cases ha : a = defaultCurrency <;> by_cases hb : b = defaultCurrency <;> simp [ha, hb]
  · simp [hcount]

theorem Tally.comparison_eq_gt_iff {a b : String × Nat} :
    comparison a b = .gt ↔ place a < place b := by
  rw [place_lt_iff, comparison, Ordering.then_eq_gt, compare_gt_iff_gt, compare_eq_iff_eq,
    Ordering.then_eq_gt, compare_gt_iff_gt, compare_gt_iff_gt, compare_eq_iff_eq, beq_eq_decide,
    beq_eq_decide]
  refine or_congr_right (and_congr_right fun _ => ?_)
  by_cases ha : a.1 = defaultCurrency <;> by_cases hb : b.1 = defaultCurrency <;> simp [ha, hb]

/-! ## The choice of a currency -/

/-- **The dominant currency**: something is quoted in it, and no other one comes before it. -/
structure IsDominant (quotes : List Quote) (c : String) : Prop where
  quoted : c ∈ quotes.map (·.2)
  foremost : ∀ c' ∈ quotes.map (·.2), preference quotes c ≤ preference quotes c'

theorem IsDominant.unique {c c' : String} (h : IsDominant quotes c) (h' : IsDominant quotes c') :
    c = c' :=
  preference_injective (le_antisymm (h.foremost c' h'.quoted) (h'.foremost c h.quoted))

/-- A currency dominates if it comes before every other one: by number, or else as the default one
or by name. -/
theorem isDominant_iff {c : String} : IsDominant quotes c ↔ c ∈ quotes.map (·.2) ∧
    ∀ c' ∈ quotes.map (·.2), c' ≠ c → count quotes c' < count quotes c ∨
      count quotes c = count quotes c' ∧
        (c = defaultCurrency ∨ c' ≠ defaultCurrency ∧ c < c') := by
  have hbefore {c' : String} (hne : c' ≠ c) : preference quotes c ≤ preference quotes c' ↔
      count quotes c' < count quotes c ∨ count quotes c = count quotes c' ∧
        (c = defaultCurrency ∨ c' ≠ defaultCurrency ∧ c < c') := by
    rw [preference_injective.ne hne.symm |>.le_iff_lt, preference, preference, place_lt_iff]
    refine or_congr_right (and_congr_right fun _ => ?_)
    by_cases hc : c = defaultCurrency <;> by_cases hc' : c' = defaultCurrency
    · exact absurd (hc'.trans hc.symm) hne
    all_goals simp [hc, hc']
  constructor
  · intro h
    exact ⟨h.quoted, fun c' hc' hne => (hbefore hne).mp (h.foremost c' hc')⟩
  · rintro ⟨hquoted, h⟩
    refine ⟨hquoted, fun c' hc' => ?_⟩
    by_cases hne : c' = c
    · rw [hne]
    · exact (hbefore hne).mpr (h c' hc' hne)

theorem isDominant_of_dominant? {c : String} (h : dominant? quotes = some c) :
    IsDominant quotes c := by
  unfold dominant? at h
  split at h
  · exact absurd h.symm (Option.some_ne_none c)
  · rename_i first others hquotes
    obtain rfl := Option.some.inj h
    have hleast := foldl_least (preference quotes)
      (f := fun best c => if outranks quotes c best then c else best) ?_ first others
    · rw [← hquotes] at hleast
      exact ⟨hleast.1, hleast.2⟩
    · intro x y
      by_cases hyx : outranks quotes y x = true
      · rw [if_pos hyx]
        exact Or.inr ⟨rfl, (outranks_iff.mp hyx).le⟩
      · rw [if_neg hyx]
        exact Or.inl ⟨rfl, not_lt.mp fun hlt => hyx (outranks_iff.mpr hlt)⟩

theorem dominant?_eq_none_iff : dominant? quotes = none ↔ quotes = [] := by
  cases quotes with
  | nil => exact iff_of_true rfl rfl
  | cons q qs => exact iff_of_false (Option.some_ne_none _) (List.cons_ne_nil q qs)

theorem count_pos_iff {c : String} : 0 < count quotes c ↔ c ∈ quotes.map (·.2) := by
  rw [count, List.countP_pos_iff, List.mem_map]
  simp only [beq_iff_eq]

namespace Tally

variable (t : Tally quotes)

theorem mem_counts_iff {c : String} {n : Nat} :
    (c, n) ∈ t.counts ↔ n = count quotes c ∧ c ∈ quotes.map (·.2) := by
  rw [t.mem_iff, ← count_pos_iff]
  refine and_congr_right fun hn => ?_
  rw [show n = count quotes c from hn]

/-- The greatest entry of a table of counts is the dominant currency. -/
theorem isDominant_of_dominant? {c : String} (h : t.dominant? = some c) : IsDominant quotes c := by
  obtain ⟨⟨c', n⟩, hgreatest, rfl⟩ := Option.map_eq_some_iff.mp h
  unfold greatest? at hgreatest
  split at hgreatest
  · exact absurd hgreatest.symm (Option.some_ne_none _)
  · rename_i first others hcounts
    have hleast := foldl_least place
      (f := fun best y => if comparison best y = .gt then best else y) ?_ first others
    · rw [Option.some.inj hgreatest, ← hcounts] at hleast
      obtain ⟨hn, hquoted⟩ := t.mem_counts_iff.mp hleast.1
      refine ⟨hquoted, fun c hc => ?_⟩
      have hle := hleast.2 _ (t.mem_counts_iff.mpr ⟨rfl, hc⟩)
      rw [hn] at hle
      exact hle
    · intro x y
      by_cases hxy : comparison x y = .gt
      · rw [if_pos hxy]
        exact Or.inl ⟨rfl, (comparison_eq_gt_iff.mp hxy).le⟩
      · rw [if_neg hxy]
        exact Or.inr ⟨rfl, not_lt.mp fun hlt => hxy (comparison_eq_gt_iff.mpr hlt)⟩

theorem dominant?_eq_none_iff : t.dominant? = none ↔ quotes = [] := by
  have hcounts : t.dominant? = none ↔ t.counts = [] := by
    unfold dominant? greatest?
    cases t.counts with
    | nil => exact iff_of_true rfl rfl
    | cons e es => exact iff_of_false (Option.some_ne_none _) (List.cons_ne_nil e es)
  rw [hcounts, List.eq_nil_iff_forall_not_mem]
  constructor
  · intro h
    by_contra hne
    obtain ⟨q, hq⟩ := List.exists_mem_of_ne_nil quotes hne
    exact h _ (t.mem_counts_iff.mpr ⟨rfl, List.mem_map_of_mem hq⟩)
  · rintro rfl ⟨c, n⟩ hmem
    exact List.not_mem_nil (t.mem_counts_iff.mp hmem).2

/-- **The order in which a table is gone through does not matter.** -/
theorem dominant?_eq : t.dominant? = Quote.dominant? quotes := by
  cases h : t.dominant? with
  | none => exact (Quote.dominant?_eq_none_iff.mpr (t.dominant?_eq_none_iff.mp h)).symm
  | some c =>
    cases h' : Quote.dominant? quotes with
    | none =>
      have hnone := t.dominant?_eq_none_iff.mpr (Quote.dominant?_eq_none_iff.mp h')
      exact absurd (hnone.symm.trans h).symm (Option.some_ne_none c)
    | some c' =>
      rw [(t.isDominant_of_dominant? h).unique (Quote.isDominant_of_dominant? h')]

theorem best?_eq : t.best? = Quote.best? quotes := by
  rw [best?, t.dominant?_eq]
  rfl

/-- There is such a table. -/
def ofQuotes (quotes : List Quote) : Tally quotes where
  counts := (quotes.map (·.2)).eraseDups.map fun c => (c, count quotes c)
  nodup := by
    rw [List.map_map]
    exact (List.map_id _).symm ▸ nodup_eraseDups _
  mem_iff entry := by
    rw [List.mem_map]
    constructor
    · rintro ⟨c, hc, rfl⟩
      exact ⟨rfl, count_pos_iff.mpr (List.mem_eraseDups.mp hc)⟩
    · rintro ⟨hn, hpos⟩
      rw [hn, count_pos_iff] at hpos
      exact ⟨entry.1, List.mem_eraseDups.mpr hpos, Prod.ext rfl hn.symm⟩

end Tally

/-! ## The least price -/

theorem leastIn?_spec {c : String} (hc : c ∈ quotes.map (·.2)) :
    ∃ p, leastIn? quotes c = some p ∧ (p, c) ∈ quotes ∧
      ∀ q, (q, c) ∈ quotes → Decimal.totalKey p ≤ Decimal.totalKey q := by
  have hmem (q : Float) : q ∈ (quotes.filter fun q => q.2 == c).map (·.1) ↔ (q, c) ∈ quotes := by
    simp
  cases hprices : (quotes.filter fun q => q.2 == c).map (·.1) with
  | nil =>
    obtain ⟨⟨q, c'⟩, hq, rfl⟩ := List.mem_map.mp hc
    have := (hmem q).mpr hq
    rw [hprices] at this
    exact absurd this List.not_mem_nil
  | cons first others =>
    have hleast := foldl_least Decimal.totalKey
      (f := fun best x => if Decimal.totalKey x < Decimal.totalKey best then x else best)
      ?_ first others
    · refine ⟨least first others, ?_, (hmem _).mp (hprices ▸ hleast.1), fun q hq => ?_⟩
      · rw [leastIn?, hprices]
      · exact hleast.2 q (hprices ▸ (hmem q).mpr hq)
    · intro x y
      by_cases hyx : Decimal.totalKey y < Decimal.totalKey x
      · rw [if_pos hyx]
        exact Or.inr ⟨rfl, hyx.le⟩
      · rw [if_neg hyx]
        exact Or.inl ⟨rfl, not_lt.mp hyx⟩

theorem best?_eq_none_iff : best? quotes = none ↔ quotes = [] := by
  rw [best?, Option.bind_eq_none_iff, ← dominant?_eq_none_iff]
  constructor
  · intro h
    cases hd : dominant? quotes with
    | none => rfl
    | some c =>
      obtain ⟨p, hp, -⟩ := leastIn?_spec (isDominant_of_dominant? hd).quoted
      have hnone := h c hd
      rw [hp] at hnone
      exact absurd hnone (Option.some_ne_none _)
  · intro h c hc
    exact absurd (h.symm.trans hc).symm (Option.some_ne_none c)

/-- **The best of some quotes**: it is the least one in the dominant currency. -/
theorem best?_eq_some_iff {p : Float} {c : String} : best? quotes = some (p, c) ↔
    IsDominant quotes c ∧ (p, c) ∈ quotes ∧
      ∀ q, (q, c) ∈ quotes → Decimal.totalKey p ≤ Decimal.totalKey q := by
  constructor
  · intro h
    obtain ⟨c', hdominant, hc⟩ := Option.bind_eq_some_iff.mp h
    obtain ⟨p', hp', heq⟩ := Option.map_eq_some_iff.mp hc
    obtain ⟨rfl, rfl⟩ := Prod.mk.inj heq
    have hfirst := isDominant_of_dominant? hdominant
    obtain ⟨p, hp, hleast⟩ := leastIn?_spec hfirst.quoted
    obtain rfl := Option.some.inj (hp.symm.trans hp')
    exact ⟨hfirst, hleast⟩
  · rintro ⟨hc, hp, hleast⟩
    cases hbest : best? quotes with
    | none =>
      rw [best?_eq_none_iff.mp hbest] at hp
      exact absurd hp List.not_mem_nil
    | some b =>
      -- both are least prices in the one dominant currency
      obtain ⟨c', hdominant, hc'⟩ := Option.bind_eq_some_iff.mp hbest
      obtain ⟨p', hp', rfl⟩ := Option.map_eq_some_iff.mp hc'
      obtain rfl := hc.unique (isDominant_of_dominant? hdominant)
      obtain ⟨p'', hp'', hmem, hleast'⟩ := leastIn?_spec hc.quoted
      obtain rfl := Option.some.inj (hp''.symm.trans hp')
      rw [Decimal.totalKey_injective (le_antisymm (hleast' p hp) (hleast _ hmem))]

end Quote

/-! ## The best price of a record -/

namespace VendorEntry

/-- The currency that a vendor's price counts in. -/
def quotedIn (e : VendorEntry) : String := e.currency.getD defaultCurrency

/-- How many vendors quote in a currency. -/
def votes (vendors : List VendorEntry) (c : String) : Nat :=
  vendors.countP fun e => e.quotedIn = c

/-- **The best price that some vendors ask, and its currency.**  The currency is the one that most
of them quote in, of equally many the default one, and else the first in the alphabet.  The price is
the least one in that currency. -/
structure IsBest (vendors : List VendorEntry) (p : Float) (c : String) : Prop where
  asked : ∃ e ∈ vendors, e.price = some p ∧ e.quotedIn = c
  dominant : ∀ e ∈ vendors, e.quotedIn ≠ c →
    votes vendors e.quotedIn < votes vendors c ∨ votes vendors c = votes vendors e.quotedIn ∧
      (c = defaultCurrency ∨ e.quotedIn ≠ defaultCurrency ∧ c < e.quotedIn)
  least : ∀ e ∈ vendors, ∀ q, e.price = some q → e.quotedIn = c →
    Decimal.totalKey p ≤ Decimal.totalKey q

end VendorEntry

namespace PartRecord

/-- The vendors that compete for the best price: those with a price that were seen at or after the
given instant. -/
def competitors (r : PartRecord) (cutoff : Instant) : List VendorEntry :=
  r.entries.filter fun e => cutoff ≤ e.lastSeen ∧ e.price.isSome

section Quotes

variable (r : PartRecord) (cutoff : Instant)

theorem quotesSince_eq : r.quotesSince cutoff =
    (r.competitors cutoff).filterMap VendorEntry.quote? := by
  rw [quotesSince, competitors, List.filterMap_filter, List.filterMap_filter]
  refine List.filterMap_congr fun e _ => ?_
  cases hprice : e.price with
  | none => simp [VendorEntry.quote?, hprice]
  | some p => simp

theorem mem_quotesSince {q : Float} {c : String} : (q, c) ∈ r.quotesSince cutoff ↔
    ∃ e ∈ r.competitors cutoff, e.price = some q ∧ e.quotedIn = c := by
  rw [quotesSince_eq, List.mem_filterMap]
  refine exists_congr fun e => and_congr_right fun _ => ?_
  simp only [VendorEntry.quote?, Option.map_eq_some_iff, Prod.mk.injEq]
  exact ⟨fun ⟨p, hp, hpq, hc⟩ => ⟨hpq ▸ hp, hc⟩, fun ⟨hp, hc⟩ => ⟨q, hp, rfl, hc⟩⟩

theorem price_isSome_of_mem {e : VendorEntry} (he : e ∈ r.competitors cutoff) :
    e.price.isSome = true := by
  have h := (List.mem_filter.mp he).2
  rw [decide_eq_true_eq] at h
  exact h.2

theorem map_currency_quotesSince : (r.quotesSince cutoff).map (·.2) =
    (r.competitors cutoff).map VendorEntry.quotedIn := by
  rw [quotesSince_eq, List.map_filterMap, ← List.filterMap_eq_map]
  refine List.filterMap_congr fun e he => ?_
  obtain ⟨p, hp⟩ := Option.isSome_iff_exists.mp (r.price_isSome_of_mem cutoff he)
  simp only [VendorEntry.quote?, hp, Option.map_some, Function.comp_apply]
  rfl

theorem count_quotesSince (c : String) :
    Quote.count (r.quotesSince cutoff) c = VendorEntry.votes (r.competitors cutoff) c := by
  have hcount : Quote.count (r.quotesSince cutoff) c =
      ((r.quotesSince cutoff).map (·.2)).countP (· == c) := by
    rw [List.countP_map]
    rfl
  rw [hcount, map_currency_quotesSince, List.countP_map, VendorEntry.votes]
  refine List.countP_congr fun e _ => ?_
  simp

theorem quotesSince_eq_nil_iff : r.quotesSince cutoff = [] ↔ r.competitors cutoff = [] := by
  rw [← List.map_eq_nil_iff (f := fun q : Quote => q.2), map_currency_quotesSince,
    List.map_eq_nil_iff]

/-- The best quote of a record is the best price of its competitors. -/
theorem best?_quotesSince {p : Float} {c : String} :
    Quote.best? (r.quotesSince cutoff) = some (p, c) ↔
      VendorEntry.IsBest (r.competitors cutoff) p c := by
  rw [Quote.best?_eq_some_iff, Quote.isDominant_iff, map_currency_quotesSince, mem_quotesSince]
  simp only [count_quotesSince, mem_quotesSince, List.forall_mem_map]
  constructor
  · rintro ⟨⟨-, hdominant⟩, hasked, hleast⟩
    exact ⟨hasked, hdominant, fun e he q hq hec => hleast q ⟨e, he, hq, hec⟩⟩
  · intro h
    obtain ⟨e, he, -, rfl⟩ := h.asked
    exact ⟨⟨List.mem_map_of_mem he, h.dominant⟩, h.asked,
      fun q ⟨e', he', hq, hec⟩ => h.least e' he' q hq hec⟩

end Quotes

/-- **The best price after an upsert.**  As long as the calendar reaches back to the date before
which offers are stale, the record after a sighting shows the best price that its competing vendors
ask, in the currency that most of them quote in; it shows none, and no currency, just if no vendor
competes.  In whatever order a table of the currencies is gone through, the choice is this one. -/
theorem best_price_after_upsert (r : Option PartRecord) (part : String) (s : Sighting)
    (now cutoff : Instant) (staleDays : UInt32)
    (hcutoff : now.minusDays? staleDays.toNat = some cutoff) :
    ∃ r', remember? r part s now staleDays = some r' ∧
      (∀ p c, r'.bestPrice = some p ∧ r'.bestCurrency = some c ↔
        VendorEntry.IsBest (r'.competitors cutoff) p c) ∧
      (r'.bestPrice = none ↔ r'.competitors cutoff = []) ∧
      (r'.bestCurrency = none ↔ r'.competitors cutoff = []) ∧
      ∀ t : Quote.Tally (r'.quotesSince cutoff),
        r'.bestPrice = t.best?.map (·.1) ∧ r'.bestCurrency = t.best?.map (·.2) := by
  obtain ⟨r', hr'⟩ : ∃ r', r' = (r.getD (empty part now)).withSighting s now cutoff := ⟨_, rfl⟩
  have hquotes : r'.bestPrice = (Quote.best? (r'.quotesSince cutoff)).map (·.1) ∧
      r'.bestCurrency = (Quote.best? (r'.quotesSince cutoff)).map (·.2) := by
    rw [hr']
    exact ⟨rfl, rfl⟩
  refine ⟨r', remember?_eq_some_iff.mpr ⟨cutoff, hcutoff, hr'.symm⟩, fun p c => ?_, ?_, ?_,
    fun t => ?_⟩
  · rw [← best?_quotesSince, hquotes.1, hquotes.2]
    constructor
    · rintro ⟨hp, hc⟩
      obtain ⟨⟨p', c'⟩, hbest, rfl⟩ := Option.map_eq_some_iff.mp hp
      rw [hbest] at hc ⊢
      rw [← Option.some.inj hc]
    · intro hbest
      rw [hbest]
      exact ⟨rfl, rfl⟩
  · rw [hquotes.1, Option.map_eq_none_iff, Quote.best?_eq_none_iff, quotesSince_eq_nil_iff]
  · rw [hquotes.2, Option.map_eq_none_iff, Quote.best?_eq_none_iff, quotesSince_eq_nil_iff]
  · rw [t.best?_eq]
    exact hquotes

/-- A record of vendors, each by its key, price, currency and last day: three of them ask in euros
and one in dollars, and the cheapest has not been seen for a year. -/
def threeCurrencies : PartRecord :=
  { empty "AB1" .epoch with
    entries := [("alpha", 0.5, "EUR", 390), ("beta", 0.75, "EUR", 391), ("delta", 2.0, "EUR", 380),
      ("gamma", 2.5, "USD", 392), ("omega", 0.25, "GBP", 20)].map fun (key, price, currency, day) =>
        { VendorEntry.ofSighting (.bare key "AB1" ⟨day * 86400, 0⟩ ⟨0⟩) with
          price := some price
          currency := some currency } }

/-- An offer in dollars by one of the vendors that asked in euros. -/
def offerInDollars : Sighting :=
  { Sighting.bare "delta" "AB1" ⟨400 * 86400, 0⟩ ⟨1⟩ with price := some 1.5 }

/-- It makes dollars as frequent as euros and so the dominant currency, and itself the best
price. -/
theorem best_price_of_threeCurrencies :
    Instant.minusDays? ⟨400 * 86400, 0⟩ (180 : UInt32).toNat = some ⟨220 * 86400, 0⟩ ∧
    ∃ r', remember? (some threeCurrencies) "ab1" offerInDollars ⟨400 * 86400, 0⟩ 180 = some r' ∧
      r'.bestPrice = some 1.5 ∧ r'.bestCurrency = some "USD" ∧
      VendorEntry.IsBest (r'.competitors ⟨220 * 86400, 0⟩) 1.5 "USD" := by
  have hcutoff : Instant.minusDays? ⟨400 * 86400, 0⟩ (180 : UInt32).toNat =
      some ⟨220 * 86400, 0⟩ := by decide
  obtain ⟨r', hr', hbest, -⟩ :=
    best_price_after_upsert (some threeCurrencies) "ab1" offerInDollars _ _ _ hcutoff
  have hshown : (remember? (some threeCurrencies) "ab1" offerInDollars ⟨400 * 86400, 0⟩ 180).map
      (fun r => (r.bestPrice, r.bestCurrency)) = some (some 1.5, some "USD") := by decide +kernel
  rw [hr', Option.map_some, Option.some_inj, Prod.mk.injEq] at hshown
  exact ⟨hcutoff, r', hr', hshown.1, hshown.2, (hbest _ _).mp hshown⟩

end PartRecord

end PartSourcing
