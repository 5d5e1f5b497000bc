import PartSourcing.Memory.BestPrice

/-!
# Where a best price comes from

The best of some quotes is one of them, price and currency together (`Quote.mem_of_best?`).  So the
best price of a record is what one of its vendors asks, **in the currency that this vendor asks it
in** (`PartRecord.exists_quote_of_best`), and either both are known or neither is.
-/

namespace PartSourcing

open PartSourcing.Calendar

namespace Quote

theorem least_mem (first : Float) (others : List Float) :
    least first others ∈ first :: others := by
  induction others generalizing first with
  | nil => exact List.mem_singleton_self first
  | cons x xs ih =>
    unfold least
    rw [List.foldl_cons]
    split
    · exact List.mem_cons_of_mem _ (ih x)
    · rcases List.mem_cons.mp (ih first) with h | h
      · exact List.mem_cons.mpr (Or.inl h)
      · exact List.mem_cons_of_mem _ (List.mem_cons_of_mem _ h)

/-- **The best of some quotes is one of them.** -/
theorem mem_of_best? {quotes : List Quote} {q : Quote} (h : best? quotes = some q) :
    q ∈ quotes := by
  obtain ⟨c, -, hc⟩ := Option.bind_eq_some_iff.mp h
  obtain ⟨p, hp, rfl⟩ := Option.map_eq_some_iff.mp hc
  have hprice : p ∈ (quotes.filter fun q => q.2 == c).map (·.1) := by
    unfold leastIn? at hp
    split at hp
    · exact absurd hp (by simp)
    · rename_i x xs hxs
      rw [hxs, ← Option.some_inj.mp hp]
      exact least_mem x xs
  -- only quotes in the dominant currency were looked at, so the currency is that of the quote
  obtain ⟨⟨p', c'⟩, hmem, rfl⟩ := List.mem_map.mp hprice
  obtain ⟨hq, hcurrency⟩ := List.mem_filter.mp hmem
  obtain rfl : c' = c := by simpa using hcurrency
  exact hq

end Quote

namespace PartRecord

variable (r : PartRecord) (cutoff : Instant)

/-- A best price is known just where its currency is. -/
theorem withBestSince_isSome :
    (r.withBestSince cutoff).bestCurrency.isSome = (r.withBestSince cutoff).bestPrice.isSome := by
  simp only [withBestSince, Option.isSome_map]

/-- **The best price is the quote of an entry.** -/
theorem exists_quote_of_best {p : Float} (h : p ∈ (r.withBestSince cutoff).bestPrice) :
    ∃ e ∈ r.entries, ∃ c, e.quote? = some (p, c) ∧
      (r.withBestSince cutoff).bestCurrency = some c := by
  obtain ⟨⟨p', c⟩, hq, rfl⟩ := Option.map_eq_some_iff.mp h
  obtain ⟨e, he, hquote⟩ := List.mem_filterMap.mp (Quote.mem_of_best? hq)
  refine ⟨e, (List.mem_filter.mp he).1, c, hquote, ?_⟩
  simp only [withBestSince, hq, Option.map_some]

end PartRecord

end PartSourcing
