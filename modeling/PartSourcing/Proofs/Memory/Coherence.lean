import PartSourcing.Proofs.Memory.BestPrice
import PartSourcing.Proofs.Memory.Digest
import PartSourcing.Proofs.Names

/-!
# What holds of every record

A record that sightings have made, in whatever order they came and under whatever dates, is
coherent (`PartRecord.Coherent`): its vendors rise, none is seen before it is first seen, every
price has a currency, the best price is that of a vendor, and **no vendor has been counted more
often than the record**.

The last of these does not follow from the counters alone, since both may be full and each forgets
all searches but one.  It follows from what they count: a vendor counts the runs of some of the
sightings whose runs the record counts, and part of a list has no more runs than all of it
(`Runs.length_runs_le`).  For the rest an entry sums up the sightings of its vendor
(`VendorEntry.SumsUp`), since it is their digest, and the vendors of a record are those of its
sightings, so that none is ever lost (`Grows.exists_entry_iff`).
-/

namespace PartSourcing

open PartSourcing.Calendar PartSourcing.Runs

/-- **Part of a list has no more runs** than all of it. -/
theorem Runs.length_runs_le {α : Type} [DecidableEq α] {l l' : List α} (h : l.Sublist l') :
    (runs l).length ≤ (runs l').length :=
  (sublist_runs (isChain_runs l) ((runs_sublist l).trans h)).length_le

/-! ## Entries -/

namespace VendorEntry

/-- **What an entry sums up**: the first date of its sightings is kept, and a price is that of one
of them, in the currency that this one has. -/
structure SumsUp (l : List Sighting) (e : VendorEntry) : Prop where
  first : IsLeast (Sighting.dates l) e.firstSeen
  price : ∀ p ∈ e.price, ∃ s ∈ l, s.price = some p ∧ e.currency = some s.currency
  currency : e.price = none → e.currency = none

/-- What an entry says of its sightings sums them up. -/
theorem Digests.sumsUp {l : List Sighting} {e : VendorEntry} (h : Digests l e) : SumsUp l e where
  first := h.first
  price p hp := by
    rw [h.price] at hp
    obtain ⟨s, hlast, hprice⟩ := Option.bind_eq_some_iff.mp hp
    refine ⟨s, (Sighting.mem_of_lastPriced hlast).1, hprice, ?_⟩
    rw [h.currency, hlast, Option.map_some]
  currency hp := by
    rw [h.price] at hp
    rw [h.currency]
    cases hlast : Sighting.lastPriced l with
    | none => rfl
    | some s =>
      -- it would not be the last sighting with a price if it had none
      have hprice : s.price = none := by rwa [hlast, Option.bind_some] at hp
      have hsome := (Sighting.mem_of_lastPriced hlast).2
      rw [hprice] at hsome
      exact absurd hsome Bool.false_ne_true

/-- **The entry that sightings leave sums them up.** -/
theorem sumsUp_of_after? {l : List Sighting} {e : VendorEntry} (h : after? l = some e) :
    SumsUp l e :=
  (digests_of_after? h).sumsUp

/-- **An entry has counted a search**: of its sightings at least the first is later than all
before it. -/
theorem Tallied.one_le_timesSeen {l : List Sighting} {e : VendorEntry} (h : Tallied l e) :
    1 ≤ e.timesSeen.toNat := by
  cases l with
  | nil =>
    obtain ⟨s, hs, -⟩ := h.attained
    exact absurd hs List.not_mem_nil
  | cons s l =>
    have hadv : s ∈ Sighting.advancing [] (s :: l) := by
      rw [Sighting.advancing, if_pos fun t ht => absurd ht List.not_mem_nil]
      exact List.mem_cons_self
    have hrun : s.searchId ∈ runs ((Sighting.advancing [] (s :: l)).map (·.searchId)) :=
      mem_runs.mpr (List.mem_map_of_mem hadv)
    rw [h.timesSeen]
    exact le_min (by decide) (List.length_pos_of_mem hrun)

end VendorEntry

/-! ## Records -/

namespace PartRecord

/-- **A coherent record.** -/
structure Coherent (r : PartRecord) : Prop where
  part : PartNumber.normal r.part = r.part
  /-- Vendor keys rise strictly. -/
  vendors : VendorEntry.Ascending r.entries
  dates : ∀ e ∈ r.entries, e.firstSeen ≤ e.lastSeen
  counts : ∀ e ∈ r.entries, 1 ≤ e.timesSeen.toNat ∧ e.timesSeen.toNat ≤ r.searchCount.toNat
  currencies : ∀ e ∈ r.entries, e.currency.isSome = e.price.isSome
  bestCurrency : r.bestCurrency.isSome = r.bestPrice.isSome
  /-- The best price is that of a vendor, in the currency that it is asked in. -/
  bestPrice : ∀ p ∈ r.bestPrice,
    ∃ e ∈ r.entries, e.price = some p ∧ e.currency = r.bestCurrency

namespace Grows

variable {part : String} {l : List Sighting} {r : PartRecord}

theorem sumsUp (h : Grows part l (some r)) {e : VendorEntry} (he : e ∈ r.entries) :
    VendorEntry.SumsUp (l.filter fun s => s.vendorKey = e.vendorKey) e :=
  VendorEntry.sumsUp_of_after? (h.after?_eq_of_mem he)

/-- **The vendors of a record are those of its sightings.** -/
theorem exists_entry_iff (h : Grows part l (some r)) (vendorKey : String) :
    (∃ e ∈ r.entries, e.vendorKey = vendorKey) ↔ ∃ s ∈ l, s.vendorKey = vendorKey := by
  rw [← VendorEntry.exists_after?_iff, ← h.entryOf_eq]
  simp only [h.ascending.entryOf_eq_some_iff]

/-- **No vendor has been counted more often than the record.** -/
theorem timesSeen_le_searchCount (h : Grows part l (some r)) {e : VendorEntry}
    (he : e ∈ r.entries) : e.timesSeen.toNat ≤ r.searchCount.toNat := by
  have hsub : ((Sighting.advancing [] (l.filter fun s => s.vendorKey = e.vendorKey)).map
      (·.searchId)).Sublist (l.map (·.searchId)) :=
    ((Sighting.advancing_sublist [] _).trans List.filter_sublist).map _
  rw [(h.tallied he).timesSeen, h.searchCount_eq]
  exact min_le_min_left _ (length_runs_le hsub)

/-- The best price was taken anew with the last sighting. -/
theorem exists_withBestSince (h : Grows part l (some r)) :
    ∃ r₀ cutoff, r.entries = (withBestSince r₀ cutoff).entries ∧
      r.bestPrice = (withBestSince r₀ cutoff).bestPrice ∧
      r.bestCurrency = (withBestSince r₀ cutoff).bestCurrency := by
  cases h with
  | sighting _ s hr =>
    obtain ⟨cutoff, -, rfl⟩ := remember?_eq_some_iff.mp hr
    exact ⟨_, cutoff, rfl, rfl, rfl⟩

/-- **Every record that sightings have made is coherent.** -/
theorem coherent (h : Grows part l (some r)) : r.Coherent := by
  have hcurrency {e : VendorEntry} (he : e ∈ r.entries) : e.currency.isSome = e.price.isSome := by
    cases hp : e.price with
    | none =>
      rw [(h.sumsUp he).currency hp]
      rfl
    | some p =>
      obtain ⟨s, -, -, hc⟩ := (h.sumsUp he).price p hp
      rw [hc]
      rfl
  obtain ⟨r₀, cutoff, hentries, hbest, hbestCurrency⟩ := h.exists_withBestSince
  refine ⟨?_, h.ascending, fun e he => ?_, fun e he => ⟨?_, ?_⟩, fun e he => hcurrency he, ?_,
    fun p hp => ?_⟩
  · rw [h.part_eq, PartNumber.normal_normal]
  · exact (h.sumsUp he).first.2 (h.tallied he).last.1
  · exact (h.tallied he).one_le_timesSeen
  · exact h.timesSeen_le_searchCount he
  · rw [hbest, hbestCurrency, withBestSince_isSome]
  · rw [hbest] at hp
    obtain ⟨e, he, c, hquote, hc⟩ := exists_quote_of_best _ _ hp
    have he : e ∈ r.entries := hentries ▸ he
    obtain ⟨p', hprice, hpc⟩ := Option.map_eq_some_iff.mp hquote
    obtain ⟨rfl, rfl⟩ := Prod.mk.inj hpc
    obtain ⟨s, -, -, hs⟩ := (h.sumsUp he).price p' hprice
    refine ⟨e, he, hprice, ?_⟩
    rw [hbestCurrency, hc, hs]
    rfl

end Grows

/-- **Sightings leave a coherent record**, in whatever order they come, if the calendar reaches
back far enough from every time at which one is remembered.  No vendor that was in the record
after some of them is missing from it after all. -/
theorem coherent_of_remembering? {steps : List Remembrance} (hne : steps ≠ [])
    (h : ∀ x ∈ steps, (x.now.minusDays? x.staleDays.toNat).isSome = true) :
    ∃ r, remembering? steps = some (some r) ∧ r.Coherent ∧
      ∀ earlier r₀, earlier <+: steps → remembering? earlier = some (some r₀) →
        ∀ e ∈ r₀.entries, ∃ e' ∈ r.entries, e'.vendorKey = e.vendorKey := by
  obtain ⟨r, hr⟩ := Option.isSome_iff_exists.mp (remembering?_isSome h)
  obtain ⟨part, hgrows⟩ := grows_of_remembering? hr
  cases r with
  | none => exact absurd (List.map_eq_nil_iff.mp hgrows.eq_nil) hne
  | some r =>
    refine ⟨r, hr, hgrows.coherent, fun earlier r₀ hearlier hr₀ e he => ?_⟩
    obtain ⟨part₀, hgrows₀⟩ := grows_of_remembering? hr₀
    -- whoever is in the earlier record was seen in the earlier part
    obtain ⟨s, hs, hk⟩ := (hgrows₀.exists_entry_iff e.vendorKey).mp ⟨e, he, rfl⟩
    exact (hgrows.exists_entry_iff e.vendorKey).mpr
      ⟨s, (hearlier.sublist.map _).subset hs, hk⟩

/-- Three sightings of a vendor at one price, by a search, another one, and the first again. -/
def interruptedSearch : List Remembrance :=
  (twoSearches [1, 2, 1]).map fun s => ⟨"ab 1", { s with price := some 2.5 }, .epoch, 180⟩

/-- A search that goes on after another one leaves a coherent record. -/
theorem coherent_of_interruptedSearch : interruptedSearch ≠ [] ∧
    (∀ x ∈ interruptedSearch, (x.now.minusDays? x.staleDays.toNat).isSome = true) ∧
    ∃ r, remembering? interruptedSearch = some (some r) ∧ r.Coherent := by
  have hne : interruptedSearch ≠ [] := List.cons_ne_nil _ _
  have hcalendar : ∀ x ∈ interruptedSearch,
      (x.now.minusDays? x.staleDays.toNat).isSome = true := by decide
  obtain ⟨r, hr, hcoherent, -⟩ := coherent_of_remembering? hne hcalendar
  exact ⟨hne, hcalendar, r, hr, hcoherent⟩

end PartRecord

end PartSourcing
