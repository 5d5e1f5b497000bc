import PartSourcing.Proofs.Memory.Counting

/-!
# What an entry says of a vendor

Sightings of a vendor come in any order, and not every one of them says everything.  The entry that
they leave can be read off them without going through them one by one (`VendorEntry.Digests`).  Its
dates are the first and the last at which the vendor was seen, whatever the order was.  All else
comes from the sightings that were later than all before them: name and standing from the last of
these, **price and currency together from the last one that names a price**, the quantity from the
last one that names a quantity.  A later sighting that leaves something open erases nothing, and a
sighting that comes late moves the first date at most.

This holds of the entry of each vendor that a record knows, and a record knows the vendors of its
sightings and no others (`PartRecord.entries_digest_sightings`).
-/

namespace PartSourcing

open PartSourcing.Calendar

namespace Sighting

/-- The last sighting that names a price, of those that were later than all before them. -/
def lastPriced (l : List Sighting) : Option Sighting :=
  ((advancing [] l).filter (·.price.isSome)).getLast?

/-- The last sighting that names a quantity, of those that were later than all before them. -/
def lastCounted (l : List Sighting) : Option Sighting :=
  ((advancing [] l).filter (·.quantity.isSome)).getLast?

theorem getLast?_filter_concat (p : Sighting → Bool) (l : List Sighting) (s : Sighting) :
    ((l ++ [s]).filter p).getLast? = if p s then some s else (l.filter p).getLast? := by
  rw [List.filter_append]
  by_cases hs : p s = true
  · rw [List.filter_cons_of_pos hs, List.filter_nil, if_pos hs, List.getLast?_concat]
  · rw [List.filter_cons_of_neg hs, List.filter_nil, if_neg hs, List.append_nil]

variable {l : List Sighting} {s : Sighting}

theorem lastPriced_concat (h : advancing [] (l ++ [s]) = advancing [] l ++ [s]) :
    lastPriced (l ++ [s]) = if s.price.isSome then some s else lastPriced l := by
  rw [lastPriced, h, getLast?_filter_concat]
  rfl

theorem lastCounted_concat (h : advancing [] (l ++ [s]) = advancing [] l ++ [s]) :
    lastCounted (l ++ [s]) = if s.quantity.isSome then some s else lastCounted l := by
  rw [lastCounted, h, getLast?_filter_concat]
  rfl

/-- It is one of the sightings, and it does name a price. -/
theorem mem_of_lastPriced (h : lastPriced l = some s) : s ∈ l ∧ s.price.isSome = true := by
  have hmem := List.mem_filter.mp (List.mem_of_getLast? h)
  exact ⟨(advancing_sublist [] l).subset hmem.1, hmem.2⟩

end Sighting

namespace VendorEntry

/-- **What an entry says**, told from the sightings of its vendor. -/
structure Digests (l : List Sighting) (e : VendorEntry) : Prop where
  first : IsLeast (Sighting.dates l) e.firstSeen
  last : IsGreatest (Sighting.dates l) e.lastSeen
  /-- Name and standing are those of the last sighting that was later than all before it. -/
  newest : ∃ s, (Sighting.advancing [] l).getLast? = some s ∧ e.vendorName = s.vendorName ∧
    e.standing = s.standing
  price : e.price = (Sighting.lastPriced l).bind (·.price)
  currency : e.currency = (Sighting.lastPriced l).map (·.currency)
  quantity : e.quantity = (Sighting.lastCounted l).bind (·.quantity)

/-- The first sighting is later than all before it, since there are none. -/
theorem digests_ofSighting (s : Sighting) : Digests [s] (ofSighting s) where
  first := by
    refine ⟨⟨s, List.mem_singleton_self s, rfl⟩, ?_⟩
    rintro t ⟨u, hu, rfl⟩
    rw [List.mem_singleton.mp hu]
    exact le_rfl
  last := (Tallied.first s).last
  newest := ⟨s, rfl, rfl, rfl⟩
  price := by
    have hlast : Sighting.lastPriced [s] = if s.price.isSome then some s else none :=
      Sighting.lastPriced_concat (l := []) rfl
    rw [hlast]
    cases hs : s.price <;> simp [ofSighting, hs]
  currency := by
    have hlast : Sighting.lastPriced [s] = if s.price.isSome then some s else none :=
      Sighting.lastPriced_concat (l := []) rfl
    rw [hlast]
    cases hs : s.price <;> simp [ofSighting, hs]
  quantity := by
    have hlast : Sighting.lastCounted [s] = if s.quantity.isSome then some s else none :=
      Sighting.lastCounted_concat (l := []) rfl
    rw [hlast]
    cases hs : s.quantity <;> simp [ofSighting, hs]

variable {l : List Sighting} {e : VendorEntry}

/-- **One more sighting**: one that is later than all before is taken over, but for what it leaves
open, and any other moves the first date at most. -/
theorem Digests.update (h : Digests l e) (s : Sighting) : Digests (l ++ [s]) (e.update s) := by
  have hfirst : IsLeast (Sighting.dates (l ++ [s])) (e.update s).firstSeen := by
    rw [Sighting.dates_concat, update_firstSeen]
    exact h.first.insert _
  have hlast : IsGreatest (Sighting.dates (l ++ [s])) (e.update s).lastSeen := by
    rw [Sighting.dates_concat, update_lastSeen]
    exact h.last.insert _
  rcases lt_or_ge e.lastSeen s.observedAt with hlt | hle
  · have hadv := Sighting.advancing_concat_of_lt h.last hlt
    have hpriced := Sighting.lastPriced_concat hadv
    have hcounted := Sighting.lastCounted_concat hadv
    rw [update_of_lt e s hlt] at hfirst hlast ⊢
    refine ⟨hfirst, hlast, ⟨s, ?_, rfl, rfl⟩, ?_, ?_, ?_⟩
    · rw [hadv, List.getLast?_concat]
    · rw [advance_price, reachBack_price, h.price, hpriced]
      cases hs : s.price <;> simp [hs]
    · rw [advance_currency, reachBack_currency, h.currency, hpriced]
      cases hs : s.price <;> simp
    · rw [advance_quantity, reachBack_quantity, h.quantity, hcounted]
      cases hs : s.quantity <;> simp [hs]
  · -- the sightings that were later than all before them are the same ones
    have hadv := Sighting.advancing_concat_of_le h.last hle
    obtain ⟨t, ht, hname, hstanding⟩ := h.newest
    rw [update_of_le e s hle] at hfirst hlast ⊢
    refine ⟨hfirst, hlast, ⟨t, ?_, ?_, ?_⟩, ?_, ?_, ?_⟩
    · rw [hadv, ht]
    · rw [reachBack_vendorName, hname]
    · rw [reachBack_standing, hstanding]
    · rw [reachBack_price, h.price, Sighting.lastPriced, Sighting.lastPriced, hadv]
    · rw [reachBack_currency, h.currency, Sighting.lastPriced, Sighting.lastPriced, hadv]
    · rw [reachBack_quantity, h.quantity, Sighting.lastCounted, Sighting.lastCounted, hadv]

/-- **The entry that sightings leave is their digest.** -/
theorem digests_of_after? (h : after? l = some e) : Digests l e :=
  after?_induct h digests_ofSighting fun _ _ s hl => hl.update s

end VendorEntry

namespace PartRecord

/-- **What a record knows of each vendor.**  Sightings of a part, remembered one after the other
from no record on, leave an entry for each vendor that was sighted and for no other, and the entry
says what the sightings of that vendor say, in whatever order they came and whichever searches they
came from. -/
theorem entries_digest_sightings {steps : List Remembrance}
    (h : ∀ x ∈ steps, (x.now.minusDays? x.staleDays.toNat).isSome = true) :
    ∃ r, remembering? steps = some r ∧ ∀ vendorKey,
      ((∃ e, r.bind (·.entryFor? vendorKey) = some e) ↔
        ∃ x ∈ steps, x.sighting.vendorKey = vendorKey) ∧
      ∀ e, r.bind (·.entryFor? vendorKey) = some e →
        e.Digests ((steps.map (·.sighting)).filter fun s => s.vendorKey = vendorKey) := by
  obtain ⟨r, hr⟩ := Option.isSome_iff_exists.mp (remembering?_isSome h)
  obtain ⟨part, hgrows⟩ := grows_of_remembering? hr
  have hentry (vendorKey : String) : r.bind (·.entryFor? vendorKey) = VendorEntry.after?
      ((steps.map (·.sighting)).filter fun s => s.vendorKey = vendorKey) := by
    cases r with
    | none =>
      rw [hgrows.eq_nil]
      rfl
    | some r => exact hgrows.entryOf_eq vendorKey
  refine ⟨r, hr, fun vendorKey => ⟨?_, fun e he => ?_⟩⟩
  · rw [hentry, VendorEntry.exists_after?_iff]
    simp
  · rw [hentry] at he
    exact VendorEntry.digests_of_after? he

/-- Three sightings of a vendor: one with a price and a quantity, one that was made before it but
comes after it, and a later one that leaves the price open. -/
def lateSightings : List Remembrance :=
  [{ Sighting.bare "acme" "AB1" ⟨3, 0⟩ .zero with
      price := some 2.5, currency := "EUR", quantity := some 7 },
    { Sighting.bare "acme" "AB1" ⟨1, 0⟩ .zero with vendorName := "Acme Ltd", price := some 9 },
    { Sighting.bare "acme" "AB1" ⟨5, 0⟩ .zero with vendorName := "Acme", quantity := some 4 }].map
  fun s => ⟨"ab 1", s, .epoch, 180⟩

/-- The entry has the dates of all three, the price of the first and the quantity of the last. -/
theorem entries_digest_lateSightings :
    (∀ x ∈ lateSightings, (x.now.minusDays? x.staleDays.toNat).isSome = true) ∧
    ∃ r e, remembering? lateSightings = some r ∧ r.bind (·.entryFor? "acme") = some e ∧
      e.firstSeen = ⟨1, 0⟩ ∧ e.lastSeen = ⟨5, 0⟩ ∧ e.vendorName = "Acme" ∧
      e.price = some 2.5 ∧ e.currency = some "EUR" ∧ e.quantity = some 4 := by
  have hcalendar : ∀ x ∈ lateSightings,
      (x.now.minusDays? x.staleDays.toNat).isSome = true := by decide
  obtain ⟨r, hr, hentries⟩ := entries_digest_sightings hcalendar
  obtain ⟨hknown, hdigest⟩ := hentries "acme"
  obtain ⟨e, he⟩ := hknown.mpr ⟨_, List.mem_cons_self, rfl⟩
  have hsays := hdigest e he
  have hfirst : IsLeast (Sighting.dates ((lateSightings.map (·.sighting)).filter fun s =>
      s.vendorKey = "acme")) ⟨1, 0⟩ := by
    refine ⟨⟨_, List.mem_cons_of_mem _ List.mem_cons_self, rfl⟩, ?_⟩
    rintro t ⟨s, hs, rfl⟩
    revert s
    decide
  have hlast : IsGreatest (Sighting.dates ((lateSightings.map (·.sighting)).filter fun s =>
      s.vendorKey = "acme")) ⟨5, 0⟩ := by
    rw [Sighting.isGreatest_dates_iff]
    decide
  obtain ⟨s, hs, hname, -⟩ := hsays.newest
  obtain rfl := Option.some.inj hs
  exact ⟨hcalendar, r, e, hr, he, hsays.first.unique hfirst, hsays.last.unique hlast, hname,
    hsays.price, hsays.currency, hsays.quantity⟩

end PartRecord

end PartSourcing
