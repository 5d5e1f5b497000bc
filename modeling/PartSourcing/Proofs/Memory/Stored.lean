import PartSourcing.Proofs.Memory.BestPrice
import PartSourcing.Proofs.Memory.Growth
import PartSourcing.Proofs.Memory.Rows

/-!
# Sightings of what is kept

A record that is kept is read back with its quantities cut down, and the next sighting meets that
record instead of the one that was written.  **It makes no difference once the outcome is kept
again** (`PartRecord.stored_withSighting`): nothing but a quantity is ever made of a quantity, and
cutting down twice is cutting down once.  Nor do sightings with ordinary dates and positive prices
make anything that cannot be kept (`PartRecord.Storable.withSighting`).
-/

namespace PartSourcing

open PartSourcing.Calendar PartSourcing.Decimal

/-! ## Entries -/

namespace VendorEntry

section Stored

variable (e : VendorEntry) (s : Sighting)

@[simp] theorem stored_stored : e.stored.stored = e.stored := by
  unfold stored
  simp only [Option.map_map]
  congr 2
  exact funext capped_capped

@[simp] theorem stored_vendorKey : e.stored.vendorKey = e.vendorKey := rfl

theorem reachBack_stored : e.stored.reachBack s = (e.reachBack s).stored := by
  unfold reachBack
  rw [apply_ite stored]
  rfl

theorem countSearch_stored : e.stored.countSearch s = (e.countSearch s).stored := by
  unfold countSearch
  rw [apply_ite stored]
  rfl

/-- What a later sighting leaves of an old quantity is cut down the second time. -/
theorem stored_advance : (e.stored.advance s).stored = (e.advance s).stored := by
  have hq : (s.quantity.or ((e.countSearch s).quantity.map capped)).map capped =
      (s.quantity.or (e.countSearch s).quantity).map capped := by
    cases s.quantity with
    | some q => rfl
    | none =>
      rw [Option.none_or, Option.none_or, Option.map_map]
      congr 1
      exact funext capped_capped
  unfold advance
  rw [countSearch_stored]
  unfold stored
  simp only [hq]

theorem stored_update : (e.stored.update s).stored = (e.update s).stored := by
  rcases lt_or_ge e.lastSeen s.observedAt with h | h
  · rw [update_of_lt e s h, update_of_lt e.stored s h, reachBack_stored, stored_advance]
  · rw [update_of_le e s h, update_of_le e.stored s h, reachBack_stored, stored_stored]

end Stored

theorem map_stored_stored (es : List VendorEntry) :
    (es.map stored).map stored = es.map stored := by
  rw [List.map_map]
  exact List.map_congr_left fun e _ => e.stored_stored

theorem stored_updateIn? (s : Sighting) (es : List VendorEntry) :
    (updateIn? s (es.map stored)).map (List.map stored) =
      (updateIn? s es).map (List.map stored) := by
  induction es with
  | nil => rfl
  | cons e es ih =>
    rw [List.map_cons, updateIn?, updateIn?, stored_vendorKey]
    by_cases hk : e.vendorKey = s.vendorKey
    · rw [if_pos hk, if_pos hk, Option.map_some, Option.map_some, List.map_cons, List.map_cons,
        stored_update, map_stored_stored]
    · have hcons : ∀ x, List.map stored ∘ (x :: ·) = (stored x :: ·) ∘ List.map stored :=
        fun x => rfl
      rw [if_neg hk, if_neg hk, Option.map_map, Option.map_map, hcons, hcons, stored_stored,
        ← Option.map_map, ← Option.map_map, ih]

/-- **Among kept entries a sighting has the same outcome**, once that is kept. -/
theorem stored_observe (s : Sighting) (es : List VendorEntry) :
    (observe s (es.map stored)).map stored = (observe s es).map stored := by
  -- either both lists have an entry of the vendor or neither has
  have hupdate := stored_updateIn? s es
  unfold observe
  cases hu : updateIn? s es with
  | some es' =>
    rw [hu, Option.map_some, Option.map_eq_some_iff] at hupdate
    obtain ⟨es'', hes'', heq⟩ := hupdate
    rw [hes'', Option.getD_some, Option.getD_some, heq]
  | none =>
    rw [hu, Option.map_none, Option.map_eq_none_iff] at hupdate
    have hsort (l : List VendorEntry) :
        (l.mergeSort precedes).map stored = (l.map stored).mergeSort precedes :=
      List.map_mergeSort fun a _ b _ => rfl
    rw [hupdate, Option.getD_none, Option.getD_none, hsort, hsort, List.map_append,
      List.map_append, map_stored_stored]

namespace Storable

variable {e : VendorEntry} {s : Sighting}

theorem ofSighting (hp : ∀ x ∈ s.price, isPositive x = true) (ho : s.observedAt.Ordinary) :
    (VendorEntry.ofSighting s).Storable := ⟨hp, ho, ho⟩

theorem reachBack (h : e.Storable) (ho : s.observedAt.Ordinary) : (e.reachBack s).Storable := by
  unfold VendorEntry.reachBack
  split
  · exact ⟨h.price, ho, h.lastSeen⟩
  · exact h

theorem advance (h : e.Storable) (hp : ∀ x ∈ s.price, isPositive x = true)
    (ho : s.observedAt.Ordinary) : (e.advance s).Storable := by
  have hc : (e.countSearch s).Storable := by
    unfold VendorEntry.countSearch
    split
    · exact h
    · exact ⟨h.price, h.firstSeen, h.lastSeen⟩
  refine ⟨fun x hx => ?_, hc.firstSeen, ho⟩
  rcases Option.or_eq_some_iff.mp hx with hx | ⟨-, hx⟩
  · exact hp x hx
  · exact hc.price x hx

theorem update (h : e.Storable) (hp : ∀ x ∈ s.price, isPositive x = true)
    (ho : s.observedAt.Ordinary) : (e.update s).Storable := by
  rcases lt_or_ge e.lastSeen s.observedAt with hlt | hle
  · rw [update_of_lt e s hlt]
    exact (h.reachBack ho).advance hp ho
  · rw [update_of_le e s hle]
    exact h.reachBack ho

end Storable

/-- **A sighting among entries that can be kept** leaves such entries. -/
theorem storable_of_mem_observe {es : List VendorEntry} {s : Sighting} (hasc : Ascending es)
    (h : ∀ e ∈ es, e.Storable) (hp : ∀ x ∈ s.price, isPositive x = true)
    (ho : s.observedAt.Ordinary) {e : VendorEntry} (he : e ∈ observe s es) : e.Storable := by
  rcases (mem_observe hasc).mp he with ⟨he, -⟩ | rfl
  · exact h e he
  · cases hf : entryOf es s.vendorKey with
    | none => exact .ofSighting hp ho
    | some old => exact (h old (List.mem_of_find?_eq_some hf)).update hp ho

end VendorEntry

/-! ## Records -/

namespace PartRecord

/-- The quotes are read off the entries as they are kept. -/
theorem quotesSince_congr {r r' : PartRecord} (cutoff : Instant)
    (h : r.entries.map VendorEntry.stored = r'.entries.map VendorEntry.stored) :
    r.quotesSince cutoff = r'.quotesSince cutoff := by
  have hkept (r : PartRecord) : r.quotesSince cutoff =
      ((r.entries.map VendorEntry.stored).filter fun e => cutoff ≤ e.lastSeen).filterMap
        VendorEntry.quote? := by
    rw [List.filter_map, List.filterMap_map]
    rfl
  rw [hkept r, hkept r', h]

theorem countSearch_stored (r : PartRecord) (s : Sighting) :
    r.stored.countSearch s = (r.countSearch s).stored := by
  unfold countSearch
  rw [apply_ite stored]
  rfl

/-- **A kept record takes a sighting as the record itself does**, once the outcome is kept. -/
theorem stored_withSighting (r : PartRecord) (s : Sighting) (now cutoff : Instant) :
    (r.stored.withSighting s now cutoff).stored = (r.withSighting s now cutoff).stored := by
  have hentries : (VendorEntry.observe s r.stored.entries).map VendorEntry.stored =
      (VendorEntry.observe s r.entries).map VendorEntry.stored :=
    VendorEntry.stored_observe s r.entries
  -- no quote mentions a quantity, so the best price is the same
  have hquotes : { r.stored.countSearch s with
        entries := VendorEntry.observe s r.stored.entries }.quotesSince cutoff =
      { r.countSearch s with
        entries := VendorEntry.observe s r.entries }.quotesSince cutoff :=
    quotesSince_congr cutoff hentries
  unfold withSighting withBestSince
  rw [hquotes, countSearch_stored]
  unfold stored
  exact congrArg (fun es => PartRecord.mk _ _ _ _ _ es _ _) hentries

namespace Storable

theorem empty (part : String) {now : Instant} (hnow : now.Ordinary) :
    (PartRecord.empty part now).Storable where
  bestPrice _ hx := absurd hx (Option.not_mem_none _)
  createdAt := hnow
  updatedAt := hnow
  entries _ he := absurd he List.not_mem_nil

/-- **A sighting leaves a record that can be kept.**  Its best price is that of an entry. -/
theorem withSighting {r : PartRecord} {s : Sighting} {now : Instant} (h : r.Storable)
    (hasc : VendorEntry.Ascending r.entries) (hnow : now.Ordinary)
    (hp : ∀ x ∈ s.price, isPositive x = true) (ho : s.observedAt.Ordinary) (cutoff : Instant) :
    (r.withSighting s now cutoff).Storable := by
  have hentries : ∀ e ∈ VendorEntry.observe s r.entries, e.Storable := fun e he =>
    VendorEntry.storable_of_mem_observe hasc h.entries hp ho he
  refine ⟨fun x hx => ?_, ?_, hnow, hentries⟩
  · obtain ⟨e, he, c, hquote, -⟩ := exists_quote_of_best _ cutoff hx
    obtain ⟨p, hep, hpc⟩ := Option.map_eq_some_iff.mp hquote
    obtain ⟨rfl, -⟩ := Prod.mk.inj hpc
    exact (hentries e he).price p hep
  · rw [withSighting_createdAt]
    exact h.createdAt

end Storable

end PartRecord

end PartSourcing
