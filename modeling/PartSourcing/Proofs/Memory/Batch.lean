import PartSourcing.Proofs.Memory.Growth

/-!
# The sightings of one search

A search remembers its sightings one after the other at one time, and all of them carry its
identifier.  What they make of a record has a simple form (`observedAll?_eq`): the search is
counted once, the entries observe the sightings in their order, and the best price is that of the
entries at the end.  So **a batch acts on a record through its entries alone**, and on these vendor
by vendor (`VendorEntry.entryOf_observeAll`).  None of this asks for an order of the entries, nor
that a vendor has only one.

An entry that has followed a sighting covers it: the sighting lies between its dates and has nothing
to add, whatever else the vendor was seen at before or after.  Hence a search can remember any of
its sightings again, as often and in whatever order it likes, and **the record stays as it is**
(`observedAll?_replay`): no search and no vendor is counted twice, and no price is brought back.
-/

namespace PartSourcing

open PartSourcing.Calendar

/-! ## Entries -/

namespace VendorEntry

/-- The entries after several sightings. -/
def observeAll (l : List Sighting) (es : List VendorEntry) : List VendorEntry :=
  l.foldl (fun es s => observe s es) es

/-- A vendor's entry after several sightings of it. -/
def followAll (e : Option VendorEntry) (l : List Sighting) : Option VendorEntry :=
  l.foldl (fun e s => some (follow e s)) e

/-- **Each vendor follows its own sightings.** -/
theorem entryOf_observeAll (l : List Sighting) (es : List VendorEntry) (k : String) :
    entryOf (observeAll l es) k =
      followAll (entryOf es k) (l.filter fun s => s.vendorKey = k) := by
  induction l generalizing es with
  | nil => rfl
  | cons s l ih =>
    have hstep : entryOf (observeAll (s :: l) es) k =
        followAll (entryOf (observe s es) k) (l.filter fun s => s.vendorKey = k) := ih _
    rw [hstep, entryOf_observe]
    by_cases hk : s.vendorKey = k
    · rw [if_pos hk, List.filter_cons_of_pos (by simpa using hk)]
      rfl
    · rw [if_neg hk, List.filter_cons_of_neg (by simpa using hk)]

/-- **Entries that a sighting has nothing to add to**: the vendor was seen no later than that
before, and no earlier after. -/
def Covers (es : List VendorEntry) (s : Sighting) : Prop :=
  ∃ e, entryOf es s.vendorKey = some e ∧ e.firstSeen ≤ s.observedAt ∧ s.observedAt ≤ e.lastSeen

variable {es : List VendorEntry} {s : Sighting}

/-- A sighting between the dates of an entry changes nothing about it. -/
theorem update_eq_self {e : VendorEntry} (hfirst : e.firstSeen ≤ s.observedAt)
    (hlast : s.observedAt ≤ e.lastSeen) : e.update s = e := by
  rw [update_of_le e s hlast, reachBack, if_neg (not_lt.mpr hfirst)]

theorem updateIn?_eq_self {e : VendorEntry} (h : entryOf es s.vendorKey = some e)
    (he : e.update s = e) : updateIn? s es = some es := by
  induction es with
  | nil => exact absurd h (Option.some_ne_none e).symm
  | cons x es ih =>
    by_cases hx : x.vendorKey = s.vendorKey
    · have hxe : x = e := by simpa [entryOf, hx] using h
      rw [updateIn?, if_pos hx, hxe, he]
    · have hes : entryOf es s.vendorKey = some e := by simpa [entryOf, hx] using h
      rw [updateIn?, if_neg hx, ih hes, Option.map_some]

/-- **Entries that cover a sighting do not change with it.** -/
theorem Covers.observe_eq (h : Covers es s) : observe s es = es := by
  obtain ⟨e, he, hfirst, hlast⟩ := h
  rw [observe, updateIn?_eq_self he (update_eq_self hfirst hlast), Option.getD_some]

/-- Entries cover what they have observed. -/
theorem covers_observe (s : Sighting) (es : List VendorEntry) : Covers (observe s es) s := by
  refine ⟨follow (entryOf es s.vendorKey) s, ?_, ?_⟩
  · rw [entryOf_observe, if_pos rfl]
  · cases entryOf es s.vendorKey with
    | none => exact ⟨le_rfl, le_rfl⟩
    | some e =>
      show (e.update s).firstSeen ≤ s.observedAt ∧ s.observedAt ≤ (e.update s).lastSeen
      rw [update_firstSeen, update_lastSeen]
      exact ⟨min_le_left _ _, le_max_left _ _⟩

/-- **No sighting is uncovered again**: the first date only moves back, the last one only on. -/
theorem Covers.observe (h : Covers es s) (t : Sighting) : Covers (observe t es) s := by
  obtain ⟨e, he, hfirst, hlast⟩ := h
  by_cases hk : t.vendorKey = s.vendorKey
  · refine ⟨e.update t, ?_, ?_, ?_⟩
    · rw [entryOf_observe, if_pos hk, he]
      rfl
    · rw [update_firstSeen]
      exact (min_le_right _ _).trans hfirst
    · rw [update_lastSeen]
      exact hlast.trans (le_max_right _ _)
  · refine ⟨e, ?_, hfirst, hlast⟩
    rw [entryOf_observe, if_neg hk, he]

theorem Covers.observeAll (h : Covers es s) (l : List Sighting) : Covers (observeAll l es) s := by
  induction l generalizing es with
  | nil => exact h
  | cons t l ih => exact ih (h.observe t)

theorem covers_observeAll {l : List Sighting} (hs : s ∈ l) (es : List VendorEntry) :
    Covers (observeAll l es) s := by
  induction l generalizing es with
  | nil => exact absurd hs List.not_mem_nil
  | cons t l ih =>
    rcases List.mem_cons.mp hs with rfl | hs
    · exact (covers_observe s es).observeAll l
    · exact ih hs _

/-- Whatever is covered can be observed again. -/
theorem observeAll_eq_self {l : List Sighting} (h : ∀ s ∈ l, Covers es s) :
    observeAll l es = es := by
  induction l with
  | nil => rfl
  | cons s l ih =>
    have hstep : observeAll (s :: l) es = observeAll l (observe s es) := rfl
    rw [hstep, (h s List.mem_cons_self).observe_eq]
    exact ih fun t ht => h t (List.mem_cons_of_mem _ ht)

end VendorEntry

/-! ## Records -/

namespace PartRecord

/-- **The record after several sightings**, all remembered at one time. -/
def observedAll? (r : PartRecord) (l : List Sighting) (now : Instant) (staleDays : UInt32) :
    Option PartRecord :=
  l.foldlM (fun r s => r.observed? s now staleDays) r

/-- The record with a search counted, unless it was counted last. -/
def counting (r : PartRecord) (id : SearchId) : PartRecord :=
  if r.searchId = some id then r
  else { r with searchCount := Saturating.succ r.searchCount, searchId := some id }

/-- The record that a search leaves, given the entries that it leaves. -/
def afterSearch (r : PartRecord) (id : SearchId) (es : List VendorEntry) (now cutoff : Instant) :
    PartRecord :=
  { { r.counting id with entries := es }.withBestSince cutoff with updatedAt := now }

section Batch

variable {r : PartRecord} {l : List Sighting} {id : SearchId} {now cutoff : Instant}
  {staleDays : UInt32}

/-- **All sightings can be remembered** where the calendar reaches back far enough. -/
theorem observedAll?_isSome (h : (now.minusDays? staleDays.toNat).isSome = true) :
    (r.observedAll? l now staleDays).isSome = true := by
  induction l generalizing r with
  | nil => rfl
  | cons s l ih =>
    obtain ⟨cutoff, hcut⟩ := Option.isSome_iff_exists.mp h
    rw [observedAll?, List.foldlM_cons, observed?_eq, hcut]
    exact ih

theorem counting_searchId : (r.counting id).searchId = some id := by
  by_cases h : r.searchId = some id
  · rw [counting, if_pos h, h]
  · rw [counting, if_neg h]

/-- The first sighting of a search counts it. -/
theorem withSighting_eq {s : Sighting} (hs : s.searchId = id) : r.withSighting s now cutoff =
    r.afterSearch id (VendorEntry.observe s r.entries) now cutoff := by
  rw [← hs]
  rfl

/-- Any further one changes entries alone. -/
theorem afterSearch_withSighting {s : Sighting} (hs : s.searchId = id) (es : List VendorEntry) :
    (r.afterSearch id es now cutoff).withSighting s now cutoff =
      r.afterSearch id (VendorEntry.observe s es) now cutoff := by
  have hcounted : (r.afterSearch id es now cutoff).counting id =
      r.afterSearch id es now cutoff := if_pos counting_searchId
  rw [withSighting_eq hs, afterSearch, hcounted]
  rfl

/-- **What a search makes of a record.**  There is no such record where the calendar does not reach
back far enough. -/
theorem observedAll?_eq (hl : l ≠ []) (hid : ∀ s ∈ l, s.searchId = id) :
    r.observedAll? l now staleDays = (now.minusDays? staleDays.toNat).map
      (r.afterSearch id (VendorEntry.observeAll l r.entries) now) := by
  obtain ⟨s, l, rfl⟩ := List.exists_cons_of_ne_nil hl
  rw [observedAll?, List.foldlM_cons, observed?_eq]
  cases hcut : now.minusDays? staleDays.toNat with
  | none => rfl
  | some cutoff =>
    -- behind the first sighting the search is counted, and stays so
    have hrest : ∀ l : List Sighting, (∀ t ∈ l, t.searchId = id) → ∀ es,
        (r.afterSearch id es now cutoff).observedAll? l now staleDays =
          some (r.afterSearch id (VendorEntry.observeAll l es) now cutoff) := by
      intro l
      induction l with
      | nil => exact fun _ _ => rfl
      | cons t l ih =>
        intro hid es
        have ht : (r.afterSearch id es now cutoff).observed? t now staleDays =
            some (r.afterSearch id (VendorEntry.observe t es) now cutoff) := by
          rw [observed?_eq, hcut, Option.map_some,
            afterSearch_withSighting (hid t List.mem_cons_self)]
        rw [observedAll?, List.foldlM_cons, ht]
        exact ih (fun u hu => hid u (List.mem_cons_of_mem _ hu)) _
    rw [Option.map_some, withSighting_eq (hid s List.mem_cons_self)]
    exact hrest l (fun t ht => hid t (List.mem_cons_of_mem _ ht)) _

end Batch

/-- **Remembering again changes nothing.**  After the sightings of a search, whatever record they
met, any of them can be remembered once more at the same time, in any order and any number of times,
and the record stays as it is.  A part without a record is one with an empty record. -/
theorem observedAll?_replay (r : PartRecord) {l again : List Sighting} {id : SearchId}
    (hl : l ≠ []) (hid : ∀ s ∈ l, s.searchId = id) (hagain : ∀ s ∈ again, s ∈ l) (now : Instant)
    (staleDays : UInt32) :
    ((now.minusDays? staleDays.toNat).isSome = true →
      (r.observedAll? l now staleDays).isSome = true) ∧
    r.observedAll? (l ++ again) now staleDays = r.observedAll? l now staleDays := by
  refine ⟨observedAll?_isSome, ?_⟩
  have hlong : l ++ again ≠ [] := List.append_ne_nil_of_left_ne_nil hl again
  have hidlong : ∀ s ∈ l ++ again, s.searchId = id := by
    intro s hs
    rcases List.mem_append.mp hs with hs | hs
    · exact hid s hs
    · exact hid s (hagain s hs)
  have hentries : VendorEntry.observeAll (l ++ again) r.entries =
      VendorEntry.observeAll l r.entries := by
    rw [VendorEntry.observeAll, List.foldl_append]
    exact VendorEntry.observeAll_eq_self fun s hs =>
      VendorEntry.covers_observeAll (hagain s hs) r.entries
  rw [observedAll?_eq hlong hidlong, observedAll?_eq hl hid, hentries]

/-- Two sightings of a vendor by one search, with one of another vendor between them. -/
def oneSearch : List Sighting :=
  [.bare "acme" "AB1" ⟨2, 0⟩ .zero, .bare "beta" "AB1" ⟨1, 0⟩ .zero,
    .bare "acme" "AB1" ⟨3, 0⟩ .zero]

/-- Remembered three times, once backwards, the search has counted once for the part and once for
each of the two vendors. -/
theorem observedAll?_replay_oneSearch : oneSearch ≠ [] ∧
    (∀ s ∈ oneSearch, s.searchId = .zero) ∧
    (∀ s ∈ oneSearch.reverse ++ oneSearch, s ∈ oneSearch) ∧
    ∃ r, (empty "AB1" .epoch).observedAll? (oneSearch ++ (oneSearch.reverse ++ oneSearch))
        .epoch 180 = some r ∧ r.searchCount = 1 ∧
      ∀ vendorKey ∈ ["acme", "beta"], (r.entryFor? vendorKey).map (·.timesSeen) = some 1 := by
  have hne : oneSearch ≠ [] := List.cons_ne_nil _ _
  have hid : ∀ s ∈ oneSearch, s.searchId = .zero := by decide
  have hagain : ∀ s ∈ oneSearch.reverse ++ oneSearch, s ∈ oneSearch := by
    intro s hs
    rcases List.mem_append.mp hs with hs | hs
    · exact List.mem_reverse.mp hs
    · exact hs
  obtain ⟨-, hreplay⟩ := observedAll?_replay (empty "AB1" .epoch) hne hid hagain .epoch 180
  rw [observedAll?_eq hne hid] at hreplay
  refine ⟨hne, hid, hagain, _, hreplay, rfl, fun vendorKey hknown => ?_⟩
  show (VendorEntry.entryOf (VendorEntry.observeAll oneSearch []) vendorKey).map (·.timesSeen) = _
  rw [VendorEntry.entryOf_observeAll]
  revert vendorKey
  decide

end PartRecord

end PartSourcing
