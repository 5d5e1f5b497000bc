import PartSourcing.Proofs.Memory.Batch

/-!
# Sightings of one search in any order

A search remembers its sightings in the order of their rank, and rank has nothing to do with what
memory counts.  Two sightings of one vendor need not commute as they stand: of an older and a newer
one the older is recorded if it comes first and passed over if it comes last, and a price may be
known afterwards or not.  **In what is counted they do commute** (`Count.follow_comm`): how often the
vendor was seen, from when to when, and by which search last.  Where their dates differ and neither
leaves a price or a quantity open, they commute altogether (`follow_comm`), since the later of the
two decides what the entry says.

What commutes pair by pair commutes in every arrangement.  Entries in the order of their keys are
known vendor by vendor (`Ascending.map_eq_map`), so the order in which a search is remembered
changes no counter of a record, and none of its fields if every sighting is complete and no vendor
has two at one time (`counts_in_any_order`).
-/

namespace PartSourcing

open PartSourcing.Calendar

namespace VendorEntry

/-! ## Entries vendor by vendor -/

/-- Entries in the order of their keys, told from what is looked up. -/
theorem Ascending.map_eq_filterMap {α : Type} {es : List VendorEntry} (h : Ascending es)
    (f : VendorEntry → α) :
    es.map f = (es.map (·.vendorKey)).filterMap fun k => (entryOf es k).map f := by
  have hentry : ∀ e ∈ es, (entryOf es e.vendorKey).map f = some (f e) := by
    intro e he
    rw [h.entryOf_eq_some_iff.mpr ⟨he, rfl⟩, Option.map_some]
  rw [List.filterMap_map, ← List.filterMap_eq_map]
  exact (List.filterMap_congr hentry).symm

theorem Ascending.mem_keys_iff {es : List VendorEntry} (h : Ascending es) {k : String} :
    k ∈ es.map (·.vendorKey) ↔ (entryOf es k).isSome = true := by
  rw [List.mem_map, Option.isSome_iff_exists]
  exact exists_congr fun e => h.entryOf_eq_some_iff.symm

/-- **Entries in the order of their keys are known vendor by vendor.** -/
theorem Ascending.map_eq_map {α : Type} {es es' : List VendorEntry} (h : Ascending es)
    (h' : Ascending es') {f : VendorEntry → α}
    (hf : ∀ k, (entryOf es k).map f = (entryOf es' k).map f) : es.map f = es'.map f := by
  have hkeys : es.map (·.vendorKey) = es'.map (·.vendorKey) := by
    have hperm : (es.map (·.vendorKey)).Perm (es'.map (·.vendorKey)) := by
      rw [List.perm_ext_iff_of_nodup h.nodup_keys h'.nodup_keys]
      intro k
      have hsome := congrArg Option.isSome (hf k)
      rw [Option.isSome_map, Option.isSome_map] at hsome
      rw [h.mem_keys_iff, h'.mem_keys_iff, hsome]
    have hrise : (es.map (·.vendorKey)).Pairwise (· < ·) := List.pairwise_map.mpr h
    have hrise' : (es'.map (·.vendorKey)).Pairwise (· < ·) := List.pairwise_map.mpr h'
    exact hperm.eq_of_pairwise (fun _ _ _ _ hab hba => absurd hba (lt_asymm hab)) hrise hrise'
  rw [h.map_eq_filterMap, h'.map_eq_filterMap, hkeys]
  exact List.filterMap_congr fun k _ => hf k

theorem Ascending.ext {es es' : List VendorEntry} (h : Ascending es) (h' : Ascending es')
    (hentry : ∀ k, entryOf es k = entryOf es' k) : es = es' := by
  have hmap := h.map_eq_map h' (f := fun e => e) fun k => by rw [hentry k]
  simpa only [List.map_id'] using hmap

theorem Ascending.observeAll {es : List VendorEntry} (h : Ascending es) (l : List Sighting) :
    Ascending (observeAll l es) :=
  List.foldlRecOn l _ h fun _ hes s _ => hes.observe s

/-! ## What is counted -/

/-- What is counted of a vendor: how often it was seen, from when to when, and by which search
last. -/
structure Count where
  vendorKey : String
  timesSeen : UInt32
  firstSeen : Instant
  lastSeen : Instant
  searchId : Option SearchId

/-- What an entry counts. -/
def count (e : VendorEntry) : Count :=
  ⟨e.vendorKey, e.timesSeen, e.firstSeen, e.lastSeen, e.searchId⟩

namespace Count

/-- The count after one more sighting of the vendor. -/
def update (c : Count) (s : Sighting) : Count where
  vendorKey := c.vendorKey
  timesSeen := if c.lastSeen < s.observedAt ∧ c.searchId ≠ some s.searchId then
    Saturating.succ c.timesSeen else c.timesSeen
  firstSeen := min s.observedAt c.firstSeen
  lastSeen := max s.observedAt c.lastSeen
  searchId := if c.lastSeen < s.observedAt then some s.searchId else c.searchId

/-- The count after one more sighting, the first perhaps. -/
def follow (c : Option Count) (s : Sighting) : Count :=
  c.elim (ofSighting s).count (·.update s)

variable {s t : Sighting}

/-- **Two sightings of one search count as one**, made at the later date of the two. -/
theorem update_update (c : Count) (hid : s.searchId = t.searchId) :
    (c.update s).update t = {
      vendorKey := c.vendorKey
      timesSeen := if c.lastSeen < max s.observedAt t.observedAt ∧ c.searchId ≠ some t.searchId
        then Saturating.succ c.timesSeen else c.timesSeen
      firstSeen := min t.observedAt (min s.observedAt c.firstSeen)
      lastSeen := max t.observedAt (max s.observedAt c.lastSeen)
      searchId := if c.lastSeen < max s.observedAt t.observedAt then some t.searchId
        else c.searchId } := by
  by_cases hs : c.lastSeen < s.observedAt
  · -- the first sighting has counted the search, so the second does not
    simp [update, hs, hid]
  · have hlast : max s.observedAt c.lastSeen = c.lastSeen := max_eq_right (not_lt.mp hs)
    simp [update, hs, hlast]

/-- So it does not matter which of them comes first. -/
theorem update_comm (c : Count) (hid : s.searchId = t.searchId) :
    (c.update s).update t = (c.update t).update s := by
  rw [update_update c hid, update_update c hid.symm, max_comm s.observedAt t.observedAt,
    min_left_comm t.observedAt, max_left_comm t.observedAt, hid]

theorem follow_comm (c : Option Count) (hkey : s.vendorKey = t.vendorKey)
    (hid : s.searchId = t.searchId) :
    follow (some (follow c s)) t = follow (some (follow c t)) s := by
  cases c with
  | none => simp [follow, update, count, ofSighting, hkey, hid, min_comm, max_comm]
  | some c => exact update_comm c hid

end Count

theorem count_update (e : VendorEntry) (s : Sighting) : (e.update s).count = e.count.update s := by
  simp only [count, Count.update, update_vendorKey, update_timesSeen, update_firstSeen,
    update_lastSeen, update_searchId]
  rfl

theorem count_follow (e : Option VendorEntry) (s : Sighting) :
    (follow e s).count = Count.follow (e.map count) s := by
  cases e with
  | none => rfl
  | some e => exact count_update e s

/-- **What is counted follows the sightings by itself**, whatever else they say. -/
theorem map_count_followAll (e : Option VendorEntry) (l : List Sighting) :
    (followAll e l).map count = l.foldl (fun c s => some (Count.follow c s)) (e.map count) := by
  induction l generalizing e with
  | nil => rfl
  | cons s l ih =>
    rw [List.foldl_cons, ← count_follow]
    exact ih (some (follow e s))

/-! ## What is said -/

/-- What an entry says of the last offer of a vendor. -/
structure Said where
  vendorName : String
  standing : Standing
  price : Option Float
  currency : Option String
  quantity : Option UInt64

/-- What an entry says. -/
def said (e : VendorEntry) : Said :=
  ⟨e.vendorName, e.standing, e.price, e.currency, e.quantity⟩

/-- An entry counts and says, and nothing else. -/
theorem eq_of_count_of_said {a b : VendorEntry} (hcount : a.count = b.count)
    (hsaid : a.said = b.said) : a = b := by
  cases a
  cases b
  simp only [count, said, Count.mk.injEq, Said.mk.injEq] at hcount hsaid
  simp only [hcount, hsaid]

/-- **A complete sighting decides all that an entry says**, if it is later than all before it. -/
theorem said_update {s : Sighting} (hs : s.price.isSome = true ∧ s.quantity.isSome = true)
    (e : VendorEntry) : (e.update s).said =
      if e.lastSeen < s.observedAt then (ofSighting s).said else e.said := by
  obtain ⟨p, hp⟩ := Option.isSome_iff_exists.mp hs.1
  obtain ⟨q, hq⟩ := Option.isSome_iff_exists.mp hs.2
  rcases lt_or_ge e.lastSeen s.observedAt with h | h
  · rw [if_pos h, update_of_lt e s h]
    simp [said, advance_price, advance_currency, advance_quantity, ofSighting, hp, hq]
  · rw [if_neg (not_lt.mpr h), update_of_le e s h]
    simp [said]

/-- Of two complete sightings of one vendor the later decides, in whichever order they come. -/
theorem said_follow_comm {s t : Sighting} (hs : s.price.isSome = true ∧ s.quantity.isSome = true)
    (ht : t.price.isSome = true ∧ t.quantity.isSome = true) (hlt : s.observedAt < t.observedAt)
    (e : Option VendorEntry) :
    (follow (some (follow e s)) t).said = (follow (some (follow e t)) s).said := by
  have hfirst (u : Sighting) : (ofSighting u).lastSeen = u.observedAt := rfl
  cases e with
  | none =>
    show ((ofSighting s).update t).said = ((ofSighting t).update s).said
    rw [said_update ht, said_update hs, hfirst, hfirst, if_pos hlt, if_neg hlt.not_gt]
  | some e =>
    show ((e.update s).update t).said = ((e.update t).update s).said
    have hpassed : ¬max t.observedAt e.lastSeen < s.observedAt := fun h =>
      hlt.not_gt (lt_of_le_of_lt (le_max_left _ _) h)
    rw [said_update ht, said_update hs, said_update hs, said_update ht, update_lastSeen,
      update_lastSeen, if_neg hpassed]
    by_cases hlast : e.lastSeen < t.observedAt
    · rw [if_pos (max_lt hlt hlast), if_pos hlast]
    · have hs' : ¬e.lastSeen < s.observedAt := fun h => hlast (h.trans hlt)
      have ht' : ¬max s.observedAt e.lastSeen < t.observedAt := fun h =>
        hlast (lt_of_le_of_lt (le_max_right _ _) h)
      rw [if_neg ht', if_neg hs', if_neg hlast]

/-- **Complete sightings of one vendor commute** if they were made at different times. -/
theorem follow_comm {s t : Sighting} (hkey : s.vendorKey = t.vendorKey)
    (hid : s.searchId = t.searchId) (hs : s.price.isSome = true ∧ s.quantity.isSome = true)
    (ht : t.price.isSome = true ∧ t.quantity.isSome = true) (hne : s.observedAt ≠ t.observedAt)
    (e : Option VendorEntry) :
    follow (some (follow e s)) t = follow (some (follow e t)) s := by
  apply eq_of_count_of_said
  · rw [count_follow, count_follow, Option.map_some, Option.map_some, count_follow, count_follow]
    exact Count.follow_comm _ hkey hid
  · rcases lt_or_gt_of_ne hne with h | h
    · exact said_follow_comm hs ht h e
    · exact (said_follow_comm ht hs h e).symm

/-! ## Every arrangement -/

variable {l l' : List Sighting} {id : SearchId}

/-- **What is counted of a vendor** does not hang on the order of its sightings. -/
theorem map_count_followAll_perm (hp : l.Perm l') {k : String} (hkey : ∀ s ∈ l, s.vendorKey = k)
    (hid : ∀ s ∈ l, s.searchId = id) (e : Option VendorEntry) :
    (followAll e l).map count = (followAll e l').map count := by
  rw [map_count_followAll, map_count_followAll]
  refine hp.foldl_eq' (fun s hs t ht c => ?_) _
  have hst : s.vendorKey = t.vendorKey := by rw [hkey s hs, hkey t ht]
  have hids : s.searchId = t.searchId := by rw [hid s hs, hid t ht]
  rw [Count.follow_comm c hst hids]

/-- **Nor does its entry** where the sightings are complete and made at different times. -/
theorem followAll_perm (hp : l.Perm l') {k : String} (hkey : ∀ s ∈ l, s.vendorKey = k)
    (hid : ∀ s ∈ l, s.searchId = id) (hdates : (l.map (·.observedAt)).Nodup)
    (hcomplete : ∀ s ∈ l, s.price.isSome = true ∧ s.quantity.isSome = true)
    (e : Option VendorEntry) : followAll e l = followAll e l' := by
  refine hp.foldl_eq' (fun s hs t ht e => ?_) e
  by_cases hst : s = t
  · rw [hst]
  · have hne : s.observedAt ≠ t.observedAt := fun h =>
      hst (List.inj_on_of_nodup_map hdates hs ht h)
    rw [follow_comm ((hkey s hs).trans (hkey t ht).symm) ((hid s hs).trans (hid t ht).symm)
      (hcomplete s hs) (hcomplete t ht) hne]

variable {es : List VendorEntry}

theorem map_count_observeAll_perm (h : Ascending es) (hp : l.Perm l')
    (hid : ∀ s ∈ l, s.searchId = id) :
    (observeAll l es).map count = (observeAll l' es).map count := by
  refine (h.observeAll l).map_eq_map (h.observeAll l') fun k => ?_
  have hkey : ∀ s ∈ l.filter fun s => s.vendorKey = k, s.vendorKey = k := fun s hs =>
    of_decide_eq_true (List.mem_filter.mp hs).2
  have hids : ∀ s ∈ l.filter fun s => s.vendorKey = k, s.searchId = id := fun s hs =>
    hid s (List.mem_filter.mp hs).1
  rw [entryOf_observeAll, entryOf_observeAll]
  exact map_count_followAll_perm (hp.filter _) hkey hids _

theorem observeAll_perm (h : Ascending es) (hp : l.Perm l') (hid : ∀ s ∈ l, s.searchId = id)
    (hdates : ∀ k, ((l.filter fun s => s.vendorKey = k).map (·.observedAt)).Nodup)
    (hcomplete : ∀ s ∈ l, s.price.isSome = true ∧ s.quantity.isSome = true) :
    observeAll l es = observeAll l' es := by
  refine (h.observeAll l).ext (h.observeAll l') fun k => ?_
  have hkey : ∀ s ∈ l.filter fun s => s.vendorKey = k, s.vendorKey = k := fun s hs =>
    of_decide_eq_true (List.mem_filter.mp hs).2
  have hids : ∀ s ∈ l.filter fun s => s.vendorKey = k, s.searchId = id := fun s hs =>
    hid s (List.mem_filter.mp hs).1
  have hall : ∀ s ∈ l.filter fun s => s.vendorKey = k,
      s.price.isSome = true ∧ s.quantity.isSome = true := fun s hs =>
    hcomplete s (List.mem_filter.mp hs).1
  rw [entryOf_observeAll, entryOf_observeAll]
  exact followAll_perm (hp.filter _) hkey hids (hdates k) hall _

end VendorEntry

namespace PartRecord

/-- **Two records that count alike**: searches in all, and each vendor by itself. -/
structure CountsAlike (r r' : PartRecord) : Prop where
  searchCount : r.searchCount = r'.searchCount
  searchId : r.searchId = r'.searchId
  vendors : r.entries.map VendorEntry.count = r'.entries.map VendorEntry.count

theorem CountsAlike.refl (r : PartRecord) : CountsAlike r r := ⟨rfl, rfl, rfl⟩

variable {r : PartRecord} {l l' : List Sighting} {id : SearchId}

/-- **The order in which a search is remembered counts for nothing.**  Whatever order the sightings
of one search come in, they leave records that count alike; and where each of them has a price and a
quantity, and no vendor has two at one time, they leave the same record. -/
theorem counts_in_any_order (hr : VendorEntry.Ascending r.entries)
    (hid : ∀ s ∈ l, s.searchId = id) (hp : l.Perm l') (now : Instant) (staleDays : UInt32) :
    ((now.minusDays? staleDays.toNat).isSome = true →
      (r.observedAll? l now staleDays).isSome = true) ∧
    Option.Rel CountsAlike (r.observedAll? l now staleDays) (r.observedAll? l' now staleDays) ∧
    ((∀ vendorKey, ((l.filter fun s => s.vendorKey = vendorKey).map (·.observedAt)).Nodup) →
      (∀ s ∈ l, s.price.isSome = true ∧ s.quantity.isSome = true) →
      r.observedAll? l now staleDays = r.observedAll? l' now staleDays) := by
  refine ⟨observedAll?_isSome, ?_⟩
  by_cases hl : l = []
  · have hl' : l' = [] := List.nil_perm.mp (hl ▸ hp)
    rw [hl, hl']
    exact ⟨.some (.refl r), fun _ _ => rfl⟩
  · have hl' : l' ≠ [] := fun h => hl (List.perm_nil.mp (h ▸ hp))
    have hid' : ∀ s ∈ l', s.searchId = id := fun s hs => hid s (hp.mem_iff.mpr hs)
    rw [observedAll?_eq hl hid, observedAll?_eq hl' hid']
    constructor
    · cases now.minusDays? staleDays.toNat with
      | none => exact .none
      | some cutoff =>
        exact .some ⟨rfl, rfl, VendorEntry.map_count_observeAll_perm hr hp hid⟩
    · intro hdates hcomplete
      rw [VendorEntry.observeAll_perm hr hp hid hdates hcomplete]

/-- A record that knows one vendor. -/
def oneVendorKnown : PartRecord :=
  { empty "AB1" .epoch with entries := [.ofSighting (.bare "acme" "AB1" ⟨2, 0⟩ .zero)] }

/-- A search that sights this vendor before and after that, and another one in between. -/
def pricedSearch : List Sighting :=
  [("acme", 1), ("beta", 2), ("acme", 3)].map fun v =>
    { Sighting.bare v.1 "AB1" ⟨v.2, 0⟩ ⟨1⟩ with price := some 2.5, quantity := some 7 }

/-- Remembered backwards, the search leaves the same record. -/
theorem counts_in_any_order_backwards : VendorEntry.Ascending oneVendorKnown.entries ∧
    (∀ s ∈ pricedSearch, s.searchId = ⟨1⟩) ∧ pricedSearch.Perm pricedSearch.reverse ∧
    (∀ vendorKey,
      ((pricedSearch.filter fun s => s.vendorKey = vendorKey).map (·.observedAt)).Nodup) ∧
    (∀ s ∈ pricedSearch, s.price.isSome = true ∧ s.quantity.isSome = true) ∧
    ∃ r, oneVendorKnown.observedAll? pricedSearch .epoch 180 = some r ∧
      oneVendorKnown.observedAll? pricedSearch.reverse .epoch 180 = some r := by
  have hasc : VendorEntry.Ascending oneVendorKnown.entries := List.pairwise_singleton _ _
  have hid : ∀ s ∈ pricedSearch, s.searchId = ⟨1⟩ := by decide
  have hp : pricedSearch.Perm pricedSearch.reverse := (List.reverse_perm _).symm
  have hdates (vendorKey : String) :
      ((pricedSearch.filter fun s => s.vendorKey = vendorKey).map (·.observedAt)).Nodup := by
    have hall : (pricedSearch.map (·.observedAt)).Nodup := by decide
    exact hall.sublist (List.filter_sublist.map _)
  have hcomplete : ∀ s ∈ pricedSearch, s.price.isSome = true ∧ s.quantity.isSome = true := by
    decide
  obtain ⟨hsome, -, hsame⟩ := counts_in_any_order hasc hid hp .epoch 180
  obtain ⟨r, h⟩ := Option.isSome_iff_exists.mp (hsome (by decide))
  exact ⟨hasc, hid, hp, hdates, hcomplete, r, h, (hsame hdates hcomplete).symm.trans h⟩

end PartRecord

end PartSourcing
