import Mathlib.Data.List.Nodup
import Mathlib.Data.String.Basic
import PartSourcing.Memory.Observation
import PartSourcing.Proofs.Calendar.Order
import PartSourcing.Proofs.Sorting

/-!
# Entries of vendors

The entries of a record stand in strictly ascending order of their vendor keys (`Ascending`), and
a sighting keeps them so (`Ascending.observe`).  Under that order a record is a table from vendor
keys to entries, and **a sighting moves one row of it**: the vendor's own entry follows the
sighting, every other one stays (`entryOf_observe`).
-/

namespace PartSourcing.VendorEntry

open PartSourcing.Calendar

/-- **Vendor keys rise strictly**, so no key stands twice. -/
def Ascending (es : List VendorEntry) : Prop :=
  es.Pairwise fun a b => a.vendorKey < b.vendorKey

/-- The entry of a vendor. -/
def entryOf (es : List VendorEntry) (vendorKey : String) : Option VendorEntry :=
  es.find? (·.vendorKey == vendorKey)

/-- A vendor's entry after one more sighting of it, its first perhaps. -/
def follow (e : Option VendorEntry) (s : Sighting) : VendorEntry :=
  e.elim (ofSighting s) (·.update s)

/-! ## One entry -/

section Update

variable (e : VendorEntry) (s : Sighting)

@[simp] theorem reachBack_vendorKey : (e.reachBack s).vendorKey = e.vendorKey := by
  unfold reachBack
  split <;> rfl

@[simp] theorem reachBack_lastSeen : (e.reachBack s).lastSeen = e.lastSeen := by
  unfold reachBack
  split <;> rfl

@[simp] theorem reachBack_timesSeen : (e.reachBack s).timesSeen = e.timesSeen := by
  unfold reachBack
  split <;> rfl

@[simp] theorem reachBack_searchId : (e.reachBack s).searchId = e.searchId := by
  unfold reachBack
  split <;> rfl

@[simp] theorem reachBack_price : (e.reachBack s).price = e.price := by
  unfold reachBack
  split <;> rfl

@[simp] theorem reachBack_currency : (e.reachBack s).currency = e.currency := by
  unfold reachBack
  split <;> rfl

@[simp] theorem reachBack_vendorName : (e.reachBack s).vendorName = e.vendorName := by
  unfold reachBack
  split <;> rfl

@[simp] theorem reachBack_standing : (e.reachBack s).standing = e.standing := by
  unfold reachBack
  split <;> rfl

@[simp] theorem reachBack_quantity : (e.reachBack s).quantity = e.quantity := by
  unfold reachBack
  split <;> rfl

theorem reachBack_firstSeen : (e.reachBack s).firstSeen = min s.observedAt e.firstSeen := by
  unfold reachBack
  split
  · rename_i h
    exact (min_eq_left (le_of_lt h)).symm
  · rename_i h
    exact (min_eq_right (not_lt.mp h)).symm

@[simp] theorem countSearch_vendorKey : (e.countSearch s).vendorKey = e.vendorKey := by
  unfold countSearch
  split <;> rfl

@[simp] theorem countSearch_price : (e.countSearch s).price = e.price := by
  unfold countSearch
  split <;> rfl

@[simp] theorem countSearch_currency : (e.countSearch s).currency = e.currency := by
  unfold countSearch
  split <;> rfl

@[simp] theorem countSearch_quantity : (e.countSearch s).quantity = e.quantity := by
  unfold countSearch
  split <;> rfl

@[simp] theorem countSearch_firstSeen : (e.countSearch s).firstSeen = e.firstSeen := by
  unfold countSearch
  split <;> rfl

theorem countSearch_searchId : (e.countSearch s).searchId = some s.searchId := by
  unfold countSearch
  split
  · assumption
  · rfl

theorem countSearch_timesSeen : (e.countSearch s).timesSeen =
    if e.searchId = some s.searchId then e.timesSeen else Saturating.succ e.timesSeen := by
  unfold countSearch
  split <;> rfl

/-- A sighting later than all before it is taken over. -/
theorem update_of_lt (h : e.lastSeen < s.observedAt) :
    e.update s = (e.reachBack s).advance s :=
  if_pos (by rwa [reachBack_lastSeen])

/-- Any other sighting moves the first date at most. -/
theorem update_of_le (h : s.observedAt ≤ e.lastSeen) : e.update s = e.reachBack s :=
  if_neg (by rwa [reachBack_lastSeen, not_lt])

@[simp] theorem advance_lastSeen : (e.advance s).lastSeen = s.observedAt := rfl

@[simp] theorem advance_vendorName : (e.advance s).vendorName = s.vendorName := rfl

@[simp] theorem advance_standing : (e.advance s).standing = s.standing := rfl

@[simp] theorem advance_searchId : (e.advance s).searchId = some s.searchId :=
  e.countSearch_searchId s

/-- A price that comes with a later sighting brings its currency, and no other sighting changes
either. -/
theorem advance_price : (e.advance s).price = s.price.or e.price :=
  congrArg (s.price.or ·) (e.countSearch_price s)

theorem advance_currency : (e.advance s).currency =
    if s.price.isSome then some s.currency else e.currency :=
  congrArg (ite _ (some s.currency) ·) (e.countSearch_currency s)

theorem advance_quantity : (e.advance s).quantity = s.quantity.or e.quantity :=
  congrArg (s.quantity.or ·) (e.countSearch_quantity s)

/-- **The first date is the least** that has been seen. -/
theorem update_firstSeen : (e.update s).firstSeen = min s.observedAt e.firstSeen := by
  rcases lt_or_ge e.lastSeen s.observedAt with h | h
  · rw [update_of_lt e s h, ← reachBack_firstSeen]
    exact countSearch_firstSeen _ s
  · rw [update_of_le e s h, reachBack_firstSeen]

/-- **The last date is the greatest.** -/
theorem update_lastSeen : (e.update s).lastSeen = max s.observedAt e.lastSeen := by
  rcases lt_or_ge e.lastSeen s.observedAt with h | h
  · rw [update_of_lt e s h, advance_lastSeen, max_eq_left h.le]
  · rw [update_of_le e s h, reachBack_lastSeen, max_eq_right h]

theorem update_searchId : (e.update s).searchId =
    if e.lastSeen < s.observedAt then some s.searchId else e.searchId := by
  rcases lt_or_ge e.lastSeen s.observedAt with h | h
  · rw [update_of_lt e s h, advance_searchId, if_pos h]
  · rw [update_of_le e s h, reachBack_searchId, if_neg (not_lt.mpr h)]

/-- **A search is counted** by a sighting later than all before it, unless it was counted last. -/
theorem update_timesSeen : (e.update s).timesSeen =
    if e.lastSeen < s.observedAt ∧ e.searchId ≠ some s.searchId then Saturating.succ e.timesSeen
    else e.timesSeen := by
  rcases lt_or_ge e.lastSeen s.observedAt with h | h
  · have hcount : (e.update s).timesSeen = ((e.reachBack s).countSearch s).timesSeen := by
      rw [update_of_lt e s h]
      rfl
    rw [hcount, countSearch_timesSeen, reachBack_searchId, reachBack_timesSeen]
    by_cases hid : e.searchId = some s.searchId
    · rw [if_pos hid, if_neg fun hnew => hnew.2 hid]
    · rw [if_neg hid, if_pos ⟨h, hid⟩]
  · rw [update_of_le e s h, reachBack_timesSeen, if_neg fun hnew => absurd hnew.1 (not_lt.mpr h)]

@[simp] theorem update_vendorKey : (e.update s).vendorKey = e.vendorKey := by
  rcases lt_or_ge e.lastSeen s.observedAt with h | h
  · rw [update_of_lt e s h]
    exact (countSearch_vendorKey _ s).trans (e.reachBack_vendorKey s)
  · rw [update_of_le e s h, reachBack_vendorKey]

end Update

/-! ## The order of the keys -/

theorem precedes_goesBy : Sorting.GoesBy precedes VendorEntry.vendorKey :=
  fun _ _ => decide_eq_true_iff

/-! ## Entries by their keys -/

namespace Ascending

variable {es : List VendorEntry}

theorem nodup_keys (h : Ascending es) : (es.map (·.vendorKey)).Nodup :=
  List.pairwise_map.mpr (h.imp fun hlt => ne_of_lt hlt)

theorem eq_of_key (h : Ascending es) {a b : VendorEntry} (ha : a ∈ es) (hb : b ∈ es)
    (hk : a.vendorKey = b.vendorKey) : a = b :=
  List.inj_on_of_nodup_map h.nodup_keys ha hb hk

/-- **The entry of a vendor is the one with its key.** -/
theorem entryOf_eq_some_iff (h : Ascending es) {k : String} {e : VendorEntry} :
    entryOf es k = some e ↔ e ∈ es ∧ e.vendorKey = k := by
  constructor
  · intro he
    exact ⟨List.mem_of_find?_eq_some he, by simpa using List.find?_some he⟩
  · rintro ⟨hmem, rfl⟩
    cases hf : entryOf es e.vendorKey with
    | none =>
      have := List.find?_eq_none.mp hf e hmem
      exact absurd (beq_self_eq_true _) this
    | some e' =>
      have hk : e'.vendorKey = e.vendorKey := by simpa using List.find?_some hf
      rw [h.eq_of_key (List.mem_of_find?_eq_some hf) hmem hk]

end Ascending

theorem entryOf_eq_none_iff {es : List VendorEntry} {k : String} :
    entryOf es k = none ↔ ∀ e ∈ es, e.vendorKey ≠ k := by
  simp [entryOf, List.find?_eq_none]

/-! ## A sighting among the entries -/

theorem updateIn?_eq_none {s : Sighting} {es : List VendorEntry}
    (h : ∀ e ∈ es, e.vendorKey ≠ s.vendorKey) : updateIn? s es = none := by
  induction es with
  | nil => rfl
  | cons e es ih =>
    rw [updateIn?, if_neg (h e List.mem_cons_self),
      ih fun x hx => h x (List.mem_cons_of_mem _ hx), Option.map_none]

/-- Where the vendor has an entry, the update replaces it in its place. -/
theorem updateIn?_eq_some {s : Sighting} {es : List VendorEntry} {e : VendorEntry}
    (h : Ascending es) (he : e ∈ es) (hk : e.vendorKey = s.vendorKey) :
    updateIn? s es =
      some (es.map fun x => if x.vendorKey = s.vendorKey then x.update s else x) := by
  induction es with
  | nil => exact absurd he List.not_mem_nil
  | cons x es ih =>
    obtain ⟨hx, hes⟩ := List.pairwise_cons.mp h
    by_cases hxk : x.vendorKey = s.vendorKey
    · -- the keys behind it are greater, so the update is for this entry alone
      have hrest : (es.map fun y => if y.vendorKey = s.vendorKey then y.update s else y) = es := by
        refine (List.map_congr_left fun y hy => if_neg fun hyk => ?_).trans (List.map_id es)
        exact lt_irrefl _ (hyk ▸ hxk ▸ hx y hy)
      rw [updateIn?, if_pos hxk, List.map_cons, if_pos hxk, hrest]
    · have hmem : e ∈ es := by
        rcases List.mem_cons.mp he with rfl | hmem
        · exact absurd hk hxk
        · exact hmem
      rw [updateIn?, if_neg hxk, ih hes hmem, Option.map_some, List.map_cons, if_neg hxk]

theorem observe_of_mem {s : Sighting} {es : List VendorEntry} {e : VendorEntry}
    (h : Ascending es) (he : e ∈ es) (hk : e.vendorKey = s.vendorKey) :
    observe s es = es.map fun x => if x.vendorKey = s.vendorKey then x.update s else x := by
  rw [observe, updateIn?_eq_some h he hk, Option.getD_some]

theorem observe_of_not_mem {s : Sighting} {es : List VendorEntry}
    (h : ∀ e ∈ es, e.vendorKey ≠ s.vendorKey) :
    observe s es = (es ++ [ofSighting s]).mergeSort precedes := by
  rw [observe, updateIn?_eq_none h, Option.getD_none]

/-- An update leaves the entries of other vendors alone, whatever the order of the keys. -/
theorem filter_updateIn? {s : Sighting} {k : String} (hk : s.vendorKey ≠ k)
    {es es' : List VendorEntry} (h : updateIn? s es = some es') :
    (es'.filter fun e => e.vendorKey = k) = es.filter fun e => e.vendorKey = k := by
  induction es generalizing es' with
  | nil => exact absurd h.symm (Option.some_ne_none es')
  | cons e es ih =>
    unfold updateIn? at h
    split at h
    · rename_i he
      obtain rfl := Option.some.inj h
      have hne : ¬e.vendorKey = k := fun hek => hk (he.symm.trans hek)
      have hne' : ¬(e.update s).vendorKey = k := by rwa [update_vendorKey]
      rw [List.filter_cons_of_neg (by simpa using hne), List.filter_cons_of_neg (by simpa using hne')]
    · obtain ⟨rest, hrest, rfl⟩ := Option.map_eq_some_iff.mp h
      rw [List.filter_cons, List.filter_cons, ih hrest]

/-- **A sighting leaves the entries of other vendors alone**, whatever record it meets. -/
theorem filter_observe {s : Sighting} {k : String} (hk : s.vendorKey ≠ k)
    (es : List VendorEntry) :
    ((observe s es).filter fun e => e.vendorKey = k) = es.filter fun e => e.vendorKey = k := by
  unfold observe
  cases hu : updateIn? s es with
  | some es' => exact filter_updateIn? hk hu
  | none =>
    rw [Option.getD_none, precedes_goesBy.filter_mergeSort, List.filter_append]
    have hnew : ¬(ofSighting s).vendorKey = k := hk
    rw [List.filter_cons_of_neg (by simpa using hnew), List.filter_nil, List.append_nil]

/-- **What stands in a record after a sighting**: the entries of the other vendors, and the
vendor's own entry, which has followed the sighting. -/
theorem mem_observe {s : Sighting} {es : List VendorEntry} (h : Ascending es) {e : VendorEntry} :
    e ∈ observe s es ↔
      (e ∈ es ∧ e.vendorKey ≠ s.vendorKey) ∨ e = follow (entryOf es s.vendorKey) s := by
  cases hf : entryOf es s.vendorKey with
  | none =>
    have hne := entryOf_eq_none_iff.mp hf
    rw [observe_of_not_mem hne, List.mem_mergeSort, List.mem_append, List.mem_singleton]
    exact or_congr_left (and_iff_left_of_imp (hne e)).symm
  | some old =>
    obtain ⟨hold, hk⟩ := h.entryOf_eq_some_iff.mp hf
    rw [observe_of_mem h hold hk, List.mem_map]
    constructor
    · rintro ⟨x, hx, rfl⟩
      by_cases hxk : x.vendorKey = s.vendorKey
      · rw [if_pos hxk, h.eq_of_key hx hold (hxk.trans hk.symm)]
        exact Or.inr rfl
      · rw [if_neg hxk]
        exact Or.inl ⟨hx, hxk⟩
    · rintro (⟨he, hne⟩ | rfl)
      · exact ⟨e, he, if_neg hne⟩
      · exact ⟨old, hold, if_pos hk⟩

theorem follow_vendorKey {s : Sighting} {es : List VendorEntry} :
    (follow (entryOf es s.vendorKey) s).vendorKey = s.vendorKey := by
  cases hf : entryOf es s.vendorKey with
  | none => rfl
  | some e => exact (update_vendorKey e s).trans (by simpa using List.find?_some hf)

/-- **No vendor is forgotten.** -/
theorem exists_mem_observe {s : Sighting} {es : List VendorEntry} (h : Ascending es)
    {e : VendorEntry} (he : e ∈ es) : ∃ e' ∈ observe s es, e'.vendorKey = e.vendorKey := by
  by_cases hk : e.vendorKey = s.vendorKey
  · exact ⟨_, (mem_observe h).mpr (Or.inr rfl), follow_vendorKey.trans hk.symm⟩
  · exact ⟨e, (mem_observe h).mpr (Or.inl ⟨he, hk⟩), rfl⟩

theorem ascending_of_sorted {es : List VendorEntry}
    (hs : es.Pairwise fun a b => a.vendorKey ≤ b.vendorKey)
    (hn : (es.map (·.vendorKey)).Nodup) : Ascending es :=
  hs.imp₂ (fun _ _ hle hne => lt_of_le_of_ne hle hne) (List.pairwise_map.mp hn)

/-- **A sighting keeps the vendor keys rising.** -/
theorem Ascending.observe {es : List VendorEntry} (h : Ascending es) (s : Sighting) :
    Ascending (observe s es) := by
  cases hf : entryOf es s.vendorKey with
  | none =>
    have hne := entryOf_eq_none_iff.mp hf
    rw [observe_of_not_mem hne]
    refine ascending_of_sorted ?_ ?_
    · exact precedes_goesBy.sorted _
    · rw [((List.mergeSort_perm _ _).map _).nodup_iff, List.map_append, List.nodup_append]
      refine ⟨h.nodup_keys, List.nodup_singleton _, fun k hk k' hk' => ?_⟩
      obtain ⟨e, he, rfl⟩ := List.mem_map.mp hk
      rw [List.mem_singleton.mp hk']
      exact hne e he
  | some old =>
    obtain ⟨hold, hk⟩ := h.entryOf_eq_some_iff.mp hf
    rw [observe_of_mem h hold hk]
    refine List.pairwise_map.mpr (h.imp fun {a b} hab => ?_)
    have hkey (x : VendorEntry) :
        (if x.vendorKey = s.vendorKey then x.update s else x).vendorKey = x.vendorKey := by
      split
      · exact update_vendorKey x s
      · rfl
    rw [hkey, hkey]
    exact hab

/-! ## One row moved -/

theorem entryOf_eq_head? (es : List VendorEntry) (k : String) :
    entryOf es k = (es.filter fun e => e.vendorKey = k).head? := by
  rw [List.head?_filter]
  rfl

/-- What is looked up is what an update meets. -/
theorem exists_updateIn? {s : Sighting} {es : List VendorEntry} {e : VendorEntry}
    (h : entryOf es s.vendorKey = some e) :
    ∃ es', updateIn? s es = some es' ∧ entryOf es' s.vendorKey = some (e.update s) := by
  induction es with
  | nil => exact absurd h (Option.some_ne_none e).symm
  | cons x es ih =>
    by_cases hx : x.vendorKey = s.vendorKey
    · have hxe : x = e := by simpa [entryOf, hx] using h
      refine ⟨_, if_pos hx, ?_⟩
      rw [← hxe]
      simp [entryOf, hx]
    · have hes : entryOf es s.vendorKey = some e := by simpa [entryOf, hx] using h
      obtain ⟨es', hes', hentry⟩ := ih hes
      refine ⟨x :: es', ?_, ?_⟩
      · rw [updateIn?, if_neg hx, hes', Option.map_some]
      · simpa [entryOf, hx] using hentry

/-- **A sighting moves one row**: the entry of its vendor follows it, every other one stays.  Where
a key stands more than once, the row is the first of that key. -/
theorem entryOf_observe (es : List VendorEntry) (s : Sighting) (k : String) :
    entryOf (observe s es) k =
      if s.vendorKey = k then some (follow (entryOf es k) s) else entryOf es k := by
  by_cases hk : s.vendorKey = k
  · subst hk
    rw [if_pos rfl]
    cases hf : entryOf es s.vendorKey with
    | none =>
      have hne := entryOf_eq_none_iff.mp hf
      have hold : (es.filter fun e => e.vendorKey = s.vendorKey) = [] :=
        List.filter_eq_nil_iff.mpr fun e he => by simpa using hne e he
      have hnew : ((es ++ [ofSighting s]).filter fun e => e.vendorKey = s.vendorKey) =
          [ofSighting s] := by
        rw [List.filter_append, hold, List.nil_append]
        exact List.filter_cons_of_pos (decide_eq_true rfl)
      rw [observe_of_not_mem hne, entryOf_eq_head?, precedes_goesBy.filter_mergeSort, hnew]
      rfl
    | some e =>
      obtain ⟨es', hes', hentry⟩ := exists_updateIn? hf
      rw [observe, hes', Option.getD_some, hentry]
      rfl
  · rw [if_neg hk, entryOf_eq_head?, filter_observe hk, ← entryOf_eq_head?]

end PartSourcing.VendorEntry
