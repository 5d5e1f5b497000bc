import Mathlib.Data.List.Pairwise
import PartSourcing.Proofs.Calendar.Order
import PartSourcing.Proofs.FirstAppearance
import PartSourcing.Proofs.Sorting
import PartSourcing.Sighting.Merge

/-!
# What merging makes of duplicates

Every identity among the merged sightings comes out once, in order of first appearance
(`map_identity_mergeDuplicates`), as the one sighting of its group (`of_mem_mergeDuplicates`).
Filling in touches neither vendor nor part nor stock number, which is why the identity survives it;
a price that is filled in brings its currency along (`price_of_mem_mergeDuplicates`); the sources
listed are those that reported the group, in order of first appearance.

Precedence is a linear order of the three measures it compares.  A group in which no two
sightings agree on all three has one arrangement, so its merged sighting depends on the order of
arrival only through the order in which its sources are listed (`merged_of_perm`).
-/

namespace PartSourcing.Sighting

open PartSourcing.Calendar

variable (c : EngineConfig)

/-! ## Groups -/

theorem mem_identities {l : List Sighting} {k : Identity} :
    k ∈ identities l ↔ ∃ s ∈ l, s.identity = k := by
  rw [identities, List.mem_eraseDups, List.mem_map]

theorem identities_nodup (l : List Sighting) : (identities l).Nodup := nodup_eraseDups _

theorem mem_groupOf {l : List Sighting} {k : Identity} {s : Sighting} :
    s ∈ groupOf l k ↔ s ∈ l ∧ s.identity = k := by
  rw [groupOf, List.mem_filter, decide_eq_true_eq]

theorem groupOf_ne_nil {l : List Sighting} {k : Identity} (hk : k ∈ identities l) :
    groupOf l k ≠ [] := by
  obtain ⟨s, hs, hk⟩ := mem_identities.mp hk
  exact List.ne_nil_of_mem (mem_groupOf.mpr ⟨hs, hk⟩)

/-- The sources that reported some identity, in the order in which they did. -/
def reportersOf (l : List Sighting) (k : Identity) : List Source :=
  (groupOf l k).flatMap (·.reportedBy)

/-! ## The merged sighting of a group -/

theorem foldl_fill_identity (base : Sighting) (others : List Sighting) :
    (others.foldl fill base).identity = base.identity := by
  induction others generalizing base with
  | nil => rfl
  | cons other others ih => exact ih (fill base other)

theorem foldl_fill_isHistorical (base : Sighting) (others : List Sighting) :
    (others.foldl fill base).isHistorical = base.isHistorical := by
  induction others generalizing base with
  | nil => rfl
  | cons other others ih => exact ih (fill base other)

/-- A price that is filled in is that of one of the two sightings, and so is its currency. -/
theorem fill_price {base other : Sighting} {p : Float} (h : (fill base other).price = some p) :
    ∃ s ∈ [base, other], s.price = some p ∧ s.currency = (fill base other).currency := by
  by_cases htake : (base.price.isNone && other.price.isSome) = true
  · have hfill : (fill base other).price = other.price ∧
        (fill base other).currency = other.currency := by
      simp only [fill, htake, if_true, and_self]
    exact ⟨other, by simp, hfill.1.symm.trans h, hfill.2.symm⟩
  · have hfill : (fill base other).price = base.price ∧
        (fill base other).currency = base.currency := by
      simp only [fill, htake, if_false, and_self, Bool.false_eq_true]
    exact ⟨base, by simp, hfill.1.symm.trans h, hfill.2.symm⟩

/-- **However many are filled in, a price keeps its currency.** -/
theorem foldl_fill_price {base : Sighting} {others : List Sighting} {p : Float}
    (h : (others.foldl fill base).price = some p) :
    ∃ s ∈ base :: others, s.price = some p ∧
      s.currency = (others.foldl fill base).currency := by
  induction others generalizing base with
  | nil => exact ⟨base, List.mem_cons_self, h, rfl⟩
  | cons other others ih =>
    rw [List.foldl_cons] at h ⊢
    obtain ⟨s, hs, hprice, hcurrency⟩ := ih h
    rcases List.mem_cons.mp hs with rfl | hs
    · obtain ⟨t, ht, htprice, htcurrency⟩ := fill_price hprice
      have hmem : t ∈ base :: other :: others := by
        rcases List.mem_pair.mp ht with rfl | rfl <;> simp
      exact ⟨t, hmem, htprice, htcurrency.trans hcurrency⟩
    · exact ⟨s, by simp [hs], hprice, hcurrency⟩

/-- A group with something in it is merged, and its foremost sighting is the base. -/
theorem mergeGroup?_eq_some {group : List Sighting} (h : group ≠ []) :
    ∃ base others, group.mergeSort (precedes c) = base :: others ∧ base ∈ group ∧
      mergeGroup? c group = some { others.foldl fill base with
        reportedBy := (group.flatMap (·.reportedBy)).eraseDups
        isAuthorized := group.any (·.isAuthorized) } := by
  cases hs : group.mergeSort (precedes c) with
  | nil =>
    have hp := List.mergeSort_perm group (precedes c)
    rw [hs] at hp
    exact absurd hp.symm.eq_nil h
  | cons base others =>
    have hmem : base ∈ group := by
      rw [← (List.mergeSort_perm group (precedes c)).mem_iff, hs]
      exact List.mem_cons_self
    refine ⟨base, others, rfl, hmem, ?_⟩
    rw [mergeGroup?, hs]

/-- **What stands for a group**: a sighting of its identity, fresh if the group is, that lists
those who reported it. -/
theorem exists_merged {l : List Sighting} {k : Identity} (hk : k ∈ identities l) :
    ∃ m, mergeGroup? c (groupOf l k) = some m ∧ m.identity = k ∧
      m.reportedBy = (reportersOf l k).eraseDups ∧ ∃ s ∈ l, m.isHistorical = s.isHistorical := by
  obtain ⟨base, others, -, hmem, hm⟩ := mergeGroup?_eq_some c (groupOf_ne_nil hk)
  obtain ⟨hl, hid⟩ := mem_groupOf.mp hmem
  refine ⟨_, hm, ?_, rfl, base, hl, foldl_fill_isHistorical base others⟩
  exact (foldl_fill_identity base others).trans hid

/-- A table of what stands for each key has the keys in their order. -/
theorem map_filterMap_of_forall {α β : Type} {f : α → Option β} {g : β → α} {ks : List α}
    (h : ∀ k ∈ ks, ∃ m, f k = some m ∧ g m = k) : (ks.filterMap f).map g = ks := by
  induction ks with
  | nil => rfl
  | cons k ks ih =>
    obtain ⟨m, hm, hg⟩ := h k List.mem_cons_self
    rw [List.filterMap_cons_some hm, List.map_cons, hg,
      ih fun k' hk' => h k' (List.mem_cons_of_mem _ hk')]

/-- **Each identity comes out once**, in order of first appearance. -/
theorem map_identity_mergeDuplicates (l : List Sighting) :
    (mergeDuplicates c l).map identity = identities l := by
  refine map_filterMap_of_forall fun k hk => ?_
  obtain ⟨m, hm, hid, -⟩ := exists_merged c hk
  exact ⟨m, hm, hid⟩

/-- A merged sighting lists those who reported its identity, and is fresh if all were. -/
theorem of_mem_mergeDuplicates {l : List Sighting} {m : Sighting} (h : m ∈ mergeDuplicates c l) :
    m.identity ∈ identities l ∧ m.reportedBy = (reportersOf l m.identity).eraseDups ∧
      ∃ s ∈ l, m.isHistorical = s.isHistorical := by
  obtain ⟨k, hk, hm⟩ := List.mem_filterMap.mp h
  obtain ⟨m', hm', hid, hrep, hhist⟩ := exists_merged c hk
  obtain rfl : m' = m := Option.some.inj (hm'.symm.trans hm)
  subst hid
  exact ⟨hk, hrep, hhist⟩

/-- **The price of a merged sighting**, with its currency, is that of a sighting of its
identity. -/
theorem price_of_mem_mergeDuplicates {l : List Sighting} {m : Sighting}
    (h : m ∈ mergeDuplicates c l) {p : Float} (hp : m.price = some p) :
    ∃ s ∈ l, s.identity = m.identity ∧ s.price = some p ∧ s.currency = m.currency := by
  obtain ⟨k, hk, hm⟩ := List.mem_filterMap.mp h
  obtain ⟨base, others, hsort, hbase, hgroup⟩ := mergeGroup?_eq_some c (groupOf_ne_nil hk)
  obtain rfl := Option.some.inj (hgroup.symm.trans hm)
  have hfilled : (others.foldl fill base).price = some p := hp
  obtain ⟨s, hs, hprice, hcurrency⟩ := foldl_fill_price hfilled
  have hs : s ∈ groupOf l k := by
    rw [← hsort, List.mem_mergeSort] at hs
    exact hs
  obtain ⟨hl, hid⟩ := mem_groupOf.mp hs
  refine ⟨s, hl, ?_, hprice, hcurrency⟩
  rw [hid]
  exact ((foldl_fill_identity base others).trans (mem_groupOf.mp hbase).2).symm

/-! ## Precedence -/

/-- What precedence compares, in the order in which it does. -/
def precedence (s : Sighting) : Natᵒᵈ ×ₗ Nat ×ₗ Instantᵒᵈ :=
  toLex (OrderDual.toDual s.populated, toLex (c.priorityOf s.standing,
    OrderDual.toDual s.observedAt))

theorem precedes_goesBy : Sorting.GoesBy (precedes c) (precedence c) := fun a b =>
  Sorting.ite_lex_iff (a := OrderDual.toDual a.populated) (b := OrderDual.toDual b.populated)
    (Sorting.ite_lex_iff (a := c.priorityOf a.standing) (b := c.priorityOf b.standing)
      (x := OrderDual.toDual a.observedAt) (y := OrderDual.toDual b.observedAt)
      decide_eq_true_iff)

theorem precedence_eq_iff (a b : Sighting) :
    precedence c a = precedence c b ↔ a.populated = b.populated ∧
      c.priorityOf a.standing = c.priorityOf b.standing ∧ a.observedAt = b.observedAt := by
  simp [precedence]

/-- **No two duplicates are on a par**: those of one identity differ in completeness, in
authority or in the time of observation. -/
def Distinguished (l : List Sighting) : Prop :=
  l.Pairwise fun a b => a.identity = b.identity → precedence c a ≠ precedence c b

variable {c}

theorem Distinguished.eq_of {l : List Sighting} (h : Distinguished c l) {a b : Sighting}
    (ha : a ∈ l) (hb : b ∈ l) (hid : a.identity = b.identity)
    (hpar : precedence c a = precedence c b) : a = b := by
  by_contra hne
  have : Std.Symm fun a b : Sighting =>
      a.identity = b.identity → precedence c a ≠ precedence c b :=
    ⟨fun x y hxy hid he => hxy hid.symm he.symm⟩
  exact h.forall ha hb hne hid hpar

/-! ## The order of arrival -/

/-- A sighting without the list of those who reported it. -/
def unattributed (s : Sighting) : Sighting := { s with reportedBy := [] }

theorem groupOf_perm {l l' : List Sighting} (h : l.Perm l') (k : Identity) :
    (groupOf l k).Perm (groupOf l' k) := h.filter _

theorem reportersOf_perm {l l' : List Sighting} (h : l.Perm l') (k : Identity) :
    (reportersOf l k).Perm (reportersOf l' k) :=
  (groupOf_perm h k).flatMap_right _

theorem identities_perm {l l' : List Sighting} (h : l.Perm l') :
    (identities l).Perm (identities l') := eraseDups_perm (h.map identity)

theorem groupOf_sort_of_perm {l l' : List Sighting} (h : l.Perm l') (hd : Distinguished c l)
    (k : Identity) :
    (groupOf l k).mergeSort (precedes c) = (groupOf l' k).mergeSort (precedes c) := by
  refine (precedes_goesBy c).mergeSort_eq_of_perm ?_ (groupOf_perm h k)
  intro a ha b hb hpar
  obtain ⟨hal, hak⟩ := mem_groupOf.mp ha
  obtain ⟨hbl, hbk⟩ := mem_groupOf.mp hb
  exact hd.eq_of hal hbl (hak.trans hbk.symm) hpar

/-- **A group is merged alike whatever the order of arrival**, but for the order in which its
sources are listed. -/
theorem merged_of_perm {l l' : List Sighting} (h : l.Perm l') (hd : Distinguished c l)
    (k : Identity) :
    (mergeGroup? c (groupOf l k)).map unattributed =
      (mergeGroup? c (groupOf l' k)).map unattributed := by
  have hany := (groupOf_perm h k).any_eq (f := (·.isAuthorized))
  rw [mergeGroup?, mergeGroup?, groupOf_sort_of_perm h hd k]
  cases (groupOf l' k).mergeSort (precedes c) with
  | nil => rfl
  | cons base others => simp only [Option.map_some, unattributed, hany]

/-- **What is merged is the same offers** whatever the order of arrival. -/
theorem mergeDuplicates_perm {l l' : List Sighting} (h : l.Perm l') (hd : Distinguished c l) :
    ((mergeDuplicates c l).map unattributed).Perm ((mergeDuplicates c l').map unattributed) := by
  rw [mergeDuplicates, mergeDuplicates, List.map_filterMap, List.map_filterMap]
  have hcongr : (fun k => (mergeGroup? c (groupOf l k)).map unattributed) =
      fun k => (mergeGroup? c (groupOf l' k)).map unattributed :=
    funext fun k => merged_of_perm h hd k
  rw [hcongr]
  exact (identities_perm h).filterMap _

end PartSourcing.Sighting
