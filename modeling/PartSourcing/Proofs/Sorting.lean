import Mathlib.Data.Prod.Lex

/-!
# Sorting by a key

A rule that compares elements by a key (`GoesBy`) sorts them in the order of their keys.  **Where
the key tells the elements of a list apart, there is one sorted arrangement of it**, so what a sort
returns depends on the elements alone, and not on the order in which they came.  The rules of this
library compare field by field, and then the key is a tuple in its lexicographic order
(`ite_lex_iff`, one step of it).

Where the key does not tell elements apart, a stable sort leaves them in the order in which they
came.  That is said without a sort by `StablySorted`, and there is just one list of which it is true
(`StablySorted.unique`).
-/

namespace PartSourcing.Sorting

/-- One step of comparing field by field. -/
theorem ite_lex_iff {α β : Type} [LinearOrder α] [LE β] {a b : α} {rest : Bool} {x y : β}
    (h : rest = true ↔ x ≤ y) :
    (if a ≠ b then decide (a < b) else rest) = true ↔ toLex (a, x) ≤ toLex (b, y) := by
  rw [Prod.Lex.toLex_le_toLex]
  by_cases hab : a = b
  · simp [hab, h]
  · simp [hab]

variable {α κ : Type} [LinearOrder κ] {le : α → α → Bool} {key : α → κ}

/-- **A rule that compares by a key.** -/
def GoesBy (le : α → α → Bool) (key : α → κ) : Prop := ∀ a b, le a b = true ↔ key a ≤ key b

namespace GoesBy

theorem trans (h : GoesBy le key) (a b c : α) (hab : le a b = true) (hbc : le b c = true) :
    le a c = true :=
  (h a c).mpr (le_trans ((h a b).mp hab) ((h b c).mp hbc))

theorem total (h : GoesBy le key) (a b : α) : (le a b || le b a) = true := by
  rw [Bool.or_eq_true, h a b, h b a]
  exact le_total _ _

theorem sorted (h : GoesBy le key) (l : List α) :
    (l.mergeSort le).Pairwise fun a b => key a ≤ key b :=
  (List.pairwise_mergeSort h.trans h.total l).imp fun {a b} hab => (h a b).mp hab

variable {l l' : List α}

/-- A sort does nothing to an arrangement of a sorted list but sort it, where the key tells the
elements apart. -/
theorem mergeSort_eq_of_sorted (h : GoesBy le key)
    (hkey : ∀ a ∈ l, ∀ b ∈ l, key a = key b → a = b) (hp : l.Perm l')
    (hs : l'.Pairwise fun a b => key a ≤ key b) : l.mergeSort le = l' := by
  refine List.Perm.eq_of_pairwise ?_ (h.sorted l) hs ((List.mergeSort_perm l le).trans hp)
  intro a b ha hb hab hba
  exact hkey a (List.mem_mergeSort.mp ha) b (hp.mem_iff.mpr hb) (le_antisymm hab hba)

/-- **The order of arrival is erased** by a sort whose key tells the elements apart. -/
theorem mergeSort_eq_of_perm (h : GoesBy le key)
    (hkey : ∀ a ∈ l, ∀ b ∈ l, key a = key b → a = b) (hp : l.Perm l') :
    l.mergeSort le = l'.mergeSort le :=
  h.mergeSort_eq_of_sorted hkey (hp.trans (List.mergeSort_perm l' le).symm) (h.sorted l')

/-- **What has one key keeps its order**, whatever it is sorted with. -/
theorem filter_mergeSort (h : GoesBy le key) (k : κ) (l : List α) :
    (l.mergeSort le).filter (fun a => key a = k) = l.filter fun a => key a = k := by
  have hkey {a : α} (ha : a ∈ l.filter fun a => key a = k) : key a = k :=
    of_decide_eq_true (List.mem_filter.mp ha).2
  -- elements of one key are sorted as they stand, and a stable sort leaves them so
  have hsorted : (l.filter fun a => key a = k).Pairwise fun a b => le a b = true :=
    List.pairwise_of_forall_mem_list fun a ha b hb =>
      (h a b).mpr (le_of_eq ((hkey ha).trans (hkey hb).symm))
  have hsub := (List.sublist_mergeSort h.trans h.total hsorted List.filter_sublist).filter
    fun a => key a = k
  simp only [List.filter_filter, Bool.and_self] at hsub
  have hperm := (List.mergeSort_perm l le).filter fun a => key a = k
  exact (hsub.eq_of_length hperm.length_eq.symm).symm

end GoesBy

/-! ## Stable sorts -/

/-- **The elements of a list in the order of their keys**, those of one key in the order in which
they came. -/
structure StablySorted (key : α → κ) (l sorted : List α) : Prop where
  perm : sorted.Perm l
  ordered : sorted.Pairwise fun a b => key a ≤ key b
  stable : ∀ k, sorted.filter (fun a => key a = k) = l.filter fun a => key a = k

theorem GoesBy.stablySorted_mergeSort (h : GoesBy le key) (l : List α) :
    StablySorted key l (l.mergeSort le) where
  perm := List.mergeSort_perm l le
  ordered := h.sorted l
  stable k := h.filter_mergeSort k l

/-- Whether an arrangement is stable shows in the keys that there are. -/
theorem StablySorted.of_keys {l s : List α} (hperm : s.Perm l)
    (hordered : s.Pairwise fun a b => key a ≤ key b)
    (hstable : ∀ a ∈ l, (s.filter fun b => key b = key a) = l.filter fun b => key b = key a) :
    StablySorted key l s where
  perm := hperm
  ordered := hordered
  stable k := by
    by_cases hk : ∃ a ∈ l, key a = k
    · obtain ⟨a, ha, rfl⟩ := hk
      exact hstable a ha
    · have hnone (b : α) (hb : b ∈ l) : ¬decide (key b = k) = true := by
        rw [decide_eq_true_iff]
        exact fun hkey => hk ⟨b, hb, hkey⟩
      rw [List.filter_eq_nil_iff.mpr hnone,
        List.filter_eq_nil_iff.mpr fun b hb => hnone b (hperm.mem_iff.mp hb)]
/-- **The first that is found in sorted order** has the least key of all that would be found, and is
the first of that key in the list. -/
theorem StablySorted.of_find?_eq_some {key : α → κ} {l s : List α} (h : StablySorted key l s)
    {p : α → Bool} {a : α} (ha : s.find? p = some a) :
    (∀ b ∈ l, p b = true → key a ≤ key b) ∧
      l.find? (fun b => decide (key b = key a) && p b) = some a := by
  obtain ⟨hp, before, after, hs, hbefore⟩ := List.find?_eq_some_iff_append.mp ha
  constructor
  · intro b hb hpb
    have hmem := h.perm.mem_iff.mpr hb
    rw [hs, List.mem_append, List.mem_cons] at hmem
    rcases hmem with hmem | rfl | hmem
    · exact absurd hpb (by simpa using hbefore b hmem)
    · exact le_rfl
    · have hordered := h.ordered
      rw [hs] at hordered
      exact (List.pairwise_cons.mp (List.pairwise_append.mp hordered).2.1).1 b hmem
  · -- the elements of one key stand in the same order on both sides
    have hfind (t : List α) : t.find? (fun b => decide (key b = key a) && p b) =
        (t.filter fun b => key b = key a).find? p := by
      simp [List.find?_filter]
    rw [hfind, ← h.stable, ← hfind, List.find?_eq_some_iff_append]
    refine ⟨by simp [hp], before, after, hs, fun b hb => ?_⟩
    have hnot : p b = false := by simpa using hbefore b hb
    rw [hnot, Bool.and_false, Bool.not_false]

/-- **There is only one stably sorted arrangement** of a list. -/
theorem StablySorted.unique {key : α → κ} {l s t : List α} (hs : StablySorted key l s)
    (ht : StablySorted key l t) : s = t := by
  suffices h : ∀ s t : List α, s.Perm t → s.Pairwise (fun a b => key a ≤ key b) →
      t.Pairwise (fun a b => key a ≤ key b) →
      (∀ k, s.filter (fun a => key a = k) = t.filter fun a => key a = k) → s = t from
    h s t (hs.perm.trans ht.perm.symm) hs.ordered ht.ordered
      fun k => (hs.stable k).trans (ht.stable k).symm
  clear hs ht s t
  intro s
  induction s with
  | nil =>
    intro t hp _ _ _
    exact hp.nil_eq
  | cons a s ih =>
    intro t hp hs ht hfilter
    cases t with
    | nil => exact absurd hp.eq_nil (List.cons_ne_nil a s)
    | cons b t =>
      -- each head has a least key, so both have the same, and are the first of that key
      have hab : key a ≤ key b := by
        rcases List.mem_cons.mp (hp.mem_iff.mpr List.mem_cons_self) with h | h
        · rw [h]
        · exact (List.pairwise_cons.mp hs).1 b h
      have hba : key b ≤ key a := by
        rcases List.mem_cons.mp (hp.mem_iff.mp List.mem_cons_self) with h | h
        · rw [h]
        · exact (List.pairwise_cons.mp ht).1 a h
      have hkey : key b = key a := le_antisymm hba hab
      have hhead := hfilter (key a)
      rw [List.filter_cons_of_pos (by simp), List.filter_cons_of_pos (by simpa using hkey)] at hhead
      obtain rfl := (List.cons.inj hhead).1
      refine congrArg (a :: ·) (ih t hp.cons_inv hs.of_cons ht.of_cons fun k => ?_)
      have hk := hfilter k
      by_cases hak : key a = k
      · rw [List.filter_cons_of_pos (by simpa using hak),
          List.filter_cons_of_pos (by simpa using hak)] at hk
        exact (List.cons.inj hk).2
      · rw [List.filter_cons_of_neg (by simpa using hak),
          List.filter_cons_of_neg (by simpa using hak)] at hk
        exact hk

end PartSourcing.Sorting
