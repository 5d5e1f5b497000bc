import Mathlib.Data.Finset.Card
import Mathlib.Data.List.Destutter

/-!
# Runs

A run of a list is a stretch of equal elements that cannot be made longer, and `runs` has the
element of each run, in order.  Whoever counts an element unless it equals the one before counts
runs, and one more element makes at most one more (`runs_concat`).

There are at least as many runs as distinct elements (`card_toFinset_le_length_runs`), and just
as many where nothing comes back after something else: **counting runs counts distinct elements
just on uninterrupted lists** (`length_runs_eq_card_iff`).
-/

namespace PartSourcing.Runs

variable {α : Type}

/-- **Nothing comes back after something else.** -/
def Uninterrupted (l : List α) : Prop := ∀ a b, [a, b, a].Sublist l → a = b

theorem Uninterrupted.sublist {l l' : List α} (h : Uninterrupted l') (hs : l.Sublist l') :
    Uninterrupted l := fun a b hab => h a b (hab.trans hs)

/-- Where neighbours differ and nothing comes back after something else, nothing comes back. -/
theorem Uninterrupted.nodup {l : List α} (h : Uninterrupted l) (hc : l.IsChain (· ≠ ·)) :
    l.Nodup := by
  induction l with
  | nil => exact List.nodup_nil
  | cons a l ih =>
    refine List.nodup_cons.mpr ⟨fun ha => ?_, ih (h.sublist (List.sublist_cons_self a l)) hc.tail⟩
    cases l with
    | nil => exact List.not_mem_nil ha
    | cons b l =>
      have hab : a ≠ b := List.rel_of_isChain_cons_cons hc
      rcases List.mem_cons.mp ha with hb | hl
      · exact hab hb
      · exact hab (h a b (((List.singleton_sublist.mpr hl).cons_cons b).cons_cons a))

variable [DecidableEq α]

/-- The element of each run. -/
def runs (l : List α) : List α := l.destutter (· ≠ ·)

theorem runs_sublist (l : List α) : (runs l).Sublist l := List.destutter_sublist _ l

theorem isChain_runs (l : List α) : (runs l).IsChain (· ≠ ·) := List.isChain_destutter _ l

/-! ## One more element -/

theorem destutter'_concat (a b : α) (l : List α) :
    (l ++ [a]).destutter' (· ≠ ·) b =
      if (l.getLast?).getD b = a then l.destutter' (· ≠ ·) b
      else l.destutter' (· ≠ ·) b ++ [a] := by
  induction l generalizing b with
  | nil =>
    by_cases hba : b = a
    · simp [hba]
    · simp [hba]
  | cons c l ih =>
    have hlast : ((c :: l).getLast?).getD b = (l.getLast?).getD c := by
      rw [List.getLast?_cons, Option.getD_some]
    rw [hlast, List.cons_append]
    by_cases hbc : b = c
    · have hsame : ¬b ≠ c := not_not.mpr hbc
      rw [List.destutter'_cons_neg _ hsame, List.destutter'_cons_neg _ hsame, hbc, ih]
    · rw [List.destutter'_cons_pos _ hbc, List.destutter'_cons_pos _ hbc, ih]
      split <;> rfl

/-- **One more element** makes one more run, unless it equals the last one. -/
theorem runs_concat (l : List α) (a : α) :
    runs (l ++ [a]) = if l.getLast? = some a then runs l else runs l ++ [a] := by
  cases l with
  | nil => rfl
  | cons b l =>
    have hlast : (b :: l).getLast? = some a ↔ (l.getLast?).getD b = a := by
      rw [List.getLast?_cons, Option.some_inj]
    rw [runs, runs, List.cons_append, List.destutter_cons', List.destutter_cons',
      destutter'_concat, if_congr hlast rfl rfl]

/-! ## Distinct elements -/

theorem mem_destutter'_ne (a b : α) (l : List α) :
    a ∈ l.destutter' (· ≠ ·) b ↔ a ∈ b :: l := by
  induction l generalizing b with
  | nil => rfl
  | cons c l ih =>
    by_cases hbc : b = c
    · rw [List.destutter'_cons_neg _ (not_not.mpr hbc), ih, hbc]
      simp
    · rw [List.destutter'_cons_pos _ hbc, List.mem_cons, ih, List.mem_cons (b := b)]

theorem mem_runs {l : List α} {a : α} : a ∈ runs l ↔ a ∈ l := by
  cases l with
  | nil => rfl
  | cons b l => exact mem_destutter'_ne a b l

theorem toFinset_runs (l : List α) : (runs l).toFinset = l.toFinset := by
  ext a
  rw [List.mem_toFinset, List.mem_toFinset, mem_runs]

/-- **There are no fewer runs than distinct elements.** -/
theorem card_toFinset_le_length_runs (l : List α) : l.toFinset.card ≤ (runs l).length := by
  rw [← toFinset_runs]
  exact List.toFinset_card_le (runs l)

/-- Elements of which no two neighbours are equal come from different runs. -/
theorem sublist_destutter'_ne {b : α} {l m : List α} (hc : m.IsChain (· ≠ ·))
    (hs : m.Sublist (b :: l)) : m.Sublist (l.destutter' (· ≠ ·) b) := by
  induction l generalizing b m with
  | nil => exact hs
  | cons c l ih =>
    by_cases hbc : b = c
    · subst hbc
      rw [List.destutter'_cons_neg _ (not_not.mpr rfl)]
      refine ih hc ?_
      cases hs with
      | cons _ hs => exact hs
      | cons_cons _ hs =>
        -- Of two equal neighbours only one is taken.
        rename_i m
        cases hs with
        | cons _ hs => exact hs.cons_cons b
        | cons_cons _ hs => exact absurd rfl (List.rel_of_isChain_cons_cons hc)
    · rw [List.destutter'_cons_pos _ hbc]
      cases hs with
      | cons _ hs => exact (ih hc hs).cons b
      | cons_cons _ hs => exact (ih hc.tail hs).cons_cons b

theorem sublist_runs {l m : List α} (hc : m.IsChain (· ≠ ·)) (hs : m.Sublist l) :
    m.Sublist (runs l) := by
  cases l with
  | nil => exact hs
  | cons b l => exact sublist_destutter'_ne hc hs

/-- **Runs are as many as distinct elements just where nothing comes back** after something
else. -/
theorem length_runs_eq_card_iff (l : List α) :
    (runs l).length = l.toFinset.card ↔ Uninterrupted l := by
  rw [← toFinset_runs]
  constructor
  · intro hlen a b hab
    by_contra hne
    have hnodup : (runs l).Nodup :=
      Multiset.toFinset_card_eq_card_iff_nodup.mp hlen.symm
    have hc : [a, b, a].IsChain (· ≠ ·) := by simp [hne, Ne.symm hne]
    have htwice := hnodup.sublist (sublist_runs hc hab)
    simp at htwice
  · intro h
    exact (List.toFinset_card_of_nodup
      ((h.sublist (runs_sublist l)).nodup (isChain_runs l))).symm

end PartSourcing.Runs
