import Mathlib.Data.List.Nodup

/-!
# First appearances

The elements of a list, each once, in the order in which they first appear.  `IsFirsts` says so
of two lists without saying how the second is found, and `isFirsts_eraseDups` that dropping
repetitions finds it.
-/

namespace PartSourcing

/-- **The elements of one list in order of first appearance**, each once. -/
def IsFirsts {α : Type} [DecidableEq α] (l firsts : List α) : Prop :=
  (∀ a, a ∈ firsts ↔ a ∈ l) ∧ firsts.Pairwise fun a b => l.idxOf a < l.idxOf b

namespace IsFirsts

variable {α : Type} [DecidableEq α]

theorem nodup {l firsts : List α} (h : IsFirsts l firsts) : firsts.Nodup :=
  h.2.imp fun {a b} hlt he => by
    subst he
    exact Nat.lt_irrefl _ hlt

/-- **There is one list of first appearances.** -/
theorem unique {l firsts firsts' : List α} (h : IsFirsts l firsts) (h' : IsFirsts l firsts') :
    firsts = firsts' := by
  have hperm : firsts.Perm firsts' := by
    rw [List.perm_ext_iff_of_nodup h.nodup h'.nodup]
    exact fun a => (h.1 a).trans (h'.1 a).symm
  exact hperm.eq_of_pairwise (fun _ _ _ _ hab hba => absurd hba (Nat.lt_asymm hab)) h.2 h'.2

end IsFirsts

section EraseDups

variable {α : Type} [DecidableEq α]

/-- Dropping other elements keeps the order of first appearances. -/
theorem idxOf_lt_of_filter (p : α → Bool) {l : List α} {a b : α} (ha : p a = true)
    (hb : p b = true) (h : (l.filter p).idxOf a < (l.filter p).idxOf b) :
    l.idxOf a < l.idxOf b := by
  induction l with
  | nil => exact absurd h (Nat.lt_irrefl _)
  | cons c l ih =>
    by_cases hc : p c = true
    · rw [List.filter_cons_of_pos hc] at h
      by_cases hca : c = a
      · subst hca
        by_cases hcb : c = b
        · exact absurd h (hcb ▸ Nat.lt_irrefl _)
        · rw [List.idxOf_cons_self, List.idxOf_cons_ne _ hcb]
          exact Nat.succ_pos _
      · by_cases hcb : c = b
        · rw [hcb, List.idxOf_cons_self] at h
          exact absurd h (Nat.not_lt_zero _)
        · rw [List.idxOf_cons_ne _ hca, List.idxOf_cons_ne _ hcb] at h ⊢
          exact Nat.succ_lt_succ (ih (Nat.lt_of_succ_lt_succ h))
    · have hca : c ≠ a := fun he => hc (he ▸ ha)
      have hcb : c ≠ b := fun he => hc (he ▸ hb)
      rw [List.filter_cons_of_neg hc] at h
      rw [List.idxOf_cons_ne _ hca, List.idxOf_cons_ne _ hcb]
      exact Nat.succ_lt_succ (ih h)

/-- **Dropping repetitions leaves the first appearances.** -/
theorem isFirsts_eraseDups (l : List α) : IsFirsts l l.eraseDups := by
  refine ⟨fun a => List.mem_eraseDups, ?_⟩
  induction hn : l.length using Nat.strongRecOn generalizing l with
  | ind n ih =>
    cases l with
    | nil => exact List.Pairwise.nil
    | cons a l =>
      rw [List.eraseDups_cons]
      refine List.Pairwise.cons ?_ ?_
      · intro b hb
        have hba : a ≠ b := by
          rintro rfl
          simp at hb
        rw [List.idxOf_cons_self, List.idxOf_cons_ne _ hba]
        exact Nat.succ_pos _
      · -- The recursion drops the head first, so the order comes from the filtered tail.
        have hlen : (l.filter fun b => !b == a).length < n := by
          rw [← hn]
          exact Nat.lt_succ_of_le (List.length_filter_le _ l)
        refine (ih _ hlen (l.filter fun b => !b == a) rfl).imp_of_mem ?_
        intro b c hb hc hlt
        have hb' := (List.mem_filter.mp (List.mem_eraseDups.mp hb)).2
        have hc' := (List.mem_filter.mp (List.mem_eraseDups.mp hc)).2
        have hba : a ≠ b := by
          rintro rfl
          simp at hb'
        have hca : a ≠ c := by
          rintro rfl
          simp at hc'
        rw [List.idxOf_cons_ne _ hba, List.idxOf_cons_ne _ hca]
        exact Nat.succ_lt_succ (idxOf_lt_of_filter _ hb' hc' hlt)

theorem nodup_eraseDups (l : List α) : l.eraseDups.Nodup := (isFirsts_eraseDups l).nodup

theorem eraseDups_perm {l l' : List α} (h : l.Perm l') : l.eraseDups.Perm l'.eraseDups := by
  rw [List.perm_ext_iff_of_nodup (nodup_eraseDups l) (nodup_eraseDups l')]
  intro a
  rw [List.mem_eraseDups, List.mem_eraseDups, h.mem_iff]

end EraseDups

end PartSourcing
