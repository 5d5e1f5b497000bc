import PartSourcing.Text.Blank
import PartSourcing.Text.Case

/-!
# Lower case, character by character

Lower case looks at one character at a time, but for the capital sigma.  So **where there is no
sigma, the lower case of a text is that of its characters in turn** (`lowerChars_eq_flatMap`), and a
sigma never passes unnoticed: it is a small one afterwards (`sigma_of_mem`).

A blank is its own lower case.
-/

namespace PartSourcing.Text

/-- Where there is no sigma, every character stands for itself. -/
theorem lowerFrom_eq_flatMap {s : List Char} (h : 'Σ' ∉ s) (before : List Char) :
    lowerFrom before s = s.flatMap lowerChar := by
  induction s generalizing before with
  | nil => rfl
  | cons c s ih =>
    rw [List.mem_cons, not_or] at h
    rw [lowerFrom, if_neg (Ne.symm h.1), ih h.2, List.flatMap_cons]

theorem lowerChars_eq_flatMap {s : List Char} (h : 'Σ' ∉ s) :
    lowerChars s = s.flatMap lowerChar := lowerFrom_eq_flatMap h []

/-- What stays as it is in every character does so as a whole. -/
theorem lowerChars_eq_self {s : List Char} (h : ∀ c ∈ s, lowerChar c = [c] ∧ c ≠ 'Σ') :
    lowerChars s = s := by
  rw [lowerChars_eq_flatMap fun hmem => (h _ hmem).2 rfl]
  induction s with
  | nil => rfl
  | cons c s ih =>
    rw [List.forall_mem_cons] at h
    rw [List.flatMap_cons, h.1.1, ih h.2]
    rfl

/-- **A sigma is a small one in lower case**, a final one or not. -/
theorem sigma_of_mem {s : List Char} (h : 'Σ' ∈ s) :
    'ς' ∈ lowerChars s ∨ 'σ' ∈ lowerChars s := by
  unfold lowerChars
  generalize ([] : List Char) = before
  induction s generalizing before with
  | nil => exact absurd h List.not_mem_nil
  | cons c s ih =>
    rw [lowerFrom, List.mem_append, List.mem_append]
    rcases List.mem_cons.mp h with rfl | hs
    · rw [if_pos rfl]
      split
      · exact .inl (.inl (List.mem_singleton.mpr rfl))
      · exact .inr (.inl (List.mem_singleton.mpr rfl))
    · exact (ih hs (c :: before)).imp .inr .inr

/-! ## Blanks -/

/-- The code points of the blanks. -/
def blankPoints : List Nat :=
  [0x09, 0x0A, 0x0B, 0x0C, 0x0D, 0x20, 0x85, 0xA0, 0x1680, 0x2000, 0x2001, 0x2002, 0x2003, 0x2004,
    0x2005, 0x2006, 0x2007, 0x2008, 0x2009, 0x200A, 0x2028, 0x2029, 0x202F, 0x205F, 0x3000]

theorem mem_blankPoints {c : Char} (h : isBlank c = true) : c.toNat ∈ blankPoints := by
  unfold isBlank at h
  dsimp only at h
  split at h
  all_goals
    simp only [Bool.or_eq_true, Bool.and_eq_true, beq_iff_eq, decide_eq_true_eq] at h
    simp only [blankPoints, List.mem_cons, List.not_mem_nil, or_false]
    omega

/-- **A blank is its own lower case.** -/
theorem lowerChar_of_isBlank {c : Char} (h : isBlank c = true) : lowerChar c = [c] := by
  have key : ∀ n ∈ blankPoints, lowerChar (Char.ofNat n) = [Char.ofNat n] := by decide +kernel
  have hc := key c.toNat (mem_blankPoints h)
  rwa [Char.ofNat_toNat] at hc

theorem ne_sigma_of_isBlank {c : Char} (h : isBlank c = true) : c ≠ 'Σ' := by
  rintro rfl
  exact absurd h (by decide)

/-! ## Trimming -/

/-- Trimming in front goes as far as a character that is no blank. -/
theorem dropLeading_append {t : List Char} (h : ∀ c ∈ t.head?, isBlank c = false)
    (s : List Char) : dropLeading (s ++ t) = dropLeading s ++ t := by
  induction s with
  | nil =>
    cases t with
    | nil => rfl
    | cons c t =>
      exact List.dropWhile_cons_of_neg (Bool.eq_false_iff.mp (h c rfl))
  | cons c s ih =>
    unfold dropLeading at ih ⊢
    by_cases hc : isBlank c = true
    · rw [List.cons_append, List.dropWhile_cons_of_pos hc, List.dropWhile_cons_of_pos hc, ih]
    · rw [List.cons_append, List.dropWhile_cons_of_neg hc, List.dropWhile_cons_of_neg hc,
        List.cons_append]

/-- Trimming at the end reaches what is in front if nothing else is left. -/
theorem dropTrailing_append_of_eq_nil {t : List Char} (h : dropTrailing t = []) (s : List Char) :
    dropTrailing (s ++ t) = dropTrailing s := by
  unfold dropTrailing at h ⊢
  rw [List.reverse_append, List.dropWhile_append, List.reverse_eq_nil_iff.mp h]
  rfl

/-- Otherwise it leaves what is in front alone. -/
theorem dropTrailing_append_of_ne_nil {t : List Char} (h : dropTrailing t ≠ []) (s : List Char) :
    dropTrailing (s ++ t) = s ++ dropTrailing t := by
  unfold dropTrailing at h ⊢
  have hne : ¬(t.reverse.dropWhile isBlank).isEmpty = true := fun hnil =>
    h (List.reverse_eq_nil_iff.mpr (List.isEmpty_iff.mp hnil))
  rw [List.reverse_append, List.dropWhile_append, if_neg hne, List.reverse_append,
    List.reverse_reverse]

/-- Nothing is trimmed where there is no blank. -/
theorem dropTrailing_eq_self {s : List Char} (h : ∀ c ∈ s, isBlank c = false) :
    dropTrailing s = s := by
  unfold dropTrailing
  cases hs : s.reverse with
  | nil => exact (List.reverse_eq_nil_iff.mp hs).symm
  | cons c cs =>
    have hc : isBlank c = false := h c (List.mem_reverse.mp (hs ▸ List.mem_cons_self))
    rw [List.dropWhile_cons_of_neg (Bool.not_eq_true _ ▸ hc), ← hs, List.reverse_reverse]

theorem dropTrailing_append_of_no_blank {s : List Char} (h : ∀ c ∈ s, isBlank c = false)
    (t : List Char) : dropTrailing (s ++ t) = s ++ dropTrailing t := by
  by_cases ht : dropTrailing t = []
  · rw [dropTrailing_append_of_eq_nil ht, dropTrailing_eq_self h, ht, List.append_nil]
  · exact dropTrailing_append_of_ne_nil ht s

end PartSourcing.Text
