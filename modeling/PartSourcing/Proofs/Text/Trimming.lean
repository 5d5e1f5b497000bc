import Mathlib.Data.List.DropRight
import PartSourcing.Text.Blank

/-!
# Trimmed texts

Trimming takes blanks off both ends and nothing else (`exists_blanks_around`), so it leaves
something of every text that is not all blank.  **What is left is trimmed** (`trimmed_trim`): it has
no blank at either end, and trimming it again changes nothing.
-/

namespace PartSourcing.Text

theorem isAllBlank_iff {s : String} : isAllBlank s = true ↔ ∀ c ∈ s.toList, isBlank c = true :=
  List.all_eq_true

theorem isAllBlank_eq_false_iff {s : String} :
    isAllBlank s = false ↔ ∃ c ∈ s.toList, isBlank c = false := by
  rw [isAllBlank, List.all_eq_false]
  simp only [Bool.not_eq_true]

/-- **Only blanks are trimmed.** -/
theorem exists_blanks_around (s : List Char) :
    ∃ front behind, (∀ c ∈ front, isBlank c = true) ∧ (∀ c ∈ behind, isBlank c = true) ∧
      s = front ++ trimChars s ++ behind := by
  refine ⟨s.takeWhile isBlank, (dropLeading s).rtakeWhile isBlank,
    fun c hc => List.mem_takeWhile_imp hc, fun c hc => List.mem_rtakeWhile_imp hc, ?_⟩
  have hbehind : trimChars s ++ (dropLeading s).rtakeWhile isBlank = dropLeading s :=
    List.rdropWhile_append_rtakeWhile ..
  rw [List.append_assoc, hbehind]
  exact List.takeWhile_append_dropWhile.symm

/-- What is trimmed starts with no blank. -/
theorem isBlank_head_trimChars {s : List Char} {c : Char} (h : (trimChars s).head? = some c) :
    isBlank c = false := by
  obtain ⟨t, ht⟩ : trimChars s <+: dropLeading s := List.rdropWhile_prefix isBlank _
  refine head?_dropLeading s c ?_
  rw [← ht, List.head?_append, h]
  rfl

/-- What is trimmed ends with no blank. -/
theorem isBlank_getLast_trimChars {s : List Char} (h : trimChars s ≠ []) :
    isBlank ((trimChars s).getLast h) = false :=
  (Bool.not_eq_true _).mp (List.rdropWhile_last_not isBlank (dropLeading s) h)

theorem isBlank_getLast?_trimChars {s : List Char} {c : Char}
    (h : (trimChars s).getLast? = some c) : isBlank c = false := by
  obtain ⟨hne, rfl⟩ := List.mem_getLast?_eq_getLast h
  exact isBlank_getLast_trimChars hne

/-- Where there is no blank at either end, nothing is trimmed. -/
theorem trimChars_eq_self {s : List Char} (hhead : ∀ c, s.head? = some c → isBlank c = false)
    (hlast : ∀ hs : s ≠ [], isBlank (s.getLast hs) = false) : trimChars s = s := by
  have hfront : dropLeading s = s := by
    cases s with
    | nil => rfl
    | cons c s => exact List.dropWhile_cons_of_neg (Bool.eq_false_iff.mp (hhead c rfl))
  rw [trimChars, hfront]
  exact List.rdropWhile_eq_self_iff.mpr fun hs => Bool.eq_false_iff.mp (hlast hs)

/-- **Trimming twice is trimming once.** -/
theorem trimChars_trimChars (s : List Char) : trimChars (trimChars s) = trimChars s :=
  trimChars_eq_self (fun _ => isBlank_head_trimChars) fun _ => isBlank_getLast_trimChars _

theorem trimChars_eq_nil_iff {s : List Char} :
    trimChars s = [] ↔ ∀ c ∈ s, isBlank c = true := by
  constructor
  · intro h
    obtain ⟨front, behind, hfront, hbehind, hs⟩ := exists_blanks_around s
    rw [hs, h, List.append_nil]
    exact List.forall_mem_append.mpr ⟨hfront, hbehind⟩
  · intro h
    have hnil : dropLeading s = [] := List.dropWhile_eq_nil_iff.mpr h
    rw [trimChars, hnil]
    rfl

/-! ## Trimmed texts -/

/-- **A trimmed text**: there is something in it besides blanks, and no blank at either end. -/
structure Trimmed (t : String) : Prop where
  trim_eq : trim t = t
  notBlank : isAllBlank t = false

theorem isAllBlank_trim (s : String) : isAllBlank (trim s) = isAllBlank s := by
  rw [Bool.eq_iff_iff, isAllBlank_iff, isAllBlank_iff, toList_trim, ← trimChars_eq_nil_iff,
    ← trimChars_eq_nil_iff, trimChars_trimChars]

/-- **Trimming makes a trimmed text** of every one that is not blank. -/
theorem trimmed_trim {s : String} (h : isAllBlank s = false) : Trimmed (trim s) where
  trim_eq := by rw [← String.toList_inj, toList_trim, toList_trim, trimChars_trimChars]
  notBlank := by rw [isAllBlank_trim, h]

theorem trim_eq_empty_iff {s : String} : trim s = "" ↔ isAllBlank s = true := by
  rw [isAllBlank_iff, ← trimChars_eq_nil_iff, ← toList_trim, String.toList_eq_nil_iff]

/-- A text that is not blank is given as it is, trimmed. -/
theorem nonBlank?_eq_some_iff {s t : String} :
    nonBlank? s = some t ↔ isAllBlank s = false ∧ trim s = t := by
  have hempty : (trim s).isEmpty = true ↔ isAllBlank s = true := by
    rw [String.isEmpty_iff, trim_eq_empty_iff]
  unfold nonBlank?
  dsimp only
  rw [Bool.eq_false_iff]
  split
  · rename_i h
    exact ⟨nofun, fun h' => absurd (hempty.mp h) h'.1⟩
  · rename_i h
    rw [Option.some_inj, and_iff_right fun h' => h (hempty.mpr h')]

/-- **What is given is trimmed.** -/
theorem trimmed_of_nonBlank? {s t : String} (h : nonBlank? s = some t) : Trimmed t := by
  obtain ⟨hblank, rfl⟩ := nonBlank?_eq_some_iff.mp h
  exact trimmed_trim hblank

/-- A trimmed text is given as it is. -/
theorem Trimmed.nonBlank?_eq {t : String} (h : Trimmed t) : nonBlank? t = some t :=
  nonBlank?_eq_some_iff.mpr ⟨h.notBlank, h.trim_eq⟩

end PartSourcing.Text
