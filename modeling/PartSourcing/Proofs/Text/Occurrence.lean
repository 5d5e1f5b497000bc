import Mathlib.Tactic.Common
import PartSourcing.Text.Containment

/-!
# Occurrences in a text

A word that shares no character with a run of others occurs before or after the run, but never
across it (`infix_of_infix_around`).  **Its first occurrence is at the start of a text if it stands
there, and otherwise it is that in what follows** (`replaceFirst_at_start`, `replaceFirst_cons`), so
that a run it cannot start in is passed over (`replaceFirst_append`).

A text is cut at the first occurrence of a character, or at each of them.  Where a text is changed
character by character and the change keeps clear of the character that is cut at (`KeepsClear`),
**cutting comes to the same before and after it**.
-/

namespace PartSourcing.Text

/-- **A word does not reach across a run** of characters that are not in it. -/
theorem infix_of_infix_around {w s run t : List Char} (hrun : run ≠ [])
    (h : ∀ c ∈ run, c ∉ w) (hw : w <:+: s ++ run ++ t) : w <:+: s ∨ w <:+: t := by
  rw [List.append_assoc, List.infix_append_iff_ne_nil] at hw
  rcases hw with hs | hw | ⟨front, back, -, hback, rfl, -, hstart⟩
  · exact .inl hs
  · rcases List.infix_append_iff_ne_nil.mp hw with hr | ht | ⟨front, back, hfront, -, rfl, hr, -⟩
    · cases w with
      | nil => exact .inl (List.nil_infix)
      | cons c w => exact absurd List.mem_cons_self (h c (hr.subset List.mem_cons_self))
    · exact .inr ht
    · obtain ⟨c, hc⟩ := List.exists_mem_of_ne_nil front hfront
      exact absurd (List.mem_append_left back hc) (h c (hr.subset hc))
  · obtain ⟨c, run, rfl⟩ := List.exists_cons_of_ne_nil hrun
    obtain ⟨d, back, rfl⟩ := List.exists_cons_of_ne_nil hback
    obtain ⟨rfl, -⟩ := List.cons_prefix_cons.mp hstart
    exact absurd (List.mem_append_right front List.mem_cons_self) (h d List.mem_cons_self)

theorem afterPrefix?_eq_none {p t : List Char} (h : ¬p <+: t) : afterPrefix? p t = none := by
  cases ha : afterPrefix? p t with
  | none => rfl
  | some r => exact absurd ⟨r, (afterPrefix?_eq_some_iff.mp ha).symm⟩ h

/-- A word that stands at the start is replaced there. -/
theorem replaceFirst_at_start {p : List Char} (hp : p ≠ []) (t r : List Char) :
    replaceFirst (p ++ t) p r = r ++ t := by
  obtain ⟨c, p, rfl⟩ := List.exists_cons_of_ne_nil hp
  have hafter : afterPrefix? (c :: p) (c :: (p ++ t)) = some t := afterPrefix?_eq_some_iff.mpr rfl
  rw [replaceFirst, List.cons_append, splitAt?, hafter]
  rfl

/-- A word that does not stand at the start is replaced in what follows. -/
theorem replaceFirst_cons {p t : List Char} {c : Char} (h : ¬p <+: c :: t) (r : List Char) :
    replaceFirst (c :: t) p r = c :: replaceFirst t p r := by
  rw [replaceFirst, splitAt?, afterPrefix?_eq_none h, replaceFirst]
  cases splitAt? p t with
  | none => rfl
  | some parts => rfl

/-- **A run that a word cannot start in is passed over.** -/
theorem replaceFirst_append {d : Char} {p run : List Char} (h : d ∉ run) (t r : List Char) :
    replaceFirst (run ++ t) (d :: p) r = run ++ replaceFirst t (d :: p) r := by
  induction run with
  | nil => rfl
  | cons c run ih =>
    rw [List.mem_cons, not_or] at h
    have hstart : ¬d :: p <+: c :: (run ++ t) := fun hp => h.1 (List.cons_prefix_cons.mp hp).1
    rw [List.cons_append, replaceFirst_cons hstart, ih h.2, List.cons_append]

/-- Replacing brings in nothing but the replacement. -/
theorem mem_replaceFirst {c : Char} {t p r : List Char} (h : c ∈ replaceFirst t p r) :
    c ∈ t ∨ c ∈ r := by
  unfold replaceFirst at h
  split at h
  · rename_i before after hsplit
    have ht := eq_of_splitAt? hsplit
    rw [List.mem_append, List.mem_append] at h
    rcases h with (hbefore | hr) | hafter
    · exact .inl (ht ▸ List.mem_append_left _ (List.mem_append_left p hbefore))
    · exact .inr hr
    · exact .inl (ht ▸ List.mem_append_right _ hafter)
  · exact .inl h

variable {x : Char}

/-! ## The first occurrence of a character -/

theorem ne_of_not_mem {s : List Char} (h : x ∉ s) : ∀ c ∈ s, (c != x) = true := by
  intro c hc
  rw [bne_iff_ne]
  rintro rfl
  exact h hc

/-- What stands before the first occurrence. -/
theorem takeWhile_ne_append_cons {s : List Char} (h : x ∉ s) (t : List Char) :
    (s ++ x :: t).takeWhile (· != x) = s := by
  rw [List.takeWhile_append_of_pos (ne_of_not_mem h), List.takeWhile_cons_of_neg (by simp),
    List.append_nil]

/-- The first occurrence and what follows it. -/
theorem dropWhile_ne_append_cons {s : List Char} (h : x ∉ s) (t : List Char) :
    (s ++ x :: t).dropWhile (· != x) = x :: t := by
  rw [List.dropWhile_append_of_pos (ne_of_not_mem h), List.dropWhile_cons_of_neg (by simp)]

/-! ## All occurrences of a character -/

theorem pieces_ne_nil (sep : Char → Bool) (s : List Char) : pieces sep s ≠ [] := by
  induction s with
  | nil => simp [pieces]
  | cons c s ih =>
    rw [pieces]
    split
    · simp
    · split <;> simp

theorem pieces_cons_of_neg {sep : Char → Bool} {c : Char} (h : sep c = false) (s : List Char) :
    pieces sep (c :: s) = (pieces sep s).modifyHead (c :: ·) := by
  rw [pieces, if_neg (by simp [h])]
  cases hs : pieces sep s with
  | nil => exact absurd hs (pieces_ne_nil sep s)
  | cons p ps => rfl

theorem pieces_eq_splitOn (x : Char) (s : List Char) : pieces (· == x) s = s.splitOn x := by
  rw [List.splitOn_eq_splitOnP]
  induction s with
  | nil => simp [pieces]
  | cons c s ih =>
    rw [List.splitOnP_cons_eq_if_modifyHead]
    split_ifs with hc
    · rw [pieces, if_pos hc, ih]
    · rw [pieces_cons_of_neg (by simpa using hc), ih]

theorem pieces_append {sep : Char → Bool} {s : List Char} (h : ∀ c ∈ s, sep c = false)
    (t : List Char) : pieces sep (s ++ t) = (pieces sep t).modifyHead (s ++ ·) := by
  induction s with
  | nil => exact (congrFun List.modifyHead_id (pieces sep t)).symm
  | cons c s ih =>
    rw [List.cons_append, pieces_cons_of_neg (h c List.mem_cons_self),
      ih fun d hd => h d (List.mem_cons_of_mem c hd), List.modifyHead_modifyHead]
    rfl

/-- What pieces are joined to has characters of theirs and of what is put between them. -/
theorem mem_intercalate {sep : List Char} {ls : List (List Char)} {c : Char}
    (h : c ∈ sep.intercalate ls) : c ∈ sep ∨ ∃ l ∈ ls, c ∈ l := by
  induction ls with
  | nil => simp at h
  | cons l ls ih =>
    cases ls with
    | nil =>
      rw [List.intercalate_singleton] at h
      exact .inr ⟨l, List.mem_cons_self, h⟩
    | cons l' ls =>
      rw [List.intercalate_cons_cons, List.mem_append, List.mem_append] at h
      rcases h with (h | h) | h
      · exact .inr ⟨l, List.mem_cons_self, h⟩
      · exact .inl h
      · exact (ih h).imp_right fun ⟨m, hm, hc⟩ => ⟨m, List.mem_cons_of_mem l hm, hc⟩

/-! ## Changes of single characters -/

/-- **A change of characters that keeps clear of one of them**: it leaves that one alone and makes
no other into it. -/
structure KeepsClear (f : Char → List Char) (x : Char) : Prop where
  same : f x = [x]
  not_mem : ∀ c, c ≠ x → x ∉ f c

namespace KeepsClear

variable {f : Char → List Char} (hf : KeepsClear f x)
include hf

theorem takeWhile_flatMap (s : List Char) :
    (s.flatMap f).takeWhile (· != x) = (s.takeWhile (· != x)).flatMap f := by
  induction s with
  | nil => rfl
  | cons c s ih =>
    rw [List.flatMap_cons]
    by_cases hc : c = x
    · rw [hc, hf.same, List.singleton_append, List.takeWhile_cons_of_neg (by simp),
        List.takeWhile_cons_of_neg (by simp), List.flatMap_nil]
    · rw [List.takeWhile_append_of_pos (ne_of_not_mem (hf.not_mem c hc)), ih,
        List.takeWhile_cons_of_pos (by simpa using hc), List.flatMap_cons]

theorem drop_dropWhile_flatMap (s : List Char) :
    ((s.flatMap f).dropWhile (· != x)).drop 1 = ((s.dropWhile (· != x)).drop 1).flatMap f := by
  induction s with
  | nil => rfl
  | cons c s ih =>
    rw [List.flatMap_cons]
    by_cases hc : c = x
    · rw [hc, hf.same, List.singleton_append, List.dropWhile_cons_of_neg (by simp),
        List.dropWhile_cons_of_neg (by simp), List.drop_one, List.drop_one, List.tail_cons,
        List.tail_cons]
    · rw [List.dropWhile_append_of_pos (ne_of_not_mem (hf.not_mem c hc)), ih,
        List.dropWhile_cons_of_pos (by simpa using hc)]

theorem pieces_flatMap (s : List Char) :
    pieces (· == x) (s.flatMap f) = (pieces (· == x) s).map (List.flatMap f) := by
  induction s with
  | nil => rfl
  | cons c s ih =>
    rw [List.flatMap_cons]
    by_cases hc : c = x
    · rw [hc, hf.same, List.singleton_append, pieces, if_pos (by simp), ih, pieces,
        if_pos (by simp), List.map_cons, List.flatMap_nil]
    · have hclear (d : Char) (hd : d ∈ f c) : (d == x) = false := by
        simpa using ne_of_not_mem (hf.not_mem c hc) d hd
      rw [pieces_append hclear, ih, pieces_cons_of_neg (by simpa using hc)]
      cases pieces (· == x) s with
      | nil => rfl
      | cons p ps => rfl

end KeepsClear

end PartSourcing.Text
