import PartSourcing.Proofs.Text.CaseRows

/-!
# Upper case is settled after one pass

The upper case of a character consists of characters that upper case leaves alone, and none of
them is a blank unless the character was one.  Outside ASCII both are facts about the tables: no
row and no listed sequence speaks of a code point that another one maps to.  The checks of the
tables are closed and are evaluated; everything else is by cases on where a character is looked
up.
-/

namespace PartSourcing.Text

namespace CaseTable

/-- Code points that no image may be: lower-case ASCII letters, blanks, surrogates, and the
code points that have a sequence of their own. -/
def reserved : List (Nat × Nat) :=
  [(0x61, 0x7A), (0x09, 0x0D), (0x20, 0x20), (0x85, 0x85), (0xA0, 0xA0), (0x1680, 0x1680),
    (0x2000, 0x200A), (0x2028, 0x2029), (0x202F, 0x202F), (0x205F, 0x205F), (0x3000, 0x3000),
    (0xD800, 0xDFFF)] ++ upperSequences.map fun s => (s.1, s.1)

/-- **A settled code point**: a scalar value that upper case leaves alone and that is no
blank. -/
structure Settled (n : Nat) : Prop where
  scalar : n.isValidChar
  notLower : ¬ (0x61 ≤ n ∧ n ≤ 0x7A)
  uncovered : ∀ r ∈ upperRows, r.covers n = false
  unlisted : upperSequences.lookup n = none
  notBlank : isBlank (Char.ofNat n) = false

theorem upperRows_avoid : (upperRows.all fun r => upperRows.all r.avoids) = true := by
  decide +kernel

theorem upperRows_stay : (upperRows.all fun r =>
    decide (0 ≤ Int.ofNat r.first + r.shift) && Nat.blt r.imageLast 0x110000 &&
      reserved.all r.stays) = true := by
  decide +kernel

/-- What a sequence consists of is settled. -/
theorem upperSequences_settled : (upperSequences.all fun s => s.2.all fun n =>
    decide n.isValidChar && !(Nat.ble 0x61 n && Nat.ble n 0x7A) &&
      upperRows.all (fun r => !r.covers n) && (upperSequences.lookup n).isNone &&
      !isBlank (Char.ofNat n)) = true := by
  decide +kernel

theorem settled_of_covers {r : Row} (hr : r ∈ upperRows) {n : Nat} (hn : r.covers n = true) :
    Settled (Int.ofNat n + r.shift).toNat := by
  have hruns : ∀ run ∈ noLetters ++ upperSequences.map fun s => (s.1, s.1), run ∈ reserved := by
    decide +kernel
  obtain ⟨hm, hout⟩ := unmapped_of_covers upperRows_avoid upperRows_stay hruns hr hn
  have hletter := hout (0x61, 0x7A) (List.mem_append_left _ List.mem_cons_self)
  exact ⟨hm.scalar, by omega, hm.uncovered, hm.unlisted, hm.notBlank⟩

theorem settled_of_listed {s : Nat × List Nat} (hs : s ∈ upperSequences) {n : Nat}
    (hn : n ∈ s.2) : Settled n := by
  have h := List.all_eq_true.mp (List.all_eq_true.mp upperSequences_settled s hs) n hn
  simp only [Bool.and_eq_true, decide_eq_true_eq, Bool.not_eq_true', List.all_eq_true,
    Option.isNone_iff_eq_none, ← Bool.not_eq_true, Nat.ble_eq] at h
  obtain ⟨⟨⟨⟨h1, h2⟩, h3⟩, h4⟩, h5⟩ := h
  exact ⟨h1, by omega, fun r hr => (Bool.not_eq_true _).mp (h3 r hr), h4,
    (Bool.not_eq_true _).mp h5⟩

end CaseTable

open CaseTable

/-! ## Upper case of characters -/

/-- **Upper case leaves a settled character alone.** -/
theorem upperChar_of_settled {n : Nat} (h : Settled n) :
    upperChar (Char.ofNat n) = [Char.ofNat n] := by
  have htoNat := toNat_ofNat h.scalar
  unfold upperChar
  split
  · have hlow := h.notLower
    rw [← htoNat] at hlow
    have hup : (Char.ofNat n).toUpper = Char.ofNat n := dif_neg fun hc => hlow ⟨hc.1, hc.2⟩
    rw [hup]
  · have hmap : Unmapped upperSequences upperRows n :=
      ⟨h.scalar, h.uncovered, h.unlisted, h.notBlank⟩
    rw [htoNat, hmap.mapping_eq]

theorem upperChar_ascii (c : Char) (hc : c.toNat < 0x80) :
    upperChar c = [c] ∨ ∃ n, 0x41 ≤ n ∧ n ≤ 0x5A ∧ upperChar c = [Char.ofNat n] := by
  have key : ∀ n < 0x80, (Char.ofNat n).toUpper =
      if 0x61 ≤ n ∧ n ≤ 0x7A then Char.ofNat (n - 0x20) else Char.ofNat n := by decide
  have hup := key c.toNat hc
  rw [Char.ofNat_toNat] at hup
  rw [upperChar, if_pos hc, hup]
  split
  · exact Or.inr ⟨c.toNat - 0x20, by omega, by omega, rfl⟩
  · exact Or.inl rfl

theorem settled_capital {n : Nat} (h1 : 0x41 ≤ n) (h2 : n ≤ 0x5A) : Settled n := by
  have hrows : ∀ r ∈ upperRows, 0x5A < r.first := by decide +kernel
  have hlisted : ∀ s ∈ upperSequences, 0x5A < s.1 := by decide +kernel
  refine ⟨Or.inl (by omega), by omega, ?_, ?_, ?_⟩
  · intro r hr
    have := hrows r hr
    rw [← Bool.not_eq_true, Row.covers_iff]
    omega
  · rw [List.lookup_eq_none_iff]
    intro s hs
    have := hlisted s hs
    rw [bne_iff_ne]
    omega
  · have hall : ∀ k < 0x5B, 0x41 ≤ k → isBlank (Char.ofNat k) = false := by decide
    exact hall n (by omega) h1

/-- **Upper case either keeps a character or replaces it by settled ones.** -/
theorem upperChar_cases (c : Char) :
    upperChar c = [c] ∨ ∃ ns : List Nat, upperChar c = ns.map Char.ofNat ∧ ∀ n ∈ ns, Settled n := by
  by_cases hc : c.toNat < 0x80
  · rcases upperChar_ascii c hc with h | ⟨n, h1, h2, h⟩
    · exact Or.inl h
    · refine Or.inr ⟨[n], h, ?_⟩
      rintro m hm
      rw [List.mem_singleton.mp hm]
      exact settled_capital h1 h2
  · rw [upperChar, if_neg hc]
    rcases mapping_cases upperSequences upperRows c.toNat with h | ⟨s, hs, h⟩ | ⟨r, hr, hcov, h⟩
    · rw [h, Char.ofNat_toNat]
      exact Or.inl rfl
    · exact Or.inr ⟨s.2, h, fun n hn => settled_of_listed hs hn⟩
    · refine Or.inr ⟨[(Int.ofNat c.toNat + r.shift).toNat], h, fun n hn => ?_⟩
      rw [List.mem_singleton.mp hn]
      exact settled_of_covers hr hcov

theorem upperChar_of_mem {c d : Char} (h : d ∈ upperChar c) : upperChar d = [d] := by
  rcases upperChar_cases c with hc | ⟨ns, hc, hns⟩
  · rw [hc, List.mem_singleton] at h
    rw [h, hc]
  · rw [hc, List.mem_map] at h
    obtain ⟨n, hn, rfl⟩ := h
    exact upperChar_of_settled (hns n hn)

theorem isBlank_of_mem_upperChar {c d : Char} (hb : isBlank c = false) (h : d ∈ upperChar c) :
    isBlank d = false := by
  rcases upperChar_cases c with hc | ⟨ns, hc, hns⟩
  · rw [hc, List.mem_singleton] at h
    rw [h, hb]
  · rw [hc, List.mem_map] at h
    obtain ⟨n, hn, rfl⟩ := h
    exact (hns n hn).notBlank

/-- Upper case leaves something of every character. -/
theorem upperChar_ne_nil (c : Char) : upperChar c ≠ [] := by
  have hlisted : ∀ s ∈ upperSequences, s.2 ≠ [] := by decide +kernel
  by_cases hc : c.toNat < 0x80
  · rw [upperChar, if_pos hc]
    exact List.cons_ne_nil _ _
  · rw [upperChar, if_neg hc]
    rcases mapping_cases upperSequences upperRows c.toNat with h | ⟨s, hs, h⟩ | ⟨r, -, -, h⟩
    · exact h ▸ List.cons_ne_nil _ _
    · exact h ▸ fun hnil => hlisted s hs (List.map_eq_nil_iff.mp hnil)
    · exact h ▸ List.cons_ne_nil _ _

/-- **Upper case is idempotent.** -/
theorem upperChars_upperChars (s : List Char) : upperChars (upperChars s) = upperChars s := by
  have hfix : ∀ t : List Char, (∀ d ∈ t, upperChar d = [d]) → upperChars t = t := by
    intro t ht
    induction t with
    | nil => rfl
    | cons d t ih =>
      rw [upperChars, List.flatMap_cons, ht d List.mem_cons_self]
      exact congrArg (d :: ·) (ih fun e he => ht e (List.mem_cons_of_mem _ he))
  refine hfix _ fun d hd => ?_
  obtain ⟨c, -, hdc⟩ := List.mem_flatMap.mp hd
  exact upperChar_of_mem hdc

end PartSourcing.Text
