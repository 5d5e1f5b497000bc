import PartSourcing.Proofs.Text.CaseRows
import PartSourcing.Proofs.Text.LowerCase
import PartSourcing.Proofs.Text.Trimming

/-!
# Lower case is settled after one pass

The lower case of a character consists of characters that lower case leaves alone, none of them a
capital sigma, and none of them a blank unless the character was one.  A capital sigma depends on
what stands around it, but it becomes a small one in any case, and small ones stay as they are
(`Lowers`).  **So lower case is idempotent** (`lowerChars_lowerChars`), and a text in lower case is
as trimmed as it was before (`trimChars_lowerChars`).

Where a word occurs does not depend on the sigmas around it, unless there are sigmas in the word
(`infix_lowerChars_iff`).
-/

namespace PartSourcing.Text

namespace CaseTable

/-- Code points that no image may be: capital ASCII letters, the capital sigma, and what is no
letter or has a sequence of its own. -/
def lowerReserved : List (Nat × Nat) :=
  [(0x41, 0x5A), (0x3A3, 0x3A3)] ++ (noLetters ++ lowerSequences.map fun s => (s.1, s.1))

/-- **A code point in lower case**: one that lower case leaves alone wherever it stands. -/
structure LowerSettled (n : Nat) : Prop where
  unmapped : Unmapped lowerSequences lowerRows n
  notCapital : ¬(0x41 ≤ n ∧ n ≤ 0x5A)
  notSigma : n ≠ 0x3A3

theorem lowerRows_avoid : (lowerRows.all fun r => lowerRows.all r.avoids) = true := by
  decide +kernel

theorem lowerRows_stay : (lowerRows.all fun r =>
    decide (0 ≤ Int.ofNat r.first + r.shift) && Nat.blt r.imageLast 0x110000 &&
      lowerReserved.all r.stays) = true := by
  decide +kernel

theorem lowerSettled_of_covers {r : Row} (hr : r ∈ lowerRows) {n : Nat}
    (hn : r.covers n = true) : LowerSettled (Int.ofNat n + r.shift).toNat := by
  obtain ⟨hm, hout⟩ := unmapped_of_covers lowerRows_avoid lowerRows_stay
    (fun run h => List.mem_append_right _ h) hr hn
  have hcapital := hout (0x41, 0x5A) (List.mem_append_left _ List.mem_cons_self)
  have hsigma := hout (0x3A3, 0x3A3)
    (List.mem_append_left _ (List.mem_cons_of_mem _ List.mem_cons_self))
  exact ⟨hm, by omega, by omega⟩

/-- What a sequence consists of is in lower case. -/
theorem lowerSettled_of_listed {s : Nat × List Nat} (hs : s ∈ lowerSequences) {n : Nat}
    (hn : n ∈ s.2) : LowerSettled n := by
  have key : ∀ s ∈ lowerSequences, ∀ n ∈ s.2, (n.isValidChar ∧
      (∀ r ∈ lowerRows, r.covers n = false) ∧ lowerSequences.lookup n = none ∧
      isBlank (Char.ofNat n) = false) ∧ ¬(0x41 ≤ n ∧ n ≤ 0x5A) ∧ n ≠ 0x3A3 := by
    decide +kernel
  obtain ⟨⟨h1, h2, h3, h4⟩, h5, h6⟩ := key s hs n hn
  exact ⟨⟨h1, h2, h3, h4⟩, h5, h6⟩

theorem lowerSettled_letter {n : Nat} (h1 : 0x61 ≤ n) (h2 : n ≤ 0x7A) : LowerSettled n := by
  have hrows : ∀ r ∈ lowerRows, 0x7A < r.first := by decide +kernel
  have hlisted : ∀ s ∈ lowerSequences, 0x7A < s.1 := by decide +kernel
  have hblank : ∀ k < 0x7B, 0x61 ≤ k → isBlank (Char.ofNat k) = false := by decide
  refine ⟨⟨Or.inl (by omega), ?_, ?_, hblank n (by omega) h1⟩, by omega, by omega⟩
  · intro r hr
    have := hrows r hr
    rw [← Bool.not_eq_true, Row.covers_iff]
    omega
  · rw [List.lookup_eq_none_iff]
    intro s hs
    have := hlisted s hs
    rw [bne_iff_ne]
    omega

end CaseTable

open CaseTable

/-! ## Lower case of characters -/

/-- **Lower case leaves a settled character alone.** -/
theorem lowerChar_of_settled {n : Nat} (h : LowerSettled n) :
    lowerChar (Char.ofNat n) = [Char.ofNat n] := by
  have htoNat := toNat_ofNat h.unmapped.scalar
  unfold lowerChar
  split
  · have hcapital := h.notCapital
    rw [← htoNat] at hcapital
    have hlow : (Char.ofNat n).toLower = Char.ofNat n := dif_neg fun hc => hcapital ⟨hc.1, hc.2⟩
    rw [hlow]
  · rw [htoNat, h.unmapped.mapping_eq]

theorem lowerChar_ascii (c : Char) (hc : c.toNat < 0x80) :
    lowerChar c = [c] ∨ ∃ n, 0x61 ≤ n ∧ n ≤ 0x7A ∧ lowerChar c = [Char.ofNat n] := by
  have key : ∀ n < 0x80, (Char.ofNat n).toLower =
      if 0x41 ≤ n ∧ n ≤ 0x5A then Char.ofNat (n + 0x20) else Char.ofNat n := by decide
  have hlow := key c.toNat hc
  rw [Char.ofNat_toNat] at hlow
  rw [lowerChar, if_pos hc, hlow]
  split
  · exact Or.inr ⟨c.toNat + 0x20, by omega, by omega, rfl⟩
  · exact Or.inl rfl

/-- **Lower case either keeps a character or replaces it by settled ones.** -/
theorem lowerChar_cases (c : Char) : lowerChar c = [c] ∨
    ∃ ns : List Nat, ns ≠ [] ∧ lowerChar c = ns.map Char.ofNat ∧ ∀ n ∈ ns, LowerSettled n := by
  by_cases hc : c.toNat < 0x80
  · rcases lowerChar_ascii c hc with h | ⟨n, h1, h2, h⟩
    · exact Or.inl h
    · refine Or.inr ⟨[n], List.cons_ne_nil _ _, h, fun m hm => ?_⟩
      rw [List.mem_singleton.mp hm]
      exact lowerSettled_letter h1 h2
  · rw [lowerChar, if_neg hc]
    rcases mapping_cases lowerSequences lowerRows c.toNat with h | ⟨s, hs, h⟩ | ⟨r, hr, hcov, h⟩
    · rw [h, Char.ofNat_toNat]
      exact Or.inl rfl
    · have hlisted : ∀ s ∈ lowerSequences, s.2 ≠ [] := by decide
      exact Or.inr ⟨s.2, hlisted s hs, h, fun n hn => lowerSettled_of_listed hs hn⟩
    · refine Or.inr ⟨[(Int.ofNat c.toNat + r.shift).toNat], List.cons_ne_nil _ _, h,
        fun n hn => ?_⟩
      rw [List.mem_singleton.mp hn]
      exact lowerSettled_of_covers hr hcov

theorem toNat_lt_of_isAlpha {c : Char} (h : c.isAlpha = true) : c.toNat < 0x80 := by
  have hletter : (c.isUpper || c.isLower) = true := h
  rcases Bool.or_eq_true_iff.mp hletter with hupper | hlower
  · have hle : c.val ≤ 'Z'.val := (of_decide_eq_true hupper).2
    exact Nat.lt_of_le_of_lt (UInt32.le_iff_toNat_le.mp hle) (by decide)
  · have hle : c.val ≤ 'z'.val := of_decide_eq_true (Bool.and_eq_true_iff.mp hlower).2
    exact Nat.lt_of_le_of_lt (UInt32.le_iff_toNat_le.mp hle) (by decide)

/-- A letter is one in lower case, too, and has the same upper case. -/
theorem toLower_of_isAlpha {c : Char} (h : c.isAlpha = true) :
    c.toLower.isAlpha = true ∧ c.toLower.toUpper = c.toUpper := by
  have key : ∀ n < 0x80, (Char.ofNat n).isAlpha = true →
      (Char.ofNat n).toLower.isAlpha = true ∧
        (Char.ofNat n).toLower.toUpper = (Char.ofNat n).toUpper := by
    decide
  have hc := key c.toNat (toNat_lt_of_isAlpha h)
  rw [Char.ofNat_toNat] at hc
  exact hc h

theorem isAlpha_of_isAlpha_toLower {c : Char} (h : c.toLower.isAlpha = true) :
    c.isAlpha = true := by
  by_cases hupper : c.val ≥ 'A'.val ∧ c.val ≤ 'Z'.val
  · exact Bool.or_eq_true_iff.mpr (.inl (decide_eq_true hupper))
  · have hsame : c.toLower = c := dif_neg hupper
    exact hsame ▸ h
theorem lowerChar_ne_nil (c : Char) : lowerChar c ≠ [] := by
  rcases lowerChar_cases c with h | ⟨ns, hns, h, -⟩
  · exact h ▸ List.cons_ne_nil _ _
  · exact h ▸ fun hnil => hns (List.map_eq_nil_iff.mp hnil)

theorem lowerChar_of_mem {c d : Char} (h : d ∈ lowerChar c) : lowerChar d = [d] := by
  rcases lowerChar_cases c with hc | ⟨ns, -, hc, hns⟩
  · rw [hc, List.mem_singleton] at h
    rw [h, hc]
  · rw [hc, List.mem_map] at h
    obtain ⟨n, hn, rfl⟩ := h
    exact lowerChar_of_settled (hns n hn)

theorem isBlank_of_mem_lowerChar {c d : Char} (hb : isBlank c = false) (h : d ∈ lowerChar c) :
    isBlank d = false := by
  rcases lowerChar_cases c with hc | ⟨ns, -, hc, hns⟩
  · rw [hc, List.mem_singleton] at h
    rw [h, hb]
  · rw [hc, List.mem_map] at h
    obtain ⟨n, hn, rfl⟩ := h
    exact (hns n hn).unmapped.notBlank

theorem lowerChar_sigma : lowerChar 'Σ' = ['σ'] := by decide +kernel

/-- Lower case never yields a capital sigma. -/
theorem ne_sigma_of_mem_lowerChar {c d : Char} (h : d ∈ lowerChar c) : d ≠ 'Σ' := by
  rintro rfl
  have hd := lowerChar_of_mem h
  rw [lowerChar_sigma] at hd
  exact absurd hd (by decide)

/-! ## Lower case of texts -/

/-- **What a character becomes in lower case**, wherever it stands. -/
def Lowers (c : Char) (part : List Char) : Prop := part = lowerChar c ∨ c = 'Σ' ∧ part = ['ς']

namespace Lowers

variable {c d : Char} {part : List Char}

theorem ne_nil (h : Lowers c part) : part ≠ [] := by
  rcases h with rfl | ⟨-, rfl⟩
  · exact lowerChar_ne_nil c
  · exact List.cons_ne_nil _ _

theorem settled (h : Lowers c part) (hd : d ∈ part) : lowerChar d = [d] ∧ d ≠ 'Σ' := by
  rcases h with rfl | ⟨-, rfl⟩
  · exact ⟨lowerChar_of_mem hd, ne_sigma_of_mem_lowerChar hd⟩
  · rw [List.mem_singleton.mp hd]
    exact ⟨by decide +kernel, by decide⟩

theorem isBlank_of_mem (h : Lowers c part) (hb : isBlank c = false) (hd : d ∈ part) :
    isBlank d = false := by
  rcases h with rfl | ⟨-, rfl⟩
  · exact isBlank_of_mem_lowerChar hb hd
  · rw [List.mem_singleton.mp hd]
    rfl

end Lowers

/-- **A text and its lower case**, character by character. -/
inductive LowersTo : List Char → List Char → Prop where
  | nil : LowersTo [] []
  | cons {c : Char} {part s t : List Char} (hc : Lowers c part) (h : LowersTo s t) :
      LowersTo (c :: s) (part ++ t)

/-- **Lower case goes character by character.** -/
theorem lowersTo_lowerFrom (before s : List Char) : LowersTo s (lowerFrom before s) := by
  induction s generalizing before with
  | nil => exact .nil
  | cons c s ih =>
    rw [lowerFrom]
    refine .cons ?_ (ih (c :: before))
    by_cases hc : c = 'Σ'
    · obtain rfl := hc
      rw [if_pos rfl]
      split
      · exact .inr ⟨rfl, rfl⟩
      · exact .inl lowerChar_sigma.symm
    · rw [if_neg hc]
      exact .inl rfl

theorem lowersTo_lowerChars (s : List Char) : LowersTo s (lowerChars s) := lowersTo_lowerFrom [] s

namespace LowersTo

variable {s t : List Char}

theorem settled_of_mem (h : LowersTo s t) {d : Char} (hd : d ∈ t) :
    lowerChar d = [d] ∧ d ≠ 'Σ' := by
  induction h with
  | nil => exact absurd hd List.not_mem_nil
  | cons hc _ ih => exact (List.mem_append.mp hd).elim hc.settled ih

/-- A text in lower case starts with no blank if the text does not. -/
theorem isBlank_head (h : LowersTo s t) (hs : ∀ c, s.head? = some c → isBlank c = false) {d : Char}
    (hd : t.head? = some d) : isBlank d = false := by
  cases h with
  | nil => cases hd
  | cons hc _ =>
    rw [List.head?_append_of_ne_nil _ hc.ne_nil] at hd
    exact hc.isBlank_of_mem (hs _ rfl) (List.mem_of_head? hd)

/-- A text in lower case ends with no blank if the text does not. -/
theorem isBlank_getLast (h : LowersTo s t) (hs : ∀ c, s.getLast? = some c → isBlank c = false)
    {d : Char} (hd : t.getLast? = some d) : isBlank d = false := by
  induction h with
  | nil => cases hd
  | @cons c part s t hc h ih =>
    cases h with
    | nil =>
      rw [List.append_nil] at hd
      exact hc.isBlank_of_mem (hs c rfl) (List.mem_of_getLast? hd)
    | @cons c' part' s t hc' h' =>
      rw [List.getLast?_cons_cons] at hs
      rw [List.getLast?_append_of_ne_nil _ (List.append_ne_nil_of_left_ne_nil hc'.ne_nil t)] at hd
      exact ih hs hd

end LowersTo

theorem lowerChars_eq_nil_iff {s : List Char} : lowerChars s = [] ↔ s = [] := by
  constructor
  · intro hnil
    have hlowers := lowersTo_lowerChars s
    rw [hnil] at hlowers
    generalize ht : ([] : List Char) = t at hlowers
    cases hlowers with
    | nil => rfl
    | cons hc _ => exact absurd ht.symm (List.append_ne_nil_of_left_ne_nil hc.ne_nil _)
  · rintro rfl
    rfl

/-- **Lower case is idempotent.** -/
theorem lowerChars_lowerChars (s : List Char) : lowerChars (lowerChars s) = lowerChars s :=
  lowerChars_eq_self fun _ => (lowersTo_lowerChars s).settled_of_mem

/-- **A trimmed text is trimmed in lower case.** -/
theorem trimChars_lowerChars (s : List Char) :
    trimChars (lowerChars (trimChars s)) = lowerChars (trimChars s) := by
  have hlowers := lowersTo_lowerChars (trimChars s)
  refine trimChars_eq_self (fun c => hlowers.isBlank_head fun _ => isBlank_head_trimChars)
    fun hne => ?_
  exact hlowers.isBlank_getLast (fun _ => isBlank_getLast?_trimChars)
    (List.getLast?_eq_getLast_of_ne_nil hne)

/-! ## Words in a text in lower case -/

/-- A final sigma read as any other small one. -/
def unfinal (c : Char) : Char := if c = 'ς' then 'σ' else c

theorem LowersTo.map_unfinal {s t : List Char} (h : LowersTo s t) :
    t.map unfinal = (s.flatMap lowerChar).map unfinal := by
  induction h with
  | nil => rfl
  | cons hc _ ih =>
    rw [List.map_append, List.flatMap_cons, List.map_append, ih]
    rcases hc with rfl | ⟨rfl, rfl⟩
    · rfl
    · rw [lowerChar_sigma]
      rfl

/-- Reading final sigmas as others does not move a word without sigmas. -/
theorem infix_map_unfinal_iff {w t : List Char} (hw : 'σ' ∉ w) (hw' : 'ς' ∉ w) :
    w <:+: t.map unfinal ↔ w <:+: t := by
  constructor
  · rintro ⟨front, back, h⟩
    obtain ⟨start, back', rfl, hstart, -⟩ := List.map_eq_append_iff.mp h.symm
    obtain ⟨front', v, rfl, -, hv⟩ := List.map_eq_append_iff.mp hstart
    -- what is read as the word is the word, since nothing in it is read as a sigma
    have hself : v.map unfinal = v := by
      refine (List.map_congr_left fun c hc => ?_).trans (List.map_id v)
      have hmem : unfinal c ∈ w := hv ▸ List.mem_map_of_mem hc
      unfold unfinal at hmem ⊢
      split at hmem
      · exact absurd hmem hw
      · rename_i hc
        rw [if_neg hc, id]
    exact ⟨front', back', by rw [← hv, hself]⟩
  · intro h
    have hself : w.map unfinal = w := by
      refine (List.map_congr_left fun c hc => ?_).trans (List.map_id w)
      rw [unfinal, if_neg fun (heq : c = 'ς') => hw' (heq ▸ hc), id]
    exact hself ▸ h.map unfinal

/-- **Where a word occurs in lower case** is decided by each character alone, if the word has no
sigma. -/
theorem infix_lowerChars_iff {w : List Char} (hw : 'σ' ∉ w) (hw' : 'ς' ∉ w) (s : List Char) :
    w <:+: lowerChars s ↔ w <:+: s.flatMap lowerChar := by
  rw [← infix_map_unfinal_iff hw hw', (lowersTo_lowerChars s).map_unfinal,
    infix_map_unfinal_iff hw hw']

end PartSourcing.Text
