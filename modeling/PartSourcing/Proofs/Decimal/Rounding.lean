import PartSourcing.Proofs.Decimal.Canonical

/-!
# Rounding to a mantissa

A number is cut at some bit, and of what is cut off it is kept whether it is a half or more and
whether it is neither nothing nor a half (`IsCut`).  That is enough to round to the nearest multiple
of what the last bit stands for, the even one of two that are equally near (`IsCut.near`).  Rounding
up may need one bit more, which is then carried.  **So what a number is rounded to is in canonical
form, and nearest** (`exists_round`), however many bits the number has and however small it is.
-/

namespace PartSourcing.Decimal

open Float.Model Float.Model.UnpackedFloat

/-! ## Cutting -/

/-- **What is left of a number that is cut**: a mantissa, and of the rest, as a share of what its
last bit stands for, whether it is a half or more and whether it is neither nothing nor a half. -/
structure IsCut (q : ℚ) (e : ℤ) (em : ExtendedMantissa) (rest : ℚ) : Prop where
  eq : q = (em.mantissa + rest) * 2 ^ e
  nonneg : 0 ≤ rest
  lt : rest < 1
  roundBit : em.roundBit = true ↔ 1 / 2 ≤ rest
  stickyBit : em.stickyBit = true ↔ rest ≠ 0 ∧ rest ≠ 1 / 2

namespace IsCut

variable {q rest : ℚ} {e : ℤ} {em : ExtendedMantissa}

/-- One more bit is cut off. -/
theorem shiftRightOne (h : IsCut q e em rest) :
    IsCut q (e + 1) em.shiftRightOne (((em.mantissa % 2 : ℕ) + rest) / 2) := by
  have hnonneg := h.nonneg
  have hlt := h.lt
  have hmantissa : (em.mantissa : ℚ) = 2 * (em.mantissa / 2 : ℕ) + (em.mantissa % 2 : ℕ) := by
    exact_mod_cast (Nat.div_add_mod em.mantissa 2).symm
  have hround : em.shiftRightOne.roundBit = true ↔ em.mantissa % 2 ≠ 0 := bne_iff_ne
  have hsticky : em.shiftRightOne.stickyBit = true ↔ rest ≠ 0 := by
    show (em.roundBit || em.stickyBit) = true ↔ _
    rw [Bool.or_eq_true, h.roundBit, h.stickyBit]
    constructor
    · rintro (hhalf | ⟨hne, -⟩)
      · exact ne_of_gt (by linarith)
      · exact hne
    · intro hne
      by_cases hhalf : rest = 1 / 2
      · exact .inl hhalf.ge
      · exact .inr ⟨hne, hhalf⟩
  have heq :
      q = (em.shiftRightOne.mantissa + ((em.mantissa % 2 : ℕ) + rest) / 2) * 2 ^ (e + 1) := by
    show q = ((em.mantissa / 2 : ℕ) + _) * _
    rw [h.eq, zpow_add_one₀ two_ne_zero, hmantissa]
    ring
  -- the bit that is cut off decides whether the new rest is a half or more
  rcases Nat.mod_two_eq_zero_or_one em.mantissa with hbit | hbit
  all_goals
    rw [hbit] at heq hround ⊢
    push_cast at heq ⊢
    refine ⟨heq, by linarith, by linarith, hround.trans ?_, hsticky.trans ?_⟩
  · exact iff_of_false (by decide) (by linarith)
  · constructor
    · intro hne
      exact ⟨fun h0 => hne (by linarith), fun h0 => absurd hlt (by linarith)⟩
    · rintro ⟨hne, -⟩ h0
      exact hne (by linarith)
  · exact iff_of_true (by decide) (by linarith)
  · constructor
    · intro hne
      exact ⟨fun h0 => absurd hnonneg (by linarith), fun h0 => hne (by linarith)⟩
    · rintro ⟨-, hne⟩ h0
      exact hne (by linarith)

/-- **A number that is cut** is cut further by shifting. -/
theorem exists_shiftRight (h : IsCut q e em rest) (k : Nat) :
    ∃ rest', IsCut q (e + k) (em >>> k) rest' := by
  induction k with
  | zero => exact ⟨rest, by rwa [Int.natCast_zero, Int.add_zero]⟩
  | succ k ih =>
    obtain ⟨rest', hcut⟩ := ih
    have hexponent : e + (k + 1 : ℕ) = e + k + 1 := by push_cast; ring
    rw [hexponent]
    exact ⟨_, hcut.shiftRightOne⟩

/-- **What is left is enough to round** to the nearest multiple, the even one of two that are
equally near. -/
theorem near (h : IsCut q e em rest) :
    2 * |q - em.roundedMantissa * 2 ^ e| ≤ 2 ^ e ∧
      (2 * |q - em.roundedMantissa * 2 ^ e| = 2 ^ e → Even em.roundedMantissa) := by
  have hpos : (0 : ℚ) < 2 ^ e := by positivity
  obtain ⟨m, round, sticky⟩ := em
  obtain ⟨heq, hnonneg, hlt, hround, hsticky⟩ := h
  dsimp only at heq hround hsticky
  -- it goes up by nothing or by one, and by one only from a half on
  have hup (r : Nat) (up : ℚ) (hr : (r : ℚ) = m + up) (hrest : |rest - up| ≤ 1 / 2)
      (heven : |rest - up| = 1 / 2 → Even r) :
      2 * |q - r * 2 ^ e| ≤ 2 ^ e ∧ (2 * |q - r * 2 ^ e| = 2 ^ e → Even r) := by
    have hdist : 2 * |q - r * 2 ^ e| = 2 * |rest - up| * 2 ^ e := by
      have hdiff : q - r * 2 ^ e = (rest - up) * 2 ^ e := by rw [heq, hr]; ring
      rw [hdiff, abs_mul, abs_of_pos hpos, mul_assoc]
    rw [hdist]
    refine ⟨mul_le_of_le_one_left hpos.le (by linarith), fun htie => heven ?_⟩
    linarith [mul_right_cancel₀ hpos.ne' (htie.trans (one_mul _).symm)]
  cases round with
  | false =>
    have hless : rest < 1 / 2 := lt_of_not_ge fun hge => nomatch hround.mpr hge
    have hrest : |rest - 0| < 1 / 2 := by rwa [sub_zero, abs_of_nonneg hnonneg]
    have hdown := hup m 0 (add_zero _).symm hrest.le fun htie => absurd htie hrest.ne
    cases sticky <;> exact hdown
  | true =>
    have hge := hround.mp rfl
    have hdist : |rest - 1| = 1 - rest := by
      rw [abs_sub_comm]
      exact abs_of_nonneg (by linarith)
    cases sticky with
    | true =>
      have hne := (hsticky.mp rfl).2
      refine hup (m + 1) 1 (by push_cast; rfl) (by linarith) fun htie => absurd ?_ hne
      linarith
    | false =>
      have hhalf : rest = 1 / 2 := by
        by_contra hne
        exact nomatch hsticky.mpr ⟨ne_of_gt (by linarith), hne⟩
      refine hup (m + m % 2) (m % 2 : ℕ) (by push_cast; rfl) ?_ fun _ => Nat.even_iff.mpr (by omega)
      rcases Nat.mod_two_eq_zero_or_one m with hparity | hparity
      all_goals
        rw [hparity, hhalf]
        norm_num

end IsCut

/-- How a mantissa starts that is to be cut: a double starts exact, a quotient with what the
division leaves. -/
theorem isCut_ofMantissa {q : ℚ} {m : Nat} {e : ℤ} (h : q = m * 2 ^ e) :
    IsCut q e (.ofMantissaAndAccuracy m .exact) 0 where
  eq := by
    show q = (m + 0) * 2 ^ e
    rw [add_zero, h]
  nonneg := le_rfl
  lt := one_pos
  roundBit := iff_of_false Bool.false_ne_true (by norm_num)
  stickyBit := iff_of_false Bool.false_ne_true (by simp)

/-! ## Rounding -/

theorem log2_mul_two_pow {m : Nat} (hm : m ≠ 0) (k : Nat) : (m * 2 ^ k).log2 = m.log2 + k := by
  have hne : m * 2 ^ k ≠ 0 := Nat.mul_ne_zero hm (Nat.two_pow_pos k).ne'
  obtain ⟨hge, hlt⟩ := (Nat.log2_eq_iff hm).mp rfl
  refine (Nat.log2_eq_iff hne).mpr ⟨?_, ?_⟩
  · rw [Nat.pow_add]
    exact Nat.mul_le_mul_right _ hge
  · rw [Nat.add_right_comm, Nat.pow_add]
    exact Nat.mul_lt_mul_of_pos_right hlt (Nat.two_pow_pos k)

theorem shiftToTargetExponent_eq (m : Nat) (e : ℤ) (acc : Accuracy) (k : Nat)
    (hk : (max ((m.log2 : ℤ) + e - 52) (-1074) - e).toNat = k) :
    shiftToTargetExponent Format.binary64 m e acc =
      ((ExtendedMantissa.ofMantissaAndAccuracy m acc) >>> k, e + k) := by
  have hbits : (Format.binary64.mantissaBits : ℤ) = 53 := rfl
  have hmin : Format.binary64.minExponent = -1074 := rfl
  have htarget : Format.binary64.targetExponent (totalExponent m e) =
      max ((m.log2 : ℤ) + e - 52) (-1074) := by
    rw [Format.targetExponent, totalExponent, hbits, hmin]
    omega
  rw [shiftToTargetExponent, shiftToExponent, htarget, hk]

theorem mantissa_ofMantissaAndAccuracy (m : Nat) (acc : Accuracy) :
    (ExtendedMantissa.ofMantissaAndAccuracy m acc).mantissa = m := by
  cases acc with
  | exact => rfl
  | inexact o => cases o <;> rfl

/-- A number that is cut lies between the powers of two around its mantissa. -/
theorem IsCut.bounds {q rest : ℚ} {m : Nat} {e : ℤ} {acc : Accuracy}
    (h : IsCut q e (.ofMantissaAndAccuracy m acc) rest) :
    m * 2 ^ e ≤ q ∧ q < 2 ^ ((m.log2 : ℤ) + 1 + e) := by
  have hpos : (0 : ℚ) < 2 ^ e := by positivity
  have heq := h.eq
  have hnonneg := h.nonneg
  have hlt := h.lt
  have hm : (m : ℚ) + 1 ≤ 2 ^ (m.log2 + 1) := by exact_mod_cast Nat.lt_log2_self
  rw [mantissa_ofMantissaAndAccuracy] at heq
  rw [heq]
  constructor
  · exact mul_le_mul_of_nonneg_right (by linarith) hpos.le
  · have hpow : (2 : ℚ) ^ ((m.log2 : ℤ) + 1 + e) = 2 ^ (m.log2 + 1) * 2 ^ e := by
      rw [zpow_add₀ two_ne_zero]
      norm_cast
    rw [hpow]
    exact mul_lt_mul_of_pos_right (by linarith) hpos

/-- **What a number is rounded to**: a multiple of a power of two, which is the least there is or
which the number has all bits of a mantissa above, off by no more than a half, and by less unless
the mantissa is even. -/
def IsRounded (q : ℚ) (m : Nat) (e : ℤ) : Prop :=
  ∃ (r : Nat) (t : ℤ), (m : ℚ) * 2 ^ e = r * 2 ^ t ∧ (t = -1074 ∨ 2 ^ 52 * 2 ^ t ≤ q) ∧
    2 * |q - r * 2 ^ t| ≤ 2 ^ t ∧ (2 * |q - r * 2 ^ t| = 2 ^ t → Even m)

/-- **Rounding finds the nearest multiple**, in canonical form. -/
theorem exists_round {q rest : ℚ} {m : Nat} {e : ℤ} {acc : Accuracy} (s : Sign)
    (h : IsCut q e (.ofMantissaAndAccuracy m acc) rest) (hbits : e ≤ -1074 ∨ 52 ≤ m.log2) :
    ∃ m' e', IsCanonical m' e' ∧ IsRounded q m' e' ∧
      roundWithAccuracy Format.binary64 s m e acc = ofParts s m' e' := by
  -- the exponent at which the number is cut
  obtain ⟨t, ht⟩ : ∃ t, max ((m.log2 : ℤ) + e - 52) (-1074) = t := ⟨_, rfl⟩
  obtain ⟨k, hk⟩ : ∃ k : ℕ, e + k = t := ⟨(t - e).toNat, by omega⟩
  obtain ⟨rest', hcut⟩ := h.exists_shiftRight k
  rw [hk] at hcut
  have hpos : (0 : ℚ) < 2 ^ t := by positivity
  obtain ⟨hlow, hhigh⟩ := h.bounds
  have hlt : q < 2 ^ 53 * 2 ^ t := by
    calc q < 2 ^ ((m.log2 : ℤ) + 1 + e) := hhigh
      _ ≤ 2 ^ (53 + t) := zpow_le_zpow_right₀ one_le_two (by omega)
      _ = 2 ^ 53 * 2 ^ t := zpow_add₀ two_ne_zero 53 t
  -- unless that is the least exponent, the cut number has all bits of a mantissa
  have hgreat : t = -1074 ∨ 2 ^ 52 * 2 ^ t ≤ q := by
    by_cases hleast : t = -1074
    · exact .inl hleast
    · have hm : m ≠ 0 := by
        rintro rfl
        rw [Nat.log2_zero] at ht hbits
        omega
      have hge : (2 : ℚ) ^ m.log2 ≤ m := by exact_mod_cast Nat.log2_self_le hm
      refine .inr (le_trans ?_ hlow)
      calc (2 : ℚ) ^ 52 * 2 ^ t = 2 ^ (52 + t) := (zpow_add₀ two_ne_zero 52 t).symm
        _ = 2 ^ (m.log2 : ℤ) * 2 ^ e := by rw [← zpow_add₀ two_ne_zero]; congr 1; omega
        _ ≤ m * 2 ^ e := mul_le_mul_of_nonneg_right (by rwa [zpow_natCast]) (by positivity)
  have hfirst := shiftToTargetExponent_eq m e acc k (by omega)
  rw [hk] at hfirst
  obtain ⟨hnear, heven⟩ := hcut.near
  unfold roundWithAccuracy
  rw [hfirst]
  dsimp only
  generalize ((ExtendedMantissa.ofMantissaAndAccuracy m acc) >>> k).roundedMantissa = r
    at hnear heven
  obtain ⟨hnearlow, hnearhigh⟩ := abs_le.mp (le_div_iff₀' two_pos |>.mpr hnear)
  have hmost : r ≤ 2 ^ 53 := by
    have : (r : ℚ) * 2 ^ t < (2 ^ 53 + 1) * 2 ^ t := by linarith
    exact Nat.lt_succ_iff.mp (by exact_mod_cast lt_of_mul_lt_mul_right this hpos.le)
  -- rounding up may have made one bit too many, and then the mantissa is a power of two
  rcases hmost.lt_or_eq with hfits | rfl
  · have hcanonical : IsCanonical r t := by
      refine ⟨hfits, by omega, hgreat.symm.imp_left fun hge => ?_⟩
      have : (2 ^ 52 : ℚ) * 2 ^ t < (r + 1) * 2 ^ t := by linarith
      exact Nat.lt_succ_iff.mp (by exact_mod_cast lt_of_mul_lt_mul_right this hpos.le)
    have hlog : r.log2 ≤ 52 := by
      by_cases hr : r = 0
      · rw [hr, Nat.log2_zero]
        omega
      · exact Nat.lt_succ_iff.mp ((Nat.log2_lt hr).mpr hfits)
    refine ⟨r, t, hcanonical, ⟨r, t, rfl, hgreat, hnear, heven⟩, ?_⟩
    rw [shiftToTargetExponent_eq r t .exact 0 (by omega), Int.natCast_zero, Int.add_zero]
    rfl
  · have hcanonical : IsCanonical (2 ^ 52) (t + 1) :=
      ⟨by decide, by omega, .inl le_rfl⟩
    have hvalue : ((2 ^ 52 : ℕ) : ℚ) * 2 ^ (t + 1) = (2 ^ 53 : ℕ) * 2 ^ t := by
      rw [zpow_add_one₀ two_ne_zero]
      push_cast
      ring
    have hlog : (2 ^ 53).log2 = 53 := rfl
    refine ⟨2 ^ 52, t + 1, hcanonical, ⟨2 ^ 53, t, hvalue, hgreat, hnear, fun _ => by decide⟩, ?_⟩
    rw [shiftToTargetExponent_eq (2 ^ 53) t .exact 1 (by omega)]
    rfl

end PartSourcing.Decimal
