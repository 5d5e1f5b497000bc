import Mathlib.Data.EReal.Inv
import PartSourcing.Proofs.Decimal.Rounded
import PartSourcing.Proofs.Decimal.TotalOrder
import PartSourcing.Score.Arithmetic

/-!
# The operations on doubles

**Quotients, differences and naturals are the exact ones, rounded** (`isRounding_div`,
`isRounding_sub`, `isRounding_floatOfNat`), whatever is divided, also if it is infinite or tiny.  A
function that rounds a strictly monotone one is monotone (`monotone_of_isRounding`), and so these
are (`div_le_div`, `sub_le_sub`, `floatOfNat_le`).
-/

namespace PartSourcing.Decimal

open Float.Model Float.Model.UnpackedFloat

/-! ## Quotients -/

/-- A double with a positive value unpacks to its parts. -/
theorem unpack_of_exactValue?_pos {y : Float} {v : ℚ} (hy : exactValue? y = some v) (hv : 0 < v) :
    ∃ m e hm, y.toModel.unpack = .finite .positive m e hm ∧ (m : ℚ) * 2 ^ e = v := by
  rw [exactValue?, Dyadic.ofFloat?_eq] at hy
  generalize y.toModel.unpack = u at hy
  cases u with
  | infinity | notANumber => cases hy
  | zero s =>
    have hzero : |v| = 0 := by
      rw [← Option.some.inj hy, Dyadic.abs_value, Dyadic.magnitude, Nat.cast_zero, zero_mul]
    exact absurd (abs_eq_zero.mp hzero) hv.ne'
  | finite s m e hm =>
    cases s with
    | negative =>
      have hneg : -((m : ℚ) * 2 ^ e) = v := Option.some.inj hy
      have hpos : (0 : ℚ) < m * 2 ^ e := by positivity
      linarith
    | positive => exact ⟨m, e, hm, rfl, Option.some.inj hy⟩

/-- What a fraction comes to, as a half or more and as neither nothing nor a half. -/
theorem bits_accuracyOfFraction (m : Nat) {a n : Nat} (hn : 0 < n) :
    ((ExtendedMantissa.ofMantissaAndAccuracy m (accuracyOfFraction a n)).roundBit = true ↔
      n ≤ 2 * a) ∧
    ((ExtendedMantissa.ofMantissaAndAccuracy m (accuracyOfFraction a n)).stickyBit = true ↔
      a ≠ 0 ∧ 2 * a ≠ n) := by
  unfold accuracyOfFraction
  by_cases h0 : a = 0
  · rw [if_pos h0]
    exact ⟨iff_of_false Bool.false_ne_true (by omega), iff_of_false Bool.false_ne_true (by omega)⟩
  rw [if_neg h0]
  rcases lt_trichotomy (2 * a) n with hless | hsame | hmore
  · rw [compare_lt_iff_lt.mpr hless]
    exact ⟨iff_of_false Bool.false_ne_true (by omega), iff_of_true rfl (by omega)⟩
  · rw [compare_eq_iff_eq.mpr hsame]
    exact ⟨iff_of_true rfl (by omega), iff_of_false Bool.false_ne_true (by omega)⟩
  · rw [compare_gt_iff_gt.mpr hmore]
    exact ⟨iff_of_true rfl (by omega), iff_of_true rfl (by omega)⟩

/-- **A quotient is cut with what the division leaves.** -/
theorem isCut_accuracyOfFraction {q : ℚ} {m n : Nat} {t : ℤ} (hn : 0 < n)
    (h : q = m / n * 2 ^ t) :
    IsCut q t (.ofMantissaAndAccuracy (m / n) (accuracyOfFraction (m % n) n))
      ((m % n : ℕ) / n) := by
  have hpos : (0 : ℚ) < n := by exact_mod_cast hn
  have hhalf : (1 : ℚ) / 2 ≤ (m % n : ℕ) / n ↔ n ≤ 2 * (m % n) := by
    rw [div_le_div_iff₀ two_pos hpos, one_mul, mul_comm]
    exact_mod_cast Iff.rfl
  have heq : ((m % n : ℕ) / n : ℚ) = 1 / 2 ↔ 2 * (m % n) = n := by
    rw [div_eq_div_iff hpos.ne' two_ne_zero, one_mul, mul_comm]
    exact_mod_cast Iff.rfl
  have hzero : ((m % n : ℕ) / n : ℚ) = 0 ↔ m % n = 0 := by
    rw [div_eq_zero_iff, or_iff_left hpos.ne', Nat.cast_eq_zero]
  have hsplit : (m : ℚ) / n = (m / n : ℕ) + ((m % n : ℕ) / n : ℚ) := by
    have hm : (m : ℚ) = n * (m / n : ℕ) + (m % n : ℕ) := by
      exact_mod_cast (Nat.div_add_mod m n).symm
    rw [eq_comm, ← mul_left_inj' hpos.ne', add_mul, div_mul_cancel₀ _ hpos.ne',
      div_mul_cancel₀ _ hpos.ne', hm, mul_comm (n : ℚ)]
  obtain ⟨hround, hsticky⟩ := bits_accuracyOfFraction (m / n) (a := m % n) hn
  have hlt : ((m % n : ℕ) : ℚ) < n := by exact_mod_cast Nat.mod_lt m hn
  exact ⟨by rw [mantissa_ofMantissaAndAccuracy, h, hsplit], by positivity,
    (div_lt_one hpos).mpr hlt, hround.trans hhalf.symm,
    hsticky.trans (by rw [ne_eq, ne_eq, ne_eq, ne_eq, hzero, heq])⟩

theorem div_positive (s : Sign) : s / .positive = s := by cases s <;> rfl

/-- **The mantissas are divided with enough bits** to round the quotient. -/
theorem divCore_bits {m n : Nat} (e d : ℤ) (hm : 0 < m) (hn : 0 < n) :
    ∃ k t, e - d - (k : ℕ) = t ∧ (t ≤ -1074 ∨ 52 ≤ (m * 2 ^ k / n).log2) ∧
      divCore Format.binary64 m e n d =
        (m * 2 ^ k / n, t, accuracyOfFraction (m * 2 ^ k % n) n) := by
  have hbits : (Format.binary64.mantissaBits : ℤ) = 53 := rfl
  have hmin : Format.binary64.minExponent = -1074 := rfl
  obtain ⟨t, ht⟩ : ∃ t, min (e - d) (Format.binary64.targetExponent
      (totalExponent m e - totalExponent n d)) = t := ⟨_, rfl⟩
  have htarget := ht
  rw [Format.targetExponent, totalExponent, totalExponent, hbits, hmin] at htarget
  refine ⟨(e - d - t).toNat, t, by omega, ?_, ?_⟩
  · generalize hk : (e - d - t).toNat = k
    by_cases hleast : t ≤ -1074
    · exact .inl hleast
    · have hlog : (m * 2 ^ k).log2 = m.log2 + k := log2_mul_two_pow hm.ne' k
      have hne : m * 2 ^ k ≠ 0 := Nat.mul_ne_zero hm.ne' (Nat.two_pow_pos k).ne'
      have hge : 2 ^ (52 + (n.log2 + 1)) ≤ m * 2 ^ k :=
        (Nat.le_log2 hne).mp (by omega)
      have hquotient : 2 ^ 52 ≤ m * 2 ^ k / n := by
        rw [Nat.le_div_iff_mul_le hn]
        rw [Nat.pow_add] at hge
        exact (Nat.mul_le_mul_left _ Nat.lt_log2_self.le).trans hge
      exact .inr ((Nat.le_log2 (by omega)).mpr hquotient)
  · rw [divCore, ht, Nat.shiftLeft_eq]

/-- A number divided by a positive one is what rounding these bits makes, with its sign. -/
theorem div_finite (s : Sign) {m n : Nat} (e d : ℤ) (hm : 0 < m) (hn : 0 < n) :
    ∃ k t, e - d - (k : ℕ) = t ∧ (t ≤ -1074 ∨ 52 ≤ (m * 2 ^ k / n).log2) ∧
      UnpackedFloat.div Format.binary64 (.finite s m e hm) (.finite .positive n d hn) =
        roundWithAccuracy Format.binary64 s (m * 2 ^ k / n) t
          (accuracyOfFraction (m * 2 ^ k % n) n) := by
  obtain ⟨k, t, ht, hbits, hcore⟩ := divCore_bits e d hm hn
  refine ⟨k, t, ht, hbits, ?_⟩
  show roundWithAccuracy Format.binary64 (s / .positive) (divCore Format.binary64 m e n d).1
    (divCore Format.binary64 m e n d).2.1 (divCore Format.binary64 m e n d).2.2 = _
  rw [hcore, div_positive]

/-- **A quotient is the exact one, rounded.** -/
theorem isRounding_div {x y : Float} {p : EReal} {v : ℚ} (hx : place? x = some p)
    (hy : exactValue? y = some v) (hv : 0 < v) :
    IsRounding (p / ((v : ℝ) : EReal)) (x / y) := by
  obtain ⟨n, d, hn, hunpack, rfl⟩ := unpack_of_exactValue?_pos hy hv
  have hreal : (0 : ℝ) < (n * 2 ^ d : ℚ) := by exact_mod_cast hv
  have hdiv : (x / y).toModel = Float.Model.pack (UnpackedFloat.div Format.binary64
      x.toModel.unpack (.finite .positive n d hn)) := by rw [← hunpack]; rfl
  unfold place? at hx
  generalize x.toModel.unpack = u at hx hdiv
  cases u with
  | notANumber => cases hx
  | infinity s =>
    replace hdiv : (x / y).toModel = Float.Model.pack (.infinity (s / .positive)) := hdiv
    rw [div_positive] at hdiv
    have hinf : place? (x / y) = some p := by
      rw [← hx, place?, hdiv]
      exact congrArg placeOf? (unpack_packedInfinity s)
    cases s with
    | negative =>
      obtain rfl := Option.some.inj hx
      rw [EReal.bot_div_of_pos_ne_top (EReal.coe_pos.mpr hreal) (EReal.coe_ne_top _)]
      exact .infinite (.inr rfl) hinf
    | positive =>
      obtain rfl := Option.some.inj hx
      rw [EReal.top_div_of_pos_ne_top (EReal.coe_pos.mpr hreal) (EReal.coe_ne_top _)]
      exact .infinite (.inl rfl) hinf
  | zero s =>
    replace hdiv : (x / y).toModel = Float.Model.pack (.zero (s / .positive)) := hdiv
    rw [div_positive] at hdiv
    obtain rfl := Option.some.inj hx
    rw [EReal.zero_div]
    exact .zero (by rw [place?, hdiv, unpack_pack_zero]; rfl)
  | finite s m e hm =>
    -- the mantissas are divided with as many bits as rounding the quotient needs
    obtain rfl := Option.some.inj hx
    obtain ⟨k, t, ht, hbits, hparts⟩ := div_finite s e d hm hn
    have hquotient : (m * 2 ^ e : ℚ) / (n * 2 ^ d) = (m * 2 ^ k : ℕ) / n * 2 ^ t := by
      have hpos : (0 : ℚ) < n := by exact_mod_cast hn
      rw [← ht, zpow_sub₀ two_ne_zero, zpow_sub₀ two_ne_zero, zpow_natCast]
      push_cast
      field_simp
    obtain ⟨m', e', hcanonical, hrounded, hround⟩ :=
      exists_round s (isCut_accuracyOfFraction hn hquotient) hbits
    rw [hparts, hround] at hdiv
    have hsigned : (signed s (m * 2 ^ e) : ℝ) / (n * 2 ^ d : ℚ) =
        (signed s ((m * 2 ^ e : ℚ) / (n * 2 ^ d)) : ℚ) := by
      cases s
      · show ((-(m * 2 ^ e : ℚ) : ℚ) : ℝ) / (n * 2 ^ d : ℚ) = (-(m * 2 ^ e / (n * 2 ^ d)) : ℚ)
        rw [← Rat.cast_div, neg_div]
      · exact (Rat.cast_div _ _).symm
    rw [← EReal.coe_div, hsigned]
    exact .of_parts s hcanonical hrounded hdiv

/-! ## Differences -/

/-- Rounding a number that is written with few bits or with many. -/
theorem exists_round_exact {m : Nat} (s : Sign) (e : ℤ) (hm : 0 < m) :
    ∃ m' e', IsCanonical m' e' ∧ IsRounded (m * 2 ^ e) m' e' ∧
      UnpackedFloat.round Format.binary64 s m e = ofParts s m' e' := by
  have hbits : (Format.binary64.mantissaBits : ℤ) = 53 := rfl
  have hmin : Format.binary64.minExponent = -1074 := rfl
  obtain ⟨t, ht⟩ : ∃ t, Format.binary64.targetExponent (totalExponent m e) = t := ⟨_, rfl⟩
  have htarget := ht
  rw [Format.targetExponent, totalExponent, hbits, hmin] at htarget
  unfold UnpackedFloat.round decreaseExponent
  rw [ht]
  dsimp only
  rw [Nat.shiftLeft_eq]
  generalize hk : (e - t).toNat = k
  have hlog : (m * 2 ^ k).log2 = m.log2 + k := log2_mul_two_pow hm.ne' k
  have hvalue : (m * 2 ^ e : ℚ) = (m * 2 ^ k : ℕ) * 2 ^ (e - k) := by
    rw [zpow_sub₀ two_ne_zero, zpow_natCast]
    push_cast
    field_simp
  exact exists_round s (isCut_ofMantissa hvalue) (by omega)

/-- **What is normalized is rounded.** -/
theorem isRounding_normalize {x : Float} {m e : ℤ}
    (hx : x.toModel = Float.Model.pack (UnpackedFloat.normalize Format.binary64 m e .positive)) :
    IsRounding (((m * 2 ^ e : ℚ) : ℝ) : EReal) x := by
  -- a mantissa that is not zero is rounded with its sign
  have hsigned (s : Sign) {n : Nat} (hn : 0 < n) (hself : (m * 2 ^ e : ℚ) = signed s (n * 2 ^ e))
      (hround : x.toModel = Float.Model.pack (UnpackedFloat.round Format.binary64 s n e)) :
      IsRounding (((m * 2 ^ e : ℚ) : ℝ) : EReal) x := by
    obtain ⟨m', e', hcanonical, hrounded, hparts⟩ := exists_round_exact s e hn
    rw [hparts] at hround
    rw [hself]
    exact .of_parts s hcanonical hrounded hround
  unfold UnpackedFloat.normalize at hx
  rcases lt_trichotomy m 0 with hneg | rfl | hpos
  · rw [compare_lt_iff_lt.mpr hneg] at hx
    refine hsigned .negative (n := (-m).toNat) (by omega) ?_ hx
    have hcast : (((-m).toNat : ℤ) : ℚ) = -m := by
      rw [Int.toNat_of_nonneg (by omega)]
      push_cast
      rfl
    show _ = -_
    rw [← Int.cast_natCast, hcast, neg_mul, neg_neg]
  · rw [compare_eq_iff_eq.mpr rfl] at hx
    have hzero : (((((0 : ℤ) : ℚ) * 2 ^ e : ℚ) : ℝ) : EReal) = 0 := by
      rw [Int.cast_zero, zero_mul]
      norm_cast
    rw [hzero]
    exact .zero (by rw [place?, hx, unpack_pack_zero]; rfl)
  · rw [compare_gt_iff_gt.mpr hpos] at hx
    refine hsigned .positive (n := m.toNat) (by omega) ?_ hx
    have hcast : ((m.toNat : ℤ) : ℚ) = m := by rw [Int.toNat_of_nonneg (by omega)]
    show _ = _ * _
    rw [← Int.cast_natCast, hcast]

/-- **A difference is the exact one, rounded.** -/
theorem isRounding_sub {x y : Float} {p : EReal} {v : ℚ} (hx : place? x = some p)
    (hy : exactValue? y = some v) (hv : 0 < v) :
    IsRounding (p - ((v : ℝ) : EReal)) (x - y) := by
  obtain ⟨n, d, hn, hunpack, rfl⟩ := unpack_of_exactValue?_pos hy hv
  have hsub : (x - y).toModel = Float.Model.pack (UnpackedFloat.sub Format.binary64
      x.toModel.unpack (.finite .positive n d hn)) := by rw [← hunpack]; rfl
  unfold place? at hx
  generalize x.toModel.unpack = u at hx hsub
  cases u with
  | notANumber => cases hx
  | infinity s =>
    have hinf : place? (x - y) = some p := by
      rw [← hx, place?, hsub]
      exact congrArg placeOf? (unpack_packedInfinity s)
    cases s with
    | negative =>
      obtain rfl := Option.some.inj hx
      rw [EReal.bot_sub]
      exact .infinite (.inr rfl) hinf
    | positive =>
      obtain rfl := Option.some.inj hx
      rw [EReal.top_sub_coe]
      exact .infinite (.inl rfl) hinf
  | zero s =>
    obtain rfl := Option.some.inj hx
    have hself : (0 : EReal) - ((n * 2 ^ d : ℚ) : ℝ) = (signed .negative (n * 2 ^ d : ℚ) : ℝ) := by
      show (0 : EReal) - ((n * 2 ^ d : ℚ) : ℝ) = ((-(n * 2 ^ d) : ℚ) : ℝ)
      rw [zero_sub]
      norm_cast
    -- what is left has the parts of the subtrahend, which need no rounding
    have hcanonical := (isCanonical_of_unpack hunpack).1
    rw [hself]
    refine .of_parts .negative hcanonical hcanonical.isRounded ?_
    rw [ofParts_of_pos _ _ hn]
    exact hsub
  | finite s m e hm =>
    -- both mantissas are brought to the lesser exponent, so their difference is exact
    obtain rfl := Option.some.inj hx
    obtain ⟨k, hk⟩ : ∃ k : ℕ, e - min e d = k := ⟨(e - min e d).toNat, by omega⟩
    obtain ⟨l, hl⟩ : ∃ l : ℕ, d - min e d = l := ⟨(d - min e d).toNat, by omega⟩
    generalize ht : min e d = t at hk hl
    have hmantissas : UnpackedFloat.sub Format.binary64 (.finite s m e hm)
        (.finite .positive n d hn) =
        UnpackedFloat.normalize Format.binary64 (s.apply (m * 2 ^ k : ℕ) - (n * 2 ^ l : ℕ)) t
          .positive := by
      show UnpackedFloat.normalize Format.binary64
        (s.apply (m <<< (e - min e d).toNat : ℕ) - (n <<< (d - min e d).toNat : ℕ)) (min e d)
          .positive = _
      rw [ht, hk, hl, Int.toNat_natCast, Int.toNat_natCast, Nat.shiftLeft_eq, Nat.shiftLeft_eq]
    rw [hmantissas] at hsub
    have hvalue : (signed s (m * 2 ^ e) - n * 2 ^ d : ℚ) =
        ((s.apply (m * 2 ^ k : ℕ) - (n * 2 ^ l : ℕ) : ℤ) : ℚ) * 2 ^ t := by
      have he : (2 : ℚ) ^ e = 2 ^ k * 2 ^ t := by
        rw [← zpow_natCast, ← zpow_add₀ two_ne_zero]
        congr 1
        omega
      have hd : (2 : ℚ) ^ d = 2 ^ l * 2 ^ t := by
        rw [← zpow_natCast, ← zpow_add₀ two_ne_zero]
        congr 1
        omega
      rw [he, hd]
      cases s
      · show -((m : ℚ) * (2 ^ k * 2 ^ t)) - _ = ((-(m * 2 ^ k : ℕ) - (n * 2 ^ l : ℕ) : ℤ) : ℚ) * _
        push_cast
        ring
      · show (m : ℚ) * (2 ^ k * 2 ^ t) - _ = (((m * 2 ^ k : ℕ) - (n * 2 ^ l : ℕ) : ℤ) : ℚ) * _
        push_cast
        ring
    rw [← EReal.coe_sub, ← Rat.cast_sub, hvalue]
    exact isRounding_normalize hsub

/-! ## Naturals -/

open ScoreNumber in
/-- A natural with few bits is read as it is. -/
theorem exactValue?_floatOfNat {n : Nat} (h : n < 2 ^ 53) :
    exactValue? (floatOfNat n) = some (n : ℚ) := by
  by_cases hn : n = 0
  · have hzero : Dyadic.ofFloat? (floatOfNat 0) = some ⟨false, 0, -1074⟩ := by decide
    rw [hn, exactValue?, hzero, Option.map_some, Dyadic.value, Dyadic.magnitude, Nat.cast_zero,
      zero_mul]
    rfl
  · obtain ⟨k, hlog⟩ := exists_log2_add hn h
    have hread : floatOfNat n = n.toUInt64.toFloat * Float.ofBits 0x3FF0000000000000 :=
      dif_pos ⟨h, Nat.zero_le 22⟩
    rw [hread]
    exact (exactValue?_of_unpack (unpack_mul_one hlog hn h)).trans (congrArg some value_of_log2)

open ScoreNumber in
/-- **A natural is read as itself, rounded.** -/
theorem isRounding_floatOfNat (n : Nat) :
    IsRounding (((n : ℚ) : ℝ) : EReal) (floatOfNat n) := by
  by_cases hlt : n < 2 ^ 53
  · exact .of_exactValue? (exactValue?_floatOfNat hlt)
  · have hn : n ≠ 0 := by
      rintro rfl
      exact hlt (by decide)
    have hread : floatOfNat n = Float.ofModel (Float.Model.ofScientific n 0) :=
      dif_neg fun h => hlt h.1
    obtain ⟨m, e, hcanonical, hrounded, hround⟩ := exists_round_ofScientific hn
    refine .of_parts .positive hcanonical hrounded ?_
    rw [hread, ← hround]
    rfl

/-! ## Monotony -/

/-- **Doubles that are equally great** unpack to the same, unless they are zeros. -/
theorem eq_of_compare_eq {u v : UnpackedFloat} (h : u.compare v = some .eq) :
    u = v ∨ ∃ s t, u = .zero s ∧ v = .zero t := by
  have hfinite {e e' : ℤ} {m m' : Nat} (h : (compare e e').then (compare m m') = .eq) :
      e = e' ∧ m = m' := by
    rw [Ordering.then_eq_eq] at h
    exact ⟨compare_eq_iff_eq.mp h.1, compare_eq_iff_eq.mp h.2⟩
  cases u with
  | notANumber => cases h
  | infinity s =>
    cases v with
    | notANumber => cases h
    | infinity t => cases s <;> cases t <;> first | exact .inl rfl | cases h
    | zero t => cases s <;> cases h
    | finite t => cases s <;> cases h
  | zero s =>
    cases v with
    | notANumber => cases h
    | infinity t => cases t <;> cases h
    | zero t => exact .inr ⟨s, t, rfl, rfl⟩
    | finite t => cases t <;> cases h
  | finite s m e hm =>
    cases v with
    | notANumber => cases h
    | infinity t => cases s <;> cases t <;> cases h
    | zero t => cases s <;> cases h
    | finite t m' e' hm' =>
      cases s <;> cases t
      · obtain ⟨rfl, rfl⟩ := hfinite (Ordering.swap_eq_eq.mp (Option.some.inj h))
        exact .inl rfl
      · cases h
      · cases h
      · obtain ⟨rfl, rfl⟩ := hfinite (Option.some.inj h)
        exact .inl rfl

/-- **No two doubles denote the same number**, zero apart. -/
theorem eq_of_exactValue?_eq {x y : Float} {v : ℚ} (hx : exactValue? x = some v)
    (hy : exactValue? y = some v) (hv : v ≠ 0) : x = y := by
  have hsame : x.toModel.unpack.compare y.toModel.unpack = some .eq := by
    rw [compare_unpack, place?_of_exactValue? hx, place?_of_exactValue? hy, Option.bind_some,
      Option.map_some, compare_eq_iff_eq.mpr rfl]
  obtain ⟨d, hd, hvalue⟩ := Option.map_eq_some_iff.mp hx
  rcases eq_of_compare_eq hsame with heq | ⟨s, t, hzero, -⟩
  · exact eq_of_ofFloat?_eq hd (by rw [Dyadic.ofFloat?_eq, ← heq, ← Dyadic.ofFloat?_eq, hd])
  · rw [Dyadic.ofFloat?_eq, hzero] at hd
    have habs : |v| = 0 := by
      rw [← hvalue, Dyadic.abs_value, ← Option.some.inj hd, Dyadic.magnitude, Nat.cast_zero,
        zero_mul]
    exact absurd (abs_eq_zero.mp habs) hv

/-- **An operation that rounds a strictly monotone function is monotone**, if that takes zero to a
number on the grid. -/
theorem monotone_of_isRounding {f : Float → Float} {φ : EReal → EReal} (hφ : StrictMono φ)
    (hf : ∀ {x p}, place? x = some p → IsRounding (φ p) (f x))
    (hunpack : ∀ {x y : Float}, x.toModel.unpack = y.toModel.unpack → f x = f y)
    {v : ℚ} (hzero : φ 0 = ((v : ℝ) : EReal)) (hv : OnGrid v) {x y : Float} (h : x ≤ y) :
    f x ≤ f y := by
  obtain ⟨p, q, hp, hq, hle⟩ := float_le_iff.mp h
  rcases hle.lt_or_eq with hlt | rfl
  · exact (hf hp).le_of_lt (hf hq) (hφ hlt)
  · -- equally great doubles are the same, or they are the two zeros
    have hsame : x.toModel.unpack.compare y.toModel.unpack = some .eq := by
      rw [compare_unpack, hp, hq, Option.bind_some, Option.map_some, compare_eq_iff_eq.mpr rfl]
    rcases eq_of_compare_eq hsame with heq | ⟨s, t, hx, -⟩
    · obtain ⟨r, hr⟩ := (hf hp).exists_place
      exact le_of_place_eq hr (hunpack heq ▸ hr)
    · obtain rfl : p = 0 := by
        rw [place?, hx] at hp
        exact (Option.some.inj hp).symm
      have hx := hf hp
      have hy := hf hq
      rw [hzero] at hx hy
      exact le_of_place_eq (hx.place?_eq hv) (hy.place?_eq hv)

section Positive

variable {x y t : Float} {v : ℚ} (ht : exactValue? t = some v) (hv : 0 < v)

include ht hv

/-- **A lesser double less the same is no greater.** -/
theorem sub_le_sub (h : x ≤ y) : x - t ≤ y - t := by
  have hmono : StrictMono fun p : EReal => p - ((v : ℝ) : EReal) := by
    intro p q hlt
    show p - ((v : ℝ) : EReal) < q - ((v : ℝ) : EReal)
    rw [sub_eq_add_neg, sub_eq_add_neg, ← EReal.coe_neg]
    exact EReal.add_lt_add_right_coe hlt _
  have hmodel (z : Float) : z - t = Float.ofModel (Float.Model.pack (UnpackedFloat.sub
      Format.binary64 z.toModel.unpack t.toModel.unpack)) := rfl
  have hzero : (0 : EReal) - ((v : ℝ) : EReal) = ((-v : ℚ) : ℝ) := by
    rw [zero_sub]
    norm_cast
  refine monotone_of_isRounding hmono (fun hp => isRounding_sub hp ht hv) (fun hunpack => ?_) hzero
    (onGrid_of_exactValue? ht).1.neg h
  rw [hmodel, hmodel, hunpack]

/-- **A lesser double by the same positive one is no greater.** -/
theorem div_le_div (h : x ≤ y) : x / t ≤ y / t := by
  have hreal : (0 : ℝ) < v := by exact_mod_cast hv
  have hmono : StrictMono fun p : EReal => p / ((v : ℝ) : EReal) :=
    EReal.strictMono_div_right_of_pos (EReal.coe_pos.mpr hreal) (EReal.coe_ne_top _)
  have hmodel (z : Float) : z / t = Float.ofModel (Float.Model.pack (UnpackedFloat.div
      Format.binary64 z.toModel.unpack t.toModel.unpack)) := rfl
  have hzero : (0 : EReal) / ((v : ℝ) : EReal) = ((0 : ℚ) : ℝ) := by
    rw [EReal.zero_div]
    norm_cast
  refine monotone_of_isRounding hmono (fun hp => isRounding_div hp ht hv) (fun hunpack => ?_) hzero
    (onGrid_of_exactValue? exactValue?_zero).1 h
  rw [hmodel, hmodel, hunpack]

/-- What is divided by no more than itself gives one or more. -/
theorem one_le_div (h : t ≤ x) : 1.0 ≤ x / t := by
  obtain ⟨q, p, hq, hp, hle⟩ := float_le_iff.mp h
  obtain rfl := Option.some.inj (hq.symm.trans (place?_of_exactValue? ht))
  have hreal : (0 : ℝ) < v := by exact_mod_cast hv
  refine (isRounding_div hp ht hv).ge_of_ge exactValue?_one ?_
  rw [EReal.le_div_iff_mul_le (EReal.coe_pos.mpr hreal) (EReal.coe_ne_top _), Rat.cast_one,
    EReal.coe_one, one_mul]
  exact hle

/-- What is divided by no less than itself gives one or less. -/
theorem div_le_one (h : x ≤ t) : x / t ≤ 1.0 := by
  obtain ⟨p, q, hp, hq, hle⟩ := float_le_iff.mp h
  obtain rfl := Option.some.inj (hq.symm.trans (place?_of_exactValue? ht))
  have hreal : (0 : ℝ) < v := by exact_mod_cast hv
  refine (isRounding_div hp ht hv).le_of_le exactValue?_one ?_
  rw [EReal.div_le_iff_le_mul (EReal.coe_pos.mpr hreal) (EReal.coe_ne_top _), Rat.cast_one,
    EReal.coe_one, mul_one]
  exact hle

/-- What is not below zero stays so when it is divided. -/
theorem div_nonneg (h : 0.0 ≤ x) : 0.0 ≤ x / t := by
  obtain ⟨q, p, hq, hp, hle⟩ := float_le_iff.mp h
  obtain rfl := Option.some.inj (hq.symm.trans (place?_of_exactValue? exactValue?_zero))
  have hreal : (0 : ℝ) < v := by exact_mod_cast hv
  refine (isRounding_div hp ht hv).ge_of_ge exactValue?_zero ?_
  rw [EReal.le_div_iff_mul_le (EReal.coe_pos.mpr hreal) (EReal.coe_ne_top _), Rat.cast_zero,
    EReal.coe_zero, zero_mul]
  rwa [Rat.cast_zero, EReal.coe_zero] at hle

end Positive

open ScoreNumber in
/-- **Lesser naturals are read as no greater doubles.** -/
theorem floatOfNat_le {m n : Nat} (h : m ≤ n) : floatOfNat m ≤ floatOfNat n := by
  rcases h.lt_or_eq with hlt | rfl
  · refine (isRounding_floatOfNat m).le_of_lt (isRounding_floatOfNat n) ?_
    exact EReal.coe_lt_coe_iff.mpr (by exact_mod_cast hlt)
  · obtain ⟨p, hp⟩ := (isRounding_floatOfNat m).exists_place
    exact le_of_place_eq hp hp

end PartSourcing.Decimal
