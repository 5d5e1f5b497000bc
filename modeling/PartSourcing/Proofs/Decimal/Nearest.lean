import Mathlib.Tactic.FieldSimp
import PartSourcing.Decimal.Reader
import PartSourcing.Proofs.Decimal.Rounding

/-!
# The nearest double

The numbers that doubles denote are far apart where they are great: from a power of two on they are
multiples of what the last bit of a mantissa stands for there, and all others are below it
(`Dyadic.on_grid`).  So what a number is rounded to is nearer to it than any other double
(`isNearest_of_isRounded`).

**A natural is read as the double nearest to it**, with a minus sign as that nearest to its
negative, unless it is out of reach (`isNearest_nearestFloat`).
-/

namespace PartSourcing.Decimal

open Float.Model Float.Model.UnpackedFloat

/-- **The double nearest to a number**, the even one of two that are equally near. -/
def IsNearest (x : Float) (q : ℚ) : Prop :=
  ∃ d, Dyadic.ofFloat? x = some d ∧ ∀ y d', Dyadic.ofFloat? y = some d' →
    |d.value - q| ≤ |d'.value - q| ∧
      (|d.value - q| = |d'.value - q| → d'.value = d.value ∨ Even d.mantissa)

/-! ## The numbers that doubles denote -/

namespace Dyadic

/-- A number is a multiple of every power of two that is no greater than its own. -/
theorem exists_multiple (d : Dyadic) {t : ℤ} (ht : t ≤ d.exponent) :
    ∃ j : ℤ, d.value = j * 2 ^ t := by
  obtain ⟨k, hk⟩ := Int.eq_ofNat_of_zero_le (sub_nonneg.mpr ht)
  have hmagnitude : d.magnitude = (d.mantissa * 2 ^ k : ℕ) * 2 ^ t := by
    have hexponent : d.exponent = k + t := by omega
    rw [magnitude, hexponent, zpow_add₀ two_ne_zero, zpow_natCast]
    push_cast
    ring
  unfold value
  split
  · exact ⟨-(d.mantissa * 2 ^ k : ℕ), by rw [hmagnitude]; push_cast; ring⟩
  · exact ⟨(d.mantissa * 2 ^ k : ℕ), by rw [hmagnitude]; push_cast; ring⟩

/-- **Numbers with a mantissa of 53 bits lie on a grid**, or below where it starts. -/
theorem on_grid {d : Dyadic} (hd : d.mantissa < 2 ^ 53) (t : ℤ) :
    (∃ j : ℤ, d.value = j * 2 ^ t) ∨ |d.value| < 2 ^ 52 * 2 ^ t := by
  by_cases ht : t ≤ d.exponent
  · exact .inl (d.exists_multiple ht)
  · right
    have hmantissa : (d.mantissa : ℚ) < 2 ^ 53 := by exact_mod_cast hd
    have hexponent : (2 : ℚ) ^ d.exponent ≤ 2 ^ (t - 1) :=
      zpow_le_zpow_right₀ one_le_two (by omega)
    calc |d.value| = d.mantissa * 2 ^ d.exponent := d.abs_value
      _ ≤ d.mantissa * 2 ^ (t - 1) := mul_le_mul_of_nonneg_left hexponent (Nat.cast_nonneg _)
      _ < 2 ^ 53 * 2 ^ (t - 1) := mul_lt_mul_of_pos_right hmantissa (by positivity)
      _ = 2 ^ 52 * 2 ^ t := by rw [zpow_sub_one₀ two_ne_zero]; ring

/-- A number with the other sign. -/
theorem value_not (d : Dyadic) :
    (⟨!d.negative, d.mantissa, d.exponent⟩ : Dyadic).value = -d.value := by
  unfold value
  cases d.negative
  · rfl
  · exact (neg_neg _).symm

end Dyadic

/-! ## Nearer than any other -/

/-- The distance of a negative is that to the negative. -/
theorem abs_neg_sub (v q : ℚ) : |-v - q| = |v - -q| := by
  rw [← abs_neg, neg_sub, sub_neg_eq_add, sub_neg_eq_add, add_comm]

/-- **What is off by no more than half of a grid is nearest** on it, and nearer than what lies below
its start, if that is no greater than the number. -/
theorem near_on_grid {q v w p : ℚ} (hp : 0 < p) {r : ℤ} (hv : v = r * p)
    (hnear : 2 * |q - v| ≤ p)
    (hw : (∃ j : ℤ, w = j * p) ∨ 2 ^ 52 * p ≤ q ∧ |w| < 2 ^ 52 * p) :
    |v - q| ≤ |w - q| ∧ (|v - q| = |w - q| → w = v ∨ 2 * |q - v| = p) := by
  have hgrid (j : ℤ) : |v - q| ≤ |j * p - q| ∧
      (|v - q| = |j * p - q| → j * p = v ∨ 2 * |q - v| = p) := by
    by_cases hj : j = r
    · rw [hj, ← hv]
      exact ⟨le_rfl, fun _ => .inl rfl⟩
    · -- another number on the grid is a whole step away
      have hstep : p ≤ |j * p - v| := by
        have hone : (1 : ℚ) ≤ |((j - r : ℤ) : ℚ)| := by
          exact_mod_cast Int.one_le_abs (sub_ne_zero.mpr hj)
        rw [hv, ← sub_mul, abs_mul, abs_of_pos hp, ← Int.cast_sub]
        exact le_mul_of_one_le_left hp.le hone
      have htriangle := abs_sub_le (j * p) q v
      rw [abs_sub_comm v q]
      exact ⟨by linarith, fun heq => .inr (by linarith)⟩
  rcases hw with ⟨j, rfl⟩ | ⟨hq, hbelow⟩
  · exact hgrid j
  · have hstart := (hgrid (2 ^ 52)).1
    push_cast at hstart
    have hlt : |(2 : ℚ) ^ 52 * p - q| < |w - q| := by
      rw [abs_sub_comm _ q, abs_sub_comm w q, abs_of_nonneg (by linarith)]
      have := le_abs_self w
      exact lt_of_lt_of_le (by linarith) (le_abs_self _)
    exact ⟨(hstart.trans_lt hlt).le, fun heq => absurd heq (hstart.trans_lt hlt).ne⟩

/-- **What a number is rounded to is nearest to it** of all numbers with a mantissa of 53 bits and
no lesser exponent than there is, and one that is equally near is the same or its mantissa is odd.
-/
theorem IsRounded.near {q : ℚ} {m : Nat} {e : ℤ} (h : IsRounded q m e) {d : Dyadic}
    (hd : d.mantissa < 2 ^ 53) (hleast : -1074 ≤ d.exponent) :
    |(m : ℚ) * 2 ^ e - q| ≤ |d.value - q| ∧
      (|(m : ℚ) * 2 ^ e - q| = |d.value - q| → d.value = m * 2 ^ e ∨ Even m) := by
  obtain ⟨r, t, hvalue, hgreat, hnear, heven⟩ := h
  have hp : (0 : ℚ) < 2 ^ t := by positivity
  have hw : (∃ j : ℤ, d.value = j * 2 ^ t) ∨ 2 ^ 52 * 2 ^ t ≤ q ∧ |d.value| < 2 ^ 52 * 2 ^ t := by
    rcases hgreat with rfl | hq
    · exact .inl (d.exists_multiple hleast)
    · exact (d.on_grid hd t).imp_right fun hbelow => ⟨hq, hbelow⟩
  rw [← hvalue] at hnear heven
  obtain ⟨hle, heq⟩ := near_on_grid hp (r := r) (by exact_mod_cast hvalue) hnear hw
  exact ⟨hle, fun htie => (heq htie).imp_right heven⟩

/-- A number that has a mantissa of 53 bits is rounded to itself. -/
theorem IsRounded.eq_of_value {d : Dyadic} {m : Nat} {e : ℤ} (h : IsRounded d.value m e)
    (hd : d.mantissa < 2 ^ 53) (hleast : -1074 ≤ d.exponent) : (m : ℚ) * 2 ^ e = d.value := by
  have hle := (h.near hd hleast).1
  rw [sub_self, abs_zero, abs_nonpos_iff] at hle
  exact sub_eq_zero.mp hle

/-- **What a number is rounded to is the double nearest to it**, and with a minus sign that nearest
to its negative. -/
theorem isNearest_of_isRounded {q : ℚ} {m : Nat} {e : ℤ} (h : IsRounded q m e) {x : Float}
    (negative : Bool) (hx : Dyadic.ofFloat? x = some ⟨negative, m, e⟩) :
    IsNearest x (if negative then -q else q) := by
  refine ⟨_, hx, fun y d hy => ?_⟩
  obtain ⟨hcanonical, -⟩ := Dyadic.isCanonical hy
  cases negative with
  | false => exact h.near hcanonical.lt hcanonical.least
  | true =>
    -- the distance to a negative number is that of the negatives
    obtain ⟨hle, heq⟩ := h.near (d := ⟨!d.negative, d.mantissa, d.exponent⟩) hcanonical.lt
      hcanonical.least
    have hself : |((m : ℚ) * 2 ^ e) - q| = |-((m : ℚ) * 2 ^ e) - -q| := by
      rw [← abs_neg_sub, neg_neg]
    rw [d.value_not, abs_neg_sub, hself] at hle heq
    exact ⟨hle, fun h => (heq h).imp neg_eq_iff_eq_neg.mp id⟩

/-! ## Naturals -/

/-- A number in canonical form is rounded to itself. -/
theorem IsCanonical.isRounded {m : Nat} {e : ℤ} (h : IsCanonical m e) :
    IsRounded (m * 2 ^ e) m e := by
  have hpos : (0 : ℚ) < 2 ^ e := by positivity
  refine ⟨m, e, rfl, h.full.symm.imp_right fun hfull => ?_, ?_, ?_⟩
  · have : (2 : ℚ) ^ 52 ≤ m := by exact_mod_cast hfull
    exact mul_le_mul_of_nonneg_right this hpos.le
  all_goals rw [sub_self, abs_zero, mul_zero]
  · exact hpos.le
  · exact fun hzero => absurd hzero hpos.ne

/-- **A normal number is not changed by rounding**, however many bits it is written with. -/
theorem IsNormal.round_eq {m : Nat} {e : ℤ} (h : IsNormal m e) (s : Sign) (k : Nat) :
    roundWithAccuracy Format.binary64 s (m * 2 ^ k) (e - k) .exact = .finite s m e h.pos := by
  have hlog : (m * 2 ^ k).log2 = 52 + k := by
    rw [log2_mul_two_pow h.pos.ne', h.log2_eq]
  have hvalue : (m * 2 ^ e : ℚ) = (m * 2 ^ k : ℕ) * 2 ^ (e - k) := by
    rw [zpow_sub₀ two_ne_zero, zpow_natCast]
    push_cast
    field_simp
  obtain ⟨m', e', hcanonical, hr, hround⟩ := exists_round s (isCut_ofMantissa hvalue) (by omega)
  have hself : IsCanonical m e := ⟨h.lt, h.leastExponent, .inl h.least⟩
  obtain ⟨rfl, rfl⟩ := hcanonical.eq_of_value hself
    (hr.eq_of_value (d := ⟨false, m, e⟩) h.lt h.leastExponent)
  rw [hround, ofParts_of_pos s _ h.pos]

/-- **What a natural is read as**, unpacked: a number that it is rounded to, or infinite where it is
out of reach. -/
inductive ReadAs (n : Nat) : UnpackedFloat → Prop where
  | finite {m : Nat} {e : ℤ} (h : IsCanonical m e) (he : e ≤ 971) (hr : IsRounded n m e) :
      ReadAs n (ofParts .positive m e)
  | infinite (hn : 1023 ≤ n.log2) : ReadAs n (.infinity .positive)

theorem readAs_zero : ReadAs 0 (.zero .positive) := by
  have hcanonical : IsCanonical 0 (-1074) := ⟨by decide, le_rfl, .inr rfl⟩
  have hvalue : ((0 : ℕ) : ℚ) = (0 : ℕ) * 2 ^ (-1074 : ℤ) := by rw [Nat.cast_zero, zero_mul]
  exact .finite hcanonical (by decide) (hvalue ▸ hcanonical.isRounded)

section Small

variable {n k : Nat} (hlog : n.log2 + k = 52) (hn : n ≠ 0)

include hlog hn

/-- A natural with few bits is a normal number, with an exponent that is low enough. -/
theorem isNormal_of_log2 : IsNormal (n * 2 ^ k) (-k) := by
  have hbits : (n * 2 ^ k).log2 = 52 := (log2_mul_two_pow hn k).trans hlog
  obtain ⟨hge, hlt⟩ :=
    (Nat.log2_eq_iff (Nat.mul_ne_zero hn (Nat.two_pow_pos k).ne')).mp hbits
  exact ⟨hge, hlt, by omega, by omega⟩

theorem ofNat_of_log2 : UnpackedFloat.ofNat Format.binary64 n =
    .finite .positive (n * 2 ^ k) (-k) (isNormal_of_log2 hlog hn).pos := by
  have hbits : (Format.binary64.mantissaBits : ℤ) = 53 := rfl
  have hmin : Format.binary64.minExponent = -1074 := rfl
  have htarget : Format.binary64.targetExponent (totalExponent n 0) = -k := by
    rw [Format.targetExponent, totalExponent, hbits, hmin]
    omega
  have hshift : ((0 : ℤ) - -k).toNat = k := by omega
  have hsign : compare (n : ℤ) 0 = .gt := compare_gt_iff_gt.mpr (by omega)
  have hround := (isNormal_of_log2 hlog hn).round_eq .positive 0
  rw [Nat.pow_zero, Nat.mul_one, Int.natCast_zero, Int.sub_zero] at hround
  rw [UnpackedFloat.ofNat, UnpackedFloat.ofInt, UnpackedFloat.normalize, hsign]
  dsimp only
  rw [UnpackedFloat.round, Int.toNat_natCast, htarget, decreaseExponent, hshift, Nat.shiftLeft_eq]
  dsimp only
  rw [Int.zero_sub, hround]

omit hlog hn in
theorem value_of_log2 : ((n * 2 ^ k : ℕ) : ℚ) * 2 ^ (-k : ℤ) = n := by
  rw [Nat.cast_mul, Nat.cast_pow, Nat.cast_ofNat, mul_assoc, zpow_neg, zpow_natCast,
    mul_inv_cancel₀ (by positivity), mul_one]

/-- It stays the same when it is multiplied by one. -/
theorem unpack_mul_one (hlt : n < 2 ^ 53) :
    (n.toUInt64.toFloat * Float.ofBits 0x3FF0000000000000).toModel.unpack =
      .finite .positive (n * 2 ^ k) (-k) (isNormal_of_log2 hlog hn).pos := by
  have hnormal := isNormal_of_log2 hlog hn
  have hnat : n.toUInt64.toNat = n := UInt64.toNat_ofNat_of_lt' (hlt.trans_le (by decide))
  have hleft : n.toUInt64.toFloat.toModel.unpack =
      .finite .positive (n * 2 ^ k) (-k) hnormal.pos := by
    show (Float.Model.pack (UnpackedFloat.ofNat Format.binary64 n.toUInt64.toNat)).unpack = _
    rw [hnat, ofNat_of_log2 hlog hn, hnormal.unpack_pack]
  have hone : (Float.ofBits 0x3FF0000000000000).toModel.unpack =
      .finite .positive (2 ^ 52) (-52) (Nat.two_pow_pos 52) := rfl
  show (Float.Model.pack (UnpackedFloat.mul Format.binary64 n.toUInt64.toFloat.toModel.unpack
    (Float.ofBits 0x3FF0000000000000).toModel.unpack)).unpack = _
  rw [hleft, hone]
  exact (congrArg (fun u => (Float.Model.pack u).unpack) (hnormal.round_eq .positive 52)).trans
    (hnormal.unpack_pack .positive)

end Small

/-- The exponent of a natural with few bits. -/
theorem exists_log2_add {n : Nat} (hn : n ≠ 0) (hlt : n < 2 ^ 53) : ∃ k, n.log2 + k = 52 := by
  obtain ⟨k, hk⟩ := Nat.exists_eq_add_of_le (Nat.lt_succ_iff.mp ((Nat.log2_lt hn).mpr hlt))
  exact ⟨k, hk.symm⟩

/-- **A natural with few bits** is read as it is. -/
theorem readAs_small {n : Nat} (hn : n ≠ 0) (hlt : n < 2 ^ 53) :
    ReadAs n (n.toUInt64.toFloat * Float.ofBits 0x3FF0000000000000).toModel.unpack := by
  obtain ⟨k, hlog⟩ := exists_log2_add hn hlt
  have hnormal := isNormal_of_log2 hlog hn
  have hcanonical : IsCanonical (n * 2 ^ k) (-k) :=
    ⟨hnormal.lt, hnormal.leastExponent, .inl hnormal.least⟩
  rw [unpack_mul_one hlog hn hlt, ← ofParts_of_pos]
  exact .finite hcanonical hnormal.exponent_le (value_of_log2 (n := n) ▸ hcanonical.isRounded)

/-- A natural is rounded as it is, with so many bits behind it as a mantissa has. -/
theorem ofScientific_eq_round {n : Nat} (hn : n ≠ 0) :
    UnpackedFloat.ofScientific Format.binary64 n 0 =
      roundWithAccuracy Format.binary64 .positive (n * 2 ^ 53) (-53) .exact := by
  have hrange : ((2 : ℤ) ^ Format.binary64.exponentBits) = 2048 := rfl
  have hproduct : n <<< Format.binary64.mantissaBits * 10 ^ (0 : ℤ).toNat = n * 2 ^ 53 := by
    rw [Nat.shiftLeft_eq]
    exact Nat.mul_one _
  have hexponent : -(Format.binary64.mantissaBits : ℤ) + 0 = -53 := rfl
  rw [UnpackedFloat.ofScientific, dif_neg hn, hrange, if_neg (by omega), if_neg (by omega),
    if_pos le_rfl]
  show roundWithAccuracy Format.binary64 .positive (n <<< Format.binary64.mantissaBits *
    10 ^ (0 : ℤ).toNat) (-(Format.binary64.mantissaBits : ℤ) + 0) .exact = _
  rw [hproduct, hexponent]

/-- **Reading a natural rounds it**, to a number in canonical form. -/
theorem exists_round_ofScientific {n : Nat} (hn : n ≠ 0) :
    ∃ m e, IsCanonical m e ∧ IsRounded n m e ∧
      UnpackedFloat.ofScientific Format.binary64 n 0 = ofParts .positive m e := by
  have hlog : (n * 2 ^ 53).log2 = n.log2 + 53 := log2_mul_two_pow hn 53
  have hvalue : (n : ℚ) = (n * 2 ^ 53 : ℕ) * 2 ^ (-53 : ℤ) := by
    rw [Nat.cast_mul, Nat.cast_pow, Nat.cast_ofNat, mul_assoc, zpow_neg]
    norm_num
  rw [ofScientific_eq_round hn]
  exact exists_round .positive (isCut_ofMantissa hvalue) (.inr (by omega))

/-- A natural that is rounded to a number out of reach has many bits. -/
theorem log2_of_isRounded {n m : Nat} {e : ℤ} (h : IsCanonical m e) (he : 971 < e)
    (hr : IsRounded n m e) : 1023 ≤ n.log2 := by
  obtain ⟨r, t, hvalue, hgreat, hnear, -⟩ := hr
  have hpow : reach = 2 * 2 ^ 1023 := pow_succ' _ _
  have hbeyond := h.reach_le he
  have hstep : (2 : ℚ) ^ t ≤ 1 + n := by
    have hnonneg : (0 : ℚ) ≤ n := Nat.cast_nonneg n
    rcases hgreat with rfl | hq
    · have : (2 : ℚ) ^ (-1074 : ℤ) ≤ 1 := zpow_le_one_of_nonpos₀ one_le_two (by decide)
      linarith
    · have hpos : (0 : ℚ) < 2 ^ t := by positivity
      linarith
  by_contra hfew
  have hlt : (n : ℚ) < 2 ^ 1023 := by
    have hbits : (n : ℚ) < 2 ^ (n.log2 + 1) := by exact_mod_cast Nat.lt_log2_self
    exact hbits.trans_le (pow_le_pow_right₀ one_le_two (by omega))
  have hone : (1 : ℚ) < 2 ^ 1023 := one_lt_pow₀ one_lt_two (by decide)
  obtain ⟨hlow, -⟩ := abs_le.mp (le_div_iff₀' two_pos |>.mpr hnear)
  rw [hvalue, hpow] at hbeyond
  clear hpow
  generalize (2 : ℚ) ^ 1023 = p at *
  linarith

/-- **A natural with many bits** is rounded. -/
theorem readAs_great {n : Nat} (hge : 2 ^ 53 ≤ n) :
    ReadAs n (Float.Model.ofScientific n 0).unpack := by
  have hn : n ≠ 0 := by
    rintro rfl
    exact absurd hge (by decide)
  obtain ⟨m, e, h, hr, hround⟩ := exists_round_ofScientific hn
  show ReadAs n (Float.Model.pack (UnpackedFloat.ofScientific Format.binary64 n 0)).unpack
  rw [hround]
  by_cases he : e ≤ 971
  · rw [h.unpack_pack he]
    exact .finite h he hr
  · have hpos : 0 < m := (Nat.two_pow_pos 52).trans_le (h.full.resolve_right (by omega))
    rw [ofParts_of_pos .positive _ hpos, unpack_pack_overflow _ _ (by omega)]
    exact .infinite (log2_of_isRounded h (by omega) hr)

/-- **What a natural is read as.** -/
theorem readAs_nearestFloat (n : Nat) : ReadAs n (nearestFloat n 0).toModel.unpack := by
  unfold nearestFloat
  dsimp only
  by_cases hn : n = 0
  · rw [if_pos hn, hn]
    exact readAs_zero
  rw [if_neg hn]
  by_cases hsize : 400 < 0 + (n.log2 : ℤ) * 30103 / 100000
  · rw [if_pos hsize]
    exact .infinite (by omega)
  · rw [if_neg hsize, if_neg (by omega), if_neg (by decide)]
    unfold Float.ofScientific
    by_cases hlt : n < 2 ^ 53
    · rw [dif_pos ⟨hlt, Nat.zero_le 22⟩]
      exact readAs_small hn hlt
    · rw [dif_neg fun h => hlt h.1]
      exact readAs_great (Nat.le_of_not_lt hlt)

/-! ## Naturals and their negatives -/

/-- The parts of an unpacked number in canonical form. -/
theorem ofUnpacked?_ofParts {m : Nat} {e : ℤ} (h : IsCanonical m e) (s : Sign) :
    Dyadic.ofUnpacked? (ofParts s m e) = some ⟨isNegative s, m, e⟩ := by
  by_cases hm : m = 0
  · have he : e = -1074 := h.full.resolve_left (by omega)
    rw [ofParts, dif_pos hm, hm, he]
    rfl
  · rw [ofParts, dif_neg hm]
    rfl

theorem neg_ofParts (s : Sign) (m : Nat) (e : ℤ) :
    UnpackedFloat.neg (ofParts s m e) = ofParts (-s) m e := by
  by_cases hm : m = 0
  · rw [ofParts, ofParts, dif_pos hm, dif_pos hm]
    rfl
  · rw [ofParts_of_pos s e (Nat.pos_of_ne_zero hm), ofParts_of_pos (-s) e (Nat.pos_of_ne_zero hm)]
    rfl

/-- **A natural is read as the double nearest to it**, and with a minus sign as that nearest to its
negative, unless it is out of reach. -/
theorem isNearest_nearestFloat (n : Nat) :
    (IsNearest (nearestFloat n 0) n ∧ IsNearest (-nearestFloat n 0) (-n)) ∨
    (1023 ≤ n.log2 ∧ exactValue? (nearestFloat n 0) = none ∧
      exactValue? (-nearestFloat n 0) = none) := by
  have hread := readAs_nearestFloat n
  generalize nearestFloat n 0 = x at hread
  have hneg : (-x).toModel.unpack = (Float.Model.pack x.toModel.unpack.neg).unpack := rfl
  have hx := Dyadic.ofFloat?_eq x
  have hx' := Dyadic.ofFloat?_eq (-x)
  rw [hneg] at hx'
  generalize hu : x.toModel.unpack = u at hread hx hx'
  cases hread with
  | finite h he hr =>
    rw [ofUnpacked?_ofParts h] at hx
    rw [neg_ofParts, h.unpack_pack he, ofUnpacked?_ofParts h] at hx'
    exact .inl ⟨isNearest_of_isRounded hr false hx, isNearest_of_isRounded hr true hx'⟩
  | infinite hn =>
    have hinf : (Float.Model.pack (UnpackedFloat.neg (.infinity .positive))).unpack =
        .infinity .negative := rfl
    rw [hinf] at hx'
    exact .inr ⟨hn, congrArg (Option.map Dyadic.value) hx, congrArg (Option.map Dyadic.value) hx'⟩

/-! ## Numbers that doubles denote -/

/-- The number that a double denotes, by its unpacked form. -/
theorem exactValue?_of_unpack {x : Float} {s : Sign} {m : Nat} {e : ℤ} {hm : 0 < m}
    (h : x.toModel.unpack = .finite s m e hm) :
    exactValue? x = some (Dyadic.value ⟨isNegative s, m, e⟩) := by
  rw [exactValue?, Dyadic.ofFloat?_eq, h]
  rfl

/-- **Naturals up to the first that needs 54 bits** are denoted by doubles. -/
theorem exists_exactValue? {n : Nat} (h : n ≤ 2 ^ 53) : ∃ y, exactValue? y = some (n : ℚ) := by
  by_cases hn : n = 0
  · refine ⟨0.0, ?_⟩
    have hzero : Dyadic.ofFloat? 0.0 = some ⟨false, 0, -1074⟩ := by decide
    rw [exactValue?, hzero, hn, Option.map_some, Dyadic.value, Dyadic.magnitude, Nat.cast_zero,
      zero_mul]
    rfl
  rcases h.lt_or_eq with hlt | rfl
  · obtain ⟨k, hlog⟩ := exists_log2_add hn hlt
    exact ⟨_, (exactValue?_of_unpack (unpack_mul_one hlog hn hlt)).trans
      (congrArg some value_of_log2)⟩
  · have hunpack : (Float.ofBits 0x4340000000000000).toModel.unpack =
        .finite .positive (2 ^ 52) 1 (Nat.two_pow_pos 52) := rfl
    refine ⟨_, (exactValue?_of_unpack hunpack).trans (congrArg some ?_)⟩
    show ((2 ^ 52 : ℕ) : ℚ) * 2 ^ (1 : ℤ) = ((2 ^ 53 : ℕ) : ℚ)
    norm_num

namespace IsNearest

variable {x y : Float} {q r : ℚ}

/-- A double that is nearest to a number denotes a number. -/
theorem exists_exactValue? (h : IsNearest x q) : ∃ v, exactValue? x = some v := by
  obtain ⟨d, hd, -⟩ := h
  exact ⟨d.value, congrArg (Option.map Dyadic.value) hd⟩

/-- No double denotes a number that is nearer. -/
theorem abs_sub_le {v : ℚ} (h : IsNearest x q) (hx : exactValue? x = some v)
    (hy : exactValue? y = some r) : |v - q| ≤ |r - q| := by
  obtain ⟨d, hd, hnear⟩ := h
  obtain ⟨d', hd', rfl⟩ := Option.map_eq_some_iff.mp hy
  rw [exactValue?, hd, Option.map_some, Option.some_inj] at hx
  rw [← hx]
  exact (hnear y d' hd').1

/-- **A number that a double denotes** is the number that the double nearest to it denotes. -/
theorem exactValue?_eq (h : IsNearest x q) (hy : exactValue? y = some q) :
    exactValue? x = some q := by
  obtain ⟨v, hv⟩ := h.exists_exactValue?
  have hle := h.abs_sub_le hv hy
  rw [sub_self, abs_zero, abs_nonpos_iff, sub_eq_zero] at hle
  rw [hv, hle]

/-- A number above one that a double denotes is read as no less. -/
theorem le_of_le {v : ℚ} (h : IsNearest x q) (hx : exactValue? x = some v)
    (hy : exactValue? y = some r) (hr : r ≤ q) : r ≤ v := by
  have hle := h.abs_sub_le hx hy
  rw [abs_of_nonpos (sub_nonpos.mpr hr)] at hle
  have := neg_abs_le (v - q)
  linarith

/-- A number below one that a double denotes is read as no greater. -/
theorem le_of_ge {v : ℚ} (h : IsNearest x q) (hx : exactValue? x = some v)
    (hy : exactValue? y = some r) (hr : q ≤ r) : v ≤ r := by
  have hle := h.abs_sub_le hx hy
  rw [abs_of_nonneg (sub_nonneg.mpr hr)] at hle
  have := le_abs_self (v - q)
  linarith

end IsNearest

end PartSourcing.Decimal
