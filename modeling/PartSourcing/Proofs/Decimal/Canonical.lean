import Mathlib.Tactic.Ring
import PartSourcing.Proofs.Decimal.ExactValue

/-!
# Canonical forms

What a double unpacks to is in a form that is the only one of its number (`IsCanonical`): its
mantissa has all its bits, unless its exponent is the least there is (`Dyadic.isCanonical`).  Of two
numbers in this form the exponents decide which is less, and then the mantissas
(`IsCanonical.compare_eq`). **What is packed in this form unpacks to itself**
(`IsCanonical.unpack_pack`), unless its exponent is out of range.
-/

namespace PartSourcing.Decimal

open Float.Model Float.Model.UnpackedFloat

/-- **The form in which a number is unpacked**: its mantissa has all its bits, unless its exponent
is the least there is. -/
structure IsCanonical (m : Nat) (e : ℤ) : Prop where
  lt : m < 2 ^ 53
  least : -1074 ≤ e
  full : 2 ^ 52 ≤ m ∨ e = -1074

/-- Of two numbers in canonical form, one with a lesser exponent is less. -/
theorem IsCanonical.lt_of_exponent_lt {m m' : Nat} {e e' : ℤ} (h : IsCanonical m e)
    (h' : IsCanonical m' e') (he : e < e') : (m : ℚ) * 2 ^ e < m' * 2 ^ e' := by
  have hleast := h.least
  have hfull : (2 : ℚ) ^ 52 ≤ m' := by
    exact_mod_cast h'.full.resolve_right (by omega)
  have hlt : (m : ℚ) < 2 ^ 53 := by exact_mod_cast h.lt
  have hexponent : (2 : ℚ) ^ (e + 1) ≤ 2 ^ e' := zpow_le_zpow_right₀ one_le_two (by omega)
  calc (m : ℚ) * 2 ^ e < 2 ^ 53 * 2 ^ e := mul_lt_mul_of_pos_right hlt (by positivity)
    _ = 2 ^ 52 * 2 ^ (e + 1) := by rw [zpow_add_one₀ two_ne_zero]; ring
    _ ≤ m' * 2 ^ e' := mul_le_mul hfull hexponent (by positivity) (by positivity)

/-- **Exponents decide, and then mantissas.** -/
theorem IsCanonical.compare_eq {m m' : Nat} {e e' : ℤ} (h : IsCanonical m e)
    (h' : IsCanonical m' e') :
    (compare e e').then (compare m m') = compare ((m : ℚ) * 2 ^ e) (m' * 2 ^ e') := by
  rcases lt_trichotomy e e' with he | rfl | he
  · rw [compare_lt_iff_lt.mpr he, compare_lt_iff_lt.mpr (h.lt_of_exponent_lt h' he)]
    rfl
  · have hpos : (0 : ℚ) < 2 ^ e := by positivity
    rw [compare_eq_iff_eq.mpr rfl, Ordering.eq_then]
    rcases lt_trichotomy m m' with hm | rfl | hm
    · rw [compare_lt_iff_lt.mpr hm, compare_lt_iff_lt.mpr]
      exact mul_lt_mul_of_pos_right (by exact_mod_cast hm) hpos
    · rw [compare_eq_iff_eq.mpr rfl, compare_eq_iff_eq.mpr rfl]
    · rw [compare_gt_iff_gt.mpr hm, compare_gt_iff_gt.mpr]
      exact mul_lt_mul_of_pos_right (by exact_mod_cast hm) hpos
  · rw [compare_gt_iff_gt.mpr he, compare_gt_iff_gt.mpr (h'.lt_of_exponent_lt h he)]
    rfl

/-- The canonical form of a number is the only one. -/
theorem IsCanonical.eq_of_value {m m' : Nat} {e e' : ℤ} (h : IsCanonical m e)
    (h' : IsCanonical m' e') (heq : (m : ℚ) * 2 ^ e = m' * 2 ^ e') : m = m' ∧ e = e' := by
  have hcompare := (h.compare_eq h').trans (compare_eq_iff_eq.mpr heq)
  rw [Ordering.then_eq_eq] at hcompare
  exact ⟨compare_eq_iff_eq.mp hcompare.2, compare_eq_iff_eq.mp hcompare.1⟩

/-- **What bits denote is in canonical form**, with an exponent within the range. -/
theorem Dyadic.isCanonical {x : Float} {d : Dyadic} (h : ofFloat? x = some d) :
    IsCanonical d.mantissa d.exponent ∧ d.exponent ≤ 971 := by
  have hfraction : x.toBits.toNat % hidden < 2 ^ 52 := Nat.mod_lt _ (Nat.two_pow_pos 52)
  have hbiased : x.toBits.toNat % signBit / hidden < 2048 :=
    Nat.div_lt_of_lt_mul (Nat.mod_lt _ (Nat.two_pow_pos 63))
  have hhidden : hidden = 2 ^ 52 := rfl
  unfold ofFloat? at h
  dsimp only at h
  split at h
  · cases h
  · split at h
    · obtain rfl := Option.some.inj h
      refine ⟨⟨hfraction.trans (by decide), le_rfl, .inr rfl⟩, ?_⟩
      exact (by decide : (-1074 : ℤ) ≤ 971)
    · obtain rfl := Option.some.inj h
      generalize x.toBits.toNat % signBit / hidden = biased at *
      have hcast : Int.ofNat biased = (biased : ℤ) := rfl
      refine ⟨⟨?_, ?_, .inl ?_⟩, ?_⟩ <;> dsimp only <;> omega

/-- What a double unpacks to is in canonical form. -/
theorem isCanonical_of_unpack {x : Float} {s : Sign} {m : Nat} {e : ℤ} {hm : 0 < m}
    (h : x.toModel.unpack = .finite s m e hm) : IsCanonical m e ∧ e ≤ 971 := by
  refine Dyadic.isCanonical (x := x) (d := ⟨isNegative s, m, e⟩) ?_
  rw [Dyadic.ofFloat?_eq, h]
  rfl

/-! ## Reach -/

/-- The first power of two that is out of reach of doubles. -/
def reach : ℚ := 2 ^ 1024

theorem reach_pos : 0 < reach := by
  unfold reach
  positivity

/-- A number in canonical form is within reach if its exponent is. -/
theorem IsCanonical.lt_reach {m : Nat} {e : ℤ} (h : IsCanonical m e) (he : e ≤ 971) :
    (m : ℚ) * 2 ^ e < reach := by
  have hlt : (m : ℚ) < 2 ^ 53 := by exact_mod_cast h.lt
  have hexponent : (2 : ℚ) ^ e ≤ 2 ^ (971 : ℤ) := zpow_le_zpow_right₀ one_le_two he
  calc (m : ℚ) * 2 ^ e ≤ m * 2 ^ (971 : ℤ) :=
        mul_le_mul_of_nonneg_left hexponent (Nat.cast_nonneg _)
    _ < 2 ^ 53 * 2 ^ (971 : ℤ) := mul_lt_mul_of_pos_right hlt (by positivity)
    _ = reach := by rw [zpow_ofNat, ← pow_add, reach]

/-- A number in canonical form is out of reach if its exponent is. -/
theorem IsCanonical.reach_le {m : Nat} {e : ℤ} (h : IsCanonical m e) (he : 971 < e) :
    reach ≤ m * 2 ^ e := by
  have hfull : (2 : ℚ) ^ 52 ≤ m := by exact_mod_cast h.full.resolve_right (by omega)
  have hexponent : (2 : ℚ) ^ (972 : ℤ) ≤ 2 ^ e := zpow_le_zpow_right₀ one_le_two (by omega)
  calc reach = 2 ^ 52 * 2 ^ (972 : ℤ) := by rw [zpow_ofNat, ← pow_add, reach]
    _ ≤ m * 2 ^ e := mul_le_mul hfull hexponent (by positivity) (by positivity)

/-! ## Packing -/

theorem unpack_pack_zero (s : Sign) : (Float.Model.pack (.zero s)).unpack = .zero s := by
  cases s <;> rfl

/-- **A number with the least exponent and fewer bits than a mantissa has** unpacks to itself when
it is packed. -/
theorem unpack_pack_subnormal {m : Nat} (s : Sign) (hpos : 0 < m) (hlt : m < 2 ^ 52) :
    (Float.Model.pack (.finite s m (-1074) hpos)).unpack = .finite s m (-1074) hpos := by
  have hlog : m.log2 < 52 := (Nat.log2_lt hpos.ne').mpr hlt
  have hbits : Format.binary64.mantissaBits = 53 := rfl
  have hpack : UnpackedFloat.pack Format.binary64 (.finite s m (-1074) hpos) =
      packComponents Format.binary64 s 0#11 (BitVec.ofNat 52 m) := by
    have hfew : ¬m.log2 + 1 = Format.binary64.mantissaBits := by omega
    unfold UnpackedFloat.pack
    dsimp only
    rw [if_neg (by decide), if_neg hfew]
  have hmantissa : (BitVec.ofNat 52 m).toNat = m := by
    rw [BitVec.toNat_ofNat, Nat.mod_eq_of_lt hlt]
  have hne : BitVec.ofNat 52 m ≠ 0#52 := by
    rw [ne_eq, ← BitVec.toNat_inj, hmantissa]
    exact hpos.ne'
  have hsign : Sign.ofBitVec s.toBitVec = s := by cases s <;> rfl
  have hfinite : (0#11 : BitVec 11) ≠ -1#11 := by decide
  show UnpackedFloat.unpack Format.binary64 (UnpackedFloat.pack Format.binary64 _) = _
  rw [hpack]
  have hread : @unpackMantissa Format.binary64 (packComponents Format.binary64 s 0#11
      (BitVec.ofNat 52 m)) = BitVec.ofNat 52 m := unpackMantissa_packComponents
  have hsome : ¬@unpackMantissa Format.binary64 (packComponents Format.binary64 s 0#11
      (BitVec.ofNat 52 m)) = 0#52 := fun hzero => hne (hread.symm.trans hzero)
  unfold UnpackedFloat.unpack
  dsimp only
  rw [unpackExponent_packComponents, if_neg hfinite, if_pos rfl, unpackSign_packComponents, hsign,
    dif_neg hsome]
  exact finite_congr ((congrArg BitVec.toNat hread).trans hmantissa) rfl

/-- An unpacked double by its parts. -/
def ofParts (s : Sign) (m : Nat) (e : ℤ) : UnpackedFloat :=
  if h : m = 0 then .zero s else .finite s m e (Nat.pos_of_ne_zero h)

theorem ofParts_of_pos (s : Sign) {m : Nat} (e : ℤ) (h : 0 < m) : ofParts s m e = .finite s m e h :=
  dif_neg h.ne'

/-- **What is packed in canonical form unpacks to itself**, if its exponent is within the range. -/
theorem IsCanonical.unpack_pack {m : Nat} {e : ℤ} (h : IsCanonical m e) (he : e ≤ 971) (s : Sign) :
    (Float.Model.pack (ofParts s m e)).unpack = ofParts s m e := by
  by_cases hm : m = 0
  · rw [ofParts, dif_pos hm, unpack_pack_zero]
  rw [ofParts, dif_neg hm]
  by_cases hfull : 2 ^ 52 ≤ m
  · exact IsNormal.unpack_pack ⟨hfull, h.lt, h.least, he⟩ s
  · obtain rfl := h.full.resolve_left hfull
    exact unpack_pack_subnormal s (Nat.pos_of_ne_zero hm) (Nat.lt_of_not_le hfull)

theorem unpack_packedInfinity (s : Sign) :
    UnpackedFloat.unpack Format.binary64 (packedInfinity Format.binary64 s) = .infinity s := by
  cases s <;> rfl

/-- An exponent that is out of range makes infinity. -/
theorem unpack_pack_overflow {m : Nat} {e : ℤ} (s : Sign) (hpos : 0 < m) (he : 971 < e) :
    (Float.Model.pack (.finite s m e hpos)).unpack = .infinity s := by
  have hbias : (Format.binary64.exponentBias : Int) = 1023 := rfl
  have hbits : (Format.binary64.mantissaBitsWithoutImplicit : Int) = 52 := rfl
  have hrange : 2 ^ Format.binary64.exponentBits = 2048 := rfl
  have hpack : UnpackedFloat.pack Format.binary64 (.finite s m e hpos) =
      packedInfinity Format.binary64 s := by
    refine if_pos ?_
    rw [hbias, hbits, hrange]
    omega
  show UnpackedFloat.unpack Format.binary64 (UnpackedFloat.pack Format.binary64 _) = _
  rw [hpack, unpack_packedInfinity]

end PartSourcing.Decimal
