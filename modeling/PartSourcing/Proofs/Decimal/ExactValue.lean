import Mathlib.Algebra.Order.Field.Power
import Mathlib.Tactic.Linarith
import PartSourcing.Decimal.Dyadic

/-!
# The number that a double denotes

A finite double denotes a rational number, its mantissa times a power of two (`exactValue?`).  Which
natural it is, if it is one, is read off that number exactly (`wholeNat?_eq_some_iff`).

The operations on doubles go by their unpacked form.  **What a double unpacks to has the same
mantissa and exponent** (`Dyadic.ofFloat?_eq`), and a normal number that is packed unpacks to itself
(`IsNormal.unpack_pack`), so what an operation makes of a number is known exactly.
-/

namespace PartSourcing.Decimal

/-! ## Values -/

namespace Dyadic

/-- The magnitude of a signed integer times a power of two. -/
def magnitude (d : Dyadic) : ℚ := d.mantissa * 2 ^ d.exponent

/-- **The number that it is.** -/
def value (d : Dyadic) : ℚ := if d.negative then -d.magnitude else d.magnitude

variable {d : Dyadic}

theorem magnitude_nonneg (d : Dyadic) : 0 ≤ d.magnitude := by
  unfold magnitude
  positivity

theorem abs_value (d : Dyadic) : |d.value| = d.magnitude := by
  unfold value
  split
  · rw [abs_neg, abs_of_nonneg d.magnitude_nonneg]
  · exact abs_of_nonneg d.magnitude_nonneg

theorem magnitude_mul_den (d : Dyadic) : d.magnitude * d.fraction.2 = d.fraction.1 := by
  unfold magnitude fraction
  split
  · rename_i h
    rw [Nat.cast_one, mul_one, Nat.pow_eq, Nat.cast_mul, Nat.cast_pow, Nat.cast_ofNat,
      ← zpow_natCast, Int.toNat_of_nonneg h]
  · rename_i h
    rw [Nat.pow_eq, Nat.cast_pow, Nat.cast_ofNat, ← zpow_natCast,
      Int.toNat_of_nonneg (by omega), mul_assoc, ← zpow_add₀ two_ne_zero, add_neg_cancel,
      zpow_zero, mul_one]

/-- A magnitude that is whole is found exactly. -/
theorem whole?_eq_some_iff {n : Nat} : d.whole? = some n ↔ d.magnitude = n := by
  have hden : (d.fraction.2 : ℚ) ≠ 0 := Nat.cast_ne_zero.mpr d.fraction_den_pos.ne'
  have hmul : d.magnitude = n ↔ d.fraction.1 = n * d.fraction.2 := by
    rw [← mul_left_inj' hden, magnitude_mul_den]
    exact_mod_cast Iff.rfl
  have hdef : d.whole? = if d.fraction.1 % d.fraction.2 = 0 then some (d.fraction.1 / d.fraction.2)
      else none := rfl
  rw [hmul, hdef]
  constructor
  · intro h
    split at h
    · rename_i hdvd
      rw [← Option.some.inj h, Nat.div_mul_cancel (Nat.dvd_of_mod_eq_zero hdvd)]
    · cases h
  · intro h
    rw [h, Nat.mul_mod_left, if_pos rfl, Nat.mul_div_cancel _ d.fraction_den_pos]

end Dyadic

/-- **The number that a double denotes**, if it denotes one. -/
def exactValue? (x : Float) : Option ℚ := (Dyadic.ofFloat? x).map Dyadic.value

/-- **A double denotes a natural** just if it is read as that natural. -/
theorem wholeNat?_eq_some_iff {x : Float} {n : Nat} :
    wholeNat? x = some n ↔ exactValue? x = some (n : ℚ) := by
  unfold wholeNat? exactValue?
  cases hd : Dyadic.ofFloat? x with
  | none => exact iff_of_false nofun nofun
  | some d =>
    rw [Option.map_some, Option.some_inj]
    dsimp only
    cases hk : d.whole? with
    | none =>
      refine iff_of_false nofun fun hvalue => ?_
      have hmagnitude : d.magnitude = n := by
        rw [← d.abs_value, hvalue, Nat.abs_cast]
      exact absurd (Dyadic.whole?_eq_some_iff.mpr hmagnitude) (hk ▸ nofun)
    | some k =>
      have hmagnitude := Dyadic.whole?_eq_some_iff.mp hk
      dsimp only
      rw [Dyadic.value, hmagnitude]
      cases d.negative with
      | false =>
        rw [Bool.false_and, if_neg Bool.false_ne_true, if_neg Bool.false_ne_true, Option.some_inj]
        exact Nat.cast_inj.symm
      | true =>
        rw [Bool.true_and, if_pos rfl]
        by_cases hzero : k = 0
        · subst hzero
          rw [Nat.cast_zero, neg_zero]
          exact Option.some_inj.trans (by exact_mod_cast Iff.rfl)
        · rw [bne_iff_ne.mpr hzero, if_pos rfl]
          refine iff_of_false nofun fun hvalue => hzero ?_
          have hpos : (0 : ℚ) ≤ n := Nat.cast_nonneg n
          have hneg : (0 : ℚ) ≤ k := Nat.cast_nonneg k
          exact_mod_cast (by linarith : (k : ℚ) = 0)

/-! ## Packed and unpacked -/

open Float.Model Float.Model.UnpackedFloat

/-- Whether a sign is that of a negative number. -/
def isNegative : Sign → Bool
  | .negative => true
  | .positive => false

/-- The mantissa and the exponent of an unpacked number. -/
def Dyadic.ofUnpacked? : UnpackedFloat → Option Dyadic
  | .infinity _ | .notANumber => none
  | .zero s => some ⟨isNegative s, 0, leastExponent⟩
  | .finite s m e _ => some ⟨isNegative s, m, e⟩

section Bits

variable (b : BitVec 64)

theorem toNat_unpackMantissa : (@unpackMantissa Format.binary64 b).toNat = b.toNat % 2 ^ 52 := by
  simp [unpackMantissa, BitVec.extractLsb_toNat]

theorem toNat_unpackExponent :
    (@unpackExponent Format.binary64 b).toNat = b.toNat / 2 ^ 52 % 2 ^ 11 := by
  simp [unpackExponent, BitVec.extractLsb_toNat, Nat.shiftRight_eq_div_pow]

theorem toNat_unpackSign : (@unpackSign Format.binary64 b).toNat = b.toNat / 2 ^ 63 := by
  have hlt := b.isLt
  have hsign : (@unpackSign Format.binary64 b).toNat = b.toNat >>> 63 % 2 ^ 1 :=
    BitVec.extractLsb'_toNat ..
  rw [hsign, Nat.shiftRight_eq_div_pow]
  omega

end Bits

theorem isNegative_ofBitVec (v : BitVec 1) : isNegative (Sign.ofBitVec v) = (v.toNat == 1) := by
  revert v
  decide

/-- What bits unpack to, by their parts. -/
theorem Dyadic.ofUnpacked?_unpack (b : BitVec 64) :
    ofUnpacked? (UnpackedFloat.unpack Format.binary64 b) =
      let negative := isNegative (Sign.ofBitVec (@unpackSign Format.binary64 b))
      let biased := (@unpackExponent Format.binary64 b).toNat
      let fraction := (@unpackMantissa Format.binary64 b).toNat
      if biased = 2047 then none
      else if biased = 0 then some ⟨negative, fraction, leastExponent⟩
      else some ⟨negative, hidden + fraction, Int.ofNat biased - 1075⟩ := by
  have hinfinite : @unpackExponent Format.binary64 b = -1#_ ↔
      (@unpackExponent Format.binary64 b).toNat = 2047 :=
    BitVec.toNat_inj.symm
  have hleast : @unpackExponent Format.binary64 b = 0#_ ↔
      (@unpackExponent Format.binary64 b).toNat = 0 :=
    BitVec.toNat_inj.symm
  unfold UnpackedFloat.unpack
  dsimp only
  by_cases h₁ : @unpackExponent Format.binary64 b = -1#_
  · rw [if_pos h₁, if_pos (hinfinite.mp h₁)]
    split <;> rfl
  · rw [if_neg h₁, if_neg (h₁ ∘ hinfinite.mpr)]
    by_cases h₂ : @unpackExponent Format.binary64 b = 0#_
    · rw [if_pos h₂, if_pos (hleast.mp h₂), hleast.mp h₂]
      by_cases hzero : @unpackMantissa Format.binary64 b = 0#_
      · rw [dif_pos hzero, hzero]
        rfl
      · rw [dif_neg hzero]
        rfl
    · rw [if_neg h₂, if_neg (h₂ ∘ hleast.mpr)]
      have hmantissa : (1#1 ++ @unpackMantissa Format.binary64 b).toNat =
          hidden + (@unpackMantissa Format.binary64 b).toNat := by
        rw [BitVec.toNat_append, ← Nat.shiftLeft_add_eq_or_of_lt (BitVec.isLt _)]
        rfl
      exact congrArg (fun mantissa => some (Dyadic.mk _ mantissa _)) hmantissa

/-- **What a double unpacks to has its value.** -/
theorem Dyadic.ofFloat?_eq (x : Float) : ofFloat? x = ofUnpacked? x.toModel.unpack := by
  have hmantissa := toNat_unpackMantissa x.toModel.toBits.toBitVec
  have hexponent := toNat_unpackExponent x.toModel.toBits.toBitVec
  have hsign := toNat_unpackSign x.toModel.toBits.toBitVec
  have hbiased : x.toBits.toNat % signBit / hidden =
      x.toModel.toBits.toBitVec.toNat / 2 ^ 52 % 2 ^ 11 := by
    rw [signBit, hidden, Nat.pow_eq, Nat.pow_eq]
    exact Nat.mod_mul_right_div_self _ (2 ^ 52) (2 ^ 11)
  unfold ofFloat?
  rw [Float.Model.unpack, ofUnpacked?_unpack, isNegative_ofBitVec, hsign, hmantissa, hexponent,
    ← hbiased]
  rfl

/-! ## Normal numbers -/

theorem unpackSign_packComponents {spec : Format} (s : Sign) (exponent : BitVec spec.exponentBits)
    (mantissa : BitVec spec.mantissaBitsWithoutImplicit) :
    unpackSign (packComponents spec s exponent mantissa) = s.toBitVec := by
  ext i hi
  obtain rfl : i = 0 := by omega
  change (BitVec.extractLsb' _ _ (packComponents spec s exponent mantissa))[0] = _
  simp [packComponents, BitVec.getLsbD_append, BitVec.getElem_append]

/-- A number is told by its parts. -/
theorem finite_congr {s : Sign} {m m' : Nat} {e e' : Int} {h : 0 < m} {h' : 0 < m'}
    (hm : m = m') (he : e = e') : UnpackedFloat.finite s m e h = .finite s m' e' h' := by
  subst hm he
  rfl

/-- **A normal number**: its mantissa has all its bits and its exponent is within the range. -/
structure IsNormal (m : Nat) (e : Int) : Prop where
  least : 2 ^ 52 ≤ m
  lt : m < 2 ^ 53
  leastExponent : -1074 ≤ e
  exponent_le : e ≤ 971

namespace IsNormal

variable {m : Nat} {e : Int} (h : IsNormal m e)

include h

theorem log2_eq : m.log2 = 52 := by
  have hm : m ≠ 0 := by have := h.least; omega
  exact (Nat.log2_eq_iff hm).mpr ⟨h.least, h.lt⟩

theorem pos : 0 < m := by have := h.least; omega

theorem pack_eq (s : Sign) :
    UnpackedFloat.pack Format.binary64 (.finite s m e h.pos) =
      packComponents Format.binary64 s (BitVec.ofNat 11 (e + 1075).toNat) (BitVec.ofNat 52 m) := by
  have hlow := h.leastExponent
  have hhigh := h.exponent_le
  have hbiased : (e + (Format.binary64.exponentBias : Int) +
      (Format.binary64.mantissaBitsWithoutImplicit : Int)).toNat = (e + 1075).toNat := by
    have hbias : (Format.binary64.exponentBias : Int) = 1023 := rfl
    have hbits : (Format.binary64.mantissaBitsWithoutImplicit : Int) = 52 := rfl
    rw [hbias, hbits]
    omega
  have hbits : 52 + 1 = Format.binary64.mantissaBits := rfl
  unfold UnpackedFloat.pack
  dsimp only
  rw [hbiased, h.log2_eq, if_neg (by omega), if_pos hbits]

/-- **A normal number that is packed unpacks to itself.** -/
theorem unpack_pack (s : Sign) :
    (Float.Model.pack (.finite s m e h.pos)).unpack = .finite s m e h.pos := by
  have hlow := h.leastExponent
  have hhigh := h.exponent_le
  show UnpackedFloat.unpack Format.binary64 (UnpackedFloat.pack Format.binary64 _) = _
  rw [h.pack_eq]
  have hexponent : (BitVec.ofNat 11 (e + 1075).toNat).toNat = (e + 1075).toNat := by
    rw [BitVec.toNat_ofNat, Nat.mod_eq_of_lt (by omega)]
  have hfinite : BitVec.ofNat 11 (e + 1075).toNat ≠ -1#11 := by
    rw [ne_eq, ← BitVec.toNat_inj, hexponent]
    have : (-1#11).toNat = 2047 := rfl
    omega
  have hnormal : BitVec.ofNat 11 (e + 1075).toNat ≠ 0#11 := by
    rw [ne_eq, ← BitVec.toNat_inj, hexponent]
    have : (0#11).toNat = 0 := rfl
    omega
  have hmantissa : (1#1 ++ BitVec.ofNat 52 m).toNat = m := by
    have hhidden : (1#1).toNat <<< 52 = 2 ^ 52 := rfl
    have hrest : (BitVec.ofNat 52 m).toNat = m % 2 ^ 52 := BitVec.toNat_ofNat ..
    have hleast := h.least
    have hlt := h.lt
    rw [BitVec.toNat_append, ← Nat.shiftLeft_add_eq_or_of_lt (BitVec.isLt _), hhidden, hrest]
    omega
  have hsign : Sign.ofBitVec s.toBitVec = s := by cases s <;> rfl
  have hvalue : ((BitVec.ofNat 11 (e + 1075).toNat).toNat : Int) -
      ((Format.binary64.exponentBias : Int) + (Format.binary64.mantissaBitsWithoutImplicit : Int)) =
        e := by
    have hbias : (Format.binary64.exponentBias : Int) +
        (Format.binary64.mantissaBitsWithoutImplicit : Int) = 1075 := rfl
    rw [hexponent, hbias]
    omega
  unfold UnpackedFloat.unpack
  dsimp only
  rw [unpackExponent_packComponents, if_neg hfinite, if_neg hnormal, unpackSign_packComponents,
    hsign]
  refine finite_congr ?_ hvalue
  rw [unpackMantissa_packComponents]
  exact hmantissa

end IsNormal

end PartSourcing.Decimal
