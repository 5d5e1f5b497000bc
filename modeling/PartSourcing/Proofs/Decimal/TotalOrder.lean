import PartSourcing.Decimal.Dyadic

/-!
# The order of all doubles

The total order of doubles goes by an integer that is read off their bits (`totalKey`).  No two
doubles have the same, so **in that order a least double is the only one**.  The bits of a double can
also be read off the number that it denotes, with the sign of zero (`eq_of_ofFloat?_eq`).

The usual comparisons of doubles go by their unpacked form, so for what lies above zero it is enough
to look at its four kinds: it is a number, and it is not zero.
-/

namespace PartSourcing.Decimal

theorem toBits_injective : Function.Injective Float.toBits := by
  rintro ⟨⟨x, hx⟩⟩ ⟨⟨y, hy⟩⟩ h
  obtain rfl : x = y := h
  rfl

theorem totalKey_injective : Function.Injective totalKey := by
  intro x y h
  have hx : x.toBits.toNat < 2 * Dyadic.signBit := x.toBits.toNat_lt
  have hy : y.toBits.toNat < 2 * Dyadic.signBit := y.toBits.toNat_lt
  have hbits : x.toBits.toNat = y.toBits.toNat := by
    have hbit : Dyadic.signBit = 9223372036854775808 := rfl
    dsimp only [totalKey] at h
    rw [hbit] at hx hy h
    by_cases hxs : x.toBits.toNat / 9223372036854775808 = 1 <;>
      by_cases hys : y.toBits.toNat / 9223372036854775808 = 1 <;>
      simp only [hxs, hys, if_true, if_false, Int.ofNat_eq_natCast] at h <;> omega
  exact toBits_injective (UInt64.toNat_inj.mp hbits)

/-- The bits of a double, by what it denotes. -/
theorem toNat_toBits_eq {x : Float} {d : Dyadic} (h : Dyadic.ofFloat? x = some d) :
    x.toBits.toNat = (if d.negative then Dyadic.signBit else 0) +
      if d.mantissa < Dyadic.hidden then d.mantissa
      else (d.exponent + 1075).toNat * Dyadic.hidden + (d.mantissa - Dyadic.hidden) := by
  have hlt : x.toBits.toNat < 18446744073709551616 := x.toBits.toNat_lt
  have hhidden : Dyadic.hidden = 4503599627370496 := rfl
  have hbit : Dyadic.signBit = 9223372036854775808 := rfl
  unfold Dyadic.ofFloat? at h
  dsimp only at h
  rw [hhidden, hbit] at h
  rw [hhidden, hbit]
  generalize x.toBits.toNat = bits at h hlt
  have hsign : (if (bits / 9223372036854775808 == 1) = true then 9223372036854775808 else 0) =
      bits / 9223372036854775808 * 9223372036854775808 := by
    split
    · rename_i hone
      rw [beq_iff_eq.mp hone, Nat.one_mul]
    · rename_i hne
      have := mt beq_iff_eq.mpr hne
      omega
  split at h
  · cases h
  · split at h
    · obtain rfl := Option.some.inj h
      dsimp only
      rw [hsign, if_pos (by omega)]
      omega
    · obtain rfl := Option.some.inj h
      dsimp only
      rw [hsign, if_neg (by omega), Int.ofNat_eq_natCast]
      omega

/-- **A double is determined by what it denotes.** -/
theorem eq_of_ofFloat?_eq {x y : Float} {d : Dyadic} (hx : Dyadic.ofFloat? x = some d)
    (hy : Dyadic.ofFloat? y = some d) : x = y :=
  toBits_injective (UInt64.toNat_inj.mp ((toNat_toBits_eq hx).trans (toNat_toBits_eq hy).symm))

/-! ## Doubles greater than zero -/

open Float.Model

theorem unpack_zero : (0.0 : Float).toModel.unpack = .zero .positive := rfl

theorem float_lt_iff {x y : Float} :
    x < y ↔ UnpackedFloat.lt x.toModel.unpack y.toModel.unpack = true := decide_eq_true_iff

/-- What lies above zero is infinite or has a mantissa. -/
theorem unpack_of_pos {x : Float} (h : 0.0 < x) :
    (∃ s, x.toModel.unpack = .infinity s) ∨ ∃ s m e hm, x.toModel.unpack = .finite s m e hm := by
  have hlt := float_lt_iff.mp h
  rw [unpack_zero] at hlt
  cases hu : x.toModel.unpack with
  | infinity s => exact Or.inl ⟨s, rfl⟩
  | notANumber =>
    rw [hu] at hlt
    exact absurd hlt (by decide)
  | zero s =>
    rw [hu] at hlt
    cases s <;> exact absurd hlt (by decide)
  | finite s m e hm => exact Or.inr ⟨s, m, e, hm, rfl⟩

theorem isNaN_of_pos {x : Float} (h : 0.0 < x) : x.isNaN = false := by
  show x.toModel.unpack.isNaN = false
  rcases unpack_of_pos h with ⟨s, hu⟩ | ⟨s, m, e, hm, hu⟩
  all_goals rw [hu]; rfl

theorem beq_zero_of_pos {x : Float} (h : 0.0 < x) : (x == 0.0) = false := by
  show UnpackedFloat.beq x.toModel.unpack (0.0 : Float).toModel.unpack = false
  rw [unpack_zero]
  rcases unpack_of_pos h with ⟨s, hu⟩ | ⟨s, m, e, hm, hu⟩
  all_goals rw [hu]; cases s <;> rfl

theorem pos_of_isPositive {x : Float} (h : isPositive x = true) : 0.0 < x :=
  of_decide_eq_true (Bool.and_eq_true_iff.mp h).2

end PartSourcing.Decimal
