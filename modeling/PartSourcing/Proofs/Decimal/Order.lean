import Mathlib.Data.EReal.Operations
import PartSourcing.Proofs.Decimal.Canonical
import PartSourcing.Proofs.Decimal.TotalOrder

/-!
# The order of doubles is that of their numbers

Every double that is a number at all has a place on the line of the reals and the two infinities
(`place?`).  Comparing doubles goes by exponents and then by mantissas; as these are in canonical
form, **it is comparing their places** (`float_le_iff`).
-/

namespace PartSourcing.Decimal

open Float.Model Float.Model.UnpackedFloat

/-! ## Places -/

/-- The number that an unpacked double stands for, with its sign. -/
def signed (s : Sign) (q : ℚ) : ℚ := if isNegative s then -q else q

/-- **The place of an unpacked double** on the line of the reals and the two infinities. -/
noncomputable def placeOf? : UnpackedFloat → Option EReal
  | .infinity .positive => some ⊤
  | .infinity .negative => some ⊥
  | .notANumber => none
  | .zero _ => some 0
  | .finite s m e _ => some ((signed s (m * 2 ^ e) : ℚ) : ℝ)

/-- **The place of a double**, if it is a number at all. -/
noncomputable def place? (x : Float) : Option EReal := placeOf? x.toModel.unpack

/-- The places of two finite numbers are compared like the numbers. -/
theorem compare_place (a b : ℚ) : compare ((a : ℝ) : EReal) ((b : ℝ) : EReal) = compare a b := by
  rcases lt_trichotomy a b with h | rfl | h
  · rw [compare_lt_iff_lt.mpr h, compare_lt_iff_lt, EReal.coe_lt_coe_iff]
    exact_mod_cast h
  · rw [compare_eq_iff_eq.mpr rfl, compare_eq_iff_eq.mpr rfl]
  · rw [compare_gt_iff_gt.mpr h, compare_gt_iff_gt]
    exact EReal.coe_lt_coe_iff.mpr (by exact_mod_cast h)

theorem compare_neg_swap (a b : ℚ) : compare (-a) (-b) = (compare a b).swap := by
  rcases lt_trichotomy a b with h | rfl | h
  · rw [compare_lt_iff_lt.mpr h, compare_gt_iff_gt.mpr (neg_lt_neg h)]
    rfl
  · rw [compare_eq_iff_eq.mpr rfl, compare_eq_iff_eq.mpr rfl]
    rfl
  · rw [compare_gt_iff_gt.mpr h, compare_lt_iff_lt.mpr (neg_lt_neg h)]
    rfl

theorem compare_of_lt {p q : EReal} (h : p < q) :
    some Ordering.lt = some (compare p q) ∧ some Ordering.gt = some (compare q p) :=
  ⟨congrArg some (compare_lt_iff_lt.mpr h).symm, congrArg some (compare_gt_iff_gt.mpr h).symm⟩

/-- **Comparing unpacked doubles in canonical form is comparing their places.** -/
theorem compare_eq {u v : UnpackedFloat}
    (hu : ∀ s m e hm, u = .finite s m e hm → IsCanonical m e)
    (hv : ∀ s m e hm, v = .finite s m e hm → IsCanonical m e) :
    u.compare v = (placeOf? u).bind fun p => (placeOf? v).map (compare p) := by
  have hself (p : EReal) : some Ordering.eq = some (compare p p) :=
    congrArg some (compare_eq_iff_eq.mpr rfl).symm
  have hpos {m : Nat} (e : ℤ) (hm : 0 < m) : (0 : EReal) < ((m * 2 ^ e : ℚ) : ℝ) :=
    EReal.coe_pos.mpr (by positivity)
  have hneg {m : Nat} (e : ℤ) (hm : 0 < m) : (((-(m * 2 ^ e) : ℚ) : ℝ) : EReal) < 0 := by
    have := EReal.neg_lt_zero.mpr (hpos e hm)
    rwa [← EReal.coe_neg, ← Rat.cast_neg] at this
  cases u with
  | notANumber => rfl
  | infinity s =>
    cases v with
    | notANumber => cases s <;> rfl
    | infinity t =>
      cases s <;> cases t
      · exact hself ⊥
      · exact (compare_of_lt bot_lt_top).1
      · exact (compare_of_lt bot_lt_top).2
      · exact hself ⊤
    | zero t =>
      cases s
      · exact (compare_of_lt EReal.bot_lt_zero).1
      · exact (compare_of_lt EReal.zero_lt_top).2
    | finite t m e hm =>
      cases s
      · exact (compare_of_lt (EReal.bot_lt_coe _)).1
      · exact (compare_of_lt (EReal.coe_lt_top _)).2
  | zero s =>
    cases v with
    | notANumber => rfl
    | infinity t =>
      cases t
      · exact (compare_of_lt EReal.bot_lt_zero).2
      · exact (compare_of_lt EReal.zero_lt_top).1
    | zero t => exact hself 0
    | finite t m e hm =>
      cases t
      · exact (compare_of_lt (hneg e hm)).2
      · exact (compare_of_lt (hpos e hm)).1
  | finite s m e hm =>
    cases v with
    | notANumber => rfl
    | infinity t =>
      cases t
      · cases s <;> exact (compare_of_lt (EReal.bot_lt_coe _)).2
      · cases s <;> exact (compare_of_lt (EReal.coe_lt_top _)).1
    | zero t =>
      cases s
      · exact (compare_of_lt (hneg e hm)).1
      · exact (compare_of_lt (hpos e hm)).2
    | finite t m' e' hm' =>
      -- signs decide first; where they agree, exponents and mantissas do
      have hcompare := (hu s m e hm rfl).compare_eq (hv t m' e' hm' rfl)
      cases s <;> cases t
      · show some _ = some (compare _ _)
        rw [hcompare, compare_place, ← compare_neg_swap]
        rfl
      · exact (compare_of_lt ((hneg e hm).trans (hpos e' hm'))).1
      · exact (compare_of_lt ((hneg e' hm').trans (hpos e hm))).2
      · exact congrArg some (hcompare.trans (compare_place _ _).symm)

/-- The comparison of two doubles. -/
theorem compare_unpack (x y : Float) : x.toModel.unpack.compare y.toModel.unpack =
    (place? x).bind fun p => (place? y).map (compare p) :=
  compare_eq (fun _ _ _ _ h => (isCanonical_of_unpack h).1)
    fun _ _ _ _ h => (isCanonical_of_unpack h).1

/-- **The order of doubles is that of their places.** -/
theorem float_le_iff {x y : Float} :
    x ≤ y ↔ ∃ p q, place? x = some p ∧ place? y = some q ∧ p ≤ q := by
  have hle : x ≤ y ↔ UnpackedFloat.le x.toModel.unpack y.toModel.unpack = true :=
    decide_eq_true_iff
  rw [hle, UnpackedFloat.le, compare_unpack]
  cases place? x with
  | none => exact iff_of_false Bool.false_ne_true nofun
  | some p =>
    cases place? y with
    | none => exact iff_of_false Bool.false_ne_true nofun
    | some q => simp [Ordering.isLE_iff_ne_gt, compare_gt_iff_gt]

/-- A double is less than another just if its place is. -/
theorem float_lt_iff_place {x y : Float} :
    x < y ↔ ∃ p q, place? x = some p ∧ place? y = some q ∧ p < q := by
  rw [float_lt_iff, UnpackedFloat.lt, compare_unpack]
  cases place? x with
  | none => exact iff_of_false Bool.false_ne_true nofun
  | some p =>
    cases place? y with
    | none => exact iff_of_false Bool.false_ne_true nofun
    | some q => simp [compare_lt_iff_lt]

section Order

variable {x y z : Float}

theorem float_le_trans (h : x ≤ y) (h' : y ≤ z) : x ≤ z := by
  obtain ⟨p, q, hp, hq, hle⟩ := float_le_iff.mp h
  obtain ⟨q', r, hq', hr, hle'⟩ := float_le_iff.mp h'
  obtain rfl := Option.some.inj (hq.symm.trans hq')
  exact float_le_iff.mpr ⟨p, r, hp, hr, hle.trans hle'⟩

theorem float_le_of_lt (h : x < y) : x ≤ y := by
  obtain ⟨p, q, hp, hq, hlt⟩ := float_lt_iff_place.mp h
  exact float_le_iff.mpr ⟨p, q, hp, hq, hlt.le⟩

theorem float_lt_of_le_of_lt (h : x ≤ y) (h' : y < z) : x < z := by
  obtain ⟨p, q, hp, hq, hle⟩ := float_le_iff.mp h
  obtain ⟨q', r, hq', hr, hlt⟩ := float_lt_iff_place.mp h'
  obtain rfl := Option.some.inj (hq.symm.trans hq')
  exact float_lt_iff_place.mpr ⟨p, r, hp, hr, hle.trans_lt hlt⟩

theorem float_lt_of_lt_of_le (h : x < y) (h' : y ≤ z) : x < z := by
  obtain ⟨p, q, hp, hq, hlt⟩ := float_lt_iff_place.mp h
  obtain ⟨q', r, hq', hr, hle⟩ := float_le_iff.mp h'
  obtain rfl := Option.some.inj (hq.symm.trans hq')
  exact float_lt_iff_place.mpr ⟨p, r, hp, hr, hlt.trans_le hle⟩

/-- What is not above a number is below it, if it is comparable to something. -/
theorem float_lt_of_not_le (hz : x ≤ z) (hy : y ≤ y) (h : ¬x ≤ y) : y < x := by
  obtain ⟨p, -, hp, -, -⟩ := float_le_iff.mp hz
  obtain ⟨q, -, hq, -, -⟩ := float_le_iff.mp hy
  refine float_lt_iff_place.mpr ⟨q, p, hq, hp, lt_of_not_ge fun hle => h ?_⟩
  exact float_le_iff.mpr ⟨p, q, hp, hq, hle⟩

end Order

end PartSourcing.Decimal
