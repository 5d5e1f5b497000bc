import PartSourcing.Proofs.Decimal.Operations

/-!
# Doubles between zero and one

A double lies between zero and one just if its value does (`inUnit_iff`): what is no number, or
infinite, does not.  **Clamping a finite double clamps its value** (`exactValue?_clampUnit`), so it
gives a double between zero and one and keeps the order.
-/

namespace PartSourcing.Decimal

open ScoreNumber

/-- A finite double has a value. -/
theorem exists_value {x : Float} (h : isFinite x = true) : ∃ v, exactValue? x = some v := by
  obtain ⟨d, hd⟩ := Option.isSome_iff_exists.mp h
  exact ⟨_, congrArg (Option.map Dyadic.value) hd⟩

theorem isFinite_of_exactValue? {x : Float} {v : ℚ} (h : exactValue? x = some v) :
    isFinite x = true := by
  obtain ⟨d, hd, -⟩ := Option.map_eq_some_iff.mp h
  exact Option.isSome_iff_exists.mpr ⟨d, hd⟩

/-- A place between two finite doubles is that of a finite one. -/
theorem exists_exactValue?_of_mem {x y z : Float} {v w : ℚ} (hy : exactValue? y = some v)
    (hz : exactValue? z = some w) (hle : y ≤ x) (hge : x ≤ z) :
    ∃ u, exactValue? x = some u ∧ v ≤ u ∧ u ≤ w := by
  have hfinite : ∃ u, exactValue? x = some u := by
    obtain ⟨p, q, hp, hq, hpq⟩ := float_le_iff.mp hle
    obtain ⟨q', r, hq', hr, hqr⟩ := float_le_iff.mp hge
    rw [place?_of_exactValue? hy, Option.some_inj] at hp
    rw [place?_of_exactValue? hz, Option.some_inj] at hr
    obtain rfl := Option.some.inj (hq.symm.trans hq')
    subst hp hr
    rw [exactValue?, Dyadic.ofFloat?_eq]
    unfold place? at hq
    cases hu : x.toModel.unpack with
    | notANumber =>
      rw [hu] at hq
      cases hq
    | infinity s =>
      rw [hu] at hq
      cases s
      · obtain rfl := Option.some.inj hq
        exact absurd hpq (EReal.bot_lt_coe _).not_ge
      · obtain rfl := Option.some.inj hq
        exact absurd hqr (EReal.coe_lt_top _).not_ge
    | zero s => exact ⟨_, rfl⟩
    | finite s m e hm => exact ⟨_, rfl⟩
  obtain ⟨u, hu⟩ := hfinite
  exact ⟨u, hu, (le_iff_of_exactValue? hy hu).mp hle, (le_iff_of_exactValue? hu hz).mp hge⟩

/-- **A double that lies between zero and one.** -/
def InUnit (x : Float) : Prop := 0.0 ≤ x ∧ x ≤ 1.0

/-- **A double lies between zero and one** just if its value does. -/
theorem inUnit_iff {x : Float} :
    InUnit x ↔ ∃ v, exactValue? x = some v ∧ 0 ≤ v ∧ v ≤ 1 := by
  constructor
  · rintro ⟨hle, hge⟩
    exact exists_exactValue?_of_mem exactValue?_zero exactValue?_one hle hge
  · rintro ⟨v, hv, hle, hge⟩
    exact ⟨(le_iff_of_exactValue? exactValue?_zero hv).mpr hle,
      (le_iff_of_exactValue? hv exactValue?_one).mpr hge⟩

theorem zero_eq : (zero : Float) = 0.0 := by decide

theorem one_eq : (one : Float) = 1.0 := by decide

/-- The test for doubles between zero and one. -/
theorem isUnit_eq_true_iff {x : Float} : ScoreNumber.isUnit x = true ↔ InUnit x := by
  rw [ScoreNumber.isUnit, Bool.and_eq_true, decide_eq_true_iff, decide_eq_true_iff, zero_eq, one_eq,
    InUnit]

namespace InUnit

variable {x : Float}

theorem le_self (h : InUnit x) : x ≤ x := by
  obtain ⟨v, hv, -, -⟩ := inUnit_iff.mp h
  exact (le_iff_of_exactValue? hv hv).mpr le_rfl

theorem isFinite (h : InUnit x) : Decimal.isFinite x = true := by
  obtain ⟨v, hv, -, -⟩ := inUnit_iff.mp h
  exact isFinite_of_exactValue? hv

theorem zero : InUnit 0.0 := ⟨by decide, by decide⟩

theorem one : InUnit 1.0 := ⟨by decide, by decide⟩

end InUnit

/-- **Clamping a finite double clamps its value.** -/
theorem exactValue?_clampUnit {x : Float} {v : ℚ} (h : exactValue? x = some v) :
    exactValue? (clampUnit x) = some (max 0 (min v 1)) := by
  unfold clampUnit
  rw [zero_eq, one_eq]
  split
  · rename_i hlt
    have hneg := (lt_iff_of_exactValue? h exactValue?_zero).mp hlt
    rw [min_eq_left (hneg.le.trans zero_le_one), max_eq_left hneg.le, exactValue?_zero]
  · rename_i hge
    have hnonneg := not_lt.mp (mt (lt_iff_of_exactValue? h exactValue?_zero).mpr hge)
    split
    · rename_i hgt
      have hone := (lt_iff_of_exactValue? exactValue?_one h).mp hgt
      rw [min_eq_right hone.le, max_eq_right zero_le_one, exactValue?_one]
    · rename_i hle
      have hone := not_lt.mp (mt (lt_iff_of_exactValue? exactValue?_one h).mpr hle)
      rw [min_eq_left hone, max_eq_right hnonneg, h]

/-- What is clamped lies between zero and one. -/
theorem inUnit_clampUnit {x : Float} (h : isFinite x = true) : InUnit (clampUnit x) := by
  obtain ⟨v, hv⟩ := exists_value h
  exact inUnit_iff.mpr ⟨_, exactValue?_clampUnit hv, le_max_left _ _,
    max_le zero_le_one (min_le_right _ _)⟩

/-- **Clamping keeps the order.** -/
theorem clampUnit_le {x y : Float} (hx : isFinite x = true) (hy : isFinite y = true) (h : x ≤ y) :
    clampUnit x ≤ clampUnit y := by
  obtain ⟨v, hv⟩ := exists_value hx
  obtain ⟨w, hw⟩ := exists_value hy
  have hle := (le_iff_of_exactValue? hv hw).mp h
  exact (le_iff_of_exactValue? (exactValue?_clampUnit hv) (exactValue?_clampUnit hw)).mpr
    (max_le_max le_rfl (min_le_min hle le_rfl))

/-- What is one or more is clamped to one. -/
theorem clampUnit_of_one_le {x : Float} (hx : isFinite x = true) (h : 1.0 ≤ x) :
    clampUnit x = 1.0 := by
  obtain ⟨v, hv⟩ := exists_value hx
  have hone := (le_iff_of_exactValue? exactValue?_one hv).mp h
  have hvalue := exactValue?_clampUnit hv
  rw [min_eq_right hone, max_eq_right zero_le_one] at hvalue
  exact eq_of_exactValue?_eq hvalue exactValue?_one one_ne_zero

end PartSourcing.Decimal
