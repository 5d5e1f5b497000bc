import PartSourcing.Proofs.Decimal.Nearest
import PartSourcing.Proofs.Decimal.Order

/-!
# Exact results and rounded ones

An operation on doubles gives what its exact result is rounded to (`IsRounding`): the nearest
double, or an infinite one where that is out of reach.  **Rounding keeps the order**
(`IsRounding.le_of_lt`), and it does not change what a double denotes (`IsRounding.place?_eq`).  So
a rounded result lies on the same side of a double as the exact one (`IsRounding.le_of_le`,
`IsRounding.ge_of_ge`).
-/

namespace PartSourcing.Decimal

open Float.Model Float.Model.UnpackedFloat

/-! ## Places and values -/

/-- **A finite double has the place of its value.** -/
theorem place?_of_exactValue? {x : Float} {v : ℚ} (h : exactValue? x = some v) :
    place? x = some ((v : ℝ) : EReal) := by
  rw [exactValue?, Dyadic.ofFloat?_eq] at h
  unfold place?
  generalize x.toModel.unpack = u at h
  cases u with
  | infinity | notANumber => cases h
  | zero s =>
    have hvalue : Dyadic.value ⟨isNegative s, 0, Dyadic.leastExponent⟩ = 0 := by
      rw [← abs_eq_zero, Dyadic.abs_value, Dyadic.magnitude, Nat.cast_zero, zero_mul]
    rw [← Option.some.inj h, hvalue]
    norm_cast
  | finite s m e hm =>
    rw [← Option.some.inj h]
    rfl

/-- Finite doubles are ordered like their values. -/
theorem le_iff_of_exactValue? {x y : Float} {v w : ℚ} (hx : exactValue? x = some v)
    (hy : exactValue? y = some w) : x ≤ y ↔ v ≤ w := by
  rw [float_le_iff, place?_of_exactValue? hx, place?_of_exactValue? hy]
  constructor
  · rintro ⟨p, q, hp, hq, hle⟩
    rw [← Option.some.inj hp, ← Option.some.inj hq] at hle
    exact_mod_cast EReal.coe_le_coe_iff.mp hle
  · exact fun hle => ⟨_, _, rfl, rfl, EReal.coe_le_coe_iff.mpr (by exact_mod_cast hle)⟩

/-- A finite double is below another just if its value is. -/
theorem lt_iff_of_exactValue? {x y : Float} {v w : ℚ} (hx : exactValue? x = some v)
    (hy : exactValue? y = some w) : x < y ↔ v < w := by
  rw [float_lt_iff_place, place?_of_exactValue? hx, place?_of_exactValue? hy]
  constructor
  · rintro ⟨p, q, hp, hq, hlt⟩
    rw [← Option.some.inj hp, ← Option.some.inj hq] at hlt
    exact_mod_cast EReal.coe_lt_coe_iff.mp hlt
  · exact fun hlt => ⟨_, _, rfl, rfl, EReal.coe_lt_coe_iff.mpr (by exact_mod_cast hlt)⟩

/-- A double that has a place is not above itself. -/
theorem le_of_place_eq {x y : Float} {p : EReal} (hx : place? x = some p) (hy : place? y = some p) :
    x ≤ y :=
  float_le_iff.mpr ⟨p, p, hx, hy, le_rfl⟩

theorem exactValue?_zero : exactValue? 0.0 = some 0 := by
  have hzero : Dyadic.ofFloat? 0.0 = some ⟨false, 0, -1074⟩ := by decide
  rw [exactValue?, hzero, Option.map_some, Dyadic.value, Dyadic.magnitude, Nat.cast_zero, zero_mul]
  rfl

theorem exactValue?_one : exactValue? 1.0 = some 1 := by
  have hone : Dyadic.ofFloat? 1.0 = some ⟨false, 2 ^ 52, -52⟩ := by decide
  rw [exactValue?, hone, Option.map_some]
  exact congrArg some (by show ((2 ^ 52 : ℕ) : ℚ) * 2 ^ (-52 : ℤ) = 1; norm_num)

/-! ## The grid -/

/-- **The numbers that doubles could denote** if their exponents had no upper bound. -/
def OnGrid (v : ℚ) : Prop := ∃ d : Dyadic, d.mantissa < 2 ^ 53 ∧ -1074 ≤ d.exponent ∧ d.value = v

/-- The nearest number on the grid, or one of two. -/
def IsNearestOnGrid (g q : ℚ) : Prop := OnGrid g ∧ ∀ g', OnGrid g' → |g - q| ≤ |g' - q|

/-- **What a number is rounded to is nearest on the grid.** -/
theorem IsRounded.isNearestOnGrid {q : ℚ} {m : Nat} {e : ℤ} (h : IsRounded q m e)
    (hm : IsCanonical m e) : IsNearestOnGrid (m * 2 ^ e) q := by
  refine ⟨⟨⟨false, m, e⟩, hm.lt, hm.least, rfl⟩, ?_⟩
  rintro _ ⟨d, hd, hleast, rfl⟩
  exact (h.near hd hleast).1

/-- The value of a finite double is on the grid and within reach. -/
theorem onGrid_of_exactValue? {x : Float} {v : ℚ} (h : exactValue? x = some v) :
    OnGrid v ∧ |v| < reach := by
  obtain ⟨d, hd, rfl⟩ := Option.map_eq_some_iff.mp h
  obtain ⟨hcanonical, hexponent⟩ := Dyadic.isCanonical hd
  refine ⟨⟨d, hcanonical.lt, hcanonical.least, rfl⟩, ?_⟩
  rw [Dyadic.abs_value]
  exact hcanonical.lt_reach hexponent

/-- Of two numbers the nearest ones on the grid are ordered like them. -/
theorem IsNearestOnGrid.le_of_lt {g g' q q' : ℚ} (hg : IsNearestOnGrid g q)
    (hg' : IsNearestOnGrid g' q') (h : q < q') : g ≤ g' := by
  -- if they were the other way round, each would be nearer to the other's number
  by_contra hlt
  have hnear := sq_le_sq.mpr (hg.2 g' hg'.1)
  have hnear' := sq_le_sq.mpr (hg'.2 g hg.1)
  nlinarith

/-- What is on the grid is nearest to itself. -/
theorem OnGrid.isNearestOnGrid {v : ℚ} (h : OnGrid v) : IsNearestOnGrid v v :=
  ⟨h, fun g' _ => by rw [sub_self, abs_zero]; exact abs_nonneg _⟩

theorem IsNearestOnGrid.eq_of_onGrid {g v : ℚ} (hg : IsNearestOnGrid g v) (h : OnGrid v) :
    g = v := by
  have hle := hg.2 v h
  rw [sub_self, abs_zero] at hle
  exact sub_eq_zero.mp (abs_nonpos_iff.mp hle)

theorem OnGrid.neg {v : ℚ} (hv : OnGrid v) : OnGrid (-v) := by
  obtain ⟨d, hd, hleast, rfl⟩ := hv
  exact ⟨⟨!d.negative, d.mantissa, d.exponent⟩, hd, hleast, d.value_not⟩

theorem IsNearestOnGrid.signed {g q : ℚ} (s : Sign) (h : IsNearestOnGrid g q) :
    IsNearestOnGrid (Decimal.signed s g) (Decimal.signed s q) := by
  cases s
  · obtain ⟨hg, hnear⟩ := h
    refine ⟨hg.neg, fun g' hg' => ?_⟩
    have hle := hnear (-g') hg'.neg
    have hself : |g - q| = |-g - -q| := by rw [← abs_neg_sub, neg_neg]
    rwa [abs_neg_sub, hself] at hle
  · exact h

/-! ## Rounding -/

/-- A number that is out of reach of doubles is infinite. -/
noncomputable def clipped (g : ℚ) : EReal :=
  if reach ≤ g then ⊤ else if g ≤ -reach then ⊥ else ((g : ℝ) : EReal)

theorem clipped_mono {g g' : ℚ} (h : g ≤ g') : clipped g ≤ clipped g' := by
  unfold clipped
  by_cases htop : reach ≤ g'
  · rw [if_pos htop]
    exact le_top
  rw [if_neg htop, if_neg fun hg => htop (hg.trans h)]
  by_cases hbot : g ≤ -reach
  · rw [if_pos hbot]
    exact bot_le
  rw [if_neg hbot, if_neg fun hg => hbot (h.trans hg)]
  exact EReal.coe_le_coe_iff.mpr (by exact_mod_cast h)

theorem clipped_of_abs_lt {g : ℚ} (h : |g| < reach) : clipped g = ((g : ℝ) : EReal) := by
  obtain ⟨hlow, hhigh⟩ := abs_lt.mp h
  rw [clipped, if_neg hhigh.not_ge, if_neg hlow.not_ge]

theorem abs_signed (s : Sign) (q : ℚ) : |signed s q| = |q| := by
  cases s
  · exact abs_neg q
  · rfl

theorem placeOf?_ofParts (s : Sign) (m : Nat) (e : ℤ) :
    placeOf? (ofParts s m e) = some ((signed s (m * 2 ^ e) : ℚ) : ℝ) := by
  by_cases hm : m = 0
  · have hvalue : signed s ((m : ℕ) * 2 ^ e) = 0 := by
      rw [← abs_eq_zero, abs_signed, hm, Nat.cast_zero, zero_mul, abs_zero]
    rw [ofParts, dif_pos hm, hvalue]
    norm_cast
  · rw [ofParts, dif_neg hm]
    rfl

/-- **What is packed has the place of its number**, or is infinite where that is out of reach. -/
theorem place_pack {m : Nat} {e : ℤ} (s : Sign) (h : IsCanonical m e) :
    placeOf? (Float.Model.pack (ofParts s m e)).unpack = some (clipped (signed s (m * 2 ^ e))) := by
  by_cases he : e ≤ 971
  · have hreach : |signed s (m * 2 ^ e)| < reach := by
      rw [abs_signed, abs_of_nonneg (by positivity)]
      exact h.lt_reach he
    rw [h.unpack_pack he, clipped_of_abs_lt hreach]
    exact placeOf?_ofParts s m e
  · have hpos : 0 < m := (Nat.two_pow_pos 52).trans_le (h.full.resolve_right (by omega))
    have hreach := reach_pos
    have hbeyond := h.reach_le (by omega)
    rw [ofParts_of_pos s e hpos, unpack_pack_overflow s hpos (by omega)]
    cases s
    · have hneg : signed .negative ((m : ℚ) * 2 ^ e) = -(m * 2 ^ e) := rfl
      rw [hneg, clipped, if_neg (by linarith), if_pos (by linarith)]
      rfl
    · have hself : signed .positive ((m : ℚ) * 2 ^ e) = m * 2 ^ e := rfl
      rw [hself, clipped, if_pos hbeyond]
      rfl

/-- **A double is what an exact result is rounded to**: one that is on the grid and nearest, if it
is within reach, and an infinite one if the result is infinite. -/
inductive IsRounding : EReal → Float → Prop where
  | finite {q g : ℚ} {x : Float} (hg : IsNearestOnGrid g q) (hx : place? x = some (clipped g)) :
      IsRounding ((q : ℝ) : EReal) x
  | infinite {p : EReal} {x : Float} (hp : p = ⊤ ∨ p = ⊥) (hx : place? x = some p) :
      IsRounding p x

namespace IsRounding

variable {p q : EReal} {x y : Float} {v : ℚ}

/-- What is rounded has a place. -/
theorem exists_place (h : IsRounding p x) : ∃ r, place? x = some r := by
  cases h with
  | finite _ hx => exact ⟨_, hx⟩
  | infinite _ hx => exact ⟨_, hx⟩

/-- What has the place of zero is zero rounded. -/
theorem zero (hx : place? x = some 0) : IsRounding 0 x := by
  have hgrid : OnGrid 0 := (onGrid_of_exactValue? exactValue?_zero).1
  have hcast : (0 : EReal) = (((0 : ℚ) : ℝ) : EReal) := by norm_cast
  have hclipped : clipped 0 = 0 := by
    rw [clipped_of_abs_lt (abs_zero.trans_lt reach_pos), hcast]
  rw [hcast]
  exact .finite hgrid.isNearestOnGrid (hclipped ▸ hx)

/-- **Rounding keeps the order.** -/
theorem le_of_lt (hx : IsRounding p x) (hy : IsRounding q y) (h : p < q) : x ≤ y := by
  rw [float_le_iff]
  cases hx with
  | finite hg hx =>
    cases hy with
    | finite hg' hy =>
      have hlt := EReal.coe_lt_coe_iff.mp h
      exact ⟨_, _, hx, hy, clipped_mono (hg.le_of_lt hg' (by exact_mod_cast hlt))⟩
    | infinite hq hy =>
      rcases hq with rfl | rfl
      · exact ⟨_, _, hx, hy, le_top⟩
      · exact absurd h not_lt_bot
  | infinite hp hx =>
    rcases hp with rfl | rfl
    · exact absurd h not_top_lt
    · obtain ⟨r, hr⟩ := hy.exists_place
      exact ⟨_, _, hx, hr, bot_le⟩

/-- What is on the grid is not changed by rounding. -/
theorem place?_eq (h : IsRounding ((v : ℝ) : EReal) x) (hv : OnGrid v) :
    place? x = some (clipped v) := by
  generalize hp : ((v : ℝ) : EReal) = p at h
  cases h with
  | finite hg hx =>
    obtain rfl := Rat.cast_injective (EReal.coe_injective hp)
    rwa [hg.eq_of_onGrid hv] at hx
  | infinite hinf hx =>
    subst hp
    exact absurd hinf (not_or.mpr ⟨EReal.coe_ne_top _, EReal.coe_ne_bot _⟩)

/-- A finite double is what its value is rounded to. -/
theorem of_exactValue? (h : exactValue? x = some v) : IsRounding ((v : ℝ) : EReal) x := by
  obtain ⟨hgrid, hreach⟩ := onGrid_of_exactValue? h
  refine .finite hgrid.isNearestOnGrid ?_
  rw [clipped_of_abs_lt hreach]
  exact place?_of_exactValue? h

/-- **A result that is no greater than a double is rounded to one that is no greater.** -/
theorem le_of_le (h : IsRounding p x) (hy : exactValue? y = some v) (hle : p ≤ ((v : ℝ) : EReal)) :
    x ≤ y := by
  have hself := of_exactValue? hy
  rcases hle.lt_or_eq with hlt | rfl
  · exact h.le_of_lt hself hlt
  · have hgrid := (onGrid_of_exactValue? hy).1
    exact le_of_place_eq (h.place?_eq hgrid) (hself.place?_eq hgrid)

/-- **A result that is no less than a double is rounded to one that is no less.** -/
theorem ge_of_ge (h : IsRounding p x) (hy : exactValue? y = some v) (hle : ((v : ℝ) : EReal) ≤ p) :
    y ≤ x := by
  have hself := of_exactValue? hy
  rcases hle.lt_or_eq with hlt | rfl
  · exact hself.le_of_lt h hlt
  · have hgrid := (onGrid_of_exactValue? hy).1
    exact le_of_place_eq (hself.place?_eq hgrid) (h.place?_eq hgrid)

/-- What is packed is what is rounded to its parts. -/
theorem of_parts {m : Nat} {e : ℤ} {v : ℚ} (s : Sign) (h : IsCanonical m e) (hr : IsRounded v m e)
    {x : Float} (hx : x.toModel = Float.Model.pack (ofParts s m e)) :
    IsRounding ((signed s v : ℝ) : EReal) x := by
  refine .finite ((hr.isNearestOnGrid h).signed s) ?_
  rw [place?, hx]
  exact place_pack s h

end IsRounding

end PartSourcing.Decimal
