import PartSourcing.Proofs.Memory.Growth
import PartSourcing.Proofs.Score.Exact
import PartSourcing.Proofs.Score.Factors

/-!
# Scores in exact arithmetic

The factors and the weights of a score are doubles.  Here they are weighted and summed as the
numbers that they denote, without rounding, and only the result is rounded to a percentage
(`Factors.exactComposite`).  With weights that are not negative **no greater factors make no greater
a score** (`exactComposite_le`).
-/

namespace PartSourcing

open ScoreNumber Decimal

/-- **The number that a double denotes**, as a real. -/
noncomputable def exact (x : Float) : ℝ := ((exactValue? x).getD 0 : ℚ)

theorem exact_eq {x : Float} {v : ℚ} (h : exactValue? x = some v) : exact x = v := by
  rw [exact, h, Option.getD_some]

theorem exact_zero : exact 0.0 = 0 := (exact_eq exactValue?_zero).trans Rat.cast_zero

theorem exact_one : exact 1.0 = 1 := (exact_eq exactValue?_one).trans Rat.cast_one

theorem Decimal.InUnit.exact_mem {x : Float} (h : InUnit x) : 0 ≤ exact x ∧ exact x ≤ 1 := by
  obtain ⟨v, hv, hlow, hhigh⟩ := inUnit_iff.mp h
  rw [exact_eq hv]
  exact ⟨by exact_mod_cast hlow, by exact_mod_cast hhigh⟩

/-- Finite doubles are ordered like the numbers that they denote. -/
theorem exact_le {x y : Float} (hx : InUnit x) (hy : InUnit y) (h : x ≤ y) : exact x ≤ exact y := by
  obtain ⟨v, hv, -, -⟩ := inUnit_iff.mp hx
  obtain ⟨w, hw, -, -⟩ := inUnit_iff.mp hy
  rw [exact_eq hv, exact_eq hw]
  exact_mod_cast (le_iff_of_exactValue? hv hw).mp h

/-! ## Weighted sums -/

section Weighted

variable {w : Weights ℝ} {f g : Factors ℝ}

/-- **A weighted sum is monotone** where the weights are not negative. -/
theorem weighted_le (hw : ∀ x ∈ w.toList, 0 ≤ x) (h : List.Forall₂ (· ≤ ·) f.toList g.toList) :
    f.weighted w ≤ g.weighted w := by
  simp only [Weights.toList, List.forall_mem_cons, List.not_mem_nil, false_implies, implies_true,
    and_true] at hw
  simp only [Factors.toList, List.forall₂_cons, List.forall₂_nil_left_iff, and_true] at h
  obtain ⟨h₁, h₂, h₃, h₄, h₅, h₆⟩ := hw
  obtain ⟨l₁, l₂, l₃, l₄, l₅, l₆⟩ := h
  unfold Factors.weighted
  gcongr

/-- **A weighted sum of factors between zero and one** lies between zero and the sum of the
weights. -/
theorem weighted_mem (hw : ∀ x ∈ w.toList, 0 ≤ x) (h : ∀ x ∈ f.toList, 0 ≤ x ∧ x ≤ 1) :
    0 ≤ f.weighted w ∧ f.weighted w ≤ w.sum := by
  have hzero : (⟨0, 0, 0, 0, 0, 0⟩ : Factors ℝ).weighted w = 0 := by
    simp only [Factors.weighted, mul_zero, add_zero]
  have hone : (⟨1, 1, 1, 1, 1, 1⟩ : Factors ℝ).weighted w = w.sum := by
    simp only [Factors.weighted, Weights.sum, mul_one]
  simp only [Factors.toList, List.forall_mem_cons, List.not_mem_nil, false_implies, implies_true,
    and_true] at h
  obtain ⟨h₁, h₂, h₃, h₄, h₅, h₆⟩ := h
  constructor
  · rw [← hzero]
    exact weighted_le hw (.cons h₁.1 (.cons h₂.1 (.cons h₃.1 (.cons h₄.1 (.cons h₅.1
      (.cons h₆.1 .nil))))))
  · rw [← hone]
    exact weighted_le hw (.cons h₁.2 (.cons h₂.2 (.cons h₃.2 (.cons h₄.2 (.cons h₅.2
      (.cons h₆.2 .nil))))))

end Weighted

/-! ## Percentages -/

theorem nearest_mono {x y : ℝ} (h : x ≤ y) : nearest x ≤ nearest y := by
  show (if 0 ≤ x then ⌊x + 1 / 2⌋ else -⌊-x + 1 / 2⌋) ≤ if 0 ≤ y then ⌊y + 1 / 2⌋ else -⌊-y + 1 / 2⌋
  split
  · rename_i hx
    rw [if_pos (hx.trans h)]
    exact Int.floor_mono (by linarith)
  · split
    · rename_i hx hy
      have hlow : 0 ≤ ⌊-x + 1 / 2⌋ := Int.floor_nonneg.mpr (by linarith)
      have hhigh : 0 ≤ ⌊y + 1 / 2⌋ := Int.floor_nonneg.mpr (by linarith)
      omega
    · have : ⌊-y + 1 / 2⌋ ≤ ⌊-x + 1 / 2⌋ := Int.floor_mono (by linarith)
      omega

/-- A natural is nearest to itself. -/
theorem nearest_natCast (n : Nat) : nearest (n : ℝ) = n := by
  have hfloor : ⌊(n : ℝ) + 1 / 2⌋ = n := by
    rw [Int.floor_eq_iff, Int.cast_natCast]
    constructor <;> linarith
  exact (if_pos (Nat.cast_nonneg n)).trans hfloor

/-- A percentage of a real number. -/
theorem toNat_percent (x : ℝ) :
    (Score.percent x : UInt8).toNat = min Score.most (nearest (x * Score.most)).toNat := by
  have hmost : min Score.most (nearest (x * Score.most)).toNat < 256 :=
    (min_le_left _ _).trans_lt (by decide)
  have hfinite : ScoreNumber.isFinite x = true := rfl
  unfold Score.percent
  rw [if_pos hfinite]
  exact Nat.mod_eq_of_lt hmost

theorem percent_zero : (Score.percent (0 : ℝ) : UInt8) = 0 := by
  rw [← UInt8.toNat_inj, toNat_percent, zero_mul, ← Nat.cast_zero, nearest_natCast]
  rfl

theorem percent_one : (Score.percent (1 : ℝ) : UInt8) = 100 := by
  rw [← UInt8.toNat_inj, toNat_percent, one_mul, nearest_natCast]
  rfl

/-- **A percentage rises with what it is a percentage of.** -/
theorem percent_le {x y : ℝ} (h : x ≤ y) : (Score.percent x : UInt8) ≤ Score.percent y := by
  have hnearest : nearest (x * Score.most) ≤ nearest (y * Score.most) :=
    nearest_mono (mul_le_mul_of_nonneg_right h (Nat.cast_nonneg _))
  rw [UInt8.le_iff_toNat_le, toNat_percent, toNat_percent]
  exact min_le_min le_rfl (Int.toNat_le_toNat hnearest)

/-! ## Scores -/

/-- **The weighted sum of some factors, in exact arithmetic.** -/
noncomputable def Factors.exactWeighted (f : Factors Float) (w : Weights Float) : ℝ :=
  (f.map exact).weighted (w.map exact)

/-- **The score of some factors, in exact arithmetic.** -/
noncomputable def Factors.exactComposite (f : Factors Float) (w : Weights Float) : UInt8 :=
  Score.percent (f.exactWeighted w)

/-- Accepted weights are not negative. -/
theorem exact_weight_nonneg {w : Weights Float} (h : w.validate = .ok ()) :
    ∀ x ∈ (w.map exact).toList, 0 ≤ x := by
  intro x hx
  have hmap : (w.map exact).toList = w.toList.map exact := rfl
  rw [hmap] at hx
  obtain ⟨y, hy, rfl⟩ := List.mem_map.mp hx
  obtain ⟨hfinite, hnonneg⟩ := (Weights.validate_eq_ok_iff.mp h).1 y hy
  obtain ⟨v, hv⟩ := exists_value hfinite
  rw [zero_eq] at hnonneg
  rw [exact_eq hv]
  exact_mod_cast not_lt.mp (mt (lt_iff_of_exactValue? hv exactValue?_zero).mpr hnonneg)

/-- Doubles between zero and one that are the same or no greater denote such numbers. -/
theorem forall₂_exact {l m : List Float} (hl : ∀ x ∈ l, InUnit x) (hm : ∀ x ∈ m, InUnit x)
    (h : List.Forall₂ (fun x y => x = y ∨ x ≤ y) l m) :
    List.Forall₂ (· ≤ ·) (l.map exact) (m.map exact) := by
  induction h with
  | nil => exact .nil
  | cons hle _ ih =>
    rw [List.forall_mem_cons] at hl hm
    refine .cons ?_ (ih hl.2 hm.2)
    rcases hle with rfl | hle
    · exact le_rfl
    · exact exact_le hl.1 hm.1 hle

/-- **Factors that are the same or no greater make no greater a score.** -/
theorem exactComposite_le {w : Weights Float} (hw : w.validate = .ok ()) {f g : Factors Float}
    (hf : ∀ x ∈ f.toList, InUnit x) (hg : ∀ x ∈ g.toList, InUnit x)
    (h : List.Forall₂ (fun x y => x = y ∨ x ≤ y) f.toList g.toList) :
    f.exactComposite w ≤ g.exactComposite w :=
  percent_le (weighted_le (exact_weight_nonneg hw) (forall₂_exact hf hg h))

/-- An offer that leaves open whatever can be left open. -/
def plainOffer : Sighting := .bare "acme" "AB1" .epoch .zero

end PartSourcing
