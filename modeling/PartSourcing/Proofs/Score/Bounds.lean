import PartSourcing.Proofs.Decimal.TotalOrder
import PartSourcing.Proofs.Score.Composite

/-!
# The bounds of scores

With an accepted scoring every factor lies between zero and one, and no division is by zero: the
factors are those that come out if every divisor is looked at first (`Evidence.factors?`).  **If the
weights sum to one up to a millionth, so does the weighted sum stay below one up to a millionth**,
and keeping the percentage within the scale changes nothing (`score_in_bounds`).
-/

namespace PartSourcing

open ScoreNumber Decimal Calendar

/-! ## Divisors -/

/-- A quotient, unless the divisor is zero. -/
def divide? (x y : Float) : Option Float := if y == 0.0 then none else some (x / y)

/-- What is above zero is no such divisor. -/
theorem divide?_of_pos {x y : Float} (h : 0.0 < y) : divide? x y = some (x / y) := by
  rw [divide?, beq_zero_of_pos h]
  rfl

namespace Evidence

/-- The factor of an age, if nothing is divided by zero. -/
def recency? (s : Scoring Float) (age : Nat) : Option Float := do
  let days ← divide? (floatOfNat age) (floatOfNat 86400)
  let lives ← divide? days s.halfLifeDays
  let x := halved lives
  return if ScoreNumber.isFinite x then clampUnit x else zero

/-- The factor of a quantity, if nothing is divided by zero. -/
def quantityFit? (s : Scoring Float) (quantity : Option UInt64) (target : UInt32) : Option Float :=
  match quantity with
  | none => some s.quantityFallback
  | some q =>
    if target = 0 then some one
    else do
      let share ← divide? (floatOfNat q.toNat) (floatOfNat target.toNat)
      return if share < one then share else one

/-- The factor of a price, if nothing is divided by zero. -/
def priceFactor? (s : Scoring Float) : Option (Float × Float) → Option Float
  | some (price, target) => do
    let excess ← divide? (price - target) target
    return band s.bands excess
  | none => some s.priceFallback

/-- **The six factors, if nothing is divided by zero.** -/
def factors? (s : Scoring Float) (e : Evidence Float) : Option (Factors Float) := do
  let recency ← recency? s e.ageSeconds
  let quantityFit ← quantityFit? s e.quantity e.targetQuantity
  let completeness ← divide? (floatOfNat e.populated) (floatOfNat Sighting.optionalFieldCount)
  let priceCompetitiveness ← priceFactor? s e.prices
  return {
    recency, quantityFit
    vendorReliability := (e.reliability.map clampUnit).getD s.reliabilityFallback
    completeness
    sourceCredibility := s.credibility.of e.standing
    priceCompetitiveness }

theorem pos_of_exactValue? {x : Float} {v : ℚ} (h : exactValue? x = some v) (hv : 0 < v) :
    0.0 < x :=
  (lt_iff_of_exactValue? exactValue?_zero h).mpr hv

/-- **Nothing is divided by zero**, with an accepted scoring and a target price above zero, if there
is one. -/
theorem factors?_eq_some {s : Scoring Float} (h : s.Accepted) {e : Evidence Float}
    (hprices : ∀ p t, e.prices = some (p, t) → 0.0 < t) : e.factors? s = some (e.factors s) := by
  have hnat (n : Nat) (hn : 0 < n) (hlt : n < 2 ^ 53) : 0.0 < floatOfNat n := by
    obtain ⟨hvalue, hpos⟩ := exactValue?_divisor hn hlt
    exact pos_of_exactValue? hvalue hpos
  have hrecency : recency? s e.ageSeconds = some (recency s e.ageSeconds) := by
    obtain ⟨v, hv, hpos⟩ := h.exists_halfLife
    rw [recency?, divide?_of_pos (hnat 86400 (by decide) (by decide)), Option.bind_eq_bind,
      Option.bind_some, divide?_of_pos (pos_of_exactValue? hv hpos)]
    rfl
  have hquantity : quantityFit? s e.quantity e.targetQuantity =
      some (quantityFit s e.quantity e.targetQuantity) := by
    cases e.quantity with
    | none => rfl
    | some q =>
      by_cases hzero : e.targetQuantity = 0
      · rw [quantityFit?, quantityFit, if_pos hzero, if_pos hzero]
      · obtain ⟨ht, hpos⟩ := exactValue?_target hzero
        rw [quantityFit?, quantityFit, if_neg hzero, if_neg hzero,
          divide?_of_pos (pos_of_exactValue? ht hpos)]
        rfl
  have hcompleteness : divide? (floatOfNat e.populated) (floatOfNat Sighting.optionalFieldCount) =
      some (floatOfNat e.populated / floatOfNat Sighting.optionalFieldCount) :=
    divide?_of_pos (hnat _ (by decide) (by decide))
  have hprice : priceFactor? s e.prices = some (priceFactor s e.prices) := by
    cases hp : e.prices with
    | none => rfl
    | some prices =>
      rw [priceFactor?, divide?_of_pos (hprices _ _ hp)]
      rfl
  rw [factors?, hrecency, hquantity, hcompleteness, hprice]
  rfl

end Evidence

/-! ## The weighted sum -/

/-- Exact numbers are near if they differ by a millionth at most. -/
theorem isNear_iff {x y : ℝ} : Weights.isNear x y = true ↔ |x - y| ≤ 1 / 10 ^ 6 := by
  have hone : (one : ℝ) = 1 := Nat.cast_one
  have hmillion : (one : ℝ) / ofNat 1000000 = 1 / 10 ^ 6 := by
    rw [hone, ofNat_real]
    norm_num
  have hdistance : (if x < y then y - x else x - y) = |x - y| := by
    split
    · rename_i hlt
      rw [abs_of_neg (sub_neg.mpr hlt), neg_sub]
    · rename_i hge
      rw [abs_of_nonneg (sub_nonneg.mpr (not_lt.mp hge))]
  unfold Weights.isNear
  rw [decide_eq_true_iff, hmillion, hdistance]

/-- Accepted weights of exact numbers sum to one up to a millionth. -/
theorem sum_le_of_validate {w : Weights ℝ} (h : w.validate = .ok ()) : w.sum ≤ 1 + 1 / 10 ^ 6 := by
  have hone : (one : ℝ) = 1 := Nat.cast_one
  have hnear := isNear_iff.mp (Weights.validate_eq_ok_iff.mp h).2
  rw [hone] at hnear
  linarith [le_abs_self (w.sum - 1)]

/-- **The nearest whole number of percent** of something between zero and one and a millionth lies
within the scale. -/
theorem toNat_percent_of_mem {x : ℝ} (h : 0 ≤ x) (hle : x ≤ 1 + 1 / 10 ^ 6) :
    ((Score.percent x : UInt8).toNat : ℤ) = nearest (x * Score.most) := by
  have hmost : (Score.most : ℝ) = 100 := by
    unfold Score.most
    norm_num
  have hdef : nearest (x * Score.most) = ⌊x * Score.most + 1 / 2⌋ :=
    if_pos (by rw [hmost]; linarith)
  have hlow : 0 ≤ nearest (x * Score.most) := by
    rw [hdef, hmost]
    exact Int.floor_nonneg.mpr (by linarith)
  have hhigh : nearest (x * Score.most) ≤ 100 := by
    rw [hdef, hmost, Int.floor_le_iff]
    push_cast
    linarith
  have hkept : (nearest (x * Score.most)).toNat ≤ Score.most := Int.toNat_le.mpr hhigh
  rw [toNat_percent, min_eq_right hkept, Int.toNat_of_nonneg hlow]

/-- **Scores in bounds.**  With an accepted scoring, whatever the sighting, the requirement, the
reliability and the moment: every factor lies between zero and one; no division is by zero; and if
also the exact weights sum to one up to a millionth, then the exact weighted sum is not negative and
exceeds one by a millionth at most, and the percentage is its nearest whole number as it is. -/
theorem score_in_bounds {s : Scoring Float} (h : s.validate = .ok ()) (x : Sighting)
    (r : Requirement) (reliability : Float) (now : Instant) :
    let factors := (x.evidence r reliability now).factors s
    (∀ f ∈ factors.toList, 0.0 ≤ f ∧ f ≤ 1.0) ∧
    (x.evidence r reliability now).factors? s = some factors ∧
    ((s.weights.map exact).validate = .ok () →
      0 ≤ factors.exactWeighted s.weights ∧ factors.exactWeighted s.weights ≤ 1 + 1 / 10 ^ 6 ∧
      ((factors.exactComposite s.weights).toNat : ℤ) =
        nearest (factors.exactWeighted s.weights * Score.most)) := by
  intro factors
  have haccepted := Scoring.validate_eq_ok_iff.mp h
  have hunit : ∀ f ∈ factors.toList, InUnit f :=
    Evidence.inUnit_of_mem_factors haccepted _ x r reliability now
  refine ⟨hunit, Evidence.factors?_eq_some haccepted fun p t => Sighting.comparablePrices_pos,
    fun hweights => ?_⟩
  have hexact : ∀ y ∈ (factors.map exact).toList, 0 ≤ y ∧ y ≤ 1 := by
    have hmap : (factors.map exact).toList = factors.toList.map exact := rfl
    rw [hmap]
    intro y hy
    obtain ⟨f, hf, rfl⟩ := List.mem_map.mp hy
    exact (hunit f hf).exact_mem
  obtain ⟨hlow, hhigh⟩ := weighted_mem (exact_weight_nonneg haccepted.weights) hexact
  have hsum := hhigh.trans (sum_le_of_validate hweights)
  exact ⟨hlow, hsum, toNat_percent_of_mem hlow hsum⟩

/-- The usual weights sum to one up to a millionth, as the doubles that they are. -/
theorem validate_exact_default : (Weights.default.map exact).validate = .ok () := by
  have hvalue {x : Float} {m : Nat} {e : ℤ} (h : Dyadic.ofFloat? x = some ⟨false, m, e⟩) :
      exact x = m * 2 ^ e := by
    rw [exact_eq (congrArg (Option.map Dyadic.value) h)]
    show ((m * 2 ^ e : ℚ) : ℝ) = _
    push_cast
    rfl
  have hfifth := hvalue (x := 0.20) (m := 7205759403792794) (e := -55) (by decide)
  have hseventh := hvalue (x := 0.15) (m := 5404319552844595) (e := -55) (by decide)
  have htenth := hvalue (x := 0.10) (m := 7205759403792794) (e := -56) (by decide)
  have hsum : (Weights.default.map exact).sum = exact 0.20 + exact 0.20 + exact 0.15 + exact 0.10 +
      exact 0.15 + exact 0.20 := rfl
  have hone : (one : ℝ) = 1 := Nat.cast_one
  refine Weights.validate_eq_ok_iff.mpr ⟨fun x hx => ⟨rfl, ?_⟩, isNear_iff.mpr ?_⟩
  · have hzero : (zero : ℝ) = 0 := Nat.cast_zero
    rw [hzero]
    exact not_lt.mpr (exact_weight_nonneg (w := .default) rfl x hx)
  · rw [hsum, hfifth, hseventh, htenth, hone, abs_le]
    constructor <;> norm_num

/-- An offer of the most pieces there can be, at a price that is no number. -/
def endlessOffer : Sighting :=
  { plainOffer with quantity := some 18446744073709551615, price := some (0.0 / 0.0) }

/-- A requirement of no pieces at a negative price. -/
def nothingWanted : Requirement := ⟨"AB1", 0, [], some (-1.0), "USD"⟩

/-- The most pieces there can be, by a vendor of no known reliability, where none are wanted. -/
theorem score_in_bounds_extreme :
    Scoring.default.validate = .ok () ∧ (Weights.default.map exact).validate = .ok () ∧
    (let e := endlessOffer.evidence nothingWanted (0.0 / 0.0) ⟨86400, 0⟩
    (∀ f ∈ (e.factors .default).toList, 0.0 ≤ f ∧ f ≤ 1.0) ∧
    e.factors? .default = some (e.factors .default) ∧
    0 ≤ (e.factors .default).exactWeighted .default ∧
    (e.factors .default).exactWeighted .default ≤ 1 + 1 / 10 ^ 6 ∧
    (((e.factors .default).exactComposite .default).toNat : ℤ) =
        nearest ((e.factors .default).exactWeighted .default * (Score.most : ℝ))) := by
  have hvalid : Scoring.default.validate = .ok () := rfl
  obtain ⟨hunit, hdivided, hsum⟩ :=
    score_in_bounds hvalid endlessOffer nothingWanted (0.0 / 0.0) ⟨86400, 0⟩
  exact ⟨hvalid, validate_exact_default, hunit, hdivided, hsum validate_exact_default⟩

end PartSourcing
