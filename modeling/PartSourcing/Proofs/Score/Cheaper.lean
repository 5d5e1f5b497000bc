import PartSourcing.Proofs.Score.Composite

/-!
# Cheaper offers

A price is worth what its band is configured to be worth, and validation leaves the order of the
bands open.  **If they fall, a cheaper offer scores no less than one that is alike but dearer**
(`cheaper_scores_no_less`); if they do not, it can score less (`dearer_scores_more`).
-/

namespace PartSourcing

open ScoreNumber Decimal Calendar

/-- **Bands that fall** from the target price on.  The middle one counts only if there is some
tolerance. -/
structure PriceBands.Falls (b : PriceBands Float) : Prop where
  beyond : b.beyond ≤ b.atOrBelow
  within : 0.0 < b.tolerance → b.beyond ≤ b.withinTolerance ∧ b.withinTolerance ≤ b.atOrBelow

namespace Evidence

/-- **A greater excess is in no better a band**, if the bands fall. -/
theorem band_le {b : PriceBands Float} (hb : b.Falls) {x y : Float} (hle : x ≤ y) :
    band b y = band b x ∨ band b y ≤ band b x := by
  have hzero : (0.0 : Float) ≤ 0.0 := by decide
  -- a middle band is used only if there is some tolerance
  have htolerance {z : Float} (hpos : ¬z ≤ 0.0) (hz : z ≤ b.tolerance) : 0.0 < b.tolerance :=
    float_lt_of_lt_of_le (float_lt_of_not_le hz hzero hpos) hz
  unfold band
  rw [zero_eq]
  by_cases hy : y ≤ 0.0
  · rw [if_pos hy, if_pos (float_le_trans hle hy)]
    exact .inl rfl
  by_cases hx : x ≤ 0.0
  · rw [if_pos hx, if_neg hy]
    split
    · rename_i hwithin
      exact .inr (hb.within (htolerance hy hwithin)).2
    · exact .inr hb.beyond
  rw [if_neg hy, if_neg hx]
  by_cases hxt : x ≤ b.tolerance
  · rw [if_pos hxt]
    split
    · exact .inl rfl
    · exact .inr (hb.within (htolerance hx hxt)).1
  · rw [if_neg hxt, if_neg (mt (float_le_trans hle) hxt)]
    exact .inl rfl

variable {s : Scoring Float}

/-- **The factor of a price falls with the price**, if the bands do. -/
theorem priceFactor_le (hb : s.bands.Falls) {p q t : Float} (ht : Decimal.isFinite t = true)
    (hpos : 0.0 < t) (hle : p ≤ q) :
    priceFactor s (some (q, t)) = priceFactor s (some (p, t)) ∨
      priceFactor s (some (q, t)) ≤ priceFactor s (some (p, t)) := by
  obtain ⟨v, hv⟩ := exists_value ht
  have hvpos := (lt_iff_of_exactValue? exactValue?_zero hv).mp hpos
  exact band_le hb (div_le_div hv hvpos (sub_le_sub hv hvpos hle))

end Evidence

namespace Sighting

variable (x : Sighting) (r : Requirement) {p q : Float}

/-- **Whether a price can be compared** does not depend on what it is. -/
theorem comparablePrices_with_price (hp : Decimal.isFinite p = true) :
    { x with price := some p }.comparablePrices r = (x.comparedWith? r).map (p, ·) := by
  rw [comparablePrices_eq, Option.bind_some, usable?, if_pos hp, Option.bind_some]
  rfl

/-- **Sightings that differ in the price only** give evidence that differs in it only. -/
theorem evidence_with_price (reliability : Float) (now : Instant) (hp : Decimal.isFinite p = true) :
    { x with price := some p }.evidence r reliability now =
      { { x with price := some 0.0 }.evidence r reliability now with
        prices := (x.comparedWith? r).map (p, ·) } := by
  rw [← x.comparablePrices_with_price r hp]
  rfl

end Sighting

/-- Of two scores that differ in the factor of the price only, that with the lesser is no greater.
-/
theorem le_of_price_le {w : Weights Float} (hw : w.validate = .ok ()) {f : Factors Float}
    {a b : Float} (ha : ∀ x ∈ { f with priceCompetitiveness := a }.toList, InUnit x)
    (hb : ∀ x ∈ { f with priceCompetitiveness := b }.toList, InUnit x) (h : a = b ∨ a ≤ b) :
    a ≤ b ∧ { f with priceCompetitiveness := a }.exactComposite w ≤
      { f with priceCompetitiveness := b }.exactComposite w := by
  have hself : InUnit b := hb b (by simp [Factors.toList])
  refine ⟨h.elim (fun heq => heq ▸ hself.le_self) id, exactComposite_le hw ha hb ?_⟩
  exact .cons (.inl rfl) (.cons (.inl rfl) (.cons (.inl rfl) (.cons (.inl rfl) (.cons (.inl rfl)
    (.cons h .nil)))))

/-- **A cheaper offer scores no less** than one that is alike but dearer, if the bands fall. -/
theorem cheaper_scores_no_less {s : Scoring Float} (h : s.validate = .ok ()) (hb : s.bands.Falls)
    (x : Sighting) (r : Requirement) (reliability : Float) (now : Instant) {p q : Float}
    (hp : Decimal.isFinite p = true) (hq : Decimal.isFinite q = true) (hle : p ≤ q) :
    let factors (price : Float) :=
      ({ x with price := some price }.evidence r reliability now).factors s
    (factors q).priceCompetitiveness ≤ (factors p).priceCompetitiveness ∧
    (factors q).exactComposite s.weights ≤ (factors p).exactComposite s.weights := by
  intro factors
  have haccepted := Scoring.validate_eq_ok_iff.mp h
  have hunit (price : Float) : ∀ f ∈ (factors price).toList, InUnit f :=
    Evidence.inUnit_of_mem_factors haccepted _ { x with price := some price } r reliability now
  have hfactors {price : Float} (hprice : Decimal.isFinite price = true) :
      factors price = { factors 0.0 with
        priceCompetitiveness := Evidence.priceFactor s ((x.comparedWith? r).map (price, ·)) } :=
    congrArg (Evidence.factors s) (x.evidence_with_price r reliability now hprice)
  have hprice : Evidence.priceFactor s ((x.comparedWith? r).map (q, ·)) =
      Evidence.priceFactor s ((x.comparedWith? r).map (p, ·)) ∨
      Evidence.priceFactor s ((x.comparedWith? r).map (q, ·)) ≤
        Evidence.priceFactor s ((x.comparedWith? r).map (p, ·)) := by
    cases ht : x.comparedWith? r with
    | none => exact .inl rfl
    | some t =>
      obtain ⟨hfinite, hpos⟩ := Sighting.comparedWith?_eq_some ht
      exact Evidence.priceFactor_le hb hfinite hpos hle
  have hunitp := hunit p
  have hunitq := hunit q
  rw [hfactors hp] at hunitp ⊢
  rw [hfactors hq] at hunitq ⊢
  exact le_of_price_le haccepted.weights hunitq hunitp hprice

/-- A requirement with a target price of one dollar. -/
def dollarTarget : Requirement := ⟨"AB1", 1, [], some 1.0, "USD"⟩

/-- With the usual bands an offer within the tolerance scores no less than one beyond it. -/
theorem cheaper_scores_no_less_default :
    Scoring.default.validate = .ok () ∧ Scoring.default.bands.Falls ∧
    Decimal.isFinite 1.05 = true ∧ Decimal.isFinite 1.5 = true ∧ (1.05 : Float) ≤ 1.5 ∧
    (let factors (price : Float) :=
      ({ plainOffer with price := some price }.evidence dollarTarget 0.5 .epoch).factors .default
    (factors 1.5).priceCompetitiveness ≤ (factors 1.05).priceCompetitiveness ∧
    (factors 1.5).exactComposite Weights.default ≤
      (factors 1.05).exactComposite Weights.default) := by
  have hvalid : Scoring.default.validate = .ok () := rfl
  have hfalls : Scoring.default.bands.Falls :=
    ⟨by decide, fun _ => ⟨by decide, by decide⟩⟩
  have hcheap : Decimal.isFinite 1.05 = true := by decide
  have hdear : Decimal.isFinite 1.5 = true := by decide
  have hle : (1.05 : Float) ≤ 1.5 := by decide
  exact ⟨hvalid, hfalls, hcheap, hdear, hle,
    cheaper_scores_no_less hvalid hfalls plainOffer dollarTarget 0.5 .epoch hcheap hdear hle⟩

/-- A scoring in which nothing but the price counts, and a dear one is worth most. -/
def risingBands : Scoring Float :=
  { Scoring.default with
    weights := ⟨0.0, 0.0, 0.0, 0.0, 0.0, 1.0⟩
    bands := ⟨0.10, 0.0, 0.5, 1.0⟩ }

/-- **If the bands do not fall, a dearer offer can score more**: this scoring is accepted, and an
offer at the target price scores nothing, while one at twice that price scores all there is. -/
theorem dearer_scores_more :
    risingBands.validate = .ok () ∧
    Decimal.isPositive 1.0 = true ∧ Decimal.isPositive 2.0 = true ∧ (1.0 : Float) < 2.0 ∧
    plainOffer.comparedWith? dollarTarget = some 1.0 ∧
    (let factors (price : Float) :=
      ({ plainOffer with price := some price }.evidence dollarTarget 0.5 .epoch).factors risingBands
    (factors 1.0).priceCompetitiveness = 0.0 ∧ (factors 2.0).priceCompetitiveness = 1.0 ∧
    (factors 1.0).exactComposite risingBands.weights = 0 ∧
    (factors 2.0).exactComposite risingBands.weights = 100) := by
  have hcompared : plainOffer.comparedWith? dollarTarget = some 1.0 := by decide
  have hfactor {p y : Float} (hp : Decimal.isFinite p = true)
      (hy : Evidence.priceFactor risingBands (some (p, 1.0)) = y) :
      (({ plainOffer with price := some p }.evidence dollarTarget 0.5 .epoch).factors
        risingBands).priceCompetitiveness = y := by
    rw [plainOffer.evidence_with_price dollarTarget 0.5 .epoch hp, hcompared]
    exact hy
  have hlow := hfactor (p := 1.0) (y := 0.0) (by decide) (by decide)
  have hhigh := hfactor (p := 2.0) (y := 1.0) (by decide) (by decide)
  have hweighted (f : Factors Float) :
      f.exactWeighted risingBands.weights = exact f.priceCompetitiveness := by
    show exact 0.0 * _ + exact 0.0 * _ + exact 0.0 * _ + exact 0.0 * _ + exact 0.0 * _ +
      exact 1.0 * _ = _
    rw [exact_zero, exact_one]
    simp only [zero_mul, zero_add, one_mul]
    rfl
  refine ⟨rfl, by decide, by decide, by decide, hcompared, hlow, hhigh, ?_, ?_⟩
  · rw [Factors.exactComposite, hweighted, hlow, exact_zero, percent_zero]
  · rw [Factors.exactComposite, hweighted, hhigh, exact_one, percent_one]

end PartSourcing
