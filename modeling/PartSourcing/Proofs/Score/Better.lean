import PartSourcing.Proofs.Calendar.Order
import PartSourcing.Proofs.Score.Composite

/-!
# Better offers

With an accepted scoring and a halving curve that falls, **a score rises with the quantity, with the
reliability and with the time of the observation** (`score_rises`), until the quantity covers the
target, the reliability is one or the observation is of the moment itself: from there on no factor
changes.  Leap seconds are the exception: the second after one can be older
(`leap_second_scores_more`).
-/

namespace PartSourcing

open ScoreNumber Decimal Calendar

namespace Sighting

/-- The factors of a sighting with some halving curve. -/
def factorsWith (curve : Float → Float) (s : Scoring Float) (r : Requirement) (now : Instant)
    (x : Sighting) (reliability : Float) : Factors Float :=
  (x.evidence r reliability now).factorsWith curve s

/-- **The score of a sighting with some halving curve**, in exact arithmetic. -/
noncomputable def exactScore (curve : Float → Float) (s : Scoring Float) (r : Requirement)
    (now : Instant) (x : Sighting) (reliability : Float) : UInt8 :=
  (x.factorsWith curve s r now reliability).exactComposite s.weights

/-! ## One factor at a time -/

section Factor

variable (curve : Float → Float) (s : Scoring Float) (r : Requirement) (now : Instant)
  (x : Sighting) (u : Float)

/-- A known quantity makes a difference for its factor only. -/
theorem factorsWith_quantity (q : UInt64) :
    factorsWith curve s r now { x with quantity := some q } u =
      { factorsWith curve s r now { x with quantity := some 0 } u with
        quantityFit := Evidence.quantityFit s (some q) r.targetQuantity } := rfl

/-- The reliability makes a difference for its factor only. -/
theorem factorsWith_reliability : factorsWith curve s r now x u =
    { factorsWith curve s r now x 0.0 with
      vendorReliability := Evidence.reliabilityFactor s u } := rfl

/-- The time of the observation makes a difference for the factor of the age only. -/
theorem factorsWith_observedAt (a : Instant) :
    factorsWith curve s r now { x with observedAt := a } u =
      { factorsWith curve s r now x u with
        recency := Evidence.recencyWith curve s (now.secondsSince a).toNat } := rfl

end Factor

/-! ## Better is no worse -/

section Accepted

variable {curve : Float → Float} {s : Scoring Float} (h : s.Accepted) (x : Sighting)
  (r : Requirement) (now : Instant)

include h

/-- **A score rises with the quantity.** -/
theorem exactScore_quantity_le {q q' : UInt64} (u : Float) (hle : q ≤ q') :
    exactScore curve s r now { x with quantity := some q } u ≤
      exactScore curve s r now { x with quantity := some q' } u := by
  have hunit (q : UInt64) :=
    Evidence.inUnit_of_mem_factors h curve { x with quantity := some q } r u now
  refine exactComposite_le h.weights (hunit q) (hunit q') ?_
  rw [factorsWith_quantity _ _ _ _ _ _ q, factorsWith_quantity _ _ _ _ _ _ q']
  exact .cons (.inl rfl) (.cons (.inr (Evidence.quantityFit_le h _ hle)) (.cons (.inl rfl)
    (.cons (.inl rfl) (.cons (.inl rfl) (.cons (.inl rfl) .nil)))))

/-- **A score rises with a reliability that is finite.** -/
theorem exactScore_reliability_le {u u' : Float} (hu : Decimal.isFinite u = true)
    (hu' : Decimal.isFinite u' = true) (hle : u ≤ u') :
    exactScore curve s r now x u ≤ exactScore curve s r now x u' := by
  have hunit (u : Float) := Evidence.inUnit_of_mem_factors h curve x r u now
  have hfactor : Evidence.reliabilityFactor s u ≤ Evidence.reliabilityFactor s u' := by
    rw [Evidence.reliabilityFactor_of_finite hu, Evidence.reliabilityFactor_of_finite hu']
    exact clampUnit_le hu hu' hle
  refine exactComposite_le h.weights (hunit u) (hunit u') ?_
  rw [factorsWith_reliability _ _ _ _ _ u, factorsWith_reliability _ _ _ _ _ u']
  exact .cons (.inl rfl) (.cons (.inl rfl) (.cons (.inr hfactor) (.cons (.inl rfl)
    (.cons (.inl rfl) (.cons (.inl rfl) .nil)))))

/-- **A score falls with the age**, in whole seconds, of the observation. -/
theorem exactScore_age_le (hcurve : IsHalving curve) {a b : Instant} (u : Float)
    (hle : now.secondsSince b ≤ now.secondsSince a) :
    exactScore curve s r now { x with observedAt := a } u ≤
      exactScore curve s r now { x with observedAt := b } u := by
  have hunit (a : Instant) :=
    Evidence.inUnit_of_mem_factors h curve { x with observedAt := a } r u now
  refine exactComposite_le h.weights (hunit a) (hunit b) ?_
  rw [factorsWith_observedAt _ _ _ _ _ _ a, factorsWith_observedAt _ _ _ _ _ _ b]
  exact .cons (.inr (Evidence.recencyWith_le h hcurve (Int.toNat_le_toNat hle))) (.cons (.inl rfl)
    (.cons (.inl rfl) (.cons (.inl rfl) (.cons (.inl rfl) (.cons (.inl rfl) .nil)))))

end Accepted

/-! ## As good as it gets -/

section Settled

variable (curve : Float → Float) (s : Scoring Float) (x : Sighting) (r : Requirement)
  (now : Instant)

/-- From the target on the quantity changes no factor. -/
theorem factorsWith_quantity_eq {q q' : UInt64} (u : Float)
    (hq : r.targetQuantity.toNat ≤ q.toNat) (hle : q ≤ q') :
    factorsWith curve s r now { x with quantity := some q } u =
      factorsWith curve s r now { x with quantity := some q' } u := by
  rw [factorsWith_quantity _ _ _ _ _ _ q, factorsWith_quantity _ _ _ _ _ _ q',
    Evidence.quantityFit_eq_one s hq, Evidence.quantityFit_eq_one s (hq.trans hle)]

/-- From one on a finite reliability changes no factor. -/
theorem factorsWith_reliability_eq {u u' : Float} (hu : Decimal.isFinite u = true)
    (hu' : Decimal.isFinite u' = true) (hone : 1.0 ≤ u) (hle : u ≤ u') :
    factorsWith curve s r now x u = factorsWith curve s r now x u' := by
  rw [factorsWith_reliability _ _ _ _ _ u, factorsWith_reliability _ _ _ _ _ u',
    Evidence.reliabilityFactor_of_finite hu, Evidence.reliabilityFactor_of_finite hu',
    clampUnit_of_one_le hu hone, clampUnit_of_one_le hu' (float_le_trans hone hle)]

/-- From the moment itself on the time of the observation changes no factor. -/
theorem factorsWith_observedAt_eq {a b : Instant} (u : Float) (hnow : now.IsReading)
    (ha : a.IsReading) (hb : b.IsReading) (hle : now ≤ a) (hle' : a ≤ b) :
    factorsWith curve s r now { x with observedAt := a } u =
      factorsWith curve s r now { x with observedAt := b } u := by
  have hage {a : Instant} (ha : a.IsReading) (hle : now ≤ a) : (now.secondsSince a).toNat = 0 :=
    Int.toNat_of_nonpos (Instant.secondsSince_nonpos hnow ha hle)
  rw [factorsWith_observedAt _ _ _ _ _ _ a, factorsWith_observedAt _ _ _ _ _ _ b, hage ha hle,
    hage hb (hle.trans hle')]

end Settled

end Sighting

open Sighting in
/-- **A score rises** with the quantity, with the reliability and with the time of the observation,
leap seconds apart, and from some point on each of them changes nothing. -/
theorem score_rises {curve : Float → Float} (hcurve : IsHalving curve) {s : Scoring Float}
    (h : s.validate = .ok ()) (x : Sighting) (r : Requirement) (now : Instant) :
    (∀ (q q' : UInt64) (u : Float), q ≤ q' →
      exactScore curve s r now { x with quantity := some q } u ≤
        exactScore curve s r now { x with quantity := some q' } u) ∧
    (∀ u u' : Float, Decimal.isFinite u = true → Decimal.isFinite u' = true → u ≤ u' →
      exactScore curve s r now x u ≤ exactScore curve s r now x u') ∧
    (∀ (a b : Instant) (u : Float), now.nanos < Instant.nanosPerSecond →
      a.nanos < Instant.nanosPerSecond → b.nanos < Instant.nanosPerSecond → a ≤ b →
      exactScore curve s r now { x with observedAt := a } u ≤
        exactScore curve s r now { x with observedAt := b } u) ∧
    (∀ (q q' : UInt64) (u : Float), r.targetQuantity.toNat ≤ q.toNat → q ≤ q' →
      factorsWith curve s r now { x with quantity := some q } u =
        factorsWith curve s r now { x with quantity := some q' } u) ∧
    (∀ u u' : Float, Decimal.isFinite u = true → Decimal.isFinite u' = true → 1.0 ≤ u → u ≤ u' →
      factorsWith curve s r now x u = factorsWith curve s r now x u') ∧
    (∀ (a b : Instant) (u : Float), now.IsReading → a.IsReading → b.IsReading → now ≤ a → a ≤ b →
      factorsWith curve s r now { x with observedAt := a } u =
        factorsWith curve s r now { x with observedAt := b } u) := by
  have haccepted := Scoring.validate_eq_ok_iff.mp h
  refine ⟨fun q q' u hle => x.exactScore_quantity_le haccepted r now u hle,
    fun u u' hu hu' hle => x.exactScore_reliability_le haccepted r now hu hu' hle,
    fun a b u hnow ha hb hle => ?_,
    fun q q' u hq hle => x.factorsWith_quantity_eq curve s r now u hq hle,
    fun u u' hu hu' hone hle => x.factorsWith_reliability_eq curve s r now hu hu' hone hle,
    fun a b u hnow ha hb hle hle' =>
      x.factorsWith_observedAt_eq curve s r now u hnow ha hb hle hle'⟩
  exact x.exactScore_age_le haccepted r now hcurve u (Instant.secondsSince_le hnow ha hb hle)

/-! ## A curve in steps -/

/-- A halving curve in steps: it is one up to the first half-life, a half up to the second, and then
nothing. -/
def stepCurve (x : Float) : Float := if x < 1.0 then 1.0 else if x < 2.0 then 0.5 else 0.0

theorem isHalving_stepCurve : IsHalving stepCurve := by
  constructor
  · intro x _
    unfold stepCurve
    split
    · exact .one
    split
    · exact ⟨by decide, by decide⟩
    · exact .zero
  · intro x y _ hle
    unfold stepCurve
    by_cases hy : y < 1.0
    · rw [if_pos hy, if_pos (float_lt_of_le_of_lt hle hy)]
      decide
    rw [if_neg hy]
    by_cases hy' : y < 2.0
    · rw [if_pos hy', if_pos (float_lt_of_le_of_lt hle hy')]
      split <;> decide
    · rw [if_neg hy']
      split
      · decide
      · split <;> decide

/-- A requirement of ten pieces. -/
def tenWanted : Requirement := ⟨"AB1", 10, [], none, "USD"⟩

open Sighting in
/-- Offers of five, ten and twenty pieces, with a reliability below one, of one and above, and of a
month ago, of this moment and of the next, where ten pieces are wanted. -/
theorem score_rises_ten_wanted :
    IsHalving stepCurve ∧ Scoring.default.validate = .ok () ∧
    (let score (x : Sighting) (u : Float) :=
      exactScore stepCurve .default tenWanted ⟨2592000, 0⟩ x u
    let factors (x : Sighting) (u : Float) :=
      factorsWith stepCurve .default tenWanted ⟨2592000, 0⟩ x u
    score { plainOffer with quantity := some 5 } 0.5 ≤
      score { plainOffer with quantity := some 10 } 0.5 ∧
    score plainOffer 0.5 ≤ score plainOffer 0.75 ∧
    score { plainOffer with observedAt := ⟨0, 0⟩ } 0.5 ≤
      score { plainOffer with observedAt := ⟨2592000, 0⟩ } 0.5 ∧
    factors { plainOffer with quantity := some 10 } 0.5 =
      factors { plainOffer with quantity := some 20 } 0.5 ∧
    factors plainOffer 1.0 = factors plainOffer 2.0 ∧
    factors { plainOffer with observedAt := ⟨2592000, 0⟩ } 0.5 =
      factors { plainOffer with observedAt := ⟨2592001, 0⟩ } 0.5) := by
  have hvalid : Scoring.default.validate = .ok () := rfl
  obtain ⟨hquantity, hreliability, hobserved, hquantity', hreliability', hobserved'⟩ :=
    score_rises isHalving_stepCurve hvalid plainOffer tenWanted ⟨2592000, 0⟩
  have hreading (n : ℤ) : Instant.IsReading ⟨n, 0⟩ :=
    .inl (by show 0 < Instant.nanosPerSecond; decide)
  exact ⟨isHalving_stepCurve, hvalid, hquantity 5 10 0.5 (by decide),
    hreliability 0.5 0.75 (by decide) (by decide) (by decide),
    hobserved ⟨0, 0⟩ ⟨2592000, 0⟩ 0.5 (by decide) (by decide) (by decide) (by decide),
    hquantity' 10 20 0.5 (by decide) (by decide),
    hreliability' 1.0 2.0 (by decide) (by decide) (by decide) (by decide),
    hobserved' ⟨2592000, 0⟩ ⟨2592001, 0⟩ 0.5 (hreading _) (hreading _) (hreading _) (by decide)
      (by decide)⟩

/-- A scoring in which nothing but the age counts, and in less than a second it counts for nothing.
-/
def briefInterest : Scoring Float :=
  { Scoring.default with
    weights := ⟨1.0, 0.0, 0.0, 0.0, 0.0, 0.0⟩
    halfLifeDays := 1e-9 }

open Sighting in
/-- **A leap second can score more than the second after it**: of two observations a moment later,
the one of the leap second at the end of 2016 scores all there is, and that of the next second
nothing. -/
theorem leap_second_scores_more :
    IsHalving stepCurve ∧ briefInterest.validate = .ok () ∧
    (⟨1483228799, 1500000000⟩ : Instant) ≤ ⟨1483228800, 0⟩ ∧
    (let score (observedAt : Instant) :=
      exactScore stepCurve briefInterest tenWanted ⟨1483228801, 0⟩
        { plainOffer with observedAt := observedAt } 0.5
    score ⟨1483228799, 1500000000⟩ = 100 ∧ score ⟨1483228800, 0⟩ = 0) := by
  have hweighted (f : Factors Float) :
      f.exactWeighted briefInterest.weights = exact f.recency := by
    show exact 1.0 * _ + exact 0.0 * _ + exact 0.0 * _ + exact 0.0 * _ + exact 0.0 * _ +
      exact 0.0 * _ = _
    rw [exact_zero, exact_one]
    simp only [zero_mul, add_zero, one_mul]
    rfl
  have hscore (a : Instant) (age : Nat) (y : Float)
      (hage : (Instant.secondsSince ⟨1483228801, 0⟩ a).toNat = age)
      (hy : Evidence.recencyWith stepCurve briefInterest age = y) :
      exactScore stepCurve briefInterest tenWanted ⟨1483228801, 0⟩
        { plainOffer with observedAt := a } 0.5 = Score.percent (exact y) := by
    have hrecency : (factorsWith stepCurve briefInterest tenWanted ⟨1483228801, 0⟩
        { plainOffer with observedAt := a } 0.5).recency = y := by
      rw [← hy, ← hage]
      rfl
    rw [exactScore, Factors.exactComposite, hweighted, hrecency]
  have hone := hscore ⟨1483228799, 1500000000⟩ 0 1.0 (by decide) (by decide)
  have hzero := hscore ⟨1483228800, 0⟩ 1 0.0 (by decide) (by decide)
  rw [exact_one, percent_one] at hone
  rw [exact_zero, percent_zero] at hzero
  exact ⟨isHalving_stepCurve, rfl, by decide, hone, hzero⟩

end PartSourcing
