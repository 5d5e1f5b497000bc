import PartSourcing.Proofs.Decimal.Unit
import PartSourcing.Proofs.Score.Accepted
import PartSourcing.Score.Evidence

/-!
# The factors of a score

With an accepted scoring **every factor lies between zero and one**, whatever the evidence
(`inUnit_of_mem_factors`), and every factor goes with what it measures: it falls with the age, it
rises with the quantity up to the target and with the reliability up to one, and it falls with the
price if the bands do.

Nothing but the halving curve of doubles is not given by a definition.  So the curve is a parameter
here (`withCurve`), and what is needed of it stands where it is needed.
-/

namespace PartSourcing

open ScoreNumber Decimal

/-! ## Accepted constants -/

namespace Scoring.Accepted

variable {s : Scoring Float} (h : s.Accepted)

include h

theorem exists_halfLife : ∃ v, exactValue? s.halfLifeDays = some v ∧ 0 < v := by
  obtain ⟨hfinite, hpos⟩ := h.halfLife
  obtain ⟨v, hv⟩ := exists_value hfinite
  rw [zero_eq] at hpos
  exact ⟨v, hv, not_le.mp (mt (le_iff_of_exactValue? hv exactValue?_zero).mpr hpos)⟩

/-- Every constant that can become a factor lies between zero and one. -/
theorem inUnit_fields : ∀ x ∈ s.unitFields.map Prod.snd, InUnit x := by
  intro x hx
  obtain ⟨f, hf, rfl⟩ := List.mem_map.mp hx
  exact isUnit_eq_true_iff.mp (h.unit f hf)

/-- A constant by its place in the list. -/
theorem inUnit_get (i : Fin 10) : InUnit ((s.unitFields.map Prod.snd).get i) :=
  h.inUnit_fields _ (List.get_mem _ _)

theorem inUnit_fallbacks :
    InUnit s.quantityFallback ∧ InUnit s.priceFallback ∧ InUnit s.reliabilityFallback :=
  ⟨h.inUnit_get 0, h.inUnit_get 1, h.inUnit_get 2⟩

theorem inUnit_bands :
    InUnit s.bands.atOrBelow ∧ InUnit s.bands.withinTolerance ∧ InUnit s.bands.beyond :=
  ⟨h.inUnit_get 3, h.inUnit_get 4, h.inUnit_get 5⟩

theorem inUnit_credibility (standing : Standing) : InUnit (s.credibility.of standing) := by
  cases standing with
  | authorizedDistributor => exact h.inUnit_get 6
  | marketplace => exact h.inUnit_get 7
  | broker => exact h.inUnit_get 8
  | scrape => exact h.inUnit_get 9

end Scoring.Accepted

/-! ## The factors as a list -/

namespace Factors

variable {α β : Type}

/-- The factors in the order of their weights. -/
def toList (f : Factors α) : List α :=
  [f.recency, f.quantityFit, f.vendorReliability, f.completeness, f.sourceCredibility,
    f.priceCompetitiveness]

/-- Every factor mapped. -/
def map (φ : α → β) (f : Factors α) : Factors β :=
  ⟨φ f.recency, φ f.quantityFit, φ f.vendorReliability, φ f.completeness, φ f.sourceCredibility,
    φ f.priceCompetitiveness⟩

end Factors

/-! ## The halving curve -/

/-- Doubles with some halving curve. -/
@[reducible] def ScoreNumber.withCurve (curve : Float → Float) : ScoreNumber Float where
  ofNat := floatOfNat
  isFinite := Decimal.isFinite
  halved := curve
  nearest := nearestInt

/-- **A curve that falls** from one toward zero, on numbers that are not below zero. -/
structure IsHalving (curve : Float → Float) : Prop where
  inUnit : ∀ x, 0.0 ≤ x → InUnit (curve x)
  falls : ∀ x y, 0.0 ≤ x → x ≤ y → curve y ≤ curve x

namespace Evidence

/-- **The factors with some halving curve.** -/
def factorsWith (curve : Float → Float) (s : Scoring Float) (e : Evidence Float) : Factors Float :=
  letI := withCurve curve
  e.factors s

/-- The curve that is computed with. -/
theorem factorsWith_exp2 (s : Scoring Float) (e : Evidence Float) :
    e.factorsWith (fun x => Float.exp2 (-x)) s = e.factors s := rfl

/-- The factor of an age with some halving curve. -/
def recencyWith (curve : Float → Float) (s : Scoring Float) (age : Nat) : Float :=
  letI := withCurve curve
  recency s age

/-- The curve makes a difference for the factor of the age only. -/
theorem factorsWith_eq (curve : Float → Float) (s : Scoring Float) (e : Evidence Float) :
    e.factorsWith curve s = { e.factors s with recency := recencyWith curve s e.ageSeconds } := rfl

/-! ## Age -/

/-- The half-lives in an age. -/
def halfLives (s : Scoring Float) (age : Nat) : Float :=
  floatOfNat age / floatOfNat 86400 / s.halfLifeDays

theorem recencyWith_eq (curve : Float → Float) (s : Scoring Float) (age : Nat) :
    recencyWith curve s age = if Decimal.isFinite (curve (halfLives s age)) then
      clampUnit (curve (halfLives s age)) else 0.0 := by
  rw [← zero_eq]
  rfl

/-- **The factor of an age lies between zero and one**, whatever the curve. -/
theorem inUnit_recencyWith (curve : Float → Float) (s : Scoring Float) (age : Nat) :
    InUnit (recencyWith curve s age) := by
  rw [recencyWith_eq]
  split
  · exact inUnit_clampUnit ‹_›
  · exact .zero

/-- A natural that is read as a divisor. -/
theorem exactValue?_divisor {n : Nat} (hn : 0 < n) (hlt : n < 2 ^ 53) :
    exactValue? (floatOfNat n) = some (n : ℚ) ∧ (0 : ℚ) < n :=
  ⟨exactValue?_floatOfNat hlt, by exact_mod_cast hn⟩

theorem zero_le_floatOfNat (n : Nat) : 0.0 ≤ floatOfNat n := by
  have hzero : floatOfNat 0 = 0.0 := zero_eq
  rw [← hzero]
  exact floatOfNat_le n.zero_le

section Accepted

variable {s : Scoring Float} (h : s.Accepted)

include h

/-- There are no fewer half-lives in a greater age. -/
theorem halfLives_le {a b : Nat} (hle : a ≤ b) :
    0.0 ≤ halfLives s a ∧ halfLives s a ≤ halfLives s b := by
  obtain ⟨v, hv, hpos⟩ := h.exists_halfLife
  obtain ⟨hday, hdaypos⟩ := exactValue?_divisor (n := 86400) (by decide) (by decide)
  exact ⟨div_nonneg hv hpos (div_nonneg hday hdaypos (zero_le_floatOfNat a)),
    div_le_div hv hpos (div_le_div hday hdaypos (floatOfNat_le hle))⟩

/-- **The factor of an age falls with the age.** -/
theorem recencyWith_le {curve : Float → Float} (hcurve : IsHalving curve) {a b : Nat}
    (hle : a ≤ b) : recencyWith curve s b ≤ recencyWith curve s a := by
  obtain ⟨hnonneg, hlives⟩ := halfLives_le h hle
  have ha := (hcurve.inUnit _ hnonneg).isFinite
  have hb := (hcurve.inUnit _ (float_le_trans hnonneg hlives)).isFinite
  rw [recencyWith_eq, recencyWith_eq, if_pos ha, if_pos hb]
  exact clampUnit_le hb ha (hcurve.falls _ _ hnonneg hlives)

end Accepted

/-! ## Quantity -/

section Quantity

variable {s : Scoring Float} {target : UInt32}

/-- The share of the target that a quantity covers. -/
def share (q : UInt64) (target : UInt32) : Float := floatOfNat q.toNat / floatOfNat target.toNat

theorem quantityFit_some (s : Scoring Float) (q : UInt64) (h : target ≠ 0) :
    quantityFit s (some q) target = if share q target < 1.0 then share q target else 1.0 := by
  rw [quantityFit, if_neg h, one_eq]
  rfl

theorem quantityFit_target_zero (s : Scoring Float) (q : UInt64) :
    quantityFit s (some q) 0 = 1.0 := by
  rw [quantityFit, if_pos rfl, one_eq]

/-- A target is read as a divisor. -/
theorem exactValue?_target (h : target ≠ 0) :
    exactValue? (floatOfNat target.toNat) = some (target.toNat : ℚ) ∧ (0 : ℚ) < target.toNat := by
  have hne : target.toNat ≠ 0 := fun hzero => h (UInt32.toNat_inj.mp hzero)
  exact exactValue?_divisor (by omega) (target.toNat_lt.trans (by decide))

/-- **The factor of a quantity lies between zero and one.** -/
theorem inUnit_quantityFit (h : s.Accepted) (quantity : Option UInt64) (target : UInt32) :
    InUnit (quantityFit s quantity target) := by
  cases quantity with
  | none => exact h.inUnit_fallbacks.1
  | some q =>
    by_cases hzero : target = 0
    · rw [hzero, quantityFit_target_zero]
      exact .one
    · obtain ⟨ht, hpos⟩ := exactValue?_target hzero
      rw [quantityFit_some s q hzero]
      split
      · exact ⟨div_nonneg ht hpos (zero_le_floatOfNat _), float_le_of_lt ‹_›⟩
      · exact .one

/-- **The factor of a quantity rises with it.** -/
theorem quantityFit_le (h : s.Accepted) (target : UInt32) {q r : UInt64} (hle : q ≤ r) :
    quantityFit s (some q) target ≤ quantityFit s (some r) target := by
  by_cases hzero : target = 0
  · rw [hzero, quantityFit_target_zero, quantityFit_target_zero]
    exact InUnit.one.le_self
  · obtain ⟨ht, hpos⟩ := exactValue?_target hzero
    have hshare : share q target ≤ share r target := div_le_div ht hpos (floatOfNat_le hle)
    have hunit := inUnit_quantityFit h (some q) target
    rw [quantityFit_some s q hzero] at hunit ⊢
    rw [quantityFit_some s r hzero]
    by_cases hr : share r target < 1.0
    · rw [if_pos hr, if_pos (float_lt_of_le_of_lt hshare hr)]
      exact hshare
    · rw [if_neg hr]
      exact hunit.2

/-- **From the target on nothing changes.** -/
theorem quantityFit_eq_one (s : Scoring Float) {q : UInt64} (hle : target.toNat ≤ q.toNat) :
    quantityFit s (some q) target = 1.0 := by
  by_cases hzero : target = 0
  · rw [hzero, quantityFit_target_zero]
  · obtain ⟨ht, hpos⟩ := exactValue?_target hzero
    rw [quantityFit_some s q hzero, if_neg]
    intro hlt
    have hone := one_le_div ht hpos (floatOfNat_le hle)
    exact absurd (float_lt_of_le_of_lt hone hlt) (by decide)

end Quantity

/-! ## Reliability -/

section Reliability

variable {s : Scoring Float}

/-- The factor of a reliability. -/
def reliabilityFactor (s : Scoring Float) (x : Float) : Float :=
  ((Sighting.usable? x).map clampUnit).getD s.reliabilityFallback

theorem reliabilityFactor_of_finite {x : Float} (hx : Decimal.isFinite x = true) :
    reliabilityFactor s x = clampUnit x := by
  rw [reliabilityFactor, Sighting.usable?, if_pos hx]
  rfl

/-- **The factor of a reliability lies between zero and one**, also of one that is no number. -/
theorem inUnit_reliabilityFactor (h : s.Accepted) (x : Float) : InUnit (reliabilityFactor s x) := by
  by_cases hx : Decimal.isFinite x = true
  · rw [reliabilityFactor_of_finite hx]
    exact inUnit_clampUnit hx
  · rw [reliabilityFactor, Sighting.usable?, if_neg hx]
    exact h.inUnit_fallbacks.2.2

end Reliability

/-! ## Completeness -/

/-- **The share of the optional fields that carry a value** lies between zero and one. -/
theorem inUnit_completeness (s : Sighting) :
    InUnit (floatOfNat s.populated / floatOfNat Sighting.optionalFieldCount) := by
  obtain ⟨ht, hpos⟩ := exactValue?_divisor (n := Sighting.optionalFieldCount) (by decide)
    (by decide)
  exact ⟨div_nonneg ht hpos (zero_le_floatOfNat _),
    div_le_one ht hpos (floatOfNat_le s.populated_le)⟩

/-! ## Price -/

section Price

variable {s : Scoring Float}

/-- **The factor of a price lies between zero and one.** -/
theorem inUnit_priceFactor (h : s.Accepted) (prices : Option (Float × Float)) :
    InUnit (priceFactor s prices) := by
  obtain ⟨hlow, hwithin, hbeyond⟩ := h.inUnit_bands
  rcases prices with - | ⟨price, target⟩
  · exact h.inUnit_fallbacks.2.1
  · unfold priceFactor band
    dsimp only
    split
    · exact hlow
    split
    · exact hwithin
    · exact hbeyond

end Price

end Evidence

namespace Sighting

variable {x : Sighting} {r : Requirement}

/-- The target price that the price of a sighting is compared with, if they can be compared. -/
def comparedWith? (x : Sighting) (r : Requirement) : Option Float := do
  let target ← r.targetPrice
  guard (Text.sameAsciiCase x.currency (Text.trim r.currency))
  let target ← usable? target
  guard (0.0 < target)
  return target

/-- A target price that is compared with is finite and positive. -/
theorem comparedWith?_eq_some {t : Float} (h : x.comparedWith? r = some t) :
    Decimal.isFinite t = true ∧ 0.0 < t := by
  unfold comparedWith? at h
  simp only [usable?, Option.bind_eq_bind, Option.bind_eq_some_iff, Option.pure_def,
    Option.guard_eq_some'] at h
  obtain ⟨target, -, -, -, t', ht', -, hpos, ht⟩ := h
  obtain rfl := Option.some.inj ht
  split at ht'
  · rename_i hfinite
    obtain rfl := Option.some.inj ht'
    exact ⟨hfinite, hpos⟩
  · cases ht'

/-- **Prices are compared** just if the one is a usable number and there is a target price to
compare it with. -/
theorem comparablePrices_eq (x : Sighting) (r : Requirement) : x.comparablePrices r =
    x.price.bind fun p => (usable? p).bind fun p => (x.comparedWith? r).map (p, ·) := by
  unfold comparablePrices comparedWith?
  cases x.price with
  | none => rfl
  | some p =>
    cases r.targetPrice with
    | none => simp
    | some t =>
      by_cases hsame : Text.sameAsciiCase x.currency (Text.trim r.currency) = true <;>
        by_cases hfinite : Decimal.isFinite p = true <;>
        by_cases hfinite' : Decimal.isFinite t = true <;> by_cases hpos : 0.0 < t <;>
        simp [usable?, hsame, hfinite, hfinite', hpos]

/-- A price is compared only with a target price above zero. -/
theorem comparablePrices_pos {p t : Float} (h : x.comparablePrices r = some (p, t)) : 0.0 < t := by
  simp only [comparablePrices_eq, Option.bind_eq_some_iff, Option.map_eq_some_iff] at h
  obtain ⟨_, -, _, -, t', ht, heq⟩ := h
  obtain ⟨-, rfl⟩ := Prod.mk.inj heq
  exact (comparedWith?_eq_some ht).2

end Sighting

/-! ## All of them -/

namespace Evidence

/-- **Every factor lies between zero and one**, whatever the sighting, the requirement, the
reliability, the moment and the curve. -/
theorem inUnit_of_mem_factors {s : Scoring Float} (h : s.Accepted) (curve : Float → Float)
    (x : Sighting) (r : Requirement) (reliability : Float) (now : Calendar.Instant) :
    ∀ f ∈ ((x.evidence r reliability now).factorsWith curve s).toList, InUnit f := by
  have hrecency := inUnit_recencyWith curve s (x.evidence r reliability now).ageSeconds
  have hquantity := inUnit_quantityFit h x.quantity r.targetQuantity
  have hreliability := inUnit_reliabilityFactor h reliability
  have hcompleteness := inUnit_completeness x
  have hcredibility := h.inUnit_credibility x.standing
  have hprice := inUnit_priceFactor h (x.comparablePrices r)
  rw [factorsWith_eq]
  simp only [Factors.toList, List.forall_mem_cons, List.not_mem_nil, false_implies, implies_true,
    and_true]
  exact ⟨hrecency, hquantity, hreliability, hcompleteness, hcredibility, hprice⟩

end Evidence

end PartSourcing
