import Mathlib.Algebra.Group.Nat.Defs
import PartSourcing.Retry.Policy

/-!
# How delays grow

A delay is twice the one before, up to the cap (`exactDelay`, `exactDelay_succ`).  It is worked out
in 64 bits, where the number of doublings, the power and the product are each kept within bounds.

A product that does not fit is greater than every cap, so **a delay is exact as far as the doublings
go** (`toNat_delay`).  Two milliseconds doubled `maxDoublings` times are more than any cap as well,
and nothing doubled is nothing.  That leaves a single millisecond under a cap that `maxDoublings`
doublings do not reach: its delays stop there and never come to the cap (`Stalls`).  **All other
delays are exact**, whatever the retry (`delay_grows_to_cap`).
-/

namespace PartSourcing.RetryPolicy

variable (p : RetryPolicy)

/-- **The delay that doubles up to the cap**, in numbers without bound. -/
def exactDelay (retry : Nat) : Nat := min (p.baseDelay.toNat * 2 ^ retry) p.maxDelay.toNat

/-- **A policy whose delays stall**: a single millisecond, doubled as often as can be, stays below
the cap. -/
structure Stalls : Prop where
  single : p.baseDelay.toNat = 1
  below : 2 ^ maxDoublings < p.maxDelay.toNat

/-! ## Exact delays -/

theorem exactDelay_le (retry : Nat) : p.exactDelay retry ≤ p.maxDelay.toNat := Nat.min_le_right _ _

/-- **A delay is twice the one before**, up to the cap. -/
theorem exactDelay_succ (retry : Nat) :
    p.exactDelay (retry + 1) = min (2 * p.exactDelay retry) p.maxDelay.toNat := by
  unfold exactDelay
  rw [Nat.pow_succ, ← Nat.mul_assoc]
  omega

/-- Delays never get shorter. -/
theorem exactDelay_mono {retry later : Nat} (h : retry ≤ later) :
    p.exactDelay retry ≤ p.exactDelay later := by
  induction h with
  | refl => exact Nat.le_refl _
  | @step later _ ih =>
    -- doubling shortens nothing, and neither does the cap, since the delay before was within it
    have hcap := p.exactDelay_le later
    rw [exactDelay_succ]
    omega

theorem exactDelay_of_zero (hbase : p.baseDelay.toNat = 0) (retry : Nat) :
    p.exactDelay retry = 0 := by
  rw [exactDelay, hbase, Nat.zero_mul, Nat.zero_min]

/-- **More than the greatest number of doublings come to every cap**, unless there is nothing to
double. -/
theorem exactDelay_of_gt (hbase : 0 < p.baseDelay.toNat) {retry : Nat} (h : maxDoublings < retry) :
    p.exactDelay retry = p.maxDelay.toNat := by
  have hcap : p.maxDelay.toNat < 2 ^ 64 := p.maxDelay.toNat_lt
  have hpow : 2 ^ 64 ≤ 2 ^ retry := Nat.pow_le_pow_right Nat.two_pos h
  have hproduct : 2 ^ retry ≤ p.baseDelay.toNat * 2 ^ retry := Nat.le_mul_of_pos_left _ hbase
  exact Nat.min_eq_right (by omega)

/-- **The greatest number of doublings comes to the cap** as well, unless the delays stall. -/
theorem exactDelay_maxDoublings (hbase : 0 < p.baseDelay.toNat) :
    p.exactDelay maxDoublings = p.maxDelay.toNat ↔ ¬p.Stalls := by
  have hcap : p.maxDelay.toNat < 2 ^ 64 := p.maxDelay.toNat_lt
  have hstalls : p.Stalls ↔ p.baseDelay.toNat = 1 ∧ 2 ^ maxDoublings < p.maxDelay.toNat :=
    ⟨fun h => ⟨h.single, h.below⟩, fun h => ⟨h.1, h.2⟩⟩
  rw [hstalls, exactDelay]
  unfold maxDoublings
  omega

theorem Stalls.exactDelay_eq (h : p.Stalls) : p.exactDelay maxDoublings = 2 ^ maxDoublings := by
  rw [exactDelay, h.single, Nat.one_mul, Nat.min_eq_left (Nat.le_of_lt h.below)]

/-- **Where the doublings end it makes no difference**, unless the delays stall. -/
theorem exactDelay_min_iff (retry : Nat) :
    p.exactDelay (min retry maxDoublings) = p.exactDelay retry ↔
      ¬(p.Stalls ∧ maxDoublings < retry) := by
  -- up to `maxDoublings` nothing is cut off; from there on the exact delay is at the cap, or zero
  rcases Nat.lt_or_ge maxDoublings retry with hgt | hle
  · rw [Nat.min_eq_right (Nat.le_of_lt hgt), and_iff_left hgt]
    rcases Nat.eq_zero_or_pos p.baseDelay.toNat with hzero | hbase
    · rw [exactDelay_of_zero p hzero, exactDelay_of_zero p hzero]
      exact iff_of_true rfl fun hstalls => absurd (hzero.symm.trans hstalls.single) Nat.zero_ne_one
    · rw [p.exactDelay_of_gt hbase hgt, p.exactDelay_maxDoublings hbase]
  · rw [Nat.min_eq_left hle]
    exact iff_of_true rfl fun hstalled => absurd hstalled.2 (Nat.not_lt_of_ge hle)

/-! ## Delays in 64 bits -/

theorem toNat_min (a b : UInt64) : (min a b).toNat = min a.toNat b.toNat := by
  change (if a ≤ b then a else b).toNat = _
  split
  · rename_i hle
    exact (Nat.min_eq_left (UInt64.le_iff_toNat_le.mp hle)).symm
  · rename_i hle
    rw [UInt64.le_iff_toNat_le] at hle
    exact (Nat.min_eq_right (Nat.le_of_not_le hle)).symm

/-- **A delay is exact as far as the doublings go.**  A product that does not fit is cut off at the
greatest number, and no cap is greater. -/
theorem toNat_delay (retry : UInt32) :
    (p.delay retry).toNat = p.exactDelay (min retry.toNat maxDoublings) := by
  have hpow : Nat.pow 2 (min retry.toNat maxDoublings) < UInt64.size :=
    calc 2 ^ min retry.toNat maxDoublings
      _ ≤ 2 ^ maxDoublings := Nat.pow_le_pow_right Nat.two_pos (Nat.min_le_right _ _)
      _ < UInt64.size := by decide
  have hcap : p.maxDelay.toNat ≤ Saturating.max64 := Nat.le_pred_of_lt p.maxDelay.toNat_lt
  unfold delay
  dsimp only
  rw [toNat_min, Saturating.toNat_mul, UInt64.toNat_ofNat_of_lt' hpow, exactDelay]
  change min (min Saturating.max64 (p.baseDelay.toNat * 2 ^ _)) _ = _
  omega

/-- **How the delays grow.**  A delay is the exact one, except where they stall and there have been
more than `maxDoublings` retries: there it is `2 ^ maxDoublings` milliseconds, below the cap.  In
any case delays never get shorter and never exceed the cap.  After `maxDoublings` retries they are
at the cap, unless they stall or there is nothing to double. -/
theorem delay_grows_to_cap (retry : UInt32) :
    ((p.delay retry).toNat = p.exactDelay retry.toNat ↔
      ¬(p.Stalls ∧ maxDoublings < retry.toNat)) ∧
    (p.Stalls → maxDoublings < retry.toNat → (p.delay retry).toNat = 2 ^ maxDoublings) ∧
    (∀ later, retry ≤ later → p.delay retry ≤ p.delay later) ∧
    p.delay retry ≤ p.maxDelay ∧
    (0 < p.baseDelay → maxDoublings ≤ retry.toNat →
      (p.delay retry = p.maxDelay ↔ ¬p.Stalls)) := by
  refine ⟨?_, fun hstalls hgt => ?_, fun later hlater => ?_, ?_, fun hbase hge => ?_⟩
  · rw [toNat_delay]
    exact p.exactDelay_min_iff retry.toNat
  · rw [toNat_delay, Nat.min_eq_right (Nat.le_of_lt hgt), hstalls.exactDelay_eq]
  · rw [UInt64.le_iff_toNat_le, toNat_delay, toNat_delay]
    have hlater : retry.toNat ≤ later.toNat := UInt32.le_iff_toNat_le.mp hlater
    exact p.exactDelay_mono (by omega)
  · rw [UInt64.le_iff_toNat_le, toNat_delay]
    exact p.exactDelay_le _
  · rw [← UInt64.toNat_inj, toNat_delay, Nat.min_eq_right hge]
    exact p.exactDelay_maxDoublings (UInt64.lt_iff_toNat_lt.mp hbase)

example : [0, 1, 2, 3, 4, 70].map default.delay = [200, 400, 800, 1600, 2000, 2000] := by
  decide +kernel

/-- A policy that starts from a millisecond and is in no hurry. -/
def unhurried : RetryPolicy :=
  { default with baseDelay := 1, maxDelay := UInt64.ofNat Saturating.max64 }

/-- One that stalls, and the usual one. -/
theorem delay_grows_unhurried :
    unhurried.Stalls ∧ maxDoublings < (64 : UInt32).toNat ∧ (64 : UInt32) ≤ 100 ∧
      0 < unhurried.baseDelay ∧ 0 < default.baseDelay ∧
      (unhurried.delay 64).toNat = 2 ^ maxDoublings ∧
      unhurried.delay 64 ≤ unhurried.delay 100 ∧ unhurried.delay 64 ≠ unhurried.maxDelay ∧
      default.delay 64 = default.maxDelay := by
  have hstalls : unhurried.Stalls := ⟨by decide +kernel, by decide +kernel⟩
  have husual : ¬default.Stalls := fun h => absurd h.single (by decide +kernel)
  have hgt : maxDoublings < (64 : UInt32).toNat := by decide
  obtain ⟨-, hstalled, hlater, -, hcap⟩ := delay_grows_to_cap unhurried 64
  obtain ⟨-, -, -, -, hcap'⟩ := delay_grows_to_cap default 64
  exact ⟨hstalls, hgt, by decide, by decide +kernel, by decide +kernel, hstalled hstalls hgt,
    hlater 100 (by decide), fun h => (hcap (by decide +kernel) (Nat.le_of_lt hgt)).mp h hstalls,
    (hcap' (by decide +kernel) (Nat.le_of_lt hgt)).mpr husual⟩

/-- **The delays of a policy in no hurry stall**: the 65th is no longer than the 64th, and none
comes to the cap. -/
theorem unhurried_stalls :
    (unhurried.delay 64).toNat = 2 ^ 63 ∧ unhurried.exactDelay 64 = 2 ^ 64 - 1 ∧
      ∀ retry, unhurried.delay retry ≠ unhurried.maxDelay := by
  refine ⟨by decide +kernel, by decide +kernel, fun retry hcap => ?_⟩
  have hmono := unhurried.exactDelay_mono (Nat.min_le_right retry.toNat maxDoublings)
  rw [← toNat_delay, hcap] at hmono
  exact absurd hmono (by decide +kernel)

end PartSourcing.RetryPolicy
