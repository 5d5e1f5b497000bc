import PartSourcing.Json.Decoder
import PartSourcing.Saturating
import PartSourcing.Score.Arithmetic

/-!
# Retry policies

A failed attempt that may succeed later is repeated after a delay that doubles each time up to
a cap, with a random share of itself added. All delays are whole milliseconds in 64 bits, and
whatever does not fit stays at the greatest value that does.
-/

namespace PartSourcing

/-- Bounded exponential backoff with jitter. -/
structure RetryPolicy where
  maxRetries : UInt32
  baseDelay : UInt64
  maxDelay : UInt64
  jitterRatio : Float
  deriving DecidableEq

namespace RetryPolicy

/-- The policy used unless configured otherwise. -/
def default : RetryPolicy := ⟨2, 200, 2000, 0.25⟩

/-- **The attempts allowed**, the first one included. -/
def maxAttempts (p : RetryPolicy) : UInt32 := Saturating.succ p.maxRetries

/-- The greatest number of doublings. -/
def maxDoublings : Nat := 63

/-- **The delay before a retry**, counted from zero, without jitter. -/
def delay (p : RetryPolicy) (retry : UInt32) : UInt64 :=
  let doublings := min retry.toNat maxDoublings
  min (Saturating.mul p.baseDelay (UInt64.ofNat (Nat.pow 2 doublings))) p.maxDelay

/-- The most that jitter may add to a delay. A ratio that makes no positive number adds
nothing. -/
def maxJitter (p : RetryPolicy) (retry : UInt32) : UInt64 :=
  let share := ScoreNumber.floatOfNat (p.delay retry).toNat * p.jitterRatio
  match Decimal.Dyadic.ofFloat? share with
  | some d =>
    if d.negative then 0
    else
      let (n, m) := d.fraction
      UInt64.ofNat (min Saturating.max64 (n / m))
  | none => if 0.0 < share then UInt64.ofNat Saturating.max64 else 0

/-- The delay before a retry in milliseconds when the given number was drawn for its jitter. -/
def jittered (p : RetryPolicy) (retry : UInt32) (draw : Nat) : Nat :=
  (p.delay retry).toNat + draw % ((p.maxJitter retry).toNat + 1)

open Json in
/-- Decodes a policy; what is left out keeps its usual value. -/
def decoder : Json.Decoder RetryPolicy := record do
  return {
    maxRetries := ← Fields.orElse "max_retries" Decoder.uint32 default.maxRetries
    baseDelay := ← Fields.orElse "base_delay_ms" Decoder.uint64 default.baseDelay
    maxDelay := ← Fields.orElse "max_delay_ms" Decoder.uint64 default.maxDelay
    jitterRatio := ← Fields.orElse "jitter_ratio" Decoder.float default.jitterRatio }

/-- The JSON form. -/
def toJson (p : RetryPolicy) : Json := .obj [
  ("max_retries", Json.nat p.maxRetries.toNat),
  ("base_delay_ms", Json.nat p.baseDelay.toNat),
  ("max_delay_ms", Json.nat p.maxDelay.toNat),
  ("jitter_ratio", .real p.jitterRatio)]

/-- A jittered delay stays within its bounds. -/
theorem jittered_bounds (p : RetryPolicy) (retry : UInt32) (draw : Nat) :
    (p.delay retry).toNat ≤ p.jittered retry draw ∧
      p.jittered retry draw ≤ (p.delay retry).toNat + (p.maxJitter retry).toNat := by
  have h : draw % ((p.maxJitter retry).toNat + 1) < (p.maxJitter retry).toNat + 1 :=
    Nat.mod_lt _ (Nat.succ_pos _)
  unfold jittered
  omega

end RetryPolicy

end PartSourcing
