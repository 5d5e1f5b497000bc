import PartSourcing.Config.Section
import PartSourcing.Retry.Policy
import PartSourcing.Score.Scoring
import PartSourcing.Vendor

/-!
# Configuration of a search engine

Time limits, retries, scoring, the order of authority of the standings, what counts as no
vendor at all, and the sources. `validate` reports the first fault in a fixed order.
-/

namespace PartSourcing

open PartSourcing.Text

/-- The configuration of a search engine. -/
structure EngineConfig where
  deadline : UInt64 := 8000
  callTimeout : UInt64 := 5000
  retry : RetryPolicy := RetryPolicy.default
  scoring : Scoring Float := Scoring.default
  sourcePriority : List Standing := Standing.all
  lookbackDays : UInt32 := 365
  placeholderVendors : List String :=
    ["", "-", "n/a", "na", "none", "unknown", "unknown seller", "no seller listed"]
  userAgent : Option String := none
  sources : SourceSections := {}
  deriving DecidableEq

/-- What can be wrong with a configuration. -/
inductive EngineConfig.Fault where
  | zeroDeadline
  | zeroCallTimeout
  | delayAboveCap
  | badJitter
  | scoring (fault : Scoring.Fault Float)
  deriving DecidableEq

/-- The fault in words. -/
def EngineConfig.Fault.message : EngineConfig.Fault → String
  | .zeroDeadline => "deadline_ms must be greater than 0"
  | .zeroCallTimeout => "call_timeout_ms must be greater than 0"
  | .delayAboveCap => "retry base_delay_ms must be <= max_delay_ms"
  | .badJitter => "retry jitter_ratio must be within [0, 1]"
  | .scoring f => f.message

namespace EngineConfig

/-- **The first thing wrong with a configuration**, if anything is. -/
def validate (c : EngineConfig) : Except Fault Unit :=
  if c.deadline = 0 then .error .zeroDeadline
  else if c.callTimeout = 0 then .error .zeroCallTimeout
  else if c.retry.maxDelay < c.retry.baseDelay then .error .delayAboveCap
  else if !ScoreNumber.isUnit c.retry.jitterRatio then .error .badJitter
  else c.scoring.validate.mapError .scoring

/-- **The rank of a standing**, least for the most authoritative. Standings that are not listed
come after all that are. -/
def priorityOf (c : EngineConfig) (s : Standing) : Nat := c.sourcePriority.idxOf s

/-- Whether a vendor key names no vendor. -/
def isPlaceholder (c : EngineConfig) (key : String) : Bool :=
  c.placeholderVendors.any fun p => Vendor.key p == key

open Json in
/-- Decodes a configuration; what is left out keeps its usual value. -/
def decoder : Json.Decoder EngineConfig := record do
  let usual : EngineConfig := {}
  return {
    deadline := ← Fields.orElse "deadline_ms" Decoder.uint64 usual.deadline
    callTimeout := ← Fields.orElse "call_timeout_ms" Decoder.uint64 usual.callTimeout
    retry := ← Fields.orElse "retry" RetryPolicy.decoder usual.retry
    scoring := ← Fields.orElse "scoring" Scoring.decoder usual.scoring
    sourcePriority :=
      ← Fields.orElse "source_priority" (Decoder.list Standing.decoder) usual.sourcePriority
    lookbackDays := ← Fields.orElse "history_lookback_days" Decoder.uint32 usual.lookbackDays
    placeholderVendors :=
      ← Fields.orElse "placeholder_vendors" (Decoder.list Decoder.string) usual.placeholderVendors
    userAgent := ← Fields.orElse "user_agent" (Decoder.nullable Decoder.string) none
    sources := ← Fields.orElse "sources" SourceSections.decoder usual.sources }

/-- The JSON form. -/
def toJson (c : EngineConfig) : Json := .obj [
  ("deadline_ms", Json.nat c.deadline.toNat),
  ("call_timeout_ms", Json.nat c.callTimeout.toNat),
  ("retry", c.retry.toJson),
  ("scoring", c.scoring.toJson),
  ("source_priority", .arr (c.sourcePriority.map Standing.toJson)),
  ("history_lookback_days", Json.nat c.lookbackDays.toNat),
  ("placeholder_vendors", .arr (c.placeholderVendors.map Json.str)),
  ("user_agent", Json.ofOption .str c.userAgent),
  ("sources", c.sources.toJson)]

end EngineConfig

end PartSourcing
