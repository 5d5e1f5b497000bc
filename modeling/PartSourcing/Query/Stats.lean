import PartSourcing.Calendar.Stamp
import PartSourcing.Query.Error
import PartSourcing.Score.Arithmetic
import PartSourcing.Source

/-!
# Statistics of a source

What has become of the searches and attempts at one source. Attempts and failures are counted
apart, because a search can fail between two attempts. Every count is a machine word, which starts
again from zero behind its greatest value. The mean of the latencies is kept running: each new value
moves it by its share of the difference.

A source that is set up wrongly is disabled; the first reason given stays.
-/

namespace PartSourcing

open PartSourcing.Calendar

/-- A mean that is kept up to date value by value. -/
structure RunningMean (α : Type) where
  count : UInt64
  mean : α
  deriving DecidableEq

/-- No values yet. -/
def RunningMean.empty [ScoreNumber α] : RunningMean α := ⟨0, ScoreNumber.ofNat 0⟩

/-- **The mean with one more value.** -/
def RunningMean.add [Add α] [Sub α] [Div α] [ScoreNumber α] (m : RunningMean α) (x : α) :
    RunningMean α :=
  let count := m.count + 1
  ⟨count, m.mean + (x - m.mean) / (ScoreNumber.ofNat count.toNat : α)⟩

/-- What is known about the queries of one source. -/
structure Stats (α : Type) where
  source : Source
  searches : UInt64
  latency : RunningMean α
  successes : UInt64
  failures : UInt64
  results : UInt64
  lastSuccessAt : Option Instant
  lastError : Option String
  /-- Why the source is disabled, if it is. -/
  disabled : Option String
  deriving DecidableEq

namespace Stats

/-- The statistics of a source that has not been asked. -/
def empty [ScoreNumber α] (source : Source) : Stats α where
  source := source
  searches := 0
  latency := .empty
  successes := 0
  failures := 0
  results := 0
  lastSuccessAt := none
  lastError := none
  disabled := none

/-- The number of attempts. -/
def attempts (s : Stats α) : UInt64 := s.latency.count

/-- How many results there are, as they are counted. -/
def resultCount (found : List β) : UInt64 := .ofNat found.length

/-- One more search. -/
def countSearch (s : Stats α) : Stats α := { s with searches := s.searches + 1 }

/-- A failure that was no attempt. -/
def countFailure (s : Stats α) (e : QueryError) : Stats α :=
  { s with failures := s.failures + 1, lastError := some e.message }

/-- **One more attempt**, with its latency in milliseconds and its number of results or its
failure. -/
def countAttempt [Add α] [Sub α] [Div α] [ScoreNumber α] (s : Stats α) (latency : α)
    (outcome : Except QueryError UInt64) (now : Instant) : Stats α :=
  let s := { s with latency := s.latency.add latency }
  match outcome with
  | .ok n =>
    { s with successes := s.successes + 1, results := s.results + n, lastSuccessAt := some now }
  | .error e => s.countFailure e

/-- Disables the source. The first reason stays. -/
def disable (s : Stats α) (reason : String) : Stats α :=
  { s with disabled := s.disabled.or (some reason) }

/-- Whether the source is disabled. -/
def isDisabled (s : Stats α) : Bool := s.disabled.isSome

/-- The JSON form. -/
def toJson (s : Stats Float) : Json := .obj [
  ("source", s.source.toJson),
  ("total_searches", Json.nat s.searches.toNat),
  ("attempts", Json.nat s.attempts.toNat),
  ("successes", Json.nat s.successes.toNat),
  ("failures", Json.nat s.failures.toNat),
  ("total_results", Json.nat s.results.toNat),
  ("avg_response_time_ms", .real s.latency.mean),
  ("last_success_at",
    Json.ofOption (fun t => .str (Calendar.Stamp.shortText t)) s.lastSuccessAt),
  ("last_error", Json.ofOption .str s.lastError),
  ("disabled", Json.ofOption .str s.disabled)]

end Stats

end PartSourcing
