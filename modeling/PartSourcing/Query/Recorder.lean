import PartSourcing.Query.Stats

/-!
# What a recorder is told

The statistics of a source have one writer, its recorder, which is told of four things: that a
search has begun, how an attempt went, that asking failed outside an attempt, and that the source
is to be disabled. Only the last is answered, by whether it is the first time.
-/

namespace PartSourcing.Stats

open PartSourcing.Calendar

/-- One call of a recorder. -/
inductive Event (α : Type) where
  | search
  | attempt (latency : α) (outcome : Except QueryError UInt64) (now : Instant)
  | failure (e : QueryError)
  | disable (reason : String)

/-- **Disables the source**, and says whether it was not disabled before. -/
def markDisabled (s : Stats α) (reason : String) : Bool × Stats α :=
  (!s.isDisabled, s.disable reason)

variable [Add α] [Sub α] [Div α] [ScoreNumber α]

/-- One call, with the answer if there is one. -/
def record (s : Stats α) : Event α → Option Bool × Stats α
  | .search => (none, s.countSearch)
  | .attempt latency outcome now => (none, s.countAttempt latency outcome now)
  | .failure e => (none, s.countFailure e)
  | .disable reason =>
    let (first, s) := s.markDisabled reason
    (some first, s)

/-- **Some calls in their order**, with the answers to those that are answered. -/
def recordAll (s : Stats α) : List (Event α) → List Bool × Stats α
  | [] => ([], s)
  | e :: events =>
    let (answer, s) := s.record e
    let (answers, s) := recordAll s events
    (answer.toList ++ answers, s)

end PartSourcing.Stats
