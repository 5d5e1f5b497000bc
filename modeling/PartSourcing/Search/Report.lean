import PartSourcing.Listing.Basic
import PartSourcing.Query.Error

/-!
# Reports

What became of each source in one search, in the order in which they were asked, and the summary
of it that is shown.
-/

namespace PartSourcing

/-- What became of a source in one search. -/
inductive Outcome where
  | succeeded (records : List RawRecord)
  | failed (error : QueryError)
  /-- It was not asked, because an earlier search has shown that it is set up wrongly. -/
  | disabled

/-- The outcome of one source, and how many milliseconds it took. -/
structure SourceOutcome where
  source : Source
  outcome : Outcome
  elapsed : Nat

/-- The summary of one outcome. -/
structure Diagnostic where
  source : Source
  status : String
  results : Nat
  error : Option String
  elapsed : Nat
  deriving DecidableEq, Repr

/-- The JSON form. -/
def Diagnostic.toJson (d : Diagnostic) : Json := .obj [
  ("source", d.source.toJson),
  ("status", .str d.status),
  ("results", Json.nat d.results),
  ("error", Json.ofOption .str d.error),
  ("elapsed_ms", Json.nat d.elapsed)]

namespace Outcome

/-- The records found. -/
def records : Outcome → List RawRecord
  | .succeeded rs => rs
  | _ => []

/-- The word for an outcome. -/
def status : Outcome → String
  | .succeeded _ => "succeeded"
  | .failed _ => "failed"
  | .disabled => "disabled"

/-- The failure in words, if it was one. -/
def error? : Outcome → Option String
  | .failed e => some e.message
  | _ => none

end Outcome

/-- The summary of an outcome. -/
def SourceOutcome.diagnostic (o : SourceOutcome) : Diagnostic where
  source := o.source
  status := o.outcome.status
  results := o.outcome.records.length
  error := o.outcome.error?
  elapsed := o.elapsed

/-- The outcomes of a search. -/
abbrev Report := List SourceOutcome

namespace Report

/-- The summaries of all outcomes. -/
def diagnostics (r : Report) : List Diagnostic := r.map SourceOutcome.diagnostic

/-- How many records were found altogether. -/
def resultCount (r : Report) : Nat := r.foldl (fun n o => n + o.outcome.records.length) 0

/-- The outcome of a source. -/
def outcome? (r : Report) (source : Source) : Option SourceOutcome := r.find? (·.source == source)

end Report

end PartSourcing
