import PartSourcing.Memory.Store
import PartSourcing.Provider.All
import PartSourcing.Provider.Reading
import PartSourcing.Score.Evidence
import PartSourcing.Search.Member
import PartSourcing.Sighting.History
import PartSourcing.Sighting.Merge
import PartSourcing.Sighting.Ranking

/-!
# Searches

A search asks every source, reads what they answer as sightings, merges duplicates, adds what is
remembered of the part, scores and ranks, and remembers the fresh sightings in the order of the
result. Only a requirement that makes no sense, or a date outside the calendar, fails it;
sources that fail and a memory that fails only make the result poorer.

`conclude?` is the part of it behind the sources; it is a function of the fresh sightings and of
the record of the part, and neither asks anybody nor remembers anything.
-/

namespace PartSourcing

open PartSourcing.Calendar

/-- Why an engine cannot be set up, or a search cannot be made. -/
inductive SearchError where
  | config (fault : EngineConfig.Fault)
  | client (error : QueryError)
  | requirement (error : Requirement.Error)
  | beyondCalendar
  deriving DecidableEq

/-- The failure in words. -/
def SearchError.message : SearchError → String
  | .config f => "config error: " ++ f.message
  | .client e => "config error: " ++ e.message
  | .requirement e => "invalid requirement: " ++ e.message
  | .beyondCalendar => "date outside the calendar"

/-- An engine: its configuration, how it sends requests, and the sources that take part. -/
structure Engine where
  config : EngineConfig
  client : Http.Client
  members : List Member

/-- **What a search returns** for its fresh sightings and the record of its part: merged, with
history, scored and ranked. -/
def conclude? (c : EngineConfig) (req : Requirement) (reliability : String → Float)
    (now : Instant) (searchId : SearchId) (record : Option PartRecord) (fresh : List Sighting) :
    Option (List Sighting) :=
  (Sighting.withHistory? (Sighting.mergeDuplicates c fresh) req record c.lookbackDays now
    searchId).map fun all =>
      Sighting.ranked c (Sighting.scoreAll req c.scoring reliability now all)

/-- What a search has found. -/
structure SearchResult where
  searchId : SearchId
  sightings : List Sighting
  report : Report

namespace Engine

/-- The sources of a configuration that take part, and how they are asked. -/
def connect (c : EngineConfig) : Except QueryError (Http.Client × List Member) :=
  (Http.Client.of c).map fun client => (client, c.sources.providers.map Member.new)

/-- **The engine of a configuration.** -/
def of (c : EngineConfig) : Except SearchError Engine := do
  c.validate.mapError .config
  let (client, members) ← (connect c).mapError .client
  return ⟨c, client, members⟩

/-- The sightings in the records that the sources have found, in their order. -/
def freshSightings (e : Engine) (req : Requirement) (searchId : SearchId)
    (outcomes : List (SourceOutcome × Member)) : List Sighting :=
  outcomes.flatMap fun (o, m) => m.provider.sightings e.config req searchId o.outcome.records

/-- **One search.** The result comes with the engine and the memory as they are afterwards. -/
def search (e : Engine) (store : Store τ) (reliability : String → Float) (o : Occasion σ)
    (req : Requirement) (memory : τ) :
    StateM σ (Except SearchError (SearchResult × Engine × τ)) := do
  match req.validate with
  | .error f => return .error (.requirement f)
  | .ok () =>
    let outcomes ←
      Member.searchAll e.members e.config.retry e.config.deadline e.client o req
    let fresh := e.freshSightings req o.searchId outcomes
    let record := (store.read memory req.part).toOption.join
    match conclude? e.config req reliability o.now o.searchId record fresh with
    | none => return .error .beyondCalendar
    | some sightings =>
      return .ok (⟨o.searchId, sightings, outcomes.map (·.1)⟩,
        { e with members := outcomes.map (·.2) },
        store.rememberFresh o.clock memory sightings)

end Engine

end PartSourcing
