import PartSourcing.Config.Settings
import PartSourcing.Memory.Tables
import PartSourcing.Search.Engine

/-!
# The search service

An engine over memory that is kept, both set up by the same settings: the reliability of vendors
and the days for which offers compete come from there. A service has one handle on its memory.
-/

namespace PartSourcing

open PartSourcing.Calendar

/-- Why a service cannot be set up or used. -/
inductive ServiceError where
  | settings (fault : Settings.Fault)
  | search (error : SearchError)
  | memory (fault : StoreFault)
  deriving DecidableEq

/-- The failure in words. -/
def ServiceError.message : ServiceError → String
  | .settings f => "config error: " ++ f.message
  | .search e => e.message
  | .memory .unreadable => "memory error: unreadable record"
  | .memory .beyondCalendar => "memory error: date outside the calendar"
  | .memory .poisoned => "memory error: memory store lock poisoned"
  | .memory .unavailable => "memory error: no database"

/-- A service ready to search. -/
structure Service where
  settings : Settings
  engine : Engine

namespace Service

/-- **The service of some settings.** -/
def of (s : Settings) : Except ServiceError Service := do
  s.validate.mapError .settings
  let engine ← (Engine.of s.engine).mapError .search
  return ⟨s, engine⟩

/-- The memory as the settings want it used. -/
def store (s : Service) : Store (Handles Unit) := Handles.store s.settings.memory.staleDays ()

/-- **One search.** The result comes with the service and the memory as they are afterwards. -/
def search (s : Service) (o : Occasion σ) (req : Requirement) (memory : Handles Unit) :
    StateM σ (Except ServiceError (SearchResult × Service × Handles Unit)) := do
  match ← s.engine.search s.store s.settings.reliability.lookup o req memory with
  | .error e => return .error (.search e)
  | .ok (result, engine, memory) => return .ok (result, { s with engine }, memory)

/-- What is remembered of a part. -/
def history (s : Service) (part : String) (memory : Handles Unit) :
    Except ServiceError (Option PartRecord) :=
  (s.store.read memory part).mapError .memory

end Service

end PartSourcing
