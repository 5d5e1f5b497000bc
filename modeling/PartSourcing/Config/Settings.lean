import PartSourcing.Config.Engine
import PartSourcing.Config.Reliability
import PartSourcing.Memory.Observation
import PartSourcing.Toml.Document
import PartSourcing.Toml.Writer

/-!
# Settings

The whole configuration of the program, as it stands in its file: the search engine, the memory
and the reliability of vendors. Every section and every field may be left out. What is saved
shows every field that has a value.
-/

namespace PartSourcing

/-- Where the memory is kept, and for how many days an offer competes for the best price. -/
structure MemorySettings where
  path : Option String := none
  staleDays : UInt32 := PartRecord.defaultStaleDays
  deriving DecidableEq

/-- The whole configuration. -/
structure Settings where
  engine : EngineConfig := {}
  memory : MemorySettings := {}
  reliability : Reliability := {}
  deriving DecidableEq

/-- What can be wrong with settings. -/
inductive Settings.Fault where
  | engine (fault : EngineConfig.Fault)
  | reliability (fault : Reliability.Fault)
  | zeroStaleDays
  deriving DecidableEq

/-- The fault in words. -/
def Settings.Fault.message : Settings.Fault → String
  | .engine f => f.message
  | .reliability f => f.message
  | .zeroStaleDays => "memory.stale_after_days must be greater than 0"

namespace MemorySettings

open Json in
/-- Decodes the memory section; what is left out keeps its usual value. -/
def decoder : Json.Decoder MemorySettings := record do
  let usual : MemorySettings := {}
  return {
    path := ← Fields.orElse "path" (Decoder.nullable Decoder.string) usual.path
    staleDays := ← Fields.orElse "stale_after_days" Decoder.uint32 usual.staleDays }

/-- The JSON form. -/
def toJson (m : MemorySettings) : Json := .obj [
  ("path", Json.ofOption .str m.path),
  ("stale_after_days", Json.nat m.staleDays.toNat)]

end MemorySettings

namespace Settings

/-- **The first thing wrong with the settings**, if anything is. -/
def validate (s : Settings) : Except Fault Unit := do
  s.engine.validate.mapError .engine
  s.reliability.validate.mapError .reliability
  if s.memory.staleDays = 0 then throw .zeroStaleDays

open Json in
/-- Decodes settings; what is left out keeps its usual value. -/
def decoder : Json.Decoder Settings := record do
  let usual : Settings := {}
  return {
    engine := ← Fields.orElse "engine" EngineConfig.decoder usual.engine
    memory := ← Fields.orElse "memory" MemorySettings.decoder usual.memory
    reliability := ← Fields.orElse "reliability" Reliability.decoder usual.reliability }

/-- The JSON form. -/
def toJson (s : Settings) : Json := .obj [
  ("engine", s.engine.toJson),
  ("memory", s.memory.toJson),
  ("reliability", s.reliability.toJson)]

/-- **Reads the text of a configuration file.** -/
def ofText? (text : String) : Option Settings :=
  (Toml.parse? text).bind fun j => (decoder Toml.dialect j).toOption

/-- **The text of a configuration file** with these settings; `none` if a number is too great
for one. -/
def toText? (s : Settings) : Option String := Toml.write? s.toJson

end Settings

end PartSourcing
