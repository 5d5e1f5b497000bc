import PartSourcing.Command.Arguments
import PartSourcing.Command.Disk
import PartSourcing.Config.Directories
import PartSourcing.Json.Pretty
import PartSourcing.Search.Service

/-!
# Commands

What each command does with the files, and what it prints. What a program can use goes to the
standard output and what a person reads to the standard error; a command that fails says why in
one line.
-/

namespace PartSourcing.Command

open PartSourcing.Decimal

/-- What a command prints, and its exit code. -/
structure Output where
  code : UInt32 := 0
  stdout : String := ""
  stderr : List String := []

/-- Why a command fails. -/
inductive Failure where
  /-- A file cannot be read or written. -/
  | file (detail : String)
  /-- The configuration file is no configuration. -/
  | format
  | service (error : ServiceError)
  /-- There is a configuration file already. -/
  | present (path : String)
  /-- The configuration file cannot be written. -/
  | unwritten (path : String)

/-- The failure in words. -/
def Failure.message : Failure → String
  | .file d => "I/O error: " ++ d
  | .format => "config error: TOML parse error"
  | .service e => e.message
  | .present path => path ++ " already exists (use --force to overwrite)"
  | .unwritten path => "writing " ++ path

/-- A command under way: it may fail, and changes the files unless it does. -/
abbrev Action (σ α : Type) := ExceptT Failure (StateT Disk (StateM σ)) α

/-- A text with blanks up to a width. -/
def column (width : Nat) (s : String) : String :=
  s ++ String.ofList (List.replicate (width - s.length) ' ')

/-- The settings in a configuration file. -/
def settingsIn (path : String) : Action σ Settings := do
  match (← get).text? path with
  | none => throw (.file "no readable file")
  | some text =>
    match Settings.ofText? text with
    | some s => return s
    | none => throw .format

/-- The settings of the file that is named, or of the usual one if it is there, or the usual
settings. -/
def settings (env : Environment) (file : Option String) : Action σ Settings := do
  match file with
  | some path => settingsIn path
  | none =>
    let path := Directories.configFile env
    if (← get).has path then settingsIn path else return {}

/-- The service of some settings with its memory, which is there from then on. -/
def openService (env : Environment) (s : Settings) : Action σ (Service × String × Handles Unit) := do
  match s.validate with
  | .error f => throw (.service (.settings f))
  | .ok () =>
    let path := s.memory.path.getD (Directories.memoryFile env)
    match (← get).database? path with
    | none => throw (.service (.memory .unavailable))
    | some tables =>
      modify fun d => d.keep path tables
      match Service.of s with
      | .error e => throw (.service e)
      | .ok service => return (service, path, { tables })

/-- The line about one source. -/
def diagnosticLine (d : Diagnostic) : String :=
  let what := match d.error with
    | some e => e
    | none => natText d.results ++ " results"
  d.source.displayName ++ " " ++ column 9 d.status ++ " " ++ what ++ " (" ++ natText d.elapsed ++
    " ms)"

/-- Searches, and prints the ranked sightings. -/
def search (env : Environment) (o : Occasion σ) (s : Settings) (r : Requirement) :
    Action σ Output := do
  let (service, path, memory) ← openService env s
  match ← (service.search o r memory : StateM σ _) with
  | .error e => throw (.service e)
  | .ok (result, _, memory) =>
    modify fun d => d.keep path memory.tables
    return {
      stdout := (Json.arr (result.sightings.map Sighting.toJson)).pretty ++ "\n"
      stderr := (Report.diagnostics result.report).map diagnosticLine }

/-- Prints what is remembered of a part. -/
def history (env : Environment) (s : Settings) (part : String) : Action σ Output := do
  let (service, _, memory) ← openService env s
  match service.history part memory with
  | .error e => throw (.service e)
  | .ok none => return { stderr := ["no memory for " ++ part] }
  | .ok (some r) => return { stdout := r.toJson.pretty ++ "\n" }

/-- Prints the sources, and whether they take part. -/
def sources (s : Settings) : Action σ Output :=
  match Engine.connect s.engine with
  | .error e => throw (.service (.search (.client e)))
  | .ok (_, members) =>
    let line (source : Source) : String :=
      let state := if members.any (·.source == source) then "enabled" else "disabled"
      column 10 source.displayName ++ " " ++ column 22 source.standing.name ++ " " ++ state ++ "\n"
    return { stdout := String.join (Source.all.map line) }

/-- Writes a configuration file with the usual settings. -/
def initConfig (env : Environment) (file : Option String) (force : Bool) : Action σ Output := do
  let path := file.getD (Directories.configFile env)
  let disk ← get
  if disk.has path && !force then throw (.present path)
  match (Settings.toText? {}).bind fun text => disk.put? path (.text text) with
  | none => throw (.unwritten path)
  | some written =>
    set written
    return { stdout := "wrote " ++ path ++ "\n" }

/-- The version of the program. -/
def versionText : String := "sightline 0.1.0\n"

/-- How the program is called. -/
def helpText : String := "Usage: sightline [-c FILE] search|history|sources|init-config\n"

/-- One command. -/
def act (env : Environment) (o : Occasion σ) (a : Arguments) : Action σ Output := do
  let file := a.configFile.or env.configFile
  match a.task with
  | .version => return { stdout := versionText }
  | .help => return { stdout := helpText }
  | .initConfig force => initConfig env file force
  | .sources => sources (← settings env file)
  | .history part => history env (← settings env file) part
  | .search r => search env o (← settings env file) r

/-- **Runs a command line** on some files. -/
def run (env : Environment) (o : Occasion σ) (args : List String) (disk : Disk) :
    StateM σ (Output × Disk) := do
  match arguments? args with
  | none => return ({ code := 2, stderr := [helpText] }, disk)
  | some a =>
    let (result, disk) ← (act env o a).run.run disk
    match result with
    | .ok output => return (output, disk)
    | .error f => return ({ code := 1, stderr := ["Error: " ++ f.message] }, disk)

end PartSourcing.Command
