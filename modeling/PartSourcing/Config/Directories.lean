/-!
# Directories

Where the configuration and the memory are looked for. Each directory has a variable of its own,
which is taken as it is; otherwise the usual directory of the user is used, which a variable
can name only by an absolute path; and without a home directory there is a fallback.
-/

namespace PartSourcing

/-- The environment variables that are looked at. -/
structure Environment where
  dataDir : Option String := none
  configDir : Option String := none
  usualData : Option String := none
  usualConfig : Option String := none
  home : Option String := none
  /-- The home directory on record for the account, in case no variable names one. -/
  homeOnRecord : Option String := none
  /-- The configuration file to use when none is named. -/
  configFile : Option String := none
  deriving DecidableEq, Repr

namespace Directories

/-- A path below a directory. -/
def below (dir name : String) : String :=
  if dir.isEmpty || dir.endsWith "/" then dir ++ name else dir ++ "/" ++ name

/-- The user's directory of one kind: the one named, if its path is absolute, or one in the home
directory. -/
def ofUser? (env : Environment) (named : Option String) (inHome : String) : Option String :=
  match named.filter fun d => d.startsWith "/" with
  | some d => some d
  | none =>
    ((env.home.filter fun h => !h.isEmpty).or env.homeOnRecord).map fun h => below h inHome

/-- The name of the program within the directories of a user. -/
def program : String := "sightline"

/-- **The directory of the memory.** -/
def data (env : Environment) : String :=
  env.dataDir.getD <|
    ((ofUser? env env.usualData ".local/share").map fun d => below d program).getD
      "/tmp/sightline-data"

/-- **The directory of the configuration.** -/
def config (env : Environment) : String :=
  env.configDir.getD <|
    ((ofUser? env env.usualConfig ".config").map fun d => below d program).getD
      "/tmp/sightline-config"

/-- The file of the memory. -/
def memoryFile (env : Environment) : String := below (data env) "memory.db"

/-- The configuration file. -/
def configFile (env : Environment) : String := below (config env) "config.toml"

end Directories

end PartSourcing
