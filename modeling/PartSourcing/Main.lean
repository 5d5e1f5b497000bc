import PartSourcing.Command.Run
import PartSourcing.Memory.Image
import Std.Time.DateTime.Timestamp

/-!
# The program

Reads the files that a command may need, runs it, writes what has changed and prints. There is
no network here: every source is out of reach, and searches show what is remembered.
-/

open PartSourcing PartSourcing.Calendar PartSourcing.Command

/-- The directories and files that the environment names. -/
def readEnvironment : IO Environment := do
  return {
    dataDir := ← IO.getEnv "SIGHTLINE_DATA_DIR"
    configDir := ← IO.getEnv "SIGHTLINE_CONFIG_DIR"
    usualData := ← IO.getEnv "XDG_DATA_HOME"
    usualConfig := ← IO.getEnv "XDG_CONFIG_HOME"
    home := ← IO.getEnv "HOME"
    configFile := ← IO.getEnv "SIGHTLINE_CONFIG" }

/-- The disk with a file as it is now, if it can be read. -/
def loadFile (disk : Disk) (path : String) : IO Disk := do
  try
    let text ← IO.FS.readFile path
    let content := match Tables.ofText? text with
      | some tables => Content.database tables
      | none => Content.text text
    return (disk.put? path content).getD disk
  catch _ => return disk

/-- The files that a command line may need: the configuration and the memory. -/
def loadDisk (env : Environment) (args : List String) : IO Disk := do
  let named := ((arguments? args).bind (·.configFile)).or env.configFile
  let configPath := named.getD (Directories.configFile env)
  let disk ← loadFile {} configPath
  let settings := ((disk.text? configPath).bind Settings.ofText?).getD {}
  loadFile disk (settings.memory.path.getD (Directories.memoryFile env))

/-- The path of a location. -/
def pathOf (loc : Location) : String :=
  match loc with
  | "/" :: names => "/" ++ "/".intercalate names
  | names => "/".intercalate names

/-- Writes the files that are not as they were. -/
def saveDisk (before after : Disk) : IO Unit := do
  for (loc, content) in after.files do
    if before.file? loc != some content then
      if loc.length > 1 then IO.FS.createDirAll (pathOf loc.dropLast)
      match content with
      | .text s => IO.FS.writeFile (pathOf loc) s
      | .database t => IO.FS.writeFile (pathOf loc) t.toText

/-- A fresh identifier. -/
def newSearchId : IO SearchId := do
  let bytes ← IO.getRandomBytes 16
  let n := bytes.toList.foldl (fun v b => v * 256 + b.toNat) 0
  let bits := BitVec.ofNat 128 n
  return ⟨bits &&& ~~~(0xF000C000000000000000#128) ||| 0x40008000000000000000#128⟩

/-- What the search takes from outside. -/
def occasion : IO (Occasion Unit) := do
  let time ← Std.Time.Timestamp.now
  let seed ← IO.rand 0 UInt32.size
  return {
    wire := Http.unreachable
    now := ⟨time.val.second.val, time.val.nano.val.toNat⟩
    searchId := ← newSearchId
    draw := fun retry => seed / (retry + 1) }

/-- Runs a command line. -/
def main (args : List String) : IO UInt32 := do
  let env ← readEnvironment
  let before ← loadDisk env args
  let ((output, after), _) := (Command.run env (← occasion) args before).run ()
  saveDisk before after
  IO.print output.stdout
  for line in output.stderr do
    IO.eprintln line
  return output.code
