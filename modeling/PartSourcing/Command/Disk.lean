import PartSourcing.Memory.Tables

/-!
# Files

The files that a command works on: texts and databases under their paths. A path is taken apart
into its names, so that two spellings of one path are the same file; directories are there as
soon as something is in them, or after they were made.
-/

namespace PartSourcing.Command

/-- What a file holds. -/
inductive Content where
  | text (s : String)
  | database (tables : Tables)
  deriving DecidableEq

/-- A path taken apart; an absolute one starts with a slash. -/
abbrev Location := List String

/-- Files and directories. -/
structure Disk where
  files : List (Location × Content) := []
  directories : List Location := []

namespace Disk

/-- The names of a path, its dots resolved. -/
def resolve (names : List String) : List String :=
  (names.foldl (fun done name =>
    if name.isEmpty || name = "." then done
    else if name = ".." then done.drop 1
    else name :: done) []).reverse

/-- The location of a path. -/
def locate (path : String) : Location :=
  let names := resolve (path.splitOn "/")
  if path.startsWith "/" then "/" :: names else names

/-- What the file at a location holds. -/
def file? (d : Disk) (loc : Location) : Option Content := d.files.lookup loc

/-- Whether there is a directory at a location. -/
def isDirectory (d : Disk) (loc : Location) : Bool :=
  loc.isEmpty || loc == ["/"] || d.directories.contains loc ||
    d.files.any fun f => loc.isPrefixOf f.1 && f.1 != loc

/-- Whether there is anything at a path. -/
def has (d : Disk) (path : String) : Bool :=
  !path.isEmpty && ((d.file? (locate path)).isSome || d.isDirectory (locate path))

/-- The text in a file; `none` if there is no text to read. -/
def text? (d : Disk) (path : String) : Option String :=
  match path.isEmpty, d.file? (locate path) with
  | false, some (.text s) => some s
  | _, _ => none

/-- The disk with a directory at a location and with all above it; `none` if a file is in the
way. -/
def makeDirectory? (d : Disk) (loc : Location) : Option Disk :=
  if (List.range (loc.length + 1)).any fun n => (d.file? (loc.take n)).isSome then none
  else some { d with directories := loc :: d.directories }

/-- The disk with a file written, its directory being made first; `none` if that cannot be. -/
def put? (d : Disk) (path : String) (c : Content) : Option Disk :=
  let loc := locate path
  if d.isDirectory loc then none
  else
    (d.makeDirectory? loc.dropLast).map fun d =>
      { d with files := (loc, c) :: d.files.filter (·.1 != loc) }

/-- The database at a path, a new one if there is none; `none` if it cannot be one. Without a
name, and under the name for memory, a database is not kept. -/
def database? (d : Disk) (path : String) : Option Tables :=
  if path.isEmpty || path = ":memory:" then some {}
  else if path.contains '\x00' || d.isDirectory (locate path) then none
  else
    match d.file? (locate path) with
    | some (.database t) => some t.opened
    | some (.text s) => if s.isEmpty then some {} else none
    | none => (d.makeDirectory? (locate path).dropLast).map fun _ => {}

/-- The disk with a database written back. -/
def keep (d : Disk) (path : String) (t : Tables) : Disk :=
  if path.isEmpty || path = ":memory:" then d else (d.put? path (.database t)).getD d

end Disk

end PartSourcing.Command
