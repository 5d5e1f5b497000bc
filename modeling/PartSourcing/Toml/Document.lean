import PartSourcing.Json.Decoder
import PartSourcing.Toml.Reader

/-!
# TOML documents

A document is a tree of tables that its statements fill one after the other. The rules on
double definition are the delicate part, and every table remembers how it came about for their
sake:

* a table that a header names is finished under that name: no second header may name it, and no
  dotted key may reach into it;
* a table that a header only passes through may still get a header of its own;
* a table that a dotted key passes through belongs to dotted keys alone.

`within?` walks to a table and says in one place which of these walks are allowed.
-/

namespace PartSourcing.Toml

open PartSourcing.Json

/-- How a table came about: by a header of its own, by a header below it, or by a dotted key. -/
inductive Origin where
  | header
  | passed
  | dotted
  deriving DecidableEq, Repr

/-- What a name in a table stands for: a value, a table, or a list of tables, of which the last
comes first. -/
inductive Item where
  | value (v : Json)
  | table (origin : Origin) (members : List (String × Item))
  | tables (rows : List (List (String × Item)))

/-- The members of a table. -/
abbrev Members := List (String × Item)

/-- The members with the named one replaced. -/
def Members.put (ms : Members) (name : String) (item : Item) : Members :=
  ms.map fun m => if m.1 = name then (name, item) else m

/-- **Changes the table at a path.** Tables on the way that are not there yet come about by the
walk; of a list of tables the last is meant. A dotted key does not enter a table that has a
header. -/
def within? (dotted : Bool) (change : Origin → Members → Option Members) :
    List String → Origin → Members → Option Members
  | [], origin, ms => change origin ms
  | name :: path, _, ms =>
    match ms.lookup name with
    | none =>
      let origin := if dotted then Origin.dotted else Origin.passed
      (within? dotted change path origin []).map fun inner => ms ++ [(name, .table origin inner)]
    | some (.table origin inner) =>
      if dotted ∧ origin = .header then none
      else (within? dotted change path origin inner).map fun inner =>
        ms.put name (.table origin inner)
    | some (.tables (row :: rows)) =>
      (within? dotted change path .header row).map fun row => ms.put name (.tables (row :: rows))
    | some _ => none

/-- Gives a new name its value. A dotted key ends in a table of dotted keys, and only such a key
does. -/
def assign? (atEnd : Bool) (name : String) (v : Json) (origin : Origin) (ms : Members) :
    Option Members :=
  if decide (origin = .dotted) = atEnd then none
  else if (ms.lookup name).isSome then none
  else some (ms ++ [(name, .value v)])

/-- Assigns a value to a key within a table. -/
def Members.assign? (a : Assignment) (origin : Origin) (ms : Members) : Option Members :=
  match a.1.getLast? with
  | none => none
  | some name => within? true (Toml.assign? (a.1.length = 1) name a.2) a.1.dropLast origin ms

/-- Opens a table under a name that is new or that headers have only passed through. -/
def openTable? (name : String) (_ : Origin) (ms : Members) : Option Members :=
  match ms.lookup name with
  | none => some (ms ++ [(name, .table .header [])])
  | some (.table .passed inner) => some (ms.put name (.table .header inner))
  | some _ => none

/-- Opens a further table in the list of that name. -/
def openRow? (name : String) (_ : Origin) (ms : Members) : Option Members :=
  match ms.lookup name with
  | none => some (ms ++ [(name, .tables [[]])])
  | some (.tables rows) => some (ms.put name (.tables ([] :: rows)))
  | some _ => none

mutual
/-- The value of an item. -/
def Item.toJson : Item → Json
  | .value v => v
  | .table _ ms => .obj (membersJson ms)
  | .tables rows => .arr (rowsJson rows)

/-- The values of the members of a table. -/
def membersJson : List (String × Item) → List (String × Json)
  | [] => []
  | (name, item) :: ms => (name, item.toJson) :: membersJson ms

/-- The values of a list of tables, the first of them first. -/
def rowsJson : List (List (String × Item)) → List Json
  | [] => []
  | row :: rows => rowsJson rows ++ [.obj (membersJson row)]
end

/-- An inline table of the given assignments. -/
def inlineTable? (as : List Assignment) : Option Json :=
  (as.foldlM (fun ms a => Members.assign? a .header ms) []).map fun ms => .obj (membersJson ms)

/-- A value of at most the given depth; `left` bounds the number of items of one array or inline
table. -/
def value (left : Nat) : (depth : Nat) → Reading Json
  | 0, s =>
    match s with
    | '[' :: _ | '\x7b' :: _ => none
    | s => scalar? s
  | depth + 1, s =>
    match s with
    | '[' :: s => (items (value left depth) left s).map fun (xs, s) => (.arr xs, s)
    | '\x7b' :: s =>
      match skipSpace s with
      | '\x7d' :: s => some (.obj [], s)
      | s =>
        (assignments (value left depth) left s).bind fun (as, s) =>
          (inlineTable? as).map fun j => (j, s)
    | s => scalar? s

/-- One statement of a document. -/
inductive Statement where
  | assign (a : Assignment)
  | header (path : List String)
  | rowHeader (path : List String)

/-- The statement that starts here. -/
def statement? (s : List Char) : Option (Statement × List Char) :=
  match s with
  | '[' :: '[' :: s =>
    match key? s with
    | some (path, ']' :: ']' :: s) => some (.rowHeader path, s)
    | _ => none
  | '[' :: s =>
    match key? s with
    | some (path, ']' :: s) => some (.header path, s)
    | _ => none
  | s => (assignment? (value (s.length + 1) maxDepth) s).map fun (a, s) => (.assign a, s)

/-- The statements of a text, each alone on its line; `left` bounds the number of lines. -/
def statements? : (left : Nat) → List Char → Option (List Statement)
  | 0, _ => none
  | left + 1, s =>
    match skipLines s.length s with
    | [] => some []
    | s =>
      (statement? s).bind fun (statement, s) =>
        match skipComment (skipSpace s) with
        | [] => some [statement]
        | s =>
          (lineEnd? s).bind fun s => (statements? left s).map fun rest => statement :: rest

/-- A document under way: its tables, and the path of the one that assignments go to. -/
structure Draft where
  members : Members := []
  path : List String := []

/-- Carries out one statement. -/
def Draft.step? (d : Draft) : Statement → Option Draft
  | .assign a =>
    (within? false (Members.assign? a) d.path .header d.members).map fun ms =>
      { d with members := ms }
  | .header path => (opened? openTable? path).map fun ms => ⟨ms, path⟩
  | .rowHeader path => (opened? openRow? path).map fun ms => ⟨ms, path⟩
where
  /-- The tables after a header. -/
  opened? (change : String → Origin → Members → Option Members) (path : List String) :
      Option Members :=
    path.getLast?.bind fun name => within? false (change name) path.dropLast .header d.members

/-- **Reads a document.** A byte order mark may stand before it. -/
def parse? (s : String) : Option Json :=
  let cs := match s.toList with
    | '\uFEFF' :: cs => cs
    | cs => cs
  (statements? (cs.length + 1) cs).bind fun ss =>
    (ss.foldlM Draft.step? {}).map fun d => .obj (membersJson d.members)

/-- The liberties of TOML: an array may go on after the last field of a record, and a name
carries an empty array or table. -/
def dialect : Dialect where
  furtherItems := true
  barePayload := fun
    | .arr [] | .obj [] => true
    | _ => false

end PartSourcing.Toml
