import PartSourcing.Json.Basic

/-!
# Decoding records

A decoder turns a value into a piece of data or says why it cannot. Records are decoded field
by field, and may be written in two layouts: as an object, in which unknown members are
ignored and an optional field may be missing, or as an array of the fields in their order.

Formats other than JSON that are read into the same values are a little more liberal, and a
`Dialect` says how: whether an array may go on after the last field, and what an enumerated
name may carry when it is written as a one-member object.
-/

namespace PartSourcing.Json

/-- Why a value is not of the wanted shape. -/
inductive Mismatch where
  | kind
  | range
  | missing (field : String)
  | repeated (field : String)
  | surplus
  | unknownName (name : String)
  deriving DecidableEq, Repr

/-- The reason in words. -/
def Mismatch.message : Mismatch → String
  | .kind => "value of an unexpected kind"
  | .range => "number out of range"
  | .missing f => "missing field " ++ f
  | .repeated f => "repeated field " ++ f
  | .surplus => "more items than fields"
  | .unknownName n => "unknown name " ++ n

/-- The liberties of a format. -/
structure Dialect where
  furtherItems : Bool
  barePayload : Json → Bool

/-- JSON itself: no further items, and a name carries null. -/
def Dialect.json : Dialect where
  furtherItems := false
  barePayload := fun | .null => true | _ => false

/-- A decoder of values into data. -/
abbrev Decoder (α : Type) := Dialect → Json → Except Mismatch α

namespace Decoder

/-- A value as it is, repeated members resolved. -/
def any : Decoder Json := fun _ j => .ok j.settle

/-- A text. -/
def string : Decoder String
  | _, .str s => .ok s
  | _, _ => .error .kind

/-- A truth value. -/
def bool : Decoder Bool
  | _, .bool b => .ok b
  | _, _ => .error .kind

/-- An integer from zero up to the given bound. -/
def natUpTo (bound : Nat) : Decoder Nat
  | _, .int n => if 0 ≤ n ∧ n ≤ bound then .ok n.toNat else .error .range
  | _, _ => .error .kind

/-- An unsigned 64-bit integer. -/
def uint64 : Decoder UInt64 := fun d j => (natUpTo (UInt64.size - 1) d j).map UInt64.ofNat

/-- An unsigned 32-bit integer. -/
def uint32 : Decoder UInt32 := fun d j => (natUpTo (UInt32.size - 1) d j).map UInt32.ofNat

/-- An unsigned 8-bit integer. -/
def uint8 : Decoder UInt8 := fun d j => (natUpTo (UInt8.size - 1) d j).map UInt8.ofNat

/-- The double nearest to an integer. -/
def floatOfInt : Int → Float
  | .ofNat n => Float.ofScientific n false 0
  | .negSucc n => -Float.ofScientific (n + 1) false 0

/-- A number of either kind, as a double. -/
def float : Decoder Float
  | _, .real x => .ok x
  | _, .int n => .ok (floatOfInt n)
  | _, _ => .error .kind

/-- Null, or a value. -/
def nullable (f : Decoder α) : Decoder (Option α)
  | _, .null => .ok none
  | d, j => (f d j).map some

/-- An array of values of one shape. -/
def list (f : Decoder α) : Decoder (List α)
  | d, .arr xs => xs.mapM (f d)
  | _, _ => .error .kind

/-- The entries of a table with one more; of two under one name the new one counts. -/
def insertByName (m : String × α) : List (String × α) → List (String × α)
  | [] => [m]
  | n :: ns =>
    if m.1 < n.1 then m :: n :: ns
    else if m.1 = n.1 then m :: ns
    else n :: insertByName m ns

/-- An object whose members all have one shape, in the order of their names. -/
def table (f : Decoder α) : Decoder (List (String × α))
  | d, .obj ms => ms.foldlM (fun t (k, v) => (f d v).map fun a => insertByName (k, a) t) []
  | _, _ => .error .kind

/-- One of a fixed set of names, either as a text or as the only member of an object. -/
def name (ofName? : String → Option α) : Decoder α
  | _, .str s => (ofName? s).elim (.error (.unknownName s)) .ok
  | d, .obj [(s, payload)] =>
    if d.barePayload payload then (ofName? s).elim (.error (.unknownName s)) .ok
    else .error .kind
  | _, _ => .error .kind

/-- A text with a reading of its own. -/
def parsed (parse? : String → Option α) : Decoder α := fun d j =>
  (string d j).bind fun s => (parse? s).elim (.error .kind) .ok

end Decoder

/-- A record on its way through its fields: the members to choose from, or the items still to
be taken. -/
inductive Layout where
  | named (members : List (String × Json))
  | placed (items : List Json)

/-- A decoder of some fields of a record. -/
abbrev Fields (α : Type) := ReaderT Dialect (StateT Layout (Except Mismatch)) α

namespace Fields

/-- Takes the value of the next field; `none` if the record ends before it. -/
def take? (field : String) : Fields (Option Json) := do
  match (← get) with
  | .named ms =>
    match ms.filter (·.1 == field) with
    | [] => return none
    | [(_, v)] => return some v
    | _ => throw (.repeated field)
  | .placed [] => return none
  | .placed (x :: xs) =>
    set (Layout.placed xs)
    return some x

/-- A field that must be there. -/
def required (field : String) (f : Decoder α) : Fields α := do
  match (← take? field) with
  | some v => f (← read) v
  | none => throw (.missing field)

/-- A field that may be null, and that an object may leave out. -/
def optional (field : String) (f : Decoder α) : Fields (Option α) := do
  match (← take? field) with
  | some v => f.nullable (← read) v
  | none =>
    match (← get) with
    | .named _ => return none
    | .placed _ => throw (.missing field)

/-- A field with a value of its own when it is left out; null is no value. -/
def orElse (field : String) (f : Decoder α) (missing : α) : Fields α := do
  match (← take? field) with
  | some v => f (← read) v
  | none => return missing

end Fields

/-- **The decoder of a record** from the decoder of its fields. -/
def record (f : Fields α) : Decoder α
  | d, .obj ms => (f d (.named ms)).map (·.1)
  | d, .arr xs =>
    match f d (.placed xs) with
    | .ok (a, .placed (_ :: _)) => if d.furtherItems then .ok a else .error .surplus
    | .ok (a, _) => .ok a
    | .error e => .error e
  | _, _ => .error .kind

/-- Decodes a JSON value. -/
def decode (f : Decoder α) (j : Json) : Except Mismatch α := f .json j

/-- Decodes a JSON value, reasons aside. -/
def decode? (f : Decoder α) (j : Json) : Option α := (decode f j).toOption

end PartSourcing.Json
