import PartSourcing.Decimal.Written
import PartSourcing.Json.Decoder
import PartSourcing.Score.Arithmetic
import PartSourcing.Text.Quoted
import PartSourcing.Vendor

/-!
# Reliability of vendors

How far each vendor can be relied on, between zero and one, with a usual value for those that
are not listed. Vendors are listed by name and looked up by key, so that the spelling of a name
does not matter; of two spellings of one name the first in the order of names counts.
-/

namespace PartSourcing

/-- The reliability of vendors. -/
structure Reliability where
  usual : Float := 0.5
  /-- The listed vendors, in the order of their names. -/
  vendors : List (String × Float) := []
  deriving DecidableEq

/-- What can be wrong with a reliability. -/
inductive Reliability.Fault where
  | usual (value : Float)
  | vendor (name : String) (value : Float)
  deriving DecidableEq

/-- The fault in words. -/
def Reliability.Fault.message : Reliability.Fault → String
  | .usual x => "reliability.default must be within [0, 1], got " ++ Decimal.plain x
  | .vendor n x =>
    "reliability for " ++ Text.quoted n ++ " must be within [0, 1], got " ++ Decimal.plain x

namespace Reliability

/-- **The reliability of a vendor**, by its key or name. -/
def lookup (r : Reliability) (vendor : String) : Float :=
  match r.vendors.find? fun (name, _) => Vendor.key name == Vendor.key vendor with
  | some (_, x) => x
  | none => r.usual

/-- **The first thing wrong**, if anything is. -/
def validate (r : Reliability) : Except Fault Unit :=
  if !ScoreNumber.isUnit r.usual then .error (.usual r.usual)
  else
    match r.vendors.find? fun (_, x) => !ScoreNumber.isUnit x with
    | some (name, x) => .error (.vendor name x)
    | none => .ok ()

open Json in
/-- Decodes a reliability table; what is left out keeps its usual value. -/
def decoder : Json.Decoder Reliability := record do
  let usual : Reliability := {}
  return {
    usual := ← Fields.orElse "default" Decoder.float usual.usual
    vendors := ← Fields.orElse "vendors" (Decoder.table Decoder.float) usual.vendors }

/-- The JSON form. -/
def toJson (r : Reliability) : Json := .obj [
  ("default", .real r.usual),
  ("vendors", .obj (r.vendors.map fun (name, x) => (name, .real x)))]

end Reliability

end PartSourcing
