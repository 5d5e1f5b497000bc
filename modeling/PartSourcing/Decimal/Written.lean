import PartSourcing.Decimal.Digits
import PartSourcing.Decimal.Shortest

/-!
# Written forms of a double

The digits are always the shortest ones that read back. A `Style` holds what is left to
decide: where positional notation ends and an exponent begins, whether a whole number keeps a
fraction, and the words for what has no digits. The formats of this library each name their
style beside their writer; `plain`, which messages use, is here.
-/

namespace PartSourcing.Decimal

/-- The decisions of one written form. `point` is the number of digits before the decimal
point (zero or less for a magnitude below one tenth). -/
structure Style where
  positional : (point : Int) → Bool
  wholeFraction : String
  undefined : String
  infinite : String

/-- Digits with the decimal point after the first `point` of them, zeros filled in. -/
def positionalText (ds : List Char) (point : Int) (wholeFraction : String) : String :=
  let n : Int := ds.length
  if n ≤ point then
    String.ofList (ds ++ List.replicate (point - n).toNat '0') ++ wholeFraction
  else if 0 < point then
    String.ofList (ds.take point.toNat) ++ "." ++ String.ofList (ds.drop point.toNat)
  else "0." ++ String.ofList (List.replicate (-point).toNat '0' ++ ds)

/-- Digits with the decimal point after the first one and an exponent. -/
def exponentText (ds : List Char) (point : Int) : String :=
  let tail := String.ofList (ds.drop 1)
  String.ofList (ds.take 1) ++ (if tail.isEmpty then "" else "." ++ tail) ++ "e" ++
    intText (point - 1)

/-- **The text of a double** in a given style. -/
def Style.write (style : Style) (x : Float) : String :=
  match Dyadic.ofFloat? x with
  | some d =>
    let s := shortest d
    let ds := digits s.digits
    let point : Int := if s.digits = 0 then 1 else ds.length + s.exponent
    (if d.negative then "-" else "") ++
      if style.positional point then positionalText ds point style.wholeFraction
      else exponentText ds point
  | none =>
    if x.isNaN then style.undefined
    else if x < 0 then "-" ++ style.infinite else style.infinite

/-- The style of numbers inside messages: never an exponent, and a whole number has no
fraction. -/
def plainStyle : Style := ⟨fun _ => true, "", "NaN", "inf"⟩

/-- The text of a double inside a message. -/
def plain (x : Float) : String := plainStyle.write x

end PartSourcing.Decimal
