import PartSourcing.Json.Basic
import PartSourcing.Decimal.Written

/-!
# Writing JSON

The compact form: no blank between tokens, members in their order. A double is written with
its shortest digits, positionally from `0.00001` up to below `10 ^ 16` and always with a
fraction, so that it never reads back as an integer; infinities and what is no number become
null.
-/

namespace PartSourcing.Json

open PartSourcing.Decimal

/-- How doubles are written. -/
def numberStyle : Style where
  positional := fun point => -5 < point && point ≤ 16
  wholeFraction := ".0"
  undefined := "null"
  infinite := "null"

/-- The text of a double. -/
def realText (x : Float) : String := if isFinite x then numberStyle.write x else "null"

/-- One character of a string. Quotation marks, backslashes and control characters are
escaped, the common ones by a letter. -/
def escapedChar (c : Char) : List Char :=
  if c = '\x22' then ['\\', '\x22']
  else if c = '\\' then ['\\', '\\']
  else if c = '\x08' then ['\\', 'b']
  else if c = '\x0c' then ['\\', 'f']
  else if c = '\n' then ['\\', 'n']
  else if c = '\r' then ['\\', 'r']
  else if c = '\t' then ['\\', 't']
  else if c.toNat < 0x20 then
    ['\\', 'u', '0', '0', (c.toNat / 16).digitChar, (c.toNat % 16).digitChar]
  else [c]

/-- The text of a string, quotation marks included. -/
def stringText (s : String) : String :=
  String.ofList ('\x22' :: s.toList.flatMap escapedChar ++ ['\x22'])

mutual
/-- **The compact text of a value.** -/
def write : Json → String
  | .null => "null"
  | .bool b => if b then "true" else "false"
  | .int n => intText n
  | .real x => realText x
  | .str s => stringText s
  | .arr [] => "[]"
  | .arr (x :: xs) => "[" ++ write x ++ writeItems xs ++ "]"
  | .obj [] => "\x7b\x7d"
  | .obj ((k, v) :: ms) => "\x7b" ++ stringText k ++ ":" ++ write v ++ writeMembers ms ++ "\x7d"

/-- Every further item after a comma. -/
def writeItems : List Json → String
  | [] => ""
  | x :: xs => "," ++ write x ++ writeItems xs

/-- Every further member after a comma. -/
def writeMembers : List (String × Json) → String
  | [] => ""
  | (k, v) :: ms => "," ++ stringText k ++ ":" ++ write v ++ writeMembers ms
end

end PartSourcing.Json
