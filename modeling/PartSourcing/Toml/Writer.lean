import PartSourcing.Decimal.Written
import PartSourcing.Json.Basic

/-!
# Writing TOML

A document is written section by section: the values of a table first, each on a line of its
own, then the tables inside it, depth first. A table gets a header if it has values, or if it
has nothing at all; one that only holds tables is understood from theirs. Null members are left
out.

A text is written in the plainest of the four forms that shows it without escapes, and with
escapes only if none does.
-/

namespace PartSourcing.Toml

open PartSourcing.Decimal

/-- The length of the longest run of a character. -/
def longestRun (c : Char) (s : List Char) : Nat :=
  (s.foldl (fun (run, most) d => if d = c then (run + 1, max most (run + 1)) else (0, most))
    ((0, 0) : Nat × Nat)).2

/-- Whether a character can only be written as an escape. -/
def needsEscape (c : Char) : Bool :=
  (c.toNat < 0x20 && c != '\t' && c != '\n') || c.toNat == 0x7F

/-- One character between quotation marks, apart from these. -/
def escapedChar (manyLines : Bool) (c : Char) : List Char :=
  if c = '\x08' then ['\\', 'b']
  else if c = '\t' then ['\\', 't']
  else if c = '\n' then (if manyLines then ['\n'] else ['\\', 'n'])
  else if c = '\x0c' then ['\\', 'f']
  else if c = '\r' then ['\\', 'r']
  else if c = '\\' then ['\\', '\\']
  else if needsEscape c then
    ['\\', 'u', '0', '0', Char.toUpper (c.toNat / 16).digitChar,
      Char.toUpper (c.toNat % 16).digitChar]
  else [c]

/-- The inside of a text in quotation marks. A quotation mark is escaped once `plainMarks` of
them stand unescaped before it. -/
def escapedText (manyLines : Bool) (plainMarks : Nat) : (run : Nat) → List Char → List Char
  | _, [] => []
  | run, c :: s =>
    if c = '\x22' then
      if run < plainMarks then c :: escapedText manyLines plainMarks (run + 1) s
      else '\\' :: c :: escapedText manyLines plainMarks 0 s
    else escapedChar manyLines c ++ escapedText manyLines plainMarks 0 s

/-- A text between marks. A text of several lines starts on a line of its own. -/
def between (mark : List Char) (lineFirst : Bool) (s : List Char) : List Char :=
  mark ++ (if lineFirst then ['\n'] else []) ++ s ++ mark

/-- The characters of a text value. -/
def textChars (s : List Char) : List Char :=
  let lines := s.contains '\n'
  let escapes := s.any needsEscape
  let backslash := s.contains '\\'
  let doubles := longestRun '\x22' s
  let singles := longestRun '\x27' s
  let basic := between ['\x22'] false (escapedText false 0 0 s)
  let longBasic := between ['\x22', '\x22', '\x22'] lines (escapedText true 2 0 s)
  if !escapes && !backslash && doubles == 0 && !lines then basic
  else if !escapes && singles == 0 && !lines then between ['\x27'] false s
  else if !escapes && !backslash && doubles ≤ 2 then longBasic
  else if !escapes && singles ≤ 2 then between ['\x27', '\x27', '\x27'] lines s
  else if lines then longBasic
  else basic

/-- A text value. -/
def stringText (s : String) : String := String.ofList (textChars s.toList)

/-- A key: bare if its characters allow it. -/
def keyText (name : String) : String :=
  let s := name.toList
  let escapes := s.any fun c => needsEscape c || c == '\n'
  let bare := s.all fun c => c.isAlphanum || c == '_' || c == '-'
  if !s.isEmpty && bare then name
  else if !escapes && !s.contains '\\' && !s.contains '\x22' then
    String.ofList (between ['\x22'] false (escapedText false 0 0 s))
  else if !escapes && !s.contains '\x27' then String.ofList (between ['\x27'] false s)
  else String.ofList (between ['\x22'] false (escapedText false 0 0 s))

/-- A dotted key. -/
def pathText (path : List String) : String := ".".intercalate (path.map keyText)

/-- How doubles are written. -/
def numberStyle : Style where
  positional := fun _ => true
  wholeFraction := ".0"
  undefined := "nan"
  infinite := "inf"

/-- One item of an array that takes several lines. -/
def itemLine (t : String) : String := "    " ++ t ++ ",\n"

mutual
/-- The text of a value; `none` if it has none, as null and integers beyond 64 bits. -/
def valueText? : Json → Option String
  | .null => none
  | .bool b => some (if b then "true" else "false")
  | .int n => if Json.minInt ≤ n ∧ n ≤ Int64.maxValue.toInt then some (intText n) else none
  | .real x => some (numberStyle.write x)
  | .str s => some (stringText s)
  | .arr [] => some "[]"
  | .arr [x] => (valueText? x).map fun t => "[" ++ t ++ "]"
  | .arr (x :: y :: xs) => do
    return "[\n" ++ itemLine (← valueText? x) ++ itemLine (← valueText? y) ++
      (← itemLines? xs) ++ "]"
  | .obj ms => (inlineMembers? ms).map fun ts =>
    if ts.isEmpty then "\x7b\x7d" else "\x7b " ++ ", ".intercalate ts ++ " \x7d"

/-- The lines of the items of an array. -/
def itemLines? : List Json → Option String
  | [] => some ""
  | x :: xs => do return itemLine (← valueText? x) ++ (← itemLines? xs)

/-- The texts of the members of an inline table. -/
def inlineMembers? : List (String × Json) → Option (List String)
  | [] => some []
  | (_, .null) :: ms => inlineMembers? ms
  | (k, v) :: ms => do return (keyText k ++ " = " ++ (← valueText? v)) :: (← inlineMembers? ms)
end

/-- The lines of the values of a table, those that are tables themselves left out. -/
def body? : List (String × Json) → Option String
  | [] => some ""
  | (_, .null) :: ms | (_, .obj _) :: ms => body? ms
  | (k, v) :: ms => do return keyText k ++ " = " ++ (← valueText? v) ++ "\n" ++ (← body? ms)

/-- Whether a value is null. -/
def isNull : Json → Bool
  | .null => true
  | _ => false

mutual
/-- The sections of a table at the given path. -/
def sections? (path : List String) : Json → Option (List String)
  | .obj ms => do
    let body ← body? ms
    let below ← sectionsBelow? path ms
    let header := if path.isEmpty then "" else "[" ++ pathText path ++ "]\n"
    return (if !body.isEmpty then [header ++ body]
      else if ms.all fun m => isNull m.2 then [header] else []) ++ below
  | _ => some []

/-- The sections of the tables among some members. -/
def sectionsBelow? (path : List String) : List (String × Json) → Option (List String)
  | [] => some []
  | (k, v) :: ms => do return (← sections? (path ++ [k]) v) ++ (← sectionsBelow? path ms)
end

/-- **The text of a document**, a blank line between its sections. -/
def write? (j : Json) : Option String := (sections? [] j).map fun ts => "\n".intercalate ts

end PartSourcing.Toml
