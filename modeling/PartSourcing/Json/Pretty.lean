import PartSourcing.Json.Writer

/-!
# Writing JSON for people

The indented form: one item or member to a line, two blanks for each level, and empty arrays
and objects without a line of their own.
-/

namespace PartSourcing.Json

/-- The blanks at the start of a line. -/
def indent (level : Nat) : String := String.ofList (List.replicate (2 * level) ' ')

mutual
/-- The indented text of a value that stands at the given level. -/
def prettyAt (level : Nat) : Json → String
  | .arr (x :: xs) =>
    "[\n" ++ indent (level + 1) ++ prettyAt (level + 1) x ++ prettyItems (level + 1) xs ++ "\n" ++
      indent level ++ "]"
  | .obj ((k, v) :: ms) =>
    "\x7b\n" ++ indent (level + 1) ++ stringText k ++ ": " ++ prettyAt (level + 1) v ++
      prettyMembers (level + 1) ms ++ "\n" ++ indent level ++ "\x7d"
  | .arr [] => "[]"
  | .obj [] => "\x7b\x7d"
  | .null => write .null
  | .bool b => write (.bool b)
  | .int n => write (.int n)
  | .real x => write (.real x)
  | .str s => write (.str s)

/-- Every further item on a line of its own. -/
def prettyItems (level : Nat) : List Json → String
  | [] => ""
  | x :: xs => ",\n" ++ indent level ++ prettyAt level x ++ prettyItems level xs

/-- Every further member on a line of its own. -/
def prettyMembers (level : Nat) : List (String × Json) → String
  | [] => ""
  | (k, v) :: ms =>
    ",\n" ++ indent level ++ stringText k ++ ": " ++ prettyAt level v ++ prettyMembers level ms
end

/-- **The indented text of a value.** -/
def pretty (j : Json) : String := prettyAt 0 j

end PartSourcing.Json
