/-!
# JSON values

A value as it is read: the members of an object stay in their order, and a name may stand
twice. `settle` applies the rule of general values, that the last member of a name counts;
records read from a provider's text refuse a repeated field instead, which is why reading
itself does not decide.

A number is an integer when it is written as one and fits in 64 bits, signed or unsigned, and
a double otherwise. The two are kept apart because an integer field takes only the former.
-/

namespace PartSourcing

/-- A JSON value. -/
inductive Json where
  | null
  | bool (b : Bool)
  | int (n : Int)
  | real (x : Float)
  | str (s : String)
  | arr (items : List Json)
  | obj (members : List (String × Json))
  deriving Inhabited

namespace Json

/-- The greatest integer that is read as one. -/
def maxInt : Nat := UInt64.size - 1

/-- The least integer that is read as one. -/
def minInt : Int := Int64.minValue.toInt

/-- The members of an object, or none for any other value. -/
def members : Json → List (String × Json)
  | .obj ms => ms
  | _ => []

/-- The member of the given name. -/
def get? (j : Json) (name : String) : Option Json := j.members.lookup name

/-- The items of an array. -/
def items? : Json → Option (List Json)
  | .arr xs => some xs
  | _ => none

/-- The text of a string. -/
def text? : Json → Option String
  | .str s => some s
  | _ => none

/-- The members of which no later one has the same name. -/
def lastMembers : List (String × Json) → List (String × Json)
  | [] => []
  | m :: ms => if ms.any (·.1 == m.1) then lastMembers ms else m :: lastMembers ms

mutual
/-- **The value with every repeated member resolved** in favour of the last one. -/
def settle : Json → Json
  | .arr xs => .arr (settleItems xs)
  | .obj ms => .obj (lastMembers (settleMembers ms))
  | j => j

/-- `settle` for every item. -/
def settleItems : List Json → List Json
  | [] => []
  | x :: xs => settle x :: settleItems xs

/-- `settle` for the value of every member. -/
def settleMembers : List (String × Json) → List (String × Json)
  | [] => []
  | (k, v) :: ms => (k, settle v) :: settleMembers ms
end

/-- A value, or null. -/
def ofOption (f : α → Json) : Option α → Json
  | some a => f a
  | none => .null

/-- A natural number. -/
def nat (n : Nat) : Json := .int n

end Json

end PartSourcing
