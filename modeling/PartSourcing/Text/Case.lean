import PartSourcing.Text.CaseTable

/-!
# Upper and lower case

The full case mappings of Unicode: one character may become several (`ß` is `SS` in upper
case), and the lower case of a capital sigma depends on what surrounds it. ASCII is mapped by
arithmetic; everything else is looked up in the rows of `Text.CaseTable`.
-/

namespace PartSourcing.Text

namespace CaseTable

/-- Whether the row speaks of this code point. -/
def Row.covers (r : Row) (n : Nat) : Bool :=
  r.first ≤ n && n ≤ r.last && (n - r.first) % r.step == 0

/-- The code point that the first covering row assigns, or the code point itself. -/
def shifted (rows : List Row) (n : Nat) : Nat :=
  match rows.find? (·.covers n) with
  | some r => (Int.ofNat n + r.shift).toNat
  | none => n

/-- The mapping of one code point: a listed sequence, or else the shifted code point. -/
def mapping (sequences : List (Nat × List Nat)) (rows : List Row) (n : Nat) : List Char :=
  match sequences.lookup n with
  | some ns => ns.map Char.ofNat
  | none => [Char.ofNat (shifted rows n)]

/-- Whether some run holds the code point. -/
def within (runs : List (Nat × Nat)) (n : Nat) : Bool :=
  runs.any fun (lo, hi) => lo ≤ n && n ≤ hi

end CaseTable

/-- The upper case of one character. -/
def upperChar (c : Char) : List Char :=
  if c.toNat < 0x80 then [c.toUpper]
  else CaseTable.mapping CaseTable.upperSequences CaseTable.upperRows c.toNat

/-- The lower case of one character that stands alone. -/
def lowerChar (c : Char) : List Char :=
  if c.toNat < 0x80 then [c.toLower]
  else CaseTable.mapping CaseTable.lowerSequences CaseTable.lowerRows c.toNat

/-- A character that is looked through when a sigma's surroundings are read. -/
def isCaseIgnorable (c : Char) : Bool := CaseTable.within CaseTable.ignorable c.toNat

/-- A letter that has case. -/
def isCased (c : Char) : Bool :=
  if c.toNat < 0x80 then c.isAlpha else CaseTable.within CaseTable.cased c.toNat

/-- Whether a cased letter stands next, ignorable characters aside. -/
def meetsCased (s : List Char) : Bool :=
  match s.dropWhile isCaseIgnorable with
  | c :: _ => isCased c
  | [] => false

/-- Lower case from left to right; `before` holds what has been read, nearest first. A capital
sigma after a cased letter and before none is a final one. -/
def lowerFrom (before : List Char) : List Char → List Char
  | [] => []
  | c :: rest =>
    let mapped :=
      if c = 'Σ' then
        if meetsCased before && !meetsCased rest then ['ς'] else ['σ']
      else lowerChar c
    mapped ++ lowerFrom (c :: before) rest

/-- The upper case of a text. -/
def upperChars (s : List Char) : List Char := s.flatMap upperChar

/-- The lower case of a text. -/
def lowerChars (s : List Char) : List Char := lowerFrom [] s

/-- The upper case of a text. -/
def upper (s : String) : String := String.ofList (upperChars s.toList)

/-- The lower case of a text. -/
def lower (s : String) : String := String.ofList (lowerChars s.toList)

/-- Lower case in ASCII only; every other character stays. -/
def asciiLower (s : String) : String := String.ofList (s.toList.map Char.toLower)

/-- Upper case in ASCII only; every other character stays. -/
def asciiUpper (s : String) : String := String.ofList (s.toList.map Char.toUpper)

/-- Equality up to ASCII case. -/
def sameAsciiCase (s t : String) : Bool := asciiLower s == asciiLower t

theorem upperChars_append (s t : List Char) :
    upperChars (s ++ t) = upperChars s ++ upperChars t := by
  simp [upperChars]

@[simp] theorem toList_upper (s : String) : (upper s).toList = upperChars s.toList := by
  simp [upper]

@[simp] theorem toList_lower (s : String) : (lower s).toList = lowerChars s.toList := by
  simp [lower]

end PartSourcing.Text
