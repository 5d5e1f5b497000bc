/-!
# Identifiers of searches

A search is named by 128 bits. Four written forms are read: 32 hexadecimal digits in a row,
the same in five groups with hyphens between them, and the hyphened form in braces or after
`urn:uuid:`. One form is written, the hyphened one in lower case.
-/

namespace PartSourcing

/-- The identifier of a search. -/
structure SearchId where
  bits : BitVec 128
  deriving DecidableEq, Repr

namespace SearchId

/-- The identifier with no bit set. -/
def zero : SearchId := ⟨0⟩

/-- The value of one hexadecimal digit in either case. -/
def hexDigit? (c : Char) : Option Nat :=
  if c.isDigit then some (c.toNat - 48)
  else if 'a' ≤ c ∧ c ≤ 'f' then some (c.toNat - 87)
  else if 'A' ≤ c ∧ c ≤ 'F' then some (c.toNat - 55)
  else none

/-- The value of a run of hexadecimal digits, read after the value `v`. -/
def hexFrom (v : Nat) : List Char → Option Nat
  | [] => some v
  | c :: cs => (hexDigit? c).bind fun d => hexFrom (16 * v + d) cs

/-- The digits of the grouped form, if its hyphens stand where they must. -/
def ungroup? (s : List Char) : Option (List Char) :=
  if s.length = 36 ∧ s[8]? = some '-' ∧ s[13]? = some '-' ∧ s[18]? = some '-' ∧
      s[23]? = some '-' then
    some (s.take 8 ++ (s.drop 9).take 4 ++ (s.drop 14).take 4 ++ (s.drop 19).take 4 ++ s.drop 24)
  else none

/-- The hexadecimal digits of a written identifier. -/
def hexDigits? (s : List Char) : Option (List Char) :=
  if s.length = 32 then some s
  else if s.length = 38 ∧ s.head? = some '\x7b' ∧ s.getLast? = some '\x7d' then
    ungroup? ((s.drop 1).take 36)
  else if s.length = 45 ∧ s.take 9 = ['u', 'r', 'n', ':', 'u', 'u', 'i', 'd', ':'] then
    ungroup? (s.drop 9)
  else ungroup? s

/-- **Reads an identifier** in any of its forms. -/
def parse? (s : String) : Option SearchId :=
  (hexDigits? s.toList).bind fun ds => (hexFrom 0 ds).map fun n => ⟨BitVec.ofNat 128 n⟩

/-- The given number of hexadecimal digits of a natural, the last ones. -/
def hexText : (count : Nat) → Nat → List Char
  | 0, _ => []
  | k + 1, n => hexText k (n / 16) ++ [(n % 16).digitChar]

/-- **The written form.** -/
def toText (id : SearchId) : String :=
  let ds := hexText 32 id.bits.toNat
  String.ofList (ds.take 8 ++ ['-'] ++ (ds.drop 8).take 4 ++ ['-'] ++ (ds.drop 12).take 4 ++
    ['-'] ++ (ds.drop 16).take 4 ++ ['-'] ++ ds.drop 20)

end SearchId

end PartSourcing
