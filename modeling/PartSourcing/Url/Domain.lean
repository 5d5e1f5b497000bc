import PartSourcing.Url.DomainTable
import PartSourcing.Url.Form
import PartSourcing.Url.Label
import PartSourcing.Url.Punycode

/-!
# Domain names

A domain name is compared and sent in one spelling. Its characters are replaced as the spelling
tables say and brought into composed form; what is then a dot separates labels. A label of
ASCII alone is sent as it is, any other in its Punycode form after `xn--`. A label that comes
in that form must be the one that its own meaning is sent as.
-/

namespace PartSourcing.Url.Domain

open PartSourcing.Text DomainTable

/-- An ASCII character that no domain name holds. -/
def isForbidden (c : Char) : Bool :=
  let n := c.toNat
  n ≤ 0x20 || n == 0x7F ||
    ['#', '%', '/', ':', '<', '>', '?', '@', '[', '\\', ']', '^', '|'].contains c

/-- The spelling of one character, if a name may hold it. -/
def spelled? (c : Char) : Option (List Char) :=
  let n := c.toNat
  if n < 0x80 then some [c.toLower]
  else if CaseTable.within refused n then none
  else if CaseTable.within dropped n then some []
  else if CaseTable.within kept n then some [c]
  else
    match CaseTable.mapping replacedSequences replacedRows n with
    | [d] => if d = c then some (lowerChar c) else some [d]
    | ds => some ds

/-- **The spelling of a name**, if it may hold all its characters. -/
def spelling? (s : List Char) : Option (List Char) :=
  (s.mapM spelled?).map fun ds => Composition.composed ds.flatten

/-- The mark of a label in Punycode form. -/
def mark : List Char := ['x', 'n', '-', '-']

/-- Whether all characters are ASCII. -/
def isAscii (s : List Char) : Bool := s.all fun c => c.toNat < 0x80

/-- A label as it is sent. -/
def encodeLabel (s : List Char) : List Char :=
  if isAscii s then s else mark ++ Punycode.encode s

/-- What a label means: itself, or what its Punycode form stands for. -/
def meaning? (s : List Char) : Option (List Char) :=
  if s.take mark.length = mark then
    (Punycode.decode? (s.drop mark.length)).filter fun t => !isAscii t && spelling? t == some t
  else some s

/-- **The name as it is sent**, if it is one. -/
def toAscii? (s : List Char) : Option (List Char) := do
  let name ← spelling? s
  let labels ← (Text.pieces (· == '.') name).mapM meaning?
  guard (!labels.any (·.any isForbidden))
  guard (labels.all fun t => isAscii t || Label.isWellFormed t)
  guard (Label.goTogether labels)
  return ['.'].intercalate (labels.map encodeLabel)

end PartSourcing.Url.Domain
