import PartSourcing.Text.Utf8

/-!
# Percent escapes

An octet that a place in a URL cannot hold is written `%XX`. Which characters must be escaped
depends on the place, so there is a class of them for each; a character beyond ASCII is always
escaped, octet by octet of its UTF-8 form.
-/

namespace PartSourcing.Url

open PartSourcing.Text

/-- A hexadecimal digit in upper case. -/
def hexDigit (n : Nat) : Char := if n < 10 then Char.ofNat (48 + n) else Char.ofNat (55 + n)

/-- The value of a hexadecimal digit in either case. -/
def hexValue? (c : Char) : Option Nat :=
  if c.isDigit then some (c.toNat - 48)
  else if 'a' ≤ c ∧ c ≤ 'f' then some (c.toNat - 87)
  else if 'A' ≤ c ∧ c ≤ 'F' then some (c.toNat - 55)
  else none

/-- The escape of an octet. -/
def escapeOctet (b : UInt8) : List Char := ['%', hexDigit (b.toNat / 16), hexDigit (b.toNat % 16)]

/-- A character, escaped if the given class has it. -/
def escapeChar (bad : Char → Bool) (c : Char) : List Char :=
  if bad c then (utf8 [c]).flatMap escapeOctet else [c]

/-- **A text with the characters of the given class escaped.** -/
def escape (bad : Char → Bool) (s : List Char) : List Char := s.flatMap (escapeChar bad)

/-- **The octets of a text with escapes.** A percent sign that starts no escape stands for
itself. -/
def unescape : List Char → List UInt8
  | '%' :: a :: b :: rest =>
    match hexValue? a, hexValue? b with
    | some h, some l => UInt8.ofNat (16 * h + l) :: unescape rest
    | _, _ => utf8 ['%'] ++ unescape (a :: b :: rest)
  | c :: rest => utf8 [c] ++ unescape rest
  | [] => []

/-- Control characters and whatever is beyond ASCII. -/
def inControls (c : Char) : Bool := c.toNat < 0x20 || 0x7E < c.toNat

/-- What is escaped in a fragment. -/
def inFragment (c : Char) : Bool := inControls c || [' ', '\x22', '<', '>', '\x60'].contains c

/-- What is escaped in a path. -/
def inPath (c : Char) : Bool := inFragment c || ['#', '?', '\x7b', '\x7d'].contains c

/-- What is escaped in one segment of a path that is given as such. -/
def inSegment (c : Char) : Bool := inPath c || ['/', '%', '\\'].contains c

/-- What is escaped in a user name or password. -/
def inUserInfo (c : Char) : Bool :=
  inPath c || ['/', ':', ';', '=', '@', '[', '\\', ']', '^', '|'].contains c

/-- What is escaped in a query. -/
def inQuery (c : Char) : Bool := inControls c || [' ', '\x22', '#', '<', '>'].contains c

/-- What is escaped in a query of a URL with a special scheme. -/
def inSpecialQuery (c : Char) : Bool := inQuery c || c == '\x27'

end PartSourcing.Url
