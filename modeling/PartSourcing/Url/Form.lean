import PartSourcing.Text.Containment
import PartSourcing.Url.Percent

/-!
# Queries as lists of pairs

The form encoding of names and values: pairs are joined by `&`, a name and its value by `=`, a
blank is a plus sign, and everything but letters, digits and `*-._` is escaped.
-/

namespace PartSourcing.Url.Form

open PartSourcing.Text

/-- A name with its value. -/
abbrev Pair := List Char × List Char

/-- The text of a name or a value. Octets that are no text become replacement characters. -/
def decode (s : List Char) : List Char :=
  decodeUtf8 (unescape (s.map fun c => if c = '+' then ' ' else c))

/-- The pair in one piece of a query. Without an equals sign the value is empty. -/
def decodePair (s : List Char) : Pair :=
  (decode (s.takeWhile (· != '=')), decode ((s.dropWhile (· != '=')).drop 1))

/-- **The pairs of a query.** Empty pieces are none. -/
def decodePairs (query : List Char) : List Pair :=
  ((pieces (· == '&') query).filter fun s => !s.isEmpty).map decodePair

/-- Whether an octet stands for itself. -/
def isPlain (b : UInt8) : Bool :=
  let c := Char.ofNat b.toNat
  b < 0x80 && (c.isAlphanum || c == '*' || c == '-' || c == '.' || c == '_')

/-- One octet of a name or a value. -/
def encodeOctet (b : UInt8) : List Char :=
  if isPlain b then [Char.ofNat b.toNat]
  else if b = 0x20 then ['+']
  else escapeOctet b

/-- The encoding of a name or a value. -/
def encode (s : List Char) : List Char := (utf8 s).flatMap encodeOctet

/-- The encoding of a pair. -/
def encodePair (p : Pair) : List Char := encode p.1 ++ '=' :: encode p.2

/-- **The query with the given pairs.** -/
def encodePairs (ps : List Pair) : List Char := ['&'].intercalate (ps.map encodePair)

end PartSourcing.Url.Form
