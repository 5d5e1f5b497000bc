/-!
# Octets and characters

Encoding to UTF-8 and a decoding that never fails: the longest start of a character that
cannot be completed is shown as one replacement character, and reading resumes at the octet
that broke it. The decoder keeps at most one unfinished character, so it is a recursion on the
octets.
-/

namespace PartSourcing.Text

/-- The octets of a text. -/
def utf8 (s : List Char) : List UInt8 := s.flatMap String.utf8EncodeChar

/-- A character of which some octets have been read: its bits so far, how many octets it still
lacks, and the range that the next one must lie in. -/
structure Unfinished where
  bits : Nat
  lacking : Nat
  low : UInt8
  high : UInt8
  deriving DecidableEq

/-- What a first octet may start. -/
inductive Opening where
  | complete (c : Char)
  | unfinished (u : Unfinished)
  | broken

/-- What the given octet starts. Overlong forms, surrogates and code points beyond the last
one are excluded by the range of the second octet. -/
def Opening.of (b : UInt8) : Opening :=
  let n := b.toNat
  if n < 0x80 then .complete (Char.ofNat n)
  else if n < 0xC2 then .broken
  else if n < 0xE0 then .unfinished ⟨n - 0xC0, 1, 0x80, 0xBF⟩
  else if n = 0xE0 then .unfinished ⟨0, 2, 0xA0, 0xBF⟩
  else if n = 0xED then .unfinished ⟨0xD, 2, 0x80, 0x9F⟩
  else if n < 0xF0 then .unfinished ⟨n - 0xE0, 2, 0x80, 0xBF⟩
  else if n = 0xF0 then .unfinished ⟨0, 3, 0x90, 0xBF⟩
  else if n < 0xF4 then .unfinished ⟨n - 0xF0, 3, 0x80, 0xBF⟩
  else if n = 0xF4 then .unfinished ⟨4, 3, 0x80, 0x8F⟩
  else .broken

/-- The character that stands for octets which are none. -/
def replacement : Char := '\uFFFD'

/-- Decodes octets, continuing an unfinished character if there is one. -/
def decodeFrom : Option Unfinished → List UInt8 → List Char
  | none, [] => []
  | some _, [] => [replacement]
  | none, b :: bs => start b bs
  | some u, b :: bs =>
    if u.low ≤ b && b ≤ u.high then
      let bits := u.bits * 64 + (b.toNat - 0x80)
      if u.lacking ≤ 1 then Char.ofNat bits :: decodeFrom none bs
      else decodeFrom (some ⟨bits, u.lacking - 1, 0x80, 0xBF⟩) bs
    else replacement :: start b bs
where
  /-- Decodes from an octet that starts a character. -/
  start (b : UInt8) (bs : List UInt8) : List Char :=
    match Opening.of b with
    | .complete c => c :: decodeFrom none bs
    | .unfinished u => decodeFrom (some u) bs
    | .broken => replacement :: decodeFrom none bs

/-- **The characters of a run of octets**, whatever the octets are. -/
def decodeUtf8 (bytes : List UInt8) : List Char := decodeFrom none bytes

end PartSourcing.Text
