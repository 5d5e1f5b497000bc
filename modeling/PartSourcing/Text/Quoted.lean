import PartSourcing.Text.HiddenTable

/-!
# Quoted text in messages

A message that names a text supplied by someone else shows it between quotation marks, with
everything that could be mistaken for the frame, or that cannot be seen, spelled out.
-/

namespace PartSourcing.Text

/-- Whether a character is shown by its number. -/
def isHidden (c : Char) : Bool :=
  let n := c.toNat
  if n < 0x80 then n < 0x20 || n == 0x7F
  else HiddenTable.runs.any fun (lo, hi) => lo ≤ n && n ≤ hi

/-- One character as it stands between the quotation marks. -/
def quotedChar (c : Char) : List Char :=
  if c = '\x00' then ['\\', '0']
  else if c = '\t' then ['\\', 't']
  else if c = '\r' then ['\\', 'r']
  else if c = '\n' then ['\\', 'n']
  else if c = '\\' then ['\\', '\\']
  else if c = '\x22' then ['\\', '\x22']
  else if isHidden c then ['\\', 'u', '\x7b'] ++ Nat.toDigits 16 c.toNat ++ ['\x7d']
  else [c]

/-- **A text in quotation marks.** -/
def quoted (s : String) : String :=
  String.ofList ('\x22' :: s.toList.flatMap quotedChar ++ ['\x22'])

end PartSourcing.Text
