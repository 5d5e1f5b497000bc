import PartSourcing.Decimal.Digits
import PartSourcing.Url.Form

/-!
# Numeric addresses

IPv4 addresses as people write them, with one to four numbers in decimal, octal or hexadecimal
of which the last fills what is left, and IPv6 addresses in groups of four hexadecimal digits
with at most one gap. Each is written in one way only.
-/

namespace PartSourcing.Url

open PartSourcing.Decimal

/-- The value of a run of digits in the given base, read after the value `v`. -/
def digitsIn (base v : Nat) : List Char → Option Nat
  | [] => some v
  | c :: cs =>
    match hexValue? c with
    | some d => if d < base then digitsIn base (v * base + d) cs else none
    | none => none

/-- One number of an IPv4 address: `0x` starts a hexadecimal one, another zero an octal one. -/
def ipv4Number? : List Char → Option Nat
  | [] => none
  | '0' :: 'x' :: ds | '0' :: 'X' :: ds => digitsIn 16 0 ds
  | '0' :: d :: ds => digitsIn 8 0 (d :: ds)
  | ds => digitsIn 10 0 ds

/-- The pieces of a name between its dots, without the empty one after a dot at the end. -/
def dotParts (s : List Char) : List (List Char) :=
  let parts := Text.pieces (· == '.') s
  if 1 < parts.length ∧ parts.getLast? = some [] then parts.dropLast else parts

/-- **Whether a name must be an IPv4 address**, which its last piece decides. -/
def endsInNumber (s : List Char) : Bool :=
  match (dotParts s).getLast? with
  | some part => (!part.isEmpty && part.all Char.isDigit) || (ipv4Number? part).isSome
  | none => false

/-- The address of so many bits that the numbers give: the last one fills what is left. -/
def ipv4Of? : (bits : Nat) → List Nat → Option Nat
  | _, [] => none
  | bits, [n] => if n < Nat.pow 2 bits then some n else none
  | bits, n :: ns =>
    if n < 256 ∧ 8 < bits then
      (ipv4Of? (bits - 8) ns).map fun rest => n * Nat.pow 2 (bits - 8) + rest
    else none

/-- **Reads an IPv4 address.** -/
def ipv4? (s : List Char) : Option UInt32 := do
  let numbers ← (dotParts s).mapM ipv4Number?
  guard (numbers.length ≤ 4)
  (ipv4Of? 32 numbers).map UInt32.ofNat

/-- The text of an IPv4 address. -/
def ipv4Text (a : UInt32) : String :=
  let octet (shift : UInt32) : String := natText ((a >>> shift) % 256).toNat
  ".".intercalate [octet 24, octet 16, octet 8, octet 0]

/-- One group of an IPv6 address. -/
def group? (s : List Char) : Option Nat :=
  if 1 ≤ s.length ∧ s.length ≤ 4 then digitsIn 16 0 s else none

/-- One number of the IPv4 form at the end of an IPv6 address: decimal, without leading
zeros. -/
def octet? (s : List Char) : Option Nat :=
  match s with
  | '0' :: _ :: _ => none
  | s => (nat? s).filter (· < 256)

/-- The last groups of an IPv6 address: one group, or two from an IPv4 form. -/
def lastGroups? (s : List Char) : Option (List Nat) :=
  if s.contains '.' then do
    match ← (Text.pieces (· == '.') s).mapM octet? with
    | [a, b, c, d] => return [a * 256 + b, c * 256 + d]
    | _ => none
  else (group? s).map ([·])

/-- The groups between colons; the empty text has none. -/
def groups? (s : List Char) : Option (List Nat) :=
  if s.isEmpty then some []
  else do
    let parts := Text.pieces (· == ':') s
    let front ← parts.dropLast.mapM group?
    let back ← parts.getLast?.bind lastGroups?
    return front ++ back

/-- The text before and after the first `::`. -/
def splitGap? : List Char → Option (List Char × List Char)
  | ':' :: ':' :: rest => some ([], rest)
  | c :: rest => (splitGap? rest).map fun (a, b) => (c :: a, b)
  | [] => none

/-- **Reads an IPv6 address** into its eight groups. A gap stands for at least one group of
zero, and an IPv4 form may only come last. -/
def ipv6? (s : List Char) : Option (List Nat) :=
  match splitGap? s with
  | none => (groups? s).filter (·.length == 8)
  | some (front, back) => do
    guard (!front.contains '.')
    let a ← groups? front
    let b ← groups? back
    guard (a.length + b.length ≤ 7)
    return a ++ List.replicate (8 - a.length - b.length) 0 ++ b

/-- The length of the run of zeros at the start. -/
def zeroRun (groups : List Nat) : Nat := (groups.takeWhile (· == 0)).length

/-- The start and length of the first longest run of zeros from position `i` on, if it is
longer than the one already known. -/
def longestZeros (best : Nat × Nat) (i : Nat) : List Nat → Nat × Nat
  | [] => best
  | g :: gs =>
    let n := zeroRun (g :: gs)
    longestZeros (if best.2 < n then (i, n) else best) (i + 1) gs

/-- The text of groups with colons between them. -/
def groupsText (gs : List Nat) : String :=
  ":".intercalate (gs.map fun g => String.ofList (Nat.toDigits 16 g))

/-- **The text of an IPv6 address.** The first longest run of at least two zeros is a gap. -/
def ipv6Text (gs : List Nat) : String :=
  let (start, n) := longestZeros (0, 0) 0 gs
  if n < 2 then groupsText gs
  else groupsText (gs.take start) ++ "::" ++ groupsText (gs.drop (start + n))

end PartSourcing.Url
