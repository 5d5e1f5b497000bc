/-!
# Punycode

A label of a domain name written with letters, digits and hyphens only. The characters that are
of that kind come first; the others follow as insertions in the order of their code points,
each as the distance from the insertion before it, in a number system of base 36 whose digit
thresholds adapt to the size of the distances.

Distances and code points are kept below `2 ^ 32`, as the format demands.
-/

namespace PartSourcing.Url.Punycode

/-- The greatest value that is worked with. -/
def limit : Nat := UInt32.size

/-- The code point at which insertions start. -/
def firstCodePoint : Nat := 128

/-- The bias at which adaptation starts. -/
def firstBias : Nat := 72

/-- The digit of a value below 36: letters, then digits. -/
def digit (n : Nat) : Char := if n < 26 then Char.ofNat (97 + n) else Char.ofNat (22 + n)

/-- The value of a digit, letters being read in either case. -/
def value? (c : Char) : Option Nat :=
  if 'a' ≤ c ∧ c ≤ 'z' then some (c.toNat - 97)
  else if 'A' ≤ c ∧ c ≤ 'Z' then some (c.toNat - 65)
  else if c.isDigit then some (c.toNat - 22)
  else none

/-- The threshold of the digit at position `k`, counted in steps of 36 from 36. -/
def threshold (k bias : Nat) : Nat := min 26 (max 1 (k - bias))

/-- Halves a distance by steps of 35 until it is small, counting the steps. -/
def shrink (delta k : Nat) : Nat × Nat :=
  if 455 < delta then shrink (delta / 35) (k + 36) else (delta, k)
termination_by delta
decreasing_by omega

/-- The bias after a distance, when so many characters are in place. -/
def adapt (delta points : Nat) (first : Bool) : Nat :=
  let delta := if first then delta / 700 else delta / 2
  let (delta, k) := shrink (delta + delta / points) 0
  k + 36 * delta / (delta + 38)

/-- The digits of a distance. -/
def number (bias k q : Nat) : List Char :=
  let t := threshold k bias
  if h : q < t then [digit q]
  else digit (t + (q - t) % (36 - t)) :: number bias (k + 36) ((q - t) / (36 - t))
termination_by q
decreasing_by
  have ht : 1 ≤ threshold k bias := by unfold threshold; omega
  have hlt : (q - threshold k bias) / (36 - threshold k bias) ≤ q - threshold k bias :=
    Nat.div_le_self _ _
  omega

/-- Where an encoder stands: the code point and distance reached, the bias, and how many
characters are in place. -/
structure Progress where
  codePoint : Nat := firstCodePoint
  delta : Nat := 0
  bias : Nat := firstBias
  placed : Nat
  basic : Nat

/-- Goes through the text once for the code point of `p`, writing a distance for each
occurrence. -/
def sweep (n : Nat) : List Nat → Progress → List Char × Progress
  | [], p => ([], p)
  | c :: cs, p =>
    if c < n then sweep n cs { p with delta := p.delta + 1 }
    else if c = n then
      let ds := number p.bias 36 p.delta
      let p' := { p with
        delta := 0
        bias := adapt p.delta (p.placed + 1) (p.placed == p.basic)
        placed := p.placed + 1 }
      let (rest, q) := sweep n cs p'
      (ds ++ rest, q)
    else sweep n cs p

/-- Writes the insertions for each of the given code points, in rising order. -/
def insertions (text : List Nat) : List Nat → Progress → List Char
  | [], _ => []
  | n :: ns, p =>
    let delta := p.delta + (n - p.codePoint) * (p.placed + 1)
    let (ds, q) := sweep n text { p with delta }
    ds ++ insertions text ns { q with codePoint := n + 1, delta := q.delta + 1 }

/-- The list without neighbours that are equal. -/
def distinct : List Nat → List Nat
  | a :: b :: rest => if a = b then distinct (b :: rest) else a :: distinct (b :: rest)
  | s => s

/-- **The encoding of a label.** -/
def encode (s : List Char) : List Char :=
  let basic := s.filter fun c => c.toNat < firstCodePoint
  let text := s.map Char.toNat
  let others := distinct ((text.filter (firstCodePoint ≤ ·)).mergeSort)
  basic ++ (if basic.isEmpty then [] else ['-']) ++
    insertions text others { placed := basic.length, basic := basic.length }

/-- Reads one distance: the sum of digits times weights up to the digit below its threshold. -/
def distance? (bias : Nat) : (k weight sum : Nat) → List Char → Option (Nat × List Char)
  | _, _, _, [] => none
  | k, weight, sum, c :: cs =>
    match value? c with
    | none => none
    | some d =>
      let sum := sum + d * weight
      if limit ≤ sum then none
      else
        let t := threshold k bias
        if d < t then some (sum, cs)
        else if limit ≤ weight * (36 - t) then none
        else distance? bias (k + 36) (weight * (36 - t)) sum cs

/-- Reads insertions into the characters in place; `left` bounds their number. -/
def decodeFrom : (left : Nat) → List Char → (placed : List Nat) → (codePoint index bias : Nat) →
    (first : Bool) → Option (List Nat)
  | _, [], placed, _, _, _, _ => some placed
  | 0, _ :: _, _, _, _, _, _ => none
  | left + 1, c :: cs, placed, n, i, bias, first =>
    match distance? bias 36 1 0 (c :: cs) with
    | none => none
    | some (delta, rest) =>
      let count := placed.length + 1
      let i := i + delta
      let n := n + i / count
      let i := i % count
      if n.isValidChar then
        decodeFrom left rest (placed.take i ++ n :: placed.drop i) n (i + 1)
          (adapt delta count first) false
      else none

/-- **The label that an encoding stands for**, if it stands for one. -/
def decode? (s : List Char) : Option (List Char) :=
  let tail := (s.reverse.takeWhile (· != '-')).reverse
  let hasHyphen := tail.length < s.length
  let basic := if hasHyphen then s.take (s.length - tail.length - 1) else []
  if basic.all fun c => c.toNat < firstCodePoint then
    (decodeFrom s.length tail (basic.map Char.toNat) firstCodePoint 0 firstBias true).map
      fun ns => ns.map Char.ofNat
  else none

end PartSourcing.Url.Punycode
