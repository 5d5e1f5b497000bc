import PartSourcing.Text.CompositionTable

/-!
# Composed form

Many characters with marks can be written as one character or as a base followed by marks. In
composed form a text uses the fewest characters: it is taken apart completely, the marks behind
each base are brought into the order of their classes, and every mark that can join its base
does. Texts that only differ in this have the same composed form.
-/

namespace PartSourcing.Text.Composition

/-- The class of a character, which orders marks; a base has class zero. -/
def markClass (c : Char) : Nat :=
  match CompositionTable.classes.find? fun (lo, hi, _) => lo ≤ c.toNat && c.toNat ≤ hi with
  | some (_, _, k) => k
  | none => 0

/-! ### Syllables of Hangul

A syllable is a leading letter, a vowel and perhaps a trailing letter; syllables stand in the
order of these three. -/

/-- The first syllable, leading letter and vowel, and the place before the first trailing
letter. -/
def firstSyllable : Nat := 0xAC00

/-- See `firstSyllable`. -/
def firstLead : Nat := 0x1100

/-- See `firstSyllable`. -/
def firstVowel : Nat := 0x1161

/-- See `firstSyllable`. -/
def beforeTrail : Nat := 0x11A7

/-- How many leading letters there are. -/
def leads : Nat := 19

/-- How many vowels there are. -/
def vowels : Nat := 21

/-- How many endings there are, none being one. -/
def trails : Nat := 28

/-- The place of a syllable among all of them. -/
def syllable? (c : Char) : Option Nat :=
  let n := c.toNat
  if firstSyllable ≤ n ∧ n < firstSyllable + leads * vowels * trails then
    some (n - firstSyllable)
  else none

/-- The letters of the syllable at a place. -/
def letters (place : Nat) : List Char :=
  let lead := Char.ofNat (firstLead + place / (vowels * trails))
  let vowel := Char.ofNat (firstVowel + place / trails % vowels)
  if place % trails = 0 then [lead, vowel]
  else [lead, vowel, Char.ofNat (beforeTrail + place % trails)]

/-- The syllable of a leading letter and a vowel, or of a syllable and its ending. -/
def joinedSyllable? (a b : Char) : Option Char :=
  let m := a.toNat
  let n := b.toNat
  if firstLead ≤ m ∧ m < firstLead + leads ∧ firstVowel ≤ n ∧ n < firstVowel + vowels then
    some (Char.ofNat
      (firstSyllable + ((m - firstLead) * vowels + (n - firstVowel)) * trails))
  else
    match syllable? a with
    | some place =>
      if place % trails = 0 ∧ beforeTrail < n ∧ n < beforeTrail + trails then
        some (Char.ofNat (m + (n - beforeTrail)))
      else none
    | none => none

/-! ### Taking apart and putting together -/

/-- A character as what it is composed of, taken apart once. -/
def split (c : Char) : List Char :=
  if c.toNat < 0x80 then [c]
  else
    match syllable? c with
    | some place => letters place
    | none =>
      match CompositionTable.pairs.find? fun (_, _, whole) => whole == c.toNat with
      | some (a, b, _) => [Char.ofNat a, Char.ofNat b]
      | none => [c]

/-- A text taken apart completely. No character is composed of more than three marks and a
base, so three rounds suffice. -/
def apart (s : List Char) : List Char := ((s.flatMap split).flatMap split).flatMap split

/-- The composition of a character and one that follows it. -/
def joined? (a b : Char) : Option Char :=
  (joinedSyllable? a b).or
    ((CompositionTable.pairs.find? fun (m, n, _) => m == a.toNat && n == b.toNat).map
      fun (_, _, whole) => Char.ofNat whole)

/-- A character put before a text whose marks are in order, and moved behind the marks that go
before it. -/
def place (c : Char) : List Char → List Char
  | [] => [c]
  | d :: s =>
    if 0 < markClass d ∧ markClass d < markClass c then d :: place c s else c :: d :: s

/-- The text with its marks in the order of their classes. -/
def ordered : List Char → List Char
  | [] => []
  | c :: s => place c (ordered s)

/-- Joins what follows a base to it. `kept` are the marks that stay behind the base, last one
first; a mark joins the base unless one of its own class or a later one stays between. -/
def joinFrom (base : Char) (kept : List Char) : List Char → List Char
  | [] => base :: kept.reverse
  | c :: s =>
    let free := match kept with
      | [] => true
      | d :: _ => markClass d < markClass c
    match if free then joined? base c else none with
    | some whole => joinFrom whole kept s
    | none =>
      if markClass c = 0 then base :: kept.reverse ++ joinFrom c [] s
      else joinFrom base (c :: kept) s

/-- The text with every mark joined that can be. Marks before the first base stay. -/
def together : List Char → List Char
  | [] => []
  | c :: s => if markClass c = 0 then joinFrom c [] s else c :: together s

/-- **The composed form of a text.** -/
def composed (s : List Char) : List Char :=
  if s.all fun c => c.toNat < 0x300 then s else together (ordered (apart s))

end PartSourcing.Text.Composition
