import PartSourcing.Text.Case
import PartSourcing.Text.Composition
import PartSourcing.Url.LabelTable

/-!
# Labels of domain names

A domain name is a list of labels. A label with characters beyond ASCII must be one that can be
read: it does not start with a mark, invisible joiners stand only where they make a difference,
and where some label is written from right to left, no label of the name may leave open in
which order its characters appear.
-/

namespace PartSourcing.Url.Label

open PartSourcing.Text PartSourcing.Text.Composition LabelTable

/-- The value of the first run that holds a code point. -/
def classOf? (runs : List (Nat × Nat × α)) (c : Char) : Option α :=
  (runs.find? fun (lo, hi, _) => lo ≤ c.toNat && c.toNat ≤ hi).map fun (_, _, k) => k

/-- Whether a character is a mark. -/
def isMark (c : Char) : Bool := CaseTable.within marks c.toNat

/-- The direction of a character. -/
def direction (c : Char) : Direction :=
  if c.toNat < 0x80 then
    if c.isAlpha then .leftToRight else if c.isDigit then .europeanNumber else .neutral
  else (classOf? directions c).getD .leftToRight

/-! ### Joiners -/

/-- The class of the marks that silence a vowel. -/
def silencer : Nat := 9

/-- Whether the nearest letter that is not looked through joins in one of the given ways. -/
def meets (ways : List Joining) (s : List Char) : Bool :=
  match s.find? fun c => classOf? joinings c ≠ some .through with
  | some c => (classOf? joinings c).any ways.contains
  | none => false

/-- Whether all joiners are in place, `before` being what was read, nearest first. Both kinds
may follow a silencer; one that keeps letters apart may also stand between two that would
join. -/
def joinersFit (before : List Char) : List Char → Bool
  | [] => true
  | c :: s =>
    let silent := before.head?.any fun d => markClass d == silencer
    (if c = '\u200D' then silent
      else if c = '\u200C' then
        silent || (meets [.ahead, .both] before && meets [.back, .both] s)
      else true) && joinersFit (c :: before) s

/-- **Whether a label beyond ASCII is well formed**, whatever stands beside it. -/
def isWellFormed (s : List Char) : Bool := !(s.head?.any isMark) && joinersFit [] s

/-! ### Direction -/

/-- Whether some character of a label is written from right to left. -/
def hasRightToLeft (s : List Char) : Bool :=
  s.any fun c => [.rightToLeft, .arabicNumber].contains (direction c)

/-- The directions of a label without the marks at its end. -/
def withoutMarks (ds : List Direction) : List Direction :=
  (ds.reverse.dropWhile (· == .mark)).reverse

/-- **Whether the order of a label is clear** beside labels written from right to left: its
first character tells the direction of all, numbers are of one kind, and it ends in a letter or
number. -/
def hasClearOrder (s : List Char) : Bool :=
  let ds := s.map direction
  match ds with
  | [] => true
  | .leftToRight :: _ =>
    ds.all (fun d => d != .rightToLeft && d != .arabicNumber) &&
      (withoutMarks ds).getLast?.any [.leftToRight, .europeanNumber].contains
  | .rightToLeft :: _ =>
    !ds.contains .leftToRight &&
      !(ds.contains .europeanNumber && ds.contains .arabicNumber) &&
      (withoutMarks ds).getLast?.any [.rightToLeft, .europeanNumber, .arabicNumber].contains
  | _ => false

/-- Whether the labels of a name go together. -/
def goTogether (labels : List (List Char)) : Bool :=
  !labels.any hasRightToLeft || labels.all hasClearOrder

end PartSourcing.Url.Label
