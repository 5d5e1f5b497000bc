import PartSourcing.Text.Containment
import PartSourcing.Text.Utf8
import PartSourcing.Url.Percent

/-!
# Tokens of a page

A page is a sequence of texts, start tags and end tags. Comments and declarations are left
out, tag and attribute names are in lower case, and references to characters are resolved. No
text is refused: what makes no tag is text.
-/

namespace PartSourcing.Html

open PartSourcing.Text

/-- An attribute with its value. -/
abbrev Attribute := String × String

/-- A piece of a page. -/
inductive Token where
  | text (s : List Char)
  | openTag (name : String) (attributes : List Attribute)
  | closeTag (name : String)
  deriving DecidableEq

/-- The characters that have a name here. -/
def namedCharacters : List (String × Char) := [
  ("amp", '&'), ("lt", '<'), ("gt", '>'), ("quot", '\x22'), ("apos", '\x27'), ("nbsp", '\u00a0'),
  ("copy", '©'), ("reg", '®'), ("trade", '™'), ("euro", '€'), ("pound", '£'), ("yen", '¥'),
  ("cent", '¢'), ("deg", '°'), ("micro", 'µ'), ("plusmn", '±'), ("times", '×'), ("ndash", '–'),
  ("mdash", '—'), ("hellip", '…'), ("middot", '·'), ("bull", '•')]

/-- The characters of windows-1252 in the places `80` to `9F`. A number that would be a control
character stands for the one there. -/
def westernCharacters : List Nat := [
  0x20AC, 0x81, 0x201A, 0x0192, 0x201E, 0x2026, 0x2020, 0x2021, 0x02C6, 0x2030, 0x0160, 0x2039,
  0x0152, 0x8D, 0x017D, 0x8F, 0x90, 0x2018, 0x2019, 0x201C, 0x201D, 0x2022, 0x2013, 0x2014,
  0x02DC, 0x2122, 0x0161, 0x203A, 0x0153, 0x9D, 0x017E, 0x0178]

/-- The character of a numeric reference. What is no character is replaced. -/
def numbered (n : Nat) : Char :=
  if n = 0 ∨ 0x110000 ≤ n ∨ (0xD800 ≤ n ∧ n < 0xE000) then replacement
  else if 0x80 ≤ n ∧ n < 0xA0 then Char.ofNat (westernCharacters.getD (n - 0x80) n)
  else Char.ofNat n

/-- The value of a run of digits in a base, as far as it goes, and what follows. -/
def number (base v : Nat) : List Char → Nat × List Char
  | [] => (v, [])
  | c :: cs =>
    match Url.hexValue? c with
    | some d => if d < base then number base (min (v * base + d) 0x110000) cs else (v, c :: cs)
    | none => (v, c :: cs)

/-- The text without a semicolon at its start. -/
def dropSemicolon : List Char → List Char
  | ';' :: s => s
  | s => s

/-- The character that a reference stands for, and what follows it; the text starts behind the
ampersand. -/
def reference? (s : List Char) : Option (Char × List Char) :=
  match s with
  | '#' :: 'x' :: c :: rest | '#' :: 'X' :: c :: rest =>
    if (Url.hexValue? c).isSome then
      let (n, after) := number 16 0 (c :: rest)
      some (numbered n, dropSemicolon after)
    else none
  | '#' :: c :: rest =>
    if c.isDigit then
      let (n, after) := number 10 0 (c :: rest)
      some (numbered n, dropSemicolon after)
    else none
  | s =>
    let name := s.takeWhile Char.isAlphanum
    match s.drop name.length, namedCharacters.lookup (String.ofList name) with
    | ';' :: rest, some c => some (c, rest)
    | _, _ => none

/-- A text with its references resolved; `left` bounds its length. -/
def resolveFrom : (left : Nat) → List Char → List Char
  | 0, s => s
  | _, [] => []
  | left + 1, '&' :: s =>
    match reference? s with
    | some (c, rest) => c :: resolveFrom left rest
    | none => '&' :: resolveFrom left s
  | left + 1, c :: s => c :: resolveFrom left s

/-- **A text with its references resolved.** -/
def resolve (s : List Char) : List Char := resolveFrom s.length s

/-- Whether a character separates attributes. -/
def isSeparator (c : Char) : Bool :=
  c == ' ' || c == '\t' || c == '\n' || c == '\x0c' || c == '\r' || c == '/'

/-- The value after an equals sign and what follows it. -/
def attributeValue (s : List Char) : List Char × List Char :=
  match s.dropWhile fun c => isSeparator c && c != '/' with
  | '\x22' :: rest => (rest.takeWhile (· != '\x22'), (rest.dropWhile (· != '\x22')).drop 1)
  | '\x27' :: rest => (rest.takeWhile (· != '\x27'), (rest.dropWhile (· != '\x27')).drop 1)
  | rest =>
    let ends (c : Char) := c == '>' || (isSeparator c && c != '/')
    (rest.takeWhile fun c => !ends c, rest.dropWhile fun c => !ends c)

/-- The attributes of a tag and what follows it; `none` if the page ends before the tag does. Of
two attributes of one name the first counts. -/
def attributes? : (left : Nat) → List Char → Option (List Attribute × List Char)
  | 0, _ => none
  | left + 1, s =>
    match s.dropWhile isSeparator with
    | [] => none
    | '>' :: rest => some ([], rest)
    | c :: cs =>
      let ends (c : Char) := c == '>' || c == '=' || isSeparator c
      let name := c :: cs.takeWhile fun c => !ends c
      let after := cs.dropWhile fun c => !ends c
      let (value, after) :=
        match after.dropWhile fun c => isSeparator c && c != '/' with
        | '=' :: rest => attributeValue rest
        | _ => ([], after)
      (attributes? left after).map fun (as, rest) =>
        let key := String.ofList (name.map Char.toLower)
        ((key, String.ofList (resolve value)) :: as.filter (·.1 != key), rest)

/-- Elements whose content is text only, and whether references in it are resolved. -/
def textOnly : List (String × Bool) := [
  ("script", false), ("style", false), ("xmp", false), ("iframe", false), ("noembed", false),
  ("noframes", false), ("title", true), ("textarea", true)]

/-- The text up to the end tag of the given name, and the page from there. -/
def untilClosing (name : List Char) : List Char → List Char × List Char
  | [] => ([], [])
  | c :: cs =>
    let ahead := (c :: cs.take (name.length + 1)).map Char.toLower
    if (afterPrefix? (['<', '/'] ++ name) ahead).isSome
    then ([], c :: cs)
    else
      let (text, rest) := untilClosing name cs
      (c :: text, rest)

/-- The page after a comment. -/
def afterComment : List Char → List Char
  | '-' :: '-' :: '>' :: rest => rest
  | _ :: rest => afterComment rest
  | [] => []

/-- The name of a tag. -/
def tagName (s : List Char) : List Char :=
  (s.takeWhile fun c => c != '>' && !isSeparator c).map Char.toLower

/-- The tokens of a page; `left` bounds their number. -/
def tokensFrom : (left : Nat) → List Char → List Token
  | 0, _ => []
  | _, [] => []
  | left + 1, '<' :: '!' :: '-' :: '-' :: rest => tokensFrom left (afterComment rest)
  | left + 1, '<' :: c :: rest =>
    if c = '!' ∨ c = '?' then tokensFrom left ((rest.dropWhile (· != '>')).drop 1)
    else if c = '/' then
      let name := tagName rest
      let after := (rest.dropWhile (· != '>')).drop 1
      if name.isEmpty then tokensFrom left after
      else .closeTag (String.ofList name) :: tokensFrom left after
    else if c.isAlpha then
      let name := tagName (c :: rest)
      match attributes? (rest.length + 2) ((c :: rest).drop name.length) with
      | none => []
      | some (as, after) =>
        let tag := String.ofList name
        match textOnly.lookup tag with
        | some resolved =>
          let (text, after) := untilClosing name after
          .openTag tag as :: .text (if resolved then resolve text else text) ::
            tokensFrom left after
        | none => .openTag tag as :: tokensFrom left after
    else .text ['<'] :: tokensFrom left (c :: rest)
  | left + 1, s =>
    let text := s.takeWhile (· != '<')
    if text.isEmpty then [.text s] else .text (resolve text) :: tokensFrom left (s.drop text.length)

/-- **The tokens of a page.** -/
def tokens (s : String) : List Token := tokensFrom (s.length + 1) s.toList

end PartSourcing.Html
