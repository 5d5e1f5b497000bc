import PartSourcing.Calendar.Civil
import PartSourcing.Decimal.Reader
import PartSourcing.Json.Reader

/-!
# Values and keys of TOML

What can stand on either side of an equals sign. Values are read into the same type that JSON
is read into, a date or time as an object with one member. A reader takes characters and
returns what it has read with the characters after it.

Arrays and inline tables nest at most 79 deep, and a key has at most as many parts; as for JSON,
the reader of one depth is built from the reader of the depth below.
-/

namespace PartSourcing.Toml

open PartSourcing.Decimal PartSourcing.Json

/-- How deep arrays and inline tables may nest, and how many parts a key may have. -/
def maxDepth : Nat := 79

/-- Whether a character is a blank within a line. -/
def isSpace (c : Char) : Bool := c == ' ' || c == '\t'

/-- The text after blanks within a line. -/
def skipSpace (s : List Char) : List Char := s.dropWhile isSpace

/-- Whether a character may stand in a comment or a literal text. -/
def isPlain (c : Char) : Bool := c == '\t' || (0x20 ≤ c.toNat && c.toNat != 0x7F)

/-- The text after a line end. -/
def lineEnd? : List Char → Option (List Char)
  | '\n' :: s | '\r' :: '\n' :: s => some s
  | _ => none

/-- The text after a comment, if one starts here. -/
def skipComment : List Char → List Char
  | '#' :: s => s.dropWhile isPlain
  | s => s

/-- The text after blanks, comments and line ends; `left` bounds the number of lines. -/
def skipLines : (left : Nat) → List Char → List Char
  | 0, s => s
  | left + 1, s =>
    let s := skipComment (skipSpace s)
    match lineEnd? s with
    | some rest => skipLines left rest
    | none => s

/-- The code point that so many hexadecimal digits denote. -/
def codePoint? (count : Nat) (s : List Char) : Option (Char × List Char) :=
  let ds := s.take count
  let digit (c : Char) : Option Nat :=
    if c.isDigit then some (c.toNat - 48)
    else if 'a' ≤ c ∧ c ≤ 'f' then some (c.toNat - 87)
    else if 'A' ≤ c ∧ c ≤ 'F' then some (c.toNat - 55)
    else none
  if ds.length < count then none
  else
    (ds.mapM digit).bind fun values =>
      let n := values.foldl (fun v d => v * 16 + d) 0
      if n.isValidChar then some (Char.ofNat n, s.drop count) else none

/-- The character of an escape, behind its backslash. -/
def escape? : List Char → Option (Char × List Char)
  | 'b' :: s => some ('\x08', s)
  | 't' :: s => some ('\t', s)
  | 'n' :: s => some ('\n', s)
  | 'f' :: s => some ('\x0c', s)
  | 'r' :: s => some ('\r', s)
  | '\x22' :: s => some ('\x22', s)
  | '\\' :: s => some ('\\', s)
  | 'u' :: s => codePoint? 4 s
  | 'U' :: s => codePoint? 8 s
  | _ => none

/-- The rest of a text in quotation marks; `left` bounds its length. -/
def basicText : (left : Nat) → Reading (List Char)
  | 0, _ => none
  | _, [] => none
  | left + 1, c :: s =>
    if c = '\x22' then some ([], s)
    else if c = '\\' then
      (escape? s).bind fun (e, s) => (basicText left s).map fun (cs, s) => (e :: cs, s)
    else if isPlain c then (basicText left s).map fun (cs, s) => (c :: cs, s)
    else none

/-- The rest of a text in apostrophes. -/
def literalText (s : List Char) : Option (List Char × List Char) :=
  let cs := s.takeWhile fun c => c != '\x27' && isPlain c
  match s.drop cs.length with
  | '\x27' :: rest => some (cs, rest)
  | _ => none

/-- The text without a line end at its start. -/
def dropLineEnd (s : List Char) : List Char := (lineEnd? s).getD s

/-- The text after a backslash that ends a line, and all blanks and line ends behind it. -/
def continuation? (s : List Char) : Option (List Char) :=
  (lineEnd? (skipSpace s)).map fun rest =>
    rest.dropWhile fun c => isSpace c || c == '\n' || c == '\r'

/-- The rest of a text between three marks. Up to two marks may stand inside it, and also right
before the closing ones. A line end is read as one character; with escapes, a backslash at the
end of a line joins it with what follows. -/
def longText (mark : Char) (escapes : Bool) : (left : Nat) → Reading (List Char)
  | 0, _ => none
  | _, [] => none
  | left + 1, c :: s =>
    if c = mark then
      let n := ((c :: s).takeWhile (· == mark)).length
      if n < 3 then (longText mark escapes left s).map fun (cs, s) => (c :: cs, s)
      else if n ≤ 5 then some (List.replicate (n - 3) mark, (c :: s).drop n)
      else none
    else if c = '\\' && escapes then
      match continuation? s with
      | some rest => longText mark escapes left rest
      | none =>
        (escape? s).bind fun (e, s) =>
          (longText mark escapes left s).map fun (cs, s) => (e :: cs, s)
    else
      match lineEnd? (c :: s) with
      | some rest => (longText mark escapes left rest).map fun (cs, s) => ('\n' :: cs, s)
      | none =>
        if isPlain c then (longText mark escapes left s).map fun (cs, s) => (c :: cs, s) else none

/-- A text of any of the four forms. -/
def text? (s : List Char) : Option (List Char × List Char) :=
  match s with
  | '\x22' :: '\x22' :: '\x22' :: rest => longText '\x22' true (rest.length + 1) (dropLineEnd rest)
  | '\x27' :: '\x27' :: '\x27' :: rest =>
    longText '\x27' false (rest.length + 1) (dropLineEnd rest)
  | '\x22' :: rest => basicText (rest.length + 1) rest
  | '\x27' :: rest => literalText rest
  | _ => none

/-- Whether a character may stand in a bare key. -/
def isBare (c : Char) : Bool := c.isAlphanum || c == '_' || c == '-'

/-- One part of a key. -/
def simpleKey? (s : List Char) : Option (List Char × List Char) :=
  match s with
  | '\x22' :: rest => basicText (rest.length + 1) rest
  | '\x27' :: rest => literalText rest
  | s =>
    let cs := s.takeWhile isBare
    if cs.isEmpty then none else some (cs, s.drop cs.length)

/-- The parts of a key between dots, and the text after it and the blanks behind it; `left`
bounds their number. -/
def keyParts : (left : Nat) → Reading (List String)
  | 0, _ => none
  | left + 1, s =>
    (simpleKey? (skipSpace s)).bind fun (cs, rest) =>
      match skipSpace rest with
      | '.' :: rest => (keyParts left rest).map fun (ks, rest) => (String.ofList cs :: ks, rest)
      | rest => some ([String.ofList cs], rest)

/-- A key with its parts. -/
def key? : Reading (List String) := keyParts maxDepth

/-- Digits of the given class, single underscores between them; the underscores are left
out. -/
def digitRun (ok : Char → Bool) : List Char → List Char × List Char
  | c :: '_' :: d :: s =>
    if ok c then
      if ok d then
        let (cs, rest) := digitRun ok (d :: s)
        (c :: cs, rest)
      else ([c], '_' :: d :: s)
    else ([], c :: '_' :: d :: s)
  | c :: s =>
    if ok c then
      let (cs, rest) := digitRun ok s
      (c :: cs, rest)
    else ([], c :: s)
  | [] => ([], [])

/-- The digits of a decimal integer, without leading zeros. -/
def decimalRun? (s : List Char) : Option (List Char × List Char) :=
  match s with
  | '0' :: rest => some (['0'], rest)
  | s =>
    match digitRun Char.isDigit s with
    | ([], _) => none
    | r => some r

/-- An optional sign. -/
def sign : List Char → Bool × List Char
  | '-' :: s => (true, s)
  | '+' :: s => (false, s)
  | s => (false, s)

/-- The greatest integer. -/
def maxInt : Nat := UInt64.size / 2 - 1

/-- An integer in a base other than ten. -/
def basedInt? (base : Nat) (s : List Char) : Option (Json × List Char) :=
  let digit (c : Char) : Nat := (hexDigit c).getD 16
  match digitRun (fun c => digit c < base) s with
  | ([], _) => none
  | (ds, rest) =>
    let n := ds.foldl (fun v c => v * base + digit c) 0
    if n ≤ maxInt then some (.int n, rest) else none
where
  /-- The value of a hexadecimal digit. -/
  hexDigit (c : Char) : Option Nat :=
    if c.isDigit then some (c.toNat - 48)
    else if 'a' ≤ c ∧ c ≤ 'f' then some (c.toNat - 87)
    else if 'A' ≤ c ∧ c ≤ 'F' then some (c.toNat - 55)
    else none

/-- The digits of a fraction behind its point, if one starts here. -/
def fractionRun (s : List Char) : List Char × List Char :=
  match s with
  | '.' :: rest =>
    match digitRun Char.isDigit rest with
    | ([], _) => ([], s)
    | r => r
  | s => ([], s)

/-- The exponent, if one starts here. -/
def exponentRun (s : List Char) : Option Int × List Char :=
  match s with
  | c :: rest =>
    if c = 'e' ∨ c = 'E' then
      let (negative, ds) := sign rest
      match digitRun Char.isDigit ds with
      | ([], _) => (none, s)
      | (ds, after) => ((nat? ds).map fun n => if negative then -(n : Int) else n, after)
    else (none, s)
  | [] => (none, s)

/-- A number in decimal. With a fraction or an exponent it is a double, which must not exceed the
greatest one; without them an integer of 64 bits. -/
def decimal? (s : List Char) : Option (Json × List Char) :=
  let (negative, rest) := sign s
  (decimalRun? rest).bind fun (whole, rest) =>
    let (fraction, rest) := fractionRun rest
    let (exponent, rest) := exponentRun rest
    (nat? (whole ++ fraction)).bind fun n =>
      if fraction.isEmpty && exponent.isNone then
        let value : Int := if negative then -(n : Int) else n
        if n ≤ maxInt ∨ value = Json.minInt then some (.int value, rest) else none
      else
        let x := nearestFloat n (exponent.getD 0 - fraction.length)
        if x.isInf && !negative then none else some (.real (if negative then -x else x), rest)

/-- The words for infinity and for no number, with an optional sign. -/
def special? (s : List Char) : Option (Json × List Char) :=
  let (negative, rest) := sign s
  match rest with
  | 'i' :: 'n' :: 'f' :: rest =>
    some (.real (if negative then -(1.0 / 0.0) else 1.0 / 0.0), rest)
  | 'n' :: 'a' :: 'n' :: rest => some (.real (0.0 / 0.0), rest)
  | _ => none

/-- Two digits of a number within bounds. -/
def twoDigits? (low high : Nat) : Reading Nat
  | a :: b :: s =>
    (nat? [a, b]).bind fun n => if low ≤ n ∧ n ≤ high then some (n, s) else none
  | _ => none

/-- One given character. -/
def expect? (c : Char) : List Char → Option (List Char)
  | d :: s => if c = d then some s else none
  | [] => none

/-- A date; the text after it. -/
def date? (s : List Char) : Option (List Char) := do
  let year ← nat? (s.take 4)
  guard ((s.take 4).length = 4)
  let s ← expect? '-' (s.drop 4)
  let (month, s) ← twoDigits? 1 12 s
  let s ← expect? '-' s
  let (_, s) ← twoDigits? 1 (Calendar.Civil.daysInMonth year month) s
  return s

/-- A time of day; the text after it. -/
def time? (s : List Char) : Option (List Char) := do
  let (_, s) ← twoDigits? 0 23 s
  let s ← expect? ':' s
  let (_, s) ← twoDigits? 0 59 s
  let s ← expect? ':' s
  let (_, s) ← twoDigits? 0 60 s
  match s with
  | '.' :: rest =>
    guard (rest.takeWhile Char.isDigit ≠ [])
    return rest.dropWhile Char.isDigit
  | s => return s

/-- The text after an offset from UTC, if one stands here. -/
def afterOffset? (s : List Char) : Option (List Char) :=
  match s with
  | 'Z' :: rest | 'z' :: rest => some rest
  | '+' :: rest | '-' :: rest => do
    let (_, s) ← twoDigits? 0 23 rest
    let s ← expect? ':' s
    let (_, s) ← twoDigits? 0 59 s
    return s
  | s => some s

/-- The text after a date, a time or both. -/
def afterMoment? (s : List Char) : Option (List Char) :=
  match date? s with
  | none => time? s
  | some rest =>
    match rest with
    | c :: more =>
      if c = 'T' ∨ c = 't' then (time? more).bind afterOffset?
      else if c = ' ' ∧ (more.head?.any Char.isDigit) then (time? more).bind afterOffset?
      else some rest
    | [] => some []

/-- The name under which a date or time stands in its object. -/
def momentKey : String := "$moment"

/-- Whether a text starts like a date or a time. -/
def startsMoment (s : List Char) : Bool :=
  let ds := (s.takeWhile Char.isDigit).length
  (ds = 4 && s[4]? = some '-') || (ds = 2 && s[2]? = some ':')

/-- A date or time. -/
def moment? (s : List Char) : Option (Json × List Char) :=
  (afterMoment? s).map fun rest =>
    (.obj [(momentKey, .str (String.ofList (s.take (s.length - rest.length))))], rest)

/-- A number, date or time. -/
def number? (s : List Char) : Option (Json × List Char) :=
  if startsMoment s then moment? s
  else
    match s with
    | '0' :: 'x' :: rest => basedInt? 16 rest
    | '0' :: 'o' :: rest => basedInt? 8 rest
    | '0' :: 'b' :: rest => basedInt? 2 rest
    | s => (special? s).or (decimal? s)

/-- A value that is neither an array nor an inline table. -/
def scalar? : Reading Json
  | 't' :: 'r' :: 'u' :: 'e' :: s => some (.bool true, s)
  | 'f' :: 'a' :: 'l' :: 's' :: 'e' :: s => some (.bool false, s)
  | s =>
    match text? s with
    | some (cs, rest) => some (.str (String.ofList cs), rest)
    | none => number? s

/-- The items of an array behind its bracket, given a reader of values; `left` bounds their
number. -/
def items (value : Reading Json) : (left : Nat) → Reading (List Json)
  | 0, _ => none
  | left + 1, s =>
    match skipLines s.length s with
    | ']' :: rest => some ([], rest)
    | s =>
      (value s).bind fun (x, s) =>
        match skipLines s.length s with
        | ',' :: s => (items value left s).map fun (xs, s) => (x :: xs, s)
        | ']' :: s => some ([x], s)
        | _ => none

/-- A key with its value. -/
abbrev Assignment := List String × Json

/-- A key, an equals sign and a value. -/
def assignment? (value : Reading Json) : Reading Assignment := fun s =>
  (key? s).bind fun (k, s) =>
    (expect? '=' s).bind fun s => (value (skipSpace s)).map fun (v, s) => ((k, v), s)

/-- The assignments of an inline table behind its brace, at least one; `left` bounds their
number. -/
def assignments (value : Reading Json) : (left : Nat) → Reading (List Assignment)
  | 0, _ => none
  | left + 1, s =>
    (assignment? value s).bind fun (a, s) =>
      match skipSpace s with
      | ',' :: s => (assignments value left s).map fun (as, s) => (a :: as, s)
      | '\x7d' :: s => some ([a], s)
      | _ => none

end PartSourcing.Toml
