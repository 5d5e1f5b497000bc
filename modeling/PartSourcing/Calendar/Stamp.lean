import PartSourcing.Calendar.Instant
import PartSourcing.Decimal.Digits
import PartSourcing.Text.Blank

/-!
# Time stamps

Instants as text, `2024-05-01T00:00:00Z`. Two readers share the scanners below. `strict?` takes
the Internet date-time format alone, in which every field has its full width; `relaxed?`,
which reads what people and services send, also allows narrower fields, blanks around the
separators, signed years and the word `UTC`. Both turn any offset into UTC and read second 60
as a leap second.
-/

namespace PartSourcing.Calendar.Stamp

open PartSourcing.Text PartSourcing.Decimal

/-- The fields of a time stamp as read, before they are checked against the calendar. -/
structure Fields where
  year : Int
  month : Nat
  day : Nat
  hour : Nat
  minute : Nat
  second : Nat
  nanos : Nat
  offset : Int

/-- **The instant that the fields denote**, if there is one. -/
def Fields.instant? (f : Fields) : Option Instant := do
  let date ← Civil.of? f.year f.month f.day
  guard (f.hour < 24 ∧ f.minute < 60 ∧ f.second ≤ 60 ∧ f.offset.natAbs < 86400)
  let leap := f.second = 60
  let second := if leap then 59 else f.second
  let local' := date.toDays * Instant.secondsPerDay + f.hour * 3600 + f.minute * 60 + second
  let s := local' - f.offset
  guard (Instant.firstSecond ≤ s ∧ s ≤ Instant.lastSecond)
  return ⟨s, f.nanos + (if leap then Instant.nanosPerSecond else 0)⟩

/-- Reads a natural of at least `least` and at most `most` digits. -/
def number? (least most : Nat) (s : List Char) : Option (Nat × List Char) :=
  let ds := (s.take most).takeWhile Char.isDigit
  if ds.length < least then none
  else (nat? ds).map fun n => (n, s.drop ds.length)

/-- Reads one given character. -/
def literal? (c : Char) : List Char → Option (List Char)
  | d :: rest => if d = c then some rest else none
  | [] => none

/-- Reads the letter or blank between the date and the time. -/
def separator? : List Char → Option (List Char)
  | c :: rest => if c = 'T' || c = 't' || c = ' ' then some rest else none
  | [] => none

/-- Reads an optional fraction of a second as nanoseconds; digits beyond the ninth are
dropped. -/
def fraction? : List Char → Option (Nat × List Char)
  | '.' :: rest =>
    let ds := rest.takeWhile Char.isDigit
    (nat? ((ds.take 9) ++ List.replicate (9 - ds.length) '0')).bind fun n =>
      if ds.isEmpty then none else some (n, rest.drop ds.length)
  | s => some (0, s)

/-- Reads an offset from UTC in seconds: `Z`, or a sign, hours and minutes with what `between`
drops standing between them. -/
def offset? (between : List Char → Option (List Char)) :
    List Char → Option (Int × List Char)
  | c :: rest =>
    if c = 'Z' || c = 'z' then some (0, rest)
    else do
      guard (c = '+' ∨ c = '-' ∨ c = '−')
      let (hours, rest) ← number? 2 2 rest
      let rest ← between rest
      let (minutes, rest) ← number? 2 2 rest
      guard (minutes < 60)
      let n : Int := hours * 3600 + minutes * 60
      return (if c = '+' then n else -n, rest)
  | [] => none

/-- **Reads the Internet format**, and nothing besides. -/
def strict? (s : List Char) : Option Instant := do
  let (year, s) ← number? 4 4 s
  let s ← literal? '-' s
  let (month, s) ← number? 2 2 s
  let s ← literal? '-' s
  let (day, s) ← number? 2 2 s
  let s ← separator? s
  let (hour, s) ← number? 2 2 s
  let s ← literal? ':' s
  let (minute, s) ← number? 2 2 s
  let s ← literal? ':' s
  let (second, s) ← number? 2 2 s
  let (nanos, s) ← fraction? s
  let (offset, s) ← offset? (literal? ':') s
  guard s.isEmpty
  Fields.instant? ⟨year, month, day, hour, minute, second, nanos, offset⟩

/-- Reads a year: four digits at most, or a sign and any number of digits. -/
def year? (s : List Char) : Option (Int × List Char) :=
  match s with
  | '-' :: rest => (number? 1 rest.length rest).map fun (n, r) => (-(n : Int), r)
  | '+' :: rest => (number? 1 rest.length rest).map fun (n, r) => ((n : Int), r)
  | s => (number? 1 4 s).map fun (n, r) => ((n : Int), r)

/-- Reads a field of one or two digits after optional blanks. -/
def field? (s : List Char) : Option (Nat × List Char) := number? 1 2 (dropLeading s)

/-- Reads a separator after optional blanks. -/
def spaced? (c : Char) (s : List Char) : Option (List Char) := literal? c (dropLeading s)

/-- Reads an offset or the word `UTC`. -/
def zone? (s : List Char) : Option (Int × List Char) :=
  if (s.take 3).map Char.toUpper = ['U', 'T', 'C'] then some (0, s.drop 3)
  else offset? (fun r => some (r.dropWhile fun c => c = ':' || isBlank c)) s

/-- **Reads a time stamp as people write it.** -/
def relaxed? (s : List Char) : Option Instant := do
  let (year, s) ← year? (dropLeading s)
  let s ← spaced? '-' s
  let (month, s) ← field? s
  let s ← spaced? '-' s
  let (day, s) ← field? s
  let s ← separator? s
  let (hour, s) ← field? s
  let s ← spaced? ':' s
  let (minute, s) ← field? s
  let s ← spaced? ':' s
  let (second, s) ← field? s
  let (nanos, s) ← fraction? s
  let (offset, s) ← zone? (dropLeading s)
  guard (dropLeading s).isEmpty
  Fields.instant? ⟨year, month, day, hour, minute, second, nanos, offset⟩

/-- The year with four digits, or with a sign and at least four digits when it has more or is
negative. -/
def yearText (y : Int) : List Char :=
  if 0 ≤ y ∧ y ≤ 9999 then padded 4 y.toNat
  else (if y < 0 then '-' else '+') :: padded 4 y.natAbs

/-- A time stamp with the given fraction text. -/
def write (fraction : Nat → List Char) (i : Instant) : String :=
  let date := Civil.ofDays (i.seconds.fdiv Instant.secondsPerDay)
  let s := i.secondOfDay.toNat
  let leap := i.nanos / Instant.nanosPerSecond
  String.ofList <|
    yearText date.year ++ ['-'] ++ padded 2 date.month ++ ['-'] ++ padded 2 date.day ++ ['T'] ++
    padded 2 (s / 3600) ++ [':'] ++ padded 2 (s / 60 % 60) ++ [':'] ++
    padded 2 (s % 60 + leap) ++ fraction (i.nanos % Instant.nanosPerSecond) ++ ['Z']

/-- The fewest of no, three, six or nine digits that show the fraction exactly. -/
def shortestFraction (nanos : Nat) : List Char :=
  if nanos = 0 then []
  else if nanos % 1000000 = 0 then '.' :: padded 3 (nanos / 1000000)
  else if nanos % 1000 = 0 then '.' :: padded 6 (nanos / 1000)
  else '.' :: padded 9 nanos

/-- All nine digits of the fraction. -/
def fullFraction (nanos : Nat) : List Char := '.' :: padded 9 nanos

/-- **The text of an instant** with the shortest exact fraction. -/
def shortText (i : Instant) : String := write shortestFraction i

/-- **The text of an instant** with all nine digits of its fraction, as it is stored. -/
def fullText (i : Instant) : String := write fullFraction i

end PartSourcing.Calendar.Stamp
