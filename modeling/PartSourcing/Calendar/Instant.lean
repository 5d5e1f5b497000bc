import PartSourcing.Calendar.Civil

/-!
# Instants

A point in time in UTC: whole seconds since 1970 and nanoseconds within the second. During a
leap second the nanoseconds run on past the second before it, from one billion up to two, so
that the order of instants is the order of the two numbers taken together.

The calendar has a first and a last day, and going back by days can leave it. `minusDays?`
says so by its `Option`; it is the only operation on instants that can fail.
-/

namespace PartSourcing.Calendar

/-- A point in time. -/
structure Instant where
  seconds : Int
  nanos : Nat
  deriving DecidableEq, Repr

namespace Instant

/-- Nanoseconds in a second. -/
def nanosPerSecond : Nat := 1000000000

/-- Seconds in a day. -/
def secondsPerDay : Int := 86400

/-- 1 January 1970. -/
def epoch : Instant := ⟨0, 0⟩

/-- The first second of the calendar. -/
def firstSecond : Int := (Civil.mk Civil.firstYear 1 1).toDays * secondsPerDay

/-- The last second of the calendar. -/
def lastSecond : Int := ((Civil.mk Civil.lastYear 12 31).toDays + 1) * secondsPerDay - 1

/-- Earlier or the same. -/
protected def le (a b : Instant) : Prop :=
  a.seconds < b.seconds ∨ (a.seconds = b.seconds ∧ a.nanos ≤ b.nanos)

/-- Strictly earlier. -/
protected def lt (a b : Instant) : Prop :=
  a.seconds < b.seconds ∨ (a.seconds = b.seconds ∧ a.nanos < b.nanos)

instance : LE Instant := ⟨Instant.le⟩
instance : LT Instant := ⟨Instant.lt⟩

instance (a b : Instant) : Decidable (a ≤ b) :=
  inferInstanceAs (Decidable (a.seconds < b.seconds ∨ (a.seconds = b.seconds ∧ a.nanos ≤ b.nanos)))

instance (a b : Instant) : Decidable (a < b) :=
  inferInstanceAs (Decidable (a.seconds < b.seconds ∨ (a.seconds = b.seconds ∧ a.nanos < b.nanos)))

/-- The same instant with a leap second counted as the start of the second after it. -/
def settled (i : Instant) : Instant :=
  if nanosPerSecond ≤ i.nanos then ⟨i.seconds + 1, i.nanos - nanosPerSecond⟩ else i

/-- **So many days earlier**, if the calendar reaches that far. Going back by no days at all
keeps a leap second as it is. -/
def minusDays? (i : Instant) (days : Nat) : Option Instant :=
  if days = 0 then some i
  else
    let j := i.settled
    let s := j.seconds - days * secondsPerDay
    if firstSecond ≤ s && s ≤ lastSecond then some ⟨s, j.nanos⟩ else none

/-- The seconds of an instant within its day. -/
def secondOfDay (i : Instant) : Int := i.seconds % secondsPerDay

/-- One more second between two times of day if a leap second lies between them, seen from the
later one; one less, seen from the earlier. -/
def leapBetween (a b : Instant) : Int :=
  if b.secondOfDay < a.secondOfDay && nanosPerSecond ≤ b.nanos then 1
  else if a.secondOfDay < b.secondOfDay && nanosPerSecond ≤ a.nanos then -1
  else 0

/-- **The whole seconds from `b` to `a`**, a fraction being dropped toward zero. -/
def secondsSince (a b : Instant) : Int :=
  let nanos := (a.seconds - b.seconds + leapBetween a b) * nanosPerSecond +
    ((a.nanos : Int) - b.nanos)
  nanos.tdiv nanosPerSecond

/-- So many seconds earlier. -/
def minusSeconds (i : Instant) (n : Int) : Instant := ⟨i.seconds - n, i.nanos⟩

protected theorem le_refl (a : Instant) : a ≤ a := Or.inr ⟨rfl, Nat.le_refl _⟩

protected theorem le_total (a b : Instant) : a ≤ b ∨ b ≤ a := by
  show (_ ∨ _) ∨ (_ ∨ _)
  omega

protected theorem le_trans {a b c : Instant} (h₁ : a ≤ b) (h₂ : b ≤ c) : a ≤ c := by
  have h₁' : _ ∨ _ := h₁
  have h₂' : _ ∨ _ := h₂
  show _ ∨ _
  omega

protected theorem not_le {a b : Instant} : ¬ a ≤ b ↔ b < a := by
  show ¬ (_ ∨ _) ↔ (_ ∨ _)
  omega

protected theorem le_antisymm {a b : Instant} (h₁ : a ≤ b) (h₂ : b ≤ a) : a = b := by
  have h₁' : a.seconds < b.seconds ∨ (a.seconds = b.seconds ∧ a.nanos ≤ b.nanos) := h₁
  have h₂' : b.seconds < a.seconds ∨ (b.seconds = a.seconds ∧ b.nanos ≤ a.nanos) := h₂
  cases a
  cases b
  simp only [mk.injEq] at *
  omega

end Instant

end PartSourcing.Calendar
