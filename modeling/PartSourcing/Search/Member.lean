import PartSourcing.Provider.Basic
import PartSourcing.Search.Attempts
import PartSourcing.Search.Report
import PartSourcing.SearchId

/-!
# Sources that take part

A source takes part in searches with its provider and its statistics. Once an outcome has shown
that it is set up wrongly it is disabled, and is not asked again.

What an attempt at a provider does is left open where a source is asked (`Member.respond`). In a
search it is a query over the wire (`Member.attempt`).

A source keeps to the deadline by itself, and an attempt that breaks down is one of its outcomes
(`Reply.breakdown`). So two things are left out that stand behind it when many are asked at once: a
task that holds its thread for longer than 50 ms past the deadline is given up from outside, with
the same failure as a source that has run out of time, and a task that ends without any outcome
counts as an internal failure. Neither is an event here, where time passes in attempts and delays
alone.
-/

namespace PartSourcing

open PartSourcing.Calendar

/-- What a search takes from outside: the wire to the sources, the time, an identifier, and what
chance adds to the delays between attempts. -/
structure Occasion (σ : Type) where
  wire : Http.Wire σ
  now : Instant
  /-- The times at which the rows of the result are remembered, one after the other. -/
  clock : (row : Nat) → Instant := fun _ => now
  searchId : SearchId
  draw : (retry : Nat) → Nat := fun _ => 0

/-- How the sources are asked in one search: the rules, the time, what chance adds to the delays,
and what an attempt at a provider does. -/
structure Round (σ : Type) where
  policy : RetryPolicy
  /-- Milliseconds for the whole search. -/
  deadline : UInt64
  now : Instant
  draw : (retry : Nat) → Nat
  attempt : Provider → StateM σ (Attempt RawRecord)

/-- A source that takes part. -/
structure Member where
  provider : Provider
  stats : Stats Float

namespace Member

/-- The source. -/
def source (m : Member) : Source := m.provider.source

/-- A source that has not been asked. -/
def new (p : Provider) : Member := ⟨p, Stats.empty p.source⟩

/-- What a query comes to as an attempt: nothing where the wire has stayed silent, and otherwise its
outcome, which takes no time. -/
def answer? (outcome : Except QueryError (List RawRecord)) : Option (Attempt RawRecord) :=
  match outcome with
  | .error (.timeout _) => none
  | _ => some ⟨.outcome outcome, 0⟩

/-- One attempt at a source, in the time for a call. -/
def attempt (p : Provider) (client : Http.Client) (o : Occasion σ) (r : Requirement) :
    StateM σ (Attempt RawRecord) := do
  let outcome ← (p.query client o.wire o.now r).run
  return .within client.callTimeout.toNat (answer? outcome)

/-- The outcome of asking. -/
def outcomeOf (c : Course RawRecord) : Outcome :=
  match c.ending with
  | .outcome (.ok rs) => .succeeded rs
  | .outcome (.error e) | .cut e => .failed e

/-- The statistics with what has cut asking short, which is a failure of its own. -/
def countCut (c : Course RawRecord) (s : Stats Float) : Stats Float :=
  match c.ending with
  | .cut e => s.countFailure e
  | .outcome _ => s

/-- The statistics after a search, those of its attempts being in them. A failure that shows a
wrong setup disables the source. -/
def conclude (c : Course RawRecord) (s : Stats Float) : Stats Float :=
  let s := countCut c s
  match outcomeOf c with
  | .failed e => if e.disables then s.disable e.message else s
  | _ => s

/-- **The part of a source in one round.** -/
def respond (m : Member) (round : Round σ) : StateM σ (SourceOutcome × Member) :=
  if m.stats.isDisabled then return (⟨m.source, .disabled, 0⟩, m)
  else do
    let (course, stats) ←
      (round.policy.ask (some round.deadline.toNat) round.draw round.now
        (round.attempt m.provider)).run m.stats.countSearch
    return (⟨m.source, outcomeOf course, course.elapsed⟩,
      { m with stats := conclude course stats })

/-- Every source in turn. -/
def respondAll (ms : List Member) (round : Round σ) : StateM σ (List (SourceOutcome × Member)) :=
  ms.mapM fun m => m.respond round

/-- Every source in turn, each being asked for everything a requirement asks for. -/
def searchAll (ms : List Member) (policy : RetryPolicy) (deadline : UInt64)
    (client : Http.Client) (o : Occasion σ) (r : Requirement) :
    StateM σ (List (SourceOutcome × Member)) :=
  respondAll ms {
    policy, deadline
    now := o.now
    draw := o.draw
    attempt := fun p => attempt p client o r }

end Member

end PartSourcing
