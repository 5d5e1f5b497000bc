import PartSourcing.Query.Stats
import PartSourcing.Retry.Policy

/-!
# Asking again

A source is asked until it answers, until it fails for good, until the attempts allowed are used
up, or until asking is cut short: because the search is out of time, or because the source breaks
down in the middle of an attempt. Time is counted in milliseconds since the search began: an
attempt says how long it took, and between two attempts there is a delay. Every attempt that comes
to an outcome in time goes into the statistics of its source.

The attempts themselves are a machine of any kind, so that what is said here holds of every
sequence of outcomes.
-/

namespace PartSourcing

open PartSourcing.Calendar

/-- What one attempt came to: an outcome, or a breakdown that leaves none but a message. -/
inductive Reply (β : Type) where
  | outcome (o : Except QueryError (List β))
  | breakdown (message : String)

/-- One attempt, and how many milliseconds it took. -/
structure Attempt (β : Type) where
  reply : Reply β
  millis : Nat

/-- The failure to record when a call has come to nothing in the time given to it. -/
def callTimeoutError (millis : Nat) : QueryError :=
  .timeout ("no response within " ++ Decimal.natText millis ++ "ms")

/-- **An attempt in the time for a call**, from what it comes to on its own, if it ever comes to
anything. What is not there by then is a failure that may pass. -/
def Attempt.within (millis : Nat) (call : Option (Attempt β)) : Attempt β :=
  (call.filter (·.millis ≤ millis)).getD ⟨.outcome (.error (callTimeoutError millis)), millis⟩

/-- How asking ended: with the last outcome, or cut short by an error that is the outcome of no
attempt. -/
inductive Ending (β : Type) where
  | outcome (o : Except QueryError (List β))
  | cut (error : QueryError)

/-- How asking went. -/
structure Course (β : Type) where
  ending : Ending β
  /-- Milliseconds since the search began. -/
  elapsed : Nat
  /-- The delays between the attempts, in order. -/
  waits : List Nat

/-- What comes of one attempt. -/
inductive Try (β : Type) where
  /-- Asking ends. -/
  | ended (c : Course β)
  /-- A failure that may pass. -/
  | failed (e : QueryError) (elapsed : Nat)

/-- What comes of an outcome that there was time for. -/
def Try.ofOutcome (o : Except QueryError (List β)) (elapsed : Nat) : Try β :=
  match o with
  | .error e => if e.isTransient then .failed e elapsed else .ended ⟨.outcome o, elapsed, []⟩
  | .ok _ => .ended ⟨.outcome o, elapsed, []⟩

/-- The failure to record when a search is out of time. -/
def deadlineError : QueryError := .timeout "search deadline elapsed"

/-- The failure to record when a source breaks down. -/
def breakdownError (message : String) : QueryError := .internal ("adapter panicked: " ++ message)

namespace Course

/-- The course after a delay. -/
def waited (delay : Nat) (c : Course β) : Course β := { c with waits := delay :: c.waits }

/-- The course of a search that is out of time. -/
def outOfTime (limit : Nat) : Course β := ⟨.cut deadlineError, limit, []⟩

end Course

namespace RetryPolicy

variable {α β σ : Type} [Add α] [Sub α] [Div α] [ScoreNumber α]

/-- One attempt, and what comes of it. -/
def tryOnce (limit : Option Nat) (now : Instant) (attempt : StateM σ (Attempt β))
    (elapsed : Nat) : StateT (Stats α) (StateM σ) (Try β) := do
  let a ← (attempt : StateM σ (Attempt β))
  let elapsed := elapsed + a.millis
  match limit.filter (· ≤ elapsed), a.reply with
  | some limit, _ => return .ended (.outOfTime limit)
  | none, .breakdown message => return .ended ⟨.cut (breakdownError message), elapsed, []⟩
  | none, .outcome o =>
    modify fun s => s.countAttempt (ScoreNumber.ofNat a.millis) (o.map Stats.resultCount) now
    return .ofOutcome o elapsed

/-- **Asks again** after failures that may pass, `left` more times at most. The time limit may be
missing; `draw` is the number that was drawn for the jitter of each delay. -/
def askAgain (policy : RetryPolicy) (limit : Option Nat) (draw : Nat → Nat) (now : Instant)
    (attempt : StateM σ (Attempt β)) :
    (left : Nat) → (retry : Nat) → (elapsed : Nat) → StateT (Stats α) (StateM σ) (Course β)
  | 0, _, elapsed => do
    match ← tryOnce limit now attempt elapsed with
    | .ended c => return c
    | .failed e elapsed => return ⟨.outcome (.error e), elapsed, []⟩
  | left + 1, retry, elapsed => do
    match ← tryOnce limit now attempt elapsed with
    | .ended c => return c
    | .failed _ elapsed =>
      let delay := policy.jittered (UInt32.ofNat retry) (draw retry)
      match limit.filter (· ≤ elapsed + delay) with
      | some limit => return .outOfTime limit
      | none =>
        let rest ← askAgain policy limit draw now attempt left (retry + 1) (elapsed + delay)
        return rest.waited delay

/-- **Asks** as often as the policy allows. -/
def ask (policy : RetryPolicy) (limit : Option Nat) (draw : Nat → Nat) (now : Instant)
    (attempt : StateM σ (Attempt β)) : StateT (Stats α) (StateM σ) (Course β) :=
  askAgain policy limit draw now attempt (policy.maxAttempts.toNat - 1) 0 0

end RetryPolicy

end PartSourcing
