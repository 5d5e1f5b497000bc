import Mathlib.Order.Bounds.Basic
import PartSourcing.Proofs.Query.Accounts
import PartSourcing.Search.Attempts

/-!
# How often a source is asked

Attempts come one after the other, each finding the world as the one before has left it
(`Attempts.made`).  One attempt ends asking, or is a failure that may pass (`Tried`); and from that,
by induction on the attempts that are left, all that asking does is read off the attempts made
(`Asked`): every one of them but the last is a failure that may pass, the delays between them are
those of the policy, and the recorder is told of each.

A source may do anything, each time it is called: it answers sooner or later or not at all
(`Call.script`).  **How often it is called is the least number at which asking has to stop**, where
no more calls are allowed or an outcome is no failure that may pass
(`RetryPolicy.asks_until_settled`).

The attempts allowed are counted down here.  `askCounting` counts them up, with a counter of 32 bits
that could overflow; it never does, and asks just as often (`askCounting_eq`).
-/

namespace PartSourcing

open PartSourcing.Calendar

variable {α β σ : Type}

/-! ## Attempts one after the other -/

namespace Attempts

variable (attempt : StateM σ (Attempt β))

/-- The world after some attempts. -/
def worldAfter (w : σ) : Nat → σ
  | 0 => w
  | n + 1 => worldAfter (attempt.run w).2 n

/-- The attempt that comes after `i` others. -/
def nth (w : σ) (i : Nat) : Attempt β := (attempt.run (worldAfter attempt w i)).1

/-- **The first attempts**, in their order. -/
def made (w : σ) (n : Nat) : List (Attempt β) := (List.range n).map (nth attempt w)

theorem made_succ (w : σ) (n : Nat) :
    made attempt w (n + 1) = (attempt.run w).1 :: made attempt (attempt.run w).2 n := by
  unfold made
  rw [List.range_succ_eq_map, List.map_cons, List.map_map]
  rfl

end Attempts

/-- What the recorder is told of an attempt: its outcome, if it has one. -/
def Attempt.event? [ScoreNumber α] (now : Instant) (a : Attempt β) : Option (Stats.Event α) :=
  match a.reply with
  | .outcome o => some (.attempt (ScoreNumber.ofNat a.millis) (o.map Stats.resultCount) now)
  | .breakdown _ => none

/-- **A failure that may pass.** -/
def MayPass (o : Except QueryError (List β)) : Prop := ∃ e, o = .error e ∧ e.isTransient = true

/-- How asking may end after its last attempt, which is the last one allowed if `last` says so. -/
inductive EndsWith (limit : Option Nat) (a : Attempt β) (last : Prop) : Ending β → Prop where
  | outcome {o : Except QueryError (List β)} (h : a.reply = .outcome o)
      (hlast : MayPass o → last) : EndsWith limit a last (.outcome o)
  | outOfTime (h : limit ≠ none) : EndsWith limit a last (.cut deadlineError)
  | breakdown {m : String} (h : a.reply = .breakdown m) :
      EndsWith limit a last (.cut (breakdownError m))

theorem EndsWith.imp {limit : Option Nat} {a : Attempt β} {last last' : Prop} {e : Ending β}
    (h : EndsWith limit a last e) (himp : last → last') : EndsWith limit a last' e := by
  cases h with
  | outcome h hlast => exact .outcome h fun hpass => himp (hlast hpass)
  | outOfTime h => exact .outOfTime h
  | breakdown h => exact .breakdown h

namespace RetryPolicy

variable [Add α] [Sub α] [Div α] [ScoreNumber α]

/-! ## One attempt -/

/-- **What may come of one attempt**, and what the statistics are then. -/
inductive Tried (limit : Option Nat) (now : Instant) (a : Attempt β) (elapsed : Nat)
    (s : Stats α) : Try β → Stats α → Prop where
  | outOfTime {millis : Nat} (h : limit = some millis) :
      Tried limit now a elapsed s (.ended (.outOfTime millis)) s
  | breakdown {m : String} (h : a.reply = .breakdown m) :
      Tried limit now a elapsed s (.ended ⟨.cut (breakdownError m), elapsed + a.millis, []⟩) s
  | settled {o : Except QueryError (List β)} (h : a.reply = .outcome o) (hpass : ¬MayPass o) :
      Tried limit now a elapsed s (.ended ⟨.outcome o, elapsed + a.millis, []⟩)
        (s.recordAll (a.event? now).toList).2
  | failed {e : QueryError} (h : a.reply = .outcome (.error e)) (he : e.isTransient = true) :
      Tried limit now a elapsed s (.failed e (elapsed + a.millis))
        (s.recordAll (a.event? now).toList).2

theorem tried_ofOutcome {a : Attempt β} {o : Except QueryError (List β)}
    (h : a.reply = .outcome o) (limit : Option Nat) (now : Instant) (elapsed : Nat)
    (s : Stats α) :
    Tried limit now a elapsed s (.ofOutcome o (elapsed + a.millis))
      (s.recordAll (a.event? now).toList).2 := by
  rcases o with e | l
  · by_cases he : e.isTransient = true
    · rw [Try.ofOutcome, if_pos he]
      exact .failed h he
    · rw [Try.ofOutcome, if_neg he]
      refine .settled h ?_
      rintro ⟨e', heq, he'⟩
      cases heq
      exact he he'
  · refine .settled h ?_
    rintro ⟨e, heq, -⟩
    cases heq

theorem tried_tryOnce (limit : Option Nat) (now : Instant) (attempt : StateM σ (Attempt β))
    (elapsed : Nat) (s : Stats α) (w : σ) :
    let x := ((tryOnce limit now attempt elapsed).run s).run w
    Tried limit now (attempt.run w).1 elapsed s x.1.1 x.1.2 ∧ x.2 = (attempt.run w).2 := by
  have hlift {γ : Type} (next : Attempt β → StateT (Stats α) (StateM σ) γ) :
      (((liftM attempt : StateT (Stats α) (StateM σ) (Attempt β)) >>= next).run s).run w =
        ((next (attempt.run w).1).run s).run (attempt.run w).2 := rfl
  intro x
  have hx : x = _ := hlift _
  generalize (attempt.run w).2 = w' at hx
  generalize (attempt.run w).1 = a at hx ⊢
  dsimp only at hx
  split at hx
  · rename_i millis hlimit
    rw [hx]
    exact ⟨.outOfTime (Option.eq_some_of_filter_eq_some hlimit), rfl⟩
  · rename_i m hlimit hreply
    rw [hx]
    exact ⟨.breakdown hreply, rfl⟩
  · rename_i o hlimit hreply
    have htried := tried_ofOutcome hreply limit now elapsed s
    rw [Attempt.event?, hreply] at htried
    rw [hx]
    exact ⟨htried, rfl⟩

/-! ## Asking -/

/-- The recorder is told of the first attempt and then of those after it. -/
theorem recordAll_made_succ (now : Instant) (attempt : StateM σ (Attempt β)) (s : Stats α) (w : σ)
    (n : Nat) :
    (s.recordAll ((Attempts.made attempt w (n + 1)).filterMap (·.event? now))).2 =
      ((s.recordAll ((attempt.run w).1.event? now).toList).2.recordAll
        ((Attempts.made attempt (attempt.run w).2 n).filterMap (·.event? now))).2 := by
  rw [Attempts.made_succ, List.filterMap_cons]
  cases ((attempt.run w).1.event? now : Option (Stats.Event α)) <;> rfl

/-- **How asking has gone** that began in the world `w` with the statistics `s`: `n` attempts were
failures that may pass, and one more was made after them. -/
structure Asked (policy : RetryPolicy) (limit : Option Nat) (draw : Nat → Nat) (now : Instant)
    (attempt : StateM σ (Attempt β)) (left retry : Nat) (s : Stats α) (w : σ) (n : Nat)
    (c : Course β) (s' : Stats α) (w' : σ) : Prop where
  retries : n ≤ left
  world : w' = Attempts.worldAfter attempt w (n + 1)
  waits : c.waits = (List.range n).map fun i =>
    policy.jittered (UInt32.ofNat (retry + i)) (draw (retry + i))
  passing : ∀ i < n, ∃ o, (Attempts.nth attempt w i).reply = .outcome o ∧ MayPass o
  ending : EndsWith limit (Attempts.nth attempt w n) (n = left) c.ending
  told : ∀ o, c.ending = .outcome o →
    s' = (s.recordAll ((Attempts.made attempt w (n + 1)).filterMap (·.event? now))).2

section Steps

variable {policy : RetryPolicy} {limit : Option Nat} {draw : Nat → Nat} {now : Instant}
  {attempt : StateM σ (Attempt β)} {left retry elapsed elapsed' n : Nat} {s s' s'' : Stats α}
  {w w'' : σ} {c : Course β} {e : QueryError}

theorem Asked.once (hwaits : c.waits = [])
    (hending : EndsWith limit (attempt.run w).1 (0 = left) c.ending)
    (htold : ∀ o, c.ending = .outcome o →
      s' = (s.recordAll ((attempt.run w).1.event? now).toList).2) :
    Asked policy limit draw now attempt left retry s w 0 c s' (attempt.run w).2 where
  retries := Nat.zero_le left
  world := rfl
  waits := hwaits
  passing i hi := absurd hi (Nat.not_lt_zero i)
  ending := hending
  told o ho := by
    rw [htold o ho, recordAll_made_succ]
    rfl

theorem Asked.of_ended (h : Tried limit now (attempt.run w).1 elapsed s (.ended c) s') :
    Asked policy limit draw now attempt left retry s w 0 c s' (attempt.run w).2 := by
  cases h with
  | outOfTime h =>
    exact .once rfl (.outOfTime (h ▸ Option.some_ne_none _)) fun o ho => nomatch ho
  | breakdown h => exact .once rfl (.breakdown h) fun o ho => nomatch ho
  | settled h hpass => exact .once rfl (.outcome h fun h' => absurd h' hpass) fun _ _ => rfl

/-- **A failure that may pass comes before the attempts that follow it.** -/
theorem Asked.of_failed
    (htried : Tried limit now (attempt.run w).1 elapsed s (.failed e elapsed') s')
    (h : Asked policy limit draw now attempt left (retry + 1) s' (attempt.run w).2 n c s'' w'') :
    Asked policy limit draw now attempt (left + 1) retry s w (n + 1)
      (c.waited (policy.jittered (UInt32.ofNat retry) (draw retry))) s'' w'' := by
  cases htried with | failed hreply he
  refine ⟨Nat.succ_le_succ h.retries, h.world, ?_, ?_, ?_, ?_⟩
  · have hshift (i : Nat) : retry + 1 + i = retry + (i + 1) := by omega
    rw [Course.waited, h.waits, List.range_succ_eq_map, List.map_cons, List.map_map]
    simp only [hshift]
    rfl
  · intro i hi
    cases i with
    | zero => exact ⟨_, hreply, e, rfl, he⟩
    | succ i => exact h.passing i (Nat.lt_of_succ_lt_succ hi)
  · exact h.ending.imp (congrArg (· + 1))
  · intro o ho
    rw [h.told o ho, recordAll_made_succ now attempt s w (n + 1)]

end Steps

omit [Add α] [Sub α] [Div α] [ScoreNumber α] in
/-- What follows starts with the statistics and in the world that come of what is before it. -/
theorem run_run_bind {γ δ : Type} (x : StateT (Stats α) (StateM σ) γ)
    (next : γ → StateT (Stats α) (StateM σ) δ) (s : Stats α) (w : σ) :
    ((x >>= next).run s).run w =
      ((next ((x.run s).run w).1.1).run ((x.run s).run w).1.2).run ((x.run s).run w).2 := rfl

/-- **Whatever attempts do**, asking goes in this way. -/
theorem asked_askAgain (policy : RetryPolicy) (limit : Option Nat) (draw : Nat → Nat)
    (now : Instant) (attempt : StateM σ (Attempt β)) (left retry elapsed : Nat) (s : Stats α)
    (w : σ) :
    let x := ((askAgain policy limit draw now attempt left retry elapsed).run s).run w
    ∃ n, Asked policy limit draw now attempt left retry s w n x.1.1 x.1.2 x.2 := by
  induction left generalizing retry elapsed s w with
  | zero =>
    have htried := tried_tryOnce limit now attempt elapsed s w
    rw [askAgain, run_run_bind]
    generalize ((tryOnce limit now attempt elapsed).run s).run w = x at htried
    obtain ⟨⟨t, s'⟩, w'⟩ := x
    obtain ⟨htried, rfl⟩ := htried
    cases t with
    | ended c => exact ⟨0, .of_ended htried⟩
    | failed e elapsed' =>
      cases htried with | failed hreply he
      exact ⟨0, .once rfl (.outcome hreply fun _ => rfl) fun _ _ => rfl⟩
  | succ left ih =>
    have htried := tried_tryOnce limit now attempt elapsed s w
    rw [askAgain, run_run_bind]
    generalize ((tryOnce limit now attempt elapsed).run s).run w = x at htried
    obtain ⟨⟨t, s'⟩, w'⟩ := x
    obtain ⟨htried, rfl⟩ := htried
    cases t with
    | ended c => exact ⟨0, .of_ended htried⟩
    | failed e elapsed' =>
      dsimp only
      split
      · -- the search runs out of time while it waits
        rename_i millis hlimit
        refine ⟨0, .once rfl (.outOfTime ?_) fun o ho => nomatch ho⟩
        rw [Option.eq_some_of_filter_eq_some hlimit]
        exact Option.some_ne_none millis
      · obtain ⟨n, hn⟩ := ih (retry + 1)
          (elapsed' + policy.jittered (UInt32.ofNat retry) (draw retry)) s' (attempt.run w).2
        exact ⟨n + 1, .of_failed htried hn⟩

/-! ## Counting attempts up -/

/-- The counter does not overflow below its greatest value. -/
theorem toNat_add_one {retry : UInt32} (h : retry.toNat + 1 < UInt32.size) :
    (retry + 1).toNat = retry.toNat + 1 := by
  rw [UInt32.toNat_add]
  exact Nat.mod_eq_of_lt h

/-- **Asks again, counting the retries up** in 32 bits: nothing comes of it if the counter does not
hold the next one. -/
def askCounting (policy : RetryPolicy) (limit : Option Nat) (draw : Nat → Nat) (now : Instant)
    (attempt : StateM σ (Attempt β)) (retry : UInt32) (elapsed : Nat) :
    StateT (Stats α) (StateM σ) (Option (Course β)) := do
  match ← tryOnce limit now attempt elapsed with
  | .ended c => return some c
  | .failed e elapsed =>
    if _hfits : retry.toNat + 1 < UInt32.size then
      if _hmore : retry + 1 < policy.maxAttempts then
        let delay := policy.jittered retry (draw retry.toNat)
        match limit.filter (· ≤ elapsed + delay) with
        | some limit => return some (.outOfTime limit)
        | none =>
          let rest ← askCounting policy limit draw now attempt (retry + 1) (elapsed + delay)
          return rest.map (Course.waited delay)
      else return some ⟨.outcome (.error e), elapsed, []⟩
    else return none
termination_by policy.maxAttempts.toNat - retry.toNat
decreasing_by
  have hsum := toNat_add_one _hfits
  rw [UInt32.lt_iff_toNat_lt] at _hmore
  omega

/-- **The counter never overflows**, and counting up asks as often as counting down. -/
theorem askCounting_eq (policy : RetryPolicy) (limit : Option Nat) (draw : Nat → Nat)
    (now : Instant) (attempt : StateM σ (Attempt β)) (left : Nat) (retry : UInt32) (elapsed : Nat)
    (h : retry.toNat + left + 1 = policy.maxAttempts.toNat) :
    (askCounting policy limit draw now attempt retry elapsed :
      StateT (Stats α) (StateM σ) (Option (Course β))) =
      some <$> askAgain policy limit draw now attempt left retry.toNat elapsed := by
  have hmax : policy.maxAttempts.toNat < UInt32.size := policy.maxAttempts.toNat_lt
  have hfits : retry.toNat + 1 < UInt32.size := by omega
  have hsum := toNat_add_one hfits
  induction left generalizing retry elapsed with
  | zero =>
    have hlast : ¬retry + 1 < policy.maxAttempts := by
      rw [UInt32.lt_iff_toNat_lt]
      omega
    rw [askCounting, askAgain, map_bind]
    refine congrArg _ (funext fun t => ?_)
    cases t with
    | ended c => rfl
    | failed e elapsed =>
      dsimp only
      rw [dif_pos hfits, dif_neg hlast]
      rfl
  | succ left ih =>
    have hmore : retry + 1 < policy.maxAttempts := by
      rw [UInt32.lt_iff_toNat_lt]
      omega
    rw [askCounting, askAgain, map_bind]
    refine congrArg _ (funext fun t => ?_)
    cases t with
    | ended c => rfl
    | failed e elapsed =>
      dsimp only
      rw [dif_pos hfits, dif_pos hmore, UInt32.ofNat_toNat]
      cases limit.filter (· ≤ elapsed + policy.jittered retry (draw retry.toNat)) with
      | some millis => rfl
      | none =>
        have hfits' : (retry + 1).toNat + 1 < UInt32.size := by omega
        dsimp only
        rw [ih (retry + 1) _ (by omega) hfits' (toNat_add_one hfits'), hsum, map_bind,
          bind_map_left]
        rfl

end RetryPolicy

/-! ## Whatever a source does -/

/-- What comes of calling a source: an outcome after so many milliseconds, or nothing ever. -/
abbrev Call (β : Type) : Type := Option (Except QueryError (List β) × Nat)

namespace Call

/-- **What the call counts for** in the time given to it: its outcome, if it is there by then. -/
def outcome (millis : Nat) (c : Call β) : Except QueryError (List β) :=
  match c.filter (·.2 ≤ millis) with
  | some (o, _) => o
  | none => .error (callTimeoutError millis)

/-- The call as an attempt. -/
def attempt (millis : Nat) (c : Call β) : Attempt β :=
  .within millis (c.map fun (o, took) => ⟨.outcome o, took⟩)

/-- **What is not there in time** is a failure that may pass. -/
theorem mayPass_of_late {millis : Nat} {c : Call β} (h : c.filter (·.2 ≤ millis) = none) :
    MayPass (c.outcome millis) := by
  refine ⟨callTimeoutError millis, ?_, rfl⟩
  rw [outcome, h]

/-- A source that does the given things, one at each call, in a world that counts them. -/
def script (millis : Nat) (calls : Nat → Call β) : StateM Nat (Attempt β) :=
  modifyGet fun i => ((calls i).attempt millis, i + 1)

theorem reply_attempt (millis : Nat) (c : Call β) :
    (c.attempt millis).reply = .outcome (c.outcome millis) := by
  rcases c with _ | ⟨o, took⟩
  · rfl
  · unfold attempt outcome Attempt.within
    by_cases h : took ≤ millis
    · simp [Option.filter, h]
    · simp [Option.filter, h]

variable (millis : Nat) (calls : Nat → Call β)

theorem worldAfter_script (w n : Nat) : Attempts.worldAfter (script millis calls) w n = w + n := by
  induction n generalizing w with
  | zero => rfl
  | succ n ih => exact (ih (w + 1)).trans (by omega)

theorem nth_script (i : Nat) :
    Attempts.nth (script millis calls) 0 i = (calls i).attempt millis := by
  rw [Attempts.nth, worldAfter_script, Nat.zero_add]
  rfl

end Call

/-- Why there is no outcome, if there is none. -/
def failure? (o : Except QueryError (List β)) : Option QueryError :=
  match o with
  | .error e => some e
  | .ok _ => none

/-- The failures among the first outcomes, in their order. -/
def failuresAmong (outcome : Nat → Except QueryError (List β)) (n : Nat) : List QueryError :=
  (List.range n).filterMap fun i => failure? (outcome i)

section Told

variable [ScoreNumber α] (now : Instant) (millis : Nat)

/-- What the recorder is told of a call. -/
def Call.event (c : Call β) : Stats.Event α :=
  .attempt (ScoreNumber.ofNat (c.attempt millis).millis) ((c.outcome millis).map Stats.resultCount) now

theorem Call.error?_event (c : Call β) :
    (c.event now millis : Stats.Event α).error? = failure? (c.outcome millis) := by
  unfold event
  cases c.outcome millis <;> rfl

theorem Call.success?_event (c : Call β) :
    (c.event now millis : Stats.Event α).success? =
      (c.outcome millis).toOption.map fun l => (Stats.resultCount l, now) := by
  unfold event
  cases c.outcome millis <;> rfl

variable (calls : Nat → Call β) (n : Nat)

/-- What the recorder is told of the first calls. -/
def Call.events : List (Stats.Event α) := (List.range n).map fun i => (calls i).event now millis

theorem Call.events_script :
    (Attempts.made (script millis calls) 0 n).filterMap (·.event? now) =
      (events now millis calls n : List (Stats.Event α)) := by
  rw [Attempts.made, List.filterMap_map, events, ← List.filterMap_eq_map]
  refine congrArg (List.filterMap · _) (funext fun i => ?_)
  rw [Function.comp_apply, nth_script, Attempt.event?, reply_attempt]
  rfl

theorem Call.latencies_events :
    ((events now millis calls n : List (Stats.Event α)).filterMap Stats.Event.latency?).length =
      n := by
  have hsome : (Stats.Event.latency? ∘ fun i => ((calls i).event now millis : Stats.Event α)) =
      some ∘ fun i => ScoreNumber.ofNat ((calls i).attempt millis).millis := rfl
  rw [events, List.filterMap_map, hsome, List.filterMap_eq_map, List.length_map, List.length_range]

theorem Call.failures_events :
    (events now millis calls n : List (Stats.Event α)).filterMap Stats.Event.error? =
      failuresAmong (fun i => (calls i).outcome millis) n := by
  rw [events, List.filterMap_map]
  exact congrArg (List.filterMap · _) (funext fun i => (calls i).error?_event now millis)

/-- **After failures only the last call can be a success.** -/
theorem Call.successes_events (hpassing : ∀ i < n, ∃ e, (calls i).outcome millis = .error e) :
    (events now millis calls (n + 1) : List (Stats.Event α)).filterMap Stats.Event.success? =
      (((calls n).outcome millis).toOption.map fun l => (Stats.resultCount l, now)).toList := by
  have hnone : ((List.range n).map fun i => ((calls i).event now millis : Stats.Event α)).filterMap
      Stats.Event.success? = [] := by
    rw [List.filterMap_eq_nil_iff]
    intro e he
    obtain ⟨i, hi, rfl⟩ := List.mem_map.mp he
    obtain ⟨error, herror⟩ := hpassing i (List.mem_range.mp hi)
    rw [success?_event, herror]
    rfl
  rw [events, List.range_succ, List.map_append, List.map_singleton, Stats.filterMap_concat, hnone,
    List.nil_append, success?_event]

end Told

/-- **How often a source is to be asked**: the attempts allowed, or up to the first outcome that is
no failure that may pass, whichever are fewer. -/
def RetryPolicy.IsDue (policy : RetryPolicy) (outcome : Nat → Except QueryError (List β))
    (n : Nat) : Prop :=
  IsLeast {k | k = min (policy.maxRetries.toNat + 1) Saturating.max32 ∨
    ∃ i, k = i + 1 ∧ ¬MayPass (outcome i)} n

/-- **Asking has settled** after `n` attempts of the given outcomes: it returns the last of them,
has waited between any two, and all of them are in the statistics. -/
structure SettledAfter (policy : RetryPolicy) (draw : Nat → Nat)
    (outcome : Nat → Except QueryError (List β)) (n : Nat) (s : Stats α) (c : Course β)
    (s' : Stats α) : Prop where
  ending : c.ending = .outcome (outcome (n - 1))
  waits : c.waits = (List.range (n - 1)).map fun i => policy.jittered (UInt32.ofNat i) (draw i)
  attempts : s'.attempts = s.attempts + UInt64.ofNat n
  gained : match outcome (n - 1) with
    | .ok l => s'.successes = s.successes + 1 ∧ s'.results = s.results + Stats.resultCount l
    | .error _ => s'.successes = s.successes ∧ s'.results = s.results
  failures : s'.failures = s.failures + UInt64.ofNat (failuresAmong outcome n).length
  lastError : s'.lastError =
    ((failuresAmong outcome n).getLast?.map QueryError.message).or s.lastError

namespace SettledAfter

variable [Add α] [Sub α] [Div α] [ScoreNumber α]

variable {policy : RetryPolicy} {limit : Option Nat} {draw : Nat → Nat} {now : Instant}
  {millis : Nat} {calls : Nat → Call β} {s s' : Stats α} {w' n : Nat} {c : Course β}

/-- Asking stops no sooner and no later than it has to. -/
theorem isDue (h : RetryPolicy.Asked policy limit draw now (Call.script millis calls)
      (policy.maxAttempts.toNat - 1) 0 s 0 n c s' w')
    (hlast : MayPass ((calls n).outcome millis) → n = policy.maxAttempts.toNat - 1) :
    policy.IsDue (fun i => (calls i).outcome millis) (n + 1) := by
  have hmax : policy.maxAttempts.toNat = min (policy.maxRetries.toNat + 1) Saturating.max32 := by
    rw [RetryPolicy.maxAttempts, Saturating.toNat_succ, min_comm]
  have hpos : 0 < Saturating.max32 := by decide
  refine ⟨?_, ?_⟩
  · by_cases hpass : MayPass ((calls n).outcome millis)
    · have := hlast hpass
      left
      omega
    · exact .inr ⟨n, rfl, hpass⟩
  · rintro k (rfl | ⟨i, rfl, hi⟩)
    · have := h.retries
      omega
    · refine Nat.succ_le_succ (Nat.le_of_not_lt fun hlt => hi ?_)
      obtain ⟨o, ho, hpass⟩ := h.passing i hlt
      rw [Call.nth_script, Call.reply_attempt] at ho
      show MayPass ((calls i).outcome millis)
      rwa [Reply.outcome.inj ho]

/-- **After attempts that were failures that may pass** and one that ended asking, asking has
settled with the last one. -/
theorem of_asked (h : RetryPolicy.Asked policy limit draw now (Call.script millis calls)
      (policy.maxAttempts.toNat - 1) 0 s 0 n c s' w')
    (hending : c.ending = .outcome ((calls n).outcome millis)) :
    SettledAfter policy draw (fun i => (calls i).outcome millis) (n + 1) s c s' := by
  have hpassing (i : Nat) (hi : i < n) : ∃ e, (calls i).outcome millis = .error e := by
    obtain ⟨o, ho, e, rfl, -⟩ := h.passing i hi
    rw [Call.nth_script, Call.reply_attempt] at ho
    exact ⟨e, Reply.outcome.inj ho⟩
  have htold := h.told _ hending
  rw [Call.events_script] at htold
  refine ⟨hending, h.waits.trans ?_, ?_, ?_, ?_, ?_⟩
  · rw [Nat.add_sub_cancel]
    simp only [Nat.zero_add]
  · rw [htold, Stats.attempts_recordAll, Call.latencies_events]
  · have hsuccesses := Stats.successes_recordAll s (Call.events now millis calls (n + 1))
    have hresults := Stats.results_recordAll s (Call.events now millis calls (n + 1))
    rw [← htold, Call.successes_events now millis calls n hpassing] at hsuccesses hresults
    rw [Nat.add_sub_cancel]
    cases ho : (calls n).outcome millis with
    | ok l =>
      rw [ho] at hsuccesses hresults
      exact ⟨hsuccesses, hresults.trans (congrArg (s.results + ·) UInt64.ofNat_toNat)⟩
    | error e =>
      rw [ho] at hsuccesses hresults
      exact ⟨hsuccesses.trans s.successes.add_zero, hresults.trans s.results.add_zero⟩
  · rw [htold, Stats.failures_recordAll, Call.failures_events]
  · rw [htold, Stats.lastError_recordAll, Call.failures_events]

end SettledAfter

namespace RetryPolicy

variable [Add α] [Sub α] [Div α] [ScoreNumber α]

/-- **A source is asked until asking has to stop**, whatever it does and whatever the policy: unless
the time for it runs out, it is called just as often as it is due, the last outcome is returned, and
each call is in the statistics.  Counting the calls up comes to the same, without overflow, and a
call that is not there in time is a failure that may pass. -/
theorem asks_until_settled (policy : RetryPolicy) (limit : Option Nat) (draw : Nat → Nat)
    (now : Instant) (millis : Nat) (calls : Nat → Call β) (s : Stats α) :
    (askCounting policy limit draw now (Call.script millis calls) 0 0 :
        StateT (Stats α) (StateM Nat) (Option (Course β))) =
      some <$> ask policy limit draw now (Call.script millis calls) ∧
    (∀ i, (calls i).filter (·.2 ≤ millis) = none → MayPass ((calls i).outcome millis)) ∧
    let x := ((ask policy limit draw now (Call.script millis calls)).run s).run 0
    (limit ≠ none ∧ x.1.1.ending = .cut deadlineError) ∨
    ∃ n, policy.IsDue (fun i => (calls i).outcome millis) n ∧ x.2 = n ∧
      SettledAfter policy draw (fun i => (calls i).outcome millis) n s x.1.1 x.1.2 := by
  have hmax : 0 < policy.maxAttempts.toNat := by
    rw [maxAttempts, Saturating.toNat_succ]
    have : 0 < Saturating.max32 := by decide
    omega
  have hcount : (0 : UInt32).toNat + (policy.maxAttempts.toNat - 1) + 1 =
      policy.maxAttempts.toNat := by
    rw [UInt32.toNat_zero]
    omega
  refine ⟨askCounting_eq policy limit draw now _ _ 0 0 hcount, fun i => Call.mayPass_of_late, ?_⟩
  intro x
  obtain ⟨n, h⟩ := asked_askAgain policy limit draw now (Call.script millis calls)
    (policy.maxAttempts.toNat - 1) 0 0 s 0
  have hreply : (Attempts.nth (Call.script millis calls) 0 n).reply =
      .outcome ((calls n).outcome millis) := by
    rw [Call.nth_script, Call.reply_attempt]
  change Asked policy limit draw now (Call.script millis calls)
    (policy.maxAttempts.toNat - 1) 0 s 0 n x.1.1 x.1.2 x.2 at h
  have hending := h.ending
  generalize hc : x.1.1.ending = ending at hending
  cases hending with
  | outOfTime hlimit => exact .inl ⟨hlimit, rfl⟩
  | breakdown hbreak =>
    rw [hreply] at hbreak
    cases hbreak
  | outcome ho hlast =>
    rw [hreply] at ho
    cases ho
    refine .inr ⟨n + 1, SettledAfter.isDue h hlast, ?_, SettledAfter.of_asked h hc⟩
    rw [h.world, Call.worldAfter_script, Nat.zero_add]

-- A source that is silent at first is called once more and then answers.
example :
    let calls (i : Nat) : Call String := if i = 1 then some (.ok ["a", "b"], 10) else none
    let x := ((RetryPolicy.default.ask none (fun _ => 0) .epoch (Call.script 5000 calls)).run
      (Stats.empty .mouser : Stats Float)).run 0
    x.2 = 2 ∧ x.1.2.attempts = 2 ∧ x.1.2.failures = 1 ∧ x.1.2.results = 2 :=
  ⟨rfl, rfl, rfl, rfl⟩

end RetryPolicy

end PartSourcing
