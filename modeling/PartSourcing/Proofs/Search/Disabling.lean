import PartSourcing.Proofs.Search.Inquiry

/-!
# Sources that are set up wrongly

A source that rejects the key it is given, or that lacks what it needs, will do so again; once it
has been found so it is disabled.  **From then on it is never asked, and nothing in its statistics
changes** (`Member.disabled_for_good`).  Nothing else disables a source: failures that end an
attempt, the end of the time for a search and a breakdown all pass through the same statistics, and
none of them touches the reason (`RetryPolicy.keeps_askAgain`).

In a search every source has its turn (`Turn`), in the order in which they were registered, and
each turn finds the world as the one before has left it.  An attempt may do anything to the world,
so a turn that leaves the world as it was, whatever attempts do, has made none.  In a run of
searches the source finds itself in the state in which its last turn has left it, and so the reason
that it is disabled for, if it is, is the first that its earlier turns have given
(`Member.disabled_before`).
-/

namespace PartSourcing

open PartSourcing.Calendar

/-! ## What asking leaves alone -/

/-- Asking that leaves a part of the statistics as it is. -/
def Keeps {γ κ σ : Type} (part : Stats Float → κ) (x : StateT (Stats Float) (StateM σ) γ) : Prop :=
  ∀ s w, part ((x.run s).run w).1.2 = part s

namespace Keeps

variable {γ δ κ σ : Type} {part : Stats Float → κ}

theorem pure (c : γ) : Keeps (σ := σ) part (Pure.pure c) := fun _ _ => rfl

theorem lift (x : StateM σ γ) : Keeps part (liftM x : StateT (Stats Float) (StateM σ) γ) :=
  fun _ _ => rfl

theorem modify {f : Stats Float → Stats Float} (h : ∀ s, part (f s) = part s) :
    Keeps (σ := σ) part (MonadState.modifyGet fun s => ((), f s)) := fun s _ => h s

theorem bind {x : StateT (Stats Float) (StateM σ) γ}
    {next : γ → StateT (Stats Float) (StateM σ) δ} (hx : Keeps part x)
    (hnext : ∀ c, Keeps part (next c)) : Keeps part (x >>= next) := by
  intro s w
  rw [StateT.run_bind, StateT.run_bind]
  exact (hnext _ _ _).trans (hx s w)

end Keeps

theorem Stats.disabled_countAttempt (s : Stats Float) (latency : Float)
    (outcome : Except QueryError UInt64) (now : Instant) :
    (s.countAttempt latency outcome now).disabled = s.disabled := by
  unfold countAttempt
  cases outcome <;> rfl

namespace RetryPolicy

variable {β σ : Type}

theorem keeps_tryOnce (limit : Option Nat) (now : Instant) (attempt : StateM σ (Attempt β))
    (elapsed : Nat) : Keeps Stats.disabled (tryOnce limit now attempt elapsed) := by
  unfold tryOnce
  refine (Keeps.lift attempt).bind fun a => ?_
  dsimp only
  split
  · exact .pure _
  · exact .pure _
  · exact (Keeps.modify fun s => s.disabled_countAttempt _ _ now).bind fun _ => .pure _

/-- **No attempt disables a source**, and neither does its being asked again. -/
theorem keeps_askAgain (policy : RetryPolicy) (limit : Option Nat) (draw : Nat → Nat)
    (now : Instant) (attempt : StateM σ (Attempt β)) (left retry elapsed : Nat) :
    Keeps Stats.disabled (askAgain policy limit draw now attempt left retry elapsed) := by
  induction left generalizing retry elapsed with
  | zero =>
    refine (keeps_tryOnce limit now attempt elapsed).bind fun t => ?_
    cases t with
    | ended c => exact .pure c
    | failed e elapsed => exact .pure _
  | succ left ih =>
    refine (keeps_tryOnce limit now attempt elapsed).bind fun t => ?_
    cases t with
    | ended c => exact .pure c
    | failed e elapsed =>
      dsimp only
      split
      · exact .pure _
      · exact (ih _ _).bind fun rest => .pure _

end RetryPolicy

/-! ## One source -/

/-- What shows that a source is set up wrongly, in words: that it has rejected a key or lacks what
it needs.  No other outcome does. -/
def Outcome.setupFailure? : Outcome → Option String
  | .failed (.auth d) => some (QueryError.auth d).message
  | .failed (.config d) => some (QueryError.config d).message
  | _ => none

theorem Outcome.setupFailure?_isSome_iff {o : Outcome} :
    o.setupFailure?.isSome = true ↔ ∃ d, o = .failed (.auth d) ∨ o = .failed (.config d) := by
  unfold setupFailure?
  split
  · exact iff_of_true rfl ⟨_, Or.inl rfl⟩
  · exact iff_of_true rfl ⟨_, Or.inr rfl⟩
  · rename_i hauth hconfig
    refine iff_of_false Bool.false_ne_true ?_
    rintro ⟨d, h | h⟩
    · exact hauth d h
    · exact hconfig d h

/-- A failure disables a source if it shows that the source is set up wrongly. -/
theorem Outcome.setupFailure?_failed (e : QueryError) :
    (Outcome.failed e).setupFailure? = if e.disables then some e.message else none := by
  cases e <;> rfl

/-- **The part of a source in one search**: the source before and after it, what it came to, and
what the world was like before and after. -/
structure Turn (σ : Type) where
  before : Member
  outcome : SourceOutcome
  after : Member
  worldBefore : σ
  worldAfter : σ

namespace Member

variable {σ : Type}

/-- The turn of a source. -/
def turn (m : Member) (round : Round σ) (w : σ) : Turn σ :=
  let x : (SourceOutcome × Member) × σ := (m.respond round).run w
  { before := m, outcome := x.1.1, after := x.1.2, worldBefore := w, worldAfter := x.2 }

section Turn

variable (m : Member) (round : Round σ) (w : σ)

/-- How the source is asked in its turn, if it is not disabled. -/
def asking : (Course RawRecord × Stats Float) × σ :=
  ((round.policy.ask (some round.deadline.toNat) round.draw round.now
    (round.attempt m.provider)).run m.stats.countSearch).run w

theorem turn_of_disabled (h : m.stats.isDisabled = true) : m.turn round w =
    { before := m, outcome := ⟨m.source, .disabled, 0⟩, after := m,
      worldBefore := w, worldAfter := w } := by
  unfold turn respond
  rw [if_pos h]
  rfl

theorem turn_of_enabled (h : m.stats.isDisabled = false) : m.turn round w =
    let x := m.asking round w
    { before := m, outcome := ⟨m.source, outcomeOf x.1.1, x.1.1.elapsed⟩,
      after := { m with stats := conclude x.1.1 x.1.2 }, worldBefore := w, worldAfter := x.2 } := by
  unfold turn respond
  rw [if_neg (ne_true_of_eq_false h)]
  rfl

theorem outcomeOf_ne_disabled (c : Course RawRecord) : outcomeOf c ≠ .disabled := by
  unfold outcomeOf
  split <;> exact Outcome.noConfusion

theorem disabled_countCut (c : Course RawRecord) (s : Stats Float) :
    (countCut c s).disabled = s.disabled := by
  unfold countCut
  split <;> rfl

theorem disabled_conclude (c : Course RawRecord) (s : Stats Float) :
    (conclude c s).disabled = s.disabled.or (outcomeOf c).setupFailure? := by
  unfold conclude
  rw [← disabled_countCut c s]
  cases outcomeOf c with
  | succeeded rs => exact Option.or_none.symm
  | disabled => exact Option.or_none.symm
  | failed e =>
    rw [Outcome.setupFailure?_failed]
    cases he : e.disables with
    | true => simp only [he, if_true, Stats.disable]
    | false => simp only [he, Bool.false_eq_true, if_false, Option.or_none]

/-- **A turn finds the source disabled or asks it.** -/
theorem turn_outcome_eq_disabled_iff :
    (m.turn round w).outcome.outcome = .disabled ↔ m.stats.isDisabled = true := by
  cases h : m.stats.isDisabled with
  | true =>
    rw [turn_of_disabled m round w h]
    exact iff_of_true rfl rfl
  | false =>
    rw [turn_of_enabled m round w h]
    exact iff_of_false (outcomeOf_ne_disabled _) Bool.false_ne_true

/-- **After a turn** the source is disabled for the reason that it was disabled for before, or else
for that which the turn has given, if it has given one. -/
theorem disabled_turn_after : (m.turn round w).after.stats.disabled =
    m.stats.disabled.or (m.turn round w).outcome.outcome.setupFailure? := by
  cases h : m.stats.isDisabled with
  | true =>
    rw [turn_of_disabled m round w h]
    exact (Option.or_none).symm
  | false =>
    have hasking : (m.asking round w).1.2.disabled = m.stats.disabled :=
      RetryPolicy.keeps_askAgain _ _ _ _ _ _ _ _ m.stats.countSearch w
    rw [turn_of_enabled m round w h]
    exact (disabled_conclude _ _).trans (congrArg (Option.or · _) hasking)

theorem turn_source : (m.turn round w).outcome.source = m.source := by
  cases h : m.stats.isDisabled with
  | true => rw [turn_of_disabled m round w h]
  | false => rw [turn_of_enabled m round w h]

theorem turn_after_source : (m.turn round w).after.source = m.source := by
  cases h : m.stats.isDisabled with
  | true => rw [turn_of_disabled m round w h]
  | false =>
    rw [turn_of_enabled m round w h]
    rfl

end Turn

/-! ## One search -/

/-- The turns of one search. -/
def turns (round : Round σ) : List Member → σ → List (Turn σ)
  | [], _ => []
  | m :: ms, w => m.turn round w :: turns round ms (m.turn round w).worldAfter

/-- The world after some turns. -/
def worldAfter (w : σ) (ts : List (Turn σ)) : σ := (ts.getLast?.map (·.worldAfter)).getD w

theorem worldAfter_cons (w : σ) (t : Turn σ) (ts : List (Turn σ)) :
    worldAfter w (t :: ts) = worldAfter t.worldAfter ts := by
  unfold worldAfter
  rw [List.getLast?_cons]
  cases ts.getLast? <;> rfl

/-- **A search is the turns of its sources.** -/
theorem respondAll_run (ms : List Member) (round : Round σ) (w : σ) :
    (respondAll ms round).run w =
      ((turns round ms w).map fun t => (t.outcome, t.after), worldAfter w (turns round ms w)) := by
  unfold respondAll
  induction ms generalizing w with
  | nil => rfl
  | cons m ms ih =>
    have hrest := ih (m.turn round w).worldAfter
    rw [List.mapM_cons, turns, worldAfter_cons, List.map_cons]
    exact congrArg (fun x : List (SourceOutcome × Member) × σ =>
      (((m.turn round w).outcome, (m.turn round w).after) :: x.1, x.2)) hrest

/-- In its place every source has its turn. -/
theorem getElem?_turns (round : Round σ) (ms : List Member) (w : σ) (i : Nat) :
    ∃ w', (turns round ms w)[i]? = ms[i]?.map fun m => m.turn round w' := by
  induction ms generalizing w i with
  | nil => exact ⟨w, rfl⟩
  | cons m ms ih =>
    cases i with
    | zero => exact ⟨w, rfl⟩
    | succ i => exact ih (m.turn round w).worldAfter i

theorem exists_turn {round : Round σ} {ms : List Member} {w : σ} {i : Nat} {t : Turn σ}
    (h : (turns round ms w)[i]? = some t) :
    ∃ m w', ms[i]? = some m ∧ t = m.turn round w' := by
  obtain ⟨w', hw'⟩ := getElem?_turns round ms w i
  obtain ⟨m, hm, rfl⟩ := Option.map_eq_some_iff.mp (hw'.symm.trans h)
  exact ⟨m, w', hm, rfl⟩

theorem turns_sources (round : Round σ) (ms : List Member) (w : σ) :
    (turns round ms w).map (·.outcome.source) = ms.map source := by
  induction ms generalizing w with
  | nil => rfl
  | cons m ms ih => rw [turns, List.map_cons, List.map_cons, turn_source, ih]

theorem turns_after_sources (round : Round σ) (ms : List Member) (w : σ) :
    ((turns round ms w).map (·.after)).map source = ms.map source := by
  induction ms generalizing w with
  | nil => rfl
  | cons m ms ih => rw [turns, List.map_cons, List.map_cons, List.map_cons, turn_after_source, ih]

/-! ## Searches one after the other -/

/-- **The turns of some searches**, each search finding the sources and the world as the one before
has left them. -/
def history : List Member → List (Round σ) → σ → List (List (Turn σ))
  | _, [], _ => []
  | ms, round :: rounds, w =>
    turns round ms w :: history ((turns round ms w).map (·.after)) rounds
      (worldAfter w (turns round ms w))

/-- The turns of the source in one place. -/
def turnsOf (i : Nat) (searches : List (List (Turn σ))) : List (Turn σ) :=
  searches.filterMap (·[i]?)

/-- The first reason that some turns have given to disable the source. -/
def firstReason (ts : List (Turn σ)) : Option String :=
  ts.findSome? (·.outcome.outcome.setupFailure?)

theorem firstReason_cons (t : Turn σ) (ts : List (Turn σ)) :
    firstReason (t :: ts) = t.outcome.outcome.setupFailure?.or (firstReason ts) := by
  unfold firstReason
  rw [List.findSome?_cons]
  cases t.outcome.outcome.setupFailure? <;> rfl

theorem firstReason_concat (ts : List (Turn σ)) (t : Turn σ) :
    firstReason (ts ++ [t]) = (firstReason ts).or t.outcome.outcome.setupFailure? := by
  have hone : firstReason [t] = t.outcome.outcome.setupFailure? := by
    rw [firstReason_cons]
    exact Option.or_none
  rw [← hone]
  exact List.findSome?_append

/-- A reason is given by the turns that have shown a wrong setup. -/
theorem firstReason_isSome_iff {ts : List (Turn σ)} : (firstReason ts).isSome = true ↔
    ∃ t ∈ ts, ∃ d, t.outcome.outcome = .failed (.auth d) ∨
      t.outcome.outcome = .failed (.config d) := by
  rw [firstReason, List.findSome?_isSome_iff]
  exact exists_congr fun t => and_congr_right fun _ => Outcome.setupFailure?_isSome_iff

variable {ms : List Member} {rounds : List (Round σ)} {w : σ} {n i : Nat} {ts : List (Turn σ)}
  {t : Turn σ}

theorem length_history (ms : List Member) (rounds : List (Round σ)) (w : σ) :
    (history ms rounds w).length = rounds.length := by
  induction rounds generalizing ms w with
  | nil => rfl
  | cons round rounds ih => rw [history, List.length_cons, List.length_cons, ih]

/-- **Every search has one outcome for each source**, in their order. -/
theorem sources_of_mem_history (h : ts ∈ history ms rounds w) :
    ts.map (·.outcome.source) = ms.map source := by
  induction rounds generalizing ms w with
  | nil => exact absurd h List.not_mem_nil
  | cons round rounds ih =>
    rcases List.mem_cons.mp h with rfl | hlater
    · exact turns_sources round ms w
    · rw [ih hlater, turns_after_sources]

/-- Every turn in a run is that of a source in some round. -/
theorem exists_turn_of_history (hts : (history ms rounds w)[n]? = some ts) (ht : ts[i]? = some t) :
    ∃ (m : Member) (round : Round σ) (w' : σ), t = m.turn round w' := by
  induction rounds generalizing ms w n with
  | nil => exact absurd hts.symm (Option.some_ne_none ts)
  | cons round rounds ih =>
    cases n with
    | zero =>
      obtain rfl := Option.some.inj hts
      obtain ⟨m, w', -, rfl⟩ := exists_turn ht
      exact ⟨m, round, w', rfl⟩
    | succ n => exact ih hts

/-- **A source is disabled before its turn** for the reason that it was disabled for at first, or
else for the first that its earlier turns have given. -/
theorem disabled_before (hts : (history ms rounds w)[n]? = some ts) (ht : ts[i]? = some t) :
    ∃ m, ms[i]? = some m ∧ t.before.stats.disabled =
      m.stats.disabled.or (firstReason (turnsOf i ((history ms rounds w).take n))) := by
  -- a turn hands the source on to the next search, with the reason that it has given
  induction rounds generalizing ms w n with
  | nil => exact absurd hts.symm (Option.some_ne_none ts)
  | cons round rounds ih =>
    cases n with
    | zero =>
      obtain rfl := Option.some.inj hts
      obtain ⟨m, w', hm, rfl⟩ := exists_turn ht
      exact ⟨m, hm, Option.or_none.symm⟩
    | succ n =>
      obtain ⟨m', hm', hbefore⟩ := ih hts
      rw [List.getElem?_map] at hm'
      obtain ⟨first, hfirst, rfl⟩ := Option.map_eq_some_iff.mp hm'
      obtain ⟨m, w', hm, rfl⟩ := exists_turn hfirst
      refine ⟨m, hm, ?_⟩
      have hturns : turnsOf i ((history ms (round :: rounds) w).take (n + 1)) =
          m.turn round w' :: turnsOf i ((history ((turns round ms w).map (·.after)) rounds
            (worldAfter w (turns round ms w))).take n) := by
        rw [history, List.take_succ_cons]
        exact List.filterMap_cons_some hfirst
      rw [hbefore, disabled_turn_after, hturns, firstReason_cons, Option.or_assoc]

/-- The searches after one of them are those that its turns have led to. -/
theorem drop_history (hts : (history ms rounds w)[n]? = some ts) : ∃ w',
    (history ms rounds w).drop (n + 1) =
      history (ts.map (·.after)) (rounds.drop (n + 1)) w' := by
  induction rounds generalizing ms w n with
  | nil => exact absurd hts.symm (Option.some_ne_none ts)
  | cons round rounds ih =>
    cases n with
    | zero =>
      obtain rfl := Option.some.inj hts
      exact ⟨_, rfl⟩
    | succ n => exact ih hts

/-- **A source that is disabled stays as it is** in every search, and leaves the world as it is. -/
theorem turn_eq_of_disabled {m : Member} (hm : ms[i]? = some m) (hd : m.stats.isDisabled = true)
    (hts : (history ms rounds w)[n]? = some ts) (ht : ts[i]? = some t) :
    ∃ w', t = ⟨m, ⟨m.source, .disabled, 0⟩, m, w', w'⟩ := by
  induction rounds generalizing ms w n with
  | nil => exact absurd hts.symm (Option.some_ne_none ts)
  | cons round rounds ih =>
    obtain ⟨w', hturn⟩ := getElem?_turns round ms w i
    rw [hm, Option.map_some, turn_of_disabled m round w' hd] at hturn
    cases n with
    | zero =>
      obtain rfl := Option.some.inj hts
      exact ⟨w', Option.some.inj (ht.symm.trans hturn)⟩
    | succ n =>
      refine ih ?_ hts
      rw [List.getElem?_map, hturn]
      rfl

/-- **What has shown a wrong setup disables a source for good.**  In a run of searches from sources
that have not been asked, every search has one outcome for each source, in the order in which they
were registered.  A source is disabled in a search just if an earlier search has ended for it with a
rejected key or a missing setting; the reason is the first of these, and a failure of any other kind
gives none.  Once it is disabled, no later search changes it or, whatever an attempt would do, does
anything to the world on its account. -/
theorem disabled_for_good (ps : List Provider) (rounds : List (Round σ)) (w : σ) :
    let searches := history (ps.map Member.new) rounds w
    searches.length = rounds.length ∧
    (∀ ts ∈ searches, ts.map (·.outcome.source) = ps.map (·.source)) ∧
    ∀ n ts i t, searches[n]? = some ts → ts[i]? = some t →
      (t.outcome.outcome = .disabled ↔ ∃ t' ∈ turnsOf i (searches.take n), ∃ d,
        t'.outcome.outcome = .failed (.auth d) ∨ t'.outcome.outcome = .failed (.config d)) ∧
      t.after.stats.disabled = firstReason (turnsOf i (searches.take (n + 1))) ∧
      (t.after.stats.isDisabled = true → ∀ n' ts' t', n < n' → searches[n']? = some ts' →
        ts'[i]? = some t' → t'.outcome.outcome = .disabled ∧ t'.before = t.after ∧
          t'.after = t.after ∧ t'.worldAfter = t'.worldBefore) := by
  intro searches
  refine ⟨length_history _ rounds w, fun ts hts => ?_, fun n ts i t hts ht => ?_⟩
  · rw [sources_of_mem_history hts, List.map_map]
    rfl
  obtain ⟨m, hm, hbefore⟩ := disabled_before hts ht
  have hnew : m.stats.disabled = none := by
    obtain ⟨p, -, rfl⟩ := List.mem_map.mp (List.mem_of_getElem? hm)
    rfl
  rw [hnew, Option.none_or] at hbefore
  refine ⟨?_, ?_, fun hd n' ts' t' hn hts' ht' => ?_⟩
  · obtain ⟨m', round, w', rfl⟩ := exists_turn_of_history hts ht
    have hreason : m'.stats.disabled = firstReason (turnsOf i (searches.take n)) := hbefore
    rw [turn_outcome_eq_disabled_iff, Stats.isDisabled, hreason, firstReason_isSome_iff]
  · have hturns : turnsOf i (searches.take (n + 1)) = turnsOf i (searches.take n) ++ [t] := by
      unfold turnsOf
      rw [List.take_add_one, hts, List.filterMap_append]
      exact congrArg (_ ++ ·) (List.filterMap_cons_some ht)
    obtain ⟨m', round, w', rfl⟩ := exists_turn_of_history hts ht
    have hreason : m'.stats.disabled = firstReason (turnsOf i (searches.take n)) := hbefore
    rw [disabled_turn_after, hreason, hturns, firstReason_concat]
  · obtain ⟨w', hlater⟩ := drop_history hts
    have hafter : (ts.map (·.after))[i]? = some t.after := by
      rw [List.getElem?_map, ht]
      rfl
    have hts' : (history (ts.map (·.after)) (rounds.drop (n + 1)) w')[n' - (n + 1)]? =
        some ts' := by
      rw [← hlater, List.getElem?_drop, Nat.add_sub_cancel' hn]
      exact hts'
    obtain ⟨w'', rfl⟩ := turn_eq_of_disabled hafter hd hts' ht'
    exact ⟨rfl, rfl, rfl, rfl⟩

/-- A source whose records are read as one vendor's offers. -/
def keyedSource : Provider where
  source := .mouser
  currency := "USD"
  ready := .ok ()
  request _ := .error (.config "no address")
  payloads _ _ := .ok []
  listing _ _ := .ok { vendorName := some "Acme", part := some "AB1" }

/-- A search in which keys are rejected.  The world counts the attempts. -/
def keysRejected : Round Nat where
  policy := .default
  deadline := 5000
  now := .epoch
  draw _ := 0
  attempt _ := fun w => (⟨.outcome (.error (.auth "HTTP 401: expired")), 20⟩, w + 1)

/-- Of two such searches the second makes no attempt. -/
theorem disabled_by_keysRejected : ∃ t t',
    history ([keyedSource].map Member.new) [keysRejected, keysRejected] 0 = [[t], [t']] ∧
    t.outcome.outcome = .failed (.auth "HTTP 401: expired") ∧ t.worldAfter = 1 ∧
    t.after.stats.disabled = some "auth rejected: HTTP 401: expired" ∧
    t'.outcome.outcome = .disabled ∧ t'.after = t.after ∧ t'.worldAfter = 1 := by
  refine ⟨_, _, rfl, rfl, rfl, ?_⟩
  have hlaw := (disabled_for_good [keyedSource] [keysRejected, keysRejected] 0).2.2
  have hfirst := hlaw 0 _ 0 _ rfl rfl
  have hreason := hfirst.2.1
  have hstays := hfirst.2.2 rfl 1 _ _ Nat.one_pos rfl rfl
  exact ⟨hreason, hstays.1, hstays.2.2.1, hstays.2.2.2⟩

end Member

/-! ## Searches of an engine -/

namespace Engine

variable {σ τ : Type} {e e' : Engine} {store : Store τ} {reliability : String → Float}
  {o : Occasion σ} {req : Requirement} {memory memory' : τ} {w w' : σ} {result : SearchResult}

/-- How an engine asks its sources: an attempt is a query over the wire. -/
def round (e : Engine) (o : Occasion σ) (req : Requirement) : Round σ where
  policy := e.config.retry
  deadline := e.config.deadline
  now := o.now
  draw := o.draw
  attempt p := Member.attempt p e.client o req

/-- **A search of an engine is one search of such a run**: its report lists the outcomes of the
turns, and the engine goes on with the sources as the turns have left them. -/
theorem turns_of_search
    (h : (e.search store reliability o req memory).run w = (.ok (result, e', memory'), w')) :
    result.report = (Member.turns (e.round o req) e.members w).map (·.outcome) ∧
      e'.members = (Member.turns (e.round o req) e.members w).map (·.after) ∧
      w' = Member.worldAfter w (Member.turns (e.round o req) e.members w) := by
  have hasked : e.asked o req w =
      ((Member.turns (e.round o req) e.members w).map fun t => (t.outcome, t.after),
        Member.worldAfter w (Member.turns (e.round o req) e.members w)) :=
    Member.respondAll_run e.members (e.round o req) w
  rw [search_run, hasked] at h
  cases hreq : req.validate with
  | error f =>
    rw [hreq] at h
    cases h
  | ok u =>
    rw [hreq] at h
    simp only [List.map_map] at h
    cases hc : e.concluded? store reliability o req memory w with
    | none =>
      rw [hc] at h
      cases h
    | some found =>
      rw [hc] at h
      cases h
      exact ⟨rfl, rfl, rfl⟩

end Engine

end PartSourcing
