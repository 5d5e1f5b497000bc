import PartSourcing.Proofs.Query.Accounts
import PartSourcing.Proofs.Search.Disabling

/-!
# What searches tell a recorder

The statistics of a source that takes part in searches are written by its recorder alone: whatever
its attempts do, a turn of the source tells the recorder something, and nothing else changes its
statistics (`Member.told_turn`).  So the books of every source are right after every search
(`Member.accounts_of_history`).
-/

namespace PartSourcing

open PartSourcing.Calendar

/-- **The statistics after something was told** to the recorder. -/
def Told (s s' : Stats Float) : Prop := ∃ events, s' = (s.recordAll events).2

namespace Told

theorem refl (s : Stats Float) : Told s s := ⟨[], rfl⟩

theorem of_record (s : Stats Float) (e : Stats.Event Float) : Told s (s.record e).2 := ⟨[e], rfl⟩

theorem trans {s s' s'' : Stats Float} (h : Told s s') (h' : Told s' s'') : Told s s'' := by
  obtain ⟨events, rfl⟩ := h
  obtain ⟨later, rfl⟩ := h'
  exact ⟨events ++ later, by rw [Stats.recordAll_append]⟩

end Told

/-- Asking that does nothing to the statistics but tell the recorder. -/
def Tells {γ σ : Type} (x : StateT (Stats Float) (StateM σ) γ) : Prop :=
  ∀ s w, Told s ((x.run s).run w).1.2

namespace Tells

variable {γ δ σ : Type}

theorem pure (c : γ) : Tells (σ := σ) (Pure.pure c) := fun s _ => Told.refl s

theorem lift (x : StateM σ γ) : Tells (liftM x : StateT (Stats Float) (StateM σ) γ) :=
  fun s _ => Told.refl s

theorem bind {x : StateT (Stats Float) (StateM σ) γ}
    {next : γ → StateT (Stats Float) (StateM σ) δ} (hx : Tells x) (hnext : ∀ c, Tells (next c)) :
    Tells (x >>= next) := by
  intro s w
  rw [StateT.run_bind, StateT.run_bind]
  exact (hx s w).trans (hnext _ _ _)

end Tells

namespace RetryPolicy

variable {β σ : Type}

/-- An attempt in time is told, and any other is not. -/
theorem tells_tryOnce (limit : Option Nat) (now : Instant) (attempt : StateM σ (Attempt β))
    (elapsed : Nat) : Tells (tryOnce limit now attempt elapsed) := by
  unfold tryOnce
  refine (Tells.lift attempt).bind fun a => ?_
  dsimp only
  split
  · exact .pure _
  · exact .pure _
  · rename_i o hlimit hreply
    have htold : Tells (σ := σ) (modify fun s : Stats Float =>
        s.countAttempt (ScoreNumber.ofNat a.millis) (o.map Stats.resultCount) now) :=
      fun s _ => Told.of_record s (.attempt (ScoreNumber.ofNat a.millis) (o.map Stats.resultCount) now)
    exact htold.bind fun _ => .pure _

theorem tells_askAgain (policy : RetryPolicy) (limit : Option Nat) (draw : Nat → Nat)
    (now : Instant) (attempt : StateM σ (Attempt β)) (left retry elapsed : Nat) :
    Tells (askAgain policy limit draw now attempt left retry elapsed) := by
  induction left generalizing retry elapsed with
  | zero =>
    refine (tells_tryOnce limit now attempt elapsed).bind fun t => ?_
    cases t with
    | ended c => exact .pure c
    | failed e elapsed => exact .pure _
  | succ left ih =>
    refine (tells_tryOnce limit now attempt elapsed).bind fun t => ?_
    cases t with
    | ended c => exact .pure c
    | failed e elapsed =>
      dsimp only
      split
      · exact .pure _
      · exact (ih _ _).bind fun rest => .pure _

end RetryPolicy

namespace Member

variable {σ : Type}

theorem told_countCut (c : Course RawRecord) (s : Stats Float) : Told s (countCut c s) := by
  unfold countCut
  split
  · exact Told.of_record s (.failure _)
  · exact Told.refl s

theorem told_conclude (c : Course RawRecord) (s : Stats Float) : Told s (conclude c s) := by
  refine (told_countCut c s).trans ?_
  unfold conclude
  split
  · split
    · exact Told.of_record _ (.disable _)
    · exact Told.refl _
  · exact Told.refl _

/-- **A turn does nothing to the statistics of a source but tell its recorder.** -/
theorem told_turn (m : Member) (round : Round σ) (w : σ) :
    Told m.stats (m.turn round w).after.stats := by
  cases h : m.stats.isDisabled with
  | true =>
    rw [turn_of_disabled m round w h]
    exact Told.refl m.stats
  | false =>
    rw [turn_of_enabled m round w h]
    have hsearch : Told m.stats m.stats.countSearch := Told.of_record m.stats .search
    have hasking : Told m.stats.countSearch (m.asking round w).1.2 :=
      RetryPolicy.tells_askAgain _ _ _ _ _ _ _ _ m.stats.countSearch w
    exact (hsearch.trans hasking).trans (told_conclude _ _)

/-- In a run of searches the recorder is told one thing after the other. -/
theorem told_before {ms : List Member} {rounds : List (Round σ)} {w : σ} {n i : Nat}
    {ts : List (Turn σ)} {t : Turn σ} (hts : (history ms rounds w)[n]? = some ts)
    (ht : ts[i]? = some t) :
    ∃ m, ms[i]? = some m ∧ Told m.stats t.after.stats := by
  induction rounds generalizing ms w n with
  | nil => exact absurd hts.symm (Option.some_ne_none ts)
  | cons round rounds ih =>
    cases n with
    | zero =>
      obtain rfl := Option.some.inj hts
      obtain ⟨m, w', hm, rfl⟩ := exists_turn ht
      exact ⟨m, hm, told_turn m round w'⟩
    | succ n =>
      obtain ⟨m', hm', htold⟩ := ih hts
      rw [List.getElem?_map] at hm'
      obtain ⟨first, hfirst, rfl⟩ := Option.map_eq_some_iff.mp hm'
      obtain ⟨m, w', hm, rfl⟩ := exists_turn hfirst
      exact ⟨m, hm, (told_turn m round w').trans htold⟩

/-- **The books of a source are right after every search** of a run. -/
theorem accounts_of_history {ps : List Provider} {rounds : List (Round σ)} {w : σ} {n i : Nat}
    {ts : List (Turn σ)} {t : Turn σ}
    (hts : (history (ps.map Member.new) rounds w)[n]? = some ts) (ht : ts[i]? = some t) :
    ∃ events answers, Stats.Accounts events answers t.after.stats := by
  obtain ⟨m, hm, events, hevents⟩ := told_before hts ht
  obtain ⟨p, -, rfl⟩ := List.mem_map.mp (List.mem_of_getElem? hm)
  rw [hevents]
  exact ⟨events, _, Stats.accounts_recordAll p.source events⟩

end Member

end PartSourcing
