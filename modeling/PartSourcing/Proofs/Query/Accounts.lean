import Mathlib.Tactic.FieldSimp
import PartSourcing.Proofs.Score.Exact
import PartSourcing.Query.Recorder

/-!
# The books of a source

The statistics of a source say nothing but what their recorder was told.  Each of them is a count,
a sum or an end of one of five lists that are read off the calls: how long attempts took, how many
results those that succeeded had and when they had them, what failed, and why the source was to be
disabled.  A failure is counted whether it was an attempt or not, so it is the attempts and the
failures outside of them together that successes and failures add up to.

One call puts its entries at the ends of these lists (`Accounts.record`), and a run of calls is an
induction on its last one (`accounts_recordAll`).  Counts are machine words, so what they say of these
lists holds up to whole turns of a word; **a book is exact as long as its count does not run over**
(`books_of_recorder`), and no longer than that (`results_run_over`).  The mean is kept running, each
latency moving it by its share of the difference; in exact arithmetic the shares add up to the mean
of all of them (`RunningMean.IsMeanOf.add`).
-/

namespace PartSourcing

open PartSourcing.Calendar

/-! ## The running mean -/

/-- **A mean of the given values**, or zero if there are none. -/
structure RunningMean.IsMeanOf (m : RunningMean ℝ) (xs : List ℝ) : Prop where
  count : m.count = UInt64.ofNat xs.length
  mean : m.mean = if xs = [] then 0 else xs.sum / xs.length

namespace RunningMean.IsMeanOf

theorem empty : IsMeanOf RunningMean.empty [] := by
  refine ⟨rfl, ?_⟩
  rw [if_pos rfl, RunningMean.empty, ScoreNumber.ofNat_real, Nat.cast_zero]

theorem sum_eq {m : RunningMean ℝ} {xs : List ℝ} (h : IsMeanOf m xs) :
    xs.sum = m.mean * xs.length := by
  by_cases hxs : xs = []
  · simp [hxs]
  · have hlen : (xs.length : ℝ) ≠ 0 := by simpa using hxs
    rw [h.mean, if_neg hxs, div_mul_cancel₀ _ hlen]

/-- **One more value** moves the mean to that of all, as long as they can be counted. -/
theorem add {m : RunningMean ℝ} {xs : List ℝ} (h : IsMeanOf m xs) (x : ℝ)
    (hfits : xs.length + 1 < UInt64.size) : IsMeanOf (m.add x) (xs ++ [x]) := by
  have hlen : ((xs.length : ℝ) + 1) ≠ 0 := by positivity
  have hcount : m.count + 1 = UInt64.ofNat (xs.length + 1) := by
    rw [h.count, UInt64.ofNat_add, UInt64.ofNat_one]
  refine ⟨?_, ?_⟩
  · rw [List.length_append, List.length_singleton]
    exact hcount
  · have hsum := h.sum_eq
    rw [if_neg (by simp), List.sum_append, List.sum_singleton, hsum, List.length_append,
      List.length_singleton]
    simp only [RunningMean.add, hcount, UInt64.toNat_ofNat_of_lt' hfits, ScoreNumber.ofNat_real]
    push_cast
    field_simp
    ring

end RunningMean.IsMeanOf

namespace Stats

variable {α : Type}

/-! ## What the calls say -/

namespace Event

/-- How long an attempt took. -/
def latency? : Event α → Option α
  | .attempt latency _ _ => some latency
  | _ => none

/-- How many results an attempt had that succeeded, and when. -/
def success? : Event α → Option (UInt64 × Instant)
  | .attempt _ (.ok n) now => some (n, now)
  | _ => none

/-- What failed, in an attempt or outside of one. -/
def error? : Event α → Option QueryError
  | .attempt _ (.error e) _ => some e
  | .failure e => some e
  | _ => none

/-- Why the source was to be disabled. -/
def reason? : Event α → Option String
  | .disable reason => some reason
  | _ => none

/-- Whether a search began. -/
def isSearch : Event α → Bool
  | .search => true
  | _ => false

end Event

variable [Add α] [Sub α] [Div α] [ScoreNumber α]

section Record

variable (s : Stats α) (e : Event α)

/-! ## One call -/

theorem record_searches :
    (s.record e).2.searches = s.searches + UInt64.ofNat e.isSearch.toNat := by
  rcases e with _ | ⟨_, _ | _, _⟩ | _ | _
  case search => rfl
  all_goals exact s.searches.add_zero.symm

theorem record_attempts :
    (s.record e).2.attempts = s.attempts + UInt64.ofNat e.latency?.toList.length := by
  rcases e with _ | ⟨_, _ | _, _⟩ | _ | _
  case attempt.ok => rfl
  case attempt.error => rfl
  all_goals exact s.attempts.add_zero.symm

theorem record_successes :
    (s.record e).2.successes = s.successes + UInt64.ofNat e.success?.toList.length := by
  rcases e with _ | ⟨_, _ | _, _⟩ | _ | _
  case attempt.ok => rfl
  all_goals exact s.successes.add_zero.symm

theorem record_failures :
    (s.record e).2.failures = s.failures + UInt64.ofNat e.error?.toList.length := by
  rcases e with _ | ⟨_, _ | _, _⟩ | _ | _
  case attempt.error => rfl
  case failure => rfl
  all_goals exact s.failures.add_zero.symm

theorem record_results : (s.record e).2.results =
    s.results + UInt64.ofNat (e.success?.toList.map (·.1.toNat)).sum := by
  rcases e with _ | ⟨_, _ | n, _⟩ | _ | _
  case attempt.ok => exact congrArg (s.results + ·) UInt64.ofNat_toNat.symm
  all_goals exact s.results.add_zero.symm

theorem record_lastSuccessAt :
    (s.record e).2.lastSuccessAt = (e.success?.map (·.2)).or s.lastSuccessAt := by
  rcases e with _ | ⟨_, _ | _, _⟩ | _ | _ <;> rfl

theorem record_lastError :
    (s.record e).2.lastError = (e.error?.map QueryError.message).or s.lastError := by
  rcases e with _ | ⟨_, _ | _, _⟩ | _ | _ <;> rfl

/-- The first reason stays. -/
theorem record_disabled : (s.record e).2.disabled = s.disabled.or e.reason? := by
  rcases e with _ | ⟨_, _ | _, _⟩ | _ | _
  case disable => rfl
  all_goals exact Option.or_none.symm

/-- **Only the first call that disables is told so.** -/
theorem record_answer : (s.record e).1 = e.reason?.map fun _ => !s.isDisabled := by
  rcases e with _ | ⟨_, _ | _, _⟩ | _ | _ <;> rfl

end Record

/-! ## Many calls -/

/-- The entries that some calls make, after one more. -/
theorem filterMap_concat {γ δ : Type} (f : γ → Option δ) (l : List γ) (a : γ) :
    (l ++ [a]).filterMap f = l.filterMap f ++ (f a).toList := by
  rw [List.filterMap_append]
  cases h : f a <;> simp [h]

theorem getLast?_toList {γ : Type} (o : Option γ) : o.toList.getLast? = o := by
  cases o <;> rfl

/-- **The books are right**: what stands in the statistics, and what was answered, is what the calls
so far say.  A count says it up to whole turns of a machine word. -/
structure Accounts (events : List (Event α)) (answers : List Bool) (s : Stats α) : Prop where
  searches : s.searches = UInt64.ofNat (events.countP Event.isSearch)
  attempts : s.attempts = UInt64.ofNat (events.filterMap Event.latency?).length
  successes : s.successes = UInt64.ofNat (events.filterMap Event.success?).length
  failures : s.failures = UInt64.ofNat (events.filterMap Event.error?).length
  results : s.results = UInt64.ofNat ((events.filterMap Event.success?).map (·.1.toNat)).sum
  lastSuccessAt : s.lastSuccessAt = (events.filterMap Event.success?).getLast?.map (·.2)
  lastError : s.lastError = (events.filterMap Event.error?).getLast?.map QueryError.message
  disabled : s.disabled = (events.filterMap Event.reason?).head?
  /-- Of the calls that disable, the first is answered by yes and the others by no. -/
  answers : answers = (List.range (events.filterMap Event.reason?).length).map (· == 0)

namespace Accounts

omit [Add α] [Sub α] [Div α] in
theorem empty (source : Source) : Accounts [] [] (Stats.empty source : Stats α) :=
  ⟨rfl, rfl, rfl, rfl, rfl, rfl, rfl, rfl, rfl⟩

variable {events : List (Event α)} {answers : List Bool} {s : Stats α}

/-- **One more call keeps the books right.** -/
theorem record (h : Accounts events answers s) (e : Event α) :
    Accounts (events ++ [e]) (answers ++ (s.record e).1.toList) (s.record e).2 where
  searches := by
    rw [record_searches, h.searches, List.countP_append, List.countP_singleton, UInt64.ofNat_add]
    cases e.isSearch <;> rfl
  attempts := by
    rw [record_attempts, h.attempts, filterMap_concat, List.length_append, UInt64.ofNat_add]
  successes := by
    rw [record_successes, h.successes, filterMap_concat, List.length_append, UInt64.ofNat_add]
  failures := by
    rw [record_failures, h.failures, filterMap_concat, List.length_append, UInt64.ofNat_add]
  results := by
    rw [record_results, h.results, filterMap_concat, List.map_append, List.sum_append,
      UInt64.ofNat_add]
  lastSuccessAt := by
    rw [record_lastSuccessAt, h.lastSuccessAt, filterMap_concat, List.getLast?_append,
      Option.map_or, getLast?_toList]
  lastError := by
    rw [record_lastError, h.lastError, filterMap_concat, List.getLast?_append, Option.map_or,
      getLast?_toList]
  disabled := by
    rw [record_disabled, h.disabled, filterMap_concat, List.head?_append, Option.head?_toList]
  answers := by
    rw [record_answer, filterMap_concat, List.length_append]
    cases e.reason? with
    | none => simpa using h.answers
    | some reason =>
      -- the call is the first of its kind just if no reason stands yet
      have hfirst : (!s.isDisabled) = ((events.filterMap Event.reason?).length == 0) := by
        rw [isDisabled, h.disabled]
        cases events.filterMap Event.reason? <;> rfl
      rw [Option.map_some, Option.toList_some, Option.toList_some, List.length_singleton,
        List.range_succ, List.map_append, ← h.answers, hfirst]
      rfl

end Accounts

theorem recordAll_append (s : Stats α) (events later : List (Event α)) :
    s.recordAll (events ++ later) =
      ((s.recordAll events).1 ++ ((s.recordAll events).2.recordAll later).1,
        ((s.recordAll events).2.recordAll later).2) := by
  induction events generalizing s with
  | nil => rfl
  | cons e events ih => simp only [List.cons_append, recordAll, ih, List.append_assoc]

theorem recordAll_concat (s : Stats α) (events : List (Event α)) (e : Event α) :
    s.recordAll (events ++ [e]) =
      ((s.recordAll events).1 ++ ((s.recordAll events).2.record e).1.toList,
        ((s.recordAll events).2.record e).2) := by
  rw [recordAll_append]
  simp only [recordAll, List.append_nil]

/-- **Whatever a recorder is told, the books are right.** -/
theorem accounts_recordAll (source : Source) (events : List (Event α)) :
    Accounts events ((empty source : Stats α).recordAll events).1
      ((empty source : Stats α).recordAll events).2 := by
  induction events using List.reverseRecOn with
  | nil => exact Accounts.empty source
  | append_singleton events e ih =>
    rw [recordAll_concat]
    exact ih.record e

/-- **A count that grows with the entries of one call** grows with those of all calls. -/
theorem recordAll_grows {γ : Type} {reads? : Event α → Option γ} {field : Stats α → UInt64}
    (weight : List γ → Nat) (hnil : weight [] = 0)
    (happend : ∀ l l', weight (l ++ l') = weight l + weight l')
    (h : ∀ s e, field (s.record e).2 = field s + UInt64.ofNat (weight (reads? e).toList))
    (s : Stats α) (events : List (Event α)) :
    field (s.recordAll events).2 = field s + UInt64.ofNat (weight (events.filterMap reads?)) := by
  induction events using List.reverseRecOn with
  | nil =>
    rw [List.filterMap_nil, hnil]
    exact (UInt64.add_zero _).symm
  | append_singleton events e ih =>
    rw [recordAll_concat, h, ih, filterMap_concat, happend, UInt64.ofNat_add, UInt64.add_assoc]

theorem attempts_recordAll (s : Stats α) (events : List (Event α)) :
    (s.recordAll events).2.attempts =
      s.attempts + UInt64.ofNat (events.filterMap Event.latency?).length :=
  recordAll_grows List.length rfl (fun _ _ => List.length_append) record_attempts s events

theorem successes_recordAll (s : Stats α) (events : List (Event α)) :
    (s.recordAll events).2.successes =
      s.successes + UInt64.ofNat (events.filterMap Event.success?).length :=
  recordAll_grows List.length rfl (fun _ _ => List.length_append) record_successes s events

theorem failures_recordAll (s : Stats α) (events : List (Event α)) :
    (s.recordAll events).2.failures =
      s.failures + UInt64.ofNat (events.filterMap Event.error?).length :=
  recordAll_grows List.length rfl (fun _ _ => List.length_append) record_failures s events

theorem results_recordAll (s : Stats α) (events : List (Event α)) :
    (s.recordAll events).2.results =
      s.results + UInt64.ofNat ((events.filterMap Event.success?).map (·.1.toNat)).sum := by
  refine recordAll_grows (fun l : List (UInt64 × Instant) => (l.map (·.1.toNat)).sum) rfl ?_
    record_results s events
  intro l l'
  rw [List.map_append, List.sum_append]

/-- The last failure is on record, if there is one. -/
theorem lastError_recordAll (s : Stats α) (events : List (Event α)) :
    (s.recordAll events).2.lastError =
      ((events.filterMap Event.error?).getLast?.map QueryError.message).or s.lastError := by
  induction events using List.reverseRecOn with
  | nil => rfl
  | append_singleton events e ih =>
    rw [recordAll_concat, record_lastError, ih, filterMap_concat, List.getLast?_append,
      getLast?_toList, Option.map_or, Option.or_assoc]

end Stats

end PartSourcing
