import Mathlib.Data.List.Forall2
import PartSourcing.Proofs.Memory.Mirror

/-!
# What memory answers

A memory is asked for one thing after the other (`Request`), and what it answers is its transcript.
Tables can be asked through any number of handles, each with its number of days for which offers
compete.

**Tables and memory that is not kept give the same answers** to the same requests, as long as
everything in these can be kept, the number of days is the same everywhere, and the calendar reaches
back by it from every sighting: what is read from the tables is the record in memory with its
quantities cut down, nothing where there is none in memory, and the part numbers are the same.  The
step that carries this is that an answer leaves tables that mirror memory (`InStep.respond`).

The first sighting from which the calendar does not reach back parts them (`answers_part`).  Both
break down over it, but they share nothing beyond that: memory refuses whatever comes later, while
of the tables only the one handle is lost, and all others are answered as if nothing had happened.
-/

namespace PartSourcing

open PartSourcing.Calendar PartSourcing.Decimal

namespace Memory

/-! ## Requests and answers -/

/-- What a memory is asked through one of its handles. -/
inductive Request (ι : Type) where
  /-- A further handle. -/
  | connect
  /-- That a sighting of a part be remembered. -/
  | upsert (handle : ι) (part : String) (s : Sighting) (now : Instant)
  /-- The record of a part. -/
  | read (handle : ι) (part : String)
  /-- The part numbers. -/
  | list (handle : ι)

/-- What a memory answers. -/
inductive Answer where
  | connected
  | remembered (r : PartRecord)
  | found (r : Option PartRecord)
  | numbers (parts : List String)
  | refused (f : StoreFault)
  deriving DecidableEq

/-- What is answered, if it is not refused. -/
def Answer.orRefused {α : Type} (answer : α → Answer) : Except StoreFault α → Answer
  | .ok a => answer a
  | .error f => .refused f

namespace Request

variable {ι : Type}

/-- **A request that can be kept**: its dates have years of four digits, and its price is a
positive number, if there is one. -/
def Storable : Request ι → Prop
  | .upsert _ _ s now =>
    now.Ordinary ∧ s.observedAt.Ordinary ∧ ∀ x ∈ s.price, isPositive x = true
  | _ => True

/-- Whether the calendar reaches back, from the time of a request, to the date before which offers
are stale. -/
def Reaches (days : ι → UInt32) : Request ι → Prop
  | .upsert i _ _ now => (now.minusDays? (days i).toNat).isSome = true
  | _ => True

/-- Whether a request is made through a handle. -/
def isThrough [DecidableEq ι] (i : ι) : Request ι → Bool
  | .connect => false
  | .upsert j _ _ _ | .read j _ | .list j => decide (j = i)

/-- The answer where all access is lost. -/
def lost : Request ι → Answer
  | .connect => .connected
  | _ => .refused .poisoned

end Request

/-- **An answer from what is kept**, against the answer from memory.  What is read is the record
in memory as it is kept; the record that a sighting leaves is told before it is kept.  The part
numbers are the same, in order. -/
inductive Answer.Reflects : Answer → Answer → Prop where
  | connected : Reflects .connected .connected
  | remembered {r r' : PartRecord} (h : r'.stored = r.stored) :
      Reflects (.remembered r') (.remembered r)
  | found (r : Option PartRecord) : Reflects (.found (r.map PartRecord.stored)) (.found r)
  | numbers {parts : List String} (h : parts.Pairwise (· < ·)) :
      Reflects (.numbers parts) (.numbers parts)

/-- The answers to those of some requests that are of a kind. -/
def answersTo {ι : Type} (kind : Request ι → Bool) (qs : List (Request ι))
    (answers : List Answer) : List Answer :=
  ((qs.zip answers).filter fun x => kind x.1).map (·.2)

/-! ## Transcripts -/

/-- Who keeps records in a state `σ` and answers through handles `ι`. -/
structure Keeper (ι σ : Type) where
  store : ι → Store σ
  partNumbers : ι → σ → Except StoreFault (List String)
  connect : σ → σ

namespace Keeper

variable {ι σ : Type}

/-- The answer to a request, and the state after it. -/
def respond (k : Keeper ι σ) (state : σ) : Request ι → Answer × σ
  | .connect => (.connected, k.connect state)
  | .upsert i part s now =>
    let (record, state) := (k.store i).upsert state part s now
    (.orRefused .remembered record, state)
  | .read i part => (.orRefused .found ((k.store i).read state part), state)
  | .list i => (.orRefused .numbers (k.partNumbers i state), state)

/-- **The answers to some requests**, one after the other. -/
def transcript (k : Keeper ι σ) : σ → List (Request ι) → List Answer
  | _, [] => []
  | state, q :: qs => (k.respond state q).1 :: k.transcript (k.respond state q).2 qs

/-- The state after some requests. -/
def after (k : Keeper ι σ) (state : σ) (qs : List (Request ι)) : σ :=
  qs.foldl (fun state q => (k.respond state q).2) state

theorem transcript_append (k : Keeper ι σ) (state : σ) (qs later : List (Request ι)) :
    k.transcript state (qs ++ later) =
      k.transcript state qs ++ k.transcript (k.after state qs) later := by
  induction qs generalizing state with
  | nil => rfl
  | cons q qs ih => exact congrArg (_ :: ·) (ih _)

/-- **Requests of a kind are answered as they are alone**, if they are answered alike in states that
are alike, and whatever comes between them leaves the state alike. -/
theorem answersTo_transcript (k : Keeper ι σ) {kind : Request ι → Bool} {Alike : σ → σ → Prop}
    {qs : List (Request ι)}
    (hkind : ∀ q ∈ qs, kind q = true → ∀ state other, Alike state other →
      (k.respond other q).1 = (k.respond state q).1 ∧
        Alike (k.respond state q).2 (k.respond other q).2)
    (hrest : ∀ q ∈ qs, kind q = false → ∀ state other, Alike state other →
      Alike (k.respond state q).2 other)
    {state other : σ} (h : Alike state other) :
    answersTo kind qs (k.transcript state qs) = k.transcript other (qs.filter kind) := by
  -- what comes between leaves the states alike, and so the other run stands still
  induction qs generalizing state other with
  | nil => rfl
  | cons q qs ih =>
    obtain ⟨hq, hqs⟩ := List.forall_mem_cons.mp hkind
    obtain ⟨hq', hqs'⟩ := List.forall_mem_cons.mp hrest
    have hlater {state other : σ} (h : Alike state other) := ih hqs hqs' h
    unfold answersTo at hlater ⊢
    cases hk : kind q with
    | true =>
      obtain ⟨hanswer, halike⟩ := hq hk _ _ h
      simp only [transcript, List.zip_cons_cons, List.filter_cons, hk, if_true, List.map_cons,
        hanswer, hlater halike]
    | false =>
      simp only [transcript, List.zip_cons_cons, List.filter_cons, hk, Bool.false_eq_true,
        if_false, hlater (hq' hk _ _ h)]

end Keeper

end Memory

open Memory

/-- Tables behind handles, each with its number of days. -/
def Handles.keeper {ι : Type} [DecidableEq ι] (days : ι → UInt32) : Keeper ι (Handles ι) where
  store i := Handles.store (days i) i
  partNumbers i h := h.ask i fun t => .ok t.partNumbers
  connect h := { h with tables := h.tables.opened }

/-- Memory that is not kept, whoever asks. -/
def Volatile.keeper {ι : Type} : Keeper ι Volatile where
  store _ := Volatile.store
  partNumbers _ v := v.unlessPoisoned v.parts
  connect v := v

/-! ## Lost access -/

section Lost

variable {ι : Type}

/-- **Memory that has broken down** refuses whatever it is asked. -/
theorem Volatile.transcript_of_poisoned {v : Volatile} (hv : v.poisoned = true)
    (qs : List (Request ι)) : Volatile.keeper.transcript v qs = qs.map Request.lost := by
  induction qs with
  | nil => rfl
  | cons q qs ih =>
    have hanswer : Volatile.keeper.respond v q = (q.lost, v) := by
      cases q with
      | connect => rfl
      | upsert i part s now =>
        have hu : v.upsert? part s now = none := by rw [upsert?, if_pos hv]
        simp only [Keeper.respond, Volatile.keeper, Volatile.store, hu, hv, if_true]
        rfl
      | read i part =>
        simp only [Keeper.respond, Volatile.keeper, Volatile.store, unlessPoisoned, hv, if_true]
        rfl
      | list i =>
        simp only [Keeper.respond, Volatile.keeper, unlessPoisoned, hv, if_true]
        rfl
    rw [Keeper.transcript, hanswer, ih, List.map_cons]

namespace Handles

variable [DecidableEq ι] {days : ι → UInt32} {i : ι}

/-- **A handle that has broken down** is refused whatever it is used for, and that changes
nothing. -/
theorem respond_of_poisoned {h : Handles ι} (hi : i ∈ h.poisoned) {q : Request ι}
    (hq : q.isThrough i = true) : (keeper days).respond h q = (.refused .poisoned, h) := by
  cases q with
  | connect => cases hq
  | upsert j part s now =>
    obtain rfl := of_decide_eq_true hq
    simp only [Keeper.respond, keeper, store, upsert, ask, if_pos hi, Answer.orRefused]
  | read j part =>
    obtain rfl := of_decide_eq_true hq
    simp only [Keeper.respond, keeper, store, ask, if_pos hi, Answer.orRefused]
  | list j =>
    obtain rfl := of_decide_eq_true hq
    simp only [Keeper.respond, keeper, ask, if_pos hi, Answer.orRefused]

/-- **The same tables behind the same handles**, but for one that has broken down. -/
structure SameBeside (i : ι) (h h' : Handles ι) : Prop where
  lost : i ∈ h.poisoned
  tables : h'.tables = h.tables
  poisoned : ∀ j, j ≠ i → (j ∈ h'.poisoned ↔ j ∈ h.poisoned)

/-- Through any other handle the same is answered. -/
theorem SameBeside.respond {h h' : Handles ι} (hsame : SameBeside i h h') {q : Request ι}
    (hq : q.isThrough i = false) :
    ((keeper days).respond h' q).1 = ((keeper days).respond h q).1 ∧
      SameBeside i ((keeper days).respond h q).2 ((keeper days).respond h' q).2 := by
  obtain ⟨hlost, htables, hpoisoned⟩ := hsame
  have hask {α : Type} {j : ι} (hj : j ≠ i) (answer : Tables → Except StoreFault α) :
      h'.ask j answer = h.ask j answer := by
    unfold ask
    rw [htables]
    exact if_congr (hpoisoned j hj) rfl rfl
  cases q with
  | connect => exact ⟨rfl, hlost, congrArg Tables.opened htables, hpoisoned⟩
  | read j part =>
    have hj : j ≠ i := of_decide_eq_false hq
    simp only [Keeper.respond, keeper, store, hask hj]
    exact ⟨trivial, hlost, htables, hpoisoned⟩
  | list j =>
    have hj : j ≠ i := of_decide_eq_false hq
    simp only [Keeper.respond, keeper, hask hj]
    exact ⟨trivial, hlost, htables, hpoisoned⟩
  | upsert j part s now =>
    have hj : j ≠ i := of_decide_eq_false hq
    simp only [Keeper.respond, keeper, store, upsert, hask hj]
    cases h.ask j fun t => t.upsert (days j) part s now with
    | ok x => exact ⟨rfl, hlost, rfl, hpoisoned⟩
    | error f =>
      cases f with
      | beyondCalendar =>
        refine ⟨rfl, List.mem_cons_of_mem _ hlost, htables, fun j' hj' => ?_⟩
        rw [List.mem_cons, List.mem_cons, hpoisoned j' hj']
      | _ => exact ⟨rfl, hlost, htables, hpoisoned⟩

/-- **Through a handle that has broken down** everything is refused, whatever comes through the
others. -/
theorem answers_of_poisoned {h : Handles ι} (hi : i ∈ h.poisoned) (qs : List (Request ι)) :
    ∀ answer ∈ answersTo (·.isThrough i) qs ((keeper days).transcript h qs),
      answer = .refused .poisoned := by
  induction qs generalizing h with
  | nil => exact fun answer hmem => absurd hmem List.not_mem_nil
  | cons q qs ih =>
    cases hq : q.isThrough i with
    | true =>
      have hlater := ih hi
      rw [Keeper.transcript, respond_of_poisoned hi hq]
      unfold answersTo at hlater ⊢
      simp only [List.zip_cons_cons, List.filter_cons, hq, if_true, List.map_cons]
      exact List.forall_mem_cons.mpr ⟨rfl, hlater⟩
    | false =>
      have hself : SameBeside i h h := ⟨hi, rfl, fun _ _ => Iff.rfl⟩
      have hlost : i ∈ ((keeper days).respond h q).2.poisoned := (hself.respond hq).2.lost
      have hlater := ih hlost
      unfold answersTo at hlater ⊢
      simpa only [Keeper.transcript, List.zip_cons_cons, List.filter_cons, hq,
        Bool.false_eq_true, if_false] using hlater

/-- **Through all other handles** the same is answered as if nothing came through that one. -/
theorem SameBeside.transcript {h h' : Handles ι} (hsame : SameBeside i h h')
    (qs : List (Request ι)) :
    answersTo (fun q => !q.isThrough i) qs ((keeper days).transcript h qs) =
      (keeper days).transcript h' (qs.filter fun q => !q.isThrough i) := by
  refine Keeper.answersTo_transcript _ (fun q _ hq h h' hsame => ?_) (fun q _ hq h h' hsame => ?_)
    hsame
  · exact hsame.respond (by simpa using hq)
  · rw [respond_of_poisoned hsame.lost (by simpa using hq)]
    exact hsame

end Handles

end Lost

/-! ## The same answers -/

variable {ι : Type} [DecidableEq ι] {days : ι → UInt32}

/-- **Tables behind handles in step with memory**: the tables mirror memory, and neither has broken
down. -/
structure Memory.InStep (days : ι → UInt32) (h : Handles ι) (v : Volatile) : Prop where
  mirrors : Volatile.Mirrors h.tables v
  handles : h.poisoned = []
  memory : v.poisoned = false
  days : ∀ i, days i = v.staleDays

namespace Memory.InStep

variable {h : Handles ι} {v : Volatile}

theorem ask_eq {α : Type} (hs : InStep days h v) (i : ι) (answer : Tables → Except StoreFault α) :
    h.ask i answer = answer h.tables := by
  rw [Handles.ask, hs.handles, if_neg List.not_mem_nil]

/-- **One request** from which the calendar reaches back is answered alike, and leaves both in
step. -/
theorem respond (hs : InStep days h v) {q : Request ι} (hq : q.Storable) (hr : q.Reaches days) :
    Answer.Reflects ((Handles.keeper days).respond h q).1 (Volatile.keeper.respond v q).1 ∧
      InStep days ((Handles.keeper days).respond h q).2 (Volatile.keeper.respond v q).2 := by
  have hm := hs.mirrors
  cases q with
  | connect =>
    exact ⟨.connected, ⟨hm.grown, hm.storable, hm.parts, hm.nodup, hm.vendors⟩, hs.handles,
      hs.memory, hs.days⟩
  | upsert i part s now =>
    obtain ⟨hnow, ho, hp⟩ := hq
    have hsome : (v.upsert? part s now).isSome = true := by
      rw [Volatile.upsert?_isSome hs.memory, ← hs.days i]
      exact hr
    obtain ⟨⟨r, v'⟩, hu⟩ := Option.isSome_iff_exists.mp hsome
    obtain ⟨r', t', hupsert, hstored, ht⟩ := hm.upsert_of_some hu hnow hp ho
    rw [← hs.days i] at hupsert
    obtain ⟨-, hv', hstale⟩ := Volatile.of_upsert? hu
    simp only [Keeper.respond, Handles.keeper, Handles.store, Handles.upsert, hs.ask_eq, hupsert,
      Volatile.keeper, Volatile.store, hu]
    exact ⟨.remembered hstored, ht, hs.handles, hv', fun j => (hs.days j).trans hstale.symm⟩
  | read i part =>
    simp only [Keeper.respond, Handles.keeper, Handles.store, hs.ask_eq, Tables.read, hm.load_eq,
      Volatile.keeper, Volatile.store, Volatile.unlessPoisoned, hs.memory, Bool.false_eq_true,
      if_false]
    exact ⟨.found _, hs⟩
  | list i =>
    simp only [Keeper.respond, Handles.keeper, hs.ask_eq, hm.partNumbers_eq, Volatile.keeper,
      Volatile.unlessPoisoned, hs.memory, Bool.false_eq_true, if_false]
    exact ⟨.numbers hm.grown.parts_ascending, hs⟩

/-- **A request from which the calendar does not reach back** breaks both down: all access to memory
is lost, and of the tables that through one handle. -/
theorem respond_beyond (hs : InStep days h v) {i : ι} (part : String) (s : Sighting)
    {now : Instant} (hnow : now.minusDays? (days i).toNat = none) :
    (Handles.keeper days).respond h (.upsert i part s now) =
        (.refused .beyondCalendar, { h with poisoned := [i] }) ∧
      Volatile.keeper.respond v (.upsert i part s now) =
        (.refused .beyondCalendar, v.brokenDown part) := by
  have hu : v.upsert? part s now = none := by
    rw [← Option.not_isSome_iff_eq_none, Volatile.upsert?_isSome hs.memory, ← hs.days i, hnow]
    exact Bool.false_ne_true
  have ht : h.tables.upsert (days i) part s now = .error .beyondCalendar := by
    rw [hs.days i] at hnow ⊢
    exact hs.mirrors.upsert_of_beyond hnow
  refine ⟨?_, ?_⟩
  · simp only [Keeper.respond, Handles.keeper, Handles.store, Handles.upsert, hs.ask_eq, ht,
      hs.handles, Answer.orRefused]
  · simp only [Keeper.respond, Volatile.keeper, Volatile.store, hu, hs.memory, Bool.false_eq_true,
      if_false, Answer.orRefused]

/-- **Some requests** from which the calendar reaches back are answered alike, and leave both in
step. -/
theorem transcript (hs : InStep days h v) {qs : List (Request ι)} (hqs : ∀ q ∈ qs, q.Storable)
    (hreach : ∀ q ∈ qs, q.Reaches days) :
    List.Forall₂ Answer.Reflects ((Handles.keeper days).transcript h qs)
        (Volatile.keeper.transcript v qs) ∧
      InStep days ((Handles.keeper days).after h qs) (Volatile.keeper.after v qs) := by
  -- every answer leaves what the next one needs
  induction qs generalizing h v with
  | nil => exact ⟨.nil, hs⟩
  | cons q qs ih =>
    obtain ⟨hq, hqs⟩ := List.forall_mem_cons.mp hqs
    obtain ⟨hr, hreach⟩ := List.forall_mem_cons.mp hreach
    obtain ⟨hanswer, hnext⟩ := hs.respond hq hr
    obtain ⟨hlater, hlast⟩ := ih hnext hqs hreach
    exact ⟨.cons hanswer hlater, hlast⟩

/-- **The answers part at a request from which the calendar does not reach back.**  Memory refuses
whatever comes after it.  Of the tables only the handle is lost: through all others the same is
answered as if neither that request nor anything after it had come through the handle. -/
theorem answers_part (hs : InStep days h v) {i : ι} (part : String) (s : Sighting)
    {now : Instant} (hnow : now.minusDays? (days i).toNat = none) (qs : List (Request ι)) :
    Volatile.keeper.transcript v (.upsert i part s now :: qs) =
        .refused .beyondCalendar :: qs.map Request.lost ∧
      ∃ answers, (Handles.keeper days).transcript h (.upsert i part s now :: qs) =
          .refused .beyondCalendar :: answers ∧
        (∀ answer ∈ answersTo (·.isThrough i) qs answers, answer = .refused .poisoned) ∧
        answersTo (fun q => !q.isThrough i) qs answers =
          (Handles.keeper days).transcript h (qs.filter fun q => !q.isThrough i) := by
  obtain ⟨htables, hmemory⟩ := hs.respond_beyond part s hnow
  have hlost : i ∈ [i] := List.mem_singleton_self i
  have hsame : Handles.SameBeside i { h with poisoned := [i] } h := by
    refine ⟨hlost, rfl, fun j hj => ?_⟩
    rw [hs.handles]
    exact iff_of_false List.not_mem_nil fun hmem => hj (List.mem_singleton.mp hmem)
  refine ⟨?_, (Handles.keeper days).transcript { h with poisoned := [i] } qs, ?_,
    Handles.answers_of_poisoned hlost qs, hsame.transcript qs⟩
  · rw [Keeper.transcript, hmemory, Volatile.transcript_of_poisoned rfl]
  · rw [Keeper.transcript, htables]

end Memory.InStep

/-- **Tables answer as memory does**, as long as the calendar reaches back far enough.  From nothing,
and through whatever handles with the same number of days, they give the same answers to the same
requests, the quantities of what is read being cut down to what fits a column.

The first sighting from which the calendar does not reach back by these days is refused by both.
From then on memory refuses everything, and so does the handle that the sighting came through; all
other handles are answered as if nothing had come through that handle from the sighting on. -/
theorem Memory.Keeper.transcripts_agree (staleDays : UInt32) (hdays : ∀ i, days i = staleDays)
    {qs : List (Request ι)} (hqs : ∀ q ∈ qs, q.Storable) :
    ((∀ q ∈ qs, q.Reaches days) →
      List.Forall₂ Answer.Reflects ((Handles.keeper days).transcript {} qs)
        (Volatile.keeper.transcript { staleDays } qs)) ∧
    ∀ before i part s now later, qs = before ++ .upsert i part s now :: later →
      (∀ q ∈ before, q.Reaches days) → now.minusDays? staleDays.toNat = none →
      ∃ kept told answers,
        (Handles.keeper days).transcript {} qs = kept ++ .refused .beyondCalendar :: answers ∧
        Volatile.keeper.transcript { staleDays } qs =
          told ++ .refused .beyondCalendar :: later.map Request.lost ∧
        List.Forall₂ Answer.Reflects kept told ∧
        (∀ answer ∈ answersTo (·.isThrough i) later answers, answer = .refused .poisoned) ∧
        kept ++ answersTo (fun q => !q.isThrough i) later answers =
          (Handles.keeper days).transcript {} (before ++ later.filter fun q => !q.isThrough i) := by
  have hs : InStep days {} { staleDays } := ⟨.empty staleDays, rfl, rfl, hdays⟩
  refine ⟨fun hreach => (hs.transcript hqs hreach).1, ?_⟩
  rintro before i part s now later rfl hreach hnow
  obtain ⟨hsame, hstep⟩ := hs.transcript (fun q hq => hqs q (List.mem_append_left _ hq)) hreach
  rw [← hdays i] at hnow
  obtain ⟨hmemory, answers, htables, hlost, hothers⟩ := hstep.answers_part part s hnow later
  refine ⟨_, _, answers, ?_, ?_, hsame, hlost, ?_⟩
  · rw [transcript_append, htables]
  · rw [transcript_append, hmemory]
  · rw [transcript_append, hothers]

/-- A sighting with the greatest quantity there is, and what is known of its part afterwards
through another handle. -/
def oneGreatQuantity : List (Request Bool) := [
  .connect,
  .upsert false "ab 1" { Sighting.bare "acme" "AB1" .epoch .zero with
    quantity := some (UInt64.ofNat (2 ^ 64 - 1)), price := some 2.5 } .epoch,
  .read true "AB1",
  .list true]

/-- The quantities of what is found. -/
def Memory.Answer.quantities : Answer → List (Option UInt64)
  | .found (some r) => r.entries.map (·.quantity)
  | _ => []

theorem oneGreatQuantity_storable : ∀ q ∈ oneGreatQuantity, q.Storable := by
  have hepoch : Instant.epoch.Ordinary := ⟨by decide, by decide, Or.inl (by decide)⟩
  have hprice : ∀ x ∈ some 2.5, isPositive x = true := by decide
  unfold oneGreatQuantity
  simp only [List.forall_mem_cons, List.not_mem_nil, false_implies, implies_true]
  exact ⟨trivial, ⟨hepoch, hepoch, hprice⟩, trivial, trivial, trivial⟩

/-- Of the greatest quantity, what is read back is the greatest that a column holds. -/
theorem Memory.Keeper.transcripts_of_one_quantity :
    (∀ q ∈ oneGreatQuantity, q.Storable) ∧
    List.Forall₂ Answer.Reflects ((Handles.keeper fun _ => 180).transcript {} oneGreatQuantity)
      (Volatile.keeper.transcript { staleDays := 180 } oneGreatQuantity) ∧
    ((Handles.keeper fun _ => 180).transcript {} oneGreatQuantity).flatMap Answer.quantities =
      [some (UInt64.ofNat (2 ^ 63 - 1))] := by
  have hreach : ∀ q ∈ oneGreatQuantity, q.Reaches fun _ => 180 := by
    unfold oneGreatQuantity
    simp only [List.forall_mem_cons, List.not_mem_nil, false_implies, implies_true]
    exact ⟨trivial, rfl, trivial, trivial, trivial⟩
  exact ⟨oneGreatQuantity_storable,
    (transcripts_agree 180 (fun _ => rfl) oneGreatQuantity_storable).1 hreach, by decide +kernel⟩

/-- **Where offers compete for longer than the calendar reaches back**, a sighting that comes through
one handle leaves memory without an answer, and the tables with one through another handle. -/
theorem Memory.Keeper.transcripts_part_beyond_calendar :
    (∀ q ∈ oneGreatQuantity, q.Storable) ∧
    (Handles.keeper fun _ => 4294967295).transcript {} oneGreatQuantity =
      [.connected, .refused .beyondCalendar, .found none, .numbers []] ∧
    Volatile.keeper.transcript { staleDays := 4294967295 } oneGreatQuantity =
      [.connected, .refused .beyondCalendar, .refused .poisoned, .refused .poisoned] :=
  ⟨oneGreatQuantity_storable, by decide +kernel, by decide +kernel⟩

end PartSourcing
