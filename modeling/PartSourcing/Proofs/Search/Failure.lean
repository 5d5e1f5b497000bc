import PartSourcing.Proofs.Calendar.Reach
import PartSourcing.Proofs.Memory.Growth
import PartSourcing.Proofs.Search.Inquiry
import PartSourcing.Search.Service

/-!
# How a search can fail

A requirement that makes no sense is refused.  Sources that fail and memory that fails make a
result poorer and nothing else.  What remains is a date: a search that has a record of its part
goes back by the days of the lookback, and one that remembers a sighting goes back by the days for
which offers compete.  **Neither fails unless its days are more than the calendar reaches back**
(`Service.failures`).

Settings are checked before a service is made of them, but the check lets any number of days
through, and numbers of thirty-two bits go far beyond the reach of the calendar: with such settings
a search for a part that is remembered fails (`Service.fails_beyond_calendar`).
-/

namespace PartSourcing

open PartSourcing.Calendar

/-! ## The date that a search goes back to -/

theorem PartRecord.lookback?_eq_none_iff {record : Option PartRecord} {now : Instant}
    {days : UInt32} : lookback? record now days = none ↔
      (∃ r, record = some r) ∧ now.minusDays? days.toNat = none := by
  cases record with
  | none => simp [lookback?]
  | some r => simp [lookback?]

/-- **What is behind the sources fails** if there is a record and no date to go by. -/
theorem conclude?_eq_none_iff {c : EngineConfig} {req : Requirement} {reliability : String → Float}
    {now : Instant} {searchId : SearchId} {record : Option PartRecord} {fresh : List Sighting} :
    conclude? c req reliability now searchId record fresh = none ↔
      (∃ r, record = some r) ∧ now.minusDays? c.lookbackDays.toNat = none := by
  rw [conclude?_eq, Option.map_eq_none_iff, PartRecord.lookback?_eq_none_iff]

theorem StoreFault.toOption_join_eq_some_iff {x : Except StoreFault (Option PartRecord)}
    {r : PartRecord} : x.toOption.join = some r ↔ x = .ok (some r) := by
  cases x with
  | error f => simp [Except.toOption]
  | ok record => simp [Except.toOption]

namespace Engine

variable {σ τ : Type} {e : Engine} {store : Store τ} {reliability : String → Float}
  {o : Occasion σ} {req : Requirement} {memory : τ} {w : σ}

theorem concluded?_eq_none_iff (hnow : o.now.InCalendar) (reliability : String → Float) (w : σ) :
    e.concluded? store reliability o req memory w = none ↔
      (∃ r, store.read memory req.part = .ok (some r)) ∧
        o.now.reach < e.config.lookbackDays.toNat := by
  rw [concluded?, conclude?_eq_none_iff, Instant.minusDays?_eq_none_iff hnow]
  simp only [StoreFault.toOption_join_eq_some_iff]

/-- **When a search of an engine fails**, and how. -/
theorem search_eq_error_iff (hnow : o.now.InCalendar) (f : SearchError) :
    ((e.search store reliability o req memory).run w).1 = .error f ↔
      (∃ g, req.validate = .error g ∧ f = .requirement g) ∨
      (req.validate = .ok () ∧ (∃ r, store.read memory req.part = .ok (some r)) ∧
        o.now.reach < e.config.lookbackDays.toNat ∧ f = .beyondCalendar) := by
  rw [search_run]
  cases req.validate with
  | error g => simp [eq_comm]
  | ok u =>
    -- a valid requirement leaves the date alone to decide
    simp only [reduceCtorEq, false_and, exists_false, false_or, true_and]
    rw [← and_assoc, ← concluded?_eq_none_iff hnow reliability w]
    cases e.concluded? store reliability o req memory w with
    | none => simp [eq_comm]
    | some found => simp

/-- An engine is set up with its configuration. -/
theorem config_of {c : EngineConfig} (h : Engine.of c = .ok e) : e.config = c := by
  unfold Engine.of at h
  cases hv : c.validate with
  | error f =>
    rw [hv] at h
    cases h
  | ok u =>
    cases hc : connect c with
    | error f =>
      rw [hv, hc] at h
      cases h
    | ok connected =>
      rw [hv, hc] at h
      cases h
      rfl

/-- A search leaves the configuration alone. -/
theorem config_of_search {e' : Engine} {result : SearchResult} {memory' : τ}
    (h : ((e.search store reliability o req memory).run w).1 = .ok (result, e', memory')) :
    e'.config = e.config := by
  rw [search_run] at h
  cases hreq : req.validate with
  | error g =>
    rw [hreq] at h
    cases h
  | ok u =>
    cases hc : e.concluded? store reliability o req memory w with
    | none =>
      rw [hreq, hc] at h
      cases h
    | some found =>
      rw [hreq, hc] at h
      cases h
      rfl

end Engine

/-! ## Services -/

namespace Tables

/-- **When a sighting cannot be remembered for want of a date**: the record is readable, and the
calendar does not reach back far enough. -/
theorem upsert_eq_beyondCalendar_iff {t : Tables} {staleDays : UInt32} {part : String}
    {s : Sighting} {now : Instant} (hnow : now.InCalendar) :
    t.upsert staleDays part s now = .error .beyondCalendar ↔
      (∃ r, t.read part = .ok r) ∧ now.reach < staleDays.toNat := by
  unfold upsert read
  cases hl : t.load (PartNumber.normal part) with
  | error f => simp [hl, eq_unreadable_of_load hl]
  | ok r =>
    have hnone : PartRecord.remember? r (PartNumber.normal part) s now staleDays = none ↔
        now.reach < staleDays.toNat := by
      rw [← Option.not_isSome_iff_eq_none, PartRecord.remember?_isSome,
        Option.not_isSome_iff_eq_none, Instant.minusDays?_eq_none_iff hnow]
    rw [← hnone]
    simp only [hl]
    cases PartRecord.remember? r (PartNumber.normal part) s now staleDays <;> simp

end Tables

/-- A handle breaks down where the tables do, unless it has done so before. -/
theorem Handles.upsert_eq_beyondCalendar_iff {ι : Type} [DecidableEq ι] {h : Handles ι}
    {staleDays : UInt32} {i : ι} {part : String} {s : Sighting} {now : Instant}
    (hnow : now.InCalendar) :
    ((Handles.store staleDays i).upsert h part s now).1 = .error .beyondCalendar ↔
      (∃ r, (Handles.store staleDays i).read h part = .ok r) ∧ now.reach < staleDays.toNat := by
  have hanswer : ((Handles.store staleDays i).upsert h part s now).1 =
      (h.ask i fun t => t.upsert staleDays part s now).map (·.1) := by
    show (h.upsert staleDays i part s now).1 = _
    unfold Handles.upsert
    split <;> rename_i hask
    all_goals rw [hask]; rfl
  rw [hanswer]
  unfold Handles.store Handles.ask
  dsimp only
  split
  · simp [Except.map]
  · rw [← Tables.upsert_eq_beyondCalendar_iff (s := s) hnow]
    cases h.tables.upsert staleDays part s now <;> simp [Except.map]

namespace Service

section Search

variable {sv : Service} {σ : Type} {o : Occasion σ} {req : Requirement} {memory : Handles Unit}
  {w : σ}

/-- A search of a service is one of its engine. -/
theorem search_run : ((sv.search o req memory).run w).1 =
    match ((sv.engine.search sv.store sv.settings.reliability.lookup o req memory).run w).1 with
    | .error f => .error (.search f)
    | .ok (result, engine, memory) => .ok (result, { sv with engine }, memory) := by
  unfold search
  rw [StateT.run_bind]
  generalize (sv.engine.search sv.store sv.settings.reliability.lookup o req memory).run w = ran
  obtain ⟨answer, w'⟩ := ran
  cases answer <;> rfl

/-- **When a search of a service fails**, and how: as that of its engine does. -/
theorem search_eq_error_iff (hnow : o.now.InCalendar) (f : ServiceError) :
    ((sv.search o req memory).run w).1 = .error f ↔
      (∃ g, req.validate = .error g ∧ f = .search (.requirement g)) ∨
      (req.validate = .ok () ∧ (∃ r, sv.store.read memory req.part = .ok (some r)) ∧
        o.now.reach < sv.engine.config.lookbackDays.toNat ∧ f = .search .beyondCalendar) := by
  have hengine : ((sv.search o req memory).run w).1 = .error f ↔
      ∃ g, ((sv.engine.search sv.store sv.settings.reliability.lookup o req memory).run w).1 =
        .error g ∧ f = .search g := by
    rw [search_run]
    cases ((sv.engine.search sv.store sv.settings.reliability.lookup o req memory).run w).1 with
    | error g => simp [eq_comm]
    | ok found => simp
  rw [hengine]
  simp only [Engine.search_eq_error_iff hnow]
  constructor
  · rintro ⟨g, ⟨h, hreq, rfl⟩ | ⟨hreq, hrecord, hreach, rfl⟩, rfl⟩
    · exact Or.inl ⟨h, hreq, rfl⟩
    · exact Or.inr ⟨hreq, hrecord, hreach, rfl⟩
  · rintro (⟨g, hreq, rfl⟩ | ⟨hreq, hrecord, hreach, rfl⟩)
    · exact ⟨_, Or.inl ⟨g, hreq, rfl⟩, rfl⟩
    · exact ⟨_, Or.inr ⟨hreq, hrecord, hreach, rfl⟩, rfl⟩

/-- A search leaves settings and configuration alone. -/
theorem settings_of_search {sv' : Service} {result : SearchResult} {memory' : Handles Unit}
    (h : ((sv.search o req memory).run w).1 = .ok (result, sv', memory')) :
    sv'.settings = sv.settings ∧ sv'.engine.config = sv.engine.config := by
  rw [search_run] at h
  cases hrun : ((sv.engine.search sv.store sv.settings.reliability.lookup o req memory).run
      w).1 with
  | error g =>
    rw [hrun] at h
    cases h
  | ok found =>
    obtain ⟨result₀, engine, memory₀⟩ := found
    rw [hrun] at h
    cases h
    exact ⟨rfl, Engine.config_of_search hrun⟩

end Search

/-- **The service of some settings**, before and after searches. -/
inductive Serves (settings : Settings) : Service → Prop where
  | setUp {sv : Service} (h : Service.of settings = .ok sv) : Serves settings sv
  | search {sv sv' : Service} (h : Serves settings sv) {σ : Type} {o : Occasion σ}
      {req : Requirement} {memory memory' : Handles Unit} {w : σ} {result : SearchResult}
      (hs : ((sv.search o req memory).run w).1 = .ok (result, sv', memory')) : Serves settings sv'

/-- A service is set up with the settings and the configuration in them. -/
theorem of_eq_ok {settings : Settings} {sv : Service} (h : Service.of settings = .ok sv) :
    sv.settings = settings ∧ sv.engine.config = settings.engine := by
  unfold Service.of at h
  cases hv : settings.validate with
  | error f =>
    rw [hv] at h
    cases h
  | ok u =>
    cases he : Engine.of settings.engine with
    | error f =>
      rw [hv, he] at h
      cases h
    | ok engine =>
      rw [hv, he] at h
      cases h
      exact ⟨rfl, Engine.config_of he⟩

theorem Serves.settings_eq {settings : Settings} {sv : Service} (h : Serves settings sv) :
    sv.settings = settings ∧ sv.engine.config = settings.engine := by
  induction h with
  | setUp h => exact of_eq_ok h
  | search h hs ih =>
    obtain ⟨hsettings, hconfig⟩ := settings_of_search hs
    exact ⟨hsettings.trans ih.1, hconfig.trans ih.2⟩

/-- **What can fail in the service of some settings**, in the years 1970 to 9999.  A search fails if
its requirement makes no sense; besides, it fails if a record of its part can be read and the days
of the lookback are more than the calendar reaches back, and for no other reason.  Likewise it is
for want of a date that memory breaks down over a sighting if its record can be read and the days
for which offers compete are more than the calendar reaches back.  That is some hundred million
days. -/
theorem failures {settings : Settings} {sv : Service} (hsv : Serves settings sv) {σ : Type}
    (o : Occasion σ) (hnow : o.now.Modern) (memory : Handles Unit) :
    (∀ req w f, ((sv.search o req memory).run w).1 = .error f ↔
      (∃ g, req.validate = .error g ∧ f = .search (.requirement g)) ∨
      (req.validate = .ok () ∧ (∃ r, sv.store.read memory req.part = .ok (some r)) ∧
        o.now.reach < settings.engine.lookbackDays.toNat ∧ f = .search .beyondCalendar)) ∧
    (∀ part s now, now.Modern →
      ((sv.store.upsert memory part s now).1 = .error .beyondCalendar ↔
        (∃ r, sv.store.read memory part = .ok r) ∧
          now.reach < settings.memory.staleDays.toNat)) ∧
    ∀ now : Instant, now.Modern → 96465292 ≤ now.reach ∧ now.reach ≤ 99398189 := by
  obtain ⟨hsettings, hconfig⟩ := hsv.settings_eq
  refine ⟨fun req w f => ?_, fun part s now hmodern => ?_, fun now hmodern => hmodern.reach_bounds⟩
  · rw [search_eq_error_iff hnow.inCalendar, hconfig]
  · rw [← hsettings]
    exact Handles.upsert_eq_beyondCalendar_iff hmodern.inCalendar

/-! ## Settings that look back too far -/

/-- Settings with the greatest numbers of days that there are. -/
def farSighted : Settings where
  engine := { lookbackDays := 4294967295 }
  memory := { staleDays := 4294967295 }

/-- Memory in which one offer of a part is kept. -/
def oneOfferKept : Handles Unit :=
  (Handles.upsert {} 180 () "ab1" (Sighting.bare "acme" "AB1" .epoch SearchId.zero) .epoch).2

/-- A time at which nobody answers. -/
def silentOccasion : Occasion Unit where
  wire _ := return .silent
  now := .epoch
  searchId := SearchId.zero

theorem silentOccasion_modern : silentOccasion.now.Modern where
  ordinary := ⟨by decide, by decide, by decide⟩
  first := by decide

/-- Settings that look back as far as a number can say pass the check. -/
theorem farSighted_serves : farSighted.validate = .ok () ∧ ∃ sv, Serves farSighted sv := by
  have hof : (Service.of farSighted).toOption.isSome = true := by decide +kernel
  refine ⟨by decide +kernel, ?_⟩
  cases hs : Service.of farSighted with
  | error f =>
    rw [hs] at hof
    cases hof
  | ok sv => exact ⟨sv, .setUp hs⟩

theorem oneOfferKept_read (sv : Service) :
    ∃ r, sv.store.read oneOfferKept "ab1" = .ok (some r) := by
  have hkept : (oneOfferKept.ask () fun t => t.read "ab1").toOption.join.isSome = true := by
    decide +kernel
  obtain ⟨r, hr⟩ := Option.isSome_iff_exists.mp hkept
  exact ⟨r, StoreFault.toOption_join_eq_some_iff.mp hr⟩

/-- **A search that makes sense fails** under settings that have passed the check, once its part is
remembered; and under them memory breaks down over whatever is to be remembered. -/
theorem fails_beyond_calendar : farSighted.validate = .ok () ∧
    (Requirement.mk "ab1" 1 [] none "USD").validate = .ok () ∧ silentOccasion.now.Modern ∧
    ∃ sv, Serves farSighted sv ∧
      ((sv.search silentOccasion ⟨"ab1", 1, [], none, "USD"⟩ oneOfferKept).run ()).1 =
        .error (.search .beyondCalendar) ∧
      ∀ s, (sv.store.upsert {} "ab1" s silentOccasion.now).1 = .error .beyondCalendar := by
  obtain ⟨hvalid, sv, hsv⟩ := farSighted_serves
  obtain ⟨hsettings, hconfig⟩ := hsv.settings_eq
  have hnow := silentOccasion_modern
  have hbeyond : silentOccasion.now.reach < (4294967295 : UInt32).toNat := by decide
  have hreq : (Requirement.mk "ab1" 1 [] none "USD").validate = .ok () := rfl
  refine ⟨hvalid, hreq, hnow, sv, hsv, ?_, fun s => ?_⟩
  · refine (search_eq_error_iff hnow.inCalendar _).mpr (Or.inr ⟨hreq, oneOfferKept_read sv, ?_, rfl⟩)
    rw [hconfig]
    exact hbeyond
  · refine (Handles.upsert_eq_beyondCalendar_iff hnow.inCalendar).mpr ⟨⟨none, rfl⟩, ?_⟩
    rw [hsettings]
    exact hbeyond

/-- Under settings that look back so far a search for a part that is remembered has failed for want
of a date. -/
theorem failures_of_farSighted : ∃ sv, Serves farSighted sv ∧ silentOccasion.now.Modern ∧
    ((sv.search silentOccasion ⟨"ab1", 1, [], none, "USD"⟩ oneOfferKept).run ()).1 =
      .error (.search .beyondCalendar) := by
  obtain ⟨-, sv, hsv⟩ := farSighted_serves
  obtain ⟨hsearch, -⟩ := failures hsv silentOccasion silentOccasion_modern oneOfferKept
  exact ⟨sv, hsv, silentOccasion_modern, (hsearch _ () _).mpr
    (Or.inr ⟨rfl, oneOfferKept_read sv, by decide, rfl⟩)⟩

end Service

end PartSourcing
