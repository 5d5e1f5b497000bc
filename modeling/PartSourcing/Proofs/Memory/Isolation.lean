import PartSourcing.Proofs.Memory.Mirror
import PartSourcing.Proofs.Memory.Transaction
import PartSourcing.Proofs.Memory.Transcript

/-!
# Parts do not meddle with each other

Tables hold the rows of many parts, and any value may stand in them: what is no date, no number or
no known name makes a record unreadable.  **What a request about one part comes to depends on the
rows of that part alone, and it touches no others** (`upsert_isolated`).  Two facts carry this.  A
record is read from the rows of its part (`load_restrict`), and written to rows that show nowhere
else (`restrict_save_of_neg`).

So a search leaves the rows of all parts alone that it has not seen afresh (`rowsOf_rememberFresh`),
and the requests about one part can be taken out of any run: between requests about other parts,
through whatever handles, they are answered as they are alone (`transcript_about`).
-/

namespace PartSourcing

open PartSourcing.Calendar PartSourcing.Memory

theorem PartRow.part_of_record? {row : PartRow} {es : List VendorEntry} {r : PartRecord}
    (h : row.record? es = some r) : r.part = row.part := by
  unfold record? at h
  simp only [Option.bind_eq_bind, Option.bind_eq_some_iff, Option.pure_def, Option.some_inj] at h
  obtain ⟨_, _, _, _, _, _, _, _, _, _, _, _, rfl⟩ := h
  rfl

namespace Tables

/-! ## The rows of some parts -/

/-- The rows of the parts that are picked out, without the version. -/
def restrict (p : String → Bool) (t : Tables) : Tables where
  parts := t.parts.filter fun row => p row.part
  vendors := t.vendors.filter fun row => p row.part
  version := none

/-- The rows of one part in normal form. -/
def rowsOf (t : Tables) (k : String) : Tables := t.restrict (· == k)

/-- The rows of all other parts. -/
def rowsBeside (t : Tables) (k : String) : Tables := t.restrict (· != k)

variable {p : String → Bool} {t u : Tables} {k : String}

/-- **A record is read from the rows of its part.** -/
theorem load_restrict (hk : p k = true) : (t.restrict p).load k = t.load k := by
  have hpicked (part : String) (h : (part == k) = true) : p part = true := by
    rw [eq_of_beq h, hk]
  have hrow : (t.restrict p).row? k = t.row? k := by
    unfold row? restrict
    rw [List.find?_filter]
    refine congrArg (List.find? · t.parts) (funext fun row => ?_)
    rw [Bool.eq_iff_iff, decide_eq_true_iff]
    exact and_iff_right_of_imp (hpicked row.part)
  have hvendors : (t.restrict p).vendorRows k = t.vendorRows k := by
    unfold vendorRows restrict
    rw [List.filter_filter]
    refine congrArg (List.mergeSort · VendorRow.precedes) (List.filter_congr fun row _ => ?_)
    rw [Bool.eq_iff_iff, Bool.and_eq_true]
    exact and_iff_left_of_imp (hpicked row.part)
  unfold load
  rw [hrow, hvendors]

theorem load_congr (h : u.rowsOf k = t.rowsOf k) : u.load k = t.load k := by
  have hk : (k == k) = true := beq_self_eq_true k
  rw [← load_restrict (p := (· == k)) hk (t := u), ← load_restrict (p := (· == k)) hk (t := t)]
  exact congrArg (load · k) h

/-! ## Writing a record -/

theorem filter_putPart (p : String → Bool) (row : PartRow) (rows : List PartRow) :
    (putPart row rows).filter (fun x => p x.part) =
      if p row.part then putPart row (rows.filter fun x => p x.part)
      else rows.filter fun x => p x.part := by
  induction rows with
  | nil => simp [putPart, List.filter_cons]
  | cons old rows ih =>
    by_cases hold : old.part = row.part
    · by_cases hrow : p row.part = true <;> simp [putPart, hold, hrow]
    · by_cases ho : p old.part = true
      · by_cases hrow : p row.part = true <;> simp [putPart, hold, ho, ih, hrow]
      · simp [putPart, hold, ho, ih]

/-- What is picked out of the tables once a record is written is its part, if that is picked out,
and what was picked out before. -/
theorem filter_save_vendors (p : String → Bool) (t : Tables) (r : PartRecord) :
    (t.save r).vendors.filter (fun row => p row.part) =
      (r.vendorRows.filter fun row => p row.part).foldl
        (fun rows row => Keyed.place VendorRow.key row rows)
        (t.vendors.filter fun row => p row.part) := by
  rw [save_vendors]
  show (r.vendorRows.foldl (fun rows row => Keyed.place VendorRow.key row rows)
    t.vendors).filter (fun row => (p ∘ Prod.fst) row.key) = _
  exact Keyed.filter_foldl_place (p ∘ Prod.fst) r.vendorRows t.vendors

/-- **A record is written to the rows of its part.** -/
theorem restrict_save_of_pos {r : PartRecord} (h : p r.part = true) :
    (t.save r).restrict p = (t.restrict p).save r := by
  have hrows : (r.vendorRows.filter fun row => p row.part) = r.vendorRows :=
    List.filter_eq_self.mpr fun row hrow => by rw [PartRecord.part_of_mem_vendorRows hrow, h]
  have hparts : (t.save r).parts.filter (fun row => p row.part) = ((t.restrict p).save r).parts :=
    (filter_putPart p (PartRow.ofRecord r) t.parts).trans (if_pos h)
  have hvendors : (t.save r).vendors.filter (fun row => p row.part) =
      ((t.restrict p).save r).vendors := by
    rw [filter_save_vendors, hrows, save_vendors]
    rfl
  unfold restrict
  rw [hparts, hvendors]
  rfl

/-- **A record leaves the rows of other parts alone.** -/
theorem restrict_save_of_neg {r : PartRecord} (h : p r.part = false) :
    (t.save r).restrict p = t.restrict p := by
  have hrows : (r.vendorRows.filter fun row => p row.part) = [] :=
    List.filter_eq_nil_iff.mpr fun row hrow => by
      rw [PartRecord.part_of_mem_vendorRows hrow, h]
      exact Bool.false_ne_true
  have hparts : (t.save r).parts.filter (fun row => p row.part) =
      t.parts.filter fun row => p row.part :=
    (filter_putPart p (PartRow.ofRecord r) t.parts).trans (if_neg (ne_true_of_eq_false h))
  unfold restrict
  rw [hparts, filter_save_vendors, hrows]
  rfl

theorem rowsOf_save (t : Tables) (r : PartRecord) :
    (t.save r).rowsOf r.part = (t.rowsOf r.part).save r :=
  restrict_save_of_pos (beq_self_eq_true r.part)

/-! ## Remembering a sighting -/

variable {staleDays : UInt32} {part : String} {s : Sighting} {now : Instant}

theorem part_of_load {r : PartRecord} (h : t.load k = .ok (some r)) : r.part = k := by
  unfold load at h
  split at h
  · cases h
  · rename_i row hrow
    split at h
    · cases h
    · split at h
      · rename_i r' hr'
        cases h
        have hkey : row.part = k := by simpa using List.find?_some hrow
        rw [PartRow.part_of_record? hr', hkey]
      · cases h

/-- **A sighting is remembered in a record of its part**, which is then written. -/
theorem of_upsert_eq_ok {r : PartRecord} {t' : Tables}
    (h : t.upsert staleDays part s now = .ok (r, t')) :
    r.part = PartNumber.normal part ∧ t' = t.save r := by
  unfold upsert at h
  simp only at h
  cases hl : t.load (PartNumber.normal part) with
  | error f =>
    rw [hl] at h
    cases h
  | ok old =>
    rw [hl] at h
    simp only at h
    cases hr : PartRecord.remember? old (PartNumber.normal part) s now staleDays with
    | none =>
      rw [hr] at h
      cases h
    | some r' =>
      rw [hr] at h
      cases h
      refine ⟨?_, rfl⟩
      obtain ⟨cutoff, -, rfl⟩ := PartRecord.remember?_eq_some_iff.mp hr
      rw [PartRecord.withSighting_part]
      cases old with
      | none => exact PartNumber.normal_normal part
      | some r => exact part_of_load hl

/-- Where the calendar reaches back far enough, nothing breaks down. -/
theorem upsert_ne_beyondCalendar (h : (now.minusDays? staleDays.toNat).isSome = true) :
    t.upsert staleDays part s now ≠ .error .beyondCalendar := by
  obtain ⟨cutoff, hcutoff⟩ := Option.isSome_iff_exists.mp h
  intro hupsert
  have hread := (upsert_eq_error_iff t staleDays part s now cutoff hcutoff _).mp hupsert
  cases eq_unreadable_of_load hread

/-- What is written leaves the rows of other parts alone. -/
theorem rowsOf_of_upsert {r : PartRecord} {t' : Tables}
    (h : t.upsert staleDays part s now = .ok (r, t')) (hk : PartNumber.normal part ≠ k) :
    t'.rowsOf k = t.rowsOf k := by
  obtain ⟨hpart, rfl⟩ := of_upsert_eq_ok h
  apply restrict_save_of_neg
  rw [hpart]
  exact beq_eq_false_iff_ne.mpr hk

/-- So does a handle, whether or not it breaks down. -/
theorem rowsOf_handles_upsert {ι : Type} [DecidableEq ι] (h : Handles ι) {i : ι}
    (hk : PartNumber.normal part ≠ k) :
    (h.upsert staleDays i part s now).2.tables.rowsOf k = h.tables.rowsOf k := by
  unfold Handles.upsert Handles.ask
  split
  · rename_i r t' hupsert
    split at hupsert
    · cases hupsert
    · exact rowsOf_of_upsert hupsert hk
  · rfl
  · rfl

/-- **A search touches no row of a part for which it has no fresh row.** -/
theorem rowsOf_rememberFresh {ι : Type} [DecidableEq ι] (staleDays : UInt32) (i : ι)
    (clock : Nat → Instant) (h : Handles ι) {found : List Sighting}
    (hfound : ∀ s ∈ found, s.isHistorical = false → PartNumber.normal s.part ≠ k) :
    ((Handles.store staleDays i).rememberFresh clock h found).tables.rowsOf k =
      h.tables.rowsOf k := by
  refine Store.rememberAll_induct (P := fun u : Handles ι => u.tables.rowsOf k = h.tables.rowsOf k)
    (fun s hs u now hu => ?_) rfl clock
  obtain ⟨hmem, hfresh⟩ := List.mem_filter.mp hs
  have hpart : PartNumber.normal (PartNumber.normal s.part) ≠ k := by
    rw [PartNumber.normal_normal]
    exact hfound s hmem (by simpa using hfresh)
  rw [← hu]
  exact rowsOf_handles_upsert u hpart

/-- Where the rows of the part are the same, the same is remembered. -/
theorem upsert_congr (h : u.rowsOf (PartNumber.normal part) = t.rowsOf (PartNumber.normal part)) :
    u.upsert staleDays part s now =
      (t.upsert staleDays part s now).map fun x => (x.1, u.save x.1) := by
  unfold upsert
  simp only [load_congr h]
  cases t.load (PartNumber.normal part) with
  | error f => rfl
  | ok old =>
    simp only
    cases PartRecord.remember? old (PartNumber.normal part) s now staleDays <;> rfl

/-- The record that is then written leaves the same rows of the part. -/
theorem rowsOf_save_congr {r : PartRecord} {t' : Tables}
    (h : u.rowsOf (PartNumber.normal part) = t.rowsOf (PartNumber.normal part))
    (hupsert : t.upsert staleDays part s now = .ok (r, t')) :
    (u.save r).rowsOf (PartNumber.normal part) = t'.rowsOf (PartNumber.normal part) := by
  obtain ⟨hpart, rfl⟩ := of_upsert_eq_ok hupsert
  rw [← hpart, rowsOf_save, rowsOf_save, hpart, h]

/-! ## In one transaction -/

/-- **A transaction that fails has done nothing.** -/
theorem transact_of_error {α : Type} {work : Work α} {e : Refusal}
    (h : (t.transact work).1 = .error e) : (t.transact work).2 = t := by
  unfold transact at h ⊢
  split
  · rename_i a t' hwork
    rw [hwork] at h
    cases h
  · rfl

/-- **A sighting is refused just where the record of its part cannot be read**, and for that
reason. -/
theorem transact_upsert_eq_error_iff (hnow : (now.minusDays? staleDays.toNat).isSome = true)
    (e : Refusal) : (t.transact (Work.upsert staleDays part s now)).1 = .error e ↔
      ∃ f, e = .fault f ∧ t.read part = .error f := by
  obtain ⟨cutoff, hcutoff⟩ := Option.isSome_iff_exists.mp hnow
  have hread := upsert_eq_error_iff t staleDays part s now cutoff hcutoff
  rw [transact_upsert]
  cases hupsert : t.upsert staleDays part s now with
  | error f =>
    constructor
    · intro he
      exact ⟨f, (Except.error.inj he).symm, (hread f).mp hupsert⟩
    · rintro ⟨f', rfl, hf'⟩
      obtain rfl : f = f' := Except.error.inj (hupsert.symm.trans ((hread f').mpr hf'))
      rfl
  | ok x =>
    constructor
    · intro he
      cases he
    · rintro ⟨f, -, hf⟩
      cases hupsert.symm.trans ((hread f).mpr hf)

/-- **A sighting changes no row of another part.** -/
theorem rowsBeside_transact_upsert (t : Tables) (staleDays : UInt32) (part : String) (s : Sighting)
    (now : Instant) :
    (t.transact (Work.upsert staleDays part s now)).2.rowsBeside (PartNumber.normal part) =
      t.rowsBeside (PartNumber.normal part) := by
  rw [transact_upsert]
  cases hupsert : t.upsert staleDays part s now with
  | error f => rfl
  | ok x =>
    obtain ⟨r, t'⟩ := x
    obtain ⟨hpart, rfl⟩ := of_upsert_eq_ok hupsert
    apply restrict_save_of_neg
    rw [hpart]
    exact bne_self_eq_false _

/-- **Tables with the same rows of the part come to the same**, and have the same rows of it
afterwards. -/
theorem transact_upsert_congr
    (h : u.rowsOf (PartNumber.normal part) = t.rowsOf (PartNumber.normal part)) :
    (u.transact (Work.upsert staleDays part s now)).1 =
        (t.transact (Work.upsert staleDays part s now)).1 ∧
      (u.transact (Work.upsert staleDays part s now)).2.rowsOf (PartNumber.normal part) =
        (t.transact (Work.upsert staleDays part s now)).2.rowsOf (PartNumber.normal part) := by
  rw [transact_upsert, transact_upsert, upsert_congr h]
  cases hupsert : t.upsert staleDays part s now with
  | error f => exact ⟨rfl, h⟩
  | ok x => exact ⟨rfl, rowsOf_save_congr h hupsert⟩

/-- **Parts do not meddle with each other.**  Remembering a sighting of a part fails just when the
record of that part cannot be read, and for that reason, as long as the calendar reaches back to
the date before which offers are stale.  If it fails, nothing at all has changed, and in any case
no row of another part has.  And tables with the same rows of the part, whatever else is in them,
show the same record, come to the same outcome and end up with the same rows of the part. -/
theorem upsert_isolated (t : Tables) (staleDays : UInt32) (part : String) (s : Sighting)
    {now : Instant} (hnow : (now.minusDays? staleDays.toNat).isSome = true) :
    let k := PartNumber.normal part
    let work := Work.upsert staleDays part s now
    (∀ e, (t.transact work).1 = .error e ↔ ∃ f, e = .fault f ∧ t.read part = .error f) ∧
    (∀ e, (t.transact work).1 = .error e → (t.transact work).2 = t) ∧
    (t.transact work).2.rowsBeside k = t.rowsBeside k ∧
    ∀ u : Tables, u.rowsOf k = t.rowsOf k →
      u.read part = t.read part ∧ (u.transact work).1 = (t.transact work).1 ∧
        (u.transact work).2.rowsOf k = (t.transact work).2.rowsOf k := by
  intro k work
  refine ⟨transact_upsert_eq_error_iff hnow, fun e he => transact_of_error he,
    rowsBeside_transact_upsert t staleDays part s now, fun u hu => ?_⟩
  exact ⟨load_congr hu, transact_upsert_congr hu⟩

/-- Tables with a part whose only vendor has a standing that there is not, and with a part that
has no vendor yet. -/
def oneUnreadable : Tables where
  parts := [PartRow.ofRecord (PartRecord.empty "AB1" .epoch),
    PartRow.ofRecord (PartRecord.empty "CD2" .epoch)]
  vendors := [{ VendorRow.ofEntry "AB1"
    (VendorEntry.ofSighting (Sighting.bare "acme" "AB1" .epoch .zero)) with
      standing := .text "corner shop" }]

/-- That a vendor offers a part. -/
def boltSeen (part : String) : Work PartRecord :=
  Work.upsert 180 part (Sighting.bare "bolt" part .epoch .zero) .epoch

/-- The part that cannot be read is left as it is; the other one is none the worse for it. -/
theorem upsert_isolated_of_oneUnreadable :
    (Instant.epoch.minusDays? (180 : UInt32).toNat).isSome = true ∧
    (oneUnreadable.transact (boltSeen "ab1")).1 = .error (.fault .unreadable) ∧
    (oneUnreadable.transact (boltSeen "ab1")).2 = oneUnreadable ∧
    (∀ e, (oneUnreadable.transact (boltSeen "cd2")).1 ≠ .error e) ∧
    (oneUnreadable.transact (boltSeen "cd2")).2.rowsBeside "CD2" =
      oneUnreadable.rowsBeside "CD2" := by
  have hnow : (Instant.epoch.minusDays? (180 : UInt32).toNat).isSome = true := by decide
  have hunreadable : oneUnreadable.read "ab1" = .error .unreadable := by decide +kernel
  have hreadable : (oneUnreadable.read "cd2").isOk = true := by decide +kernel
  have hnormal : PartNumber.normal "cd2" = "CD2" := by decide +kernel
  have hlaw (part : String) := upsert_isolated oneUnreadable 180 part
    (Sighting.bare "bolt" part .epoch .zero) hnow
  have hfails : (oneUnreadable.transact (boltSeen "ab1")).1 = .error (.fault .unreadable) :=
    ((hlaw "ab1").1 _).mpr ⟨.unreadable, rfl, hunreadable⟩
  refine ⟨hnow, hfails, (hlaw "ab1").2.1 _ hfails, fun e he => ?_, hnormal ▸ (hlaw "cd2").2.2.1⟩
  obtain ⟨f, -, hf⟩ := ((hlaw "cd2").1 e).mp he
  rw [hf] at hreadable
  cases hreadable

end Tables

/-! ## In a run -/

/-- Whether a request is about a part in normal form. -/
def Memory.Request.concerns {ι : Type} (k : String) : Request ι → Bool
  | .upsert _ part _ _ | .read _ part => PartNumber.normal part == k
  | .connect | .list _ => false

namespace Handles

open Tables

variable {ι : Type} [DecidableEq ι] (days : ι → UInt32) {h u : Handles ι} {k : String}

/-- **The same rows of a part** behind handles of which the same have broken down. -/
structure SameOf (k : String) (h u : Handles ι) : Prop where
  rows : u.tables.rowsOf k = h.tables.rowsOf k
  poisoned : u.poisoned = h.poisoned

/-- **A request about a part** is answered from its rows, and leaves the same rows of it. -/
theorem SameOf.respond (hsame : SameOf k h u) {q : Request ι} (hq : q.concerns k = true) :
    ((keeper days).respond u q).1 = ((keeper days).respond h q).1 ∧
      SameOf k ((keeper days).respond h q).2 ((keeper days).respond u q).2 := by
  obtain ⟨hrows, hpoisoned⟩ := hsame
  cases q with
  | connect => cases hq
  | list i => cases hq
  | read i part =>
    obtain rfl := eq_of_beq hq
    simp only [Keeper.respond, keeper, store, ask, hpoisoned, Tables.read, load_congr hrows]
    exact ⟨trivial, hrows, hpoisoned⟩
  | upsert i part s now =>
    obtain rfl := eq_of_beq hq
    simp only [Keeper.respond, keeper, store, upsert, ask, hpoisoned, upsert_congr hrows]
    by_cases hi : i ∈ h.poisoned
    · simp only [if_pos hi]
      exact ⟨trivial, hrows, hpoisoned⟩
    · simp only [if_neg hi]
      cases hupsert : h.tables.upsert (days i) part s now with
      | ok x => exact ⟨rfl, rowsOf_save_congr hrows hupsert, rfl⟩
      | error f =>
        cases f with
        | beyondCalendar => exact ⟨rfl, hrows, rfl⟩
        | _ => exact ⟨rfl, hrows, hpoisoned⟩

/-- **Any other request** leaves the rows of the part as they are, and breaks nothing down where the
calendar reaches back far enough. -/
theorem SameOf.respond_other (hsame : SameOf k h u) {q : Request ι} (hq : q.concerns k = false)
    (hr : q.Reaches days) : SameOf k ((keeper days).respond h q).2 u := by
  obtain ⟨hrows, hpoisoned⟩ := hsame
  cases q with
  | connect => exact ⟨hrows, hpoisoned⟩
  | list i => exact ⟨hrows, hpoisoned⟩
  | read i part => exact ⟨hrows, hpoisoned⟩
  | upsert i part s now =>
    have hpart : PartNumber.normal part ≠ k := beq_eq_false_iff_ne.mp hq
    refine ⟨hrows.trans (rowsOf_handles_upsert h hpart).symm, hpoisoned.trans ?_⟩
    show h.poisoned = (h.upsert (days i) i part s now).2.poisoned
    unfold upsert ask
    split
    · rfl
    · rename_i hupsert
      split at hupsert
      · cases hupsert
      · exact absurd hupsert (upsert_ne_beyondCalendar hr)
    · rfl

/-- **Requests about one part are answered as they are alone**, where the calendar reaches back far
enough.  Take the requests about a part out of a run, whatever comes between them, and ask them of
tables with the same rows of that part: the answers are the same. -/
theorem SameOf.transcript (hsame : SameOf k h u) {qs : List (Request ι)}
    (hreach : ∀ q ∈ qs, q.Reaches days) :
    answersTo (·.concerns k) qs ((keeper days).transcript h qs) =
      (keeper days).transcript u (qs.filter (·.concerns k)) :=
  Keeper.answersTo_transcript _ (fun _ _ hq _ _ hsame => hsame.respond days hq)
    (fun q hmem hq _ _ hsame => hsame.respond_other days hq (hreach q hmem)) hsame

end Handles

end PartSourcing
