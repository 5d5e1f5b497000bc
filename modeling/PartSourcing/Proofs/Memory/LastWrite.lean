import PartSourcing.Proofs.Memory.Holdings

/-!
# What was written last

Memory is written when a record is put in and when a sighting is remembered.  Every write stands in
a log under the key that it goes by (`perform?`, `run?`): what a sighting leaves goes by the normal
form of the part number it came with, a record that is put in by its own part number as it is
spelt.  **What is read of a part is the last write under the normal form of its number**
(`read_of_run?`), for one operation shows what was written or else what was there before
(`read_of_perform?`).

So a record whose part number is in normal form is found under every spelling of it, and sightings
that come under any of them extend it; one whose part number is not in normal form is found under
no spelling at all (`read_insert_of_misspelt`).
-/

namespace PartSourcing

open PartSourcing.Calendar

/-! ## Logs -/

/-- Writes under the keys they go by, in the order in which they were made. -/
abbrev WriteLog := List (String × PartRecord)

/-- The last write under a key. -/
def WriteLog.last? (log : WriteLog) (k : String) : Option PartRecord := log.reverse.lookup k

theorem WriteLog.last?_append (log later : WriteLog) (k : String) :
    WriteLog.last? (log ++ later) k = (later.last? k).or (log.last? k) := by
  unfold last?
  rw [List.reverse_append, List.lookup_append]

theorem WriteLog.last?_singleton (k' : String) (r : PartRecord) (k : String) :
    WriteLog.last? [(k', r)] k = if k = k' then some r else none := by
  unfold last?
  rw [List.reverse_singleton, List.lookup_cons]
  by_cases h : k = k'
  · rw [if_pos h, h, beq_self_eq_true]
  · rw [if_neg h, beq_eq_false_iff_ne.mpr h]
    rfl

namespace Volatile

/-! ## Operations and what they write -/

/-- What is done to memory. -/
inductive Op where
  /-- A record is put in. -/
  | insert (r : PartRecord)
  /-- A sighting of a part is remembered. -/
  | upsert (part : String) (s : Sighting) (now : Instant)
  /-- The record of a part is read. -/
  | read (part : String)

/-- Whether the calendar reaches back, from the time of an operation, to the date before which
offers are stale. -/
def Op.Reaches (staleDays : UInt32) : Op → Prop
  | .upsert _ _ now => (now.minusDays? staleDays.toNat).isSome = true
  | _ => True

instance (staleDays : UInt32) : DecidablePred (Op.Reaches staleDays)
  | .insert _ => inferInstanceAs (Decidable True)
  | .upsert _ _ now => inferInstanceAs (Decidable ((now.minusDays? staleDays.toNat).isSome = true))
  | .read _ => inferInstanceAs (Decidable True)

/-- What one operation writes, and the memory after it, if it is carried out. -/
def perform? (v : Volatile) (op : Op) : Option (WriteLog × Volatile) :=
  if v.poisoned then none
  else match op with
    | .insert r => some ([(r.part, r)], v.insert r)
    | .upsert part s now =>
      (v.upsert? part s now).map fun x => ([(PartNumber.normal part, x.1)], x.2)
    | .read _ => some ([], v)

/-- **What some operations write**, one after the other, and the memory after all of them.  There is
none once a sighting cannot be remembered. -/
def run? : Volatile → List Op → Option (WriteLog × Volatile)
  | v, [] => some ([], v)
  | v, op :: ops =>
    (v.perform? op).bind fun x => (run? x.2 ops).map fun y => (x.1 ++ y.1, y.2)

variable {v v' : Volatile} {log : WriteLog}

theorem run?_cons_eq_some_iff {op : Op} {ops : List Op} :
    run? v (op :: ops) = some (log, v') ↔ ∃ first v₁ later,
      v.perform? op = some (first, v₁) ∧ run? v₁ ops = some (later, v') ∧ first ++ later = log := by
  rw [run?, Option.bind_eq_some_iff]
  constructor
  · rintro ⟨⟨first, v₁⟩, hfirst, hrest⟩
    obtain ⟨⟨later, w⟩, hlater, hlog⟩ := Option.map_eq_some_iff.mp hrest
    obtain ⟨rfl, rfl⟩ := Prod.mk.inj hlog
    exact ⟨first, v₁, later, hfirst, hlater, rfl⟩
  · rintro ⟨first, v₁, later, hfirst, hlater, rfl⟩
    exact ⟨(first, v₁), hfirst, Option.map_eq_some_iff.mpr ⟨(later, v'), hlater, rfl⟩⟩

/-- **What it takes to carry out an operation**, and what is left then. -/
theorem perform?_eq_some_iff {op : Op} : v.perform? op = some (log, v') ↔ v.poisoned = false ∧
    match op with
    | .insert r => log = [(r.part, r)] ∧ v' = v.insert r
    | .upsert part s now =>
      ∃ r, v.upsert? part s now = some (r, v') ∧ log = [(PartNumber.normal part, r)]
    | .read _ => log = [] ∧ v' = v := by
  cases hv : v.poisoned with
  | true => simp [perform?, hv]
  | false =>
    cases op with
    | insert r => simp [perform?, hv, eq_comm]
    | read part => simp [perform?, hv, eq_comm]
    | upsert part s now =>
      simp only [perform?, hv, Bool.false_eq_true, if_false, true_and, Option.map_eq_some_iff]
      constructor
      · rintro ⟨⟨r, w⟩, hu, hw⟩
        obtain ⟨rfl, rfl⟩ := Prod.mk.inj hw
        exact ⟨r, hu, rfl⟩
      · rintro ⟨r, hu, rfl⟩
        exact ⟨(r, v'), hu, rfl⟩

theorem insert_eq (hv : v.poisoned = false) (r : PartRecord) :
    v.insert r = { v with records := put r.part r v.records } := by
  rw [insert, if_neg (ne_true_of_eq_false hv)]

/-- An operation that is carried out leaves the same memory in all but its records. -/
theorem of_perform? {op : Op} (h : v.perform? op = some (log, v')) :
    v'.poisoned = false ∧ v'.staleDays = v.staleDays := by
  obtain ⟨hv, hop⟩ := perform?_eq_some_iff.mp h
  cases op with
  | insert r =>
    obtain ⟨-, rfl⟩ := hop
    rw [insert_eq hv]
    exact ⟨hv, rfl⟩
  | upsert part s now =>
    obtain ⟨r, hu, -⟩ := hop
    exact (of_upsert? hu).2
  | read part =>
    obtain ⟨-, rfl⟩ := hop
    exact ⟨hv, rfl⟩

theorem perform?_isSome (hv : v.poisoned = false) (op : Op) :
    (v.perform? op).isSome = true ↔ op.Reaches v.staleDays := by
  unfold perform?
  rw [if_neg (ne_true_of_eq_false hv)]
  cases op with
  | insert r => exact iff_of_true rfl trivial
  | upsert part s now =>
    dsimp only
    rw [Option.isSome_map, upsert?_isSome hv]
    rfl
  | read part => exact iff_of_true rfl trivial

/-- **All operations are carried out** just where every sighting can be remembered. -/
theorem run?_isSome (hv : v.poisoned = false) (ops : List Op) :
    (run? v ops).isSome = true ↔ ∀ op ∈ ops, op.Reaches v.staleDays := by
  induction ops generalizing v with
  | nil => exact iff_of_true rfl fun op hop => absurd hop List.not_mem_nil
  | cons op ops ih =>
    rw [List.forall_mem_cons, ← perform?_isSome hv, run?]
    cases hfirst : v.perform? op with
    | none => exact iff_of_false Bool.false_ne_true fun h => Bool.false_ne_true h.1
    | some x =>
      obtain ⟨first, v₁⟩ := x
      obtain ⟨hv₁, hstale⟩ := of_perform? hfirst
      rw [Option.bind_some, Option.isSome_map, ih hv₁, hstale]
      exact (and_iff_right rfl).symm

/-- Memory in which all operations have been carried out has not broken down. -/
theorem poisoned_of_run? (hv : v.poisoned = false) {ops : List Op}
    (h : run? v ops = some (log, v')) : v'.poisoned = false := by
  induction ops generalizing v log with
  | nil =>
    obtain ⟨-, rfl⟩ := Prod.mk.inj (Option.some.inj h)
    exact hv
  | cons op ops ih =>
    obtain ⟨first, v₁, later, hfirst, hlater, -⟩ := run?_cons_eq_some_iff.mp h
    exact ih (of_perform? hfirst).1 hlater

/-! ## What is read -/

/-- **One operation** shows what it has written, and everything else as it was before. -/
theorem read_of_perform? {op : Op} (h : v.perform? op = some (log, v')) (part : String) :
    v'.read part = (log.last? (PartNumber.normal part)).or (v.read part) := by
  obtain ⟨hv, hop⟩ := perform?_eq_some_iff.mp h
  cases op with
  | insert r =>
    obtain ⟨rfl, rfl⟩ := hop
    rw [read_insert hv, WriteLog.last?_singleton]
    split <;> rfl
  | upsert k s now =>
    obtain ⟨r, hu, rfl⟩ := hop
    rw [read_of_upsert? hu, WriteLog.last?_singleton]
    split <;> rfl
  | read k =>
    obtain ⟨rfl, rfl⟩ := hop
    rfl

/-- **What is read after some operations is the last write** under the normal form of the part
number, and what was there before if they have written nothing under it. -/
theorem read_of_run? {ops : List Op} (h : run? v ops = some (log, v')) (part : String) :
    v'.read part = (log.last? (PartNumber.normal part)).or (v.read part) := by
  -- the later writes hide the earlier ones, and both hide what was there before
  induction ops generalizing v log with
  | nil =>
    obtain ⟨rfl, rfl⟩ := Prod.mk.inj (Option.some.inj h)
    rfl
  | cons op ops ih =>
    obtain ⟨first, v₁, later, hfirst, hlater, rfl⟩ := run?_cons_eq_some_iff.mp h
    rw [ih hlater, read_of_perform? hfirst, WriteLog.last?_append, Option.or_assoc]

/-! ## Records that are put in -/

/-- **A record that memory shows** for a part: under every spelling with the normal form `k` it is
what is read, and a sighting extends it and leaves the outcome to be read. -/
structure Shows (v : Volatile) (k : String) (r : PartRecord) : Prop where
  read : ∀ part, PartNumber.normal part = k → v.read part = some r
  upsert : ∀ part s now r' v', PartNumber.normal part = k → v.upsert? part s now = some (r', v') →
    r.observed? s now v.staleDays = some r' ∧
      ∀ part', PartNumber.normal part' = k → v'.read part' = some r'

/-- Reading and remembering find the same record. -/
theorem shows_of_lookup {k : String} {r : PartRecord} (hv : v.poisoned = false)
    (h : v.records.lookup k = some r) : v.Shows k r where
  read part hpart := by
    rw [read_of_not_poisoned hv, filed, hpart, h]
  upsert part s now r' v' hpart hu := by
    refine ⟨?_, fun part' hpart' => ?_⟩
    · obtain ⟨-, hr, -⟩ := upsert?_eq_some_iff.mp hu
      rw [filed, hpart, h] at hr
      exact hr
    · rw [read_of_upsert? hu, if_pos (hpart'.trans hpart.symm)]

/-- **A record that is put in is shown** for its part, whatever was there before. -/
theorem shows_insert (hv : v.poisoned = false) (r : PartRecord) : (v.insert r).Shows r.part r := by
  rw [insert_eq hv]
  apply shows_of_lookup (v := { v with records := put r.part r v.records }) hv
  show (put r.part r v.records).lookup r.part = some r
  rw [lookup_put, if_pos rfl]

/-- **A record that is not in normal form is found by nobody**: what is read goes by normal forms,
and no normal form is its part number. -/
theorem read_insert_of_misspelt (hv : v.poisoned = false) {r : PartRecord}
    (hr : PartNumber.normal r.part ≠ r.part) (part : String) :
    (v.insert r).read part = v.read part := by
  rw [read_insert hv, if_neg]
  intro hpart
  apply hr
  rw [← hpart, PartNumber.normal_normal]

/-- **Memory is a table of what was written last.**  However records are put in and sightings are
remembered, what is read of a part is the last write under the normal form of its number, and
nothing if there is none.  A record that is put in is written under its own part number as it is
spelt: in normal form it is shown from then on under every spelling, and in any other form no
reading can tell that it was put in. -/
theorem read_last_written (staleDays : UInt32) (ops : List Op) :
    ((run? { staleDays } ops).isSome = true ↔ ∀ op ∈ ops, op.Reaches staleDays) ∧
    ∀ log v, run? { staleDays } ops = some (log, v) →
      (∀ part, v.read part = log.last? (PartNumber.normal part)) ∧
      (∀ r, (v.insert r).Shows r.part r) ∧
      ∀ r, PartNumber.normal r.part ≠ r.part → ∀ part, (v.insert r).read part = v.read part := by
  refine ⟨run?_isSome rfl ops, fun log v hrun => ?_⟩
  have hv : v.poisoned = false := poisoned_of_run? rfl hrun
  refine ⟨fun part => ?_, shows_insert hv, fun r hr => read_insert_of_misspelt hv hr⟩
  rw [read_of_run? hrun]
  exact Option.or_none

/-- A record is put in, a sighting of its part comes under another spelling, and the part is read
under a third. -/
def seededRun : List Op := [
  .insert (PartRecord.empty "ab1" .epoch),
  .upsert "a b1" (Sighting.bare "acme" "AB1" .epoch .zero) .epoch,
  .read "Ab 1"]

/-- The last write is what the sighting has made of the record that was put in. -/
theorem read_of_seededRun :
    ∃ log v, run? { staleDays := 180 } seededRun = some (log, v) ∧
      v.read "aB 1" = log.last? "AB1" ∧ (v.read "aB 1").map (·.searchCount) = some 1 := by
  have hlaw := read_last_written 180 seededRun
  have hreaches : ∀ op ∈ seededRun, op.Reaches 180 := by decide
  obtain ⟨⟨log, v⟩, hrun⟩ := Option.isSome_iff_exists.mp (hlaw.1.mpr hreaches)
  have hnormal : PartNumber.normal "aB 1" = "AB1" := by decide +kernel
  have hread : v.read "aB 1" = log.last? "AB1" := by
    rw [(hlaw.2 log v hrun).1, hnormal]
  have hcount : ((run? { staleDays := 180 } seededRun).map fun x =>
      (x.2.read "aB 1").map (·.searchCount)) = some (some 1) := by decide +kernel
  rw [hrun] at hcount
  exact ⟨log, v, hrun, hread, Option.some.inj hcount⟩

/-- The record of a part whose number is written with a blank. -/
def misspelt : PartRecord := { PartRecord.empty "abc123" .epoch with part := "abc 123" }

/-- **A record is not written under the normal form of its part number**: with a blank in the
number it is not found even under its own spelling. -/
theorem misspelt_not_found :
    ¬ ∀ staleDays ops log v, run? { staleDays } ops = some (log, v) → ∀ part,
      v.read part =
        WriteLog.last? (log.map (Prod.map PartNumber.normal id)) (PartNumber.normal part) := by
  intro h
  have hread := h 180 [.insert misspelt] _ _ rfl "abc 123"
  revert hread
  decide +kernel

end Volatile

end PartSourcing
