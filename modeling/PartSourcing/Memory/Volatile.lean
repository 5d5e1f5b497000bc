import PartSourcing.Memory.Observation
import PartSourcing.Memory.Store

/-!
# Memory that is not kept

Records under their part numbers, for as long as the program runs. What is read and remembered
goes by the normal form of the part number; a record that is put in goes under its part number
as it is.

The record of a part is taken out before a sighting is added to it and put back afterwards. If
memory breaks down in between, the record is gone, and so is all access to the others: the lock is
poisoned, and nothing can be told, put in or remembered any more.
-/

namespace PartSourcing

open PartSourcing.Calendar

/-- Records under part numbers, each number once. -/
structure Volatile where
  records : List (String × PartRecord) := []
  staleDays : UInt32 := PartRecord.defaultStaleDays
  /-- Whether memory has broken down. -/
  poisoned : Bool := false
  deriving DecidableEq

namespace Volatile

/-- The records with the one of a part number replaced, or added at the end. -/
def put (k : String) (r : PartRecord) : List (String × PartRecord) → List (String × PartRecord)
  | [] => [(k, r)]
  | m :: ms => if m.1 = k then (k, r) :: ms else m :: put k r ms

/-- The record that is filed under a part, whether or not it can still be read. -/
def filed (v : Volatile) (part : String) : Option PartRecord :=
  v.records.lookup (PartNumber.normal part)

/-- **What can be told of a part.** That is nothing once memory has broken down. -/
def read (v : Volatile) (part : String) : Option PartRecord :=
  if v.poisoned then none else v.filed part

/-- The memory with a record put in under its own part number, if it has not broken down. -/
def insert (v : Volatile) (r : PartRecord) : Volatile :=
  if v.poisoned then v else { v with records := put r.part r v.records }

/-- **The record of a part after one more sighting**, and the memory with it. `none` means that
memory has broken down before, or that it does so now: the calendar does not reach back to the date
before which offers are stale. -/
def upsert? (v : Volatile) (part : String) (s : Sighting) (now : Instant) :
    Option (PartRecord × Volatile) :=
  if v.poisoned then none
  else
    let k := PartNumber.normal part
    (PartRecord.remember? (v.records.lookup k) k s now v.staleDays).map fun r =>
      (r, { v with records := put k r v.records })

/-- The memory after it has broken down over a sighting of a part. -/
def brokenDown (v : Volatile) (part : String) : Volatile :=
  { v with
    records := v.records.filter fun m => m.1 ≠ PartNumber.normal part
    poisoned := true }

/-- The memory after some sightings are remembered under their own parts, one after the other. -/
def rememberAll? (clock : Nat → Instant) (v : Volatile) : List Sighting → Option Volatile
  | [] => some v
  | s :: rows =>
    (v.upsert? s.part s (clock 0)).bind fun x => rememberAll? (fun n => clock (n + 1)) x.2 rows

/-- The memory after the fresh ones of some sightings are remembered under their own parts, in
their order. What came from memory does not go back into it. -/
def rememberFresh? (v : Volatile) (clock : Nat → Instant) (sightings : List Sighting) :
    Option Volatile :=
  v.rememberAll? clock (sightings.filter fun s => !s.isHistorical)

/-- The part numbers, in order. -/
def parts (v : Volatile) : List String := (v.records.map (·.1)).mergeSort

/-- The records, in the order of their part numbers. -/
def all (v : Volatile) : List PartRecord :=
  (v.records.mergeSort fun a b => a.1 ≤ b.1).map (·.2)

/-- An answer, unless memory has broken down. -/
def unlessPoisoned (v : Volatile) (answer : α) : Except StoreFault α :=
  if v.poisoned then .error .poisoned else .ok answer

/-- The memory as a store. -/
def store : Store Volatile where
  read v part := v.unlessPoisoned (v.filed part)
  upsert v part s now :=
    match v.upsert? part s now with
    | some (r, v) => (.ok r, v)
    | none =>
      if v.poisoned then (.error .poisoned, v) else (.error .beyondCalendar, v.brokenDown part)

theorem lookup_put (k : String) (r : PartRecord) (ms : List (String × PartRecord)) (k' : String) :
    (put k r ms).lookup k' = if k' = k then some r else ms.lookup k' := by
  induction ms with
  | nil => by_cases h : k' = k <;> simp [put, List.lookup_cons, h, beq_eq_false_iff_ne.mpr]
  | cons m ms ih =>
    obtain ⟨n, q⟩ := m
    by_cases hn : n = k
    · subst hn
      by_cases h : k' = n
      · simp [put, h]
      · simp [put, List.lookup_cons, beq_eq_false_iff_ne.mpr h, h]
    · by_cases h : k' = n
      · subst h
        simp [put, hn]
      · simp [put, List.lookup_cons, hn, beq_eq_false_iff_ne.mpr h, ih]

theorem lookup_filter_ne (k : String) (ms : List (String × PartRecord)) (k' : String) :
    (ms.filter fun m => m.1 ≠ k).lookup k' = if k' = k then none else ms.lookup k' := by
  induction ms with
  | nil => simp
  | cons m ms ih =>
    obtain ⟨n, q⟩ := m
    by_cases hn : n = k
    · subst hn
      rw [List.filter_cons_of_neg (by simp), ih, List.lookup_cons]
      by_cases h : k' = n <;> simp [h, beq_eq_false_iff_ne.mpr]
    · rw [List.filter_cons_of_pos (by simpa using hn), List.lookup_cons, List.lookup_cons, ih]
      by_cases h : k' = n
      · simp [h, hn]
      · simp [beq_eq_false_iff_ne.mpr h]

/-! ## What one step leaves -/

@[simp] theorem read_of_not_poisoned {v : Volatile} (h : v.poisoned = false) (part : String) :
    v.read part = v.filed part := by
  rw [read, h, if_neg Bool.false_ne_true]

@[simp] theorem read_of_poisoned {v : Volatile} (h : v.poisoned = true) (part : String) :
    v.read part = none := by
  rw [read, if_pos h]

/-- A search recalls just what can be told. -/
theorem recalled_eq (v : Volatile) (part : String) :
    (store.read v part).toOption.join = v.read part := by
  show (v.unlessPoisoned (v.filed part)).toOption.join = _
  unfold unlessPoisoned read
  split <;> rfl

/-- **What is put in is found** under its own part number, and nothing else has changed. -/
theorem read_insert {v : Volatile} (h : v.poisoned = false) (r : PartRecord) (part : String) :
    (v.insert r).read part = if PartNumber.normal part = r.part then some r else v.read part := by
  simp [read, insert, filed, h, lookup_put]

/-- **What it takes to remember a sighting**, and what is left then. -/
theorem upsert?_eq_some_iff {v v' : Volatile} {part : String} {s : Sighting} {now : Instant}
    {r : PartRecord} : v.upsert? part s now = some (r, v') ↔ v.poisoned = false ∧
      PartRecord.remember? (v.filed part) (PartNumber.normal part) s now v.staleDays = some r ∧
      v' = { v with records := put (PartNumber.normal part) r v.records } := by
  unfold upsert?
  split
  · rename_i h
    simp [h]
  · rename_i h
    rw [Option.map_eq_some_iff]
    constructor
    · rintro ⟨r, hr, hrv⟩
      obtain ⟨rfl, rfl⟩ := Prod.mk.inj hrv
      exact ⟨by simpa using h, hr, rfl⟩
    · rintro ⟨-, hr, rfl⟩
      exact ⟨r, hr, rfl⟩

/-- **What a sighting leaves is filed** under its part number, and everything else is as it was. -/
theorem filed_of_upsert? {v v' : Volatile} {k : String} {s : Sighting} {now : Instant}
    {r : PartRecord} (h : v.upsert? k s now = some (r, v')) (part : String) :
    v'.filed part =
      if PartNumber.normal part = PartNumber.normal k then some r else v.filed part := by
  obtain ⟨-, -, rfl⟩ := upsert?_eq_some_iff.mp h
  exact lookup_put _ _ _ _

/-- A memory that has remembered a sighting is the same in all but its records. -/
theorem of_upsert? {v v' : Volatile} {k : String} {s : Sighting} {now : Instant}
    {r : PartRecord} (h : v.upsert? k s now = some (r, v')) :
    v.poisoned = false ∧ v'.poisoned = false ∧ v'.staleDays = v.staleDays := by
  obtain ⟨hv, -, rfl⟩ := upsert?_eq_some_iff.mp h
  exact ⟨hv, hv, rfl⟩

/-- **What a sighting leaves is found** under every spelling of its part number, and nothing else
has changed. -/
theorem read_of_upsert? {v v' : Volatile} {k : String} {s : Sighting} {now : Instant}
    {r : PartRecord} (h : v.upsert? k s now = some (r, v')) (part : String) :
    v'.read part =
      if PartNumber.normal part = PartNumber.normal k then some r else v.read part := by
  obtain ⟨hv, hv', -⟩ := of_upsert? h
  rw [read_of_not_poisoned hv', read_of_not_poisoned hv, filed_of_upsert? h]

/-- **What a breakdown leaves**: the record of the part is gone, and the others are as they were. -/
theorem filed_brokenDown (v : Volatile) (k part : String) : (v.brokenDown k).filed part =
    if PartNumber.normal part = PartNumber.normal k then none else v.filed part :=
  lookup_filter_ne _ _ _

end Volatile

end PartSourcing
