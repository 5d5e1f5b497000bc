import PartSourcing.Memory.Tables

/-!
# Statements and transactions

To remember a sighting takes several statements: the rows of its part are read, the row of the part
is written, and then those of its vendors, one after the other (`Work.upsert`).  Each of them can
be refused, and what those before it have done is still there; so they are made one transaction,
which leaves the tables as they were if a statement is refused (`Tables.transact`).

A row is refused if a column that has to hold something would hold nothing, or if it is the row of
a vendor whose part has none.  **No row of a record is ever refused** (`Work.on_save`): whatever
stands in the other rows, what has been read can be written.  So a transaction fails before its
first write or not at all, and it comes to what `Tables.upsert` says (`Tables.transact_upsert`).
-/

namespace PartSourcing

open PartSourcing.Calendar

/-- Why a statement is refused. -/
inductive Refusal where
  | fault (f : StoreFault)
  /-- A column that has to hold something would hold nothing. -/
  | missing
  /-- The part of a vendor has no row. -/
  | orphan
  deriving DecidableEq, Repr

/-- Statements one after the other, on tables. -/
abbrev Work (α : Type) := ExceptT Refusal (StateM Tables) α

/-- What statements come to, and the tables as they are then. -/
def Work.on (work : Work α) (t : Tables) : Except Refusal α × Tables := work.run.run t

/-- **Statements as one transaction**: if one is refused, the tables are as they were before all of
them. -/
def Tables.transact (t : Tables) (work : Work α) : Except Refusal α × Tables :=
  match work.on t with
  | (.ok a, t') => (.ok a, t')
  | (.error e, _) => (.error e, t)

/-- Whether all columns hold something that have to. -/
def PartRow.isComplete (row : PartRow) : Bool :=
  [row.searchCount, row.createdAt, row.updatedAt].all (· ≠ .null)

/-- Whether all columns hold something that have to. -/
def VendorRow.isComplete (row : VendorRow) : Bool :=
  [row.vendorName, row.standing, row.timesSeen, row.firstSeen, row.lastSeen].all (· ≠ .null)

namespace Work

/-! ## Statements -/

/-- Reads the record of a part in normal form. -/
def load (k : String) : Work (Option PartRecord) := do
  match (← get).load k with
  | .ok r => return r
  | .error f => throw (.fault f)

/-- Writes the row of a part. -/
def putPart (row : PartRow) : Work Unit := do
  if row.isComplete then modify fun t => { t with parts := Tables.putPart row t.parts }
  else throw .missing

/-- Writes the row of a vendor. -/
def putVendor (row : VendorRow) : Work Unit := do
  if row.isComplete then
    if ((← get).row? row.part).isSome then
      modify fun t => { t with vendors := Tables.putVendor row t.vendors }
    else throw .orphan
  else throw .missing

/-- Writes all rows of a record, that of its part first. -/
def save (r : PartRecord) : Work Unit := do
  putPart (PartRow.ofRecord r)
  forM r.entries fun e => putVendor (VendorRow.ofEntry r.part e)

/-- **Remembers a sighting of a part.** -/
def upsert (staleDays : UInt32) (part : String) (s : Sighting) (now : Instant) :
    Work PartRecord := do
  let k := PartNumber.normal part
  match PartRecord.remember? (← load k) k s now staleDays with
  | some r =>
    save r
    return r
  | none => throw (.fault .beyondCalendar)

/-! ## What they come to -/

variable {α β : Type}

theorem on_bind (work : Work α) (next : α → Work β) (t : Tables) :
    (work >>= next).on t = match work.on t with
      | (.ok a, t') => (next a).on t'
      | (.error e, t') => (.error e, t') := by
  show StateT.run (work.run >>= ExceptT.bindCont next) t = _
  rw [StateT.run_bind]
  show (match work.on t with | (a, t') => StateT.run (ExceptT.bindCont next a) t') = _
  rcases work.on t with ⟨a | e, t'⟩ <;> rfl

theorem on_load (k : String) (t : Tables) :
    (load k).on t = match t.load k with
      | .ok r => (.ok r, t)
      | .error f => (.error (.fault f), t) := by
  unfold load
  rw [on_bind]
  show (match t.load k with
    | .ok r => (pure r : Work (Option PartRecord))
    | .error f => throw (Refusal.fault f)).on t = _
  cases t.load k <;> rfl

end Work

theorem PartRow.isComplete_ofRecord (r : PartRecord) : (ofRecord r).isComplete = true := rfl

theorem VendorRow.isComplete_ofEntry (part : String) (e : VendorEntry) :
    (ofEntry part e).isComplete = true := rfl

/-- The row of a part is there once it has been written. -/
theorem Tables.row?_putPart (t : Tables) (row : PartRow) :
    ({ t with parts := putPart row t.parts }.row? row.part).isSome = true := by
  show ((putPart row t.parts).find? (·.part == row.part)).isSome = true
  induction t.parts with
  | nil => simp [putPart]
  | cons old rows ih =>
    unfold putPart
    by_cases h : old.part = row.part
    · rw [if_pos h]
      simp
    · rw [if_neg h, List.find?_cons_of_neg (by simpa using h)]
      exact ih

namespace Work

theorem on_putPart {row : PartRow} (h : row.isComplete = true) (t : Tables) :
    (putPart row).on t = (.ok (), { t with parts := Tables.putPart row t.parts }) := by
  unfold putPart
  rw [if_pos h]
  rfl

theorem on_putVendor {row : VendorRow} (h : row.isComplete = true) {t : Tables}
    (hpart : (t.row? row.part).isSome = true) :
    (putVendor row).on t = (.ok (), { t with vendors := Tables.putVendor row t.vendors }) := by
  unfold putVendor
  rw [if_pos h, on_bind]
  show (if (t.row? row.part).isSome = true then _ else _ : Work Unit).on t = _
  rw [if_pos hpart]
  rfl

/-- The rows of vendors are written as soon as that of their part is there. -/
theorem on_forM_putVendor (part : String) (es : List VendorEntry) {t : Tables}
    (hpart : (t.row? part).isSome = true) :
    (forM es fun e => putVendor (VendorRow.ofEntry part e)).on t =
      (.ok (), { t with
        vendors := es.foldl (fun rows e => Tables.putVendor (VendorRow.ofEntry part e) rows)
          t.vendors }) := by
  -- no row of a vendor takes away that of the part
  induction es generalizing t with
  | nil => rfl
  | cons e es ih =>
    rw [List.forM_cons, on_bind, on_putVendor (VendorRow.isComplete_ofEntry part e) hpart]
    exact ih hpart

/-- **No row of a record is refused**, whatever stands in the tables. -/
theorem on_save (r : PartRecord) (t : Tables) : (save r).on t = (.ok (), t.save r) := by
  unfold save
  rw [on_bind, on_putPart (PartRow.isComplete_ofRecord r)]
  exact on_forM_putVendor r.part r.entries (t.row?_putPart (PartRow.ofRecord r))

end Work

/-- **To remember a sighting in one transaction** is what `Tables.upsert` says. -/
theorem Tables.transact_upsert (t : Tables) (staleDays : UInt32) (part : String) (s : Sighting)
    (now : Instant) : t.transact (Work.upsert staleDays part s now) =
      match t.upsert staleDays part s now with
      | .ok (r, t') => (.ok r, t')
      | .error f => (.error (.fault f), t) := by
  unfold transact Work.upsert upsert
  simp only [Work.on_bind, Work.on_load]
  cases t.load (PartNumber.normal part) with
  | error f => rfl
  | ok old =>
    simp only
    cases PartRecord.remember? old (PartNumber.normal part) s now staleDays with
    | none => rfl
    | some r =>
      simp only [Work.on_bind, Work.on_save]
      rfl

end PartSourcing
