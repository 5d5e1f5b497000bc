import PartSourcing.Memory.Tables
import PartSourcing.Proofs.Calendar.Stamp
import PartSourcing.Proofs.Decimal.TotalOrder
import PartSourcing.Proofs.SearchId

/-!
# Rows and what they are read as

A record whose dates have years of four digits and whose prices are positive numbers can be kept
(`PartRecord.Storable`).  **Its rows are read as the record itself, but for the quantities**: what
is too great for a column comes back as the greatest number that fits (`capped`).  So the reading
of every field is undone by its writing, and that is all there is to a row.
-/

namespace PartSourcing

open PartSourcing.Calendar PartSourcing.Decimal

/-- **A quantity as it is kept**, the greatest being `2 ^ 63 - 1`. -/
def capped (q : UInt64) : UInt64 := UInt64.ofNat (min q.toNat (2 ^ 63 - 1))

@[simp] theorem toNat_capped (q : UInt64) : (capped q).toNat = min q.toNat (2 ^ 63 - 1) := by
  have h : min q.toNat (2 ^ 63 - 1) < UInt64.size := by
    have := q.toNat_lt
    unfold UInt64.size
    omega
  exact UInt64.toNat_ofNat_of_lt h

@[simp] theorem capped_capped (q : UInt64) : capped (capped q) = capped q := by
  apply UInt64.toNat_inj.mp
  rw [toNat_capped, toNat_capped]
  omega

/-! ## Columns -/

namespace Cell

theorem asOptionalText?_ofText? (s : Option String) : (ofText? s).asOptionalText? = some s := by
  cases s <;> rfl

/-- **A positive price** is kept as it is. -/
theorem asOptionalFloat?_ofFloat? {p : Option Float} (hp : ∀ x ∈ p, isPositive x = true) :
    ((ofFloat? p).settle .real).asOptionalFloat? = some p := by
  cases p with
  | none => rfl
  | some x =>
    have hpos := pos_of_isPositive (hp x rfl)
    have hcell : ofFloat? (some x) = .real x := if_neg (by rw [isNaN_of_pos hpos]; decide)
    -- a column of doubles changes a zero only
    have hwide : (Cell.real x).settle .real = .real x := by
      show Cell.real (if (x == 0.0) = true then 0.0 else x) = .real x
      rw [beq_zero_of_pos hpos, if_neg Bool.false_ne_true]
    rw [hcell, hwide]
    rfl

theorem asOptionalQuantity?_ofQuantity? (q : Option UInt64) :
    (ofQuantity? q).asOptionalQuantity? = some (q.map capped) := by
  cases q with
  | none => rfl
  | some q =>
    unfold ofQuantity? asOptionalQuantity?
    simp only [if_pos (Int.natCast_nonneg _), Int.toNat_natCast]
    rfl

theorem asCount?_toNat (n : UInt32) : (Cell.integer n.toNat).asCount? = some n := by
  have hfits : (0 : Int) ≤ n.toNat ∧ (n.toNat : Int) < UInt32.size :=
    ⟨Int.natCast_nonneg _, Int.ofNat_lt.mpr n.toNat_lt⟩
  unfold asCount?
  simp only [if_pos hfits, Int.toNat_natCast, UInt32.ofNat_toNat]

theorem asInstant?_ofInstant {i : Instant} (hi : i.Ordinary) :
    (ofInstant i).asInstant? = some i := by
  unfold asInstant? ofInstant asText?
  simp only [Option.bind_some, Stamp.strict?_fullText hi]

theorem asOptionalSearchId?_ofSearchId? (id : Option SearchId) :
    (ofSearchId? id).asOptionalSearchId? = some id := by
  cases id with
  | none => rfl
  | some id =>
    show (SearchId.parse? id.toText).map some = some (some id)
    rw [SearchId.parse?_toText, Option.map_some]

end Cell

/-! ## Rows -/

namespace VendorEntry

/-- An entry that can be kept. -/
structure Storable (e : VendorEntry) : Prop where
  price : ∀ x ∈ e.price, isPositive x = true
  firstSeen : e.firstSeen.Ordinary
  lastSeen : e.lastSeen.Ordinary

/-- **An entry as it is kept.** -/
def stored (e : VendorEntry) : VendorEntry := { e with quantity := e.quantity.map capped }

end VendorEntry

namespace PartRecord

/-- A record that can be kept. -/
structure Storable (r : PartRecord) : Prop where
  bestPrice : ∀ x ∈ r.bestPrice, isPositive x = true
  createdAt : r.createdAt.Ordinary
  updatedAt : r.updatedAt.Ordinary
  entries : ∀ e ∈ r.entries, e.Storable

/-- **A record as it is kept.** -/
def stored (r : PartRecord) : PartRecord := { r with entries := r.entries.map VendorEntry.stored }

end PartRecord

/-- **The row of an entry is read as the entry** as it is kept. -/
theorem VendorRow.toVendor?_ofEntry (part : String) {e : VendorEntry} (h : e.Storable) :
    (VendorRow.ofEntry part e).toVendor? = some e.stored := by
  unfold VendorRow.toVendor? VendorRow.ofEntry
  simp only [Cell.asOptionalFloat?_ofFloat? h.price, Cell.asOptionalText?_ofText?,
    Cell.asOptionalQuantity?_ofQuantity?, Cell.asCount?_toNat,
    Cell.asInstant?_ofInstant h.firstSeen, Cell.asInstant?_ofInstant h.lastSeen,
    Cell.asOptionalSearchId?_ofSearchId?, Cell.asText?, Option.bind_some, Standing.ofName?_name,
    Option.bind_eq_bind, Option.pure_def]
  rfl

/-- **The row of a record is read as the record**, with the entries that it is given. -/
theorem PartRow.record?_ofRecord {r : PartRecord} (h : r.Storable) (es : List VendorEntry) :
    (PartRow.ofRecord r).record? es = some { r with entries := es } := by
  unfold PartRow.record? PartRow.ofRecord
  simp only [Cell.asOptionalFloat?_ofFloat? h.bestPrice, Cell.asOptionalText?_ofText?,
    Cell.asCount?_toNat, Cell.asInstant?_ofInstant h.createdAt,
    Cell.asInstant?_ofInstant h.updatedAt, Cell.asOptionalSearchId?_ofSearchId?,
    Option.bind_eq_bind, Option.bind_some, Option.pure_def]

end PartSourcing
