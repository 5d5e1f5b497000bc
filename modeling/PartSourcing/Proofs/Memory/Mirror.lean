import PartSourcing.Proofs.Memory.Grown
import PartSourcing.Proofs.Memory.Stored

/-!
# Tables that mirror memory

Tables mirror memory when their rows are those of its records and of their entries, no more and no
less, and everything in these records can be kept (`Volatile.Mirrors`).  Then **what is read from
the tables is what memory holds, as it is kept** (`Mirrors.load_eq`): the rows of a part's vendors
come sorted by their keys, which is the order that the entries have in memory.

A sighting that both remember leaves them so (`Mirrors.upsert`).  The tables never lose a row, and
that is enough because a record never loses an entry: every row of the part that was there before
is written anew.
-/

namespace PartSourcing

open PartSourcing.Calendar PartSourcing.Decimal

/-! ## Rows by their keys -/

namespace VendorRow

/-- What the row of a vendor is found by. -/
def key (row : VendorRow) : String × String := (row.part, row.vendorKey)

theorem isOf_iff {row : VendorRow} {part vendorKey : String} :
    row.isOf part vendorKey = true ↔ row.key = (part, vendorKey) := by
  simp [isOf, key]

/-- An entry and what it is kept as have the same row. -/
@[simp] theorem ofEntry_stored (part : String) (e : VendorEntry) :
    ofEntry part e.stored = ofEntry part e := by
  have hq : Cell.ofQuantity? (e.quantity.map capped) = Cell.ofQuantity? e.quantity := by
    cases e.quantity with
    | none => rfl
    | some q =>
      show Cell.integer (min (capped q).toNat (2 ^ 63 - 1) : Nat) =
        Cell.integer (min q.toNat (2 ^ 63 - 1) : Nat)
      rw [toNat_capped, min_assoc, min_self]
  unfold ofEntry VendorEntry.stored
  simp only [hq]

theorem precedes_goesBy : Sorting.GoesBy precedes VendorRow.vendorKey :=
  fun _ _ => decide_eq_true_iff

/-- **The rows of entries are read as the entries**, as they are kept. -/
theorem mapM_toVendor? (part : String) {es : List VendorEntry} (h : ∀ e ∈ es, e.Storable) :
    (es.map (ofEntry part)).mapM toVendor? = some (es.map VendorEntry.stored) := by
  induction es with
  | nil => rfl
  | cons e es ih =>
    rw [List.map_cons, List.mapM_cons, toVendor?_ofEntry part (h e List.mem_cons_self),
      ih fun e he => h e (List.mem_cons_of_mem _ he)]
    rfl

end VendorRow

/-- The rows of the entries of a record. -/
def PartRecord.vendorRows (r : PartRecord) : List VendorRow :=
  r.entries.map (VendorRow.ofEntry r.part)

namespace PartRecord

theorem part_of_mem_vendorRows {r : PartRecord} {row : VendorRow} (h : row ∈ r.vendorRows) :
    row.part = r.part := by
  obtain ⟨e, -, rfl⟩ := List.mem_map.mp h
  rfl

theorem nodup_keys_vendorRows {r : PartRecord} (h : VendorEntry.Ascending r.entries) :
    (r.vendorRows.map VendorRow.key).Nodup := by
  have hkeys : r.vendorRows.map VendorRow.key =
      (r.entries.map (·.vendorKey)).map (Prod.mk r.part) := by
    unfold vendorRows
    rw [List.map_map, List.map_map]
    rfl
  rw [hkeys]
  exact h.nodup_keys.map fun a b hab => (Prod.mk.inj hab).2

end PartRecord

namespace Tables

theorem putVendor_eq (row : VendorRow) (rows : List VendorRow) :
    putVendor row rows = Keyed.place VendorRow.key row rows := by
  induction rows with
  | nil => rfl
  | cons old rows ih =>
    rw [putVendor, Keyed.place, ih, if_congr VendorRow.isOf_iff rfl rfl]
    rfl

theorem save_vendors (t : Tables) (r : PartRecord) : (t.save r).vendors =
    r.vendorRows.foldl (fun rows row => Keyed.place VendorRow.key row rows) t.vendors := by
  show r.entries.foldl (fun rows e => putVendor (VendorRow.ofEntry r.part e) rows) t.vendors = _
  unfold PartRecord.vendorRows
  simp only [putVendor_eq, List.foldl_map]

/-- What is written of a record is what is written of it as it is kept. -/
theorem save_stored (t : Tables) (r : PartRecord) : t.save r.stored = t.save r := by
  have hrows : r.stored.vendorRows = r.vendorRows := by
    unfold PartRecord.vendorRows PartRecord.stored
    rw [List.map_map]
    exact List.map_congr_left fun e _ => VendorRow.ofEntry_stored r.part e
  have hvendors : (t.save r.stored).vendors = (t.save r).vendors := by
    rw [save_vendors, save_vendors, hrows]
  exact congrArg (Tables.mk _ · t.version) hvendors

/-- A row keeps the date that it was made with, and so does the record. -/
theorem putPart_map {k : String} {r : PartRecord} {ms : List (String × PartRecord)}
    (hk : ∀ m ∈ ms, m.2.part = m.1) (hr : r.part = k)
    (hcreated : ∀ old, ms.lookup k = some old → r.createdAt = old.createdAt) :
    putPart (PartRow.ofRecord r) (ms.map fun m => PartRow.ofRecord m.2) =
      (Volatile.put k r ms).map fun m => PartRow.ofRecord m.2 := by
  induction ms with
  | nil => rfl
  | cons m ms ih =>
    obtain ⟨n, q⟩ := m
    have hn : q.part = n := hk (n, q) List.mem_cons_self
    rw [List.map_cons, putPart, Volatile.put]
    by_cases hnk : n = k
    · subst hnk
      have hrow : (PartRow.ofRecord q).part = (PartRow.ofRecord r).part := hn.trans hr.symm
      have hdate : r.createdAt = q.createdAt := hcreated q (by simp)
      rw [if_pos hrow, if_pos rfl, List.map_cons]
      refine congrArg (· :: _) ?_
      unfold PartRow.ofRecord
      rw [hdate]
    · have hrow : (PartRow.ofRecord q).part ≠ (PartRow.ofRecord r).part := fun h =>
        hnk (hn.symm.trans (h.trans hr))
      have hlater : ∀ old, ms.lookup k = some old → r.createdAt = old.createdAt := fun old hold =>
        hcreated old (by rwa [List.lookup_cons, beq_eq_false_iff_ne.mpr (Ne.symm hnk)])
      rw [if_neg hrow, if_neg hnk, List.map_cons,
        ih (fun m hm => hk m (List.mem_cons_of_mem _ hm)) hlater]

theorem find?_map_ofRecord {k : String} {ms : List (String × PartRecord)}
    (hk : ∀ m ∈ ms, m.2.part = m.1) :
    (ms.map fun m => PartRow.ofRecord m.2).find? (·.part == k) =
      (ms.lookup k).map PartRow.ofRecord := by
  induction ms with
  | nil => rfl
  | cons m ms ih =>
    obtain ⟨n, q⟩ := m
    have hn : (PartRow.ofRecord q).part = n := hk (n, q) List.mem_cons_self
    rw [List.map_cons, List.find?_cons, List.lookup_cons, hn, BEq.comm]
    cases k == n with
    | true => rfl
    | false => exact ih fun m hm => hk m (List.mem_cons_of_mem _ hm)

end Tables

/-! ## Tables and memory -/

namespace Volatile

/-- **Tables that hold what memory holds**, and memory that can be kept. -/
structure Mirrors (t : Tables) (v : Volatile) : Prop where
  grown : v.Grown
  storable : ∀ m ∈ v.records, m.2.Storable
  parts : t.parts = v.records.map fun m => PartRow.ofRecord m.2
  nodup : (t.vendors.map VendorRow.key).Nodup
  vendors : ∀ row, row ∈ t.vendors ↔
    ∃ r, v.records.lookup row.part = some r ∧ row ∈ r.vendorRows

theorem Mirrors.empty (staleDays : UInt32) : Mirrors {} { staleDays } where
  grown := .empty staleDays
  storable _ hm := absurd hm List.not_mem_nil
  parts := rfl
  nodup := List.nodup_nil
  vendors _ := by simp

variable {t : Tables} {v : Volatile}

theorem Grown.part_eq (h : Grown v) {m : String × PartRecord} (hm : m ∈ v.records) :
    m.2.part = m.1 := by
  obtain ⟨l, hl⟩ := h.grows m hm
  exact hl.part_eq.trans (h.normal m hm)

namespace Mirrors

theorem row?_eq (h : Mirrors t v) (k : String) :
    t.row? k = (v.records.lookup k).map PartRow.ofRecord := by
  unfold Tables.row?
  rw [h.parts, Tables.find?_map_ofRecord fun m hm => h.grown.part_eq hm]

/-- **The rows of a part's vendors** are those of the entries in memory, in their order. -/
theorem vendorRows_eq (h : Mirrors t v) {k : String} {r : PartRecord}
    (hr : v.records.lookup k = some r) : t.vendorRows k = r.vendorRows := by
  obtain ⟨l, hl⟩ := h.grown.grows _ (mem_of_lookup hr)
  have hk : r.part = k := h.grown.part_eq (mem_of_lookup hr)
  have hasc : VendorEntry.Ascending r.entries := hl.ascending
  have hmem {row : VendorRow} :
      row ∈ t.vendors.filter (·.part == k) ↔ row ∈ r.vendorRows := by
    rw [List.mem_filter, h.vendors, beq_iff_eq]
    constructor
    · rintro ⟨⟨r', hr', hrow⟩, hpart⟩
      rw [hpart, hr, Option.some_inj] at hr'
      exact hr' ▸ hrow
    · intro hrow
      have hpart : row.part = k := (PartRecord.part_of_mem_vendorRows hrow).trans hk
      exact ⟨⟨r, hpart ▸ hr, hrow⟩, hpart⟩
  have hperm : (t.vendors.filter (·.part == k)).Perm r.vendorRows :=
    (List.perm_ext_iff_of_nodup (h.nodup.of_map.filter _)
      (PartRecord.nodup_keys_vendorRows hasc).of_map).mpr fun _ => hmem
  refine VendorRow.precedes_goesBy.mergeSort_eq_of_sorted ?_ hperm ?_
  · intro a ha b hb hvendors
    have hparts : a.part = b.part :=
      (PartRecord.part_of_mem_vendorRows (hmem.mp ha)).trans
        (PartRecord.part_of_mem_vendorRows (hmem.mp hb)).symm
    exact List.inj_on_of_nodup_map h.nodup (List.mem_filter.mp ha).1 (List.mem_filter.mp hb).1
      (Prod.ext hparts hvendors)
  · exact List.pairwise_map.mpr (hasc.imp fun hlt => le_of_lt hlt)

/-- **What is read from the tables is what memory holds**, as it is kept. -/
theorem load_eq (h : Mirrors t v) (k : String) :
    t.load k = .ok ((v.records.lookup k).map PartRecord.stored) := by
  unfold Tables.load
  rw [h.row?_eq]
  cases hr : v.records.lookup k with
  | none => rfl
  | some r =>
    have hs : r.Storable := h.storable _ (mem_of_lookup hr)
    rw [h.vendorRows_eq hr]
    simp only [Option.map_some, PartRecord.vendorRows, VendorRow.mapM_toVendor? _ hs.entries,
      PartRow.record?_ofRecord hs]
    rfl

theorem partNumbers_eq (h : Mirrors t v) : t.partNumbers = v.parts := by
  have hkeys : t.parts.map (·.part) = v.records.map (·.1) := by
    rw [h.parts, List.map_map]
    exact List.map_congr_left fun m hm => h.grown.part_eq hm
  unfold Tables.partNumbers Volatile.parts
  rw [hkeys]

/-- **A record that is put in and written** keeps the mirror, as long as it has every vendor that
the record before it had, and the date that this one was made. -/
theorem put (h : Mirrors t v) {k : String} {r : PartRecord} {v' : Volatile}
    (hv' : v'.records = Volatile.put k r v.records) (hgrown : v'.Grown) (hr : r.Storable)
    (hvendors : ∀ old, v.records.lookup k = some old →
      ∀ e ∈ old.entries, ∃ e' ∈ r.entries, e'.vendorKey = e.vendorKey)
    (hcreated : ∀ old, v.records.lookup k = some old → r.createdAt = old.createdAt) :
    Mirrors (t.save r) v' := by
  have hlookup : v'.records.lookup k = some r := by rw [hv', lookup_put, if_pos rfl]
  have hk : r.part = k := hgrown.part_eq (mem_of_lookup hlookup)
  obtain ⟨l, hl⟩ := hgrown.grows _ (mem_of_lookup hlookup)
  have hkeys : (r.vendorRows.map VendorRow.key).Nodup :=
    PartRecord.nodup_keys_vendorRows hl.ascending
  refine ⟨hgrown, fun m hm => ?_, ?_, ?_, fun row => ?_⟩
  · rw [hv', put_eq] at hm
    rcases (Keyed.mem_place h.grown.nodup).mp hm with rfl | ⟨hm, -⟩
    · exact hr
    · exact h.storable m hm
  · show Tables.putPart (PartRow.ofRecord r) t.parts = _
    rw [h.parts, hv']
    exact Tables.putPart_map (fun m hm => h.grown.part_eq hm) hk hcreated
  · rw [Tables.save_vendors]
    exact Keyed.nodup_keys_foldl_place h.nodup r.vendorRows
  · rw [Tables.save_vendors, Keyed.mem_foldl_place h.nodup hkeys, h.vendors, hv', lookup_put]
    by_cases hrow : row.part = k
    · rw [if_pos hrow]
      constructor
      · rintro (hmem | ⟨⟨old, hold, hmem⟩, hne⟩)
        · exact ⟨r, rfl, hmem⟩
        · -- the row was there before, so the record has its vendor and wrote it anew
          obtain ⟨e, he, rfl⟩ := List.mem_map.mp hmem
          obtain ⟨e', he', hkey⟩ := hvendors old (hrow ▸ hold) e he
          refine absurd (List.mem_map.mpr ⟨_, List.mem_map_of_mem he', ?_⟩) hne
          exact Prod.ext (hk.trans hrow.symm) hkey
      · rintro ⟨r', hr', hmem⟩
        rw [← Option.some_inj.mp hr'] at hmem
        exact Or.inl hmem
    · rw [if_neg hrow]
      constructor
      · rintro (hmem | ⟨hmem, -⟩)
        · exact absurd ((PartRecord.part_of_mem_vendorRows hmem).trans hk) hrow
        · exact hmem
      · intro hmem
        refine Or.inr ⟨hmem, fun hkey => hrow ?_⟩
        obtain ⟨row', hrow', hkey'⟩ := List.mem_map.mp hkey
        have hpart : row'.part = row.part := (Prod.mk.inj hkey').1
        exact hpart.symm.trans ((PartRecord.part_of_mem_vendorRows hrow').trans hk)

variable {part : String} {s : Sighting} {now : Instant}

/-- **A sighting that has no date to go by** breaks down on the tables as it does in memory. -/
theorem upsert_of_beyond (h : Mirrors t v) (hcutoff : now.minusDays? v.staleDays.toNat = none) :
    t.upsert v.staleDays part s now = .error .beyondCalendar := by
  unfold Tables.upsert
  simp only [h.load_eq, PartRecord.remember?, PartRecord.observed?_eq, hcutoff, Option.map_none]

/-- The record that a sighting of a part goes into, as it stands in memory. -/
theorem getD_lookup (h : Mirrors t v) (k : String) (hnow : now.Ordinary) {r : PartRecord}
    (hr : (v.records.lookup k).getD (.empty k now) = r) :
    r.Storable ∧ VendorEntry.Ascending r.entries ∧
      ∀ old, v.records.lookup k = some old → r = old := by
  cases hl : v.records.lookup k with
  | none =>
    rw [hl, Option.getD_none] at hr
    subst hr
    exact ⟨.empty k hnow, List.Pairwise.nil, fun old hold =>
      absurd hold (Option.some_ne_none old).symm⟩
  | some old =>
    obtain ⟨l, hgrows⟩ := h.grown.grows _ (mem_of_lookup hl)
    rw [hl, Option.getD_some] at hr
    subst hr
    exact ⟨h.storable _ (mem_of_lookup hl), hgrows.ascending, fun _ => Option.some_inj.mp⟩

/-- **A sighting that memory remembers** is remembered by the tables, which mirror memory then. -/
theorem upsert_of_some (h : Mirrors t v) {r : PartRecord} {v' : Volatile}
    (hu : v.upsert? part s now = some (r, v')) (hnow : now.Ordinary)
    (hp : ∀ x ∈ s.price, isPositive x = true) (ho : s.observedAt.Ordinary) :
    ∃ r' t', t.upsert v.staleDays part s now = .ok (r', t') ∧ r'.stored = r.stored ∧
      Mirrors t' v' := by
  have hgrown : v'.Grown := h.grown.upsert hu
  obtain ⟨-, hr, rfl⟩ := upsert?_eq_some_iff.mp hu
  rw [filed] at hr
  obtain ⟨cutoff, hcutoff, hwith⟩ := PartRecord.remember?_eq_some_iff.mp hr
  -- the tables start from the same record as it is kept
  have hkept : ((v.records.lookup (PartNumber.normal part)).map PartRecord.stored).getD
      (.empty (PartNumber.normal part) now) =
      ((v.records.lookup (PartNumber.normal part)).getD
        (.empty (PartNumber.normal part) now)).stored := by
    cases v.records.lookup (PartNumber.normal part) <;> rfl
  generalize hbase : (v.records.lookup (PartNumber.normal part)).getD
    (.empty (PartNumber.normal part) now) = base at hwith hkept
  obtain ⟨hstorable, hasc, hold⟩ := h.getD_lookup _ hnow hbase
  have hstored := PartRecord.stored_withSighting base s now cutoff
  refine ⟨base.stored.withSighting s now cutoff, t.save (base.stored.withSighting s now cutoff),
    ?_, hwith ▸ hstored, ?_⟩
  · unfold Tables.upsert
    simp only [h.load_eq, PartRecord.remember?, PartRecord.observed?_eq, hcutoff, Option.map_some,
      hkept]
  · rw [← Tables.save_stored, hstored, Tables.save_stored, hwith]
    refine h.put rfl hgrown ?_ (fun old hl e he => ?_) fun old hl => ?_
    · rw [← hwith]
      exact hstorable.withSighting hasc hnow hp ho cutoff
    · rw [← hwith, PartRecord.withSighting_entries]
      exact VendorEntry.exists_mem_observe hasc (hold old hl ▸ he)
    · rw [← hwith, PartRecord.withSighting_createdAt, hold old hl]

end Mirrors

end Volatile

end PartSourcing
