import Mathlib.Data.List.Basic
import PartSourcing.Toml.Document

/-!
# What a document holds

Not every value can stand in a TOML document.  There is no null in one, and an integer has 64 bits
with its sign.  `IsValue` says which values can, and **all that is read from a document is of that
kind** (`isValue_of_parse?`).

A member that is null is let pass, because it is what a field without a value is saved as, and a
document leaves it out.

The proof goes along with the reader: what each reading gives, then what a statement does to the
tables that are there.  A walk to a table changes nothing on its way, so that it is enough to know
what is done at its end (`keeps_within?`).
-/

namespace PartSourcing.Toml

open PartSourcing.Json

/-- **The values that can stand in a document.** -/
inductive IsValue : Json → Prop where
  | bool (b : Bool) : IsValue (.bool b)
  | int {n : Int} (low : Json.minInt ≤ n) (high : n ≤ maxInt) : IsValue (.int n)
  | real (x : Float) : IsValue (.real x)
  | str (s : String) : IsValue (.str s)
  | arr {xs : List Json} (items : ∀ x ∈ xs, IsValue x) : IsValue (.arr xs)
  | obj {ms : List (String × Json)} (members : ∀ m ∈ ms, m.2 ≠ .null → IsValue m.2) :
      IsValue (.obj ms)

/-- Whether a value can be that of a member. -/
def IsMember (j : Json) : Prop := j ≠ .null → IsValue j

theorem IsValue.isMember {j : Json} (h : IsValue j) : IsMember j := fun _ => h

theorem minInt_le_neg {n : Nat} (h : n ≤ maxInt) : Json.minInt ≤ -(n : Int) := by
  have hbounds : Json.minInt = -(maxInt : Int) - 1 := by decide
  omega

theorem minInt_le_nat (n : Nat) : Json.minInt ≤ n := by
  have hneg : Json.minInt ≤ 0 := by decide
  omega

theorem isValue_obj_iff {ms : List (String × Json)} :
    IsValue (.obj ms) ↔ ∀ m ∈ ms, IsMember m.2 :=
  ⟨fun h => by cases h with | obj hms => exact hms, .obj⟩

@[simp] theorem isMember_str (s : String) : IsMember (.str s) := (IsValue.str s).isMember

@[simp] theorem isMember_real (x : Float) : IsMember (.real x) := (IsValue.real x).isMember

theorem isMember_nat {n : Nat} (h : n ≤ maxInt) : IsMember (.nat n) :=
  (IsValue.int (minInt_le_nat n) (Int.ofNat_le.mpr h)).isMember

@[simp] theorem isMember_uint32 (n : UInt32) : IsMember (.nat n.toNat) := by
  have hsize : UInt32.size ≤ maxInt := by decide
  exact isMember_nat (Nat.le_trans (Nat.le_of_lt n.toNat_lt) hsize)

@[simp] theorem isMember_texts (l : List String) : IsMember (.arr (l.map .str)) := by
  refine IsValue.isMember (.arr fun j hj => ?_)
  obtain ⟨s, -, rfl⟩ := List.mem_map.mp hj
  exact .str s

theorem isMember_ofOption {α : Type} {toJson : α → Json} (h : ∀ a, IsValue (toJson a))
    (o : Option α) : IsMember (.ofOption toJson o) := by
  cases o with
  | none => exact fun hnull => absurd rfl hnull
  | some a => exact (h a).isMember

/-! ## Readings -/

/-- Whether all that a reading gives has a property. -/
def Gives {α : Type} (reading : Reading α) (P : α → Prop) : Prop :=
  ∀ s a rest, reading s = some (a, rest) → P a

theorem gives_basedInt? (base : Nat) : Gives (basedInt? base) IsValue := by
  intro s v rest h
  unfold basedInt? at h
  simp only at h
  split at h
  · exact nomatch h
  · split at h
    · rename_i hmax
      cases h
      exact .int (minInt_le_nat _) (Int.ofNat_le.mpr hmax)
    · exact nomatch h

theorem gives_decimal? : Gives decimal? IsValue := by
  intro s v rest h
  unfold decimal? at h
  simp only [Option.bind_eq_some_iff] at h
  obtain ⟨⟨whole, after⟩, -, n, -, h⟩ := h
  have hneg : Json.minInt < 0 := by decide
  by_cases hwhole : ((fractionRun (whole, after).2).1.isEmpty &&
      (exponentRun (fractionRun (whole, after).2).2).1.isNone) = true
  · rw [if_pos hwhole] at h
    obtain ⟨hfits, h⟩ := Option.ite_none_right_eq_some.mp h
    cases h
    by_cases hsign : (sign s).1 = true
    · rw [if_pos hsign] at hfits ⊢
      exact .int (hfits.elim minInt_le_neg fun h => Int.le_of_eq h.symm) (by omega)
    · rw [if_neg hsign] at hfits ⊢
      exact .int (minInt_le_nat n) (by omega)
  · rw [if_neg hwhole] at h
    obtain ⟨-, h⟩ := Option.ite_none_left_eq_some.mp h
    cases h
    exact .real _

theorem gives_special? : Gives special? IsValue := by
  intro s v rest h
  unfold special? at h
  simp only at h
  split at h
  · cases h
    exact .real _
  · cases h
    exact .real _
  · exact nomatch h

theorem gives_moment? : Gives moment? IsValue := by
  intro s v rest h
  unfold moment? at h
  obtain ⟨after, -, h⟩ := Option.map_eq_some_iff.mp h
  cases h
  refine .obj fun m hm _ => ?_
  obtain rfl := List.mem_singleton.mp hm
  exact .str _

theorem gives_number? : Gives number? IsValue := by
  intro s v rest h
  unfold number? at h
  split at h
  · exact gives_moment? _ _ _ h
  · split at h
    · exact gives_basedInt? 16 _ _ _ h
    · exact gives_basedInt? 8 _ _ _ h
    · exact gives_basedInt? 2 _ _ _ h
    · rcases Option.or_eq_some_iff.mp h with h | ⟨-, h⟩
      · exact gives_special? _ _ _ h
      · exact gives_decimal? _ _ _ h

theorem gives_scalar? : Gives scalar? IsValue := by
  intro s v rest h
  unfold scalar? at h
  split at h
  · cases h
    exact .bool true
  · cases h
    exact .bool false
  · split at h
    · cases h
      exact .str _
    · exact gives_number? _ _ _ h

section Compound

variable {value : Reading Json} (hvalue : Gives value IsValue)
include hvalue

theorem gives_items (left : Nat) : Gives (items value left) fun xs => ∀ x ∈ xs, IsValue x := by
  induction left with
  | zero => exact fun _ _ _ h => nomatch h
  | succ left ih =>
    intro s xs rest h
    unfold items at h
    split at h
    · cases h
      exact fun _ hx => absurd hx List.not_mem_nil
    · obtain ⟨⟨x, after⟩, hx, h⟩ := Option.bind_eq_some_iff.mp h
      have hfirst : IsValue x := hvalue _ _ _ hx
      simp only at h
      split at h
      · obtain ⟨⟨xs', after'⟩, hxs, h⟩ := Option.map_eq_some_iff.mp h
        cases h
        exact List.forall_mem_cons.mpr ⟨hfirst, ih _ _ _ hxs⟩
      · cases h
        exact List.forall_mem_singleton.mpr hfirst
      · exact nomatch h

theorem gives_assignment? : Gives (assignment? value) fun a => IsValue a.2 := by
  intro s a rest h
  unfold assignment? at h
  simp only [Option.bind_eq_some_iff, Option.map_eq_some_iff] at h
  obtain ⟨⟨k, s₁⟩, -, s₂, -, ⟨v, s₃⟩, hv, h⟩ := h
  cases h
  exact hvalue _ _ _ hv

theorem gives_assignments (left : Nat) :
    Gives (assignments value left) fun as => ∀ a ∈ as, IsValue a.2 := by
  induction left with
  | zero => exact fun _ _ _ h => nomatch h
  | succ left ih =>
    intro s as rest h
    unfold assignments at h
    obtain ⟨⟨a, after⟩, ha, h⟩ := Option.bind_eq_some_iff.mp h
    have hfirst : IsValue a.2 := gives_assignment? hvalue _ _ _ ha
    simp only at h
    split at h
    · obtain ⟨⟨as', after'⟩, has, h⟩ := Option.map_eq_some_iff.mp h
      cases h
      exact List.forall_mem_cons.mpr ⟨hfirst, ih _ _ _ has⟩
    · cases h
      exact List.forall_mem_singleton.mpr hfirst
    · exact nomatch h

end Compound

/-! ## Tables -/

/-- Whether the members of a table can stand in a document. -/
def Members.Hold (ms : Members) : Prop := ∀ m ∈ ms, IsMember m.2.toJson

theorem membersJson_eq_map (ms : Members) : membersJson ms = ms.map fun m => (m.1, m.2.toJson) := by
  induction ms with
  | nil => simp [membersJson]
  | cons m ms ih => simp [membersJson, ih]

theorem mem_rowsJson {rows : List Members} {j : Json} :
    j ∈ rowsJson rows ↔ ∃ row ∈ rows, j = .obj (membersJson row) := by
  induction rows with
  | nil => simp [rowsJson]
  | cons row rows ih => simp [rowsJson, ih, or_comm]

/-- A table can stand in a document if its members can, and only then. -/
theorem isValue_table_iff {ms : Members} : IsValue (.obj (membersJson ms)) ↔ ms.Hold := by
  rw [membersJson_eq_map]
  constructor
  · intro h m hm
    exact isValue_obj_iff.mp h _ (List.mem_map_of_mem hm)
  · intro h
    refine .obj fun m hm hnull => ?_
    obtain ⟨m', hm', rfl⟩ := List.mem_map.mp hm
    exact h m' hm' hnull

theorem isMember_table_iff {origin : Origin} {ms : Members} :
    IsMember (Item.toJson (.table origin ms)) ↔ ms.Hold := by
  rw [Item.toJson, ← isValue_table_iff]
  exact ⟨fun h => h (by simp), IsValue.isMember⟩

theorem isMember_tables_iff {rows : List Members} :
    IsMember (Item.toJson (.tables rows)) ↔ ∀ row ∈ rows, row.Hold := by
  rw [Item.toJson]
  constructor
  · intro h row hrow
    cases h (by simp) with
    | arr h => exact isValue_table_iff.mp (h _ (mem_rowsJson.mpr ⟨row, hrow, rfl⟩))
  · intro h
    refine IsValue.isMember (.arr fun j hj => ?_)
    obtain ⟨row, hrow, rfl⟩ := mem_rowsJson.mp hj
    exact isValue_table_iff.mpr (h row hrow)

theorem Members.hold_nil : Members.Hold [] := fun _ hm => absurd hm List.not_mem_nil

theorem Members.Hold.append {ms : Members} (h : ms.Hold) {name : String} {item : Item}
    (hitem : IsMember item.toJson) : Members.Hold (ms ++ [(name, item)]) := by
  intro m hm
  rcases List.mem_append.mp hm with hm | hm
  · exact h m hm
  · obtain rfl := List.mem_singleton.mp hm
    exact hitem

theorem Members.Hold.put {ms : Members} (h : ms.Hold) {name : String} {item : Item}
    (hitem : IsMember item.toJson) : (ms.put name item).Hold := by
  intro m hm
  obtain ⟨m', hm', rfl⟩ := List.mem_map.mp hm
  by_cases hname : m'.1 = name
  · rw [if_pos hname]
    exact hitem
  · rw [if_neg hname]
    exact h m' hm'

theorem Members.Hold.lookup {ms : Members} (h : ms.Hold) {name : String} {item : Item}
    (hitem : ms.lookup name = some item) : IsMember item.toJson := by
  obtain ⟨ms₁, ms₂, hms, -⟩ := List.lookup_eq_some_iff.mp hitem
  exact h (name, item) (by simp [hms])

/-! ## Statements -/

/-- Whether a change to a table leaves it one that can stand in a document. -/
def Keeps (change : Origin → Members → Option Members) : Prop :=
  ∀ origin ms ms', ms.Hold → change origin ms = some ms' → ms'.Hold

/-- **What is done to one table is all that changes.** -/
theorem keeps_within? {dotted : Bool} {change : Origin → Members → Option Members}
    (hchange : Keeps change) (path : List String) : Keeps (within? dotted change path) := by
  induction path with
  | nil =>
    intro origin ms ms' h hms'
    exact hchange origin ms ms' h hms'
  | cons name path ih =>
    intro origin ms ms' h hms'
    unfold within? at hms'
    split at hms'
    · obtain ⟨inner, hinner, rfl⟩ := Option.map_eq_some_iff.mp hms'
      exact h.append (isMember_table_iff.mpr (ih _ _ _ Members.hold_nil hinner))
    · rename_i origin' inner hlookup
      obtain ⟨-, hms'⟩ := Option.ite_none_left_eq_some.mp hms'
      obtain ⟨inner', hinner', rfl⟩ := Option.map_eq_some_iff.mp hms'
      exact h.put (isMember_table_iff.mpr
        (ih _ _ _ (isMember_table_iff.mp (h.lookup hlookup)) hinner'))
    · rename_i row rows hlookup
      obtain ⟨row', hrow', rfl⟩ := Option.map_eq_some_iff.mp hms'
      have hrows := List.forall_mem_cons.mp (isMember_tables_iff.mp (h.lookup hlookup))
      exact h.put (isMember_tables_iff.mpr
        (List.forall_mem_cons.mpr ⟨ih _ _ _ hrows.1 hrow', hrows.2⟩))
    · exact nomatch hms'

theorem keeps_assign? {atEnd : Bool} {name : String} {v : Json} (hv : IsValue v) :
    Keeps (assign? atEnd name v) := by
  intro origin ms ms' h hms'
  unfold assign? at hms'
  obtain ⟨-, hms'⟩ := Option.ite_none_left_eq_some.mp hms'
  obtain ⟨-, hms'⟩ := Option.ite_none_left_eq_some.mp hms'
  cases hms'
  exact h.append (by rw [Item.toJson]; exact hv.isMember)

theorem keeps_assignment {a : Assignment} (ha : IsValue a.2) : Keeps (Members.assign? a) := by
  intro origin ms ms' h hms'
  unfold Members.assign? at hms'
  split at hms'
  · exact nomatch hms'
  · exact keeps_within? (keeps_assign? ha) _ _ _ _ h hms'

theorem keeps_openTable? (name : String) : Keeps (openTable? name) := by
  intro origin ms ms' h hms'
  unfold openTable? at hms'
  split at hms'
  · cases hms'
    exact h.append (isMember_table_iff.mpr Members.hold_nil)
  · rename_i inner hlookup
    cases hms'
    exact h.put (isMember_table_iff.mpr (isMember_table_iff.mp (h.lookup hlookup)))
  · exact nomatch hms'

theorem keeps_openRow? (name : String) : Keeps (openRow? name) := by
  intro origin ms ms' h hms'
  unfold openRow? at hms'
  split at hms'
  · cases hms'
    exact h.append (isMember_tables_iff.mpr (List.forall_mem_singleton.mpr Members.hold_nil))
  · rename_i rows hlookup
    cases hms'
    exact h.put (isMember_tables_iff.mpr
      (List.forall_mem_cons.mpr ⟨Members.hold_nil, isMember_tables_iff.mp (h.lookup hlookup)⟩))
  · exact nomatch hms'

theorem isValue_of_inlineTable? {as : List Assignment} (has : ∀ a ∈ as, IsValue a.2) {v : Json}
    (h : inlineTable? as = some v) : IsValue v := by
  have hrun : ∀ ms ms' : Members, ms.Hold →
      as.foldlM (fun ms a => Members.assign? a .header ms) ms = some ms' → ms'.Hold := by
    clear h
    induction as with
    | nil =>
      intro ms ms' hms h
      cases h
      exact hms
    | cons a as ih =>
      intro ms ms' hms h
      obtain ⟨ha, has⟩ := List.forall_mem_cons.mp has
      rw [List.foldlM_cons] at h
      obtain ⟨ms₁, hms₁, h⟩ := Option.bind_eq_some_iff.mp h
      exact ih has ms₁ ms' (keeps_assignment ha _ _ _ hms hms₁) h
  obtain ⟨ms, hms, rfl⟩ := Option.map_eq_some_iff.mp h
  exact isValue_table_iff.mpr (hrun [] ms Members.hold_nil hms)

/-- **Every reading of a value gives one that can stand in a document.** -/
theorem gives_value (left depth : Nat) : Gives (value left depth) IsValue := by
  induction depth with
  | zero =>
    intro s v rest h
    unfold value at h
    split at h
    · exact nomatch h
    · exact nomatch h
    · exact gives_scalar? _ _ _ h
  | succ depth ih =>
    intro s v rest h
    unfold value at h
    split at h
    · obtain ⟨⟨xs, after⟩, hxs, h⟩ := Option.map_eq_some_iff.mp h
      cases h
      exact .arr (gives_items ih left _ _ _ hxs)
    · split at h
      · cases h
        exact .obj fun _ hm => absurd hm List.not_mem_nil
      · obtain ⟨⟨as, after⟩, has, h⟩ := Option.bind_eq_some_iff.mp h
        obtain ⟨j, hj, h⟩ := Option.map_eq_some_iff.mp h
        cases h
        exact isValue_of_inlineTable? (gives_assignments ih left _ _ _ has) hj
    · exact gives_scalar? _ _ _ h

/-! ## Documents -/

/-- Whether what a statement assigns can stand in a document. -/
def Statement.Holds : Statement → Prop
  | .assign a => IsValue a.2
  | .header _ | .rowHeader _ => True

theorem gives_statement? : Gives statement? Statement.Holds := by
  intro s statement rest h
  unfold statement? at h
  split at h
  · split at h
    · cases h
      trivial
    · exact nomatch h
  · split at h
    · cases h
      trivial
    · exact nomatch h
  · obtain ⟨⟨a, after⟩, ha, h⟩ := Option.map_eq_some_iff.mp h
    cases h
    exact gives_assignment? (gives_value _ _) _ _ _ ha

theorem holds_of_statements? {left : Nat} {s : List Char} {ss : List Statement}
    (h : statements? left s = some ss) : ∀ statement ∈ ss, statement.Holds := by
  induction left generalizing s ss with
  | zero => exact nomatch h
  | succ left ih =>
    unfold statements? at h
    split at h
    · cases h
      exact fun _ hs => absurd hs List.not_mem_nil
    · obtain ⟨⟨statement, after⟩, hstatement, h⟩ := Option.bind_eq_some_iff.mp h
      have hfirst : statement.Holds := gives_statement? _ _ _ hstatement
      simp only at h
      split at h
      · cases h
        exact List.forall_mem_singleton.mpr hfirst
      · obtain ⟨after', -, h⟩ := Option.bind_eq_some_iff.mp h
        obtain ⟨ss', hss', rfl⟩ := Option.map_eq_some_iff.mp h
        exact List.forall_mem_cons.mpr ⟨hfirst, ih hss'⟩

/-- One statement leaves a document that can stand. -/
theorem hold_of_step? {d d' : Draft} {statement : Statement} (hs : statement.Holds)
    (hd : d.members.Hold) (h : d.step? statement = some d') : d'.members.Hold := by
  unfold Draft.step? at h
  cases statement with
  | assign a =>
    obtain ⟨ms, hms, rfl⟩ := Option.map_eq_some_iff.mp h
    exact keeps_within? (keeps_assignment hs) _ _ _ _ hd hms
  | header path =>
    obtain ⟨ms, hms, rfl⟩ := Option.map_eq_some_iff.mp h
    obtain ⟨name, -, hms⟩ := Option.bind_eq_some_iff.mp hms
    exact keeps_within? (keeps_openTable? name) _ _ _ _ hd hms
  | rowHeader path =>
    obtain ⟨ms, hms, rfl⟩ := Option.map_eq_some_iff.mp h
    obtain ⟨name, -, hms⟩ := Option.bind_eq_some_iff.mp hms
    exact keeps_within? (keeps_openRow? name) _ _ _ _ hd hms

/-- So does one statement after the other. -/
theorem hold_of_foldlM_step? {ss : List Statement} (hss : ∀ statement ∈ ss, statement.Holds)
    {d d' : Draft} (hd : d.members.Hold) (h : ss.foldlM Draft.step? d = some d') :
    d'.members.Hold := by
  induction ss generalizing d with
  | nil =>
    cases h
    exact hd
  | cons statement ss ih =>
    obtain ⟨hs, hss⟩ := List.forall_mem_cons.mp hss
    rw [List.foldlM_cons] at h
    obtain ⟨d₁, hd₁, h⟩ := Option.bind_eq_some_iff.mp h
    exact ih hss (hold_of_step? hs hd hd₁) h

/-- **All that is read can stand in a document.** -/
theorem isValue_of_parse? {text : String} {j : Json} (h : parse? text = some j) : IsValue j := by
  unfold parse? at h
  obtain ⟨ss, hss, h⟩ := Option.bind_eq_some_iff.mp h
  obtain ⟨d, hd, rfl⟩ := Option.map_eq_some_iff.mp h
  exact isValue_table_iff.mpr
    (hold_of_foldlM_step? (holds_of_statements? hss) Members.hold_nil hd)

end PartSourcing.Toml
