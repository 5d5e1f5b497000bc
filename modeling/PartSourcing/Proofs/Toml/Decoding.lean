import PartSourcing.Proofs.Json.TableOrder
import PartSourcing.Proofs.Toml.Written

/-!
# Decoding what a document holds

A decoder of a record is made of decoders of its fields, and two things are passed on from the
fields to the record.

* A decoder **ensures** a property when nothing else comes of a value that can stand in a document.
  A field ensures it when what stands in for the field when it is left out has it, too.
* A decoder **restores** a piece of data when it makes it of whatever shows what the data was
  written as.  A field restores its part of a record from any table that shows the record: a member
  that is null has been left out, and what then stands in for it is what was there.

Members under names of their own are a table in the order of these names, however they stand in
the document (`ensures_table`, `restores_table`).
-/

namespace PartSourcing.Json

open Toml (IsMember IsValue shows ShowsTable)

variable {α β : Type}

/-! ## Fields -/

/-- The values from which the fields of a record are taken. -/
def Layout.values : Layout → List Json
  | .named ms => ms.map (·.2)
  | .placed xs => xs

namespace Fields

theorem bind_apply (F : Fields α) (G : α → Fields β) (d : Dialect) (l : Layout) :
    (F >>= G) d l = (F d l).bind fun p => G p.1 d p.2 := rfl

variable {name : String} {f : Decoder α} {missing : α} {d : Dialect}

theorem take?_named (ms : List (String × Json)) :
    take? name d (.named ms) =
      match ms.filter fun m => m.1 == name with
      | [] => .ok (none, .named ms)
      | [(_, v)] => .ok (some v, .named ms)
      | _ => .error (.repeated name) := by
  have hget : (get : Fields Layout) d (.named ms) = .ok (.named ms, .named ms) := rfl
  rw [take?, bind_apply, hget]
  simp only [Except.bind]
  generalize ms.filter (fun m => m.1 == name) = found
  rcases found with _ | ⟨m, _ | ⟨m', rest⟩⟩ <;> rfl

theorem orElse_named (ms : List (String × Json)) :
    orElse name f missing d (.named ms) =
      match ms.filter fun m => m.1 == name with
      | [] => .ok (missing, .named ms)
      | [(_, v)] => (f d v).map fun a => (a, .named ms)
      | _ => .error (.repeated name) := by
  rw [orElse, bind_apply, take?_named]
  generalize ms.filter (fun m => m.1 == name) = found
  rcases found with _ | ⟨m, _ | ⟨m', rest⟩⟩
  · rfl
  · show Except.bind (f d m.2) _ = (f d m.2).map _
    cases f d m.2 <;> rfl
  · rfl

theorem orElse_placed (xs : List Json) :
    orElse name f missing d (.placed xs) =
      match xs with
      | [] => .ok (missing, .placed [])
      | x :: xs => (f d x).map fun a => (a, .placed xs) := by
  cases xs with
  | nil => rfl
  | cons x xs =>
    show Except.bind (f d x) _ = (f d x).map _
    cases f d x <;> rfl

end Fields

/-- **What a field gives that may be left out**: what stands in for it, or what is made of a
value that is there. -/
theorem Fields.of_orElse_eq_ok {name : String} {f : Decoder α} {missing a : α} {d : Dialect}
    {l l' : Layout} (h : orElse name f missing d l = .ok (a, l')) :
    (∀ v ∈ l'.values, v ∈ l.values) ∧ (a = missing ∨ ∃ v ∈ l.values, f d v = .ok a) := by
  cases l with
  | named ms =>
    rw [orElse_named] at h
    split at h
    · cases h
      exact ⟨fun _ hv => hv, .inl rfl⟩
    · rename_i k v hfound
      obtain ⟨a', ha', hp⟩ := exists_of_map_eq_ok h
      cases hp
      have hmem : (k, v) ∈ ms.filter fun m => m.1 == name := hfound ▸ List.mem_singleton_self _
      exact ⟨fun _ hv => hv, .inr ⟨v, List.mem_map_of_mem (List.mem_filter.mp hmem).1, ha'⟩⟩
    · exact nomatch h
  | placed xs =>
    rw [orElse_placed] at h
    cases xs with
    | nil =>
      cases h
      exact ⟨fun _ hv => hv, .inl rfl⟩
    | cons x xs =>
      obtain ⟨a', ha', hp⟩ := exists_of_map_eq_ok h
      cases hp
      exact ⟨fun _ hv => List.mem_cons_of_mem x hv, .inr ⟨x, List.mem_cons_self, ha'⟩⟩

/-! ## What decoders ensure -/

/-- Whether nothing but what has a property comes of a value that can stand in a document. -/
def Decoder.Ensures (f : Decoder α) (P : α → Prop) : Prop :=
  ∀ d j a, IsMember j → f d j = .ok a → P a

/-- Whether fields of a record have nothing but what has a property. -/
def Fields.Ensures (F : Fields α) (P : α → Prop) : Prop :=
  ∀ d l a l', (∀ v ∈ l.values, IsMember v) → F d l = .ok (a, l') →
    P a ∧ ∀ v ∈ l'.values, IsMember v

section Ensures

variable {P : α → Prop} {Q : β → Prop}

theorem Decoder.ensures_true (f : Decoder α) : f.Ensures fun _ => True := fun _ _ _ _ _ => trivial

theorem Fields.ensures_pure {a : α} (h : P a) : (pure a : Fields α).Ensures P := by
  intro d l a' l' hl h'
  cases h'
  exact ⟨h, hl⟩

theorem Fields.Ensures.bind {F : Fields α} {G : α → Fields β} (hF : F.Ensures P)
    (hG : ∀ a, P a → (G a).Ensures Q) : (F >>= G).Ensures Q := by
  intro d l b l' hl h
  rw [bind_apply] at h
  obtain ⟨⟨a, l₁⟩, ha, hb⟩ := exists_of_bind_eq_ok h
  obtain ⟨hP, hl₁⟩ := hF d l a l₁ hl ha
  exact hG a hP d l₁ b l' hl₁ hb

theorem Fields.ensures_orElse {name : String} {f : Decoder α} {missing : α} (hf : f.Ensures P)
    (hmissing : P missing) : (orElse name f missing).Ensures P := by
  intro d l a l' hl h
  obtain ⟨hl', hout⟩ := of_orElse_eq_ok h
  refine ⟨?_, fun v hv => hl v (hl' v hv)⟩
  rcases hout with rfl | ⟨v, hv, ha⟩
  · exact hmissing
  · exact hf d v a (hl v hv) ha

/-- A field of which nothing needs to be known. -/
theorem Fields.ensures_any {name : String} {f : Decoder α} {missing : α} :
    (orElse name f missing).Ensures fun _ => True :=
  ensures_orElse f.ensures_true trivial

/-- **A record has what its fields ensure.** -/
theorem ensures_record {F : Fields α} (h : F.Ensures P) : Decoder.Ensures (record F) P := by
  intro d j a hj ha
  unfold record at ha
  split at ha
  · rename_i ms
    obtain ⟨⟨a', l'⟩, hF, rfl⟩ := exists_of_map_eq_ok ha
    refine (h d _ a' l' (fun v hv => ?_) hF).1
    obtain ⟨m, hm, rfl⟩ := List.mem_map.mp hv
    cases hj (by simp) with
    | obj hms => exact hms m hm
  · rename_i xs
    have hxs : ∀ v ∈ (Layout.placed xs).values, IsMember v := by
      intro v hv
      cases hj (by simp) with
      | arr hxs => exact (hxs v hv).isMember
    split at ha
    · rename_i a' x rest hF
      split at ha
      · cases ha
        exact (h d _ _ _ hxs hF).1
      · exact nomatch ha
    · rename_i a' l' hF
      cases ha
      exact (h d _ _ _ hxs hF).1
    · exact nomatch ha
  · exact nomatch ha

end Ensures

/-- **A number from a document has 64 bits with its sign**, although it is kept without one. -/
theorem Decoder.ensures_uint64 : uint64.Ensures fun n => n.toNat ≤ Toml.maxInt := by
  intro d j a hj h
  obtain ⟨n, hn, rfl⟩ := exists_of_map_eq_ok h
  unfold natUpTo at hn
  split at hn
  · rename_i m
    split at hn
    · cases hn
      cases hj (by simp) with
      | int _ hmax =>
        rw [UInt64.toNat_ofNat']
        have hle : m.toNat ≤ Toml.maxInt := by omega
        exact (Nat.mod_le _ _).trans hle
    · exact nomatch hn
  · exact nomatch hn

/-! ## What decoders restore -/

/-- Whether a piece of data is made of whatever shows the value that it is written as. -/
structure Decoder.Restores (f : Decoder α) (j : Json) (a : α) : Prop where
  notNull : j ≠ .null
  reads : ∀ d v, shows v j = true → f d v = .ok a

/-- Whether fields of a record are made of any table that shows the record. -/
def Fields.Restores (F : Fields α) (ns : List (String × Json)) (a : α) : Prop :=
  ∀ d ms, ShowsTable ms ns → F d (.named ms) = .ok (a, .named ms)

namespace Fields

variable {ns : List (String × Json)} {name : String}

theorem restores_pure (a : α) : (pure a : Fields α).Restores ns a := fun _ _ _ => rfl

theorem Restores.bind {F : Fields α} {G : α → Fields β} {a : α} {b : β} (hF : F.Restores ns a)
    (hG : (G a).Restores ns b) : (F >>= G).Restores ns b := by
  intro d ms h
  rw [bind_apply, hF d ms h]
  exact hG d ms h

/-- A field with a value. -/
theorem restores_orElse {f : Decoder α} {missing a : α} {j : Json} (hf : f.Restores j a)
    (hj : ns.lookup name = some j) : (orElse name f missing).Restores ns a := by
  intro d ms h
  obtain ⟨v, hv, hshows⟩ := h.filter_eq_singleton hj hf.notNull
  rw [orElse_named, hv]
  show (f d v).map _ = _
  rw [hf.reads d v hshows]
  rfl

/-- **A field that may have no value**, and is left out then. -/
theorem restores_nullable {f : Decoder α} {o : Option α} {toJson : α → Json}
    (hf : ∀ a, f.Restores (toJson a) a) (hj : ns.lookup name = some (Json.ofOption toJson o)) :
    (orElse name (Decoder.nullable f) none).Restores ns o := by
  cases o with
  | none =>
    intro d ms h
    rw [orElse_named, h.filter_eq_nil hj]
  | some a =>
    refine restores_orElse ⟨(hf a).notNull, fun d v hshows => ?_⟩ hj
    have hv : v ≠ .null := by
      rintro rfl
      exact absurd hshows (by cases toJson a <;> simp [shows])
    have hnullable : Decoder.nullable f d v = (f d v).map some := by
      cases v <;> first | rfl | exact absurd rfl hv
    rw [hnullable, (hf a).reads d v hshows]
    rfl

end Fields

/-- **A record is restored if its fields are.** -/
theorem restores_record {F : Fields α} {ns : List (String × Json)} {a : α}
    (h : F.Restores ns a) : Decoder.Restores (record F) (.obj ns) a where
  notNull := by simp
  reads d v hshows := by
    obtain ⟨ms, rfl, hms⟩ := Toml.exists_members_of_shows hshows
    rw [record, h d ms hms]
    rfl

namespace Decoder

theorem restores_string (s : String) : string.Restores (.str s) s where
  notNull := by simp
  reads d v hshows := by
    rw [Toml.eq_of_shows_str hshows]
    rfl

theorem restores_float (x : Float) : float.Restores (.real x) x where
  notNull := by simp
  reads d v hshows := by
    rw [Toml.eq_of_shows_real hshows]
    rfl

theorem restores_natUpTo {n bound : Nat} (h : n ≤ bound) : (natUpTo bound).Restores (.nat n) n where
  notNull := by simp [Json.nat]
  reads d v hshows := by
    rw [Toml.eq_of_shows_int hshows, natUpTo, if_pos ⟨Int.natCast_nonneg n, Int.ofNat_le.mpr h⟩]
    rfl

theorem restores_uint64 (n : UInt64) : uint64.Restores (.nat n.toNat) n where
  notNull := by simp [Json.nat]
  reads d v hshows := by
    have hle : n.toNat ≤ UInt64.size - 1 := Nat.le_sub_one_of_lt n.toNat_lt
    rw [uint64, (restores_natUpTo hle).reads d v hshows, Except.map, UInt64.ofNat_toNat]

theorem restores_uint32 (n : UInt32) : uint32.Restores (.nat n.toNat) n where
  notNull := by simp [Json.nat]
  reads d v hshows := by
    have hle : n.toNat ≤ UInt32.size - 1 := Nat.le_sub_one_of_lt n.toNat_lt
    rw [uint32, (restores_natUpTo hle).reads d v hshows, Except.map, UInt32.ofNat_toNat]

theorem mapM_eq_ok {g : α → Except Mismatch β} {xs : List α} {l : List β}
    (h : List.Forall₂ (fun x a => g x = .ok a) xs l) : xs.mapM g = .ok l := by
  induction h with
  | nil => rfl
  | cons hx _ ih =>
    rw [List.mapM_cons, hx, ih]
    rfl

theorem restores_list {f : Decoder α} {toJson : α → Json} (hf : ∀ a, f.Restores (toJson a) a)
    (l : List α) : (list f).Restores (.arr (l.map toJson)) l where
  notNull := by simp
  reads d v hshows := by
    obtain ⟨xs, rfl, hxs⟩ := Toml.exists_items_of_shows hshows
    have hread := (List.forall₂_map_right_iff.mp hxs).imp fun x a => (hf a).reads d x
    exact mapM_eq_ok hread

/-! ### Tables in the order of their names -/

/-- **A table is in the order of its names.** -/
theorem ensures_table (f : Decoder α) : (table f).Ensures Ascending := by
  intro d j t _ h
  unfold table at h
  split at h
  · exact ascending_of_putIn (f := f) Ascending.nil h
  · exact nomatch h

/-- **A table is restored** from its members in any order. -/
theorem restores_table {f : Decoder α} {toJson : α → Json} (hf : ∀ a, f.Restores (toJson a) a)
    {l : List (String × α)} (hl : Ascending l) :
    (table f).Restores (.obj (l.map fun p => (p.1, toJson p.2))) l where
  notNull := by simp
  reads d v hshows := by
    obtain ⟨ms, rfl, hms⟩ := Toml.exists_members_of_shows hshows
    have hread : ∀ m ∈ ms, ∃ a, (m.1, a) ∈ l ∧ f d m.2 = .ok a := by
      intro m hm
      obtain ⟨j, hj, hm⟩ := hms.shown m hm
      obtain ⟨ns₁, ns₂, hns, -⟩ := List.lookup_eq_some_iff.mp hj
      have hmem : (m.1, j) ∈ l.map fun p => (p.1, toJson p.2) := by simp [hns]
      obtain ⟨p, hp, heq⟩ := List.mem_map.mp hmem
      obtain ⟨hname, rfl⟩ := Prod.ext_iff.mp heq
      exact ⟨p.2, hname ▸ hp, (hf p.2).reads d m.2 hm⟩
    obtain ⟨t, hrun, htl, hnames⟩ := exists_putIn hread Ascending.nil fun _ hp =>
      absurd hp List.not_mem_nil
    rw [table_obj, hrun]
    have ht : Ascending t := ascending_of_putIn Ascending.nil hrun
    refine congrArg _ (ht.ext hl fun p => ⟨htl p, fun hp => ?_⟩)
    -- the name of a member is among those that were put in, and stands for one member only
    have hpresent : p.1 ∈ ms.map (·.1) :=
      hms.present _ (List.mem_map_of_mem hp) (hf p.2).notNull
    obtain ⟨p', hp', hname⟩ := List.mem_map.mp (hnames p.1 (.inr hpresent))
    rwa [← hl.eq_of_name_eq (htl p' hp') hp hname]

end Decoder

end PartSourcing.Json
