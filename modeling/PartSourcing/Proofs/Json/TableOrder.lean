import Mathlib.Data.List.Sort
import Mathlib.Data.String.Basic
import PartSourcing.Json.Decoder

/-!
# Tables in the order of their names

An object whose members all have one shape is read into a table that is in the order of the names,
each name once.  One member after the other is put in at its place, and takes the place of one that
has its name (`mem_insertByName`).

**Such a table is known from its members** (`Ascending.ext`), so the order in which they were put
in is forgotten.
-/

namespace PartSourcing.Json

variable {ε α β : Type}

theorem exists_of_map_eq_ok {g : α → β} {x : Except ε α} {b : β} (h : x.map g = .ok b) :
    ∃ a, x = .ok a ∧ g a = b := by
  cases x with
  | error e => exact nomatch h
  | ok a => exact ⟨a, rfl, Except.ok.inj h⟩

theorem exists_of_bind_eq_ok {g : α → Except ε β} {x : Except ε α} {b : β}
    (h : x.bind g = .ok b) : ∃ a, x = .ok a ∧ g a = .ok b := by
  cases x with
  | error e => exact nomatch h
  | ok a => exact ⟨a, rfl, h⟩

/-- Whether members stand in the order of their names, each name once. -/
def Ascending (l : List (String × α)) : Prop := l.Pairwise fun m n => m.1 < n.1

theorem Ascending.nil : Ascending ([] : List (String × α)) := List.Pairwise.nil

theorem Ascending.eq_of_name_eq {l : List (String × α)} (h : Ascending l) {m n : String × α}
    (hm : m ∈ l) (hn : n ∈ l) (hname : m.1 = n.1) : m = n := by
  have hnodup : (l.map (·.1)).Nodup := List.pairwise_map.mpr (h.imp fun hlt => ne_of_lt hlt)
  exact List.inj_on_of_nodup_map hnodup hm hn hname

/-- Such a table is known from its members. -/
theorem Ascending.ext {l l' : List (String × α)} (h : Ascending l) (h' : Ascending l')
    (hmem : ∀ m, m ∈ l ↔ m ∈ l') : l = l' := by
  have : Std.Irrefl fun m n : String × α => m.1 < n.1 := ⟨fun m => lt_irrefl m.1⟩
  have : Std.Antisymm fun m n : String × α => m.1 < n.1 :=
    ⟨fun _ _ hlt hgt => absurd hgt (lt_asymm hlt)⟩
  exact List.Pairwise.eq_of_mem_iff h h' hmem

namespace Decoder

/-- **A member that is put in takes the place of its name.** -/
theorem mem_insertByName {m p : String × α} {l : List (String × α)} (h : Ascending l) :
    p ∈ insertByName m l ↔ p = m ∨ p ∈ l ∧ p.1 ≠ m.1 := by
  induction l with
  | nil => simp [insertByName]
  | cons n ns ih =>
    obtain ⟨hn, hns⟩ := List.pairwise_cons.mp h
    unfold insertByName
    split
    · -- all names that are there come behind
      rename_i hlt
      have hne : ∀ p ∈ n :: ns, p.1 ≠ m.1 :=
        List.forall_mem_cons.mpr ⟨ne_of_gt hlt, fun p hp => ne_of_gt (hlt.trans (hn p hp))⟩
      rw [List.mem_cons]
      exact or_congr_right ⟨fun hp => ⟨hp, hne p hp⟩, And.left⟩
    · split
      · rename_i hname
        have hne : ∀ p ∈ ns, p.1 ≠ m.1 := fun p hp => ne_of_gt (hname ▸ hn p hp)
        rw [List.mem_cons, List.mem_cons]
        constructor
        · rintro (rfl | hp)
          · exact .inl rfl
          · exact .inr ⟨.inr hp, hne p hp⟩
        · rintro (rfl | ⟨rfl | hp, hpm⟩)
          · exact .inl rfl
          · exact absurd hname.symm hpm
          · exact .inr hp
      · rename_i hlt hname
        rw [List.mem_cons, List.mem_cons, ih hns]
        constructor
        · rintro (rfl | rfl | ⟨hp, hpm⟩)
          · exact .inr ⟨.inl rfl, Ne.symm hname⟩
          · exact .inl rfl
          · exact .inr ⟨.inr hp, hpm⟩
        · rintro (rfl | ⟨rfl | hp, hpm⟩)
          · exact .inr (.inl rfl)
          · exact .inl rfl
          · exact .inr (.inr ⟨hp, hpm⟩)

theorem ascending_insertByName (m : String × α) {l : List (String × α)} (h : Ascending l) :
    Ascending (insertByName m l) := by
  induction l with
  | nil => exact List.pairwise_singleton _ _
  | cons n ns ih =>
    obtain ⟨hn, hns⟩ := List.pairwise_cons.mp h
    unfold insertByName
    split
    · rename_i hlt
      exact List.pairwise_cons.mpr
        ⟨List.forall_mem_cons.mpr ⟨hlt, fun p hp => hlt.trans (hn p hp)⟩, h⟩
    · split
      · rename_i hname
        exact List.pairwise_cons.mpr ⟨fun p hp => hname ▸ hn p hp, hns⟩
      · rename_i hlt hname
        have hgt : n.1 < m.1 := lt_of_le_of_ne (not_lt.mp hlt) (Ne.symm hname)
        refine List.pairwise_cons.mpr ⟨fun p hp => ?_, ih hns⟩
        rcases (mem_insertByName hns).mp hp with rfl | ⟨hp, -⟩
        · exact hgt
        · exact hn p hp

/-- One member after the other is put in. -/
def putIn (f : Decoder α) (d : Dialect) (t : List (String × α)) (m : String × Json) :
    Except Mismatch (List (String × α)) :=
  (f d m.2).map fun a => insertByName (m.1, a) t

theorem table_obj (f : Decoder α) (d : Dialect) (ms : List (String × Json)) :
    table f d (.obj ms) = ms.foldlM (putIn f d) [] := rfl

theorem ascending_of_putIn {f : Decoder α} {d : Dialect} {ms : List (String × Json)}
    {t t' : List (String × α)} (ht : Ascending t) (h : ms.foldlM (putIn f d) t = .ok t') :
    Ascending t' := by
  induction ms generalizing t with
  | nil =>
    cases h
    exact ht
  | cons m ms ih =>
    rw [List.foldlM_cons] at h
    obtain ⟨t₁, ht₁, h⟩ := exists_of_bind_eq_ok h
    obtain ⟨a, -, rfl⟩ := exists_of_map_eq_ok ht₁
    exact ih (ascending_insertByName _ ht) h

/-- Members that a table has are put in one after the other, and all their names are there in
the end. -/
theorem exists_putIn {f : Decoder α} {d : Dialect} {l t : List (String × α)}
    {ms : List (String × Json)} (hms : ∀ m ∈ ms, ∃ a, (m.1, a) ∈ l ∧ f d m.2 = .ok a)
    (ht : Ascending t) (htl : ∀ p ∈ t, p ∈ l) :
    ∃ t', ms.foldlM (putIn f d) t = .ok t' ∧ (∀ p ∈ t', p ∈ l) ∧
      ∀ k, k ∈ t.map (·.1) ∨ k ∈ ms.map (·.1) → k ∈ t'.map (·.1) := by
  induction ms generalizing t with
  | nil => exact ⟨t, rfl, htl, fun k hk => hk.resolve_right List.not_mem_nil⟩
  | cons m ms ih =>
    obtain ⟨⟨a, hal, ha⟩, hms⟩ := List.forall_mem_cons.mp hms
    have hput : putIn f d t m = .ok (insertByName (m.1, a) t) := by
      rw [putIn, ha]
      rfl
    obtain ⟨t', hrun, ht'l, hnames⟩ := ih hms (ascending_insertByName (m.1, a) ht) fun p hp => by
      rcases (mem_insertByName ht).mp hp with rfl | ⟨hp, -⟩
      · exact hal
      · exact htl p hp
    refine ⟨t', ?_, ht'l, fun k hk => hnames k ?_⟩
    · rw [List.foldlM_cons, hput]
      exact hrun
    · rw [List.map_cons, List.mem_cons] at hk
      by_cases hkm : k = m.1
      · exact .inl (List.mem_map.mpr ⟨(m.1, a), (mem_insertByName ht).mpr (.inl rfl), hkm.symm⟩)
      · rcases hk with hk | hk | hk
        · obtain ⟨p, hp, rfl⟩ := List.mem_map.mp hk
          exact .inl (List.mem_map_of_mem ((mem_insertByName ht).mpr (.inr ⟨hp, hkm⟩)))
        · exact absurd hk hkm
        · exact .inr hk

end Decoder

end PartSourcing.Json
