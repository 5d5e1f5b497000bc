import Mathlib.Data.List.Forall2
import PartSourcing.Proofs.Keyed
import PartSourcing.Proofs.Toml.Values
import PartSourcing.Toml.Writer

/-!
# Writing a document and reading it back

**Whatever can stand in a document can be written** (`exists_write?`).  What is written need not be
read back as the very same value: null members are left out, and the values of a table come before
the tables in it.  `shows` says what has to be the same.  Every other member must be there, once and
with the same value, and its place among the others is free.

That writing and reading fit together is a fact about the format and not about the records that are
kept in it.  `readsBack` states it for one value, and what follows from it about a record is in
`PartSourcing.Proofs.Toml.Decoding`.
-/

namespace PartSourcing.Toml

open PartSourcing.Json

/-! ## Writing -/

theorem exists_itemLines? {xs : List Json} (h : ∀ x ∈ xs, ∃ t, valueText? x = some t) :
    ∃ t, itemLines? xs = some t := by
  induction xs with
  | nil => exact ⟨"", by simp [itemLines?]⟩
  | cons x xs ih =>
    obtain ⟨⟨t, ht⟩, hxs⟩ := List.forall_mem_cons.mp h
    obtain ⟨ts, hts⟩ := ih hxs
    exact ⟨itemLine t ++ ts, by simp [itemLines?, ht, hts]⟩

theorem exists_inlineMembers? {ms : List (String × Json)}
    (h : ∀ m ∈ ms, m.2 ≠ .null → ∃ t, valueText? m.2 = some t) :
    ∃ ts, inlineMembers? ms = some ts := by
  induction ms with
  | nil => exact ⟨[], by simp [inlineMembers?]⟩
  | cons m ms ih =>
    obtain ⟨hm, hms⟩ := List.forall_mem_cons.mp h
    obtain ⟨ts, hts⟩ := ih hms
    obtain ⟨k, v⟩ := m
    by_cases hv : v = .null
    · subst hv
      exact ⟨ts, by simp [inlineMembers?, hts]⟩
    · obtain ⟨t, ht⟩ := hm hv
      exact ⟨(keyText k ++ " = " ++ t) :: ts, by simp [inlineMembers?, ht, hts]⟩

/-- A value that can stand in a document has a text. -/
theorem exists_valueText? {j : Json} (h : IsValue j) : ∃ t, valueText? j = some t := by
  induction h with
  | bool b => exact ⟨_, by rw [valueText?]⟩
  | int low high =>
    have hmax : Int64.maxValue.toInt = (maxInt : Int) := by decide
    exact ⟨_, by rw [valueText?, hmax, if_pos ⟨low, high⟩]⟩
  | real x => exact ⟨_, by rw [valueText?]⟩
  | str s => exact ⟨_, by rw [valueText?]⟩
  | @arr xs _ ih =>
    match xs with
    | [] => exact ⟨_, by rw [valueText?]⟩
    | [x] =>
      obtain ⟨t, ht⟩ := ih x List.mem_cons_self
      exact ⟨_, by rw [valueText?, ht, Option.map_some]⟩
    | x :: y :: xs =>
      obtain ⟨⟨t, ht⟩, hys⟩ := List.forall_mem_cons.mp ih
      obtain ⟨⟨u, hu⟩, hxs⟩ := List.forall_mem_cons.mp hys
      obtain ⟨ts, hts⟩ := exists_itemLines? hxs
      exact ⟨_, by simp [valueText?, ht, hu, hts]; rfl⟩
  | obj _ ih =>
    obtain ⟨ts, hts⟩ := exists_inlineMembers? ih
    exact ⟨_, by rw [valueText?, hts, Option.map_some]⟩

theorem exists_body? {ms : List (String × Json)} (h : ∀ m ∈ ms, IsMember m.2) :
    ∃ t, body? ms = some t := by
  induction ms with
  | nil => exact ⟨_, by rw [body?]⟩
  | cons m ms ih =>
    obtain ⟨hm, hms⟩ := List.forall_mem_cons.mp h
    obtain ⟨ts, hts⟩ := ih hms
    obtain ⟨k, v⟩ := m
    cases v with
    | null => exact ⟨ts, by rw [body?, hts]⟩
    | obj members => exact ⟨ts, by rw [body?, hts]⟩
    | _ =>
      obtain ⟨t, ht⟩ := exists_valueText? (hm (by simp))
      exact ⟨_, by simp [body?, ht, hts]; rfl⟩

theorem exists_sectionsBelow? (path : List String) {ms : List (String × Json)}
    (h : ∀ m ∈ ms, m.2 ≠ .null → ∀ path, ∃ ts, sections? path m.2 = some ts) :
    ∃ ts, sectionsBelow? path ms = some ts := by
  induction ms with
  | nil => exact ⟨_, by rw [sectionsBelow?]⟩
  | cons m ms ih =>
    obtain ⟨hm, hms⟩ := List.forall_mem_cons.mp h
    obtain ⟨below, hbelow⟩ := ih hms
    obtain ⟨k, v⟩ := m
    have hv : ∃ ts, sections? (path ++ [k]) v = some ts := by
      by_cases hnull : v = .null
      · subst hnull
        exact ⟨_, by rw [sections?]; exact nofun⟩
      · exact hm hnull _
    obtain ⟨ts, hts⟩ := hv
    exact ⟨ts ++ below, by simp [sectionsBelow?, hts, hbelow]⟩

theorem exists_sections? {j : Json} (h : IsValue j) (path : List String) :
    ∃ ts, sections? path j = some ts := by
  induction h generalizing path with
  | obj members ih =>
    obtain ⟨body, hbody⟩ := exists_body? members
    obtain ⟨below, hbelow⟩ := exists_sectionsBelow? path ih
    exact ⟨_, by simp [sections?, hbody, hbelow]; rfl⟩
  | _ => exact ⟨[], by rw [sections?]; exact nofun⟩

/-- **Whatever can stand in a document can be written.** -/
theorem exists_write? {j : Json} (h : IsValue j) : ∃ text, write? j = some text := by
  obtain ⟨ts, hts⟩ := exists_sections? h []
  exact ⟨_, by rw [write?, hts, Option.map_some]⟩

/-! ## Reading back -/

mutual
/-- **Whether a value that was read shows a value as it was written.**  A table shows all members
that are not null, each of them once and in any order. -/
def shows : Json → Json → Bool
  | .bool b, .bool c => b == c
  | .int m, .int n => m == n
  | .real x, .real y => decide (x = y)
  | .str s, .str t => s == t
  | .arr xs, .arr ys => showItems xs ys
  | .obj ms, .obj ns =>
    decide (ms.map (·.1)).Nodup && (ns.all fun n => isNull n.2 || ms.any (·.1 == n.1)) &&
      showMembers ms ns
  | _, _ => false

/-- Whether the items of an array show those of another, one by one. -/
def showItems : List Json → List Json → Bool
  | [], [] => true
  | x :: xs, y :: ys => shows x y && showItems xs ys
  | _, _ => false

/-- Whether every member shows that of the same name. -/
def showMembers : List (String × Json) → List (String × Json) → Bool
  | [], _ => true
  | (k, v) :: ms, ns => (ns.lookup k).any (shows v) && showMembers ms ns
end

/-- **Whether a value is read back as it was written.** -/
def readsBack (j : Json) : Bool :=
  (write? j).all fun text => (parse? text).any fun v => shows v j

/-- A text without a byte order mark is read character by character from its start. -/
theorem parse?_of_toList {text : String} {cs : List Char} (h : text.toList = cs)
    (hmark : cs.head? ≠ some '\uFEFF') :
    parse? text = (statements? (cs.length + 1) cs).bind fun ss =>
      (ss.foldlM Draft.step? {}).map fun d => .obj (membersJson d.members) := by
  subst h
  unfold parse?
  split
  · rename_i hcs
    rw [hcs] at hmark
    exact absurd rfl hmark
  · rfl

theorem shows_null (v : Json) : shows v .null = false := by
  cases v <;> rfl

theorem eq_of_shows_int {v : Json} {n : Int} (h : shows v (.int n) = true) : v = .int n := by
  cases v with
  | int m => simpa [shows] using h
  | _ => simp [shows] at h

theorem eq_of_shows_real {v : Json} {x : Float} (h : shows v (.real x) = true) : v = .real x := by
  cases v with
  | real y => simpa [shows] using h
  | _ => simp [shows] at h

theorem eq_of_shows_str {v : Json} {s : String} (h : shows v (.str s) = true) : v = .str s := by
  cases v with
  | str t => simpa [shows] using h
  | _ => simp [shows] at h

theorem forall₂_of_showItems {xs ys : List Json} (h : showItems xs ys = true) :
    List.Forall₂ (fun x y => shows x y = true) xs ys := by
  induction xs generalizing ys with
  | nil =>
    cases ys with
    | nil => exact .nil
    | cons y ys => simp [showItems] at h
  | cons x xs ih =>
    cases ys with
    | nil => simp [showItems] at h
    | cons y ys =>
      obtain ⟨hx, hxs⟩ := Bool.and_eq_true_iff.mp (by simpa [showItems] using h)
      exact .cons hx (ih hxs)

theorem exists_items_of_shows {v : Json} {ys : List Json} (h : shows v (.arr ys) = true) :
    ∃ xs, v = .arr xs ∧ List.Forall₂ (fun x y => shows x y = true) xs ys := by
  cases v with
  | arr xs => exact ⟨xs, rfl, forall₂_of_showItems (by simpa [shows] using h)⟩
  | _ => simp [shows] at h

/-- Members that show those of a table. -/
structure ShowsTable (ms ns : List (String × Json)) : Prop where
  once : (ms.map (·.1)).Nodup
  present : ∀ n ∈ ns, n.2 ≠ .null → n.1 ∈ ms.map (·.1)
  shown : ∀ m ∈ ms, ∃ j, ns.lookup m.1 = some j ∧ shows m.2 j = true

theorem exists_of_showMembers {ms ns : List (String × Json)} (h : showMembers ms ns = true) :
    ∀ m ∈ ms, ∃ j, ns.lookup m.1 = some j ∧ shows m.2 j = true := by
  induction ms with
  | nil => exact fun _ hm => absurd hm List.not_mem_nil
  | cons m ms ih =>
    obtain ⟨hm, hms⟩ := Bool.and_eq_true_iff.mp (by simpa [showMembers] using h)
    exact List.forall_mem_cons.mpr ⟨by simpa [Option.any_eq_true] using hm, ih hms⟩

theorem isNull_iff {j : Json} : isNull j = true ↔ j = .null := by
  cases j <;> simp [isNull]

theorem exists_members_of_shows {v : Json} {ns : List (String × Json)}
    (h : shows v (.obj ns) = true) : ∃ ms, v = .obj ms ∧ ShowsTable ms ns := by
  cases v with
  | obj ms =>
    rw [shows, Bool.and_eq_true, Bool.and_eq_true] at h
    obtain ⟨⟨honce, hpresent⟩, hshown⟩ := h
    refine ⟨ms, rfl, of_decide_eq_true honce, fun n hn hnull => ?_, exists_of_showMembers hshown⟩
    rcases Bool.or_eq_true_iff.mp (List.all_eq_true.mp hpresent n hn) with h | h
    · exact absurd (isNull_iff.mp h) hnull
    · obtain ⟨m, hm, hname⟩ := List.any_eq_true.mp h
      exact List.mem_map.mpr ⟨m, hm, beq_iff_eq.mp hname⟩
  | _ => simp [shows] at h

namespace ShowsTable

variable {ms ns : List (String × Json)} (h : ShowsTable ms ns) {name : String}
include h

/-- A null member is left out. -/
theorem filter_eq_nil (hname : ns.lookup name = some .null) :
    (ms.filter fun m => m.1 == name) = [] := by
  refine List.filter_eq_nil_iff.mpr fun m hm hm' => ?_
  obtain ⟨j, hj, hshows⟩ := h.shown m hm
  rw [beq_iff_eq.mp hm', hname] at hj
  cases hj
  rw [shows_null] at hshows
  exact Bool.false_ne_true hshows

/-- Any other member is there, and no other one under its name. -/
theorem filter_eq_singleton {j : Json} (hname : ns.lookup name = some j) (hj : j ≠ .null) :
    ∃ v, (ms.filter fun m => m.1 == name) = [(name, v)] ∧ shows v j = true := by
  obtain ⟨ns₁, ns₂, hns, -⟩ := List.lookup_eq_some_iff.mp hname
  obtain ⟨m, hm, rfl⟩ := List.mem_map.mp (h.present (name, j) (by simp [hns]) hj)
  obtain ⟨j', hj', hshows⟩ := h.shown m hm
  rw [hname] at hj'
  cases hj'
  exact ⟨m.2, Keyed.filter_key_eq h.once hm, hshows⟩

end ShowsTable

end PartSourcing.Toml
