import PartSourcing.Proofs.Toml.Decoding

/-!
# What a record is decoded from

A record is written as an object or as an array, and a decoder takes its fields one after the other.
`field?` says where a field stands in either layout, without going through the fields before it:
under its name, or at its place.  **What a decoder gives for a field is what it gives for the value
that stands there** (`Fields.optional_eq_ok`, `Fields.orElse_eq_ok`), so a record that was decoded
can be traced back to its document field by field.

A general value keeps the last member of each name.  To do so twice is to do it once
(`settle_settle`): such a value is decoded as it is.
-/

namespace PartSourcing.Json

variable {α β : Type}

/-! ## Fields in either layout -/

/-- **The value of a field**: under its name in an object, and at its place in an array. -/
def field? (place : Nat) (name : String) : Json → Option Json
  | .obj ms => ms.lookup name
  | .arr xs => xs[place]?
  | _ => none

/-- The items of a list, if there is one. -/
def itemsOf (j : Option Json) : List Json := (j.bind items?).getD []

/-- The text of a value, if it is one. -/
def textOf (j : Option Json) : Option String := j.bind text?

/-- Whether a value is there and true. -/
def flagOf : Option Json → Bool
  | some (.bool b) => b
  | _ => false

/-- What is left to take fields from, when those before the given place have been taken. -/
def Layout.Reaches (j : Json) (place : Nat) : Layout → Prop
  | .named ms => j = .obj ms
  | .placed xs => ∃ all, j = .arr all ∧ xs = all.drop place

theorem lookup_eq_head? (name : String) (ms : List (String × Json)) :
    ms.lookup name = ((ms.filter fun m => m.1 == name).head?).map (·.2) := by
  induction ms with
  | nil => rfl
  | cons m ms ih =>
    obtain ⟨k, v⟩ := m
    by_cases hk : name = k
    · simp [hk]
    · have hname : (name == k) = false := beq_false_of_ne hk
      have hname' : (k == name) = false := beq_false_of_ne (Ne.symm hk)
      rw [List.lookup_cons, hname, ih, List.filter_cons, hname']
      rfl

namespace Fields

variable {name : String} {f : Decoder α} {d : Dialect} {j : Json} {place : Nat} {l l' : Layout}

/-- Fields are taken one after the other. -/
theorem bind_eq_ok {F : Fields α} {G : α → Fields β} {b : β}
    (h : (F >>= G) d l = .ok (b, l')) :
    ∃ a l₁, F d l = .ok (a, l₁) ∧ G a d l₁ = .ok (b, l') := by
  obtain ⟨⟨a, l₁⟩, ha, hb⟩ := exists_of_bind_eq_ok ((bind_apply F G d l).symm.trans h)
  exact ⟨a, l₁, ha, hb⟩

theorem take?_eq_ok {o : Option Json} (hl : l.Reaches j place)
    (h : take? name d l = .ok (o, l')) : o = j.field? place name ∧ l'.Reaches j (place + 1) := by
  cases l with
  | named ms =>
    obtain rfl : j = .obj ms := hl
    rw [take?_named] at h
    rw [field?, lookup_eq_head?]
    split at h
    · rename_i hfound
      cases h
      rw [hfound]
      exact ⟨rfl, rfl⟩
    · rename_i hfound
      cases h
      rw [hfound]
      exact ⟨rfl, rfl⟩
    · cases h
  | placed xs =>
    obtain ⟨all, rfl, rfl⟩ := hl
    have hnext : (all.drop place)[0]? = all[place]? := by simp
    cases hxs : all.drop place with
    | nil =>
      rw [hxs] at h hnext
      cases h
      have hlength := List.drop_eq_nil_iff.mp hxs
      exact ⟨hnext, all, rfl, (List.drop_eq_nil_of_le (by omega)).symm⟩
    | cons x xs =>
      rw [hxs] at h hnext
      cases h
      refine ⟨hnext, all, rfl, ?_⟩
      rw [← List.drop_drop, hxs]
      rfl

/-- **What a field gives that may be null.** -/
theorem optional_eq_ok {o : Option α} (hl : l.Reaches j place)
    (h : optional name f d l = .ok (o, l')) :
    ((o = none ∧ (j.field? place name = none ∨ j.field? place name = some .null)) ∨
      ∃ v a, j.field? place name = some v ∧ f d v = .ok a ∧ o = some a) ∧
      l'.Reaches j (place + 1) := by
  obtain ⟨v, l₁, hv, ho⟩ := bind_eq_ok h
  obtain ⟨rfl, hl₁⟩ := take?_eq_ok hl hv
  cases hfield : j.field? place name with
  | none =>
    rw [hfield] at ho
    cases l₁ with
    | named ms =>
      cases ho
      exact ⟨.inl ⟨rfl, .inl rfl⟩, hl₁⟩
    | placed xs => cases ho
  | some v =>
    rw [hfield] at ho
    have hrun : (f.nullable d v).bind (fun o => .ok (o, l₁)) = .ok (o, l') := ho
    obtain ⟨o', ho', heq⟩ := exists_of_bind_eq_ok hrun
    cases heq
    refine ⟨?_, hl₁⟩
    by_cases hnull : v = .null
    · subst hnull
      cases ho'
      exact .inl ⟨rfl, .inr rfl⟩
    · have hnullable : f.nullable d v = (f d v).map some := by
        cases v <;> first | rfl | exact absurd rfl hnull
      rw [hnullable] at ho'
      obtain ⟨a, ha, rfl⟩ := exists_of_map_eq_ok ho'
      exact .inr ⟨v, a, rfl, ha, rfl⟩

/-- **What a field gives that may be left out.** -/
theorem orElse_eq_ok {missing a : α} (hl : l.Reaches j place)
    (h : orElse name f missing d l = .ok (a, l')) :
    ((a = missing ∧ j.field? place name = none) ∨
      ∃ v, j.field? place name = some v ∧ f d v = .ok a) ∧ l'.Reaches j (place + 1) := by
  obtain ⟨v, l₁, hv, ha⟩ := bind_eq_ok h
  obtain ⟨rfl, hl₁⟩ := take?_eq_ok hl hv
  cases hfield : j.field? place name with
  | none =>
    rw [hfield] at ha
    cases ha
    exact ⟨.inl ⟨rfl, rfl⟩, hl₁⟩
  | some v =>
    rw [hfield] at ha
    have hrun : (f d v).bind (fun a => .ok (a, l₁)) = .ok (a, l') := ha
    obtain ⟨a', ha', heq⟩ := exists_of_bind_eq_ok hrun
    cases heq
    exact ⟨.inr ⟨v, rfl, ha'⟩, hl₁⟩

/-! ### Fields of usual shapes -/

theorem optional_text {o : Option String} (hl : l.Reaches j place)
    (h : optional name Decoder.string d l = .ok (o, l')) :
    o = textOf (j.field? place name) ∧ l'.Reaches j (place + 1) := by
  obtain ⟨⟨rfl, hnone | hnull⟩ | ⟨v, s, hv, hs, rfl⟩, hl'⟩ := optional_eq_ok hl h
  · rw [hnone]
    exact ⟨rfl, hl'⟩
  · rw [hnull]
    exact ⟨rfl, hl'⟩
  · rw [hv]
    refine ⟨?_, hl'⟩
    cases v with
    | str t =>
      cases hs
      rfl
    | _ => cases hs

theorem orElse_flag {b : Bool} (hl : l.Reaches j place)
    (h : orElse name Decoder.bool false d l = .ok (b, l')) :
    b = flagOf (j.field? place name) ∧ l'.Reaches j (place + 1) := by
  obtain ⟨⟨rfl, hnone⟩ | ⟨v, hv, hb⟩, hl'⟩ := orElse_eq_ok hl h
  · rw [hnone]
    exact ⟨rfl, hl'⟩
  · rw [hv]
    refine ⟨?_, hl'⟩
    cases v with
    | bool c =>
      cases hb
      rfl
    | _ => cases hb

theorem forall₂_of_mapM {g : α → Except Mismatch β} {xs : List α} {l : List β}
    (h : xs.mapM g = .ok l) : List.Forall₂ (fun x a => g x = .ok a) xs l := by
  induction xs generalizing l with
  | nil =>
    cases h
    exact .nil
  | cons x xs ih =>
    rw [List.mapM_cons] at h
    obtain ⟨a, ha, h⟩ := exists_of_bind_eq_ok h
    obtain ⟨as, has, h⟩ := exists_of_bind_eq_ok h
    cases h
    exact .cons ha (ih has)

/-- A list is decoded item by item, and one that is left out has no items. -/
theorem orElse_list {as : List α} (hl : l.Reaches j place)
    (h : orElse name (Decoder.list f) [] d l = .ok (as, l')) :
    List.Forall₂ (fun x a => f d x = .ok a) (itemsOf (j.field? place name)) as ∧
      l'.Reaches j (place + 1) := by
  obtain ⟨⟨rfl, hnone⟩ | ⟨v, hv, has⟩, hl'⟩ := orElse_eq_ok hl h
  · rw [hnone]
    exact ⟨.nil, hl'⟩
  · rw [hv]
    refine ⟨?_, hl'⟩
    cases v with
    | arr xs => exact forall₂_of_mapM has
    | _ => cases has

end Fields

/-- **The fields of a record** are taken from its start. -/
theorem record_eq_ok {F : Fields α} {d : Dialect} {j : Json} {a : α}
    (h : record F d j = .ok a) :
    ∃ l l' : Layout, l.Reaches j 0 ∧ F d l = .ok (a, l') := by
  cases j with
  | obj ms =>
    obtain ⟨⟨a', l'⟩, hF, rfl⟩ := exists_of_map_eq_ok h
    exact ⟨.named ms, l', rfl, hF⟩
  | arr xs =>
    have hstart : (Layout.placed xs).Reaches (.arr xs) 0 := ⟨xs, rfl, rfl⟩
    rw [record] at h
    split at h
    · rename_i hF
      split at h
      · cases h
        exact ⟨_, _, hstart, hF⟩
      · cases h
    · rename_i hF
      cases h
      exact ⟨_, _, hstart, hF⟩
    · cases h
  | _ => cases h

/-! ## Settled values -/

theorem settleMembers_eq_map (ms : List (String × Json)) :
    settleMembers ms = ms.map fun m => (m.1, m.2.settle) := by
  induction ms with
  | nil => rfl
  | cons m ms ih =>
    obtain ⟨k, v⟩ := m
    rw [settleMembers, ih, List.map_cons]

theorem mem_of_mem_lastMembers {m : String × Json} {ms : List (String × Json)}
    (h : m ∈ lastMembers ms) : m ∈ ms := by
  induction ms with
  | nil => exact h
  | cons n ms ih =>
    rw [lastMembers] at h
    split at h
    · exact List.mem_cons_of_mem n (ih h)
    · rcases List.mem_cons.mp h with rfl | h
      · exact List.mem_cons_self
      · exact List.mem_cons_of_mem n (ih h)

/-- The last members all have names of their own. -/
theorem lastMembers_lastMembers (ms : List (String × Json)) :
    lastMembers (lastMembers ms) = lastMembers ms := by
  induction ms with
  | nil => rfl
  | cons m ms ih =>
    rw [lastMembers]
    split
    · exact ih
    · rename_i hlast
      have hnot : ¬(lastMembers ms).any (·.1 == m.1) = true := by
        intro hany
        obtain ⟨n, hn, hname⟩ := List.any_eq_true.mp hany
        exact hlast (List.any_eq_true.mpr ⟨n, mem_of_mem_lastMembers hn, hname⟩)
      rw [lastMembers, if_neg hnot, ih]

theorem settleMembers_lastMembers (ms : List (String × Json)) :
    settleMembers (lastMembers ms) = lastMembers (settleMembers ms) := by
  induction ms with
  | nil => rfl
  | cons m ms ih =>
    obtain ⟨k, v⟩ := m
    have hany : (settleMembers ms).any (·.1 == k) = ms.any (·.1 == k) := by
      rw [settleMembers_eq_map, List.any_map]
      rfl
    rw [lastMembers, settleMembers, lastMembers, hany]
    split
    · exact ih
    · rw [settleMembers, ih]

mutual

/-- **A settled value is settled already.** -/
theorem settle_settle : (j : Json) → j.settle.settle = j.settle
  | .null | .bool _ | .int _ | .real _ | .str _ => rfl
  | .arr xs => by
    rw [settle, settle, settleItems_settleItems xs]
  | .obj ms => by
    rw [settle, settle, settleMembers_lastMembers, settleMembers_settleMembers ms,
      lastMembers_lastMembers]

theorem settleItems_settleItems : (xs : List Json) →
    settleItems (settleItems xs) = settleItems xs
  | [] => rfl
  | x :: xs => by
    rw [settleItems, settleItems, settle_settle x, settleItems_settleItems xs]

theorem settleMembers_settleMembers : (ms : List (String × Json)) →
    settleMembers (settleMembers ms) = settleMembers ms
  | [] => rfl
  | (k, v) :: ms => by
    rw [settleMembers, settleMembers, settle_settle v, settleMembers_settleMembers ms]

end

end PartSourcing.Json
