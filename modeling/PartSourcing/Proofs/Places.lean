import Mathlib.Data.List.Forall2
import Mathlib.Data.Prod.Lex

/-!
# Lists in the order of places

What stands at the places of a document makes a list: one element for each place, in the order of
the places (`InPlaces`).  **So nothing is lost, nothing comes twice and nothing changes its order**,
whatever loop has made the list.  A list that is made of the lists in another one is in the order of
pairs of places, the outer one first (`InPlaces.flatMap`), and so on to any depth.
-/

namespace PartSourcing

variable {ι κ α β : Type} [LT ι] [LT κ]

/-- **A list of what stands at places**, which come in their order, each once. -/
def InPlaces (At : ι → α → Prop) (l : List α) : Prop :=
  ∃ places : List ι, places.Pairwise (· < ·) ∧ (∀ p, p ∈ places ↔ ∃ a, At p a) ∧
    List.Forall₂ At places l

/-- A list is in the order of its own positions. -/
theorem inPlaces_getElem? (l : List α) : InPlaces (fun (i : ℕ) a => l[i]? = some a) l := by
  refine ⟨List.range l.length, List.pairwise_lt_range, ?_, ?_⟩
  · intro i
    rw [List.mem_range]
    constructor
    · intro hi
      exact ⟨l[i], List.getElem?_eq_getElem hi⟩
    · rintro ⟨a, ha⟩
      exact (List.getElem?_eq_some_iff.mp ha).1
  · rw [List.forall₂_iff_get]
    refine ⟨List.length_range, ?_⟩
    intro i hi hi'
    simp

namespace InPlaces

variable {At : ι → α → Prop} {l : List α}

theorem congr {At' : ι → α → Prop} (h : InPlaces At l) (hiff : ∀ p a, At p a ↔ At' p a) :
    InPlaces At' l := by
  have heq : At = At' := funext fun p => funext fun a => propext (hiff p a)
  exact heq ▸ h

/-- Whatever is in the list stands at a place. -/
theorem exists_of_mem (h : InPlaces At l) {a : α} (ha : a ∈ l) : ∃ p, At p a := by
  obtain ⟨places, -, -, hat⟩ := h
  induction hat with
  | nil => exact absurd ha List.not_mem_nil
  | @cons p b _ _ hb _ ih =>
    rcases List.mem_cons.mp ha with rfl | ha
    · exact ⟨p, hb⟩
    · exact ih ha

theorem map (h : InPlaces At l) (f : α → β) :
    InPlaces (fun p b => ∃ a, At p a ∧ f a = b) (l.map f) := by
  obtain ⟨places, hordered, hmem, hat⟩ := h
  refine ⟨places, hordered, ?_, ?_⟩
  · intro p
    rw [hmem]
    constructor
    · rintro ⟨a, ha⟩
      exact ⟨f a, a, ha, rfl⟩
    · rintro ⟨b, a, ha, -⟩
      exact ⟨a, ha⟩
  · exact List.forall₂_map_right_iff.mpr (hat.imp fun p a ha => ⟨a, ha, rfl⟩)

/-- What is kept of a list is in the order of the places where it stands. -/
theorem filter (h : InPlaces At l) (hunique : ∀ p a b, At p a → At p b → a = b) (q : α → Bool) :
    InPlaces (fun p a => At p a ∧ q a = true) (l.filter q) := by
  obtain ⟨places, hordered, hmem, hat⟩ := h
  suffices hkept : ∃ kept : List ι, kept.Sublist places ∧
      (∀ p, p ∈ kept ↔ p ∈ places ∧ ∃ a, At p a ∧ q a = true) ∧
      List.Forall₂ (fun p a => At p a ∧ q a = true) kept (l.filter q) by
    obtain ⟨kept, hsublist, hkeptmem, hkeptat⟩ := hkept
    refine ⟨kept, hordered.sublist hsublist, fun p => ?_, hkeptat⟩
    rw [hkeptmem, hmem]
    exact ⟨And.right, fun ⟨a, ha, hq⟩ => ⟨⟨a, ha⟩, a, ha, hq⟩⟩
  clear hordered hmem
  induction hat with
  | nil => exact ⟨[], .slnil, by simp, .nil⟩
  | @cons p a ps as ha _ ih =>
    obtain ⟨kept, hsublist, hkeptmem, hkeptat⟩ := ih
    cases hq : q a with
    | true =>
      rw [List.filter_cons_of_pos hq]
      refine ⟨p :: kept, hsublist.cons_cons p, fun x => ?_, .cons ⟨ha, hq⟩ hkeptat⟩
      rw [List.mem_cons, List.mem_cons, hkeptmem]
      constructor
      · rintro (rfl | ⟨hx, hany⟩)
        · exact ⟨.inl rfl, a, ha, hq⟩
        · exact ⟨.inr hx, hany⟩
      · rintro ⟨rfl | hx, hany⟩
        · exact .inl rfl
        · exact .inr ⟨hx, hany⟩
    | false =>
      rw [List.filter_cons_of_neg (by simp [hq])]
      refine ⟨kept, hsublist.cons p, fun x => ?_, hkeptat⟩
      rw [List.mem_cons, hkeptmem]
      constructor
      · rintro ⟨hx, hany⟩
        exact ⟨.inr hx, hany⟩
      · rintro ⟨rfl | hx, b, hb, hqb⟩
        · rw [hunique _ _ _ hb ha, hq] at hqb
          cases hqb
        · exact ⟨hx, b, hb, hqb⟩

/-- The places inside of a place. -/
def under (p : ι) (qs : List κ) : List (ι ×ₗ κ) := qs.map fun q => toLex (p, q)

omit [LT ι] [LT κ] in
theorem mem_under {p : ι} {qs : List κ} {x : ι ×ₗ κ} :
    x ∈ under p qs ↔ (ofLex x).1 = p ∧ (ofLex x).2 ∈ qs := by
  constructor
  · intro hx
    obtain ⟨q, hq, rfl⟩ := List.mem_map.mp hx
    exact ⟨rfl, hq⟩
  · rintro ⟨rfl, hq⟩
    exact List.mem_map.mpr ⟨_, hq, rfl⟩

/-- **What is in the lists in a list** is in the order of both places. -/
theorem flatMap (h : InPlaces At l) (hunique : ∀ p a b, At p a → At p b → a = b)
    {At' : α → κ → β → Prop} {f : α → List β} (hf : ∀ a, InPlaces (At' a) (f a)) :
    InPlaces (fun (p : ι ×ₗ κ) b => ∃ a, At (ofLex p).1 a ∧ At' a (ofLex p).2 b) (l.flatMap f) := by
  obtain ⟨places, hordered, hmem, hat⟩ := h
  choose inner hinner using hf
  -- the places that are left, and the elements at them, go down together
  suffices hall : ∀ (ps : List ι) (as : List α), ps.Pairwise (· < ·) → List.Forall₂ At ps as →
      ∃ all : List (ι ×ₗ κ), all.Pairwise (· < ·) ∧
        (∀ x, x ∈ all ↔ (ofLex x).1 ∈ ps ∧ ∃ a, At (ofLex x).1 a ∧ (ofLex x).2 ∈ inner a) ∧
        List.Forall₂ (fun x b => ∃ a, At (ofLex x).1 a ∧ At' a (ofLex x).2 b) all
          (as.flatMap f) by
    obtain ⟨all, hallordered, hallmem, hallat⟩ := hall places l hordered hat
    refine ⟨all, hallordered, ?_, hallat⟩
    intro x
    rw [hallmem]
    constructor
    · rintro ⟨-, a, ha, hq⟩
      obtain ⟨b, hb⟩ := ((hinner a).2.1 _).mp hq
      exact ⟨b, a, ha, hb⟩
    · rintro ⟨b, a, ha, hb⟩
      exact ⟨(hmem _).mpr ⟨a, ha⟩, a, ha, ((hinner a).2.1 _).mpr ⟨b, hb⟩⟩
  intro ps as hps hat
  induction hat with
  | nil => exact ⟨[], .nil, by simp, .nil⟩
  | @cons p a ps as ha _ ih =>
    obtain ⟨hp, hps⟩ := List.pairwise_cons.mp hps
    obtain ⟨all, hallordered, hallmem, hallat⟩ := ih hps
    refine ⟨under p (inner a) ++ all, List.pairwise_append.mpr ⟨?_, hallordered, ?_⟩, ?_, ?_⟩
    · exact List.pairwise_map.mpr ((hinner a).1.imp fun hlt => Prod.Lex.right _ hlt)
    · intro x hx y hy
      rw [mem_under] at hx
      have hlt := hp _ ((hallmem y).mp hy).1
      rw [← hx.1] at hlt
      exact Prod.Lex.left _ _ hlt
    · intro x
      rw [List.mem_append, mem_under, hallmem, List.mem_cons]
      constructor
      · rintro (⟨rfl, hq⟩ | ⟨hin, hrest⟩)
        · exact ⟨.inl rfl, a, ha, hq⟩
        · exact ⟨.inr hin, hrest⟩
      · rintro ⟨rfl | hin, b, hb, hq⟩
        · obtain rfl := hunique _ _ _ ha hb
          exact .inl ⟨rfl, hq⟩
        · exact .inr ⟨hin, b, hb, hq⟩
    · rw [List.flatMap_cons]
      refine List.rel_append ?_ hallat
      exact List.forall₂_map_left_iff.mpr ((hinner a).2.2.imp fun q b hb => ⟨a, ha, hb⟩)

end InPlaces

end PartSourcing
