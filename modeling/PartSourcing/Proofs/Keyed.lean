import Mathlib.Data.List.Nodup

/-!
# Lists of what has a key

Records and rows are kept in lists in which no key stands twice, and one is put in by taking the
place of what has its key, or the last place.  **So a list with such keys is a table**: what is
put in is there, and with it everything else that has another key (`mem_place`, `filter_place`).
The order of the keys is the order of their first writing (`keys_place`).
-/

namespace PartSourcing.Keyed

variable {α κ : Type} [DecidableEq κ] (key : α → κ)

/-- A list with something put in for what has its key, or at the end. -/
def place (x : α) : List α → List α
  | [] => [x]
  | y :: ys => if key y = key x then x :: ys else y :: place x ys

theorem keys_place (x : α) (l : List α) : (place key x l).map key =
    if key x ∈ l.map key then l.map key else l.map key ++ [key x] := by
  induction l with
  | nil => rfl
  | cons y ys ih =>
    unfold place
    by_cases hy : key y = key x
    · rw [if_pos hy, if_pos (by simp [hy]), List.map_cons, List.map_cons, hy]
    · have hmem : key x ∈ (y :: ys).map key ↔ key x ∈ ys.map key := by
        rw [List.map_cons, List.mem_cons, or_iff_right (Ne.symm hy)]
      rw [if_neg hy, List.map_cons, ih, if_congr hmem rfl rfl]
      split <;> rfl

variable {key} {l : List α}

theorem nodup_keys_place (h : (l.map key).Nodup) (x : α) :
    ((place key x l).map key).Nodup := by
  rw [keys_place]
  split
  · exact h
  · rename_i hx
    exact List.nodup_append.mpr ⟨h, List.nodup_singleton _, fun a ha b hb hab =>
      hx (List.mem_singleton.mp hb ▸ hab ▸ ha)⟩

/-- **What is put in is there, and so is whatever has another key.** -/
theorem mem_place (h : (l.map key).Nodup) {x y : α} :
    y ∈ place key x l ↔ y = x ∨ y ∈ l ∧ key y ≠ key x := by
  induction l with
  | nil => simp [place]
  | cons z zs ih =>
    obtain ⟨hz, hzs⟩ := List.nodup_cons.mp h
    unfold place
    by_cases hzx : key z = key x
    · -- nothing behind the replaced one has its key
      have hrest : y ∈ zs → key y ≠ key x := fun hy hyx =>
        hz (hzx ▸ hyx ▸ List.mem_map_of_mem hy)
      rw [if_pos hzx, List.mem_cons, List.mem_cons]
      constructor
      · rintro (rfl | hy)
        · exact Or.inl rfl
        · exact Or.inr ⟨Or.inr hy, hrest hy⟩
      · rintro (rfl | ⟨rfl | hy, hyx⟩)
        · exact Or.inl rfl
        · exact absurd hzx hyx
        · exact Or.inr hy
    · rw [if_neg hzx, List.mem_cons, List.mem_cons, ih hzs]
      constructor
      · rintro (rfl | rfl | ⟨hy, hyx⟩)
        · exact Or.inr ⟨Or.inl rfl, hzx⟩
        · exact Or.inl rfl
        · exact Or.inr ⟨Or.inr hy, hyx⟩
      · rintro (rfl | ⟨rfl | hy, hyx⟩)
        · exact Or.inr (Or.inl rfl)
        · exact Or.inl rfl
        · exact Or.inr (Or.inr ⟨hy, hyx⟩)

/-- **A key picks out one element** of a list whose keys are all different. -/
theorem filter_key_eq (h : (l.map key).Nodup) {x : α} (hx : x ∈ l) :
    (l.filter fun y => key y = key x) = [x] := by
  induction l with
  | nil => exact absurd hx List.not_mem_nil
  | cons z zs ih =>
    obtain ⟨hz, hzs⟩ := List.nodup_cons.mp h
    rcases List.mem_cons.mp hx with rfl | hx
    · -- nothing behind the first has its key
      have hrest : (zs.filter fun y => key y = key x) = [] :=
        List.filter_eq_nil_iff.mpr fun y hy hyx =>
          hz (of_decide_eq_true hyx ▸ List.mem_map_of_mem hy)
      rw [List.filter_cons_of_pos (by simp), hrest]
    · have hzx : key z ≠ key x := fun he => hz (he ▸ List.mem_map_of_mem hx)
      rw [List.filter_cons_of_neg (by simpa using hzx)]
      exact ih hzs hx

/-- **What is put in shows only under its key**: of the elements that are picked out by their keys
it takes one place, or none. -/
theorem filter_place (p : κ → Bool) (x : α) (l : List α) :
    (place key x l).filter (fun y => p (key y)) =
      if p (key x) then place key x (l.filter fun y => p (key y))
      else l.filter fun y => p (key y) := by
  induction l with
  | nil => simp [place, List.filter_cons]
  | cons y ys ih =>
    by_cases hyx : key y = key x
    · by_cases hx : p (key x) = true <;> simp [place, hyx, hx]
    · -- the element stays where it is, whether or not the one put in shows
      by_cases hy : p (key y) = true
      · by_cases hx : p (key x) = true <;> simp [place, hyx, hy, ih, hx]
      · simp [place, hyx, hy, ih]

/-! ## Several put in one after the other -/

theorem nodup_keys_foldl_place (h : (l.map key).Nodup) (xs : List α) :
    ((xs.foldl (fun l x => place key x l) l).map key).Nodup := by
  induction xs generalizing l with
  | nil => exact h
  | cons x xs ih => exact ih (nodup_keys_place h x)

/-- What is picked out by its key afterwards was picked out before, or was put in. -/
theorem filter_foldl_place (p : κ → Bool) (xs l : List α) :
    (xs.foldl (fun l x => place key x l) l).filter (fun y => p (key y)) =
      (xs.filter fun y => p (key y)).foldl (fun l x => place key x l)
        (l.filter fun y => p (key y)) := by
  induction xs generalizing l with
  | nil => rfl
  | cons x xs ih =>
    rw [List.foldl_cons, ih, filter_place]
    by_cases hx : p (key x) = true
    · rw [if_pos hx, List.filter_cons, if_pos hx, List.foldl_cons]
    · rw [if_neg hx, List.filter_cons, if_neg hx]

/-- **Different keys do not get in each other's way.** -/
theorem mem_foldl_place (h : (l.map key).Nodup) {xs : List α} (hxs : (xs.map key).Nodup) {y : α} :
    y ∈ xs.foldl (fun l x => place key x l) l ↔ y ∈ xs ∨ y ∈ l ∧ key y ∉ xs.map key := by
  induction xs generalizing l with
  | nil => simp
  | cons x xs ih =>
    obtain ⟨hx, hxs⟩ := List.nodup_cons.mp hxs
    rw [List.foldl_cons, ih (nodup_keys_place h x) hxs, mem_place h, List.mem_cons, List.map_cons,
      List.mem_cons, not_or]
    constructor
    · rintro (hy | ⟨rfl | ⟨hy, hyx⟩, hne⟩)
      · exact Or.inl (Or.inr hy)
      · exact Or.inl (Or.inl rfl)
      · exact Or.inr ⟨hy, hyx, hne⟩
    · rintro ((rfl | hy) | ⟨hy, hyx, hne⟩)
      · exact Or.inr ⟨Or.inl rfl, hx⟩
      · exact Or.inl hy
      · exact Or.inr ⟨Or.inr ⟨hy, hyx⟩, hne⟩

end PartSourcing.Keyed
