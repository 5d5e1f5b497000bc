import PartSourcing.Text.Blank
import PartSourcing.Text.Case

/-!
# Rows of case tables

A mapping is settled after one pass if no row and no listed sequence speaks of a code point that
another one maps to.  Checking that code point by code point would look up every image among all
rows.  Instead two rows are compared by their bounds and their parity alone (`Row.avoids`), and what
is not a row is compared with the bounds of the images (`Row.stays`).  These checks are closed, and
are evaluated; **what they say of every image** is `unmapped_of_covers`, and where an image comes
from is `mapping_cases`.
-/

namespace PartSourcing.Text

namespace CaseTable

/-- The first code point that a row maps to. -/
def Row.imageFirst (r : Row) : Nat := (Int.ofNat r.first + r.shift).toNat

/-- The last code point that a row maps to. -/
def Row.imageLast (r : Row) : Nat := (Int.ofNat r.last + r.shift).toNat

/-- Whether bounds and parity show that a row covers nothing another row maps to. -/
def Row.avoids (r q : Row) : Bool :=
  Nat.blt r.imageLast q.first || Nat.blt q.last r.imageFirst ||
    (Nat.beq (r.step % 2) 0 && Nat.beq (q.step % 2) 0 &&
      !Nat.beq (r.imageFirst % 2) (q.first % 2)) ||
    (Nat.beq r.first r.last && !q.covers r.imageFirst)

/-- Whether the images of a row lie outside a run of code points. -/
def Row.stays (r : Row) (run : Nat × Nat) : Bool :=
  Nat.blt r.imageLast run.1 || Nat.blt run.2 r.imageFirst

/-! ## Images of rows -/

theorem Row.covers_iff (r : Row) (n : Nat) :
    r.covers n = true ↔ r.first ≤ n ∧ n ≤ r.last ∧ (n - r.first) % r.step = 0 := by
  simp [Row.covers, and_assoc]

/-- The image of a code point that a row covers. -/
theorem Row.image_bounds {r : Row} {n : Nat} (h0 : 0 ≤ Int.ofNat r.first + r.shift)
    (hn : r.covers n = true) :
    r.imageFirst ≤ (Int.ofNat n + r.shift).toNat ∧ (Int.ofNat n + r.shift).toNat ≤ r.imageLast ∧
      (Int.ofNat n + r.shift).toNat - r.imageFirst = n - r.first := by
  obtain ⟨h1, h2, -⟩ := (r.covers_iff n).mp hn
  simp only [Row.imageFirst, Row.imageLast, Int.ofNat_eq_natCast] at h0 ⊢
  omega

theorem Row.not_covers_of_avoids {r q : Row} {n : Nat}
    (h0 : 0 ≤ Int.ofNat r.first + r.shift) (hn : r.covers n = true) (h : r.avoids q = true) :
    q.covers (Int.ofNat n + r.shift).toNat = false := by
  obtain ⟨hlo, hhi, hd⟩ := Row.image_bounds h0 hn
  generalize hm : (Int.ofNat n + r.shift).toNat = m at hlo hhi hd ⊢
  obtain ⟨h1, h2, h3⟩ := (r.covers_iff n).mp hn
  rw [← Bool.not_eq_true, Row.covers_iff]
  rintro ⟨hq1, hq2, hq3⟩
  simp only [Row.avoids, Bool.or_eq_true, Bool.and_eq_true, Nat.blt_eq, Bool.not_eq_true',
    Nat.beq_eq, ← Bool.not_eq_true] at h
  rcases h with ((h | h) | ⟨⟨hr, hq⟩, hp⟩) | ⟨hr, hc⟩
  · omega
  · omega
  · -- Both strides are even, so each of the two differences is, and parity tells them apart.
    have he : (n - r.first) % 2 = 0 := by
      rw [← Nat.mod_mod_of_dvd _ (Nat.dvd_of_mod_eq_zero hr), h3]
    have hf : (m - q.first) % 2 = 0 := by
      rw [← Nat.mod_mod_of_dvd _ (Nat.dvd_of_mod_eq_zero hq), hq3]
    omega
  · apply hc
    have : m = r.imageFirst := by omega
    exact (q.covers_iff _).mpr (this ▸ ⟨hq1, hq2, hq3⟩)

theorem toNat_ofNat {n : Nat} (h : n.isValidChar) : (Char.ofNat n).toNat = n := by
  rw [Char.ofNat, dif_pos h]
  rfl

theorem outside_of_stays {r : Row} {m : Nat} (hlo : r.imageFirst ≤ m) (hhi : m ≤ r.imageLast)
    {run : Nat × Nat} (h : r.stays run = true) : m < run.1 ∨ run.2 < m := by
  simp only [Row.stays, Bool.or_eq_true, Nat.blt_eq] at h
  omega

/-! ## Images of tables -/

/-- **What a table leaves alone**: a character that is no blank, that no row covers and that has no
sequence. -/
structure Unmapped (sequences : List (Nat × List Nat)) (rows : List Row) (n : Nat) : Prop where
  scalar : n.isValidChar
  uncovered : ∀ r ∈ rows, r.covers n = false
  unlisted : sequences.lookup n = none
  notBlank : isBlank (Char.ofNat n) = false

/-- The code points that are no characters, or blank ones. -/
def noLetters : List (Nat × Nat) :=
  [(0xD800, 0xDFFF), (0x09, 0x0D), (0x20, 0x20), (0x85, 0x85), (0xA0, 0xA0), (0x1680, 0x1680),
    (0x2000, 0x200A), (0x2028, 0x2029), (0x202F, 0x202F), (0x205F, 0x205F), (0x3000, 0x3000)]

section Images

variable {sequences : List (Nat × List Nat)} {rows : List Row} {runs : List (Nat × Nat)} {n : Nat}

/-- What a table leaves alone stays as it is. -/
theorem Unmapped.mapping_eq (h : Unmapped sequences rows n) :
    mapping sequences rows n = [Char.ofNat n] := by
  rw [mapping, h.unlisted, shifted, List.find?_eq_none.mpr]
  intro r hr
  rw [h.uncovered r hr]
  exact Bool.false_ne_true

/-- A character outside of some runs is no blank. -/
theorem isBlank_of_outside (hscalar : n.isValidChar)
    (hout : ∀ run ∈ noLetters, n < run.1 ∨ run.2 < n) : isBlank (Char.ofNat n) = false := by
  simp only [noLetters, List.forall_mem_cons, List.not_mem_nil, false_implies,
    implies_true] at hout
  rw [isBlank, toNat_ofNat hscalar]
  split <;> simp only [Bool.or_eq_false_iff, Bool.and_eq_false_iff, beq_eq_false_iff_ne,
    decide_eq_false_iff_not] <;> omega

/-- **A table leaves the images of its rows alone**, and they lie outside of the runs that the rows
stay out of. -/
theorem unmapped_of_covers (havoid : (rows.all fun r => rows.all r.avoids) = true)
    (hstay : (rows.all fun r => decide (0 ≤ Int.ofNat r.first + r.shift) &&
      Nat.blt r.imageLast 0x110000 && runs.all r.stays) = true)
    (hruns : ∀ run ∈ noLetters ++ sequences.map fun s => (s.1, s.1), run ∈ runs)
    {r : Row} (hr : r ∈ rows) (hn : r.covers n = true) :
    Unmapped sequences rows (Int.ofNat n + r.shift).toNat ∧
      ∀ run ∈ runs, (Int.ofNat n + r.shift).toNat < run.1 ∨
        run.2 < (Int.ofNat n + r.shift).toNat := by
  have hstay := List.all_eq_true.mp hstay r hr
  simp only [Bool.and_eq_true, decide_eq_true_eq, Nat.blt_eq, List.all_eq_true] at hstay
  obtain ⟨⟨h0, hmax⟩, hstay⟩ := hstay
  have havoid := List.all_eq_true.mp (List.all_eq_true.mp havoid r hr)
  obtain ⟨hlo, hhi, -⟩ := Row.image_bounds h0 hn
  have hcov := fun q hq => Row.not_covers_of_avoids h0 hn (havoid q hq)
  generalize (Int.ofNat n + r.shift).toNat = m at hlo hhi hcov ⊢
  have hout : ∀ run ∈ runs, m < run.1 ∨ run.2 < m :=
    fun run h => outside_of_stays hlo hhi (hstay run h)
  have hletter : ∀ run ∈ noLetters, m < run.1 ∨ run.2 < m :=
    fun run h => hout run (hruns run (List.mem_append_left _ h))
  have hscalar : m.isValidChar := by
    have := hletter (0xD800, 0xDFFF) List.mem_cons_self
    unfold Nat.isValidChar
    omega
  refine ⟨⟨hscalar, hcov, ?_, isBlank_of_outside hscalar hletter⟩, hout⟩
  rw [List.lookup_eq_none_iff]
  intro s hs
  have := hout (s.1, s.1) (hruns _ (List.mem_append_right _ (List.mem_map_of_mem hs)))
  rw [bne_iff_ne]
  omega

/-- **Where an image comes from**: a listed sequence, a row, or the code point itself. -/
theorem mapping_cases (sequences : List (Nat × List Nat)) (rows : List Row) (n : Nat) :
    mapping sequences rows n = [Char.ofNat n] ∨
      (∃ s ∈ sequences, mapping sequences rows n = s.2.map Char.ofNat) ∨
      ∃ r ∈ rows, r.covers n = true ∧
        mapping sequences rows n = [Char.ofNat (Int.ofNat n + r.shift).toNat] := by
  cases hl : sequences.lookup n with
  | some ns =>
    obtain ⟨l₁, l₂, hs, -⟩ := List.lookup_eq_some_iff.mp hl
    refine .inr (.inl ⟨(n, ns), hs ▸ List.mem_append_right _ List.mem_cons_self, ?_⟩)
    rw [mapping, hl]
  | none =>
    cases hf : rows.find? (·.covers n) with
    | none =>
      left
      rw [mapping, hl, shifted, hf]
    | some r =>
      have hcov := List.find?_some hf
      refine .inr (.inr ⟨r, List.mem_of_find?_eq_some hf, hcov, ?_⟩)
      rw [mapping, hl, shifted, hf]

end Images

end CaseTable

end PartSourcing.Text
