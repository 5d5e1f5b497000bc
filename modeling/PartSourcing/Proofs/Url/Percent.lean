import PartSourcing.Proofs.Text.Utf8
import PartSourcing.Url.Percent

/-!
# Escapes read back

An escape is read as the octet it stands for, so a text may be escaped wherever a place demands it
and keeps its meaning.  What escapes are written with is never escaped itself (`SparesEscapes`), and
so a text that was escaped for a place has nothing left in it that is escaped there
(`SparesEscapes.of_mem_escape`).
-/

namespace PartSourcing.Url

open PartSourcing.Text

/-- What holds of the first 128 code points holds of every character of ASCII. -/
theorem forall_ascii {P : Char → Prop} (h : ∀ n < 128, P (Char.ofNat n)) {c : Char}
    (hc : c.toNat < 128) : P c :=
  Char.ofNat_toNat c ▸ h c.toNat hc

/-! ## Hexadecimal digits -/

theorem hexValue?_hexDigit : ∀ n < 16, hexValue? (hexDigit n) = some n := by decide

theorem toNat_lt_of_isSome_hexValue? {c : Char} (h : (hexValue? c).isSome = true) :
    c.toNat < 128 := by
  unfold hexValue? at h
  split_ifs at h with hdigit hlower hupper
  · exact Nat.lt_of_le_of_lt (Char.isDigit_iff_toNat.mp hdigit).2 (by decide)
  · exact Nat.lt_of_le_of_lt hlower.2 (by decide)
  · exact Nat.lt_of_le_of_lt hupper.2 (by decide)
  · simp at h

/-! ## Octets behind escapes -/

/-- Whether a percent sign before the text starts an escape. -/
def completesEscape : List Char → Bool
  | a :: b :: _ => (hexValue? a).isSome && (hexValue? b).isSome
  | _ => false

theorem completesEscape_iff {s : List Char} : completesEscape s = true ↔
    ∃ a b t, s = a :: b :: t ∧ (hexValue? a).isSome = true ∧ (hexValue? b).isSome = true := by
  match s with
  | [] => simp [completesEscape]
  | [a] => simp [completesEscape]
  | a :: b :: t => simp [completesEscape]

/-- Any other character stands for its octets. -/
theorem unescape_cons {c : Char} (h : c ≠ '%') (s : List Char) :
    unescape (c :: s) = utf8 [c] ++ unescape s := by
  rw [unescape]
  intro a b rest hc
  exact absurd hc h

theorem unescape_percent {s : List Char} (h : completesEscape s = false) :
    unescape ('%' :: s) = utf8 ['%'] ++ unescape s := by
  match s with
  | [] | [_] => simp [unescape]
  | a :: b :: rest =>
    cases ha : hexValue? a with
    | none => simp [unescape, ha]
    | some high =>
      cases hb : hexValue? b with
      | none => simp [unescape, ha, hb]
      | some low => simp [completesEscape, ha, hb] at h

theorem unescape_digits {a b : Char} {high low : Nat} (ha : hexValue? a = some high)
    (hb : hexValue? b = some low) (s : List Char) :
    unescape ('%' :: a :: b :: s) = UInt8.ofNat (16 * high + low) :: unescape s := by
  simp [unescape, ha, hb]

/-- **An escape is read as its octet.** -/
theorem unescape_escapeOctet (b : UInt8) (s : List Char) :
    unescape (escapeOctet b ++ s) = b :: unescape s := by
  have hb := b.toNat_lt
  have hhigh := hexValue?_hexDigit (b.toNat / 16) (by omega)
  have hlow := hexValue?_hexDigit (b.toNat % 16) (by omega)
  have hoctet : 16 * (b.toNat / 16) + b.toNat % 16 = b.toNat := by omega
  rw [escapeOctet, List.cons_append, List.cons_append, List.cons_append, List.nil_append,
    unescape_digits hhigh hlow, hoctet, UInt8.ofNat_toNat]

theorem unescape_flatMap_escapeOctet (bs : List UInt8) (s : List Char) :
    unescape (bs.flatMap escapeOctet ++ s) = bs ++ unescape s := by
  induction bs with
  | nil => rfl
  | cons b bs ih =>
    rw [List.flatMap_cons, List.append_assoc, unescape_escapeOctet, ih, List.cons_append]

/-- A text without a percent sign is read as it is. -/
theorem decodeUtf8_unescape {s : List Char} (h : '%' ∉ s) : decodeUtf8 (unescape s) = s := by
  have hoctets : unescape s = utf8 s := by
    induction s with
    | nil => rfl
    | cons c s ih =>
      rw [List.mem_cons, not_or] at h
      rw [unescape_cons (Ne.symm h.1), ih h.2, ← utf8_cons]
  rw [hoctets, decodeUtf8_utf8]

/-! ## What is never escaped -/

/-- **A class of characters without those that escapes are written with.** -/
structure SparesEscapes (bad : Char → Bool) : Prop where
  percent : bad '%' = false
  hex : ∀ c, (hexValue? c).isSome = true → bad c = false

theorem SparesEscapes.of_ascii {bad : Char → Bool} (hpercent : bad '%' = false)
    (h : ∀ n < 128, (hexValue? (Char.ofNat n)).isSome = true → bad (Char.ofNat n) = false) :
    SparesEscapes bad where
  percent := hpercent
  hex _ hc := forall_ascii (P := fun c => (hexValue? c).isSome = true → bad c = false) h
    (toNat_lt_of_isSome_hexValue? hc) hc

theorem sparesEscapes_inFragment : SparesEscapes inFragment := .of_ascii (by decide) (by decide)

theorem sparesEscapes_inPath : SparesEscapes inPath := .of_ascii (by decide) (by decide)

theorem sparesEscapes_inUserInfo : SparesEscapes inUserInfo := .of_ascii (by decide) (by decide)

theorem sparesEscapes_inSpecialQuery : SparesEscapes inSpecialQuery :=
  .of_ascii (by decide) (by decide)

variable {bad : Char → Bool}

/-- What is escaped becomes at least one escape. -/
theorem exists_escapeChar {c : Char} (h : bad c = true) : ∃ t, escapeChar bad c = '%' :: t := by
  rw [escapeChar, if_pos h]
  cases hc : utf8 [c] with
  | nil => simp [utf8] at hc
  | cons b bs => exact ⟨_, rfl⟩

theorem escapeChar_of_not_bad {c : Char} (h : ¬bad c = true) : escapeChar bad c = [c] := if_neg h

theorem escape_eq_nil_iff {s : List Char} : escape bad s = [] ↔ s = [] := by
  cases s with
  | nil => simp [escape]
  | cons c s =>
    by_cases hc : bad c = true
    · obtain ⟨t, ht⟩ := exists_escapeChar hc
      simp [escape, ht]
    · simp [escape, escapeChar_of_not_bad hc]

theorem SparesEscapes.of_mem_escapeOctet (h : SparesEscapes bad) {b : UInt8} {c : Char}
    (hc : c ∈ escapeOctet b) : bad c = false := by
  have hb := b.toNat_lt
  have hdigit (n : Nat) (hn : n < 16) : bad (hexDigit n) = false :=
    h.hex _ (by rw [hexValue?_hexDigit n hn]; rfl)
  simp only [escapeOctet, List.mem_cons, List.not_mem_nil, or_false] at hc
  rcases hc with rfl | rfl | rfl
  · exact h.percent
  · exact hdigit _ (by omega)
  · exact hdigit _ (by omega)

/-- **Nothing is left to escape** in a text that was escaped. -/
theorem SparesEscapes.of_mem_escape (h : SparesEscapes bad) {s : List Char} {c : Char}
    (hc : c ∈ escape bad s) : bad c = false := by
  obtain ⟨d, -, hc⟩ := List.mem_flatMap.mp hc
  by_cases hd : bad d = true
  · rw [escapeChar, if_pos hd] at hc
    obtain ⟨b, -, hc⟩ := List.mem_flatMap.mp hc
    exact h.of_mem_escapeOctet hc
  · rw [escapeChar_of_not_bad hd, List.mem_singleton] at hc
    exact hc ▸ (Bool.not_eq_true _).mp hd

/-- A text with nothing to escape stays as it is. -/
theorem escape_eq_self {s : List Char} (h : ∀ c ∈ s, bad c = false) : escape bad s = s := by
  induction s with
  | nil => rfl
  | cons c s ih =>
    have hc : ¬bad c = true := by simp [h c List.mem_cons_self]
    rw [escape, List.flatMap_cons, escapeChar_of_not_bad hc]
    exact congrArg (c :: ·) (ih fun d hd => h d (List.mem_cons_of_mem _ hd))

end PartSourcing.Url
