import Mathlib.Tactic.Common
import PartSourcing.Text.Utf8

/-!
# Octets that are a text

The decoder gives back every text that was encoded (`decodeUtf8_utf8`).  A character has one octet
to four.  The first one tells how many follow and holds the highest bits, and each of the others
adds six more.  What the decoder excludes by the range of the second octet is no character or has a
shorter form, so that no encoding is refused.
-/

namespace PartSourcing.Text

theorem utf8_append (s t : List Char) : utf8 (s ++ t) = utf8 s ++ utf8 t :=
  List.flatMap_append

theorem utf8_cons (c : Char) (s : List Char) : utf8 (c :: s) = utf8 [c] ++ utf8 s :=
  utf8_append [c] s

theorem toNat_ofNat {n : Nat} (h : n < 256) : (UInt8.ofNat n).toNat = n :=
  UInt8.toNat_ofNat_of_lt' h

/-! ## Octets after the first -/

section Continuing

variable {u : Unfinished} {n : Nat}

theorem mem_range (hn : n < 256) (hlow : u.low.toNat ≤ n) (hhigh : n ≤ u.high.toNat) :
    (u.low ≤ UInt8.ofNat n && UInt8.ofNat n ≤ u.high) = true := by
  rw [Bool.and_eq_true, decide_eq_true_eq, decide_eq_true_eq, UInt8.le_iff_toNat_le,
    UInt8.le_iff_toNat_le, toNat_ofNat hn]
  exact ⟨hlow, hhigh⟩

/-- The last octet of a character completes it. -/
theorem decodeFrom_last {v : Nat} (h : u.lacking = 1) (hn : n < 256) (hlow : u.low.toNat ≤ n)
    (hhigh : n ≤ u.high.toNat) (hv : u.bits * 64 + (n - 0x80) = v) (rest : List UInt8) :
    decodeFrom (some u) (UInt8.ofNat n :: rest) = Char.ofNat v :: decodeFrom none rest := by
  have hlast : u.lacking ≤ 1 := by omega
  simp only [decodeFrom, mem_range hn hlow hhigh, toNat_ofNat hn, hlast, if_true, hv]

/-- Any other octet adds its bits. -/
theorem decodeFrom_more (h : 1 < u.lacking) (hn : n < 256) (hlow : u.low.toNat ≤ n)
    (hhigh : n ≤ u.high.toNat) (rest : List UInt8) :
    decodeFrom (some u) (UInt8.ofNat n :: rest) =
      decodeFrom (some ⟨u.bits * 64 + (n - 0x80), u.lacking - 1, 0x80, 0xBF⟩) rest := by
  have hmore : ¬u.lacking ≤ 1 := by omega
  simp only [decodeFrom, mem_range hn hlow hhigh, toNat_ofNat hn, hmore, if_true, if_false]

end Continuing

/-! ## Octets that start a longer form -/

variable {n : Nat}

theorem decodeFrom_opening {u : Unfinished} (h : Opening.of (UInt8.ofNat n) = .unfinished u)
    (rest : List UInt8) :
    decodeFrom none (UInt8.ofNat n :: rest) = decodeFrom (some u) rest := by
  simp only [decodeFrom, decodeFrom.start, h]

theorem Opening.of_two (hlow : 0xC2 ≤ n) (hhigh : n < 0xE0) :
    Opening.of (UInt8.ofNat n) = .unfinished ⟨n - 0xC0, 1, 0x80, 0xBF⟩ := by
  have hn : (UInt8.ofNat n).toNat = n := toNat_ofNat (by omega)
  simp only [Opening.of, hn]
  rw [if_neg (by omega), if_neg (by omega), if_pos hhigh]

/-- The second octet of three is above the shorter forms and keeps clear of the surrogates. -/
theorem Opening.of_three (hlow : 0xE0 ≤ n) (hhigh : n < 0xF0) :
    Opening.of (UInt8.ofNat n) = .unfinished ⟨n - 0xE0, 2,
      if n = 0xE0 then 0xA0 else 0x80, if n = 0xED then 0x9F else 0xBF⟩ := by
  have hn : (UInt8.ofNat n).toNat = n := toNat_ofNat (by omega)
  simp only [Opening.of, hn]
  rw [if_neg (by omega), if_neg (by omega), if_neg (by omega)]
  by_cases h0 : n = 0xE0
  · simp [h0]
  by_cases hD : n = 0xED
  · simp [hD]
  simp [h0, hD, hhigh]

/-- The second octet of four is above the shorter forms and below the last code point. -/
theorem Opening.of_four (hlow : 0xF0 ≤ n) (hhigh : n ≤ 0xF4) :
    Opening.of (UInt8.ofNat n) = .unfinished ⟨n - 0xF0, 3,
      if n = 0xF0 then 0x90 else 0x80, if n = 0xF4 then 0x8F else 0xBF⟩ := by
  have hn : (UInt8.ofNat n).toNat = n := toNat_ofNat (by omega)
  simp only [Opening.of, hn]
  rw [if_neg (by omega), if_neg (by omega), if_neg (by omega), if_neg (by omega),
    if_neg (by omega), if_neg (by omega)]
  by_cases h0 : n = 0xF0
  · simp [h0]
  by_cases h4 : n = 0xF4
  · simp [h4]
  rw [if_neg h0, if_pos (by omega), if_neg h0, if_neg h4]

/-! ## Whole characters -/

variable {v : Nat} (rest : List UInt8)

theorem decodeFrom_one (h : v < 0x80) :
    decodeFrom none (UInt8.ofNat v :: rest) = Char.ofNat v :: decodeFrom none rest := by
  have hv : (UInt8.ofNat v).toNat = v := toNat_ofNat (by omega)
  simp only [decodeFrom, decodeFrom.start, Opening.of, hv, h, if_true]

theorem decodeFrom_two (hlow : 0x80 ≤ v) (hhigh : v < 0x800) :
    decodeFrom none (UInt8.ofNat (v / 64 % 32 + 192) :: UInt8.ofNat (v % 64 + 128) :: rest) =
      Char.ofNat v :: decodeFrom none rest := by
  rw [decodeFrom_opening (Opening.of_two (by omega) (by omega))]
  exact decodeFrom_last rfl (by omega) (by simp) (by simp; omega) (by dsimp only; omega) rest

theorem decodeFrom_three (hlow : 0x800 ≤ v) (hhigh : v < 0x10000)
    (hv : v < 0xD800 ∨ 0xDFFF < v) :
    decodeFrom none (UInt8.ofNat (v / 4096 % 16 + 224) :: UInt8.ofNat (v / 64 % 64 + 128) ::
      UInt8.ofNat (v % 64 + 128) :: rest) = Char.ofNat v :: decodeFrom none rest := by
  rw [decodeFrom_opening (Opening.of_three (by omega) (by omega))]
  refine (decodeFrom_more (by simp) (by omega) ?_ ?_ _).trans ?_
  · dsimp only
    split <;> simp
    omega
  · dsimp only
    split <;> (simp; omega)
  · exact decodeFrom_last rfl (by omega) (by simp) (by simp; omega) (by dsimp only; omega) rest

theorem decodeFrom_four (hlow : 0x10000 ≤ v) (hhigh : v < 0x110000) :
    decodeFrom none (UInt8.ofNat (v / 262144 % 8 + 240) :: UInt8.ofNat (v / 4096 % 64 + 128) ::
      UInt8.ofNat (v / 64 % 64 + 128) :: UInt8.ofNat (v % 64 + 128) :: rest) =
      Char.ofNat v :: decodeFrom none rest := by
  rw [decodeFrom_opening (Opening.of_four (by omega) (by omega))]
  refine (decodeFrom_more (by simp) (by omega) ?_ ?_ _).trans ?_
  · dsimp only
    split <;> simp
    omega
  · dsimp only
    split <;> (simp; omega)
  · rw [decodeFrom_more (by simp) (by omega) (by simp) (by simp; omega)]
    exact decodeFrom_last rfl (by omega) (by simp) (by simp; omega) (by dsimp only; omega) rest

/-- **The octets of a character decode to it.** -/
theorem decodeFrom_utf8EncodeChar (c : Char) :
    decodeFrom none (String.utf8EncodeChar c ++ rest) = c :: decodeFrom none rest := by
  have hvalid : c.val.toNat < 0xD800 ∨ 0xDFFF < c.val.toNat ∧ c.val.toNat < 0x110000 := c.valid
  have hc : Char.ofNat c.val.toNat = c := Char.ofNat_toNat c
  conv_rhs => rw [← hc]
  unfold String.utf8EncodeChar
  dsimp only
  split
  · exact decodeFrom_one rest (by omega)
  split
  · exact decodeFrom_two rest (by omega) (by omega)
  split
  · exact decodeFrom_three rest (by omega) (by omega) (by omega)
  · exact decodeFrom_four rest (by omega) (by omega)

/-- **Every text is decoded from its octets.** -/
theorem decodeUtf8_utf8 (s : List Char) : decodeUtf8 (utf8 s) = s := by
  unfold decodeUtf8 utf8
  induction s with
  | nil => simp [decodeFrom]
  | cons c s ih => rw [List.flatMap_cons, decodeFrom_utf8EncodeChar, ih]

end PartSourcing.Text
