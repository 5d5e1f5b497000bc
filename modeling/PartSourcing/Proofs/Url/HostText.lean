import Mathlib.Data.Option.Basic
import PartSourcing.Proofs.Text.Occurrence
import PartSourcing.Proofs.Url.Percent
import PartSourcing.Url.Parser

/-!
# What hosts are written with

A host is an address or a name as it is sent, and either is written with visible characters of
ASCII none of which starts a query or a fragment (`isBodyChar_of_mem_write`).  Of a name that is not
all ASCII that is so because it is sent in Punycode.
-/

namespace PartSourcing.Url

open PartSourcing.Text PartSourcing.Decimal

/-- Whether a character may stand before the query: a visible one of ASCII that starts neither query
nor fragment. -/
def isBodyChar (c : Char) : Bool := 0x20 < c.toNat && c.toNat < 0x7F && c != '?' && c != '#'

/-! ## Numbers -/

theorem isBodyChar_of_isDigit {c : Char} (h : c.isDigit = true) : isBodyChar c = true := by
  refine forall_ascii (P := fun c => c.isDigit = true → isBodyChar c = true) (by decide) ?_ h
  exact Nat.lt_of_le_of_lt (Char.isDigit_iff_toNat.mp h).2 (by decide)

theorem isBodyChar_of_mem_natText {n : Nat} {c : Char} (h : c ∈ (natText n).toList) :
    isBodyChar c = true := by
  rw [natText, String.toList_ofList] at h
  exact isBodyChar_of_isDigit (Nat.isDigit_of_mem_toDigits (by decide) (by decide) h)

theorem isBodyChar_of_mem_toDigits {n : Nat} {c : Char} (h : c ∈ Nat.toDigits 16 n) :
    isBodyChar c = true := by
  have hdigit : ∀ d < 16, isBodyChar d.digitChar = true := by decide
  induction n using Nat.strongRecOn with
  | _ n ih =>
    by_cases hn : n < 16
    · rw [Nat.toDigits_of_lt_base hn, List.mem_singleton] at h
      exact h ▸ hdigit n hn
    · rw [Nat.toDigits_of_base_le (by decide) (by omega), List.mem_append, List.mem_singleton] at h
      rcases h with h | h
      · exact ih (n / 16) (by omega) h
      · exact h ▸ hdigit _ (Nat.mod_lt n (by decide))

/-! ## Addresses -/

theorem isBodyChar_of_mem_intercalate {sep : String} {texts : List String}
    (hsep : ∀ c ∈ sep.toList, isBodyChar c = true)
    (h : ∀ t ∈ texts, ∀ c ∈ t.toList, isBodyChar c = true) {c : Char}
    (hc : c ∈ (sep.intercalate texts).toList) : isBodyChar c = true := by
  rw [String.toList_intercalate] at hc
  rcases mem_intercalate hc with hc | ⟨l, hl, hc⟩
  · exact hsep c hc
  · obtain ⟨t, ht, rfl⟩ := List.mem_map.mp hl
    exact h t ht c hc

theorem isBodyChar_of_mem_ipv4Text {a : UInt32} {c : Char} (h : c ∈ (ipv4Text a).toList) :
    isBodyChar c = true := by
  refine isBodyChar_of_mem_intercalate (List.all_eq_true.mp (by decide)) ?_ h
  intro t ht c hc
  simp only [List.mem_cons, List.not_mem_nil, or_false] at ht
  rcases ht with rfl | rfl | rfl | rfl <;> exact isBodyChar_of_mem_natText hc

theorem isBodyChar_of_mem_groupsText {gs : List Nat} {c : Char} (h : c ∈ (groupsText gs).toList) :
    isBodyChar c = true := by
  refine isBodyChar_of_mem_intercalate (List.all_eq_true.mp (by decide)) ?_ h
  intro t ht c hc
  obtain ⟨g, -, rfl⟩ := List.mem_map.mp ht
  rw [String.toList_ofList] at hc
  exact isBodyChar_of_mem_toDigits hc

theorem isBodyChar_of_mem_ipv6Text {gs : List Nat} {c : Char} (h : c ∈ (ipv6Text gs).toList) :
    isBodyChar c = true := by
  unfold ipv6Text at h
  dsimp only at h
  split at h
  · exact isBodyChar_of_mem_groupsText h
  · have hgap : ∀ c ∈ "::".toList, isBodyChar c = true := List.all_eq_true.mp (by decide)
    rw [String.toList_append, String.toList_append, List.mem_append, List.mem_append] at h
    rcases h with (h | h) | h
    · exact isBodyChar_of_mem_groupsText h
    · exact hgap c h
    · exact isBodyChar_of_mem_groupsText h

/-! ## Names -/

namespace Punycode

theorem isBodyChar_digit : ∀ n < 36, isBodyChar (digit n) = true := by decide

theorem threshold_bounds (k bias : Nat) : 1 ≤ threshold k bias ∧ threshold k bias ≤ 26 := by
  unfold threshold
  omega

theorem isBodyChar_of_mem_number {bias k q : Nat} {c : Char} (h : c ∈ number bias k q) :
    isBodyChar c = true := by
  fun_induction number bias k q with
  | case1 k q t hq =>
    have ht := threshold_bounds k bias
    rw [List.mem_singleton.mp h]
    exact isBodyChar_digit q (by omega)
  | case2 k q t hq ih =>
    have ht := threshold_bounds k bias
    rcases List.mem_cons.mp h with rfl | h
    · have hlt := Nat.mod_lt (q - t) (y := 36 - t) (by omega)
      exact isBodyChar_digit _ (by omega)
    · exact ih h

theorem isBodyChar_of_mem_sweep {n : Nat} {text : List Nat} {p : Progress} {c : Char}
    (h : c ∈ (sweep n text p).1) : isBodyChar c = true := by
  induction text generalizing p with
  | nil => simp [sweep] at h
  | cons m text ih =>
    rw [sweep] at h
    split_ifs at h
    · exact ih h
    · rcases List.mem_append.mp h with h | h
      · exact isBodyChar_of_mem_number h
      · exact ih h
    · exact ih h

theorem isBodyChar_of_mem_insertions {text ns : List Nat} {p : Progress} {c : Char}
    (h : c ∈ insertions text ns p) : isBodyChar c = true := by
  induction ns generalizing p with
  | nil => simp [insertions] at h
  | cons n ns ih =>
    rcases List.mem_append.mp h with h | h
    · exact isBodyChar_of_mem_sweep h
    · exact ih h

/-- A label is written with those of its characters that are ASCII, hyphens and digits. -/
theorem of_mem_encode {s : List Char} {c : Char} (h : c ∈ encode s) :
    (c ∈ s ∧ c.toNat < 0x80) ∨ isBodyChar c = true := by
  rw [encode, List.mem_append, List.mem_append] at h
  rcases h with (h | h) | h
  · obtain ⟨hs, hc⟩ := List.mem_filter.mp h
    exact .inl ⟨hs, of_decide_eq_true hc⟩
  · right
    split at h
    · simp at h
    · rw [List.mem_singleton.mp h]
      decide
  · exact .inr (isBodyChar_of_mem_insertions h)

end Punycode

namespace Domain

theorem isBodyChar_of_not_isForbidden {c : Char} (hascii : c.toNat < 0x80)
    (h : isForbidden c = false) : isBodyChar c = true :=
  forall_ascii (P := fun c => isForbidden c = false → isBodyChar c = true) (by decide) hascii h

theorem isBodyChar_of_mem_encodeLabel {t : List Char} (ht : ∀ c ∈ t, isForbidden c = false)
    {c : Char} (h : c ∈ encodeLabel t) : isBodyChar c = true := by
  unfold encodeLabel at h
  split_ifs at h with hascii
  · have hlt : c.toNat < 0x80 := of_decide_eq_true (List.all_eq_true.mp hascii c h)
    exact isBodyChar_of_not_isForbidden hlt (ht c h)
  · rcases List.mem_append.mp h with h | h
    · have hmark : ∀ c ∈ mark, isBodyChar c = true := List.all_eq_true.mp (by decide)
      exact hmark c h
    · rcases Punycode.of_mem_encode h with ⟨hc, hlt⟩ | hc
      · exact isBodyChar_of_not_isForbidden hlt (ht c hc)
      · exact hc

theorem isBodyChar_of_mem_toAscii? {s name : List Char} (h : toAscii? s = some name) {c : Char}
    (hc : c ∈ name) : isBodyChar c = true := by
  simp only [toAscii?, Option.bind_eq_bind, Option.bind_eq_some_iff] at h
  obtain ⟨_, -, labels, -, _, hclear, _, -, _, -, hname⟩ := h
  obtain rfl := Option.some.inj hname
  have hlabel : ∀ t ∈ labels, ∀ c ∈ t, isForbidden c = false := by
    have hnone := (Option.guard_eq_some' _).mp hclear
    simpa using hnone
  rcases mem_intercalate hc with hc | ⟨l, hl, hc⟩
  · rw [List.mem_singleton.mp hc]
    decide
  · obtain ⟨t, ht, rfl⟩ := List.mem_map.mp hl
    exact isBodyChar_of_mem_encodeLabel (hlabel t ht) hc

end Domain

/-! ## Hosts -/

/-- **What a host can be**: an address of either kind, or a name as it is sent. -/
theorem domainHost_cases {s : List Char} {h : Host} (hs : domainHost s = .ok h) :
    (∃ gs, h = .ipv6 gs) ∨ (∃ a, h = .ipv4 a) ∨
      ∃ name, Domain.toAscii? (decodeUtf8 (unescape s)) = some name ∧
        h = .domain (String.ofList name) := by
  unfold domainHost at hs
  simp only [bind, Except.bind, pure, Except.pure] at hs
  split at hs
  · split at hs
    · simp at hs
    · exact .inl ⟨_, (Except.ok.inj hs).symm⟩
  · split at hs
    · simp at hs
    · simp at hs
    rename_i name _ hname
    split at hs
    · split at hs
      · exact .inr (.inl ⟨_, (Except.ok.inj hs).symm⟩)
      · simp at hs
    · exact .inr (.inr ⟨name, hname, (Except.ok.inj hs).symm⟩)

/-- A name that is no address is the host as it is sent. -/
theorem domainHost_of_name {s name : List Char} (hbracket : s.head? ≠ some '[')
    (hpercent : '%' ∉ s) (hname : Domain.toAscii? s = some name) (hne : name ≠ [])
    (hnumber : endsInNumber name = false) : domainHost s = .ok (.domain (String.ofList name)) := by
  obtain ⟨c, t, rfl⟩ := List.exists_cons_of_ne_nil hne
  unfold domainHost
  rw [if_neg hbracket, decodeUtf8_unescape hpercent, hname]
  simp only [hnumber]
  rfl

/-- **Hosts are written with body characters.** -/
theorem isBodyChar_of_mem_write {s : List Char} {h : Host} (hs : domainHost s = .ok h) {c : Char}
    (hc : c ∈ h.write.toList) : isBodyChar c = true := by
  rcases domainHost_cases hs with ⟨gs, rfl⟩ | ⟨a, rfl⟩ | ⟨name, hname, rfl⟩
  · have hbrackets : ∀ c ∈ "[".toList ++ "]".toList, isBodyChar c = true :=
      List.all_eq_true.mp (by decide)
    simp only [Host.write, String.toList_append, List.mem_append] at hc
    rcases hc with (hc | hc) | hc
    · exact hbrackets c (List.mem_append_left _ hc)
    · exact isBodyChar_of_mem_ipv6Text hc
    · exact hbrackets c (List.mem_append_right _ hc)
  · rw [Host.write] at hc
    exact isBodyChar_of_mem_ipv4Text hc
  · rw [Host.write, String.toList_ofList] at hc
    exact Domain.isBodyChar_of_mem_toAscii? hname hc

end PartSourcing.Url
