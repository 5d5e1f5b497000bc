import PartSourcing.Proofs.Lexicon
import PartSourcing.Proofs.Listing.LeadingNumber
import PartSourcing.Proofs.Text.LowerCase
import PartSourcing.Proofs.Text.Occurrence

/-!
# Marks of currencies

The marks of all currencies stand in the order in which they are tried (`currencyMarks_entries`).
What holds of them is checked on the list: no mark can start inside one mark and end in the next one
of the same currency (`IsMark.not_straddling`), none starts another one of its currency
(`IsMark.eq_of_start`), and one that is part of another is tried after it (`IsMark.eq_of_part`).

A decoration consists of blanks and marks of one currency, and trimming and lower case leave it one.
**Whatever mark occurs in it is part of one of its own** (`Decoration.exists_mark`), by induction on
what it consists of.
-/

namespace PartSourcing

open PartSourcing.Text

/-! ## The order of trying -/

namespace Lexicon

variable {α : Type}

/-- The place of a word in the order in which they are tried. -/
def place (l : Lexicon α) (w : String) : Nat := l.words.idxOf w

/-- **The word that decides is tried first** among those that occur. -/
theorem place_le_of_entryFor? {l : Lexicon α} {text w w' : String} {a : α}
    (h : l.entryFor? text = some (w, a)) (hoccurs : contains (lower text) w' = true) :
    l.place w ≤ l.place w' := by
  obtain ⟨hw, before, after, hentries, hbefore⟩ := List.find?_eq_some_iff_append.mp h
  have hnone (v : String) (hv : contains (lower text) v = true) : v ∉ before.map (·.1) := by
    intro hmem
    obtain ⟨⟨v, b⟩, he, rfl⟩ := List.mem_map.mp hmem
    have hfails := hbefore (v, b) he
    dsimp only at hfails hv
    rw [hv] at hfails
    cases hfails
  have hwords : l.words = before.map (·.1) ++ w :: after.map (·.1) := by
    rw [words, hentries, List.map_append, List.map_cons]
  rw [place, place, hwords, List.idxOf_append_of_notMem (hnone w hw),
    List.idxOf_append_of_notMem (hnone w' hoccurs), List.idxOf_cons_self]
  omega

end Lexicon

/-- **All marks**, in the order in which they are tried. -/
theorem currencyMarks_entries : currencyMarks.entries = [
    ("us$", "USD"), ("usd", "USD"), ("ca$", "CAD"), ("cad", "CAD"), ("aud", "AUD"), ("eur", "EUR"),
    ("gbp", "GBP"), ("jpy", "JPY"), ("cny", "CNY"), ("rmb", "CNY"), ("c$", "CAD"), ("a$", "AUD"),
    ("$", "USD"), ("€", "EUR"), ("£", "GBP"), ("¥", "JPY")] :=
  Lexicon.entries_ofList (.of_keys (by decide +kernel) (by decide +kernel) (by decide +kernel))

/-- **A character that marks consist of** is none that may stand in a number or before it, and lower
case leaves it alone, as no sigma does. -/
structure IsMarkChar (c : Char) : Prop where
  notBlank : isBlank c = false
  notNumeric : Loose.isNumeric c = false
  notMinus : c ≠ '-'
  lower : lowerChar c = [c]
  notCapitalSigma : c ≠ 'Σ'
  notSmallSigma : c ≠ 'σ'
  notFinalSigma : c ≠ 'ς'

theorem IsMarkChar.not_of_isBlank {c : Char} (h : isBlank c = true) : ¬IsMarkChar c := by
  intro hmark
  rw [hmark.notBlank] at h
  cases h

theorem IsMarkChar.not_of_isNumeric {c : Char} (h : Loose.isNumeric c = true) :
    ¬IsMarkChar c := by
  intro hmark
  rw [hmark.notNumeric] at h
  cases h

/-- A mark of a currency. -/
def IsMark (code mark : String) : Prop := (mark, code) ∈ currencyMarks.entries

namespace IsMark

variable {code code' mark mark' : String}

/-- A mark belongs to one currency. -/
theorem code_unique (h : IsMark code mark) (h' : IsMark code' mark) : code = code' := by
  have key : ∀ e ∈ currencyMarks.entries, ∀ e' ∈ currencyMarks.entries,
      e.1 = e'.1 → e.2 = e'.2 := by
    rw [currencyMarks_entries]
    decide +kernel
  exact key _ h _ h' rfl

theorem ne_nil (h : IsMark code mark) : mark.toList ≠ [] := by
  have key : ∀ e ∈ currencyMarks.entries, e.1.toList ≠ [] := by
    rw [currencyMarks_entries]
    decide +kernel
  exact key _ h

theorem isMarkChar_of_mem (h : IsMark code mark) {c : Char} (hc : c ∈ mark.toList) :
    IsMarkChar c := by
  have key : ∀ e ∈ currencyMarks.entries, e.1.toList.all (fun c =>
      !isBlank c && !Loose.isNumeric c && c != '-' && lowerChar c == [c] && c != 'Σ' &&
        c != 'σ' && c != 'ς') = true := by
    rw [currencyMarks_entries]
    decide +kernel
  have hall := List.all_eq_true.mp (key _ h) c hc
  simp only [Bool.and_eq_true, Bool.not_eq_true', bne_iff_ne, beq_iff_eq] at hall
  obtain ⟨⟨⟨⟨⟨⟨hblank, hnumeric⟩, hminus⟩, hlower⟩, hcapital⟩, hsmall⟩, hfinal⟩ := hall
  exact ⟨hblank, hnumeric, hminus, hlower, hcapital, hsmall, hfinal⟩

/-- A mark occurs first behind whatever cannot be part of one. -/
theorem replaceFirst_append (h : IsMark code mark) {s : List Char}
    (hs : ∀ c ∈ s, ¬IsMarkChar c) (t r : List Char) :
    replaceFirst (s ++ t) mark.toList r = s ++ replaceFirst t mark.toList r := by
  obtain ⟨d, p, hmark⟩ := List.exists_cons_of_ne_nil h.ne_nil
  have hd := h.isMarkChar_of_mem (hmark ▸ List.mem_cons_self)
  rw [hmark, Text.replaceFirst_append fun hmem => hs d hmem hd]

/-- **No mark starts in a mark and ends outside of it**, where another of that currency starts. -/
theorem not_straddling {front back : List Char} (h : IsMark code mark) (h' : IsMark code mark')
    {w code'' : String} (hw : IsMark code'' w) (hsplit : w.toList = front ++ back)
    (hfront : front ≠ []) (hback : back ≠ []) (hsuffix : front <:+ mark.toList) :
    back.head? ≠ mark'.toList.head? := by
  have key : ∀ w ∈ currencyMarks.entries, ∀ m ∈ currencyMarks.entries,
      ∀ m' ∈ currencyMarks.entries, m.2 = m'.2 → ∀ i < w.1.toList.length, 0 < i →
        w.1.toList.take i <:+ m.1.toList → (w.1.toList.drop i).head? ≠ m'.1.toList.head? := by
    rw [currencyMarks_entries]
    decide +kernel
  have hlen : front.length < w.toList.length := by
    rw [hsplit, List.length_append]
    have := List.length_pos_iff.mpr hback
    omega
  have hno := key _ hw _ h _ h' rfl front.length hlen (List.length_pos_iff.mpr hfront)
  dsimp only at hno
  rw [hsplit, List.take_left, List.drop_left] at hno
  exact hno hsuffix

/-- **No mark starts another one of its currency.** -/
theorem eq_of_start (h : IsMark code mark) (h' : IsMark code mark')
    (hstart : mark.toList <+: mark'.toList) : mark = mark' := by
  have key : ∀ m ∈ currencyMarks.entries, ∀ m' ∈ currencyMarks.entries, m.2 = m'.2 →
      m.1.toList <+: m'.1.toList → m.1 = m'.1 := by
    rw [currencyMarks_entries]
    decide +kernel
  exact key _ h _ h' rfl hstart

/-- **A mark is tried before those that are part of it.** -/
theorem eq_of_part (h : IsMark code mark) (h' : IsMark code' mark')
    (hpart : mark.toList <:+: mark'.toList)
    (hplace : currencyMarks.place mark ≤ currencyMarks.place mark') : mark = mark' := by
  have key : ∀ m ∈ currencyMarks.entries, ∀ m' ∈ currencyMarks.entries,
      m.1.toList <:+: m'.1.toList → currencyMarks.place m.1 ≤ currencyMarks.place m'.1 →
        m.1 = m'.1 := by
    unfold Lexicon.place Lexicon.words
    rw [currencyMarks_entries]
    decide +kernel
  exact key _ h _ h' hpart hplace

theorem eq_of_place (h : IsMark code mark)
    (hplace : currencyMarks.place mark = currencyMarks.place mark') : mark = mark' := by
  have hmem : mark ∈ currencyMarks.words := List.mem_map_of_mem h
  exact (List.idxOf_inj hmem).mp hplace

end IsMark

/-! ## Decorations -/

/-- **A decoration**: blanks and marks of one currency, which stand there in a given reading, with
the marks in their order. -/
inductive Decoration (reading : List Char → List Char) (code : String) :
    List Char → List String → Prop where
  | nil : Decoration reading code [] []
  | blank {c : Char} {t : List Char} {marks : List String} (hc : isBlank c = true)
      (h : Decoration reading code t marks) : Decoration reading code (c :: t) marks
  | mark {v t : List Char} {m : String} {marks : List String} (hm : IsMark code m)
      (hv : reading v = m.toList) (h : Decoration reading code t marks) :
      Decoration reading code (v ++ t) (m :: marks)

namespace Decoration

variable {reading : List Char → List Char} {code : String} {t : List Char} {marks : List String}

theorem isMark_of_mem (h : Decoration reading code t marks) {m : String} (hm : m ∈ marks) :
    IsMark code m := by
  induction h with
  | nil => exact absurd hm List.not_mem_nil
  | blank _ _ ih => exact ih hm
  | mark hmark _ _ ih =>
    rcases List.mem_cons.mp hm with rfl | hm
    · exact hmark
    · exact ih hm

/-! ### As it is written -/

/-- A mark in any letter case has no blank and no sigma in it. -/
theorem chars_of_spelling {v : List Char} {m : String} (hm : IsMark code m)
    (hv : lowerChars v = m.toList) : v ≠ [] ∧ 'Σ' ∉ v ∧ ∀ c ∈ v, isBlank c = false := by
  have hsigma : 'Σ' ∉ v := by
    intro hmem
    rcases sigma_of_mem hmem with h | h
    · rw [hv] at h
      exact (hm.isMarkChar_of_mem h).notFinalSigma rfl
    · rw [hv] at h
      exact (hm.isMarkChar_of_mem h).notSmallSigma rfl
  refine ⟨?_, hsigma, fun c hc => ?_⟩
  · rintro rfl
    exact hm.ne_nil hv.symm
  · by_contra hblank
    rw [Bool.not_eq_false] at hblank
    have hmem : c ∈ lowerChars v := by
      rw [lowerChars_eq_flatMap hsigma, List.mem_flatMap]
      exact ⟨c, hc, by rw [lowerChar_of_isBlank hblank]; exact List.mem_singleton_self c⟩
    rw [hv] at hmem
    exact IsMarkChar.not_of_isBlank hblank (hm.isMarkChar_of_mem hmem)

theorem sigma_notMem (h : Decoration lowerChars code t marks) : 'Σ' ∉ t := by
  induction h with
  | nil => exact List.not_mem_nil
  | blank hc _ ih => exact List.not_mem_cons_of_ne_of_not_mem (ne_sigma_of_isBlank hc).symm ih
  | mark hm hv _ ih =>
    rw [List.mem_append, not_or]
    exact ⟨(chars_of_spelling hm hv).2.1, ih⟩

/-- **In lower case its marks stand there as they are.** -/
theorem lowered (h : Decoration lowerChars code t marks) :
    Decoration id code (lowerChars t) marks := by
  have hall := h.sigma_notMem
  rw [lowerChars_eq_flatMap hall]
  clear hall
  induction h with
  | nil => exact .nil
  | blank hc _ ih =>
    rw [List.flatMap_cons, lowerChar_of_isBlank hc]
    exact .blank hc ih
  | mark hm hv _ ih =>
    rw [List.flatMap_append, ← lowerChars_eq_flatMap (chars_of_spelling hm hv).2.1, hv]
    exact .mark hm rfl ih

/-- Blanks in front may be trimmed. -/
theorem dropLeading (h : Decoration lowerChars code t marks) :
    Decoration lowerChars code (Text.dropLeading t) marks := by
  induction h with
  | nil => exact .nil
  | blank hc _ ih =>
    rw [Text.dropLeading, List.dropWhile_cons_of_pos hc]
    exact ih
  | @mark v t m marks hm hv hrest _ =>
    obtain ⟨hne, -, hblank⟩ := chars_of_spelling hm hv
    obtain ⟨c, v, rfl⟩ := List.exists_cons_of_ne_nil hne
    have hc := Bool.eq_false_iff.mp (hblank c List.mem_cons_self)
    rw [Text.dropLeading, List.cons_append, List.dropWhile_cons_of_neg hc]
    exact .mark hm hv hrest

/-- Blanks at the end may be trimmed. -/
theorem dropTrailing (h : Decoration lowerChars code t marks) :
    Decoration lowerChars code (Text.dropTrailing t) marks := by
  induction h with
  | nil => exact .nil
  | @blank c t marks hc _ ih =>
    have hsplit : c :: t = [c] ++ t := rfl
    rw [hsplit]
    by_cases ht : Text.dropTrailing t = []
    · have hone : Text.dropTrailing [c] = [] := by
        rw [Text.dropTrailing, List.reverse_singleton, List.dropWhile_cons_of_pos hc]
        rfl
      rw [dropTrailing_append_of_eq_nil ht, hone]
      rwa [ht] at ih
    · rw [dropTrailing_append_of_ne_nil ht]
      exact .blank hc ih
  | mark hm hv _ ih =>
    rw [dropTrailing_append_of_no_blank (chars_of_spelling hm hv).2.2]
    exact .mark hm hv ih

/-! ### In lower case -/

/-- **What a decoration consists of.** -/
theorem chars (h : Decoration id code t marks) : ∀ c ∈ t,
    Loose.isNumeric c = false ∧ lowerChar c = [c] ∧ c ≠ 'Σ' := by
  induction h with
  | nil => exact List.forall_mem_nil _
  | @blank c t marks hc _ ih =>
    refine List.forall_mem_cons.mpr ⟨⟨?_, lowerChar_of_isBlank hc, ne_sigma_of_isBlank hc⟩, ih⟩
    by_contra hnumeric
    rw [Bool.not_eq_false] at hnumeric
    rw [Loose.isBlank_of_isNumeric hnumeric] at hc
    cases hc
  | @mark v t m marks hm hv _ ih =>
    obtain rfl : v = m.toList := hv
    refine List.forall_mem_append.mpr ⟨fun c hc => ?_, ih⟩
    have hmark := hm.isMarkChar_of_mem hc
    exact ⟨hmark.notNumeric, hmark.lower, hmark.notCapitalSigma⟩

/-- A decoration without marks is blank. -/
theorem isBlank_of_nil (h : Decoration reading code t []) : ∀ c ∈ t, isBlank c = true := by
  generalize hmarks : ([] : List String) = marks at h
  induction h with
  | nil => exact List.forall_mem_nil _
  | blank hc _ ih => exact List.forall_mem_cons.mpr ⟨hc, ih hmarks⟩
  | mark _ _ _ _ => cases hmarks

/-- A decoration with marks starts with the first of them, after blanks. -/
theorem exists_of_cons {m : String} (h : Decoration id code t (m :: marks)) :
    ∃ blanks rest, (∀ c ∈ blanks, isBlank c = true) ∧ t = blanks ++ (m.toList ++ rest) ∧
      Decoration id code rest marks := by
  generalize hall : m :: marks = all at h
  induction h with
  | nil => cases hall
  | @blank c t _ hc _ ih =>
    obtain ⟨blanks, rest, hblanks, rfl, hrest⟩ := ih hall
    exact ⟨c :: blanks, rest, List.forall_mem_cons.mpr ⟨hc, hblanks⟩, rfl, hrest⟩
  | @mark v t m' marks' hm hv hrest _ =>
    obtain ⟨rfl, rfl⟩ := List.cons.inj hall
    obtain rfl : v = m.toList := hv
    exact ⟨[], t, List.forall_mem_nil _, rfl, hrest⟩

/-- A decoration starts with a blank or as one of the marks does. -/
theorem head (h : Decoration id code t marks) {c : Char} (hc : t.head? = some c) :
    isBlank c = true ∨ ∃ m, IsMark code m ∧ m.toList.head? = some c := by
  cases h with
  | nil => cases hc
  | blank hblank _ =>
    obtain rfl := Option.some.inj hc
    exact .inl hblank
  | @mark v t m marks hm hv _ =>
    obtain rfl : v = m.toList := hv
    refine .inr ⟨m, hm, ?_⟩
    rwa [List.head?_append_of_ne_nil _ hm.ne_nil] at hc

/-- **What occurs in a decoration** and is a mark is part of one of its marks. -/
theorem exists_mark {w code' : String} (h : Decoration id code t marks) (hw : IsMark code' w)
    (hoccurs : w.toList <:+: t) : ∃ m ∈ marks, w.toList <:+: m.toList := by
  induction h with
  | nil => exact absurd (List.eq_nil_of_infix_nil hoccurs) hw.ne_nil
  | blank hc _ ih =>
    rcases List.infix_cons_iff.mp hoccurs with hstart | hrest
    · rcases List.prefix_cons_iff.mp hstart with hnil | ⟨r, hr, -⟩
      · exact absurd hnil hw.ne_nil
      · have hfirst := hw.isMarkChar_of_mem (hr ▸ List.mem_cons_self)
        exact absurd hfirst (IsMarkChar.not_of_isBlank hc)
    · exact ih hrest
  | @mark v t m marks hm hv hrest ih =>
    obtain rfl : v = m.toList := hv
    rcases List.infix_append_iff_ne_nil.mp hoccurs with
      hin | hin | ⟨front, back, hfront, hback, hsplit, hsuffix, hstart⟩
    · exact ⟨m, List.mem_cons_self, hin⟩
    · obtain ⟨m', hm', hin⟩ := ih hin
      exact ⟨m', List.mem_cons_of_mem m hm', hin⟩
    · -- across the end of a mark: what follows is a blank, or another mark starts there
      obtain ⟨d, back, rfl⟩ := List.exists_cons_of_ne_nil hback
      obtain ⟨r, rfl⟩ := hstart
      rcases hrest.head rfl with hblank | ⟨m', hm', hhead⟩
      · have hd : d ∈ w.toList := hsplit ▸ List.mem_append_right front List.mem_cons_self
        exact absurd (hw.isMarkChar_of_mem hd) (IsMarkChar.not_of_isBlank hblank)
      · exact absurd hhead.symm (hm.not_straddling hm' hw hsplit hfront hback hsuffix)

/-- Its marks occur in a decoration. -/
theorem infix_of_mem {m : String} (h : Decoration id code t marks) (hm : m ∈ marks) :
    m.toList <:+: t := by
  induction h with
  | nil => exact absurd hm List.not_mem_nil
  | blank _ _ ih => exact (ih hm).trans (List.infix_cons (List.infix_refl _))
  | @mark v t m' marks _ hv _ ih =>
    obtain rfl : v = m'.toList := hv
    rcases List.mem_cons.mp hm with rfl | hm
    · exact List.infix_append_left
    · exact (ih hm).trans List.infix_append_right

end Decoration

end PartSourcing
