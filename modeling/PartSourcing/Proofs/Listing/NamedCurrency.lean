import Mathlib.Data.List.Find
import PartSourcing.Proofs.Listing.DecoratedPrice
import PartSourcing.Proofs.Text.SettledLower

/-!
# Currencies that are named by a mark

A currency is named in a field of its own or beside the number of a price.  Which mark decides
depends on those that stand in the text in some letter case, and on nothing else
(`find?_marks_congr`): not on blanks around it, nor on lower case, nor on a number in front.  **So a
price has the currency that is named behind its number** (`Loose.price_of_mark`), and a field has it
too, with one exception (`currencyCode?_of_mark`): three letters are taken for a code as they are,
and those of one mark are no code.
-/

namespace PartSourcing

open PartSourcing.Text

/-! ## Marks in a text -/

/-- **A mark stands in a text**, in some letter case. -/
def Shows (s : List Char) (mark : String) : Prop := mark.toList <:+: s.flatMap lowerChar

namespace IsMark

variable {code mark : String}

theorem infix_lowerChars_iff_shows (h : IsMark code mark) (s : List Char) :
    mark.toList <:+: lowerChars s ↔ Shows s mark :=
  infix_lowerChars_iff (fun hmem => (h.isMarkChar_of_mem hmem).notSmallSigma rfl)
    (fun hmem => (h.isMarkChar_of_mem hmem).notFinalSigma rfl) s

theorem contains_lower_iff (h : IsMark code mark) (text : String) :
    contains (lower text) mark = true ↔ Shows text.toList mark := by
  rw [contains, occursIn_iff, toList_lower, h.infix_lowerChars_iff_shows]

/-- Lower case shows the same marks. -/
theorem shows_lowerChars_iff (h : IsMark code mark) (s : List Char) :
    Shows (lowerChars s) mark ↔ Shows s mark := by
  rw [← h.infix_lowerChars_iff_shows, lowerChars_lowerChars, h.infix_lowerChars_iff_shows]

/-- **No mark reaches across blanks.** -/
theorem shows_append_iff (h : IsMark code mark) {blanks : List Char} (hne : blanks ≠ [])
    (hblanks : ∀ c ∈ blanks, isBlank c = true) (s t : List Char) :
    Shows (s ++ blanks ++ t) mark ↔ Shows s mark ∨ Shows t mark := by
  have hlower : blanks.flatMap lowerChar = blanks := by
    rw [← lowerChars_eq_flatMap fun hmem => ne_sigma_of_isBlank (hblanks _ hmem) rfl]
    exact lowerChars_eq_self fun c hc =>
      ⟨lowerChar_of_isBlank (hblanks c hc), ne_sigma_of_isBlank (hblanks c hc)⟩
  unfold Shows
  rw [List.flatMap_append, List.flatMap_append, hlower]
  constructor
  · exact infix_of_infix_around hne fun c hc hmem =>
      IsMarkChar.not_of_isBlank (hblanks c hc) (h.isMarkChar_of_mem hmem)
  · rintro (hs | ht)
    · exact (hs.trans List.infix_append_left).trans List.infix_append_left
    · exact ht.trans List.infix_append_right

theorem not_shows_nil (h : IsMark code mark) : ¬Shows [] mark := fun hshows =>
  h.ne_nil (List.eq_nil_of_infix_nil hshows)

/-- Trimming takes no mark away. -/
theorem shows_trimChars_iff (h : IsMark code mark) (s : List Char) :
    Shows (trimChars s) mark ↔ Shows s mark := by
  obtain ⟨front, behind, hfront, hbehind, hs⟩ := exists_blanks_around s
  have hleft (t : List Char) : Shows (front ++ t) mark ↔ Shows t mark := by
    by_cases hne : front = []
    · rw [hne, List.nil_append]
    · have := h.shows_append_iff hne hfront [] t
      rwa [List.nil_append, or_iff_right h.not_shows_nil] at this
  have hright (t : List Char) : Shows (t ++ behind) mark ↔ Shows t mark := by
    by_cases hne : behind = []
    · rw [hne, List.append_nil]
    · have := h.shows_append_iff hne hbehind t []
      rwa [List.append_nil, or_iff_left h.not_shows_nil] at this
  conv_rhs => rw [hs]
  rw [hright, hleft]

end IsMark

/-! ## The mark that decides -/

/-- **The currency of a text depends on the marks in it.** -/
theorem find?_marks_congr {text text' : String}
    (h : ∀ code mark, IsMark code mark → (Shows text.toList mark ↔ Shows text'.toList mark)) :
    currencyMarks.find? text = currencyMarks.find? text' := by
  have hentry : currencyMarks.entryFor? text = currencyMarks.entryFor? text' := by
    refine List.find?_congr fun e he => ?_
    have hmark : IsMark e.2 e.1 := he
    rw [Bool.eq_iff_iff]
    exact (hmark.contains_lower_iff text).trans
      ((h _ _ hmark).trans (hmark.contains_lower_iff text').symm)
  rw [Lexicon.find?, hentry, Lexicon.find?]

theorem find?_marks_eq_none_iff {text : String} :
    currencyMarks.find? text = none ↔ ∀ code mark, IsMark code mark → ¬Shows text.toList mark := by
  rw [Lexicon.find?, Option.map_eq_none_iff, Lexicon.entryFor?, List.find?_eq_none]
  constructor
  · exact fun h code mark hmark hshows => h _ hmark ((hmark.contains_lower_iff text).mpr hshows)
  · intro h e he hcontains
    have hmark : IsMark e.2 e.1 := he
    exact h e.2 e.1 hmark ((hmark.contains_lower_iff text).mp hcontains)

theorem find?_marks_trim (text : String) :
    currencyMarks.find? (trim text) = currencyMarks.find? text :=
  find?_marks_congr fun _ _ hmark => by rw [toList_trim, hmark.shows_trimChars_iff]

/-- A text in which a mark stands is not blank. -/
theorem notBlank_of_mark {named code : String} (h : currencyMarks.find? named = some code) :
    isAllBlank named = false := by
  have hnone : currencyMarks.find? "" = none := by
    refine find?_marks_eq_none_iff.mpr fun _ _ hmark => ?_
    exact hmark.not_shows_nil
  rw [Bool.eq_false_iff]
  intro hblank
  rw [← find?_marks_trim, trim_eq_empty_iff.mpr hblank, hnone] at h
  cases h

/-- **No mark stands in a number.** -/
theorem find?_marks_of_numeric {number : String}
    (h : number.toList.all (fun c => Loose.isNumeric c || c == '-') = true) :
    currencyMarks.find? number = none := by
  refine find?_marks_eq_none_iff.mpr fun code mark hmark hshows => ?_
  obtain ⟨d, hd⟩ := List.exists_mem_of_ne_nil _ hmark.ne_nil
  have hchar := hmark.isMarkChar_of_mem hd
  obtain ⟨c, hc, hdc⟩ := List.mem_flatMap.mp (hshows.subset hd)
  rcases Bool.or_eq_true_iff.mp (List.all_eq_true.mp h c hc) with hnumeric | hminus
  · rw [(Loose.lowerChar_of_isNumeric hnumeric).1, List.mem_singleton] at hdc
    exact IsMarkChar.not_of_isNumeric hnumeric (hdc ▸ hchar)
  · rw [beq_iff_eq.mp hminus] at hdc
    exact hchar.notMinus (List.mem_singleton.mp hdc)

/-- **A price in text has the currency that is named behind its number.** -/
theorem Loose.price_of_mark {number named code : String}
    (hnumber : currencyMarks.find? number = none) (h : currencyMarks.find? named = some code) :
    (Loose.price (.text (number ++ " " ++ named))).2 = some code := by
  have hspace : " ".toList = [' '] := rfl
  have hsame : currencyMarks.find?
      (String.ofList (lowerChars (trimChars (number ++ " " ++ named).toList))) = some code := by
    rw [← h]
    refine find?_marks_congr fun code' mark hmark => ?_
    rw [String.toList_ofList, hmark.shows_lowerChars_iff, hmark.shows_trimChars_iff,
      String.toList_append, String.toList_append, hspace,
      hmark.shows_append_iff (List.cons_ne_nil ' ' []) (List.all_eq_true.mp rfl),
      or_iff_right (find?_marks_eq_none_iff.mp hnumber _ _ hmark)]
  obtain ⟨⟨mark, code⟩, hentry, rfl⟩ := Option.map_eq_some_iff.mp hsame
  rw [Loose.price]
  dsimp only
  rw [hentry]

/-! ## Fields of three letters -/

theorem flatMap_lowerChar_of_isAlpha {s : List Char} (h : ∀ c ∈ s, c.isAlpha = true) :
    s.flatMap lowerChar = s.map Char.toLower := by
  rw [List.map_eq_flatMap]
  exact List.flatMap_congr fun c hc => if_pos (toNat_lt_of_isAlpha (h c hc))

theorem asciiLower_rmb : asciiLower "RMB" = "rmb" := by decide +kernel

/-- **Three letters in which a mark stands are that mark**, and a code if it is not `RMB`. -/
theorem asciiUpper_of_mark {named code : String} (hlength : named.toList.length = 3)
    (halpha : ∀ c ∈ named.toList, c.isAlpha = true) (h : currencyMarks.find? named = some code) :
    asciiUpper named = if sameAsciiCase named "RMB" then "RMB" else code := by
  have key : ∀ e ∈ currencyMarks.entries, e.1.toList.all Char.isAlpha = true →
      e.1.toList.length = 3 ∧
        e.1.toList.map Char.toUpper = (if e.1 = "rmb" then "RMB" else e.2).toList := by
    rw [currencyMarks_entries]
    decide +kernel
  obtain ⟨⟨mark, code⟩, hentry, rfl⟩ := Option.map_eq_some_iff.mp h
  have hmark : IsMark code mark := (Lexicon.mem_of_entryFor? hentry).1
  have hshows : mark.toList <:+: named.toList.map Char.toLower := by
    rw [← flatMap_lowerChar_of_isAlpha halpha]
    exact (hmark.contains_lower_iff named).mp (Lexicon.mem_of_entryFor? hentry).2
  have hletters (d : Char) (hd : d ∈ mark.toList) : d.isAlpha = true := by
    obtain ⟨c, hc, rfl⟩ := List.mem_map.mp (hshows.subset hd)
    exact (toLower_of_isAlpha (halpha c hc)).1
  obtain ⟨hmarkLength, hcode⟩ := key _ hmark (List.all_eq_true.mpr hletters)
  have hlower : mark = asciiLower named := by
    rw [← String.toList_inj, asciiLower, String.toList_ofList]
    exact hshows.eq_of_length (by rw [List.length_map, hlength]; exact hmarkLength)
  have hupper : named.toList.map Char.toUpper = mark.toList.map Char.toUpper := by
    rw [hlower, asciiLower, String.toList_ofList, List.map_map]
    exact List.map_congr_left fun c hc => (toLower_of_isAlpha (halpha c hc)).2.symm
  have hsame : sameAsciiCase named "RMB" = true ↔ mark = "rmb" := by
    rw [sameAsciiCase, asciiLower_rmb, ← hlower, beq_iff_eq]
  rw [asciiUpper, hupper, hcode, String.ofList_toList]
  simp only [hsame]

/-- **The currency that a field names by a mark.** -/
theorem currencyCode?_of_mark {named code : String} (h : currencyMarks.find? named = some code) :
    currencyCode? named = some (if sameAsciiCase named "RMB" then "RMB" else code) := by
  unfold currencyCode?
  split
  · rename_i hletters
    rw [asciiUpper_of_mark hletters.1 (List.all_eq_true.mp hletters.2) h]
  · rename_i hletters
    have hother : ¬sameAsciiCase named "RMB" = true := by
      intro hsame
      have hlower : named.toList.map Char.toLower = "rmb".toList := by
        rw [sameAsciiCase, asciiLower_rmb, beq_iff_eq] at hsame
        rw [← hsame, asciiLower, String.toList_ofList]
      refine hletters ⟨?_, List.all_eq_true.mpr fun c hc => ?_⟩
      · rw [← List.length_map Char.toLower, hlower]
        rfl
      · have hmem := List.mem_map_of_mem (f := Char.toLower) hc
        rw [hlower] at hmem
        exact isAlpha_of_isAlpha_toLower
          (List.all_eq_true.mp (rfl : "rmb".toList.all Char.isAlpha = true) _ hmem)
    rw [h, if_neg hother]

end PartSourcing
