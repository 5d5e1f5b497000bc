import PartSourcing.Proofs.Listing.Marks

/-!
# Prices between the marks of their currency

A price in text is a number between two decorations with marks of one currency.  The mark that is
tried first among all of them decides on the currency (`entryFor?_decorated`), and where it first
occurs it is cut out, that and no other.  **So the number is read just if nothing but blanks is left
in front of it** (`Clears`, `price_of_decorated`): if no mark stands there, or a single one and no
mark behind the number is tried before it.
-/

namespace PartSourcing.Loose

open PartSourcing.Text

/-! ## The text that is searched -/

theorem lowerChar_of_isNumeric {c : Char} (h : isNumeric c = true) :
    lowerChar c = [c] ∧ c ≠ 'Σ' := by
  have key : numericChars.all (fun d => lowerChar d == [d] && d != 'Σ') = true := by decide
  simpa only [Bool.and_eq_true, beq_iff_eq, bne_iff_ne] using of_isNumeric key h

variable {code : String} {front behind n whole fraction : List Char}
  {frontMarks behindMarks : List String}

/-- **Trimming and lower case leave the number between two decorations.** -/
theorem lowered_trimmed (hfront : Decoration lowerChars code front frontMarks)
    (hbehind : Decoration lowerChars code behind behindMarks)
    (hn : IsNumeral n whole fraction) :
    ∃ f b, lowerChars (trimChars (front ++ n ++ behind)) = f ++ n ++ b ∧
      Decoration id code f frontMarks ∧ Decoration id code b behindMarks := by
  have hblank (c : Char) (hc : c ∈ n) : isBlank c = false :=
    isBlank_of_isNumeric (hn.isNumeric_of_mem hc)
  have htrim : trimChars (front ++ n ++ behind) =
      dropLeading front ++ (n ++ dropTrailing behind) := by
    have hhead : ∀ c ∈ (n ++ behind).head?, isBlank c = false := by
      rw [List.head?_append_of_ne_nil _ hn.ne_nil]
      exact fun c hc => hblank c (List.mem_of_head? hc)
    have hend := dropTrailing_append_of_no_blank hblank behind
    have hne : dropTrailing (n ++ behind) ≠ [] := by
      rw [hend]
      exact List.append_ne_nil_of_left_ne_nil hn.ne_nil _
    rw [trimChars, List.append_assoc, dropLeading_append hhead,
      dropTrailing_append_of_ne_nil hne, hend]
  have hf := hfront.dropLeading
  have hb := hbehind.dropTrailing
  have hlower (c : Char) (hc : c ∈ n) := lowerChar_of_isNumeric (hn.isNumeric_of_mem hc)
  have hsigma : 'Σ' ∉ dropLeading front ++ (n ++ dropTrailing behind) := by
    rw [List.mem_append, List.mem_append]
    rintro (h | h | h)
    · exact hf.sigma_notMem h
    · exact (hlower _ h).2 rfl
    · exact hb.sigma_notMem h
  refine ⟨_, _, ?_, hf.lowered, hb.lowered⟩
  rw [htrim, lowerChars_eq_flatMap hsigma, List.flatMap_append, List.flatMap_append,
    ← lowerChars_eq_flatMap hf.sigma_notMem, ← lowerChars_eq_flatMap hb.sigma_notMem,
    ← lowerChars_eq_flatMap fun h => (hlower _ h).2 rfl, lowerChars_eq_self hlower,
    List.append_assoc]

/-! ## The mark that decides -/

section Lowered

variable {f b : List Char} (hf : Decoration id code f frontMarks)
  (hb : Decoration id code b behindMarks) (hn : IsNumeral n whole fraction)

include hf hb hn

omit hn in
theorem isMark_of_mem_marks {m : String} (hm : m ∈ frontMarks ++ behindMarks) : IsMark code m :=
  (List.mem_append.mp hm).elim hf.isMark_of_mem hb.isMark_of_mem

omit hn in
theorem infix_of_mem_marks {m : String} (hm : m ∈ frontMarks ++ behindMarks) :
    m.toList <:+: f ++ n ++ b := by
  rcases List.mem_append.mp hm with hm | hm
  · exact ((hf.infix_of_mem hm).trans List.infix_append_left).trans List.infix_append_left
  · exact (hb.infix_of_mem hm).trans List.infix_append_right

/-- A mark that occurs is part of a mark of the decorations, as none reaches across the number. -/
theorem exists_mark_of_occurs {w code' : String} (hw : IsMark code' w)
    (hoccurs : w.toList <:+: f ++ n ++ b) :
    ∃ m ∈ frontMarks ++ behindMarks, w.toList <:+: m.toList := by
  have hnumeric (c : Char) (hc : c ∈ n) : c ∉ w.toList := fun hmem =>
    IsMarkChar.not_of_isNumeric (hn.isNumeric_of_mem hc) (hw.isMarkChar_of_mem hmem)
  rcases infix_of_infix_around hn.ne_nil hnumeric hoccurs with hin | hin
  · obtain ⟨m, hm, hin⟩ := hf.exists_mark hw hin
    exact ⟨m, List.mem_append_left _ hm, hin⟩
  · obtain ⟨m, hm, hin⟩ := hb.exists_mark hw hin
    exact ⟨m, List.mem_append_right _ hm, hin⟩

/-- A text in lower case is searched as it is. -/
theorem contains_decorated_iff (w : String) :
    contains (lower (String.ofList (f ++ n ++ b))) w = true ↔ w.toList <:+: f ++ n ++ b := by
  have hlower : lowerChars (f ++ n ++ b) = f ++ n ++ b := by
    refine lowerChars_eq_self (List.forall_mem_append.mpr ⟨List.forall_mem_append.mpr
      ⟨fun c hc => (hf.chars c hc).2, fun c hc => ?_⟩, fun c hc => (hb.chars c hc).2⟩)
    exact lowerChar_of_isNumeric (hn.isNumeric_of_mem hc)
  rw [contains, toList_lower, String.toList_ofList, hlower, occursIn_iff]

/-- **The mark that is tried first decides.** -/
theorem entryFor?_decorated (hmarks : frontMarks ++ behindMarks ≠ []) :
    ∃ m ∈ frontMarks ++ behindMarks,
      currencyMarks.entryFor? (String.ofList (f ++ n ++ b)) = some (m, code) ∧
      ∀ m' ∈ frontMarks ++ behindMarks, currencyMarks.place m ≤ currencyMarks.place m' := by
  have hoccurs := contains_decorated_iff hf hb hn
  obtain ⟨m₀, hm₀⟩ := List.exists_mem_of_ne_nil _ hmarks
  have hsome : (currencyMarks.entryFor? (String.ofList (f ++ n ++ b))).isSome :=
    Lexicon.entryFor?_isSome_iff.mpr ⟨(m₀, code), isMark_of_mem_marks hf hb hm₀,
      (hoccurs m₀).mpr (infix_of_mem_marks hf hb hm₀)⟩
  obtain ⟨⟨w, code'⟩, hentry⟩ := Option.isSome_iff_exists.mp hsome
  obtain ⟨hw, hcontains⟩ := Lexicon.mem_of_entryFor? hentry
  have hfirst (m : String) (hm : m ∈ frontMarks ++ behindMarks) :
      currencyMarks.place w ≤ currencyMarks.place m :=
    Lexicon.place_le_of_entryFor? hentry ((hoccurs m).mpr (infix_of_mem_marks hf hb hm))
  -- what decides is part of a mark that is tried no earlier, so it is that mark
  obtain ⟨m, hm, hin⟩ := exists_mark_of_occurs hf hb hn hw ((hoccurs w).mp hcontains)
  have hmark := isMark_of_mem_marks hf hb hm
  obtain rfl : w = m := IsMark.eq_of_part hw hmark hin (hfirst m hm)
  obtain rfl : code' = code := IsMark.code_unique hw hmark
  exact ⟨w, hm, hentry, hfirst⟩

end Lowered

/-! ## What is left in front of the number -/

/-- **Whether nothing but blanks is left in front of a number** once the mark that decides has been
cut out. -/
def Clears (front behind : List String) : Prop :=
  match front with
  | [] => True
  | [m] => ∀ m' ∈ behind, currencyMarks.place m ≤ currencyMarks.place m'
  | _ :: _ :: _ => False

instance (front behind : List String) : Decidable (Clears front behind) := by
  unfold Clears
  split <;> infer_instance

/-- Of the marks in front of a number only one that is tried first clears its way. -/
theorem clears_cons_iff {m m₁ : String} {marks : List String}
    (hm : m ∈ m₁ :: marks ++ behindMarks) (hmark : IsMark code m)
    (hfirst : ∀ m' ∈ m₁ :: marks ++ behindMarks, currencyMarks.place m ≤ currencyMarks.place m') :
    Clears (m₁ :: marks) behindMarks ↔ m = m₁ ∧ marks = [] := by
  cases marks with
  | nil =>
    refine ⟨fun h => ⟨?_, rfl⟩, ?_⟩
    · rcases List.mem_cons.mp hm with heq | hbehind
      · exact heq
      · exact hmark.eq_of_place (Nat.le_antisymm (hfirst m₁ List.mem_cons_self) (h m hbehind))
    · rintro ⟨rfl, -⟩ m' hm'
      exact hfirst m' (List.mem_cons_of_mem m hm')
  | cons m₂ marks => exact iff_of_false id fun h => List.cons_ne_nil m₂ marks h.2

/-- A text that starts with a mark has no number. -/
theorem leadingNumber?_mark {m : String} (h : IsMark code m) (t : List Char) :
    leadingNumber? (m.toList ++ t) = none := by
  obtain ⟨c, s, hm⟩ := List.exists_cons_of_ne_nil h.ne_nil
  have hc := h.isMarkChar_of_mem (hm ▸ List.mem_cons_self)
  rw [hm]
  exact leadingNumber?_eq_none hc.notBlank hc.notNumeric hc.notMinus _

section Cut

variable {f b : List Char} {m m₁ : String} {marks : List String}

/-- **No mark in front**: the number is read. -/
theorem leadingNumber?_cut_behind (hf : Decoration id code f [])
    (hb : Decoration id code b behindMarks) (hn : IsNumeral n whole fraction)
    (hm : IsMark code m) :
    leadingNumber? (replaceFirst (f ++ n ++ b) m.toList [' ']) =
      some (decimalValue whole fraction) := by
  have hblank := hf.isBlank_of_nil
  have hrun : ∀ c ∈ f ++ n, ¬IsMarkChar c := List.forall_mem_append.mpr
    ⟨fun c hc => IsMarkChar.not_of_isBlank (hblank c hc),
      fun c hc => IsMarkChar.not_of_isNumeric (hn.isNumeric_of_mem hc)⟩
  have hstop (c : Char) (hc : c ∈ (replaceFirst b m.toList [' ']).head?) :
      isNumeric c = false := by
    rcases mem_replaceFirst (List.mem_of_head? hc) with hc | hc
    · exact (hb.chars c hc).1
    · rw [List.mem_singleton.mp hc]
      rfl
  rw [hm.replaceFirst_append hrun, List.append_assoc, leadingNumber?_blanks hblank,
    hn.leadingNumber?_eq hstop]

/-- **The first mark in front is cut out**: the number is read if no other stands there. -/
theorem leadingNumber?_cut_first (hf : Decoration id code f (m :: marks))
    (hb : Decoration id code b behindMarks) (hn : IsNumeral n whole fraction) :
    leadingNumber? (replaceFirst (f ++ n ++ b) m.toList [' ']) =
      if marks = [] then some (decimalValue whole fraction) else none := by
  have hm := hf.isMark_of_mem List.mem_cons_self
  obtain ⟨blanks, rest, hblanks, rfl, hrest⟩ := hf.exists_of_cons
  have hsplit : blanks ++ (m.toList ++ rest) ++ n ++ b =
      blanks ++ (m.toList ++ (rest ++ n ++ b)) := by
    simp only [List.append_assoc]
  have hspace : ∀ c ∈ [' '], isBlank c = true := List.all_eq_true.mp rfl
  rw [hsplit, hm.replaceFirst_append fun c hc => IsMarkChar.not_of_isBlank (hblanks c hc),
    leadingNumber?_blanks hblanks, replaceFirst_at_start hm.ne_nil, leadingNumber?_blanks hspace]
  cases marks with
  | nil =>
    have hstop (c : Char) (hc : c ∈ b.head?) : isNumeric c = false :=
      (hb.chars c (List.mem_of_head? hc)).1
    rw [List.append_assoc, leadingNumber?_blanks hrest.isBlank_of_nil,
      hn.leadingNumber?_eq hstop, if_pos rfl]
  | cons m₂ marks =>
    have hm₂ := hrest.isMark_of_mem List.mem_cons_self
    obtain ⟨blanks₂, rest₂, hblanks₂, rfl, -⟩ := hrest.exists_of_cons
    have hsplit₂ : blanks₂ ++ (m₂.toList ++ rest₂) ++ n ++ b =
        blanks₂ ++ (m₂.toList ++ (rest₂ ++ n ++ b)) := by
      simp only [List.append_assoc]
    rw [hsplit₂, leadingNumber?_blanks hblanks₂, leadingNumber?_mark hm₂,
      if_neg (List.cons_ne_nil m₂ marks)]

/-- **Another mark is cut out**, and the first one stays in front of the number. -/
theorem leadingNumber?_cut_other (hf : Decoration id code f (m₁ :: marks)) (hm : IsMark code m)
    (hne : m ≠ m₁) (t r : List Char) :
    leadingNumber? (replaceFirst (f ++ t) m.toList r) = none := by
  have hm₁ := hf.isMark_of_mem List.mem_cons_self
  obtain ⟨blanks, rest, hblanks, rfl, -⟩ := hf.exists_of_cons
  have hstays : ¬m.toList <+: m₁.toList ++ (rest ++ t) := by
    intro hstart
    rcases List.prefix_or_prefix_of_prefix hstart (List.prefix_append _ _) with h | h
    · exact hne (hm.eq_of_start hm₁ h)
    · exact hne (hm₁.eq_of_start hm h).symm
  obtain ⟨c, s, hcs⟩ := List.exists_cons_of_ne_nil hm₁.ne_nil
  have hc := hm₁.isMarkChar_of_mem (hcs ▸ List.mem_cons_self)
  rw [List.append_assoc, List.append_assoc,
    hm.replaceFirst_append fun c hc => IsMarkChar.not_of_isBlank (hblanks c hc),
    leadingNumber?_blanks hblanks]
  rw [hcs, List.cons_append] at hstays ⊢
  rw [replaceFirst_cons hstays, leadingNumber?_eq_none hc.notBlank hc.notNumeric hc.notMinus]

end Cut

/-- **The number is read once its way is cleared**, and no number is read otherwise. -/
theorem leadingNumber?_cut {f b : List Char} {m : String}
    (hf : Decoration id code f frontMarks) (hb : Decoration id code b behindMarks)
    (hn : IsNumeral n whole fraction) (hm : m ∈ frontMarks ++ behindMarks)
    (hfirst : ∀ m' ∈ frontMarks ++ behindMarks, currencyMarks.place m ≤ currencyMarks.place m') :
    leadingNumber? (replaceFirst (f ++ n ++ b) m.toList [' ']) =
      if Clears frontMarks behindMarks then some (decimalValue whole fraction) else none := by
  have hmark := isMark_of_mem_marks hf hb hm
  cases frontMarks with
  | nil =>
    rw [leadingNumber?_cut_behind hf hb hn hmark]
    exact (if_pos trivial).symm
  | cons m₁ marks =>
    by_cases heq : m = m₁
    · obtain rfl := heq
      rw [leadingNumber?_cut_first hf hb hn]
      refine if_congr ?_ rfl rfl
      rw [clears_cons_iff hm hmark hfirst, and_iff_right rfl]
    · rw [List.append_assoc, leadingNumber?_cut_other hf hmark heq, if_neg]
      rw [clears_cons_iff hm hmark hfirst]
      exact fun h => heq h.1

/-- **A price between the marks of its currency** is read just if its way is cleared; the currency
is found in any case. -/
theorem price_of_decorated (hfront : Decoration lowerChars code front frontMarks)
    (hbehind : Decoration lowerChars code behind behindMarks)
    (hmarks : frontMarks ++ behindMarks ≠ []) (hn : IsNumeral n whole fraction) :
    price (.text (String.ofList (front ++ n ++ behind))) =
      (if Clears frontMarks behindMarks then positive? (decimalValue whole fraction) else none,
        some code) := by
  obtain ⟨f, b, htext, hf, hb⟩ := lowered_trimmed hfront hbehind hn
  obtain ⟨m, hm, hentry, hfirst⟩ := entryFor?_decorated hf hb hn hmarks
  rw [price, String.toList_ofList, htext, hentry]
  dsimp only
  rw [leadingNumber?_cut hf hb hn hm hfirst]
  split <;> rfl

/-- The longer mark stands in front, and the number is read. -/
theorem price_of_leadingDollarMark :
    Decoration lowerChars "USD" ['U', 's', '$', ' '] ["us$"] ∧
    Decoration lowerChars "USD" [' ', 'u', 's', 'd'] ["usd"] ∧
    ["us$"] ++ ["usd"] ≠ [] ∧
    IsNumeral "1,200.50".toList ['1', '2', '0', '0'] ['5', '0'] ∧
    Clears ["us$"] ["usd"] ∧
    price (.text "Us$ 1,200.50 usd") =
      (positive? (decimalValue ['1', '2', '0', '0'] ['5', '0']), some "USD") := by
  have hdollar : IsMark "USD" "us$" := by
    rw [IsMark, currencyMarks_entries]
    decide
  have hcode : IsMark "USD" "usd" := by
    rw [IsMark, currencyMarks_entries]
    decide
  have hspelled : lowerChars ['U', 's', '$'] = "us$".toList := by decide
  have hspelled' : lowerChars ['u', 's', 'd'] = "usd".toList := by decide
  have hfront : Decoration lowerChars "USD" ['U', 's', '$', ' '] ["us$"] :=
    .mark hdollar hspelled (.blank rfl .nil)
  have hbehind : Decoration lowerChars "USD" [' ', 'u', 's', 'd'] ["usd"] :=
    .blank rfl (.mark hcode hspelled' .nil)
  have hn : IsNumeral "1,200.50".toList ['1', '2', '0', '0'] ['5', '0'] :=
    ⟨.inl (by decide), List.all_eq_true.mp rfl, by decide⟩
  have hclears : Clears ["us$"] ["usd"] := by
    unfold Clears Lexicon.place Lexicon.words
    rw [currencyMarks_entries]
    decide
  have hprice := price_of_decorated hfront hbehind (by decide) hn
  rw [if_pos hclears] at hprice
  exact ⟨hfront, hbehind, by decide, hn, hclears, hprice⟩

/-- **A price that is lost**: the longer mark stands behind the number and is cut out there, and the
shorter one stays in front. -/
theorem price_lost_between_dollarMarks :
    Decoration lowerChars "USD" ['$'] ["$"] ∧
    Decoration lowerChars "USD" [' ', 'U', 'S', 'D'] ["usd"] ∧
    IsNumeral ['1', '.', '2', '0'] ['1'] ['2', '0'] ∧
    "$1.20 USD" = String.ofList (['$'] ++ ['1', '.', '2', '0'] ++ [' ', 'U', 'S', 'D']) ∧
    positive? (decimalValue ['1'] ['2', '0']) = some (decimalValue ['1'] ['2', '0']) ∧
    price (.text "$1.20 USD") = (none, some "USD") := by
  have hdollar : IsMark "USD" "$" := by
    rw [IsMark, currencyMarks_entries]
    decide
  have hcode : IsMark "USD" "usd" := by
    rw [IsMark, currencyMarks_entries]
    decide
  have hspelled : lowerChars ['$'] = "$".toList := by decide
  have hspelled' : lowerChars ['U', 'S', 'D'] = "usd".toList := by decide
  have hpositive : Decimal.isPositive (decimalValue ['1'] ['2', '0']) = true := by
    decide +kernel
  have hprice : price (.text "$1.20 USD") = (none, some "USD") := by
    rw [price, Lexicon.entryFor?, currencyMarks_entries]
    rfl
  exact ⟨.mark hdollar hspelled .nil, .blank rfl (.mark hcode hspelled' .nil),
    ⟨.inl (by decide), List.all_eq_true.mp rfl, by decide⟩, rfl, if_pos hpositive, hprice⟩

end PartSourcing.Loose
