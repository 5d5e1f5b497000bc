import Mathlib.Data.List.DropRight
import PartSourcing.Listing.Coercion
import PartSourcing.Proofs.Decimal.Padded

/-!
# The number at the start of a text

A decimal number in text has digits with at most one point and commas anywhere among them
(`IsNumeral`), and stands for the double nearest to what its digits say (`decimalValue`).  It ends
before anything that is neither a digit nor a point nor a comma: **whatever follows, the number at
the start of a text is read as it is** (`IsNumeral.leadingNumber?_eq`).  Blanks in front do not
matter, and a text that starts with anything else has no number.
-/

namespace PartSourcing.Loose

open PartSourcing.Decimal PartSourcing.Text

/-! ## Characters of numbers -/

/-- The characters that may stand inside a number. -/
def numericChars : List Char := ['0', '1', '2', '3', '4', '5', '6', '7', '8', '9', '.', ',']

theorem mem_numericChars {c : Char} (h : isNumeric c = true) : c ∈ numericChars := by
  rw [isNumeric, Bool.or_eq_true, Bool.or_eq_true, beq_iff_eq, beq_iff_eq] at h
  rcases h with (hc | rfl) | rfl
  · have key : ∀ n < 58, 48 ≤ n → Char.ofNat n ∈ numericChars := by decide
    rw [Char.isDigit, Bool.and_eq_true, decide_eq_true_eq, decide_eq_true_eq] at hc
    have hmem := key c.toNat (Nat.lt_succ_of_le hc.2) hc.1
    rwa [Char.ofNat_toNat] at hmem
  · decide
  · decide

theorem isNumeric_of_isDigit {c : Char} (h : c.isDigit = true) : isNumeric c = true := by
  rw [isNumeric, h, Bool.true_or, Bool.true_or]

/-- What holds of each of these characters. -/
theorem of_isNumeric {p : Char → Bool} (hall : numericChars.all p = true) {c : Char}
    (h : isNumeric c = true) : p c = true :=
  List.all_eq_true.mp hall c (mem_numericChars h)

theorem isBlank_of_isNumeric {c : Char} (h : isNumeric c = true) : isBlank c = false := by
  have key : numericChars.all (fun d => !isBlank d) = true := by decide
  exact (Bool.not_eq_true' _).mp (of_isNumeric key h)

/-- A number has no sign of its own. -/
theorem float?_eq_magnitude? {s : List Char} (hs : s ≠ []) (h : ∀ c ∈ s, isNumeric c = true) :
    float? s = magnitude? s := by
  obtain ⟨c, s, rfl⟩ := List.exists_cons_of_ne_nil hs
  have key : numericChars.all (fun d => d != '-' && d != '+') = true := by decide
  have hc := of_isNumeric key (h c List.mem_cons_self)
  simp only [Bool.and_eq_true, bne_iff_ne] at hc
  obtain ⟨hminus, hplus⟩ := hc
  unfold float?
  split
  · rename_i heq
    exact absurd (List.cons.inj heq).1 hminus
  · rename_i heq
    exact absurd (List.cons.inj heq).1 hplus
  · rfl

/-- A number is not a word. -/
theorem magnitude?_of_isNumeric {s : List Char} (hs : s ≠ []) (h : ∀ c ∈ s, isNumeric c = true) :
    magnitude? s = unsigned? s := by
  obtain ⟨c, s, rfl⟩ := List.exists_cons_of_ne_nil hs
  have key : numericChars.all (fun d => d.toLower != 'i' && d.toLower != 'n') = true := by decide
  have hc := of_isNumeric key (h c List.mem_cons_self)
  simp only [Bool.and_eq_true, bne_iff_ne] at hc
  obtain ⟨hi, hn⟩ := hc
  rw [magnitude?]
  split
  · rename_i heq
    exact absurd (List.cons.inj heq).1 hi
  · rename_i heq
    exact absurd (List.cons.inj heq).1 hi
  · rename_i heq
    exact absurd (List.cons.inj heq).1 hn
  · rfl

/-- A number is neither a word nor has it a sign. -/
theorem float?_of_isNumeric {s : List Char} (hs : s ≠ []) (h : ∀ c ∈ s, isNumeric c = true) :
    float? s = unsigned? s :=
  (float?_eq_magnitude? hs h).trans (magnitude?_of_isNumeric hs h)

/-! ## Decimal numbers -/

/-- **A decimal number in text**, with the digits before and after its point, which may be
missing. -/
structure IsNumeral (n whole fraction : List Char) : Prop where
  text : n.filter (· != ',') = whole ++ '.' :: fraction ∨
    (n.filter (· != ',') = whole ∧ fraction = [])
  digits : ∀ c ∈ whole ++ fraction, c.isDigit = true
  nonempty : whole ++ fraction ≠ []

/-- The double nearest to the number with these digits before and after its point. -/
def decimalValue (whole fraction : List Char) : Float :=
  nearestFloat ((nat? (whole ++ fraction)).getD 0) (-fraction.length)

theorem exists_digitsFrom {s : List Char} (h : ∀ c ∈ s, c.isDigit = true) (v : Nat) :
    ∃ n, digitsFrom v s = some n := by
  induction s generalizing v with
  | nil => exact ⟨v, rfl⟩
  | cons c s ih =>
    rw [List.forall_mem_cons] at h
    rw [digitsFrom, digit?, if_pos h.1, Option.bind_some]
    exact ih h.2 _

/-- Digits make a number. -/
theorem exists_nat? {s : List Char} (hs : s ≠ []) (h : ∀ c ∈ s, c.isDigit = true) :
    ∃ n, nat? s = some n := by
  rw [nat?_of_ne_nil hs]
  exact exists_digitsFrom h 0

theorem spanDigits_of_digits {s : List Char} (h : ∀ c ∈ s, c.isDigit = true) :
    spanDigits s = (s, []) := by
  rw [spanDigits, List.takeWhile_eq_self_iff.mpr h, List.dropWhile_eq_nil_iff.mpr h]

theorem spanDigits_append {s : List Char} (h : ∀ c ∈ s, c.isDigit = true) (t : List Char) :
    spanDigits (s ++ '.' :: t) = (s, '.' :: t) := by
  rw [spanDigits, List.takeWhile_append_of_pos h, List.dropWhile_append_of_pos h,
    List.takeWhile_cons_of_neg (by decide), List.dropWhile_cons_of_neg (by decide),
    List.append_nil]

/-- A number without a point. -/
theorem unsigned?_whole {whole : List Char} (hdigits : ∀ c ∈ whole, c.isDigit = true)
    (hne : whole ≠ []) : unsigned? whole = some (decimalValue whole []) := by
  obtain ⟨n, hn⟩ := exists_nat? hne hdigits
  rw [unsigned?, spanDigits_of_digits hdigits]
  simp only [List.isEmpty_eq_false_iff.mpr hne, Bool.false_and, Bool.false_eq_true, if_false,
    List.append_nil, hn, exponentPart?, decimalValue, Option.getD_some, List.length_nil]
  rfl

/-- A number with a point. -/
theorem unsigned?_point {whole fraction : List Char}
    (hdigits : ∀ c ∈ whole ++ fraction, c.isDigit = true) (hne : whole ++ fraction ≠ []) :
    unsigned? (whole ++ '.' :: fraction) = some (decimalValue whole fraction) := by
  obtain ⟨n, hn⟩ := exists_nat? hne hdigits
  rw [List.forall_mem_append] at hdigits
  have hsome : (whole.isEmpty && fraction.isEmpty) = false := by
    rw [Bool.eq_false_iff, ne_eq, Bool.and_eq_true, List.isEmpty_iff, List.isEmpty_iff]
    rintro ⟨rfl, rfl⟩
    exact hne rfl
  rw [unsigned?, spanDigits_append hdigits.1]
  simp only [spanDigits_of_digits hdigits.2, hsome, Bool.false_eq_true, if_false, hn,
    exponentPart?, decimalValue, Option.getD_some, Int.zero_sub]

/-- Points are dropped only where a text ends with one. -/
theorem dropPoints_eq_self {s : List Char} (h : ∀ hs : s ≠ [], (s.getLast hs).isDigit = true) :
    dropPoints s = s := by
  refine List.rdropWhile_eq_self_iff.mpr fun hs hlast => ?_
  have hdigit := h hs
  rw [beq_iff_eq.mp hlast] at hdigit
  exact absurd hdigit (by decide)

/-- The run of characters that a number is read from, if there is no sign. -/
theorem leadingRun_cons {c : Char} (h : c ≠ '-') (t : List Char) :
    leadingRun (c :: t) = (c :: t).takeWhile isNumeric := by
  unfold leadingRun
  split
  · rename_i heq
    exact absurd (List.cons.inj heq).1 h
  · rfl

/-- The characters of a number end before any other. -/
theorem takeWhile_isNumeric {n rest : List Char} (hn : ∀ c ∈ n, isNumeric c = true)
    (hrest : ∀ c ∈ rest.head?, isNumeric c = false) : (n ++ rest).takeWhile isNumeric = n := by
  have hstop : rest.takeWhile isNumeric = [] := by
    cases rest with
    | nil => rfl
    | cons d rest => exact List.takeWhile_cons_of_neg (Bool.eq_false_iff.mp (hrest d rfl))
  rw [List.takeWhile_append_of_pos hn, hstop, List.append_nil]

/-- The run of a number without a sign is the number. -/
theorem leadingRun_append {n rest : List Char} (hne : n ≠ []) (hn : ∀ c ∈ n, isNumeric c = true)
    (hrest : ∀ c ∈ rest.head?, isNumeric c = false) :
    leadingRun (dropLeading (n ++ rest)) = n := by
  obtain ⟨c, t, rfl⟩ := List.exists_cons_of_ne_nil hne
  have hc := hn c List.mem_cons_self
  have hminus : c ≠ '-' := by
    rintro rfl
    exact absurd hc (by decide)
  have hblank : ¬isBlank c = true := Bool.eq_false_iff.mp (isBlank_of_isNumeric hc)
  rw [List.cons_append, dropLeading, List.dropWhile_cons_of_neg hblank, leadingRun_cons hminus,
    ← List.cons_append, takeWhile_isNumeric hn hrest]

/-- The run of a number with a sign is the number with its sign. -/
theorem leadingRun_minus {n rest : List Char} (hn : ∀ c ∈ n, isNumeric c = true)
    (hrest : ∀ c ∈ rest.head?, isNumeric c = false) :
    leadingRun (dropLeading ('-' :: (n ++ rest))) = '-' :: n := by
  have hblank : ¬isBlank '-' = true := by decide
  rw [dropLeading, List.dropWhile_cons_of_neg hblank, leadingRun, takeWhile_isNumeric hn hrest]

/-- The points at the end are those after a sign. -/
theorem dropPoints_minus (s : List Char) : dropPoints ('-' :: s) = '-' :: dropPoints s := by
  unfold dropPoints
  rw [List.reverse_cons, List.dropWhile_append]
  split
  · rename_i h
    rw [List.isEmpty_iff.mp h]
    rfl
  · rw [List.reverse_append]
    rfl

/-! ## Reading -/

namespace IsNumeral

variable {n whole fraction : List Char} (h : IsNumeral n whole fraction)

include h

theorem isNumeric_of_mem {c : Char} (hc : c ∈ n) : isNumeric c = true := by
  by_cases hcomma : c = ','
  · rw [hcomma]
    rfl
  have hfilter : c ∈ n.filter (· != ',') := List.mem_filter.mpr ⟨hc, bne_iff_ne.mpr hcomma⟩
  rcases h.text with htext | ⟨htext, -⟩
  · rw [htext, List.mem_append, List.mem_cons] at hfilter
    rcases hfilter with hw | rfl | hf
    · exact isNumeric_of_isDigit (h.digits c (List.mem_append_left _ hw))
    · rfl
    · exact isNumeric_of_isDigit (h.digits c (List.mem_append_right _ hf))
  · rw [htext] at hfilter
    exact isNumeric_of_isDigit (h.digits c (List.mem_append_left _ hfilter))

theorem ne_nil : n ≠ [] := by
  rintro rfl
  rcases h.text with htext | ⟨rfl, rfl⟩
  · exact List.append_ne_nil_of_right_ne_nil whole (List.cons_ne_nil '.' fraction) htext.symm
  · exact h.nonempty rfl

theorem any_isDigit : (n.filter (· != ',')).any Char.isDigit = true := by
  obtain ⟨c, hc⟩ := List.exists_mem_of_ne_nil _ h.nonempty
  refine List.any_eq_true.mpr ⟨c, ?_, h.digits c hc⟩
  rcases h.text with htext | ⟨htext, hfraction⟩
  · rw [htext, List.mem_append, List.mem_cons]
    exact (List.mem_append.mp hc).imp_right .inr
  · rwa [hfraction, List.append_nil, ← htext] at hc

/-- A point that nothing follows does not matter. -/
theorem float?_dropPoints :
    float? (dropPoints (n.filter (· != ','))) = some (decimalValue whole fraction) := by
  have hwhole (hfraction : fraction = []) :
      float? whole = some (decimalValue whole fraction) := by
    have hdigits := h.digits
    have hne := h.nonempty
    rw [hfraction, List.append_nil] at hdigits hne
    rw [float?_of_isNumeric hne fun c hc => isNumeric_of_isDigit (hdigits c hc), hfraction,
      unsigned?_whole hdigits hne]
  have hdigits := List.forall_mem_append.mp h.digits
  rcases h.text with htext | ⟨htext, hfraction⟩
  · by_cases hfraction : fraction = []
    · have hpoint : dropPoints (whole ++ ['.']) = dropPoints whole :=
        List.rdropWhile_concat_pos _ whole '.' rfl
      rw [htext, hfraction, hpoint, dropPoints_eq_self fun hs => hdigits.1 _ (List.getLast_mem hs),
        ← hfraction, hwhole hfraction]
    · have hlast : dropPoints (whole ++ '.' :: fraction) = whole ++ '.' :: fraction := by
        refine dropPoints_eq_self fun hs => hdigits.2 _ ?_
        rw [List.getLast_append_of_ne_nil _ (List.cons_ne_nil '.' fraction),
          List.getLast_cons hfraction]
        exact List.getLast_mem hfraction
      rw [htext, hlast, float?_of_isNumeric (List.append_ne_nil_of_right_ne_nil _
        (List.cons_ne_nil '.' fraction)) ?_, unsigned?_point h.digits h.nonempty]
      intro c hc
      rw [← htext] at hc
      exact h.isNumeric_of_mem (List.mem_filter.mp hc).1
  · rw [htext, dropPoints_eq_self fun hs => hdigits.1 _ (List.getLast_mem hs), hwhole hfraction]

/-- **The number at the start of a text is read as it is**, whatever follows. -/
theorem leadingNumber?_eq {rest : List Char} (hrest : ∀ c ∈ rest.head?, isNumeric c = false) :
    leadingNumber? (n ++ rest) = some (decimalValue whole fraction) := by
  have hrun : leadingRun (dropLeading (n ++ rest)) = n :=
    leadingRun_append h.ne_nil (fun _ => h.isNumeric_of_mem) hrest
  rw [leadingNumber?, hrun, if_pos h.any_isDigit, h.float?_dropPoints]

end IsNumeral

/-- Blanks in front of a number do not matter. -/
theorem leadingNumber?_blanks {s : List Char} (h : ∀ c ∈ s, isBlank c = true) (t : List Char) :
    leadingNumber? (s ++ t) = leadingNumber? t := by
  rw [leadingNumber?, leadingNumber?, dropLeading, List.dropWhile_append_of_pos h, dropLeading]

/-- **A text that starts with anything else has no number.** -/
theorem leadingNumber?_eq_none {c : Char} (hblank : isBlank c = false) (hc : isNumeric c = false)
    (hminus : c ≠ '-') (t : List Char) : leadingNumber? (c :: t) = none := by
  have hrun : leadingRun (dropLeading (c :: t)) = [] := by
    rw [dropLeading, List.dropWhile_cons_of_neg (Bool.eq_false_iff.mp hblank),
      leadingRun_cons hminus, List.takeWhile_cons_of_neg (Bool.eq_false_iff.mp hc)]
  rw [leadingNumber?, hrun]
  rfl

end PartSourcing.Loose
