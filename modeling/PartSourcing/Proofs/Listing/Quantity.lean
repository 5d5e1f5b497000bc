import PartSourcing.Proofs.Decimal.Nearest
import PartSourcing.Proofs.Listing.LeadingNumber

/-!
# Quantities

A quantity is a whole number from zero to the greatest there is, and a number that is none of them
is not a quantity.  **A number is taken as just what it denotes** (`wholeQuantity?_eq_some_iff`),
except the first that is too great.

A text that starts with an integer (`StartsWith`) is taken as the double nearest to it
(`StartsWith.exists_leadingNumber?`).  **So an integer that a double denotes is taken as it is**,
and that is each of 53 bits or less; what is negative is no quantity, and neither is what is
nearer to a double that is too great (`StartsWith.quantity?_eq_some_iff`).  Any other is rounded
first (`quantity?_rounded`).
-/

namespace PartSourcing.Loose

open PartSourcing.Decimal PartSourcing.Text

/-! ## Numbers -/

/-- **A number is taken as just what it denotes**, if that is a quantity. -/
theorem wholeQuantity?_eq_some_iff {x : Float} {v : ℚ} (hx : exactValue? x = some v)
    (hv : v ≠ 2 ^ 64) (n : UInt64) : wholeQuantity? x = some n ↔ v = n.toNat := by
  have hlt := n.toNat_lt
  unfold wholeQuantity?
  cases hk : wholeNat? x with
  | none =>
    refine iff_of_false nofun fun h => ?_
    rw [h] at hx
    exact absurd (wholeNat?_eq_some_iff.mpr hx) (hk ▸ nofun)
  | some k =>
    have hmax : maxQuantity = 2 ^ 64 - 1 := rfl
    obtain rfl : v = k := Option.some.inj (hx.symm.trans (wholeNat?_eq_some_iff.mp hk))
    have hne : k ≠ 2 ^ 64 := fun h => hv (by rw [h]; norm_num)
    dsimp only
    rw [Nat.cast_inj]
    by_cases hle : k ≤ maxQuantity + 1
    · have hfits : k < UInt64.size := by
        have hsize : UInt64.size = 2 ^ 64 := rfl
        omega
      rw [if_pos hle, min_eq_left (by omega), Option.some_inj, ← UInt64.toNat_inj,
        UInt64.toNat_ofNat_of_lt' hfits]
    · rw [if_neg hle]
      exact iff_of_false nofun (by omega)

/-- What denotes no number is no quantity. -/
theorem wholeQuantity?_eq_none {x : Float} (hx : exactValue? x = none) :
    wholeQuantity? x = none := by
  rw [wholeQuantity?, wholeNat?, Option.map_eq_none_iff.mp hx]

/-! ## Integers in text -/

/-- **A natural in text**: its digits, with commas anywhere among them and points after them. -/
structure IsWhole (n whole : List Char) : Prop where
  text : ∃ points, n.filter (· != ',') = whole ++ List.replicate points '.'
  digits : ∀ c ∈ whole, c.isDigit = true
  nonempty : whole ≠ []

/-- **A text that starts with an integer**, after blanks and before anything that does not belong to
a number. -/
inductive StartsWith : List Char → ℤ → Prop where
  | natural {blanks n whole rest : List Char} {k : Nat} (hblanks : ∀ c ∈ blanks, isBlank c = true)
      (hn : IsWhole n whole) (hk : nat? whole = some k)
      (hrest : ∀ c ∈ rest.head?, isNumeric c = false) : StartsWith (blanks ++ (n ++ rest)) k
  | negative {blanks n whole rest : List Char} {k : Nat} (hblanks : ∀ c ∈ blanks, isBlank c = true)
      (hn : IsWhole n whole) (hk : nat? whole = some k)
      (hrest : ∀ c ∈ rest.head?, isNumeric c = false) :
      StartsWith (blanks ++ ('-' :: (n ++ rest))) (-k)

namespace IsWhole

variable {n whole : List Char} (h : IsWhole n whole)

include h

theorem isNumeric_of_mem {c : Char} (hc : c ∈ n) : isNumeric c = true := by
  obtain ⟨points, htext⟩ := h.text
  by_cases hcomma : c = ','
  · rw [hcomma]
    rfl
  have hfilter : c ∈ n.filter (· != ',') := List.mem_filter.mpr ⟨hc, bne_iff_ne.mpr hcomma⟩
  rw [htext, List.mem_append] at hfilter
  rcases hfilter with hwhole | hpoint
  · exact isNumeric_of_isDigit (h.digits c hwhole)
  · rw [List.eq_of_mem_replicate hpoint]
    rfl

theorem ne_nil : n ≠ [] := by
  obtain ⟨points, htext⟩ := h.text
  rintro rfl
  exact h.nonempty (List.append_eq_nil_iff.mp htext.symm).1

theorem any_isDigit : (n.filter (· != ',')).any Char.isDigit = true := by
  obtain ⟨points, htext⟩ := h.text
  obtain ⟨c, hc⟩ := List.exists_mem_of_ne_nil _ h.nonempty
  rw [htext]
  exact List.any_eq_true.mpr ⟨c, List.mem_append_left _ hc, h.digits c hc⟩

/-- The points at the end are dropped. -/
theorem dropPoints_eq : dropPoints (n.filter (· != ',')) = whole := by
  obtain ⟨points, htext⟩ := h.text
  have hself := dropPoints_eq_self fun hs => h.digits _ (List.getLast_mem hs)
  have hpoints : ∀ c ∈ List.replicate points '.', (c == '.') = true := fun c hc => by
    rw [List.eq_of_mem_replicate hc]
    rfl
  rw [htext, dropPoints, List.reverse_append, List.reverse_replicate,
    List.dropWhile_append_of_pos hpoints, ← dropPoints, hself]

/-- What its digits are read as. -/
theorem magnitude?_eq {k : Nat} (hk : nat? whole = some k) :
    magnitude? whole = some (nearestFloat k 0) := by
  rw [magnitude?_of_isNumeric h.nonempty fun c hc => isNumeric_of_isDigit (h.digits c hc),
    unsigned?_whole h.digits h.nonempty, decimalValue, List.append_nil, hk]
  rfl

end IsWhole

namespace StartsWith

variable {s : List Char} {z : ℤ} (h : StartsWith s z)

include h

/-- **A text that starts with an integer is read as the double nearest to it**, unless it is out of
reach. -/
theorem exists_leadingNumber? : ∃ x, leadingNumber? s = some x ∧
    (IsNearest x z ∨ (1023 ≤ z.natAbs.log2 ∧ exactValue? x = none)) := by
  cases h with
  | @natural blanks n whole rest k hblanks hn hk hrest =>
    refine ⟨nearestFloat k 0, ?_, ?_⟩
    · rw [leadingNumber?_blanks hblanks, leadingNumber?,
        leadingRun_append hn.ne_nil (fun _ => hn.isNumeric_of_mem) hrest, if_pos hn.any_isDigit,
        hn.dropPoints_eq, float?_eq_magnitude? hn.nonempty
          fun c hc => isNumeric_of_isDigit (hn.digits c hc), hn.magnitude?_eq hk]
    · rw [Int.cast_natCast, Int.natAbs_natCast]
      exact (isNearest_nearestFloat k).imp (·.1) fun h => ⟨h.1, h.2.1⟩
  | @negative blanks n whole rest k hblanks hn hk hrest =>
    refine ⟨-nearestFloat k 0, ?_, ?_⟩
    · have hfilter : ('-' :: n).filter (· != ',') = '-' :: n.filter (· != ',') := rfl
      have hany : ('-' :: n.filter (· != ',')).any Char.isDigit = true := hn.any_isDigit
      rw [leadingNumber?_blanks hblanks, leadingNumber?,
        leadingRun_minus (fun _ => hn.isNumeric_of_mem) hrest, hfilter, if_pos hany,
        dropPoints_minus, hn.dropPoints_eq, float?, hn.magnitude?_eq hk]
      rfl
    · rw [Int.cast_neg, Int.cast_natCast, Int.natAbs_neg, Int.natAbs_natCast]
      exact (isNearest_nearestFloat k).imp (·.2) fun h => ⟨h.1, h.2.2⟩

end StartsWith

/-! ## Integers that are not rounded -/

section Nearest

variable {x : Float} {z : ℤ} (h : IsNearest x z)

include h

/-- An integer that a double denotes is taken as it is. -/
theorem wholeQuantity?_of_exact {y : Float} (hy : exactValue? y = some (z : ℚ)) (hz : z ≠ 2 ^ 64)
    (n : UInt64) : wholeQuantity? x = some n ↔ z = n.toNat := by
  have hne : (z : ℚ) ≠ 2 ^ 64 := by exact_mod_cast hz
  rw [wholeQuantity?_eq_some_iff (h.exactValue?_eq hy) hne]
  exact_mod_cast Iff.rfl

/-- What is negative is no quantity. -/
theorem wholeQuantity?_of_neg (hneg : z < 0) : wholeQuantity? x = none := by
  have hone : (Float.ofBits 0xBFF0000000000000).toModel.unpack =
      .finite .negative (2 ^ 52) (-52) (Nat.two_pow_pos 52) := rfl
  have hy : exactValue? (Float.ofBits 0xBFF0000000000000) = some (-1 : ℚ) := by
    rw [exactValue?_of_unpack hone]
    norm_num [Dyadic.value, Dyadic.magnitude, isNegative]
  obtain ⟨v, hv⟩ := h.exists_exactValue?
  have hle : v ≤ -1 := h.le_of_ge hv hy (by exact_mod_cast Int.le_sub_one_of_lt hneg)
  have hnot (n : UInt64) : v ≠ n.toNat := by
    have := Nat.cast_nonneg (α := ℚ) n.toNat
    linarith
  have hne : v ≠ 2 ^ 64 := by linarith
  exact Option.eq_none_iff_forall_ne_some.mpr fun n hn =>
    hnot n ((wholeQuantity?_eq_some_iff hv hne n).mp hn)

/-- What is nearer to a double that is too great is no quantity. -/
theorem wholeQuantity?_of_great (hgreat : 2 ^ 64 + 2 ^ 11 < z) : wholeQuantity? x = none := by
  have hnext : (Float.ofBits 0x43F0000000000001).toModel.unpack =
      .finite .positive (2 ^ 52 + 1) 12 (Nat.succ_pos _) := rfl
  have hy : exactValue? (Float.ofBits 0x43F0000000000001) = some (2 ^ 64 + 2 ^ 12 : ℚ) := by
    rw [exactValue?_of_unpack hnext]
    norm_num [Dyadic.value, Dyadic.magnitude, isNegative]
  obtain ⟨v, hv⟩ := h.exists_exactValue?
  have hz : (2 ^ 64 + 2 ^ 11 : ℚ) < z := by exact_mod_cast hgreat
  have hlt : 2 ^ 64 < v := by
    by_cases hcmp : (2 ^ 64 + 2 ^ 12 : ℚ) ≤ z
    · have := h.le_of_le hv hy hcmp
      linarith
    · have hle := h.abs_sub_le hv hy
      rw [abs_of_pos (sub_pos.mpr (not_le.mp hcmp))] at hle
      have := neg_abs_le (v - z)
      linarith
  have hnot (n : UInt64) : v ≠ n.toNat := by
    have hn : (n.toNat : ℚ) < 2 ^ 64 := by exact_mod_cast n.toNat_lt
    linarith
  exact Option.eq_none_iff_forall_ne_some.mpr fun n hn =>
    hnot n ((wholeQuantity?_eq_some_iff hv hlt.ne' n).mp hn)

end Nearest

/-- **An integer that is taken as it is**: one of 53 bits or less, one that a double denotes, unless
it is the first that is too great, and one that is nearer to a greater double. -/
def IsKept (z : ℤ) : Prop :=
  z ≤ 2 ^ 53 ∨ (z ≠ 2 ^ 64 ∧ ∃ y, exactValue? y = some (z : ℚ)) ∨ 2 ^ 64 + 2 ^ 11 < z

/-- A natural of 53 bits or less is denoted by a double. -/
theorem IsKept.cases {z : ℤ} (h : IsKept z) :
    z < 0 ∨ (z ≠ 2 ^ 64 ∧ ∃ y, exactValue? y = some (z : ℚ)) ∨ 2 ^ 64 + 2 ^ 11 < z := by
  rcases h with hsmall | hexact | hgreat
  · by_cases hneg : z < 0
    · exact .inl hneg
    · obtain ⟨k, rfl⟩ := Int.eq_ofNat_of_zero_le (not_lt.mp hneg)
      exact .inr (.inl ⟨by omega, exists_exactValue? (by exact_mod_cast hsmall)⟩)
  · exact .inr (.inl hexact)
  · exact .inr (.inr hgreat)

/-- **An integer in text that is not rounded** is taken as just what it is, if that is a
quantity. -/
theorem StartsWith.quantity?_eq_some_iff {s : String} {z : ℤ} (h : StartsWith s.toList z)
    (hz : IsKept z) (n : UInt64) : (text s).quantity? = some n ↔ z = n.toNat := by
  have hlt := n.toNat_lt
  obtain ⟨x, hread, hnear⟩ := h.exists_leadingNumber?
  rw [quantity?, hread, Option.bind_some]
  rcases hnear with hnear | ⟨hlog, hnone⟩
  · rcases hz.cases with hneg | ⟨hne, y, hy⟩ | hgreat
    · rw [wholeQuantity?_of_neg hnear hneg]
      exact iff_of_false nofun (by omega)
    · exact wholeQuantity?_of_exact hnear hy hne n
    · rw [wholeQuantity?_of_great hnear hgreat]
      exact iff_of_false nofun (by omega)
  · rw [wholeQuantity?_eq_none hnone]
    refine iff_of_false nofun ?_
    rintro rfl
    rw [Int.natAbs_natCast] at hlog
    have hzero : n.toNat ≠ 0 := by
      intro hzero
      rw [hzero] at hlog
      exact absurd hlog (by decide)
    have := (Nat.log2_lt hzero).mpr hlt
    omega

/-- **Quantities are exact.**  A number other than the first that is too great is taken as just
what it denotes, if that is a quantity, and one that denotes nothing is not taken.  A text that
starts with an integer is taken as the double nearest to it, so the integer is taken as it is
where it is kept. -/
theorem quantity?_exact :
    (∀ x : Float,
      (∀ v : ℚ, exactValue? x = some v → v ≠ 2 ^ 64 →
        ∀ n : UInt64, (number x).quantity? = some n ↔ v = n.toNat) ∧
      (exactValue? x = none → (number x).quantity? = none)) ∧
    ∀ (s : String) (z : ℤ), StartsWith s.toList z →
      (∃ x, (text s).quantity? = (number x).quantity? ∧
        (IsNearest x z ∨ (1023 ≤ z.natAbs.log2 ∧ exactValue? x = none))) ∧
      (IsKept z → ∀ n : UInt64, (text s).quantity? = some n ↔ z = n.toNat) := by
  refine ⟨fun x => ⟨fun v hx hv => wholeQuantity?_eq_some_iff hx hv, wholeQuantity?_eq_none⟩,
    fun s z h => ⟨?_, h.quantity?_eq_some_iff⟩⟩
  obtain ⟨x, hread, hnear⟩ := h.exists_leadingNumber?
  refine ⟨x, ?_, hnear⟩
  rw [quantity?, quantity?, hread, Option.bind_some]

/-- A text with a natural that has commas, and the greatest double below the first that is too
great. -/
theorem quantity?_exact_stock :
    (text "1,234 In Stock").quantity? = some 1234 ∧
      (number (Float.ofBits 0x43EFFFFFFFFFFFFF)).quantity? = some 18446744073709549568 := by
  have hwhole : IsWhole ['1', ',', '2', '3', '4'] ['1', '2', '3', '4'] :=
    ⟨⟨0, rfl⟩, List.all_eq_true.mp rfl, List.cons_ne_nil _ _⟩
  have hstarts : StartsWith "1,234 In Stock".toList 1234 :=
    .natural (List.forall_mem_nil _) hwhole rfl
      (fun _ hc => Option.some.inj hc ▸ rfl : ∀ c ∈ " In Stock".toList.head?, isNumeric c = false)
  have hunpack : (Float.ofBits 0x43EFFFFFFFFFFFFF).toModel.unpack =
      .finite .positive (2 ^ 53 - 1) 11 (by decide) := rfl
  have hvalue : exactValue? (Float.ofBits 0x43EFFFFFFFFFFFFF) =
      some ((18446744073709549568 : ℕ) : ℚ) := by
    rw [exactValue?_of_unpack hunpack]
    norm_num [Dyadic.value, Dyadic.magnitude, isNegative]
  exact ⟨((quantity?_exact.2 _ _ hstarts).2 (.inl (by decide)) 1234).mpr rfl,
    ((quantity?_exact.1 _).1 _ hvalue (by norm_num) 18446744073709549568).mpr rfl⟩

/-- **An integer of 54 bits is rounded**: this one is a quantity, and is taken as the one before
it. -/
theorem quantity?_rounded :
    StartsWith "9007199254740993".toList 9007199254740993 ∧ 9007199254740993 < UInt64.size ∧
      (text "9007199254740993").quantity? = some 9007199254740992 ∧
      (text "9007199254740993").quantity? ≠ some 9007199254740993 := by
  have hwhole : IsWhole "9007199254740993".toList "9007199254740993".toList :=
    ⟨⟨0, rfl⟩, List.all_eq_true.mp rfl, List.cons_ne_nil _ _⟩
  have hrest : ∀ c ∈ ([] : List Char).head?, isNumeric c = false := nofun
  have hquantity : (text "9007199254740993").quantity? = some 9007199254740992 := by decide +kernel
  refine ⟨.natural (List.forall_mem_nil _) hwhole rfl hrest, by decide, hquantity, ?_⟩
  rw [hquantity]
  decide

end PartSourcing.Loose
