import PartSourcing.Proofs.Text.Occurrence
import PartSourcing.Proofs.Url.Percent
import PartSourcing.Url.Form

/-!
# Pairs of a query

The pairs that a query was written from are read in it (`decodePairs_encodePairs`): no encoded name
or value has a separator in it.  The other way round a query is not given back, since a pair may be
written in many ways.  It may be escaped, above all: **a query has the same pairs when it is escaped
for the place it stands in** (`decodePairs_escape`), although a percent sign in it need not start an
escape.
-/

namespace PartSourcing.Url.Form

open PartSourcing.Text

/-! ## Plus signs -/

/-- A character as it is read, a plus sign being a blank. -/
def unplus (c : Char) : Char := if c = '+' then ' ' else c

theorem decode_eq (s : List Char) : decode s = decodeUtf8 (unescape (s.map unplus)) := rfl

theorem unplus_of_ne {c : Char} (h : c ≠ '+') : unplus c = c := if_neg h

theorem unplus_ne_percent {c : Char} (h : c ≠ '%') : unplus c ≠ '%' := by
  unfold unplus
  split
  · decide
  · exact h

theorem hexValue?_unplus (c : Char) : hexValue? (unplus c) = hexValue? c := by
  by_cases h : c = '+'
  · rw [h]
    rfl
  · rw [unplus_of_ne h]

theorem map_unplus {s : List Char} (h : ∀ c ∈ s, c ≠ '+') : s.map unplus = s :=
  (List.map_congr_left fun c hc => unplus_of_ne (h c hc)).trans (List.map_id s)

/-! ## Names and values -/

/-- Whether a character may be written in a name or a value. -/
def isWritten (c : Char) : Bool := !inSpecialQuery c && c != '&' && c != '='

theorem sparesEscapes_isWritten : SparesEscapes fun c => !isWritten c :=
  .of_ascii (by decide) (by decide)

theorem sparesEscapes_plus : SparesEscapes (· == '+') := .of_ascii (by decide) (by decide)

/-- What stands for itself is a character of ASCII that is written, and has no other meaning. -/
theorem of_isPlain {b : UInt8} (h : isPlain b = true) :
    utf8 [Char.ofNat b.toNat] = [b] ∧ isWritten (Char.ofNat b.toNat) = true ∧
      Char.ofNat b.toNat ≠ '+' ∧ Char.ofNat b.toNat ≠ '%' := by
  have hall : ∀ n < 256, isPlain (UInt8.ofNat n) = true → utf8 [Char.ofNat n] = [UInt8.ofNat n] ∧
      isWritten (Char.ofNat n) = true ∧ Char.ofNat n ≠ '+' ∧ Char.ofNat n ≠ '%' := by
    decide +kernel
  rw [← b.ofNat_toNat] at h ⊢
  simpa using hall b.toNat b.toNat_lt (by simpa using h)

theorem isWritten_of_mem_encodeOctet {b : UInt8} {c : Char} (hc : c ∈ encodeOctet b) :
    isWritten c = true := by
  unfold encodeOctet at hc
  split_ifs at hc with hplain hblank
  · rw [List.mem_singleton.mp hc]
    exact (of_isPlain hplain).2.1
  · rw [List.mem_singleton.mp hc]
    decide
  · simpa using sparesEscapes_isWritten.of_mem_escapeOctet hc

theorem isWritten_of_mem_encode {s : List Char} {c : Char} (hc : c ∈ encode s) :
    isWritten c = true := by
  obtain ⟨b, -, hc⟩ := List.mem_flatMap.mp hc
  exact isWritten_of_mem_encodeOctet hc

theorem unescape_encodeOctet (b : UInt8) (s : List Char) :
    unescape ((encodeOctet b).map unplus ++ s) = b :: unescape s := by
  unfold encodeOctet
  split_ifs with hplain hblank
  · obtain ⟨hoctet, -, hplus, hpercent⟩ := of_isPlain hplain
    rw [map_unplus (by simpa using hplus), List.singleton_append, unescape_cons hpercent, hoctet,
      List.singleton_append]
  · rw [hblank]
    exact unescape_cons (by decide) s
  · have hplus (c : Char) (hc : c ∈ escapeOctet b) : c ≠ '+' := by
      simpa using sparesEscapes_plus.of_mem_escapeOctet hc
    rw [map_unplus hplus, unescape_escapeOctet]

/-- **A name or a value is read as it was written.** -/
theorem decode_encode (s : List Char) : decode (encode s) = s := by
  have hoctets (bs : List UInt8) : unescape ((bs.flatMap encodeOctet).map unplus) = bs := by
    induction bs with
    | nil => rfl
    | cons b bs ih =>
      rw [List.flatMap_cons, List.map_append, unescape_encodeOctet, ih]
  rw [decode_eq, encode, hoctets, decodeUtf8_utf8]

/-! ## Pairs that were written -/

theorem not_mem_encode {x : Char} (hx : isWritten x = false) (s : List Char) : x ∉ encode s := by
  intro h
  simp [isWritten_of_mem_encode h] at hx

theorem decodePair_encodePair (p : Pair) : decodePair (encodePair p) = p := by
  have hname : '=' ∉ encode p.1 := not_mem_encode (by decide) p.1
  rw [decodePair, encodePair, takeWhile_ne_append_cons hname, dropWhile_ne_append_cons hname,
    List.drop_one, List.tail_cons, decode_encode, decode_encode]

theorem mem_encodePair {p : Pair} {c : Char} (hc : c ∈ encodePair p) :
    isWritten c = true ∨ c = '=' := by
  rw [encodePair, List.mem_append, List.mem_cons] at hc
  rcases hc with hc | hc | hc
  · exact .inl (isWritten_of_mem_encode hc)
  · exact .inr hc
  · exact .inl (isWritten_of_mem_encode hc)

/-- **The pairs that a query was written from are read in it.** -/
theorem decodePairs_encodePairs (ps : List Pair) : decodePairs (encodePairs ps) = ps := by
  by_cases hps : ps = []
  · rw [hps]
    rfl
  have hclear : ∀ l ∈ ps.map encodePair, '&' ∉ l := by
    intro l hl h
    obtain ⟨p, -, rfl⟩ := List.mem_map.mp hl
    rcases mem_encodePair h with h | h
    · exact absurd h (by decide)
    · exact absurd h (by decide)
  have hfull : ∀ l ∈ ps.map encodePair, (!l.isEmpty) = true := by
    intro l hl
    obtain ⟨p, -, rfl⟩ := List.mem_map.mp hl
    simp [encodePair]
  rw [decodePairs, encodePairs, pieces_eq_splitOn,
    List.splitOn_intercalate '&' hclear (by simpa using hps), List.filter_eq_self.mpr hfull,
    List.map_map]
  exact (List.map_congr_left fun p _ => decodePair_encodePair p).trans (List.map_id ps)

/-- What is written needs no escape in a query. -/
theorem inSpecialQuery_of_mem_encodePairs {ps : List Pair} {c : Char} (hc : c ∈ encodePairs ps) :
    inSpecialQuery c = false := by
  rcases mem_intercalate hc with hc | ⟨l, hl, hc⟩
  · rw [List.mem_singleton.mp hc]
    decide
  · obtain ⟨p, -, rfl⟩ := List.mem_map.mp hl
    rcases mem_encodePair hc with hc | rfl
    · simp only [isWritten, Bool.and_eq_true, Bool.not_eq_true'] at hc
      exact hc.1.1
    · decide

/-! ## Queries that are escaped -/

/-- A character that is not escaped, and that escapes are not written with, may be cut at. -/
theorem keepsClear_escapeChar {bad : Char → Bool} {x : Char} (hx : bad x = false)
    (hspares : SparesEscapes (· == x)) : KeepsClear (escapeChar bad) x where
  same := by simp [escapeChar, hx]
  not_mem c hc h := by
    unfold escapeChar at h
    split_ifs at h
    · obtain ⟨b, -, h⟩ := List.mem_flatMap.mp h
      simpa using hspares.of_mem_escapeOctet h
    · exact hc (List.mem_singleton.mp h).symm

theorem completesEscape_of_first {a : Char} (h : hexValue? a = none) (s : List Char) :
    completesEscape (a :: s) = false := by
  cases s with
  | nil => rfl
  | cons b s => simp [completesEscape, h]

theorem completesEscape_of_second {b : Char} (h : hexValue? b = none) (a : Char) (s : List Char) :
    completesEscape (a :: b :: s) = false := by
  simp [completesEscape, h]

/-- Anything but a percent sign is read by itself. -/
theorem unescape_escapeChar {bad : Char → Bool} (hplus : bad '+' = false) {c : Char} (hc : c ≠ '%')
    (s : List Char) : unescape ((escapeChar bad c).map unplus ++ s) = unescape (unplus c :: s) := by
  by_cases hb : bad c = true
  · have hcplus : c ≠ '+' := by
      rintro rfl
      simp [hplus] at hb
    have hclear : ∀ d ∈ (utf8 [c]).flatMap escapeOctet, d ≠ '+' := by
      intro d hd
      obtain ⟨b, -, hd⟩ := List.mem_flatMap.mp hd
      simpa using sparesEscapes_plus.of_mem_escapeOctet hd
    rw [escapeChar, if_pos hb, map_unplus hclear, unescape_flatMap_escapeOctet,
      unplus_of_ne hcplus, unescape_cons hc]
  · rw [escapeChar, if_neg hb]
    rfl

section Escaped

variable {bad : Char → Bool} (hbad : SparesEscapes bad)
include hbad

theorem escapeChar_of_hex {c : Char} {n : Nat} (h : hexValue? (unplus c) = some n) :
    escapeChar bad c = [c] := by
  have hc := hbad.hex c (by rw [← hexValue?_unplus, h]; rfl)
  simp [escapeChar, hc]

/-- Where a percent sign starts an escape is the same before and after: an escape that is put in
starts with a percent sign, and what it is put in for is no hexadecimal digit either. -/
theorem completesEscape_escape (s : List Char) :
    completesEscape ((escape bad s).map unplus) = completesEscape (s.map unplus) := by
  have hnone {c : Char} (hc : bad c = true) : hexValue? (unplus c) = none := by
    rw [hexValue?_unplus]
    by_contra h
    simp [hbad.hex c (Option.isSome_iff_ne_none.mpr h)] at hc
  match s with
  | [] => rfl
  | a :: s =>
    rw [escape, List.flatMap_cons, List.map_cons]
    by_cases ha : bad a = true
    · obtain ⟨t, ht⟩ := exists_escapeChar ha
      rw [ht, completesEscape_of_first (hnone ha)]
      exact completesEscape_of_first (by decide) _
    rw [escapeChar_of_not_bad ha]
    match s with
    | [] => rfl
    | b :: s =>
      rw [List.flatMap_cons, List.map_cons]
      by_cases hb : bad b = true
      · obtain ⟨t, ht⟩ := exists_escapeChar hb
        rw [ht, completesEscape_of_second (hnone hb)]
        exact completesEscape_of_second (by decide) _ _
      rw [escapeChar_of_not_bad hb]
      rfl

/-- The octets of a text are the same when it is escaped.  The induction is on the length, since an
escape that is there takes three characters at once. -/
theorem unescape_escape (hplus : bad '+' = false) (s : List Char) :
    unescape ((escape bad s).map unplus) = unescape (s.map unplus) := by
  induction hn : s.length using Nat.strongRecOn generalizing s with
  | _ n ih =>
    subst hn
    match s with
    | [] => rfl
    | c :: s =>
      have hs := ih s.length (by simp) s rfl
      rw [escape, List.flatMap_cons, List.map_append, List.map_cons]
      by_cases hc : c = '%'
      · have hkept : escapeChar bad c = ['%'] := by simp [hc, escapeChar, hbad.percent]
        rw [hkept, hc]
        change unescape ('%' :: (escape bad s).map unplus) = unescape ('%' :: s.map unplus)
        cases h : completesEscape (s.map unplus) with
        | false =>
          have h' := (completesEscape_escape hbad s).trans h
          rw [unescape_percent h, unescape_percent h', hs]
        | true =>
          obtain ⟨a', b', t', hs', ha, hb⟩ := completesEscape_iff.mp h
          obtain ⟨a, s, rfl, rfl, htail⟩ := List.map_eq_cons_iff.mp hs'
          obtain ⟨b, t, rfl, rfl, rfl⟩ := List.map_eq_cons_iff.mp htail
          obtain ⟨high, ha⟩ := Option.isSome_iff_exists.mp ha
          obtain ⟨low, hb⟩ := Option.isSome_iff_exists.mp hb
          have ht := ih t.length (by simp only [List.length_cons]; omega) t rfl
          rw [escape, List.flatMap_cons, List.flatMap_cons, escapeChar_of_hex hbad ha,
            escapeChar_of_hex hbad hb]
          change unescape ('%' :: unplus a :: unplus b :: (escape bad t).map unplus) =
            unescape ('%' :: unplus a :: unplus b :: t.map unplus)
          rw [unescape_digits ha hb, unescape_digits ha hb, ht]
      · rw [unescape_escapeChar hplus hc, unescape_cons (unplus_ne_percent hc),
          unescape_cons (unplus_ne_percent hc)]
        exact congrArg (utf8 [unplus c] ++ ·) hs

theorem decode_escape (hplus : bad '+' = false) (s : List Char) :
    decode (escape bad s) = decode s := by
  rw [decode_eq, decode_eq, unescape_escape hbad hplus]

/-- **A query has the same pairs when it is escaped**, as long as what has a meaning in it is
not. -/
theorem decodePairs_escape (hplus : bad '+' = false) (hamp : bad '&' = false)
    (hequals : bad '=' = false) (q : List Char) :
    decodePairs (escape bad q) = decodePairs q := by
  have hpieces := keepsClear_escapeChar hamp (.of_ascii (by decide) (by decide))
  have hparts := keepsClear_escapeChar hequals (.of_ascii (by decide) (by decide))
  have hpair (s : List Char) : decodePair (escape bad s) = decodePair s := by
    rw [decodePair, escape, hparts.takeWhile_flatMap, hparts.drop_dropWhile_flatMap]
    exact congrArg₂ Prod.mk (decode_escape hbad hplus _) (decode_escape hbad hplus _)
  have hempty : (fun s => !s.isEmpty) ∘ List.flatMap (escapeChar bad) = fun s => !s.isEmpty := by
    funext s
    have hs : (escape bad s).isEmpty = s.isEmpty := by
      rw [Bool.eq_iff_iff, List.isEmpty_iff, List.isEmpty_iff, escape_eq_nil_iff]
    exact congrArg (!·) hs
  rw [decodePairs, escape, hpieces.pieces_flatMap, List.filter_map, List.map_map, hempty]
  exact List.map_congr_left fun s _ => hpair s

end Escaped

end PartSourcing.Url.Form
