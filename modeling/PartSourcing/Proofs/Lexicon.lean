import PartSourcing.Lexicon
import PartSourcing.Proofs.Sorting

/-!
# The entry that decides

A lexicon is made from entries in any order, and looking up a text in it tries the words one after
another.  What comes out is said here of the entries as they are listed, without sorting and without
trying: **the longest word that occurs decides, and of equally long ones that listed first**
(`IsFirstLongest`).  A stable sort by length leaves equally long words as they are listed, so the
first one that is tried and occurs is that one (`isFirstLongest_of_entryFor?`).

So listing the same entries in another order changes nothing about how long the deciding word is,
and nothing at all unless another word that occurs is as long (`longest_word_decides`).
-/

namespace PartSourcing.Lexicon

open PartSourcing.Text

variable {α : Type}

/-- **A listed word occurs in a text.** Both are in lower case, and a word without characters occurs
nowhere. -/
def Occurs (text : String) (x : String × α) : Prop :=
  lower x.1 ≠ "" ∧ (lower x.1).toList <:+: (lower text).toList

instance (text : String) (x : String × α) : Decidable (Occurs text x) :=
  inferInstanceAs (Decidable (_ ∧ _))

/-- **The entry that should decide**, with its word in lower case: of the listed words that occur,
none is longer, and none before it is as long. -/
inductive IsFirstLongest (text : String) : List (String × α) → String × α → Prop where
  | listed {before : List (String × α)} {x : String × α} {after : List (String × α)}
      (hoccurs : Occurs text x)
      (hbefore : ∀ y ∈ before, Occurs text y → (lower y.1).length < (lower x.1).length)
      (hafter : ∀ y ∈ after, Occurs text y → (lower y.1).length ≤ (lower x.1).length) :
      IsFirstLongest text (before ++ x :: after) (lower x.1, x.2)

namespace IsFirstLongest

variable {text : String} {entries : List (String × α)} {e : String × α}

theorem exists_mem (h : IsFirstLongest text entries e) :
    ∃ x ∈ entries, Occurs text x ∧ (lower x.1, x.2) = e := by
  cases h with
  | listed hoccurs => exact ⟨_, List.mem_append_right _ List.mem_cons_self, hoccurs, rfl⟩

/-- No word that occurs is longer. -/
theorem length_le (h : IsFirstLongest text entries e) {y : String × α} (hy : y ∈ entries)
    (hoccurs : Occurs text y) : (lower y.1).length ≤ e.1.length := by
  cases h with
  | listed _ hbefore hafter =>
    rcases List.mem_append.mp hy with hy | hy
    · exact (hbefore y hy hoccurs).le
    · rcases List.mem_cons.mp hy with rfl | hy
      · exact le_rfl
      · exact hafter y hy hoccurs

end IsFirstLongest

theorem contains_lower_iff_occurs {text : String} {x : String × α} :
    (lower x.1).isEmpty = false ∧ contains (lower text) (lower x.1) = true ↔ Occurs text x := by
  rw [contains, occursIn_iff, Occurs, ne_eq, ← String.isEmpty_iff, Bool.not_eq_true]

/-- **There is an entry that decides** just if some word that is listed occurs. -/
theorem entryFor?_ofList_isSome_iff {entries : List (String × α)} {text : String} :
    ((ofList entries).entryFor? text).isSome ↔ ∃ x ∈ entries, Occurs text x := by
  rw [entryFor?_isSome_iff]
  simp only [ofList, List.mem_mergeSort, List.mem_filter, List.mem_map]
  constructor
  · rintro ⟨e, ⟨⟨x, hx, rfl⟩, hword⟩, hoccurs⟩
    exact ⟨x, hx, contains_lower_iff_occurs.mp ⟨by simpa using hword, hoccurs⟩⟩
  · rintro ⟨x, hx, hoccurs⟩
    obtain ⟨hword, hcontains⟩ := contains_lower_iff_occurs.mpr hoccurs
    exact ⟨_, ⟨⟨x, hx, rfl⟩, by simpa using hword⟩, hcontains⟩

/-- Words are tried by their lengths, the longest first. -/
theorem precedes_goesBy_length :
    Sorting.GoesBy precedes fun e : String × α => OrderDual.toDual e.1.length :=
  fun _ _ => decide_eq_true_iff

/-- The entries of a lexicon are the listed ones with their words in lower case, stably sorted. -/
theorem entries_ofList {entries listed : List (String × α)}
    (h : Sorting.StablySorted (fun e => OrderDual.toDual e.1.length)
      ((entries.map fun (w, a) => (lower w, a)).filter fun (w, _) => !w.isEmpty) listed) :
    (ofList entries).entries = listed :=
  (precedes_goesBy_length.stablySorted_mergeSort _).unique h
/-- **What decides is the longest word that occurs**, and of equally long ones that listed first. -/
theorem isFirstLongest_of_entryFor? {entries : List (String × α)} {text : String} {e : String × α}
    (h : (ofList entries).entryFor? text = some e) : IsFirstLongest text entries e := by
  obtain ⟨hlongest, hfirst⟩ :=
    (precedes_goesBy_length.stablySorted_mergeSort _).of_find?_eq_some h
  rw [List.find?_filter, List.find?_map] at hfirst
  obtain ⟨x, hx, rfl⟩ := Option.map_eq_some_iff.mp hfirst
  obtain ⟨hdecides, before, after, rfl, hbefore⟩ := List.find?_eq_some_iff_append.mp hx
  simp only [Function.comp_apply, decide_eq_true_eq, Bool.and_eq_true, Bool.not_eq_true',
    OrderDual.toDual_inj] at hdecides hbefore
  -- none that is listed and occurs is longer
  have hle (y : String × α) (hy : y ∈ before ++ x :: after) (hoccurs : Occurs text y) :
      (lower y.1).length ≤ (lower x.1).length := by
    obtain ⟨hword, hcontains⟩ := contains_lower_iff_occurs.mpr hoccurs
    have hlisted : (!(lower y.1).isEmpty) = true := by rw [hword, Bool.not_false]
    exact hlongest (lower y.1, y.2)
      (List.mem_filter.mpr ⟨List.mem_map.mpr ⟨y, hy, rfl⟩, hlisted⟩) hcontains
  refine .listed (contains_lower_iff_occurs.mp ⟨hdecides.1, hdecides.2.2⟩) (fun y hy hoccurs => ?_)
    fun y hy => hle y (List.mem_append_right _ (List.mem_cons_of_mem x hy))
  refine lt_of_le_of_ne (hle y (List.mem_append_left _ hy) hoccurs) fun hlength => ?_
  obtain ⟨hword, hcontains⟩ := contains_lower_iff_occurs.mpr hoccurs
  have hnot := hbefore y hy
  rw [decide_eq_false_iff_not] at hnot
  exact hnot ⟨hword, hlength, hcontains⟩

/-- Of two arrangements of the same entries, one that decides in the one occurs in the other. -/
theorem IsFirstLongest.length_eq {entries entries' : List (String × α)} {text : String}
    {e e' : String × α} (h : IsFirstLongest text entries e) (h' : IsFirstLongest text entries' e')
    (hperm : entries'.Perm entries) : e'.1.length = e.1.length := by
  obtain ⟨x, hx, hoccurs, rfl⟩ := h.exists_mem
  obtain ⟨x', hx', hoccurs', rfl⟩ := h'.exists_mem
  exact le_antisymm (h.length_le (hperm.mem_iff.mp hx') hoccurs')
    (h'.length_le (hperm.mem_iff.mpr hx) hoccurs)

/-- **The longest word that occurs decides**, and of equally long ones that listed first.  Listing
the entries in another order changes nothing about the length of the deciding word, nothing about
the word if no other one as long occurs, and nothing at all if no other entry with a word as long
does. -/
theorem longest_word_decides (entries : List (String × α)) (text : String) :
    (((ofList entries).entryFor? text).isSome ↔ ∃ x ∈ entries, Occurs text x) ∧
    (∀ e, (ofList entries).entryFor? text = some e → IsFirstLongest text entries e) ∧
    ∀ entries' : List (String × α), entries'.Perm entries →
      ((ofList entries').entryFor? text).map (·.1.length) =
        ((ofList entries).entryFor? text).map (·.1.length) ∧
      ∀ e, (ofList entries).entryFor? text = some e →
        ((∀ y ∈ entries, Occurs text y → (lower y.1).length = e.1.length → lower y.1 = e.1) →
          ((ofList entries').entryFor? text).map (·.1) = some e.1) ∧
        ((∀ y ∈ entries, Occurs text y → (lower y.1).length = e.1.length →
            (lower y.1, y.2) = e) →
          (ofList entries').entryFor? text = some e) := by
  refine ⟨entryFor?_ofList_isSome_iff, fun _ => isFirstLongest_of_entryFor?, ?_⟩
  intro entries' hperm
  have hsome : ((ofList entries').entryFor? text).isSome ↔
      ((ofList entries).entryFor? text).isSome := by
    rw [entryFor?_ofList_isSome_iff, entryFor?_ofList_isSome_iff]
    exact exists_congr fun x => and_congr_left' hperm.mem_iff
  cases he : (ofList entries).entryFor? text with
  | none =>
    rw [he] at hsome
    have hnone : (ofList entries').entryFor? text = none := by
      rw [← Option.not_isSome_iff_eq_none, hsome]
      exact Bool.false_ne_true
    rw [hnone]
    exact ⟨rfl, nofun⟩
  | some e =>
    obtain ⟨e', he'⟩ := Option.isSome_iff_exists.mp (hsome.mpr (he ▸ rfl))
    have hfirst := isFirstLongest_of_entryFor? he
    have hfirst' := isFirstLongest_of_entryFor? he'
    have hlength := hfirst.length_eq hfirst' hperm
    obtain ⟨x', hx', hoccurs', hx'e⟩ := hfirst'.exists_mem
    rw [he']
    refine ⟨congrArg some hlength, ?_⟩
    rintro _ ⟨⟩
    subst hx'e
    have hmem := hperm.mem_iff.mp hx'
    exact ⟨fun hword => congrArg some (hword x' hmem hoccurs' hlength),
      fun hentry => congrArg some (hentry x' hmem hoccurs' hlength)⟩

/-- Words of which one is part of another, one has no characters, two are as long as each other, and
one is longer in lower case than as it is listed. -/
def overlapping : List (String × Nat) :=
  [("$", 1), ("CA$", 2), ("C$", 3), ("", 4), ("a$1", 5), ("İ", 6)]

/-- Two of the longest words that occur are as long, so the order of the entries tells them apart;
where just one is that long, it does not. -/
theorem longest_word_decides_overlapping :
    ((ofList overlapping).entryFor? "Ca$12").map (·.1.length) = some 3 ∧
    ((ofList overlapping.reverse).entryFor? "Ca$12").map (·.1.length) = some 3 ∧
    IsFirstLongest "Ca$12" overlapping ("ca$", 2) ∧
    IsFirstLongest "Ca$12" overlapping.reverse ("a$1", 5) ∧
    (ofList overlapping).entryFor? "$1 in İzmir" = some ("i̇", 6) ∧
    (ofList overlapping.reverse).entryFor? "$1 in İzmir" = some ("i̇", 6) := by
  have hperm : overlapping.reverse.Perm overlapping := List.reverse_perm _
  have hlisted : (ofList overlapping).entries =
      [("ca$", 2), ("a$1", 5), ("c$", 3), ("i̇", 6), ("$", 1)] :=
    entries_ofList (.of_keys (by decide +kernel) (by decide +kernel) (by decide +kernel))
  have hreversed : (ofList overlapping.reverse).entries =
      [("a$1", 5), ("ca$", 2), ("i̇", 6), ("c$", 3), ("$", 1)] :=
    entries_ofList (.of_keys (by decide +kernel) (by decide +kernel) (by decide +kernel))
  have hfirst : (ofList overlapping).entryFor? "Ca$12" = some ("ca$", 2) := by
    rw [entryFor?, hlisted]
    decide +kernel
  have hlast : (ofList overlapping.reverse).entryFor? "Ca$12" = some ("a$1", 5) := by
    rw [entryFor?, hreversed]
    decide +kernel
  have hone : (ofList overlapping).entryFor? "$1 in İzmir" = some ("i̇", 6) := by
    rw [entryFor?, hlisted]
    decide +kernel
  have hlength := ((longest_word_decides overlapping "Ca$12").2.2 _ hperm).1
  rw [hfirst] at hlength
  exact ⟨congrArg _ hfirst, hlength, (longest_word_decides overlapping "Ca$12").2.1 _ hfirst,
    (longest_word_decides overlapping.reverse "Ca$12").2.1 _ hlast, hone,
    (((longest_word_decides overlapping "$1 in İzmir").2.2 _ hperm).2 _ hone).2 (by decide +kernel)⟩

end PartSourcing.Lexicon
