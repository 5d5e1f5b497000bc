/-!
# Occurrences of one text in another

Which texts hold a given pattern, where the first occurrence ends, what is left when it is
replaced, and the pieces between separators. All of it is recursion on the text that is searched.
-/

namespace PartSourcing.Text

/-- What follows `pattern` at the very start of `text`, if it stands there. -/
def afterPrefix? : (pattern text : List Char) → Option (List Char)
  | [], t => some t
  | _ :: _, [] => none
  | p :: ps, c :: cs => if p = c then afterPrefix? ps cs else none

/-- The text split around the first occurrence of the pattern. -/
def splitAt? (pattern : List Char) : (text : List Char) → Option (List Char × List Char)
  | [] => (afterPrefix? pattern []).map ([], ·)
  | c :: cs =>
    match afterPrefix? pattern (c :: cs) with
    | some rest => some ([], rest)
    | none => (splitAt? pattern cs).map fun (before, after) => (c :: before, after)

/-- Whether the pattern occurs in the text. -/
def occursIn (pattern text : List Char) : Bool := (splitAt? pattern text).isSome

/-- Whether the pattern occurs in the text. -/
def contains (text pattern : String) : Bool := occursIn pattern.toList text.toList

/-- The text with the first occurrence of the pattern replaced. -/
def replaceFirst (text pattern replacement : List Char) : List Char :=
  match splitAt? pattern text with
  | some (before, after) => before ++ replacement ++ after
  | none => text

/-- The pieces of a text between the given separators; always at least one. -/
def pieces (sep : Char → Bool) : List Char → List (List Char)
  | [] => [[]]
  | c :: cs =>
    if sep c then [] :: pieces sep cs
    else
      match pieces sep cs with
      | piece :: rest => (c :: piece) :: rest
      | [] => [[c]]

theorem afterPrefix?_eq_some_iff {p t r : List Char} :
    afterPrefix? p t = some r ↔ t = p ++ r := by
  induction p generalizing t with
  | nil => simp [afterPrefix?]
  | cons a p ih =>
    cases t with
    | nil => simp [afterPrefix?]
    | cons c t =>
      by_cases h : a = c
      · simp [afterPrefix?, h, ih]
      · simp [afterPrefix?, h, Ne.symm h]

/-- **The pieces rebuild the text.** A split puts the pattern between its two parts. -/
theorem eq_of_splitAt? {p t before after : List Char}
    (h : splitAt? p t = some (before, after)) : t = before ++ p ++ after := by
  induction t generalizing before after with
  | nil =>
    simp only [splitAt?, Option.map_eq_some_iff] at h
    obtain ⟨r, hr, h⟩ := h
    obtain ⟨rfl, rfl⟩ := Prod.mk.inj h
    simpa using afterPrefix?_eq_some_iff.mp hr
  | cons c cs ih =>
    unfold splitAt? at h
    split at h
    · rename_i r hr
      obtain ⟨rfl, rfl⟩ := Prod.mk.inj (Option.some.inj h)
      simpa using afterPrefix?_eq_some_iff.mp hr
    · simp only [Option.map_eq_some_iff] at h
      obtain ⟨⟨b, a⟩, hba, h⟩ := h
      obtain ⟨rfl, rfl⟩ := Prod.mk.inj h
      simp [ih hba]

/-- **Occurrence is the infix relation.** -/
theorem occursIn_iff {p t : List Char} : occursIn p t = true ↔ p <:+: t := by
  unfold occursIn
  constructor
  · intro h
    obtain ⟨⟨b, a⟩, hba⟩ := Option.isSome_iff_exists.mp h
    exact ⟨b, a, (eq_of_splitAt? hba).symm⟩
  · rintro ⟨b, a, rfl⟩
    induction b with
    | nil =>
      have hp : afterPrefix? p (p ++ a) = some a := afterPrefix?_eq_some_iff.mpr rfl
      rw [List.nil_append]
      revert hp
      cases p ++ a with
      | nil => intro hp; simp [splitAt?, hp]
      | cons c cs => intro hp; simp [splitAt?, hp]
    | cons c b ih =>
      simp only [List.cons_append, splitAt?]
      split
      · rfl
      · simpa using ih

end PartSourcing.Text
