import Mathlib.Data.List.DropRight
import PartSourcing.Proofs.Text.Occurrence
import PartSourcing.Url.Parser

/-!
# How a link is read

A text is cut into what stands before the query, the query and the fragment (`Parts`).  Only the
first part tells where the link leads: what is read in it does not depend on the other two
(`parse_of_text`), and in what is read they are found as they were written.  Of a scheme that takes
hosts, that first part is read in a fixed order, user, host, port and path (`hierarchical_eq`).
**So a link is what is read in its front, with the tail that it has** (`parse_eq_ok_iff`).
-/

namespace PartSourcing.Url

open PartSourcing.Text

/-! ## The parts of a text -/

/-- **A text in three parts**: what stands before the query, the query, and the fragment. -/
structure Parts where
  front : List Char
  query : Option (List Char) := none
  fragment : Option (List Char) := none
  front_clear : ∀ c ∈ front, c ≠ '?' ∧ c ≠ '#'
  query_clear : ∀ q ∈ query, '#' ∉ q

namespace Parts

/-- The query and the fragment with the signs that start them. -/
def tail (p : Parts) : List Char := p.query.elim [] ('?' :: ·) ++ p.fragment.elim [] ('#' :: ·)

/-- The text with these parts. -/
def text (p : Parts) : List Char := p.front ++ p.tail

theorem cut_append_cons {x : Char} {s : List Char} (h : x ∉ s) (t : List Char) :
    cut x (s ++ x :: t) = (s, some t) := by
  rw [cut, dropWhile_ne_append_cons h, takeWhile_ne_append_cons h]

theorem cut_of_not_mem {x : Char} {s : List Char} (h : x ∉ s) : cut x s = (s, none) := by
  rw [cut, List.dropWhile_eq_nil_iff.mpr (ne_of_not_mem h)]

/-- **A text is cut at its parts.** -/
theorem cutTail_text (p : Parts) : cutTail p.text = (p.front, p.query, p.fragment) := by
  obtain ⟨front, query, fragment, hfront, hquery⟩ := p
  have hquestion : '?' ∉ front := fun h => (hfront '?' h).1 rfl
  have hhash : '#' ∉ front := fun h => (hfront '#' h).2 rfl
  have hhash' : '#' ∉ front ++ query.elim [] ('?' :: ·) := by
    cases query with
    | none => simpa using hhash
    | some q => simpa using ⟨hhash, hquery q rfl⟩
  have hleft : cut '#' (text ⟨front, query, fragment, hfront, hquery⟩) =
      (front ++ query.elim [] ('?' :: ·), fragment) := by
    rw [text, tail, ← List.append_assoc]
    cases fragment with
    | none =>
      rw [Option.elim_none, List.append_nil]
      exact cut_of_not_mem hhash'
    | some f => exact cut_append_cons hhash' f
  rw [cutTail, hleft]
  dsimp only
  cases query with
  | none => rw [Option.elim_none, List.append_nil, cut_of_not_mem hquestion]
  | some q => rw [Option.elim_some, cut_append_cons hquestion]

/-- What follows the front, if anything does, starts with one of two signs. -/
theorem head_tail {p : Parts} {c : Char} (h : p.tail.head? = some c) : c = '?' ∨ c = '#' := by
  obtain ⟨front, query, fragment, hfront, hquery⟩ := p
  cases query with
  | some q => exact .inl (Option.some.inj h).symm
  | none =>
    cases fragment with
    | some f => exact .inr (Option.some.inj h).symm
    | none => simp [tail] at h

end Parts

/-! ## Scheme and rest -/

/-- Whether a character may stand in the name of a scheme. -/
def isSchemeChar (c : Char) : Bool := c.isAlphanum || c == '+' || c == '-' || c == '.'

/-- **The scheme is the run of such characters at the start**, if a letter starts it and a colon
ends it. -/
theorem splitScheme?_append {name rest : List Char} (hname : ∀ c ∈ name, isSchemeChar c = true)
    (hrest : ∀ c ∈ rest.head?, isSchemeChar c = false) : splitScheme? (name ++ rest) =
      if name.head?.any Char.isAlpha ∧ rest.head? = some ':' then
        some (String.ofList (name.map Char.toLower), rest.drop 1)
      else none := by
  have htake : (name ++ rest).takeWhile isSchemeChar = name := by
    rw [List.takeWhile_append_of_pos hname]
    cases rest with
    | nil => simp
    | cons d rest => rw [List.takeWhile_cons_of_neg (by simp [hrest d rfl]), List.append_nil]
  have hdrop : (name ++ rest).drop name.length = rest := List.drop_left
  cases name with
  | nil =>
    cases rest with
    | nil => rfl
    | cons d rest =>
      have hd : d.isAlpha = false := by
        have := hrest d rfl
        simp only [isSchemeChar, Char.isAlphanum, Bool.or_eq_false_iff] at this
        exact this.1.1.1.1
      simp [splitScheme?, hd]
  | cons c name =>
    have htake' : ((c :: (name ++ rest)).takeWhile fun c => c.isAlphanum || c == '+' || c == '-' ||
      c == '.') = c :: name := htake
    have hdrop' : (c :: (name ++ rest)).drop (c :: name).length = rest := hdrop
    simp only [splitScheme?, List.cons_append, htake', hdrop']
    split
    · rename_i hc
      simp [hc]
    · rename_i hnot
      refine (if_neg ?_).symm
      rintro ⟨hc, hcolon⟩
      obtain ⟨rest', rfl⟩ := List.head?_eq_some_iff.mp hcolon
      exact hnot rest' (by simpa using hc) rfl

/-- The scheme is found in the front, and what follows the front is left behind it. -/
theorem splitScheme?_text (p : Parts) : splitScheme? p.text =
    (splitScheme? p.front).map fun found => (found.1, found.2 ++ p.tail) := by
  have hfront : p.front.takeWhile isSchemeChar ++ p.front.dropWhile isSchemeChar = p.front :=
    List.takeWhile_append_dropWhile
  have hname : ∀ c ∈ p.front.takeWhile isSchemeChar, isSchemeChar c = true :=
    fun c hc => List.mem_takeWhile_imp hc
  have hrest := List.head?_dropWhile_not isSchemeChar p.front
  rw [Parts.text]
  generalize p.front.takeWhile isSchemeChar = name at hfront hname
  generalize p.front.dropWhile isSchemeChar = rest at hfront hrest
  rw [← hfront, List.append_assoc]
  cases rest with
  | nil =>
    have htail : ∀ c ∈ p.tail.head?, isSchemeChar c = false ∧ c ≠ ':' := by
      intro c hc
      rcases Parts.head_tail hc with rfl | rfl <;> decide
    rw [List.nil_append, splitScheme?_append hname fun c hc => (htail c hc).1,
      splitScheme?_append hname (by simp)]
    have hcolon : p.tail.head? ≠ some ':' := fun h => (htail ':' h).2 rfl
    simp [hcolon]
  | cons d rest =>
    have hd : isSchemeChar d = false := by simpa using hrest
    have hhead (s : List Char) : ∀ c ∈ (d :: s).head?, isSchemeChar c = false := by simpa using hd
    rw [List.cons_append, splitScheme?_append hname (hhead _), splitScheme?_append hname (hhead _)]
    simp only [List.head?_cons, List.drop_succ_cons, List.drop_zero]
    split <;> rfl

/-- What follows the scheme is the end of the text. -/
theorem suffix_of_splitScheme? {s : List Char} {found : String × List Char}
    (h : splitScheme? s = some found) : found.2 <:+ s := by
  unfold splitScheme? at h
  split at h
  · simp at h
  · dsimp only at h
    split at h
    · rename_i hdrop
      obtain rfl := Option.some.inj h
      exact (List.suffix_cons _ _).trans (hdrop ▸ List.drop_suffix _ _)
    · simp at h

/-! ## Schemes -/

/-- What is read has the given scheme, if anything is. -/
def KeepsScheme (scheme : String) (x : Except Error Url) : Prop :=
  ∀ u, x = .ok u → u.scheme = scheme

namespace KeepsScheme

variable {scheme : String}

theorem ok {u : Url} (h : u.scheme = scheme) : KeepsScheme scheme (.ok u) := by
  rintro _ ⟨⟩
  exact h

theorem bind {α : Type} {x : Except Error α} {f : α → Except Error Url}
    (hf : ∀ a, KeepsScheme scheme (f a)) : KeepsScheme scheme (x >>= f) := by
  cases x with
  | error e => exact nofun
  | ok a => exact hf a

theorem ite {c : Prop} [Decidable c] {x y : Except Error Url} (hx : KeepsScheme scheme x)
    (hy : KeepsScheme scheme y) : KeepsScheme scheme (if c then x else y) := by
  split
  · exact hx
  · exact hy

end KeepsScheme

theorem keepsScheme_hierarchical (scheme : String) (m : Bool) (s : List Char) :
    KeepsScheme scheme (hierarchical scheme m s) := by
  unfold hierarchical
  dsimp only
  -- every way through ends in a URL of the scheme, or in a refusal
  repeat' first
    | exact .ok rfl
    | refine .ite ?_ ?_
    | refine .bind fun _ => ?_
    | split

theorem keepsScheme_localFile (s : List Char) : KeepsScheme "file" (localFile s) := by
  unfold localFile
  dsimp only
  repeat' first
    | exact .ok rfl
    | refine .ite ?_ ?_
    | refine .bind fun _ => ?_
    | split

/-- **A URL has the scheme that its text starts with.** -/
theorem keepsScheme_body (scheme : String) (m : Bool) (s : List Char) :
    KeepsScheme scheme (body scheme m s) := by
  unfold body
  split
  · rename_i hfile
    rw [eq_of_beq hfile]
    exact keepsScheme_localFile s
  split
  · exact keepsScheme_hierarchical scheme m (dropSlashes s)
  split
  · exact keepsScheme_hierarchical scheme m _
  · exact .ok rfl
  · exact .ok rfl

/-! ## User, host, port and path -/

/-- What stands before the path. -/
def areaOf (s : List Char) : List Char := s.takeWhile fun c => !isSlash true c

/-- The user, and the host with its port. -/
def userAndHost (area : List Char) : List Char × List Char := (splitUser? area).getD ([], area)

/-- The port after a host, and what is left behind it. -/
def portAfter (scheme : String) : List Char → Except Error (Option UInt16 × List Char)
  | [] => .ok (none, [])
  | _ :: ds => port? scheme ds

/-- The path in what follows the port. -/
def pathAfter : List Char → List String
  | [] => [""]
  | c :: rest => segmentsAfter true [] (if isSlash true c then rest else c :: rest)

/-- **What is read of a URL with a host**, one part after the other. -/
def hosted (scheme : String) (s : List Char) : Except Error Url :=
  let (user, hostAndPort) := userAndHost (areaOf s)
  let (hostText, portText) := splitHost false hostAndPort
  if hostText.isEmpty then .error .emptyHost
  else
    (domainHost hostText).bind fun host =>
      (portAfter scheme portText).bind fun (port, left) =>
        .ok {
          scheme, username := (userParts user).1, password := (userParts user).2
          host := some host, port
          path := .segments (pathAfter (left ++ s.drop (areaOf s).length)) }

/-- Where a scheme demands a host, nothing else is read, and it is no matter what follows. -/
theorem hierarchical_eq {scheme : String} (h : isSpecial scheme = true) (m : Bool) (s : List Char) :
    hierarchical scheme m s = hosted scheme s := by
  have herror {α : Type} (e : Error) : (throw e : Except Error α) = .error e := rfl
  have harea : (s.takeWhile fun c => !isSlash true c) = areaOf s := rfl
  unfold hierarchical hosted
  simp only [h, harea]
  rcases hsu : splitUser? (areaOf s) with _ | ⟨user, hostAndPort⟩
  · simp only [userAndHost, hsu, Option.getD_none]
    rcases splitHost false (areaOf s) with ⟨hostText, portText⟩
    cases hostText with
    | nil => simp [herror, bind, Except.bind]
    | cons c hostText =>
      simp [bind, Except.bind]
      cases domainHost (c :: hostText) with
      | error e => rfl
      | ok host =>
        cases portText with
        | nil => rfl
        | cons d ds => cases port? scheme ds <;> rfl
  · simp only [userAndHost, hsu, Option.getD_some]
    rcases hsplit : splitHost false hostAndPort with ⟨hostText, portText⟩
    cases hostText with
    | nil => simp [herror, bind, Except.bind]
    | cons c hostText =>
      -- the check that comes first is for an empty host after a user
      have hfull : hostAndPort.isEmpty = false := by
        cases hostAndPort with
        | nil => simp [splitHost] at hsplit
        | cons d ds => rfl
      simp [hfull, bind, Except.bind]
      cases domainHost (c :: hostText) with
      | error e => rfl
      | ok host =>
        cases portText with
        | nil => rfl
        | cons d ds => cases port? scheme ds <;> rfl

theorem isWeb_iff {u : Url} : u.isWeb = true ↔ u.scheme = "http" ∨ u.scheme = "https" := by
  simp [isWeb]

theorem isSpecial_of_isWeb {u : Url} (h : u.isWeb = true) : isSpecial u.scheme = true := by
  rcases isWeb_iff.mp h with h | h <;> (rw [h]; decide)

theorem body_eq_hosted {scheme : String} (h : scheme = "http" ∨ scheme = "https") (m : Bool)
    (s : List Char) : body scheme m s = hosted scheme (dropSlashes s) := by
  have hspecial : isSpecial scheme = true := by rcases h with rfl | rfl <;> decide
  have hfile : ¬(scheme == "file") = true := by rcases h with rfl | rfl <;> decide
  unfold body
  rw [if_neg hfile, if_pos hspecial, hierarchical_eq hspecial]

/-! ## Links -/

theorem parse_of_text {s : String} {p : Parts} (h : cleaned s.toList = p.text) :
    parse s =
      match splitScheme? p.front with
      | some (scheme, rest) =>
        (body scheme (p.query.isSome || p.fragment.isSome) rest).map
          (·.withTail p.query p.fragment)
      | none => .error .relativeWithoutBase := by
  rw [parse, h, splitScheme?_text]
  cases hs : splitScheme? p.front with
  | none => rfl
  | some found =>
    obtain ⟨scheme, rest⟩ := found
    -- what follows the scheme has the same query and fragment as the whole text
    let p' : Parts := { p with
      front := rest
      front_clear := fun c hc => p.front_clear c ((suffix_of_splitScheme? hs).mem hc) }
    have hcut : cutTail (rest ++ p.tail) = (rest, p.query, p.fragment) := p'.cutTail_text
    simp only [Option.map_some, ofScheme, hcut]
    cases body scheme (p.query.isSome || p.fragment.isSome) rest <;> rfl

/-- **A link is read from its front**, and query and fragment are added to what is read. -/
theorem parse_eq_ok_iff {s : String} {p : Parts} (h : cleaned s.toList = p.text) {u : Url}
    (hweb : u.isWeb = true) : parse s = .ok u ↔ ∃ rest v,
      splitScheme? p.front = some (u.scheme, rest) ∧ hosted u.scheme (dropSlashes rest) = .ok v ∧
        v.withTail p.query p.fragment = u := by
  rw [parse_of_text h]
  constructor
  · intro hu
    split at hu
    · rename_i scheme rest hs
      rcases hv : body scheme (p.query.isSome || p.fragment.isSome) rest with e | v
      · simp [hv, Except.map] at hu
      · obtain rfl : v.withTail p.query p.fragment = u := by simpa [hv, Except.map] using hu
        obtain rfl : v.scheme = scheme := keepsScheme_body _ _ _ _ hv
        exact ⟨rest, v, hs, (body_eq_hosted (isWeb_iff.mp hweb) _ rest).symm.trans hv, rfl⟩
    · simp at hu
  · rintro ⟨rest, v, hs, hv, rfl⟩
    rw [hs]
    exact congrArg (Except.map _) ((body_eq_hosted (isWeb_iff.mp hweb) _ rest).trans hv)

end PartSourcing.Url
