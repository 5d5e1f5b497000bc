import PartSourcing.Proofs.Url.Percent
import PartSourcing.Proofs.Url.Reading

/-!
# The usual port

Where a link leads is told by scheme, user, host, port and path (`Place`).  **The usual port of a
scheme may be left out or spelled out**: what is read is the same (`Place.hosted_eq`).  Of the host
it matters only that no colon in it can be taken for that of the port.
-/

namespace PartSourcing.Url

open PartSourcing.Text PartSourcing.Decimal

/-- **The text of a link before its query, but for the port.** -/
structure Place where
  /-- The scheme as it is written. -/
  name : List Char
  slashes : List Char
  /-- What stands before the sign that ends a user. -/
  user : Option (List Char) := none
  host : List Char
  path : List Char
  isWeb : String.ofList (name.map Char.toLower) = "http" ∨
    String.ofList (name.map Char.toLower) = "https"
  slashes_all : ∀ c ∈ slashes, isSlash true c = true
  user_clear : ∀ u ∈ user, ∀ c ∈ u, isSlash true c = false
  host_ne : host ≠ []
  host_clear : ∀ c ∈ host, isSlash true c = false ∧ c ≠ '@'
  /-- Colons are within brackets only. -/
  host_form : (∀ c ∈ host, c ≠ ':' ∧ c ≠ '[') ∨
    ∃ t, host = '[' :: (t ++ [']']) ∧ ∀ c ∈ t, c ≠ '[' ∧ c ≠ ']'
  path_start : ∀ c ∈ path.head?, isSlash true c = true

namespace Place

variable (p : Place)

/-- The scheme. -/
def scheme : String := String.ofList (p.name.map Char.toLower)

/-- User, host and the given port. -/
def area (port : List Char) : List Char := p.user.elim [] (· ++ ['@']) ++ (p.host ++ port)

/-- The text with the given port. -/
def text (port : List Char) : List Char :=
  p.name ++ ':' :: (p.slashes ++ (p.area port ++ p.path))

/-- **A port that may be left out**: nothing, a colon alone, or the usual port spelled out. -/
def IsUsual (port : List Char) : Prop :=
  port = [] ∨ ∃ ds, port = ':' :: ds ∧ (∀ c ∈ ds, c.isDigit = true) ∧
    (ds = [] ∨ ∃ n, usualPort? p.scheme = some n ∧ digitsIn 10 0 ds = some n.toNat)

namespace IsUsual

variable {p} {port : List Char} (h : p.IsUsual port)
include h

theorem portAfter_eq : portAfter p.scheme port = .ok (none, []) := by
  obtain rfl | ⟨ds, rfl, hdigits, husual⟩ := h
  · rfl
  have htake : ds.takeWhile Char.isDigit = ds := List.takeWhile_eq_self_iff.mpr hdigits
  simp only [portAfter, port?, htake, List.drop_length]
  rcases husual with rfl | ⟨n, hn, hvalue⟩
  · rfl
  · have hlt : ¬UInt16.size ≤ n.toNat := Nat.not_le.mpr n.toNat_lt
    simp [hvalue, hn, hlt]

theorem clear : ∀ c ∈ port, isSlash true c = false ∧ c ≠ '@' := by
  have hdigit {c : Char} (hc : c.isDigit = true) : isSlash true c = false ∧ c ≠ '@' := by
    refine forall_ascii (P := fun c => c.isDigit = true → isSlash true c = false ∧ c ≠ '@')
      (by decide) ?_ hc
    exact Nat.lt_of_le_of_lt (Char.isDigit_iff_toNat.mp hc).2 (by decide)
  obtain rfl | ⟨ds, rfl, hdigits, -⟩ := h
  · exact nofun
  · exact List.forall_mem_cons.mpr ⟨by decide, fun c hc => hdigit (hdigits c hc)⟩

theorem splitHost_eq : splitHost false port = ([], port) := by
  obtain rfl | ⟨ds, rfl, -, -⟩ := h
  · rfl
  · rfl

end IsUsual

/-! ## Scheme and slashes -/

theorem toNat_lt_of_toLower {c : Char} (h : c.toLower.toNat < 128) : c.toNat < 128 := by
  unfold Char.toLower at h
  split at h
  · rename_i hupper
    have hle : c.toNat ≤ 90 := hupper.2
    omega
  · exact h

theorem isSchemeChar_of_mem_name {c : Char} (hc : c ∈ p.name) :
    isSchemeChar c = true ∧ c.isAlpha = true := by
  have hlower : c.toLower ∈ "https".toList := by
    have hmem : c.toLower ∈ p.name.map Char.toLower := List.mem_map_of_mem hc
    rcases p.isWeb with h | h
    · have hsub : "http".toList ⊆ "https".toList := by simp
      rw [← String.toList_ofList (l := p.name.map Char.toLower), h] at hmem
      exact hsub hmem
    · rwa [← String.toList_ofList (l := p.name.map Char.toLower), h] at hmem
  have hascii : c.toNat < 128 := by
    have hall : "https".toList.all (fun d => d.toNat < 128) = true := by decide
    exact toNat_lt_of_toLower (by simpa using List.all_eq_true.mp hall _ hlower)
  exact forall_ascii (P := fun c => c.toLower ∈ "https".toList →
    isSchemeChar c = true ∧ c.isAlpha = true) (by decide +kernel) hascii hlower

theorem name_ne : p.name ≠ [] := by
  intro h
  have := p.isWeb
  rw [h] at this
  revert this
  decide

theorem splitScheme?_text (port : List Char) :
    splitScheme? (p.text port) = some (p.scheme, p.slashes ++ (p.area port ++ p.path)) := by
  rw [text, splitScheme?_append (fun c hc => (p.isSchemeChar_of_mem_name hc).1) (by
    rintro c ⟨⟩
    decide)]
  obtain ⟨c, name, hname⟩ := List.exists_cons_of_ne_nil p.name_ne
  have hc : c.isAlpha = true := (p.isSchemeChar_of_mem_name (by rw [hname]; simp)).2
  rw [if_pos ⟨by simp [hname, hc], rfl⟩]
  rfl

/-! ## Colons in a host -/

theorem splitHost_append_of_bare {t : List Char} (ht : ∀ c ∈ t, c ≠ ':' ∧ c ≠ '[')
    (s : List Char) : splitHost false (t ++ s) =
      (t ++ (splitHost false s).1, (splitHost false s).2) := by
  induction t with
  | nil => rfl
  | cons c t ih =>
    have hc := ht c List.mem_cons_self
    have hs := ih fun d hd => ht d (List.mem_cons_of_mem c hd)
    simp [splitHost, hs, hc.1, hc.2]

theorem splitHost_append_of_within {t : List Char} (ht : ∀ c ∈ t, c ≠ '[' ∧ c ≠ ']')
    (s : List Char) : splitHost true (t ++ ']' :: s) =
      (t ++ ']' :: (splitHost false s).1, (splitHost false s).2) := by
  induction t with
  | nil => simp [splitHost]
  | cons c t ih =>
    have hc := ht c List.mem_cons_self
    have hs := ih fun d hd => ht d (List.mem_cons_of_mem c hd)
    simp [splitHost, hs, hc.1, hc.2]

/-! ## The area -/

section Area

variable {p} {port : List Char} (h : p.IsUsual port)
include h

theorem isSlash_area : ∀ c ∈ p.area port, isSlash true c = false := by
  intro c hc
  simp only [area, List.mem_append] at hc
  rcases hc with hc | hc | hc
  · cases hu : p.user with
    | none => simp [hu] at hc
    | some u =>
      simp only [hu, Option.elim_some, List.mem_append, List.mem_singleton] at hc
      rcases hc with hc | rfl
      · exact p.user_clear u hu c hc
      · decide
  · exact (p.host_clear c hc).1
  · exact (h.clear c hc).1

theorem dropSlashes_eq :
    dropSlashes (p.slashes ++ (p.area port ++ p.path)) = p.area port ++ p.path := by
  rw [dropSlashes, List.dropWhile_append_of_pos p.slashes_all]
  have hne : p.area port ≠ [] := by simp [area, p.host_ne]
  obtain ⟨c, s, hs⟩ := List.exists_cons_of_ne_nil hne
  have hc := isSlash_area h c (by rw [hs]; simp)
  rw [hs, List.cons_append, List.dropWhile_cons_of_neg (by simp [hc])]

theorem areaOf_eq : areaOf (p.area port ++ p.path) = p.area port := by
  rw [areaOf, List.takeWhile_append_of_pos fun c hc => by simp [isSlash_area h c hc]]
  have hstart := p.path_start
  cases hp : p.path with
  | nil => simp
  | cons c s =>
    rw [List.takeWhile_cons_of_neg (by simp [hstart c (by rw [hp]; rfl)]), List.append_nil]

theorem userAndHost_eq : userAndHost (p.area port) = (p.user.getD [], p.host ++ port) := by
  have hclear : '@' ∉ (p.host ++ port).reverse := by
    simp only [List.mem_reverse, List.mem_append]
    rintro (hc | hc)
    · exact (p.host_clear _ hc).2 rfl
    · exact (h.clear _ hc).2 rfl
  rw [userAndHost, splitUser?, area]
  cases p.user with
  | none =>
    have htake : ((p.host ++ port).reverse.takeWhile (· != '@')) = (p.host ++ port).reverse :=
      List.takeWhile_eq_self_iff.mpr (ne_of_not_mem hclear)
    simp only [Option.elim_none, List.nil_append, htake, List.reverse_reverse]
    rw [if_neg (Nat.lt_irrefl _)]
    rfl
  | some u =>
    have hreverse : (u ++ ['@'] ++ (p.host ++ port)).reverse =
        (p.host ++ port).reverse ++ '@' :: u.reverse := by simp
    have htake : (u ++ ['@'] ++ (p.host ++ port)).reverse.takeWhile (· != '@') =
        (p.host ++ port).reverse := by
      rw [hreverse, takeWhile_ne_append_cons hclear]
    have hlength : (u ++ ['@'] ++ (p.host ++ port)).length - (p.host ++ port).length - 1 =
        u.length := by
      simp only [List.length_append, List.length_singleton]
      omega
    simp only [Option.elim_some, htake, List.reverse_reverse]
    rw [if_pos (by simp only [List.length_append, List.length_singleton]; omega), hlength,
      List.append_assoc, List.take_left]
    rfl

theorem splitHost_eq : splitHost false (p.host ++ port) = (p.host, port) := by
  have hport := h.splitHost_eq
  rcases p.host_form with hbare | ⟨t, ht, hwithin⟩
  · rw [splitHost_append_of_bare hbare, hport, List.append_nil]
  · have hinner := splitHost_append_of_within hwithin port
    rw [hport] at hinner
    simp [ht, splitHost, hinner]

/-- **What is read does not depend on whether the usual port is spelled out.** -/
theorem hosted_eq : hosted p.scheme (dropSlashes (p.slashes ++ (p.area port ++ p.path))) =
    (domainHost p.host).map fun host => {
      scheme := p.scheme
      username := (userParts (p.user.getD [])).1
      password := (userParts (p.user.getD [])).2
      host := some host
      path := .segments (pathAfter p.path) } := by
  have hhost : p.host.isEmpty = false := by simpa using p.host_ne
  rw [dropSlashes_eq h, hosted, areaOf_eq h, userAndHost_eq h]
  dsimp only
  rw [splitHost_eq h]
  dsimp only
  rw [hhost, h.portAfter_eq, List.drop_left, if_neg Bool.false_ne_true]
  cases domainHost p.host <;> rfl

end Area

end Place

end PartSourcing.Url
