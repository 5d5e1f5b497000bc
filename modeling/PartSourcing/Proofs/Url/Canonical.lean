import Mathlib.Data.String.Basic
import PartSourcing.Proofs.Sorting
import PartSourcing.Proofs.Url.Form
import PartSourcing.Proofs.Url.Place
import PartSourcing.Proofs.Url.Written
import PartSourcing.Url.Canonical

/-!
# One spelling for one offer

Links lead to one offer (`SameOffer`) if they lead to one place and ask there for the same pairs,
whatever their order, tracking pairs and fragments apart.  So do two links of which one has its
pairs in another order (`SameOffer.of_perm`), has tracking pairs more than the other
(`SameOffer.of_tracking`), another fragment (`SameOffer.of_fragment`), or its usual port spelled out
(`SameOffer.of_port`).

**Links to one offer have one canonical form** (`canonical?_congr`), which has neither a fragment
nor a usual port nor a tracking pair, and **is its own canonical form** (`canonical?_stable`).  For
the second it is asked that the text of the URL that is read in the link reads back.  That this
holds of the canonical form as well need not be asked, since only query and fragment are exchanged
in it; and the pairs that are written in it are the pairs that were kept, whatever they are made
of.
-/

namespace PartSourcing.Url

open PartSourcing.Text PartSourcing.Sorting

/-! ## The pairs that remain -/

/-- The pairs of a query that tell about the offer. -/
def untracked (query : Option (List Char)) : List Form.Pair :=
  (query.elim [] Form.decodePairs).filter fun p => !isTracking p.1

/-- What pairs are sorted by. -/
def pairKey (p : Form.Pair) : String ×ₗ String := toLex (String.ofList p.1, String.ofList p.2)

theorem pairKey_injective {a b : Form.Pair} (h : pairKey a = pairKey b) : a = b := by
  have h' := Prod.mk.inj (toLex.injective h)
  exact Prod.ext (String.ofList_injective h'.1) (String.ofList_injective h'.2)

theorem goesBy_pairPrecedes : GoesBy pairPrecedes pairKey := by
  intro a b
  have hle (s t : List Char) : (!decide (String.ofList t < String.ofList s)) = true ↔
      String.ofList s ≤ String.ofList t := by
    rw [Bool.not_eq_true', decide_eq_false_iff_not, not_lt]
  rw [pairKey, pairKey, Prod.Lex.toLex_le_toLex]
  unfold pairPrecedes
  dsimp only
  split_ifs with h
  · rw [hle, h]
    simp
  · rw [hle]
    have hne : String.ofList a.1 ≠ String.ofList b.1 := fun h' => h (String.ofList_injective h')
    simp [hne, le_iff_lt_or_eq]

theorem keptPairs_eq (query : Option String) :
    keptPairs query = (untracked (query.map String.toList)).mergeSort pairPrecedes := by
  cases query <;> rfl

theorem untracked_escape (query : Option (List Char)) :
    untracked (query.map (escape inSpecialQuery)) = untracked query := by
  cases query with
  | none => rfl
  | some q =>
    have hpairs := Form.decodePairs_escape sparesEscapes_inSpecialQuery (by decide) (by decide)
      (by decide) q
    simp only [untracked, Option.map_some, Option.elim_some, hpairs]

theorem isTracking_of_mem_keptPairs {query : Option String} {p : Form.Pair}
    (hp : p ∈ keptPairs query) : isTracking p.1 = false := by
  have := (List.mem_filter.mp (List.mem_mergeSort.mp hp)).2
  simpa using this

/-- The query in which pairs are written. -/
def queryOf (pairs : List Form.Pair) : Option String :=
  if pairs.isEmpty then none else some (String.ofList (Form.encodePairs pairs))

theorem canonical_eq (u : Url) :
    u.canonical = { u with query := queryOf (keptPairs u.query), fragment := none } := rfl

theorem pairs_queryOf (pairs : List Form.Pair) :
    ((queryOf pairs).map String.toList).elim [] Form.decodePairs = pairs := by
  unfold queryOf
  split_ifs with h
  · exact (List.isEmpty_iff.mp h).symm
  · rw [Option.map_some, Option.elim_some, String.toList_ofList, Form.decodePairs_encodePairs]

/-- **Pairs that were kept are kept again**, in the order that they have. -/
theorem keptPairs_queryOf_keptPairs (query : Option String) :
    keptPairs (queryOf (keptPairs query)) = keptPairs query := by
  have huntracked :
      untracked ((queryOf (keptPairs query)).map String.toList) = keptPairs query := by
    rw [untracked, pairs_queryOf]
    exact List.filter_eq_self.mpr fun p hp => by rw [isTracking_of_mem_keptPairs hp]; rfl
  rw [keptPairs_eq, huntracked]
  refine goesBy_pairPrecedes.mergeSort_eq_of_sorted (fun _ _ _ _ => pairKey_injective)
    (List.Perm.refl _) ?_
  rw [keptPairs_eq]
  exact goesBy_pairPrecedes.sorted _

theorem canonical_canonical (u : Url) : u.canonical.canonical = u.canonical := by
  rw [canonical_eq u, canonical_eq]
  exact congrArg (fun pairs => { u with query := queryOf pairs, fragment := none })
    (keptPairs_queryOf_keptPairs u.query)

theorem canonical?_eq_some_iff {s w : String} : canonical? s = some w ↔
    ∃ u, parse (trim s) = .ok u ∧ u.isWeb = true ∧ u.canonical.write = w := by
  unfold canonical?
  cases parse (trim s) with
  | error e => simp
  | ok u => simp

theorem Written.canonical {u : Url} (h : Written u) : Written u.canonical where
  isWeb := h.isWeb
  front := h.front
  query q hq c hc := by
    rw [canonical_eq, queryOf] at hq
    split_ifs at hq
    · simp at hq
    · obtain rfl := Option.some.inj hq
      rw [String.toList_ofList] at hc
      exact Form.inSpecialQuery_of_mem_encodePairs hc
  fragment := nofun
  port := h.port

/-! ## Links that lead to one offer -/

/-- The text that is read of a link. -/
def readText (s : String) : List Char := cleaned (trim s).toList

/-- **Texts before a query that lead to one place**: the same one, or two that differ in a port that
comes to the usual one. -/
inductive LeadsAlike : List Char → List Char → Prop
  | same (front : List Char) : LeadsAlike front front
  | usual (p : Place) {port port' : List Char} (h : p.IsUsual port) (h' : p.IsUsual port') :
    LeadsAlike (p.text port) (p.text port')

/-- **Links to one offer**: they lead to one place, and ask there for the same pairs in any order,
tracking pairs and fragments apart. -/
def SameOffer (s s' : String) : Prop :=
  ∃ p p' : Parts, readText s = p.text ∧ readText s' = p'.text ∧ LeadsAlike p.front p'.front ∧
    (untracked p.query).Perm (untracked p'.query)

theorem LeadsAlike.symm {front front' : List Char} (h : LeadsAlike front front') :
    LeadsAlike front' front := by
  cases h with
  | same => exact .same _
  | usual p h h' => exact .usual p h' h

namespace SameOffer

/-- What may be added may be left out. -/
theorem symm {s s' : String} (h : SameOffer s s') : SameOffer s' s := by
  obtain ⟨p, p', hs, hs', hfront, hpairs⟩ := h
  exact ⟨p', p, hs', hs, hfront.symm, hpairs.symm⟩

theorem untracked_getD (query : Option (List Char)) :
    untracked query = untracked (some (query.getD [])) := by
  cases query <;> rfl

/-- The pieces of a query are its pairs, as they are written. -/
theorem untracked_intercalate {ps : List (List Char)} (hclear : ∀ p ∈ ps, '&' ∉ p) :
    untracked (some (['&'].intercalate ps)) =
      ((ps.filter fun p => !p.isEmpty).map Form.decodePair).filter fun p => !isTracking p.1 := by
  by_cases hps : ps = []
  · rw [hps]
    rfl
  · rw [untracked, Option.elim_some, Form.decodePairs, pieces_eq_splitOn,
      List.splitOn_intercalate '&' hclear hps]

variable {s s' : String} {p p' : Parts} (hs : readText s = p.text) (hs' : readText s' = p'.text)
include hs hs'

theorem of_fragment (hfront : p'.front = p.front) (hquery : p'.query = p.query) : SameOffer s s' :=
  ⟨p, p', hs, hs', hfront ▸ .same _, hquery ▸ .refl _⟩

/-- **Pairs may be reordered.** -/
theorem of_perm (hfront : p'.front = p.front) {ps qs : List (List Char)}
    (hclear : ∀ p ∈ ps, '&' ∉ p) (hperm : ps.Perm qs) (hps : p.query = some (['&'].intercalate ps))
    (hqs : p'.query = some (['&'].intercalate qs)) : SameOffer s s' := by
  refine ⟨p, p', hs, hs', hfront ▸ .same _, ?_⟩
  rw [hps, hqs, untracked_intercalate hclear,
    untracked_intercalate fun q hq => hclear q (hperm.mem_iff.mpr hq)]
  exact ((hperm.filter _).map _).filter _

/-- **A tracking pair may be added**, anywhere in the query or as the only one. -/
theorem of_tracking (hfront : p'.front = p.front) {before after : List (List Char)}
    {piece : List Char} (hclear : ∀ p ∈ before ++ piece :: after, '&' ∉ p)
    (htracking : isTracking (Form.decodePair piece).1 = true)
    (hquery : p.query.getD [] = ['&'].intercalate (before ++ after))
    (hquery' : p'.query = some (['&'].intercalate (before ++ piece :: after))) :
    SameOffer s s' := by
  have hclear' : ∀ p ∈ before ++ after, '&' ∉ p := fun q hq => hclear q (by
    rw [List.mem_append] at hq ⊢
    exact hq.imp_right (List.mem_cons_of_mem piece))
  refine ⟨p, p', hs, hs', hfront ▸ .same _, ?_⟩
  rw [untracked_getD, hquery, hquery', untracked_intercalate hclear, untracked_intercalate hclear']
  refine List.Perm.of_eq ?_
  cases hempty : piece.isEmpty <;> simp [List.filter_append, hempty, htracking]

/-- **A usual port may be spelled out.** -/
theorem of_port (place : Place) {port port' : List Char} (h : place.IsUsual port)
    (h' : place.IsUsual port') (hfront : p.front = place.text port)
    (hfront' : p'.front = place.text port') (hquery : p'.query = p.query) : SameOffer s s' :=
  ⟨p, p', hs, hs', hfront ▸ hfront' ▸ .usual place h h', hquery ▸ .refl _⟩

end SameOffer

theorem LeadsAlike.hosted {front front' : List Char} (h : LeadsAlike front front') {scheme : String}
    {rest : List Char} {v : Url} (hscheme : splitScheme? front = some (scheme, rest))
    (hv : hosted scheme (dropSlashes rest) = .ok v) :
    ∃ rest', splitScheme? front' = some (scheme, rest') ∧
      Url.hosted scheme (dropSlashes rest') = .ok v := by
  cases h with
  | same => exact ⟨rest, hscheme, hv⟩
  | usual p h h' =>
    rw [p.splitScheme?_text] at hscheme
    obtain ⟨rfl, rfl⟩ := Prod.mk.inj (Option.some.inj hscheme)
    refine ⟨_, p.splitScheme?_text _, ?_⟩
    rw [Place.hosted_eq h', ← Place.hosted_eq h, hv]

/-- The canonical form of a link depends on where it leads and on the pairs that remain. -/
theorem canonical_withTail {v : Url} (hspecial : isSpecial v.scheme = true)
    (query fragment : Option (List Char)) : (v.withTail query fragment).canonical =
      { v with
        query := queryOf ((untracked query).mergeSort pairPrecedes)
        fragment := none } := by
  have hquery : keptPairs (v.withTail query fragment).query =
      (untracked query).mergeSort pairPrecedes := by
    rw [keptPairs_eq, ← untracked_escape query]
    simp only [withTail, hspecial, if_true, Option.map_map]
    congr 3
    funext q
    simp
  rw [canonical_eq, hquery]
  rfl

/-- **Links to one offer have one canonical form.** -/
theorem canonical?_congr {s s' w : String} (h : SameOffer s s') (hw : canonical? s = some w) :
    canonical? s' = some w := by
  obtain ⟨p, p', hs, hs', hfront, hpairs⟩ := h
  obtain ⟨u, hu, hweb, rfl⟩ := canonical?_eq_some_iff.mp hw
  obtain ⟨rest, v, hscheme, hv, rfl⟩ := (parse_eq_ok_iff hs hweb).mp hu
  obtain ⟨rest', hscheme', hv'⟩ := hfront.hosted hscheme hv
  have hspecial : isSpecial v.scheme = true := isSpecial_of_isWeb hweb
  have hweb' : (v.withTail p'.query p'.fragment).isWeb = true := hweb
  refine canonical?_eq_some_iff.mpr ⟨v.withTail p'.query p'.fragment, ?_, hweb', ?_⟩
  · exact (parse_eq_ok_iff hs' hweb').mpr ⟨rest', v, hscheme', hv', rfl⟩
  · rw [canonical_withTail hspecial, canonical_withTail hspecial,
      goesBy_pairPrecedes.mergeSort_eq_of_perm (fun _ _ _ _ => pairKey_injective) hpairs]

/-- **A canonical form reads back** as the URL it was written from, if the link that it is made of
does. -/
theorem parse_canonical {s : String} {u : Url} (hu : parse (trim s) = .ok u) (hweb : u.isWeb = true)
    (hback : parse u.write = .ok u) : parse (trim u.canonical.write) = .ok u.canonical := by
  have hwritten := written_of_parse hu hweb
  rw [hwritten.canonical.trim_write]
  exact hwritten.parse_exchanged hback hwritten.canonical

/-- **One spelling for one offer.** -/
theorem canonical?_stable {s w : String} (hw : canonical? s = some w)
    (hback : ∀ u, parse (trim s) = .ok u → parse u.write = .ok u) :
    canonical? w = some w ∧
    (∃ v, parse w = .ok v ∧ v.write = w ∧ v.fragment = none ∧ v.port ≠ usualPort? v.scheme ∧
      ∀ q ∈ v.query, ∀ p ∈ Form.decodePairs q.toList, isTracking p.1 = false) ∧
    ∀ s', SameOffer s s' → canonical? s' = some w := by
  obtain ⟨u, hu, hweb, rfl⟩ := canonical?_eq_some_iff.mp hw
  have hwritten := (written_of_parse hu hweb).canonical
  have hread := parse_canonical hu hweb (hback u hu)
  refine ⟨?_, ⟨u.canonical, ?_, rfl, rfl, ?_, ?_⟩, fun s' h => canonical?_congr h hw⟩
  · exact canonical?_eq_some_iff.mpr ⟨u.canonical, hread, hweb, by rw [canonical_canonical]⟩
  · rwa [hwritten.trim_write] at hread
  · exact hwritten.port
  · intro q hq p hp
    have hpairs := pairs_queryOf (keptPairs u.query)
    have hq' : queryOf (keptPairs u.query) = some q := hq
    rw [hq', Option.map_some, Option.elim_some] at hpairs
    exact isTracking_of_mem_keptPairs (hpairs ▸ hp)

/-! ## A link that was clicked -/

/-- A link with the usual port, a key that comes twice, escapes, a tracking pair and a fragment. -/
def clickedLink : String := "HTTPS://Shop.example:443/part?z=1&utm_source=x&a=%2B+1&a=#top"

/-- The link as another click has it: without the port, tracked by another key, and with its pairs
in another order. -/
def otherLink : String := "HTTPS://Shop.example/part?a=%2B+1&utm_campaign=y&z=1&a="

/-- The link in canonical form. -/
def canonicalLink : String := "https://shop.example/part?a=&a=%2B+1&z=1"

/-- Where it leads. -/
def clickedPlace : Url where
  scheme := "https"
  host := some (.domain "shop.example")
  path := .segments ["part"]

/-- What is read of it. -/
def clickedUrl : Url :=
  { clickedPlace with query := some "z=1&utm_source=x&a=%2B+1&a=", fragment := some "top" }

/-- The parts of a text that asks for the same pairs. -/
def clickedParts (front : String) (h : front.toList.all (fun c => c != '?' && c != '#')) :
    Parts where
  front := front.toList
  query := some "z=1&utm_source=x&a=%2B+1&a=".toList
  fragment := some "top".toList
  front_clear := by simpa using h
  query_clear := by decide

theorem domainHost_shop {s : List Char}
    (h : s = "Shop.example".toList ∨ s = "shop.example".toList) :
    domainHost s = .ok (.domain "shop.example") := by
  have hname : "shop.example".toList ≠ [] := by decide
  rcases h with rfl | rfl <;>
    exact domainHost_of_name (by decide) (by decide) (by decide +kernel) hname (by decide +kernel)

theorem parse_clickedLink : parse (trim clickedLink) = .ok clickedUrl := by
  have harea : userAndHost (areaOf (dropSlashes "//Shop.example:443/part".toList)) =
      ([], "Shop.example:443".toList) := by decide +kernel
  have hsplit : splitHost false "Shop.example:443".toList =
      ("Shop.example".toList, ":443".toList) := by decide +kernel
  refine (parse_eq_ok_iff (p := clickedParts "HTTPS://Shop.example:443/part" (by decide))
    (by decide +kernel) (by decide)).mpr ⟨"//Shop.example:443/part".toList, clickedPlace,
      by decide +kernel, ?_, by decide +kernel⟩
  rw [hosted, harea]
  simp only [hsplit, domainHost_shop (.inl rfl)]
  decide +kernel

theorem parse_write_clickedUrl : parse clickedUrl.write = .ok clickedUrl := by
  have harea : userAndHost (areaOf (dropSlashes "//shop.example/part".toList)) =
      ([], "shop.example".toList) := by decide +kernel
  have hsplit : splitHost false "shop.example".toList = ("shop.example".toList, []) := by
    decide +kernel
  refine (parse_eq_ok_iff (p := clickedParts "https://shop.example/part" (by decide))
    (by decide +kernel) (by decide)).mpr ⟨"//shop.example/part".toList, clickedPlace,
      by decide +kernel, ?_, by decide +kernel⟩
  rw [hosted, harea]
  simp only [hsplit, domainHost_shop (.inr rfl)]
  decide +kernel

theorem untracked_clicked : untracked (some "z=1&utm_source=x&a=%2B+1&a=".toList) =
    [("z".toList, "1".toList), ("a".toList, "+ 1".toList), ("a".toList, [])] := by
  have hquery : "z=1&utm_source=x&a=%2B+1&a=".toList = Form.encodePairs
      [("z".toList, "1".toList), ("utm_source".toList, "x".toList), ("a".toList, "+ 1".toList),
        ("a".toList, [])] := by decide +kernel
  rw [untracked, Option.elim_some, hquery, Form.decodePairs_encodePairs]
  decide +kernel

theorem untracked_other : untracked (some "a=%2B+1&utm_campaign=y&z=1&a=".toList) =
    [("a".toList, "+ 1".toList), ("z".toList, "1".toList), ("a".toList, [])] := by
  have hquery : "a=%2B+1&utm_campaign=y&z=1&a=".toList = Form.encodePairs
      [("a".toList, "+ 1".toList), ("utm_campaign".toList, "y".toList), ("z".toList, "1".toList),
        ("a".toList, [])] := by decide +kernel
  rw [untracked, Option.elim_some, hquery, Form.decodePairs_encodePairs]
  decide +kernel

theorem canonical?_clickedLink : canonical? clickedLink = some canonicalLink := by
  have hkept : keptPairs clickedUrl.query =
      [("a".toList, []), ("a".toList, "+ 1".toList), ("z".toList, "1".toList)] := by
    have huntracked : untracked (clickedUrl.query.map String.toList) = _ := untracked_clicked
    rw [keptPairs_eq, huntracked]
    exact goesBy_pairPrecedes.mergeSort_eq_of_sorted (fun _ _ _ _ => pairKey_injective) (by decide)
      (by decide +kernel)
  refine canonical?_eq_some_iff.mpr ⟨clickedUrl, parse_clickedLink, by decide, ?_⟩
  rw [canonical_eq, hkept]
  decide +kernel

theorem sameOffer_otherLink : SameOffer clickedLink otherLink := by
  let place : Place := {
    name := "HTTPS".toList
    slashes := "//".toList
    host := "Shop.example".toList
    path := "/part".toList
    isWeb := .inr (by decide)
    slashes_all := List.all_eq_true.mp (by decide)
    user_clear := by simp
    host_ne := by decide
    host_clear := by simp [isSlash]
    host_form := .inl (by simp)
    path_start := by simp [isSlash] }
  let other : Parts := {
    front := "HTTPS://Shop.example/part".toList
    query := some "a=%2B+1&utm_campaign=y&z=1&a=".toList
    front_clear := by simp
    query_clear := by decide }
  have husual : place.IsUsual ":443".toList :=
    .inr ⟨"443".toList, rfl, List.all_eq_true.mp (by decide), .inr ⟨443, by decide, by decide⟩⟩
  refine ⟨clickedParts "HTTPS://Shop.example:443/part" (by decide), other, by decide +kernel,
    by decide +kernel, .usual place husual (.inl rfl), ?_⟩
  rw [clickedParts, untracked_clicked, untracked_other]
  decide

/-- Both clicks have one canonical form, and it is its own one. -/
theorem canonical?_stable_clickedLink :
    canonical? clickedLink = some canonicalLink ∧
    (∀ u, parse (trim clickedLink) = .ok u → parse u.write = .ok u) ∧
    canonical? canonicalLink = some canonicalLink ∧
    canonical? otherLink = some canonicalLink := by
  have hback : ∀ u, parse (trim clickedLink) = .ok u → parse u.write = .ok u := by
    intro u hu
    rw [parse_clickedLink] at hu
    obtain rfl := Except.ok.inj hu
    exact parse_write_clickedUrl
  obtain ⟨hown, -, hsame⟩ := canonical?_stable canonical?_clickedLink hback
  exact ⟨canonical?_clickedLink, hback, hown, hsame otherLink sameOffer_otherLink⟩

end PartSourcing.Url
