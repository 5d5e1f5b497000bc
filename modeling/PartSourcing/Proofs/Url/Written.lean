import PartSourcing.Proofs.Text.Trimming
import PartSourcing.Proofs.Url.HostText
import PartSourcing.Proofs.Url.Reading

/-!
# Links that were read

Whatever a link is read from, it is written with visible characters of ASCII, and what separates its
parts is not in them (`written_of_parse`): each part was escaped for the place it stands in, and
hosts need no escapes.  Nothing is trimmed from such a text, and it is cut where its parts meet
(`Written.cleaned_write`).  **So a link that is read back may have its query and fragment exchanged
and still be read back** (`Written.parse_exchanged`).
-/

namespace PartSourcing.Url

open PartSourcing.Text PartSourcing.Decimal

/-! ## Visible characters -/

/-- Whether a character is a visible one of ASCII. -/
def isVisible (c : Char) : Bool := 0x20 < c.toNat && c.toNat < 0x7F

theorem toNat_lt_of_inControls {c : Char} (h : inControls c = false) : c.toNat < 128 := by
  simp only [inControls, Bool.or_eq_false_iff, decide_eq_false_iff_not] at h
  omega

theorem isVisible_of_isBodyChar {c : Char} (h : isBodyChar c = true) : isVisible c = true := by
  simp only [isBodyChar, Bool.and_eq_true] at h
  simp only [isVisible, Bool.and_eq_true]
  exact h.1.1

theorem isVisible_of_inFragment {c : Char} (h : inFragment c = false) : isVisible c = true :=
  forall_ascii (P := fun c => inFragment c = false → isVisible c = true) (by decide)
    (toNat_lt_of_inControls (Bool.or_eq_false_iff.mp h).1) h

theorem isVisible_of_inSpecialQuery {c : Char} (h : inSpecialQuery c = false) :
    isVisible c = true := by
  have hcontrols : inControls c = false :=
    (Bool.or_eq_false_iff.mp (Bool.or_eq_false_iff.mp h).1).1
  exact forall_ascii (P := fun c => inSpecialQuery c = false → isVisible c = true) (by decide)
    (toNat_lt_of_inControls hcontrols) h

theorem isBodyChar_of_inPath {c : Char} (h : inPath c = false) : isBodyChar c = true := by
  have hcontrols : inControls c = false :=
    (Bool.or_eq_false_iff.mp (Bool.or_eq_false_iff.mp h).1).1
  exact forall_ascii (P := fun c => inPath c = false → isBodyChar c = true) (by decide)
    (toNat_lt_of_inControls hcontrols) h

theorem isBodyChar_of_mem_escape_inPath {s : List Char} {c : Char} (hc : c ∈ escape inPath s) :
    isBodyChar c = true :=
  isBodyChar_of_inPath (sparesEscapes_inPath.of_mem_escape hc)

theorem isBodyChar_of_mem_escape_inUserInfo {s : List Char} {c : Char}
    (hc : c ∈ escape inUserInfo s) : isBodyChar c = true :=
  isBodyChar_of_inPath (Bool.or_eq_false_iff.mp (sparesEscapes_inUserInfo.of_mem_escape hc)).1

/-- A visible character is none of those that are dropped from a text before it is read. -/
theorem of_isVisible {c : Char} (h : isVisible c = true) :
    ¬c.toNat ≤ 0x20 ∧ (c != '\t' && c != '\n' && c != '\r') = true ∧ isBlank c = false := by
  have hascii : c.toNat < 128 := by
    simp only [isVisible, Bool.and_eq_true, decide_eq_true_eq] at h
    omega
  exact forall_ascii (P := fun c => isVisible c = true → ¬c.toNat ≤ 0x20 ∧
    (c != '\t' && c != '\n' && c != '\r') = true ∧ isBlank c = false) (by decide) hascii h

theorem trimChars_of_isVisible {s : List Char} (h : ∀ c ∈ s, isVisible c = true) :
    trimChars s = s :=
  trimChars_eq_self (fun c hc => (of_isVisible (h c (List.mem_of_mem_head? hc))).2.2)
    fun hs => (of_isVisible (h _ (List.getLast_mem hs))).2.2

theorem cleaned_of_isVisible {s : List Char} (h : ∀ c ∈ s, isVisible c = true) :
    cleaned s = s := by
  have hdrop {t : List Char} (ht : ∀ c ∈ t, c ∈ s) : t.dropWhile (fun c => c.toNat ≤ 0x20) = t := by
    cases t with
    | nil => rfl
    | cons c t =>
      have hc := (of_isVisible (h c (ht c List.mem_cons_self))).1
      exact List.dropWhile_cons_of_neg (by simpa using hc)
  rw [cleaned, hdrop fun _ => id, hdrop fun _ => List.mem_reverse.mp, List.reverse_reverse,
    List.filter_eq_self.mpr fun c hc => (of_isVisible (h c hc)).2.1]

/-! ## What a link is written with -/

/-- What is written before the query. -/
def front (u : Url) : String := u.scheme ++ ":" ++ u.authority ++ u.path.write

/-- **A link whose parts can be told apart** in its text, and whose port is written only where it
must be. -/
structure Written (u : Url) : Prop where
  isWeb : u.isWeb = true
  front : ∀ c ∈ u.front.toList, isBodyChar c = true
  query : ∀ q ∈ u.query, ∀ c ∈ q.toList, inSpecialQuery c = false
  fragment : ∀ f ∈ u.fragment, ∀ c ∈ f.toList, inFragment c = false
  port : u.port ≠ usualPort? u.scheme

/-- What is written with body characters. -/
abbrev IsBody (s : String) : Prop := ∀ c ∈ s.toList, isBodyChar c = true

theorem IsBody.append {s t : String} (hs : IsBody s) (ht : IsBody t) : IsBody (s ++ t) := by
  intro c hc
  rw [String.toList_append, List.mem_append] at hc
  rcases hc with hc | hc
  · exact hs c hc
  · exact ht c hc

theorem isBody_escape_inUserInfo (s : List Char) :
    IsBody (String.ofList (escape inUserInfo s)) := by
  intro c hc
  rw [String.toList_ofList] at hc
  exact isBodyChar_of_mem_escape_inUserInfo hc

theorem isBody_userParts (s : List Char) :
    IsBody (userParts s).1 ∧ ∀ p ∈ (userParts s).2, IsBody p := by
  refine ⟨isBody_escape_inUserInfo _, ?_⟩
  intro p hp
  obtain ⟨t, -, rfl⟩ := Option.map_eq_some_iff.mp hp
  exact isBody_escape_inUserInfo t

theorem isBody_userInfo {u : Url} (hname : IsBody u.username)
    (hpassword : ∀ p ∈ u.password, IsBody p) : IsBody u.userInfo := by
  have hcolon : IsBody ":" := List.all_eq_true.mp (by decide)
  have hat : IsBody "@" := List.all_eq_true.mp (by decide)
  unfold userInfo
  split
  · rename_i p hp
    exact ((hname.append hcolon).append (hpassword p hp)).append hat
  split
  · exact nofun
  · exact hname.append hat

theorem isBody_portText (u : Url) : IsBody u.portText := by
  have hcolon : IsBody ":" := List.all_eq_true.mp (by decide)
  unfold portText
  split
  · exact hcolon.append fun c hc => isBodyChar_of_mem_natText hc
  · exact nofun

/-- Segments that are resolved are those that were there, empty ones, and new ones escaped. -/
theorem isBody_of_mem_resolve {there : List String} {segments : List (List Char)}
    (hthere : ∀ n ∈ there, IsBody n) : ∀ n ∈ resolve there segments, IsBody n := by
  induction segments generalizing there with
  | nil => simpa [resolve] using hthere
  | cons s rest ih =>
    have hdrop : ∀ n ∈ there.drop 1, IsBody n := fun n hn => hthere n (List.mem_of_mem_drop hn)
    have hcons {l : List String} {t : String} (hl : ∀ n ∈ l, IsBody n) (ht : IsBody t) :
        ∀ n ∈ t :: l, IsBody n := List.forall_mem_cons.mpr ⟨ht, hl⟩
    have hempty : IsBody "" := nofun
    have hnew : IsBody (String.ofList (escape inPath s)) := by
      intro c hc
      rw [String.toList_ofList] at hc
      exact isBodyChar_of_mem_escape_inPath hc
    refine ih ?_
    split_ifs
    · exact hcons hdrop hempty
    · exact hdrop
    · exact hcons hthere hempty
    · exact hthere
    · exact hcons hthere hnew

theorem isBody_pathAfter (s : List Char) : IsBody (Path.segments (pathAfter s)).write := by
  have hnames : ∀ n ∈ pathAfter s, IsBody n := by
    cases s with
    | nil => exact List.forall_mem_singleton.mpr nofun
    | cons c rest => exact isBody_of_mem_resolve nofun
  have hslash : IsBody "/" := List.all_eq_true.mp (by decide)
  intro c hc
  rw [Path.write, String.toList_join, List.mem_flatMap] at hc
  obtain ⟨t, ht, hc⟩ := hc
  obtain ⟨n, hn, rfl⟩ := List.mem_map.mp ht
  exact hslash.append (hnames n hn) c hc

theorem isBody_front {u : Url} {host : Host} (hhost : u.host = some host)
    (hscheme : IsBody u.scheme) (huser : IsBody u.userInfo) (hwrite : IsBody host.write)
    (hpath : IsBody u.path.write) : IsBody u.front := by
  have hcolon : IsBody ":" := List.all_eq_true.mp (by decide)
  have hslashes : IsBody "//" := List.all_eq_true.mp (by decide)
  have hauthority : IsBody u.authority := by
    rw [authority, hhost]
    exact ((hslashes.append huser).append hwrite).append (isBody_portText u)
  exact ((hscheme.append hcolon).append hauthority).append hpath

/-- A port is kept only if it is not the usual one. -/
theorem port_ne_of_portAfter {scheme : String} {s : List Char} {found : Option UInt16 × List Char}
    (h : portAfter scheme s = .ok found) : found.1 = none ∨ found.1 ≠ usualPort? scheme := by
  cases s with
  | nil =>
    obtain rfl := Except.ok.inj h
    exact .inl rfl
  | cons c ds =>
    simp only [portAfter, port?] at h
    split_ifs at h with _ _ husual
    · obtain rfl := Except.ok.inj h
      exact .inl rfl
    · obtain rfl := Except.ok.inj h
      simp only [Bool.or_eq_true, beq_iff_eq, not_or] at husual
      exact .inr (Ne.symm husual.2)

theorem exists_of_hosted {scheme : String} {s : List Char} {v : Url}
    (hv : hosted scheme s = .ok v) :
    ∃ user hostText host portText port rest, domainHost hostText = .ok host ∧
      portAfter scheme portText = .ok port ∧ v = {
        scheme, username := (userParts user).1, password := (userParts user).2
        host := some host, port := port.1, path := .segments (pathAfter rest) } := by
  unfold hosted at hv
  dsimp only at hv
  split_ifs at hv
  cases hhost : domainHost (splitHost false (userAndHost (areaOf s)).2).1 with
  | error e => simp [hhost, Except.bind] at hv
  | ok host =>
    cases hport : portAfter scheme (splitHost false (userAndHost (areaOf s)).2).2 with
    | error e => simp [hhost, hport, Except.bind] at hv
    | ok port =>
      simp only [hhost, hport, Except.bind, Except.ok.injEq] at hv
      exact ⟨_, _, host, _, port, _, hhost, hport, hv.symm⟩

theorem mem_escape_ofList {bad : Char → Bool} (hbad : SparesEscapes bad)
    {text : Option (List Char)} :
    ∀ t ∈ text.map fun s => String.ofList (escape bad s), ∀ c ∈ t.toList, bad c = false := by
  intro t ht c hc
  obtain ⟨s, -, rfl⟩ := Option.map_eq_some_iff.mp ht
  rw [String.toList_ofList] at hc
  exact hbad.of_mem_escape hc

theorem written_of_hosted {scheme : String} (hscheme : scheme = "http" ∨ scheme = "https")
    {s : List Char} {v : Url} (hv : hosted scheme s = .ok v) (query fragment : Option (List Char)) :
    Written (v.withTail query fragment) := by
  obtain ⟨user, hostText, host, portText, port, rest, hhost, hport, rfl⟩ := exists_of_hosted hv
  have hspecial : isSpecial scheme = true := by rcases hscheme with rfl | rfl <;> decide
  have hbody : IsBody scheme := by
    rcases hscheme with rfl | rfl <;> exact List.all_eq_true.mp (by decide)
  have huser := isBody_userParts user
  constructor
  · exact isWeb_iff.mpr hscheme
  · exact isBody_front rfl hbody (isBody_userInfo huser.1 huser.2)
      (fun c hc => isBodyChar_of_mem_write hhost hc) (isBody_pathAfter rest)
  · simp only [withTail, hspecial, if_true]
    exact mem_escape_ofList sparesEscapes_inSpecialQuery
  · exact mem_escape_ofList sparesEscapes_inFragment
  · rcases port_ne_of_portAfter hport with hnone | hne
    · rcases hscheme with rfl | rfl <;> (dsimp only [withTail]; rw [hnone]; decide)
    · exact hne

/-- Every text has its parts. -/
theorem Parts.exists_text (s : List Char) : ∃ p : Parts, p.text = s := by
  -- the fragment is cut off first, since a question mark may stand in it
  obtain ⟨before, fragment, hbefore, rfl⟩ : ∃ before fragment, '#' ∉ before ∧
      before ++ Option.elim fragment [] ('#' :: ·) = s := by
    by_cases h : '#' ∈ s
    · obtain ⟨before, rest, rfl, hbefore⟩ := List.eq_append_cons_of_mem h
      exact ⟨before, some rest, hbefore, rfl⟩
    · exact ⟨s, none, h, List.append_nil s⟩
  obtain ⟨front, query, hfront, rfl⟩ : ∃ front query, '?' ∉ front ∧
      front ++ Option.elim query [] ('?' :: ·) = before := by
    by_cases h : '?' ∈ before
    · obtain ⟨front, rest, rfl, hfront⟩ := List.eq_append_cons_of_mem h
      exact ⟨front, some rest, hfront, rfl⟩
    · exact ⟨before, none, h, List.append_nil before⟩
  refine ⟨⟨front, query, fragment, ?_, ?_⟩, (List.append_assoc ..).symm⟩
  · intro c hc
    constructor
    · rintro rfl
      exact hfront hc
    · rintro rfl
      exact hbefore (List.mem_append_left _ hc)
  · rintro q rfl hq
    exact hbefore (List.mem_append_right _ (List.mem_cons_of_mem _ hq))

/-- **Every link that is read is written so.** -/
theorem written_of_parse {s : String} {u : Url} (hu : parse s = .ok u) (hweb : u.isWeb = true) :
    Written u := by
  obtain ⟨p, hp⟩ := Parts.exists_text (cleaned s.toList)
  obtain ⟨rest, v, -, hv, rfl⟩ := (parse_eq_ok_iff hp.symm hweb).mp hu
  exact written_of_hosted (isWeb_iff.mp hweb) hv _ _

namespace Written

variable {u : Url} (h : Written u)

/-- The parts of the text. -/
def parts : Parts where
  front := u.front.toList
  query := u.query.map String.toList
  fragment := u.fragment.map String.toList
  front_clear c hc := by
    have := h.front c hc
    simp only [isBodyChar, Bool.and_eq_true, bne_iff_ne] at this
    exact ⟨this.1.2, this.2⟩
  query_clear q hq hhash := by
    obtain ⟨t, ht, rfl⟩ := Option.map_eq_some_iff.mp hq
    have := h.query t ht '#' hhash
    revert this
    decide

theorem toList_write : u.write.toList = h.parts.text := by
  simp only [write, target, Parts.text, Parts.tail, parts, Url.front, String.toList_append,
    List.append_assoc]
  cases u.query <;> cases u.fragment <;> simp

/-- A part that may be missing adds its sign to a text, and itself. -/
theorem isVisible_of_mem_marked {sign : Char} (hsign : isVisible sign = true) {part : Option String}
    (hpart : ∀ t ∈ part, ∀ c ∈ t.toList, isVisible c = true) {c : Char}
    (hc : c ∈ (part.map String.toList).elim [] (sign :: ·)) : isVisible c = true := by
  cases part with
  | none => simp at hc
  | some t =>
    rw [Option.map_some, Option.elim_some, List.mem_cons] at hc
    rcases hc with rfl | hc
    · exact hsign
    · exact hpart t rfl c hc

include h in
theorem isVisible_of_mem_write {c : Char} (hc : c ∈ u.write.toList) : isVisible c = true := by
  rw [h.toList_write, Parts.text, Parts.tail, List.mem_append, List.mem_append] at hc
  rcases hc with hc | hc | hc
  · exact isVisible_of_isBodyChar (h.front c hc)
  · refine isVisible_of_mem_marked (by decide) ?_ hc
    intro q hq c hc
    exact isVisible_of_inSpecialQuery (h.query q hq c hc)
  · refine isVisible_of_mem_marked (by decide) ?_ hc
    intro f hf c hc
    exact isVisible_of_inFragment (h.fragment f hf c hc)

/-- **Nothing of the text is trimmed or dropped** before it is read. -/
theorem cleaned_write : cleaned u.write.toList = h.parts.text := by
  rw [cleaned_of_isVisible fun c => h.isVisible_of_mem_write, h.toList_write]

include h in
theorem trim_write : trim u.write = u.write := by
  rw [← String.toList_inj, toList_trim, trimChars_of_isVisible fun c => h.isVisible_of_mem_write]

end Written

theorem map_escape_toList {bad : Char → Bool} {text : Option String}
    (h : ∀ t ∈ text, ∀ c ∈ t.toList, bad c = false) :
    ((text.map String.toList).map fun s => String.ofList (escape bad s)) = text := by
  cases text with
  | none => rfl
  | some t => simp [escape_eq_self (h t rfl)]

/-- What needs no escape is added as it is. -/
theorem withTail_toList {v : Url} (hspecial : isSpecial v.scheme = true)
    {query fragment : Option String}
    (hquery : ∀ q ∈ query, ∀ c ∈ q.toList, inSpecialQuery c = false)
    (hfragment : ∀ f ∈ fragment, ∀ c ∈ f.toList, inFragment c = false) :
    v.withTail (query.map String.toList) (fragment.map String.toList) =
      { v with query, fragment } := by
  simp only [withTail, hspecial, if_true, map_escape_toList hquery, map_escape_toList hfragment]

/-- **A link that is read back may have its query and fragment exchanged**, and still be read
back. -/
theorem Written.parse_exchanged {u : Url} (hu : Written u) (hback : parse u.write = .ok u)
    {query fragment : Option String} (hv : Written { u with query, fragment }) :
    parse (Url.write { u with query, fragment }) = .ok { u with query, fragment } := by
  obtain ⟨rest, v, hscheme, hhosted, htail⟩ :=
    (parse_eq_ok_iff hu.cleaned_write hu.isWeb).mp hback
  refine (parse_eq_ok_iff hv.cleaned_write hv.isWeb).mpr ⟨rest, v, hscheme, hhosted, ?_⟩
  have hsame : (v.withTail hu.parts.query hu.parts.fragment).scheme = u.scheme := by rw [htail]
  have hspecial : isSpecial v.scheme = true :=
    (congrArg isSpecial hsame).trans (isSpecial_of_isWeb hu.isWeb)
  have hu' : v.withTail hu.parts.query hu.parts.fragment =
      { v with query := u.query, fragment := u.fragment } :=
    withTail_toList hspecial hu.query hu.fragment
  have hv' : v.withTail hv.parts.query hv.parts.fragment = { v with query, fragment } :=
    withTail_toList hspecial hv.query hv.fragment
  rw [hv', ← htail, hu']

end PartSourcing.Url
