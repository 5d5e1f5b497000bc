import PartSourcing.Config.Reliability
import PartSourcing.Memory.Tables
import PartSourcing.Memory.Volatile
import PartSourcing.Proofs.Names
import PartSourcing.Provider.Ebay

/-!
# Spellings of part numbers and vendors

No layer takes another's word for a name.  A part number is brought into normal form by the memory
that is asked for it, by the record that is made for it and by the identity of a sighting of it; a
vendor's name is made a key by whoever looks up how far the vendor can be relied on.

They agree because **a normal form is its own normal form and a key is its own key**, whatever
characters they are made of (`spelling_settled`).  So it makes no difference to any layer whether it
is given a name or what another layer has made of it.  Nor does it matter where the blanks in a part
number are (`Respaced`), and since a normal form is made piece by piece, a title names a part in
whatever way it spaces the number (`Ebay.names_of_respaced`).
-/

namespace PartSourcing

open PartSourcing.Calendar PartSourcing.Text

/-! ## Blanks in a part number -/

namespace PartNumber

/-- **Two spellings that differ in their blanks**: the second is the first with some put in and some
taken out, anywhere. -/
inductive Respaced : List Char → List Char → Prop where
  | nil : Respaced [] []
  | keep {s t : List Char} (c : Char) (h : Respaced s t) : Respaced (c :: s) (c :: t)
  | putIn {s t : List Char} {c : Char} (hc : isBlank c = true) (h : Respaced s t) :
      Respaced s (c :: t)
  | takeOut {s t : List Char} {c : Char} (hc : isBlank c = true) (h : Respaced s t) :
      Respaced (c :: s) t

/-- A spelling without its blanks. -/
def unspaced (s : List Char) : List Char := s.filter fun c => !isBlank c

variable {s t : List Char} {c : Char}

theorem unspaced_cons_of_blank (h : isBlank c = true) (s : List Char) :
    unspaced (c :: s) = unspaced s :=
  List.filter_cons_of_neg (by rw [h]; exact Bool.false_ne_true)

theorem unspaced_cons_of_not_blank (h : isBlank c = false) (s : List Char) :
    unspaced (c :: s) = c :: unspaced s := List.filter_cons_of_pos (by rw [h]; rfl)

theorem Respaced.unspaced_eq (h : Respaced s t) : unspaced s = unspaced t := by
  induction h with
  | nil => rfl
  | keep c _ ih =>
    cases hc : isBlank c with
    | true => rw [unspaced_cons_of_blank hc, unspaced_cons_of_blank hc, ih]
    | false => rw [unspaced_cons_of_not_blank hc, unspaced_cons_of_not_blank hc, ih]
  | putIn hc _ ih => rw [unspaced_cons_of_blank hc, ih]
  | takeOut hc _ ih => rw [unspaced_cons_of_blank hc, ih]

/-- **Spellings that differ in their blanks are those that agree without them.** -/
theorem respaced_iff : Respaced s t ↔ unspaced s = unspaced t := by
  refine ⟨Respaced.unspaced_eq, fun h => ?_⟩
  induction s generalizing t with
  | nil =>
    induction t with
    | nil => exact .nil
    | cons d t iht =>
      cases hd : isBlank d with
      | true => exact .putIn hd (iht (h.trans (unspaced_cons_of_blank hd t)))
      | false => cases h.trans (unspaced_cons_of_not_blank hd t)
  | cons c s ih =>
    cases hc : isBlank c with
    | true => exact .takeOut hc (ih ((unspaced_cons_of_blank hc s).symm.trans h))
    | false =>
      rw [unspaced_cons_of_not_blank hc] at h
      -- the blanks in front of the same character are put in first
      induction t with
      | nil => cases h
      | cons d t iht =>
        cases hd : isBlank d with
        | true => exact .putIn hd (iht (h.trans (unspaced_cons_of_blank hd t)))
        | false =>
          obtain ⟨rfl, htail⟩ := List.cons.inj (h.trans (unspaced_cons_of_not_blank hd t))
          exact .keep c (ih htail)

theorem Respaced.normalChars_eq (h : Respaced s t) : normalChars s = normalChars t :=
  congrArg upperChars h.unspaced_eq

/-- **Blanks do not count**, wherever they are. -/
theorem Respaced.normal_eq {s t : String} (h : Respaced s.toList t.toList) :
    normal s = normal t := by
  rw [← String.toList_inj, toList_normal, toList_normal, h.normalChars_eq]

end PartNumber

/-! ## What the layers are given -/

/-- Memory that is not kept reads the same under a part number and its normal form. -/
@[simp] theorem Volatile.read_normal (v : Volatile) (part : String) :
    v.read (PartNumber.normal part) = v.read part := by
  rw [read, read, filed, filed, PartNumber.normal_normal]

/-- So do tables. -/
@[simp] theorem Tables.read_normal (t : Tables) (part : String) :
    t.read (PartNumber.normal part) = t.read part := by
  rw [read, read, PartNumber.normal_normal]

@[simp] theorem PartRecord.empty_normal (part : String) (now : Instant) :
    PartRecord.empty (PartNumber.normal part) now = PartRecord.empty part now := by
  rw [PartRecord.empty, PartRecord.empty, PartNumber.normal_normal]

/-- **A sighting is identified by normal forms**: those of its numbers identify it as well. -/
theorem Sighting.identity_normal (s : Sighting) :
    Sighting.identity { s with
      part := PartNumber.normal s.part
      stockNumber := s.stockNumber.map PartNumber.normal } = s.identity := by
  have hstock : (s.stockNumber.map PartNumber.normal).map PartNumber.normal =
      s.stockNumber.map PartNumber.normal := by
    rw [Option.map_map]
    exact Option.map_congr fun n _ => PartNumber.normal_normal n
  simp only [identity, PartNumber.normal_normal, hstock]

/-- **A vendor is relied on under its key as under its name.** -/
@[simp] theorem Reliability.lookup_key (r : Reliability) (name : String) :
    r.lookup (Vendor.key name) = r.lookup name := by
  rw [lookup, lookup, Vendor.key_key]

/-- **A title names a term that is spelt in it**, however either of them is spaced. -/
theorem Ebay.names_of_respaced {front spelt back : List Char} {term : String}
    (h : PartNumber.Respaced term.toList spelt) (hterm : PartNumber.normal term ≠ "") :
    names (PartNumber.normal (String.ofList (front ++ spelt ++ back))) term = true := by
  have hinfix : PartNumber.normalChars term.toList <:+:
      PartNumber.normalChars (front ++ spelt ++ back) := by
    rw [h.normalChars_eq, PartNumber.normalChars_append, PartNumber.normalChars_append]
    exact List.infix_append ..
  rw [names, Bool.and_eq_true, Bool.not_eq_true', Bool.eq_false_iff, ne_eq, String.isEmpty_iff]
  refine ⟨hterm, occursIn_iff.mpr ?_⟩
  rw [PartNumber.toList_normal, PartNumber.toList_normal, String.toList_ofList]
  exact hinfix

/-! ## Spellings are settled -/

/-- **Spellings are settled after one pass.**  The normal form of a part number is its own normal
form, is made piece by piece and does not depend on blanks; the key of a vendor is its own key and
has no blank at either end. -/
theorem spelling_settled (s t name : String) :
    PartNumber.normal (PartNumber.normal s) = PartNumber.normal s ∧
    PartNumber.normal (s ++ t) = PartNumber.normal s ++ PartNumber.normal t ∧
    (∀ s', PartNumber.Respaced s.toList s'.toList → PartNumber.normal s' = PartNumber.normal s) ∧
    Vendor.key (Vendor.key name) = Vendor.key name ∧
    (∀ c, (Vendor.key name).toList.head? = some c → isBlank c = false) ∧
    (∀ c, (Vendor.key name).toList.getLast? = some c → isBlank c = false) := by
  refine ⟨PartNumber.normal_normal s, PartNumber.normal_append s t, fun s' h => h.normal_eq.symm,
    Vendor.key_key name, fun c => Vendor.isBlank_head_key, fun c => Vendor.isBlank_getLast_key⟩

/-- A ligature and a sharp s, spaced in two ways, and a vendor's name that ends in a capital
sigma. -/
theorem spelling_settled_ligature :
    PartNumber.Respaced "ﬁ 12ß".toList "\u00a0ﬁ1 2ß\u3000".toList ∧
    PartNumber.normal (PartNumber.normal "ﬁ 12ß") = "FI12SS" ∧
    PartNumber.normal "\u00a0ﬁ1 2ß\u3000" = PartNumber.normal "ﬁ 12ß" ∧
    (Vendor.key "\u3000ΟΔΟΣ\u00a0").toList.head? = some 'ο' ∧
    (Vendor.key "\u3000ΟΔΟΣ\u00a0").toList.getLast? = some 'ς' ∧
    Vendor.key (Vendor.key "\u3000ΟΔΟΣ\u00a0") = "οδος" ∧
    isBlank 'ο' = false ∧ isBlank 'ς' = false := by
  have hrespaced : PartNumber.Respaced "ﬁ 12ß".toList "\u00a0ﬁ1 2ß\u3000".toList :=
    PartNumber.respaced_iff.mpr (by decide +kernel)
  have hhead : (Vendor.key "\u3000ΟΔΟΣ\u00a0").toList.head? = some 'ο' := by decide +kernel
  have hlast : (Vendor.key "\u3000ΟΔΟΣ\u00a0").toList.getLast? = some 'ς' := by decide +kernel
  obtain ⟨hnormal, -, hblank, hkey, hfirst, hend⟩ :=
    spelling_settled "ﬁ 12ß" "" "\u3000ΟΔΟΣ\u00a0"
  refine ⟨hrespaced, hnormal.trans (by decide +kernel), hblank _ hrespaced, hhead, hlast,
    hkey.trans (by decide +kernel), hfirst _ hhead, hend _ hlast⟩

end PartSourcing
