import PartSourcing.PartNumber
import PartSourcing.Proofs.Text.SettledLower
import PartSourcing.Proofs.Text.Trimming
import PartSourcing.Proofs.Text.UpperCase
import PartSourcing.Vendor

/-!
# Normal forms of part numbers and keys of vendors

A part number is brought into normal form by whoever reads it: the memory that keeps its record,
the record itself, the identity of a sighting.  That they agree rests on one fact: **a normal form
is its own normal form** (`PartNumber.normal_normal`).  Blanks do not count in it, so trimming
changes nothing, and only a spelling that is all blank has none.

A vendor's key is made from the name wherever one is compared with another: with the placeholders of
a configuration, with what is remembered.  **A key is its own key** (`Vendor.key_key`), so it does
not matter how often that is done, and no blank stands at either end of it (`Vendor.trim_key`).
-/

namespace PartSourcing.PartNumber

open PartSourcing.Text

theorem normalChars_normalChars (s : List Char) :
    normalChars (normalChars s) = normalChars s := by
  unfold normalChars
  rw [List.filter_eq_self.mpr, upperChars_upperChars]
  intro d hd
  obtain ⟨c, hc, hdc⟩ := List.mem_flatMap.mp hd
  have hb : isBlank c = false := by simpa using (List.mem_filter.mp hc).2
  simpa using isBlank_of_mem_upperChar hb hdc

/-- **A normal form is its own normal form.** -/
@[simp] theorem normal_normal (s : String) : normal (normal s) = normal s := by
  rw [← String.toList_inj]
  simp [normalChars_normalChars]

/-- **Blanks have no normal form**, and nothing else has none. -/
theorem normalChars_eq_nil_iff {s : List Char} :
    normalChars s = [] ↔ ∀ c ∈ s, isBlank c = true := by
  have hupper (t : List Char) : upperChars t = [] ↔ t = [] := by
    rw [upperChars, List.flatMap_eq_nil_iff, List.eq_nil_iff_forall_not_mem]
    exact forall₂_congr fun c _ => iff_false_intro (upperChar_ne_nil c)
  rw [normalChars, hupper, List.filter_eq_nil_iff]
  simp only [Bool.not_eq_true', Bool.not_eq_false]

theorem normal_eq_empty_iff {s : String} : normal s = "" ↔ isAllBlank s = true := by
  rw [isAllBlank_iff, ← normalChars_eq_nil_iff, ← toList_normal, String.toList_eq_nil_iff]

/-- **Trimming does not change a normal form.** -/
@[simp] theorem normal_trim (s : String) : normal (trim s) = normal s := by
  obtain ⟨front, behind, hfront, hbehind, hs⟩ := exists_blanks_around s.toList
  rw [← String.toList_inj, toList_normal, toList_normal, toList_trim]
  conv_rhs => rw [hs]
  rw [normalChars_append, normalChars_append, normalChars_eq_nil_iff.mpr hfront,
    normalChars_eq_nil_iff.mpr hbehind, List.nil_append, List.append_nil]

theorem same_iff {s t : String} : same s t = true ↔ normal s = normal t := by
  simp [same]

end PartSourcing.PartNumber

namespace PartSourcing.Vendor

open PartSourcing.Text

/-- **A key is its own key.** -/
@[simp] theorem key_key (name : String) : key (key name) = key name := by
  rw [← String.toList_inj]
  simp only [toList_key, trimChars_lowerChars, lowerChars_lowerChars]

/-- **A key is trimmed.** -/
@[simp] theorem trim_key (name : String) : trim (key name) = key name := by
  rw [← String.toList_inj, toList_trim, toList_key, trimChars_lowerChars]

theorem isBlank_head_key {name : String} {c : Char} (h : (key name).toList.head? = some c) :
    isBlank c = false := by
  rw [← trim_key, toList_trim] at h
  exact isBlank_head_trimChars h

theorem isBlank_getLast_key {name : String} {c : Char} (h : (key name).toList.getLast? = some c) :
    isBlank c = false := by
  rw [← trim_key, toList_trim] at h
  exact isBlank_getLast?_trimChars h

/-- Trimming a name does not change its key. -/
@[simp] theorem key_trim (name : String) : key (trim name) = key name := by
  rw [← String.toList_inj, toList_key, toList_key, toList_trim, trimChars_trimChars]

/-- Blanks alone have no key, and nothing else has none. -/
theorem key_eq_empty_iff {name : String} : key name = "" ↔ isAllBlank name = true := by
  rw [← String.toList_eq_nil_iff, toList_key, lowerChars_eq_nil_iff, trimChars_eq_nil_iff,
    isAllBlank_iff]

end PartSourcing.Vendor
