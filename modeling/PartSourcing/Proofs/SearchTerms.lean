import PartSourcing.Proofs.FirstAppearance
import PartSourcing.Proofs.Names
import PartSourcing.Requirement

/-!
# What is asked of a source

A requirement names parts in any spelling, some of them more than once and some not at all.  What is
asked of a source are the normal forms that it names, each once and in the order in which they first
appear (`isFirsts_searchTerms`), each in a spelling of the requirement, trimmed.  **So a part is
requested just if it is asked for** (`isRequested_iff_searchTerms`), as far as it is a part at all.
-/

namespace PartSourcing.Requirement

open PartSourcing.Text

/-- The parts that a requirement names, as it spells them. -/
def namedParts (r : Requirement) : List String := r.part :: r.substitutes

/-- **The normal forms of distinct terms** are those of all terms, each once. -/
theorem map_normal_distinctTerms (seen ts : List String) :
    (distinctTerms seen ts).map PartNumber.normal =
      ((ts.map PartNumber.normal).filter fun k => !(k.isEmpty || seen.contains k)).eraseDups := by
  induction ts generalizing seen with
  | nil => rfl
  | cons t ts ih =>
    rw [distinctTerms, List.map_cons]
    cases hskip : (PartNumber.normal t).isEmpty || seen.contains (PartNumber.normal t) with
    | true =>
      rw [if_pos rfl, ih, List.filter_cons_of_neg (by rw [hskip]; exact Bool.false_ne_true)]
    | false =>
      -- a term that is new is passed over from here on, which is what dropping repetitions does
      rw [if_neg Bool.false_ne_true, List.map_cons, PartNumber.normal_trim, ih,
        List.filter_cons_of_pos (by rw [hskip]; rfl), List.eraseDups_cons, List.filter_filter]
      congr 3
      funext k
      rw [List.contains_cons, Bool.or_left_comm, Bool.not_or]

theorem distinctTerms_sublist (seen ts : List String) :
    (distinctTerms seen ts).Sublist (ts.map trim) := by
  induction ts generalizing seen with
  | nil => exact .slnil
  | cons t ts ih =>
    rw [distinctTerms, List.map_cons]
    split
    · exact (ih seen).cons _
    · exact (ih _).cons_cons _

variable {r : Requirement}

/-- **What is asked of a source**: the normal forms of the parts that a requirement names, each once
and in the order in which they first appear. -/
theorem isFirsts_searchTerms (r : Requirement) :
    IsFirsts ((r.namedParts.map PartNumber.normal).filter (· ≠ ""))
      (r.searchTerms.map PartNumber.normal) := by
  have hmap : r.searchTerms.map PartNumber.normal =
      ((r.namedParts.map PartNumber.normal).filter (· ≠ "")).eraseDups := by
    rw [searchTerms, map_normal_distinctTerms]
    congr 2
    funext k
    rw [List.contains_nil, Bool.or_false, Bool.eq_iff_iff, Bool.not_eq_true', decide_eq_true_eq,
      Bool.eq_false_iff, ne_eq, String.isEmpty_iff]
  rw [hmap]
  exact isFirsts_eraseDups _

theorem normal_ne_empty_of_mem {t : String} (h : t ∈ r.searchTerms) :
    PartNumber.normal t ≠ "" := by
  have hmem := ((isFirsts_searchTerms r).1 _).mp (List.mem_map_of_mem h)
  exact of_decide_eq_true (List.mem_filter.mp hmem).2

/-- **A term is trimmed**, and not blank. -/
theorem trimmed_of_mem {t : String} (h : t ∈ r.searchTerms) : Trimmed t := by
  obtain ⟨s, -, rfl⟩ := List.mem_map.mp ((distinctTerms_sublist _ _).subset h)
  refine trimmed_trim ((Bool.not_eq_true _).mp fun hblank => normal_ne_empty_of_mem h ?_)
  rw [PartNumber.normal_trim, PartNumber.normal_eq_empty_iff, hblank]

/-- **The requested part comes first.** -/
theorem searchTerms_eq_cons (h : isAllBlank r.part = false) :
    r.searchTerms = trim r.part :: distinctTerms [PartNumber.normal r.part] r.substitutes := by
  have hskip : ((PartNumber.normal r.part).isEmpty ||
      ([] : List String).contains (PartNumber.normal r.part)) = false := by
    rw [List.contains_nil, Bool.or_false, Bool.eq_false_iff, ne_eq, String.isEmpty_iff,
      PartNumber.normal_eq_empty_iff, h]
    exact Bool.false_ne_true
  rw [searchTerms, distinctTerms, hskip]
  rfl

/-! ## What is requested -/

theorem isRequested_iff {m : String} :
    r.isRequested m = true ↔ PartNumber.normal m ∈ r.namedParts.map PartNumber.normal := by
  rw [isRequested, isPrimary, Bool.or_eq_true, PartNumber.same_iff, List.any_eq_true, namedParts,
    List.map_cons, List.mem_cons, List.mem_map]
  simp only [PartNumber.same_iff]
  exact or_congr_left eq_comm

/-- **A part is requested just if it is asked for.** -/
theorem isRequested_iff_searchTerms {m : String} (h : PartNumber.normal m ≠ "") :
    r.isRequested m = true ↔ ∃ t ∈ r.searchTerms, PartNumber.normal t = PartNumber.normal m := by
  rw [isRequested_iff, ← List.mem_map, (isFirsts_searchTerms r).1, List.mem_filter,
    and_iff_left (decide_eq_true h)]

theorem isRequested_of_mem {t : String} (h : t ∈ r.searchTerms) : r.isRequested t = true :=
  (isRequested_iff_searchTerms (normal_ne_empty_of_mem h)).mpr ⟨t, h, rfl⟩

theorem isRequested_trim (r : Requirement) (m : String) :
    r.isRequested (trim m) = r.isRequested m := by
  rw [Bool.eq_iff_iff, isRequested_iff, isRequested_iff, PartNumber.normal_trim]

theorem isRequested_part (r : Requirement) : r.isRequested r.part = true :=
  isRequested_iff.mpr List.mem_cons_self

end PartSourcing.Requirement
