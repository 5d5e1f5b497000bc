import PartSourcing.Text.Blank
import PartSourcing.Text.Case

/-!
# Part numbers

Sources spell a part number with and without spaces and in either case. Two spellings name the
same part when their normal forms are equal: the spelling without its blanks, in upper case.
-/

namespace PartSourcing.PartNumber

open PartSourcing.Text

/-- The normal form, character by character. -/
def normalChars (s : List Char) : List Char := upperChars (s.filter fun c => !isBlank c)

/-- **The normal form of a spelling.** -/
def normal (s : String) : String := String.ofList (normalChars s.toList)

/-- Whether two spellings name the same part. -/
def same (s t : String) : Bool := normal s == normal t

@[simp] theorem toList_normal (s : String) : (normal s).toList = normalChars s.toList := by
  simp [normal]

theorem normalChars_append (s t : List Char) :
    normalChars (s ++ t) = normalChars s ++ normalChars t := by
  simp [normalChars, upperChars_append]

/-- **A normal form within a part.** Spellings concatenate to the concatenation of their
normal forms. -/
theorem normal_append (s t : String) : normal (s ++ t) = normal s ++ normal t := by
  rw [← String.toList_inj]
  simp [normalChars_append]

end PartSourcing.PartNumber
