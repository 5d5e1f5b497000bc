import PartSourcing.Text.Blank
import PartSourcing.Text.Case

/-!
# Vendors

A vendor is known by its name as displayed, and identified by the name trimmed and in lower
case.
-/

namespace PartSourcing.Vendor

open PartSourcing.Text

/-- **The key of a vendor**, from its name. -/
def key (name : String) : String := String.ofList (lowerChars (trimChars name.toList))

@[simp] theorem toList_key (name : String) :
    (key name).toList = lowerChars (trimChars name.toList) := by
  simp [key]

end PartSourcing.Vendor
