/-!
# Blanks

A blank is a character with the `White_Space` property of Unicode, which is more than ASCII
knows and fewer than typesetters use: the no-break space is one, the zero-width space is not.
Every rule of this library that trims a text or drops its spaces means these characters.
-/

namespace PartSourcing.Text

/-- **The white-space class.** ASCII controls `U+0009` to `U+000D` and the space, the two
Latin-1 spaces, and the eight runs of the higher planes. -/
def isBlank (c : Char) : Bool :=
  let n := c.toNat
  if n < 0x80 then n == 0x20 || (0x09 ≤ n && n ≤ 0x0D)
  else n == 0x85 || n == 0xA0 || n == 0x1680 || (0x2000 ≤ n && n ≤ 0x200A) ||
    n == 0x2028 || n == 0x2029 || n == 0x202F || n == 0x205F || n == 0x3000

/-- What is left after the leading blanks. -/
def dropLeading (s : List Char) : List Char := s.dropWhile isBlank

/-- What is left before the trailing blanks. -/
def dropTrailing (s : List Char) : List Char := (s.reverse.dropWhile isBlank).reverse

/-- A text without the blanks at either end. -/
def trimChars (s : List Char) : List Char := dropTrailing (dropLeading s)

/-- A text without the blanks at either end. -/
def trim (s : String) : String := String.ofList (trimChars s.toList)

/-- A text with something in it besides blanks, trimmed; `none` for any other. -/
def nonBlank? (s : String) : Option String :=
  let t := trim s
  if t.isEmpty then none else some t

/-- A text with no character besides blanks. -/
def isAllBlank (s : String) : Bool := s.toList.all isBlank

@[simp] theorem toList_trim (s : String) : (trim s).toList = trimChars s.toList := by
  simp [trim]

/-- A leading blank never survives trimming at the front. -/
theorem head?_dropLeading (s : List Char) (c : Char) (h : (dropLeading s).head? = some c) :
    isBlank c = false := by
  induction s with
  | nil => simp [dropLeading] at h
  | cons a r ih =>
    unfold dropLeading at h ih
    by_cases ha : isBlank a = true
    · rw [List.dropWhile_cons_of_pos ha] at h
      exact ih h
    · rw [List.dropWhile_cons_of_neg ha] at h
      simp only [List.head?_cons, Option.some.injEq] at h
      exact h ▸ (Bool.not_eq_true _).mp ha

end PartSourcing.Text
