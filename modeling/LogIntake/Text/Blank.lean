import LogIntake.Text.CodeRanges

/-!
# Blanks

The property White_Space of Unicode, and the removal of blanks at the ends of a text.
-/

namespace LogIntake.Text

/-- The code points with the property White_Space. -/
def blankRanges : CodeRanges where
  ranges := [
    (0x9, 0xD), (0x20, 0x20), (0x85, 0x85), (0xA0, 0xA0), (0x1680, 0x1680), (0x2000, 0x200A),
    (0x2028, 0x2029), (0x202F, 0x202F), (0x205F, 0x205F), (0x3000, 0x3000)
  ]
  ascending := by decide +kernel

def isBlank (c : Char) : Bool := blankRanges.contains c

/-- What is left of a text without the blanks at its two ends. -/
def trim (cs : List Char) : List Char :=
  ((cs.dropWhile isBlank).reverse.dropWhile isBlank).reverse

end LogIntake.Text
