import ChartParsing.Text.Ranges

/-!
# Blank characters

The characters with the property `White_Space`, which versions 16.0 and 17.0 of the character database agree on.
-/

namespace ChartParsing.Text

/-- The characters with the property `White_Space`. -/
def blankRanges : Ranges := [
  (0x9, 0xd), (0x20, 0x20), (0x85, 0x85), (0xa0, 0xa0), (0x1680, 0x1680), (0x2000, 0x200a), (0x2028, 0x2029),
  (0x202f, 0x202f), (0x205f, 0x205f), (0x3000, 0x3000)]

/-- A character that only takes up room. -/
def isBlank (c : Char) : Bool := blankRanges.covers c.toNat

example : blankRanges.separatedFrom 0 := by decide +kernel
example : isBlank ' ' ∧ isBlank '\n' ∧ isBlank '\u3000' ∧ ¬ isBlank 'a' := by decide

end ChartParsing.Text
