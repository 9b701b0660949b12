import Diagnostics.Text.CodePoints
import Diagnostics.Text.Basic

/-!
# Blanks

White space is the Unicode white space together with the four information separators U+001C to
U+001F, as of Unicode 14. `Text.strip` takes it off both ends of a text.
-/

namespace Diagnostics

/-- The code points that are white space. -/
def blankRanges : CodeRanges :=
  [(0x9, 0xD), (0x1C, 0x20), (0x85, 0x85), (0xA0, 0xA0), (0x1680, 0x1680), (0x2000, 0x200A),
   (0x2028, 0x2029), (0x202F, 0x202F), (0x205F, 0x205F), (0x3000, 0x3000)]

/-- Whether the character is white space. -/
def isBlank (c : Char) : Bool :=
  blankRanges.contains c.toNat

/-- The text without the white space at its two ends. -/
def Text.strip (t : Text) : Text :=
  ((t.dropWhile isBlank).reverse.dropWhile isBlank).reverse

end Diagnostics
