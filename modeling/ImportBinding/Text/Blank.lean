/-
This file says which code points are blank, trims them off the ends of a text, and finds the words
between them.

Blank is wider than the layout that may stand between the tokens of a program, and
narrower too: the information separators U+001C to U+001F and U+0085 are blank, while
the zero width space and the byte order mark are not.
-/

import ImportBinding.Text.Basic
import ImportBinding.Text.Ranges

namespace ImportBinding

/-! ### Blank code points -/

/-- The white space of the Unicode standard, with the four information separators. -/
def blankRanges : Ranges :=
  [(0x9, 0xD), (0x1C, 0x20), (0x85, 0x85), (0xA0, 0xA0), (0x1680, 0x1680), (0x2000, 0x200A),
   (0x2028, 0x2029), (0x202F, 0x202F), (0x205F, 0x205F), (0x3000, 0x3000)]

/-- A blank code point. -/
def CodePoint.isBlank (point : CodePoint) : Bool := blankRanges.contains point.toNat

namespace Text

/-! ### Trimming -/

/-- The text without the blanks in front. -/
def trimStart (content : Text) : Text := content.dropWhile CodePoint.isBlank

/-- The text without the blanks at its end. -/
def trimEnd (content : Text) : Text := (content.reverse.dropWhile CodePoint.isBlank).reverse

/-- The text without the blanks at either end. -/
def trim (content : Text) : Text := content.trimStart.trimEnd

/-! ### Words -/

/-- The stretches of a text without blanks in them. -/
def words (content : Text) : List Text :=
  let space := CodePoint.ofChar ' '
  let spaced := content.map fun point => if point.isBlank then space else point
  (pieces space spaced).filter fun word => !word.isEmpty

end Text

end ImportBinding
