/-
This file says what a character set is, and holds those that need no table.
-/

import ImportBinding.Text.Basic
import ImportBinding.Text.Bitmap
import ImportBinding.Text.Ranges

namespace ImportBinding

/-- A character set: ranges of code points, single members, and blocks of which it has many. -/
structure Charset where
  ranges : Ranges
  members : List String
  bitmaps : List Bitmap

namespace Charset

/-- Membership. -/
def contains (set : Charset) (point : CodePoint) : Bool :=
  set.ranges.contains point.toNat ||
    set.bitmaps.any (fun bitmap => bitmap.contains point.toNat) ||
    set.members.any fun line => line.toList.any fun char => char.toNat = point.toNat

/-- A set that is made up of ranges. -/
def ofRanges (ranges : Ranges) : Charset := ⟨ranges, [], []⟩

/-- A set of the characters of a string. -/
def ofString (members : String) : Charset := ⟨[], [members], []⟩

/-- The code points below `0x80`. -/
def ascii : Charset := ofRanges [(0x0, 0x7F)]

/-- The code points from `0x80` up to `0xFF`. -/
def latin : Charset := ofRanges [(0x80, 0xFF)]

/-- The code points that encode a character. -/
def unicode : Charset := ofRanges [(0x0, 0xD7FF), (0xE000, 0x10FFFF)]

/-- The surrogates. -/
def surrogates : Charset := ofRanges [(0xD800, 0xDFFF)]

end Charset

end ImportBinding
