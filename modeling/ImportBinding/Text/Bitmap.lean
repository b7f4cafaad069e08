/-
This file holds sets of numbers written bit by bit, for sets that jump too often to be written as
ranges.

A sign stands for six numbers that follow each other. The place of the sign among all signs,
written in base two with the lowest bit first, says which of the six are in the set.
-/

namespace ImportBinding

/-- A set of numbers from a first one on: lines of ninety signs, of which the last may be
shorter. What is beyond the signs is not in the set. -/
structure Bitmap where
  first : Nat
  lines : List String

namespace Bitmap

/-- The signs in one line. -/
def lineSize : Nat := 90

/-- The place of a sign: digits come first, then capital letters, small letters, plus and minus. -/
def place (sign : Char) : Nat :=
  if sign.isDigit then sign.toNat - 0x30
  else if sign.isUpper then sign.toNat - 0x41 + 10
  else if sign.isLower then sign.toNat - 0x61 + 36
  else if sign = '+' then 62
  else 63

/-- Membership. -/
def contains (bitmap : Bitmap) (number : Nat) : Bool :=
  let index := number - bitmap.first
  let line := (bitmap.lines[index / 6 / lineSize]?).getD ""
  let sign := line.toList[index / 6 % lineSize]?
  bitmap.first ≤ number && sign.any fun sign => (place sign).testBit (index % 6)

end Bitmap

end ImportBinding
