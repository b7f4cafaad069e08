/-
This file holds the two encodings of text that offsets and literals are counted in.

In UTF-8 a code point takes one to four bytes; an offset in bytes that lies between two code
points is an offset in code points too. In UTF-16 a code point beyond U+FFFF takes two units,
a surrogate pair, and `joinSurrogates` puts the two halves of such a pair back together
wherever they stand side by side.
-/

import ImportBinding.Text.Basic

namespace ImportBinding

/-! ### UTF-8 -/

namespace CodePoint

/-- The bytes of a code point. A surrogate is encoded like any other code point of its size. -/
def utf8 (point : CodePoint) : List Nat :=
  let number := point.toNat
  if number < 0x80 then [number]
  else if number < 0x800 then [0xC0 + number / 0x40, 0x80 + number % 0x40]
  else if number < 0x10000 then
    [0xE0 + number / 0x1000, 0x80 + number / 0x40 % 0x40, 0x80 + number % 0x40]
  else
    [0xF0 + number / 0x40000, 0x80 + number / 0x1000 % 0x40, 0x80 + number / 0x40 % 0x40,
      0x80 + number % 0x40]

end CodePoint

namespace Text

/-- The bytes of a text. -/
def utf8 (content : Text) : List Nat := content.flatMap CodePoint.utf8

/-- The number of code points before an offset in bytes. An offset past the end counts as the
end, and an offset inside a code point has none. -/
def offsetOfByte? : Text → Nat → Option Nat
  | _, 0 => some 0
  | [], _ + 1 => some 0
  | point :: rest, bytes =>
    if point.utf8.length ≤ bytes then
      (offsetOfByte? rest (bytes - point.utf8.length)).map (· + 1)
    else none

/-- The code points from one offset up to another. -/
def slice (content : Text) (start stop : Nat) : Text := (content.take stop).drop start

/-- A slice goes on where the text in front of it ends. -/
theorem take_append_slice (content : Text) {start stop : Nat} (ordered : start ≤ stop) :
    content.take start ++ content.slice start stop = content.take stop := by
  have front : (content.take stop).take start = content.take start := by
    rw [List.take_take, Nat.min_eq_left ordered]
  rw [slice, ← front, List.take_append_drop]

/-! ### UTF-16 -/

end Text

/-- The units of a code point: a surrogate pair beyond U+FFFF, and the number itself below. -/
def CodePoint.utf16 (point : CodePoint) : List Nat :=
  if point.toNat < 0x10000 then [point.toNat]
  else [0xD800 + (point.toNat - 0x10000) / 0x400, 0xDC00 + (point.toNat - 0x10000) % 0x400]

/-- The code point that two surrogates stand for. -/
def CodePoint.ofSurrogates (high low : CodePoint) : CodePoint :=
  ⟨0x10000 + (high.toNat - 0xD800) % 0x400 * 0x400 + (low.toNat - 0xDC00) % 0x400, by omega⟩

namespace Text

/-- The units of a text. -/
def utf16 (content : Text) : List Nat := content.flatMap CodePoint.utf16

/-- Each high surrogate that a low one follows directly is joined with it. -/
def joinSurrogates : Text → Text
  | [] => []
  | [point] => [point]
  | first :: second :: rest =>
    if first.isHighSurrogate && second.isLowSurrogate then
      CodePoint.ofSurrogates first second :: joinSurrogates rest
    else first :: joinSurrogates (second :: rest)

end Text

end ImportBinding
