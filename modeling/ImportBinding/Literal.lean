/-
This file reads string literals: which escape sequences there are, and what text a literal
denotes.

A literal is a run of pieces between two equal quotes. A piece is a plain code point or an escape
sequence, which starts with a backslash. Decoding goes piece by piece; only then are surrogates
that come to stand side by side joined, so that a pair may also be written as two escapes.
-/

import ImportBinding.Failure
import ImportBinding.Layout
import ImportBinding.Text.Numeral
import ImportBinding.Text.Units

namespace ImportBinding

/-! ### The extent of an escape sequence -/

/-- Whether a text starts with `count` digits in base sixteen. -/
def startsWithHex (count : Nat) (content : Text) : Bool :=
  (content.take count).length = count && (content.take count).all CodePoint.isHexDigit

/-- The length of `u` and the code point after it, four digits or any number of digits in braces,
at the front of a text. -/
def unicodeEscapeSize : Text → Nat
  | mark :: brace :: rest =>
    if mark ≠ 'u' then 0
    else if brace = '\x7b' then
      let digits := rest.takeWhile CodePoint.isHexDigit
      if digits ≠ [] ∧ (rest.drop digits.length).head? = some (CodePoint.ofChar '\x7d') then
        digits.length + 3
      else 0
    else if startsWithHex 4 (brace :: rest) then 5
    else 0
  | _ => 0

/-- The length of an escape sequence without its backslash, at the front of a text: a code point
after `u` or `x`, one to three octal digits, a line break, or any one code point. -/
def escapeSize : Text → Nat
  | [] => 0
  | point :: rest =>
    if point = 'u' then unicodeEscapeSize (point :: rest)
    else if point = 'x' then if startsWithHex 2 rest then 3 else 0
    else if point.isOctalDigit then 1 + ((rest.take 2).takeWhile CodePoint.isOctalDigit).length
    else if point = '\r' ∧ rest.head? = some (CodePoint.ofChar '\n') then 2
    else 1

/-- The length of the piece of a literal in the given quotes at the front of a text. The quote and
a raw line break are none. -/
def pieceSize (quote : CodePoint) : Text → Nat
  | [] => 0
  | point :: rest =>
    if point = '\\' then
      let size := escapeSize rest
      if size = 0 then 0 else size + 1
    else if point = quote ∨ point = '\n' ∨ point = '\r' then 0
    else 1

/-! ### Decoding -/

/-- The code point of a number. Numbers beyond thirty-one bits are not looked up at all. -/
def codePointOf (number : Int) : Except Failure Text :=
  if number < -0x80000000 ∨ 0x80000000 ≤ number then .error (.tooLarge number)
  else if number < 0 then .error (.notCodePoint number)
  else match CodePoint.ofNat? number.toNat with
    | some point => .ok [point]
    | none => .error (.notCodePoint number)

/-- The code point that a numeral in base sixteen stands for. -/
def codePointOfHex (numeral : Text) : Except Failure Text :=
  match numeral.hexNumeral? with
  | some number => codePointOf number
  | none => .error (.notNumeral numeral)

/-- What may follow a backslash to continue a literal on the next line. -/
def continuations : List Text :=
  [text "\n", text "\r\n", text "\r", text "\u2028", text "\u2029"]

/-- The code point that a single letter or digit stands for after a backslash. -/
def simpleEscape (point : CodePoint) : CodePoint :=
  if point = 'n' then '\n'
  else if point = 't' then '\t'
  else if point = 'r' then '\r'
  else if point = 'b' then '\x08'
  else if point = 'f' then '\x0c'
  else if point = 'v' then '\x0b'
  else if point = '0' then '\x00'
  else point

/-- The text that an escape sequence without its backslash denotes. The last code point of a
sequence that opens a brace is taken for the closing brace, and octal digits are read as one
number, however large. -/
def escapeBodyValue (body : Text) : Except Failure Text :=
  if body ∈ continuations then .ok []
  else match body with
    | [] => .error .emptyEscape
    | [point] => .ok [simpleEscape point]
    | first :: second :: rest =>
      if first = 'u' ∧ second = '\x7b' then codePointOfHex rest.dropLast
      else if first = 'u' ∨ first = 'x' then codePointOfHex (second :: rest)
      else if body.all CodePoint.isOctalDigit then codePointOf (Text.octalValue body)
      else .ok body

/-- The text that an escape sequence denotes. Its first code point is the backslash. -/
def escapeValue (sequence : Text) : Except Failure Text := escapeBodyValue (sequence.drop 1)

/-! ### Literals -/

/-- A stretch of a literal: plain text, or an escape sequence with its backslash. -/
inductive Piece where
  | plain (content : Text)
  | escape (sequence : Text)
deriving DecidableEq

namespace Piece

/-- The stretch as it is written. -/
def written : Piece → Text
  | plain content => content
  | escape sequence => sequence

/-- The text that a stretch denotes. -/
def decode : Piece → Except Failure Text
  | plain content => .ok content
  | escape sequence => escapeValue sequence

/-- A stretch that was taken as one unit: an escape sequence starts with a backslash. -/
def ofUnit (content : Text) : Piece :=
  if content.head? = some (CodePoint.ofChar '\\') then escape content else plain content

end Piece

/-- The text that the pieces of a literal denote together. -/
def literalValue (pieces : List Piece) : Except Failure Text := do
  let parts ← pieces.mapM Piece.decode
  return Text.joinSurrogates parts.flatten

/-- The pieces of a literal, given with its quotes. -/
def literalPieces : Text → List Piece
  | [] => []
  | quote :: rest => (Text.units (pieceSize quote) rest).1.map Piece.ofUnit

end ImportBinding
