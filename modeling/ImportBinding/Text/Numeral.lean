/-
This file reads integers in base sixteen, as they are written in escapes.

Around the numeral there may be blanks, in front of its digits a sign and `0x`, between two
digits a single underscore. A digit may be a decimal digit of any script.
-/

import ImportBinding.Text.Blank

namespace ImportBinding

/-! ### Digits -/

/-- The zeros of the decimal digits beyond ASCII. Each starts a run of ten digits. -/
def zeroDigits : List Nat :=
  [0x660, 0x6F0, 0x7C0, 0x966, 0x9E6, 0xA66, 0xAE6, 0xB66, 0xBE6, 0xC66, 0xCE6, 0xD66, 0xDE6,
   0xE50, 0xED0, 0xF20, 0x1040, 0x1090, 0x17E0, 0x1810, 0x1946, 0x19D0, 0x1A80, 0x1A90, 0x1B50,
   0x1BB0, 0x1C40, 0x1C50, 0xA620, 0xA8D0, 0xA900, 0xA9D0, 0xA9F0, 0xAA50, 0xABF0, 0xFF10,
   0x104A0, 0x10D30, 0x11066, 0x110F0, 0x11136, 0x111D0, 0x112F0, 0x11450, 0x114D0, 0x11650,
   0x116C0, 0x11730, 0x118E0, 0x11950, 0x11C50, 0x11D50, 0x11DA0, 0x16A60, 0x16AC0, 0x16B50,
   0x1D7CE, 0x1D7D8, 0x1D7E2, 0x1D7EC, 0x1D7F6, 0x1E140, 0x1E2F0, 0x1E950, 0x1FBF0]

namespace CodePoint

/-- The value of a decimal digit of any script. -/
def decimalValue? (point : CodePoint) : Option Nat :=
  if point.isDigit then some (point.toNat - 0x30)
  else (zeroDigits.find? fun first => first ≤ point.toNat && point.toNat ≤ first + 9).map
    fun first => point.toNat - first

/-- The value of a digit in base sixteen. -/
def hexValue? (point : CodePoint) : Option Nat :=
  if 0x41 ≤ point.toNat ∧ point.toNat ≤ 0x46 then some (point.toNat - 0x41 + 10)
  else if 0x61 ≤ point.toNat ∧ point.toNat ≤ 0x66 then some (point.toNat - 0x61 + 10)
  else point.decimalValue?

/-- A blank that may stand around a numeral: any blank but an information separator. -/
def isNumeralBlank (point : CodePoint) : Bool :=
  point.isBlank && !(0x1C ≤ point.toNat && point.toNat ≤ 0x1F)

end CodePoint

namespace Text

/-! ### Numerals -/

/-- The value of digits in base sixteen that continue `value`, with single underscores between
digits. The text must end with a digit. -/
def hexDigitsFrom (value : Nat) : Text → Option Nat
  | [] => some value
  | point :: rest =>
    if point = '_' then
      match rest with
      | [] => none
      | next :: later =>
        match next.hexValue? with
        | some digit => hexDigitsFrom (16 * value + digit) later
        | none => none
    else match point.hexValue? with
      | some digit => hexDigitsFrom (16 * value + digit) rest
      | none => none

/-- The value of one or more digits in base sixteen. -/
def hexDigits? : Text → Option Nat
  | [] => none
  | point :: rest =>
    match point.hexValue? with
    | some digit => hexDigitsFrom digit rest
    | none => none

/-- The digits after the mark of base sixteen, if there is one. An underscore may follow it. -/
def dropBaseMark : Text → Text
  | lead :: mark :: rest =>
    if lead.decimalValue? = some 0 ∧ (mark = 'x' ∨ mark = 'X') then
      match rest with
      | underscore :: digits => if underscore = '_' then digits else rest
      | [] => []
    else lead :: mark :: rest
  | short => short

/-- The text without the blanks that may stand around a numeral. -/
def trimNumeral (content : Text) : Text :=
  ((content.dropWhile CodePoint.isNumeralBlank).reverse.dropWhile CodePoint.isNumeralBlank).reverse

/-- The integer that a numeral in base sixteen denotes. -/
def hexNumeral? (content : Text) : Option Int :=
  match content.trimNumeral with
  | [] => none
  | sign :: rest =>
    if sign = '-' then (hexDigits? (dropBaseMark rest)).map fun value => -(value : Int)
    else if sign = '+' then (hexDigits? (dropBaseMark rest)).map Int.ofNat
    else (hexDigits? (dropBaseMark (sign :: rest))).map Int.ofNat

/-- The number that octal digits denote. -/
def octalValue (digits : Text) : Nat :=
  digits.foldl (fun value point => 8 * value + (point.toNat - 0x30)) 0

end Text

end ImportBinding
