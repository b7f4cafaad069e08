/-
This file fixes what text is.

A text is a list of code points, and surrogates are code points too: a source
literal can denote half of a surrogate pair, and such a value has to be kept, shown
and compared like any other. Offsets into a text count code points.
-/

namespace ImportBinding

/-! ### Code points -/

/-- A code point is a number below `0x110000`, surrogates included. -/
structure CodePoint where
  toNat : Nat
  isLt : toNat < 0x110000
deriving DecidableEq

namespace CodePoint

/-- The code point of a character. -/
def ofChar (char : Char) : CodePoint :=
  ⟨char.toNat, by
    have valid := char.valid
    simp only [Char.toNat, UInt32.isValidChar, Nat.isValidChar] at *
    omega⟩

instance : Coe Char CodePoint := ⟨ofChar⟩

instance : Inhabited CodePoint := ⟨⟨0, by decide⟩⟩

/-- The code point of that number, when there is one. -/
def ofNat? (number : Nat) : Option CodePoint :=
  if small : number < 0x110000 then some ⟨number, small⟩ else none

/-- The character of a code point. A surrogate has none. -/
def toChar? (point : CodePoint) : Option Char :=
  if valid : point.toNat.isValidChar then some (Char.ofNatAux point.toNat valid) else none

/-- The first half of a surrogate pair. -/
def isHighSurrogate (point : CodePoint) : Bool :=
  0xD800 ≤ point.toNat && point.toNat ≤ 0xDBFF

/-- The second half of a surrogate pair. -/
def isLowSurrogate (point : CodePoint) : Bool :=
  0xDC00 ≤ point.toNat && point.toNat ≤ 0xDFFF

/-- Either half of a surrogate pair. -/
def isSurrogate (point : CodePoint) : Bool :=
  0xD800 ≤ point.toNat && point.toNat ≤ 0xDFFF

/-- The digits `0` to `7`. -/
def isOctalDigit (point : CodePoint) : Bool :=
  0x30 ≤ point.toNat && point.toNat ≤ 0x37

/-- The digits `0` to `9`. -/
def isDigit (point : CodePoint) : Bool :=
  0x30 ≤ point.toNat && point.toNat ≤ 0x39

/-- The digits `0` to `9` and the letters `a` to `f` in either case. -/
def isHexDigit (point : CodePoint) : Bool :=
  point.isDigit || (0x41 ≤ point.toNat && point.toNat ≤ 0x46) ||
    (0x61 ≤ point.toNat && point.toNat ≤ 0x66)

end CodePoint

/-! ### Texts -/

/-- A text is a list of code points. -/
abbrev Text := List CodePoint

instance : LawfulBEq Text := inferInstance

/-- The text of a string. -/
def text (string : String) : Text := string.toList.map CodePoint.ofChar

namespace Text

/-- The decimal digits of a number. -/
def ofNat (number : Nat) : Text := (Nat.toDigits 10 number).map CodePoint.ofChar

/-- The decimal digits of an integer, after a minus sign if it is negative. -/
def ofInt : Int → Text
  | .ofNat number => ofNat number
  | .negSucc number => CodePoint.ofChar '-' :: ofNat (number + 1)

/-- The digits of a number in base sixteen, lower case, with leading zeros up to a width. -/
def ofHex (width number : Nat) : Text :=
  let digits := Nat.toDigits 16 number
  (List.replicate (width - digits.length) '0' ++ digits).map CodePoint.ofChar

/-- The texts one after another, with a separator between neighbours. -/
def join (separator : Text) (parts : List Text) : Text := separator.intercalate parts

/-- The pieces between the occurrences of one code point: one more piece than occurrences. -/
def pieces (separator : CodePoint) : Text → List Text
  | [] => [[]]
  | point :: rest =>
    if point = separator then [] :: pieces separator rest
    else match pieces separator rest with
      | [] => [[point]]
      | piece :: others => (point :: piece) :: others

/-- The string of a text, when no code point of it is a surrogate. -/
def toString? (content : Text) : Option String :=
  (content.mapM CodePoint.toChar?).map String.ofList

end Text

end ImportBinding
