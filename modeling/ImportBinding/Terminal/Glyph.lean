/-
This file replaces signs and lines by plain characters, for terminals that cannot show them.

Each glyph is replaced on its own, and some by more than one character, so text may get longer.
-/

import ImportBinding.Terminal.Encoding

namespace ImportBinding

/-- The glyphs and what stands for them. -/
def glyphs : List (CodePoint × Text) :=
  [(CodePoint.ofChar '✓', text "[OK]"), (CodePoint.ofChar '✔', text "[OK]"),
    (CodePoint.ofChar '✗', text "[FAIL]"), (CodePoint.ofChar '✘', text "[FAIL]"),
    (CodePoint.ofChar '⚠', text "[WARN]"), (CodePoint.ofChar '→', text "->"),
    (CodePoint.ofChar '←', text "<-"), (CodePoint.ofChar '↓', text "v"),
    (CodePoint.ofChar '─', text "-"), (CodePoint.ofChar '│', text "|"),
    (CodePoint.ofChar '…', text "...")]

/-- What stands for a code point: a glyph is replaced, and any other stands for itself. -/
def CodePoint.plain (point : CodePoint) : Text :=
  ((glyphs.find? fun (glyph, _) => glyph = point).map Prod.snd).getD [point]

/-- The text with all glyphs replaced. -/
def Text.plain (content : Text) : Text := content.flatMap CodePoint.plain

/-- The text as it is sent to a terminal, which shows glyphs if its encoding is UTF-8. -/
def Text.sanitize (utf8 : Bool) (content : Text) : Text := if utf8 then content else content.plain

/-! ### Printing -/

/-- A value as it is printed. Texts are sanitized, what is inside of lists and objects is not. -/
def Value.sanitized (utf8 : Bool) : Value → Text
  | .text content => content.sanitize utf8
  | value => value.printed

/-- Values printed one after another, with a text between them and a text at the end. -/
def printValues (utf8 : Bool) (values : List Value) (separator ending : Text) : Text :=
  Text.join separator (values.map (Value.sanitized utf8)) ++ ending

/-- The line that says what a terminal is capable of. -/
def statusLine (encoding : Text) : Text :=
  let utf8 := isUtf8 encoding
  let status := if utf8 then text "UTF-8 capable" else text "Non-UTF-8 (" ++ encoding ++ text ")"
  (text "[Terminal encoding: " ++ status ++ text "]").sanitize utf8 ++ text "\n"

end ImportBinding
