/-
This file writes a text between quotes, so that it fits on one line and shows everything.

The quotes are single, unless the text holds single quotes and no double ones. The quote and
the backslash get a backslash, three controls have escapes of their own, and what cannot be
shown as it is becomes an escape of two, four or eight digits in base sixteen.
-/

import ImportBinding.Text.Printable

namespace ImportBinding

/-- A code point as it stands between the given quotes. -/
def CodePoint.quoted (quote point : CodePoint) : Text :=
  if point = quote ∨ point = '\\' then [CodePoint.ofChar '\\', point]
  else if point = '\n' then text "\\n"
  else if point = '\r' then text "\\r"
  else if point = '\t' then text "\\t"
  else if point.isPrintable then [point]
  else if point.toNat < 0x100 then text "\\x" ++ Text.ofHex 2 point.toNat
  else if point.toNat < 0x10000 then text "\\u" ++ Text.ofHex 4 point.toNat
  else text "\\U" ++ Text.ofHex 8 point.toNat

namespace Text

/-- The quotes that suit a text. -/
def quoteFor (content : Text) : CodePoint :=
  if content.contains '\'' && !content.contains '"' then '"' else '\''

/-- The text between quotes. -/
def quoted (content : Text) : Text :=
  let quote := content.quoteFor
  quote :: content.flatMap (CodePoint.quoted quote) ++ [quote]

end Text

end ImportBinding
