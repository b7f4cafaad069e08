/-
This file finds out which encoding a terminal has.

A terminal declares its encoding; if it does not, the locale's is taken, and plain ASCII where
the locale has none that can be used.
-/

import ImportBinding.Failure
import ImportBinding.Text.Lower

namespace ImportBinding

/-! ### Detection -/

/-- A terminal: the encoding that it declares, and what the locale answers when asked for one. -/
structure Terminal where
  declared : Option Text
  locale : Except Failure Text

/-- The name of the encoding of a terminal, in lower case. -/
def Terminal.encoding (terminal : Terminal) : Except Failure Text :=
  let declared := terminal.declared.getD []
  if declared ≠ [] then return declared.lower
  else match terminal.locale with
    | .ok name => return name.lower
    | .error (.unknownLocale _) | .error (.badLocale _) => return text "ascii"
    | .error failure => throw failure

/-- The name of an encoding with hyphens for underscores. -/
def hyphenated (name : Text) : Text :=
  name.map fun point : CodePoint => if point = '_' then CodePoint.ofChar '-' else point

/-- Whether a lower case name is that of UTF-8. -/
def isUtf8 (name : Text) : Bool := hyphenated name = text "utf-8" || hyphenated name = text "utf8"

end ImportBinding
