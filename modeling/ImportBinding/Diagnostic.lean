/-
This file describes what is wrong with the text of a program, and draws a marker above the
place.

A fault has a position, counted in code points of the text. A message also gives line and
column, where the column counts the bytes since the last line feed.
-/

import ImportBinding.Text.Blank
import ImportBinding.Text.Quoted

namespace ImportBinding

/-! ### Faults of a text -/

/-- What keeps a text from being a program. -/
inductive SyntaxFault where
  /-- A binding is a reserved word. -/
  | reserved (name : Text) (position : Nat)
  /-- A stretch of text fits nowhere. -/
  | unexpected (stretch : Text) (line column position : Nat)
  /-- Something of the given kind ought to be there. -/
  | missing (kind : Text) (line column position : Nat)
  /-- The text stops too early. -/
  | endOfInput (position : Nat)
deriving DecidableEq

namespace SyntaxFault

/-- The place as messages give it. -/
def place (line column : Nat) : Text :=
  text " (" ++ Text.ofNat line ++ text ":" ++ Text.ofNat column ++ text ")"

/-- The wording of a fault. -/
def message : SyntaxFault → Text
  | reserved name _ => text "Binding " ++ name.quoted ++ text " is a reserved word in module code"
  | unexpected stretch line column _ =>
    text "Unexpected token " ++ stretch.trim.quoted ++ place line column
  | missing kind line column _ => text "Missing " ++ kind.quoted ++ place line column
  | endOfInput _ => text "Unexpected end of input"

/-- The code points before the fault. -/
def position : SyntaxFault → Nat
  | reserved _ position => position
  | unexpected _ _ _ position => position
  | missing _ _ _ position => position
  | endOfInput position => position

/-- Whether the text is a program but for a binding that is a reserved word. -/
def isReserved : SyntaxFault → Bool
  | reserved _ _ => true
  | _ => false

end SyntaxFault

/-! ### The marker -/

/-- A message, under it a marker that stands as many columns from the left as the position says,
and under that the statement. A negative position counts as zero. -/
def diagnostic (message statement : Text) (position : Int) : Text :=
  message ++ text "\n\t" ++ List.replicate position.toNat (CodePoint.ofChar '─') ++
    text "v\n\t" ++ statement

end ImportBinding
