/-
This file replaces codes of emoji by the emoji.

A code is a name between colons, without blanks. Behind the name it may ask for an emoji or for
a plain sign. A name that stands for nothing is left as it is, with both of its colons.
-/

import ImportBinding.Console.EmojiNames
import ImportBinding.Text.Blank
import ImportBinding.Text.Lower

namespace ImportBinding.Emoji

/-- The members of a list two by two. -/
def pairs {α : Type} : List α → List (α × α)
  | first :: second :: rest => (first, second) :: pairs rest
  | _ => []

/-- The names and what they stand for. -/
def named : List (Text × Text) := nameLines.flatMap fun line => pairs (text line).words

/-- The endings of a code that ask for a look, and the marks for it. -/
def looks : List (Text × CodePoint) :=
  [(text "-emoji", CodePoint.ofChar '\ufe0f'), (text "-text", CodePoint.ofChar '\ufe0e')]

/-- What a code stands for, given without its colons. Names are in lower case. -/
def ofCode? (code : Text) : Option Text :=
  let look := looks.find? fun (ending, _) => ending.isSuffixOf code
  let name := code.take (code.length - (look.elim 0 fun (ending, _) => ending.length))
  let mark := look.elim [] fun (_, mark) => [mark]
  (named.find? fun (other, _) => other = Text.lower name).map fun (_, emoji) => emoji ++ mark

/-- A code point that may stand between the colons of a code. -/
def isCodePart (point : CodePoint) : Bool := point ≠ ':' && !point.isBlank

/-- The text with its codes replaced. -/
def replace (content : Text) : Text :=
  match content with
  | [] => []
  | point :: rest =>
    let code := rest.takeWhile isCodePart
    if point = ':' ∧ (rest.drop code.length).head? = some (CodePoint.ofChar ':') then
      (ofCode? code).getD (point :: code ++ [point]) ++ replace (rest.drop (code.length + 1))
    else point :: replace rest
termination_by content.length
decreasing_by
  · simp only [List.length_drop, List.length_cons]
    omega
  · simp

end ImportBinding.Emoji
