/-
This file brings the text of a statement into normal form.

A caller may leave out the word `import` and the semicolon at the end. The normal form has both,
and ends with one line break, so that statements can be written one after another.
-/

import ImportBinding.Text.Blank
import ImportBinding.Text.Word

namespace ImportBinding

/-- Whether a text starts with the word `import`. A longer word that starts with these letters is
another word. -/
def startsWithImport (content : Text) : Bool :=
  (text "import").isPrefixOf content &&
    (content.drop 6).head?.elim true fun next => !(next.isWord || next = '$')

/-- The text with a semicolon at its end. -/
def terminated (content : Text) : Text :=
  if content.getLast? = some (CodePoint.ofChar ';') then content else content ++ text ";"

/-- The text with the word `import` in front. -/
def introduced (content : Text) : Text :=
  if startsWithImport content then content else text "import " ++ content

/-- The normal form of a statement. -/
def normalForm (content : Text) : Text := introduced (terminated content.trim) ++ text "\n"

end ImportBinding
