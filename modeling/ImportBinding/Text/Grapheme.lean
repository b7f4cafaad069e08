/-
This file counts the cells of text, and divides it into graphemes: what is shown in one place, and
so is not broken.

A joiner draws the code point behind it into the grapheme before it, where it takes no cell. The
mark for an emoji widens the code point that was measured last, once.
-/

import ImportBinding.Text.Width

namespace ImportBinding

namespace Text

/-- The cells that a text takes, given the code point that was measured last. -/
def cellsFrom (last : Option CodePoint) : Text → Nat
  | [] => 0
  | point :: rest =>
    if point.isJoiner then
      match rest with
      | [] => 0
      | _ :: rest => cellsFrom last rest
    else if point.isEmojiMark then
      (if last.any CodePoint.isWidened then 1 else 0) + cellsFrom none rest
    else if point.cells = 0 then cellsFrom last rest
    else point.cells + cellsFrom (some point) rest

/-- The cells that a text takes. -/
def cells (content : Text) : Nat := cellsFrom none content

end Text

/-- A grapheme: the number of its code points, and the cells that they take together. -/
structure Grapheme where
  size : Nat
  cells : Nat

namespace Text

/-- The graphemes of a text, given the one that has been begun and the code point that was measured
last. -/
def graphemesFrom (begun : Grapheme) (last : Option CodePoint) : Text → List Grapheme
  | [] => [begun]
  | point :: rest =>
    if point.isJoiner then
      match rest with
      | [] => [{ begun with size := begun.size + 1 }]
      | _ :: rest => graphemesFrom { begun with size := begun.size + 2 } last rest
    else if point.isEmojiMark ∧ last.any CodePoint.isWidened then
      graphemesFrom ⟨begun.size + 1, begun.cells + 1⟩ none rest
    else if point.cells = 0 then graphemesFrom { begun with size := begun.size + 1 } last rest
    else begun :: graphemesFrom ⟨1, point.cells⟩ (some point) rest

/-- The graphemes of a text. A code point without cells that has nothing before it begins one. -/
def graphemes : Text → List Grapheme
  | [] => []
  | point :: rest =>
    graphemesFrom ⟨1, point.cells⟩ (if point.cells = 0 then none else some point) rest

end Text

end ImportBinding
