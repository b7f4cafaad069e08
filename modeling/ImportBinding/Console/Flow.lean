/-
This file lays out text in lines of a certain width, counted in cells.

A tab becomes one space and then as many as lead to the next stop. A line that is too wide is
broken before words; a word is a stretch without blanks, with the blanks around it. Blanks at
the end of a line count only as far as they fit.
-/

import ImportBinding.Text.Blank
import ImportBinding.Text.Grapheme

namespace ImportBinding.Flow

/-- A space. -/
def space : CodePoint := CodePoint.ofChar ' '

/-- That many spaces. -/
def spaces (count : Nat) : Text := List.replicate count space

/-! ### Tabs -/

/-- The cells between the stops that tabs lead to. -/
def tabSize : Nat := 8

/-- The parts of a line between its tabs put together again, from the given column on. Each tab is a
space, which belongs to the part before it, and as many more as lead to the next stop. -/
def expandParts (column : Nat) : List Text → Text
  | [] => []
  | [last] => last
  | part :: later =>
    let column := column + (part ++ [space]).cells
    let stop := (column + tabSize - 1) / tabSize * tabSize
    part ++ [space] ++ spaces (stop - column) ++ expandParts stop later

/-- A line with its tabs replaced. -/
def expandTabs (line : Text) : Text := expandParts 0 (line.pieces (CodePoint.ofChar '\t'))

/-- The lines of a text between its line feeds. -/
def lines (content : Text) : List Text := content.pieces (CodePoint.ofChar '\n')

/-- The text with its tabs replaced, line by line. -/
def expandAllTabs (content : Text) : Text :=
  Text.join (text "\n") ((lines content).map expandTabs)

/-! ### Breaking lines -/

/-- The words of a line: blanks, what is not blank, and the blanks behind it. Blanks alone are no
word. -/
def words (line : Text) : List Text :=
  let before := line.takeWhile CodePoint.isBlank
  let word := (line.drop before.length).takeWhile fun point => !point.isBlank
  let rest := line.drop (before.length + word.length)
  let behind := rest.takeWhile CodePoint.isBlank
  if word = [] then []
  else (before ++ word ++ behind) :: words (rest.drop behind.length)
termination_by line.length
decreasing_by
  rename_i nonempty
  have positive : word.length ≠ 0 := fun none => nonempty (List.length_eq_zero_iff.mp none)
  have some : line ≠ [] := by
    intro none
    subst none
    exact nonempty rfl
  have longer := List.length_pos_iff.mpr some
  show ((line.drop (before.length + word.length)).drop behind.length).length < line.length
  simp only [List.length_drop]
  omega

/-- What has been laid out: the lines that are done in reverse, the line that is being written,
and its cells. -/
structure Layout where
  done : List Text
  current : Text
  cells : Nat

/-- A word on a line of its own, unless nothing has been written yet. -/
def Layout.startLine (layout : Layout) (word : Text) : Layout :=
  if layout.done = [] ∧ layout.current = [] then ⟨[], word, word.cells⟩
  else ⟨layout.current :: layout.done, word, word.cells⟩

/-- The pieces of a word that is cut wherever a line is full. The given number of code points and
cells are those of the piece that has been begun. -/
def chopFrom (width size cells : Nat) (word : Text) : List Grapheme → List Text
  | [] => [word]
  | grapheme :: later =>
    if width < cells + grapheme.cells then
      word.take size :: chopFrom width grapheme.size grapheme.cells (word.drop size) later
    else chopFrom width (size + grapheme.size) (cells + grapheme.cells) word later

/-- The pieces of a word that is too wide for a line. -/
def chop (width : Nat) (word : Text) : List Text := chopFrom width 0 0 word word.graphemes

/-- The layout after one more word. A word that is wider than a line is cut into pieces if `fold` is
set, and otherwise gets a line of its own. -/
def Layout.add (fold : Bool) (width : Nat) (layout : Layout) (word : Text) : Layout :=
  let size := (Text.trimEnd word).cells
  if layout.cells + size ≤ width then
    { layout with current := layout.current ++ word, cells := layout.cells + word.cells }
  else if fold ∧ width < size then (chop width word).foldl Layout.startLine layout
  else layout.startLine word

/-- The lines into which a line is broken. Blanks that belong to no word stay at the end. -/
def breakLine (fold : Bool) (width : Nat) (line : Text) : List Text :=
  let words := words line
  let layout := words.foldl (Layout.add fold width) ⟨[], [], 0⟩
  (layout.done.reverse ++ [layout.current ++ line.drop words.flatten.length])

/-! ### Fitting lines -/

/-- A line without the blanks at its end by which it is too long. -/
def dropExcess (width : Nat) (line : Text) : Text :=
  let blanks := (line.reverse.takeWhile CodePoint.isBlank).length
  line.take (line.length - min blanks (line.length - width))

/-- The number of code points in the graphemes that fit into a number of cells, and the cells that
are left where the next grapheme does not fit. -/
def fitting (width : Nat) : List Grapheme → Nat × Nat
  | [] => (0, 0)
  | grapheme :: later =>
    if width = 0 then (0, 0)
    else if width < grapheme.cells then (0, width)
    else
      let (size, left) := fitting (width - grapheme.cells) later
      (grapheme.size + size, left)

/-- The part of a line that fits into a number of cells, filled up with a space where a wide
grapheme would stand half inside. -/
def cut (width : Nat) (line : Text) : Text :=
  let (size, left) := fitting width line.graphemes
  line.take size ++ spaces left

/-- A line cut to a width. If `ellipsis` is set, the last cell shows that something is missing. -/
def fit (ellipsis : Bool) (width : Nat) (line : Text) : Text :=
  if line.cells ≤ width then line
  else if ellipsis then cut (width - 1) line ++ text "…"
  else cut width line

/-- The lines of a text, broken and cut to a width. Words that are too wide are cut into pieces if
`fold` is set, and else end in an ellipsis. -/
def wrap (fold : Bool) (width : Nat) (content : Text) : List Text :=
  (lines content).flatMap fun line =>
    (breakLine fold width (expandTabs line)).map fun part =>
      fit (!fold) width (dropExcess width part)

end ImportBinding.Flow
