/-
This file draws a table of fields and values.

The first column is as wide as the longest name of a field. The second one is as wide as the
longest line of a value, but the table is never wider than the console. There, longer lines
are wrapped, and words that are too wide end in an ellipsis.
-/

import ImportBinding.Console.Flow
import ImportBinding.Console.Markup

namespace ImportBinding.Table

/-! ### Boxes -/

/-- The lines of a box: corners, edges and junctions from left to right. -/
structure Rule where
  left : Char
  line : Char
  junction : Char
  right : Char

/-- What a box is drawn with: the rules above, below the header and at the end, and the edges of
the header and of the rows, outside and inside. -/
structure Box where
  top : Rule
  header : Rule
  bottom : Rule
  headerEdge : Char
  rowEdge : Char

/-- A box with a heavy header. -/
def heavyBox : Box :=
  ⟨⟨'┏', '━', '┳', '┓'⟩, ⟨'┡', '━', '╇', '┩'⟩, ⟨'└', '─', '┴', '┘'⟩, '┃', '│'⟩

/-- A box with thin lines throughout. -/
def squareBox : Box :=
  ⟨⟨'┌', '─', '┬', '┐'⟩, ⟨'├', '─', '┼', '┤'⟩, ⟨'└', '─', '┴', '┘'⟩, '│', '│'⟩

/-- A box of plain characters. -/
def plainBox : Box :=
  ⟨⟨'+', '-', '-', '+'⟩, ⟨'|', '-', '+', '|'⟩, ⟨'+', '-', '-', '+'⟩, '|', '|'⟩

/-! ### Widths -/

/-- The cells of a console from edge to edge. -/
def consoleWidth : Nat := 80

/-- The code points that end a line where lines are measured. -/
def isLineEnd (point : CodePoint) : Bool :=
  point.toNat ∈ [0x0A, 0x0B, 0x0C, 0x0D, 0x1C, 0x1D, 0x1E, 0x85, 0x2028, 0x2029]

/-- The lines of a text where lines are measured. -/
def measuredLines : Text → List Text
  | [] => [[]]
  | point :: rest =>
    if isLineEnd point then [] :: measuredLines rest
    else match measuredLines rest with
      | [] => [[point]]
      | line :: later => (point :: line) :: later

/-- The greatest of some widths. -/
def greatest (widths : List Nat) : Nat := widths.foldl max 0

/-- The cells of the longest line of a text. -/
def longest (content : Text) : Nat := greatest ((measuredLines content).map Text.cells)

/-! ### Drawing -/

/-- A line and as many spaces as it lacks of a width. -/
def filled (width : Nat) (line : Text) : Text := line ++ Flow.spaces (width - line.cells)

/-- A line that is padded to a width. A joiner at its end takes in the first space, which is made up
for. -/
def padded (width : Nat) (line : Text) : Text := filled width (filled width line)

/-- A rule over two columns of the given widths. -/
def ruleLine (rule : Rule) (first second : Nat) : Text :=
  ([rule.left] ++ List.replicate (first + 2) rule.line ++ [rule.junction] ++
    List.replicate (second + 2) rule.line ++ [rule.right, '\n']).map CodePoint.ofChar

/-- A line of a row. -/
def rowLine (edge : Char) (first second : Nat) (field value : Text) : Text :=
  let edge := CodePoint.ofChar edge
  [edge] ++ text " " ++ padded first field ++ text " " ++ [edge] ++ text " " ++
    padded second value ++ text " " ++ [edge] ++ text "\n"

/-- A row: the name of a field stands on its first line. -/
def row (edge : Char) (first second : Nat) (field value : Text) : Text :=
  match Flow.wrap false second value with
  | [] => rowLine edge first second field []
  | line :: later =>
    rowLine edge first second field line ++
      later.flatMap (rowLine edge first second [])

/-- A title in the middle of a line. -/
def titleLine (width : Nat) (title : Text) : Text :=
  let left := (width - title.cells) / 2
  padded width (Flow.spaces left ++ title) ++ text "\n"

/-- The table of fields and their values, under a title. -/
def draw (box : Box) (title : Text) (rows : List (Text × Text)) : Text :=
  let field := text "Field"
  let value := text "Value"
  let first := greatest ((field :: rows.map Prod.fst).map longest)
  let wanted := greatest ((value :: rows.map Prod.snd).map longest)
  let second := min wanted (consoleWidth - 7 - first)
  titleLine (first + second + 7) title ++
    ruleLine box.top first second ++
    rowLine box.headerEdge first second field value ++
    ruleLine box.header first second ++
    rows.flatMap (fun (field, value) => row box.rowEdge first second field value) ++
    ruleLine box.bottom first second

end ImportBinding.Table
