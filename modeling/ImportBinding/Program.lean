/-
This file reads whole programs.

A program is nothing at all, or a declaration followed by further declarations and stray
semicolons. All of it has to be read before its first declaration counts.
-/

import ImportBinding.Declaration.Lossless
import ImportBinding.Declaration.Meaning

namespace ImportBinding

/-! ### Items -/

/-- A part of a program: a declaration or a semicolon on its own. -/
inductive Item where
  | declaration (read : Declaration)
  | semicolon (token : Token)

/-- The tokens of an item. -/
def Item.tokens : Item → List Token
  | .declaration read => read.tokens
  | .semicolon token => [token]

/-- The declaration of an item, if it is one. -/
def Item.declaration? : Item → Option Declaration
  | .declaration read => some read
  | .semicolon _ => none

/-- Reads declarations and semicolons up to the end of the text. -/
def readItems (dialect : Dialect) (tokens : List Token) : Reading (List Item) :=
  match tokens with
  | [] => .ok []
  | token :: rest =>
    if token.kind = .semicolon then
      (readItems dialect rest).map fun items => .semicolon token :: items
    else match _read : Declaration.read dialect (token :: rest) with
      | .ok (declaration, after) =>
        (readItems dialect after).map fun items => .declaration declaration :: items
      | .error stuck => .error stuck
termination_by tokens.length
decreasing_by
  · simp
  · exact Declaration.length_lt_of_read _read

/-- Reads the items of a program. The first one is a declaration. -/
def readProgram (dialect : Dialect) (tokens : List Token) : Reading (List Item) :=
  match tokens with
  | [] => .ok []
  | token :: rest =>
    if token.kind = .semicolon then .error (token :: rest) else readItems dialect tokens

/-! ### Programs -/

/-- A program: its items, and the layout after them. -/
structure Program where
  items : List Item
  tail : Text

namespace Program

/-- The text of a program. -/
def written (program : Program) : Text :=
  Tokens.written (program.items.flatMap Item.tokens) ++ program.tail

/-- The declarations of a program in the order of the text. -/
def declarations (program : Program) : List Declaration :=
  program.items.filterMap Item.declaration?

/-- The number of the line and the column of a place in a text. Lines count from one; the column
is the number of bytes since the last line feed. -/
def lineColumn (content : Text) (position : Nat) : Nat × Nat :=
  let lineFeed := CodePoint.ofChar '\n'
  let before := content.take position
  let line := (before.reverse.takeWhile fun point => point ≠ lineFeed).reverse
  (before.count lineFeed + 1, (Text.utf8 line).length)

/-- The fault of a text that fits nowhere from some place on, when its end is too early or when it
goes on with the given stretch. -/
def faultAt (content : Text) (left : Nat) (stretch : Text) : SyntaxFault :=
  if stretch = [] then .endOfInput content.trimEnd.length
  else
    let position := content.length - left
    let (line, column) := lineColumn content position
    .unexpected stretch line column position

/-- Reads the program that a text is. -/
def ofText (dialect : Dialect) (content : Text) : Except SyntaxFault Program :=
  match scan content with
  | .error stray => .error (faultAt content stray.length (stray.take 1))
  | .ok (tokens, tail) =>
    match readProgram dialect tokens with
    | .ok items => .ok ⟨items, tail⟩
    | .error [] => .error (faultAt content 0 [])
    | .error (token :: rest) =>
      .error (faultAt content (token.body.length + Tokens.width rest + tail.length) token.body)

/-- The node of the first declaration of a program, if it has one. -/
def node? (program : Program) : Except Failure (Option Node) :=
  match program.declarations with
  | [] => return none
  | declaration :: _ => (declaration.node 0).map some

end Program

end ImportBinding
