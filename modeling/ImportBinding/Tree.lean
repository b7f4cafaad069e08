/-
This file reads statements off syntax trees.

A tree covers a text whose places it counts in bytes. It comes from elsewhere, so nothing is
taken for granted: children may be missing, of unknown kinds, or comments. What is said of a
statement counts code points, as everywhere else.
-/

import ImportBinding.Literal
import ImportBinding.Node

namespace ImportBinding

/-! ### Trees -/

/-- What is known of a node of a syntax tree apart from its children. -/
structure Label where
  kind : Text
  startByte : Nat
  stopByte : Nat
  row : Nat
  column : Nat
  /-- The node stands for a construct, not for a mark or a word. -/
  isNamed : Bool
  /-- There is a fault at the node or below it. -/
  hasFault : Bool
  /-- The node stands for something that the text lacks. -/
  isMissing : Bool
  field : Option Text
deriving Inhabited

/-- A syntax tree. -/
inductive Tree where
  | node (label : Label) (children : List Tree)
deriving Inhabited

namespace Tree

/-- What is known of the root. -/
def label : Tree → Label
  | node label _ => label

/-- The trees below the root. -/
def children : Tree → List Tree
  | node _ children => children

/-- The children that stand for constructs. -/
def namedChildren (tree : Tree) : List Tree := tree.children.filter fun child => child.label.isNamed

/-- The first child in a field. -/
def inField? (tree : Tree) (field : Text) : Option Tree :=
  tree.children.find? fun child => child.label.field = some field

/-- Whether the root is of a kind. -/
def isKind (tree : Tree) (kind : Text) : Bool := tree.label.kind = kind

end Tree

/-! ### Places in bytes -/

/-- The number of code points before a byte. -/
def offsetAt (content : Text) (byte : Nat) : Except Failure Nat :=
  match content.offsetOfByte? byte with
  | some offset => .ok offset
  | none =>
    let inside := ([1, 2, 3].find? fun back => (content.offsetOfByte? (byte - back)).isSome).getD 1
    .error (.splitCodePoint ((content.utf8.take byte).drop (byte - inside)) (byte - inside) true)

/-- The text between two bytes. -/
def textBetween (content : Text) (start stop : Nat) : Except Failure Text :=
  if stop ≤ start then .ok []
  else match content.offsetOfByte? start with
    | none => .error (.splitCodePoint ((content.utf8.drop start).take 1) 0 false)
    | some first =>
      match offsetAt content stop with
      | .ok last => .ok (content.slice first last)
      | .error (.splitCodePoint bytes position atEnd) =>
        .error (.splitCodePoint bytes (position - start) atEnd)
      | .error failure => .error failure

namespace Tree

/-- The text that a tree covers. -/
def written (content : Text) (tree : Tree) : Except Failure Text :=
  textBetween content tree.label.startByte tree.label.stopByte

/-! ### Faults -/

mutual

/-- The fault that a walk from a tree arrives at. The walk goes down to the first child that has a
fault, until it stands at a node that is one. -/
def firstFault? : Tree → Option Label
  | node label children =>
    if label.kind = text "ERROR" ∨ label.isMissing then some label else firstFaultAmong? children

/-- The fault that a walk from the first of these trees that has one arrives at. -/
def firstFaultAmong? : List Tree → Option Label
  | [] => none
  | child :: later =>
    if child.label.hasFault then child.firstFault? else firstFaultAmong? later

end

/-- The fault of a tree that has one. -/
def fault (content : Text) (tree : Tree) : Except Failure SyntaxFault :=
  match tree.firstFault? with
  | none => .ok (.endOfInput content.trimEnd.length)
  | some label => do
    let position ← offsetAt content label.startByte
    if label.isMissing then return .missing label.kind (label.row + 1) label.column position
    else
      let stretch ← textBetween content label.startByte label.stopByte
      return .unexpected stretch (label.row + 1) label.column position

/-! ### Statements -/

/-- The pieces of a literal. Children of other kinds are skipped. -/
def piece? (content : Text) (tree : Tree) : Except Failure (Option Piece) := do
  let written ← tree.written content
  return if tree.isKind (text "escape_sequence") then some (.escape written)
    else if tree.isKind (text "string_fragment") then some (.plain written)
    else none

/-- The texts that the pieces of a literal denote, one after another. -/
def pieceValues (content : Text) : List Tree → Except Failure (List Text)
  | [] => return []
  | child :: later => do
    let piece ← child.piece? content
    let value ← (piece.elim (.ok []) Piece.decode)
    let values ← pieceValues content later
    return value :: values

/-- The text that a literal denotes. -/
def literalValue (content : Text) (tree : Tree) : Except Failure Text := do
  let values ← pieceValues content tree.namedChildren
  return Text.joinSurrogates values.flatten

/-- The stretch of text that a tree covers. -/
def extent (content : Text) (tree : Tree) : Except Failure (Nat × Nat) := do
  let start ← offsetAt content tree.label.startByte
  let stop ← offsetAt content tree.label.stopByte
  return (start, stop)

/-- The name that a node writes, or denotes if it is a literal. -/
def identifier (content : Text) (tree : Tree) : Except Failure Identifier := do
  let name ← if tree.isKind (text "string") then tree.literalValue content else tree.written content
  let (start, stop) ← tree.extent content
  return ⟨name, start, stop⟩

/-- The specifier of a named import. -/
def namedSpecifier (content : Text) (tree : Tree) : Except Failure Specifier :=
  match tree.inField? (text "name") with
  | none => throw .noAttribute
  | some name => do
    let imported ← name.identifier content
    match tree.inField? (text "alias") with
    | none => return .named imported imported
    | some renamed =>
      let binding ← renamed.identifier content
      return .named imported binding

/-- The specifiers of a part of a clause. Parts of other kinds have none. -/
def partSpecifiers (content : Text) (tree : Tree) : Except Failure (List Specifier) :=
  if tree.isKind (text "identifier") then do
    let binding ← tree.identifier content
    return [.default binding]
  else if tree.isKind (text "namespace_import") then
    (tree.namedChildren.filter fun child => child.isKind (text "identifier")).mapM fun child => do
      let binding ← child.identifier content
      return .star binding
  else if tree.isKind (text "named_imports") then
    (tree.namedChildren.filter fun child => child.isKind (text "import_specifier")).mapM
      fun child => child.namedSpecifier content
  else return []

/-- The specifiers of an import declaration. -/
def specifiers (content : Text) (tree : Tree) : Except Failure (List Specifier) := do
  let clauses := tree.namedChildren.filter fun child => child.isKind (text "import_clause")
  let parts ← (clauses.flatMap namedChildren).mapM fun part => part.partSpecifiers content
  return parts.flatten

/-- The text that the source of an import declaration denotes, if it has a source. -/
def source (content : Text) (tree : Tree) : Except Failure (Option Text) :=
  match tree.inField? (text "source") with
  | none => return none
  | some literal => (literal.literalValue content).map some

/-- The node of a statement. -/
def statement (content : Text) (tree : Tree) : Except Failure Node :=
  if tree.isKind importKind then
    Node.ofImport (tree.extent content) (tree.specifiers content) (tree.source content)
  else do
    let (start, stop) ← tree.extent content
    return ⟨tree.label.kind, start, stop, [], none⟩

/-- The node of the first statement of a text that a tree covers. Comments are no statements. -/
def node? (content : Text) (tree : Tree) : Except Failure (Option Node) := do
  if tree.label.hasFault then
    let fault ← tree.fault content
    throw (.illFormed fault)
  else
    match tree.namedChildren.find? fun child => !child.isKind (text "comment") with
    | none => return none
    | some first => (first.statement content).map some

end Tree

end ImportBinding
