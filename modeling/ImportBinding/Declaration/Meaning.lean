/-
This file says what a declaration means: its bindings, its source and where they are written.

Places are counted from the place at which the layout in front of the declaration starts.
-/

import ImportBinding.Declaration.Basic
import ImportBinding.Node

namespace ImportBinding

/-! ### What a declaration says -/

/-- The identifier that a token writes. `offset` is the place where the layout in front of it
starts. -/
def Token.identifier (offset : Nat) (token : Token) : Identifier :=
  ⟨token.body, offset + token.gap.length, offset + token.width⟩

/-- The text that a literal denotes. -/
def Token.literalValue (token : Token) : Except Failure Text :=
  ImportBinding.literalValue (literalPieces token.body)

/-- The name of an export, which a literal denotes and any other token writes. -/
def Token.exportName (offset : Nat) (token : Token) : Except Failure Identifier :=
  if token.kind = .literal then do
    let name ← token.literalValue
    return { token.identifier offset with name }
  else return token.identifier offset

/-- The entries of a list, each with the place at which its tokens start. -/
def placeEntries {Entry : Type} (entryTokens : Entry → List Token) (final : Option Entry) :
    Nat → List (Entry × Token) → List (Nat × Entry)
  | offset, [] => final.toList.map fun entry => (offset, entry)
  | offset, (entry, comma) :: ended =>
    (offset, entry) ::
      placeEntries entryTokens final
        (offset + Tokens.width (entryTokens entry) + comma.width) ended

/-- The specifier of a named import. -/
def NamedImport.specifier (offset : Nat) (entry : NamedImport) : Except Failure Specifier := do
  let start := offset + Tokens.width entry.modifier.toList
  let imported ← entry.imported.exportName start
  match entry.asClause with
  | none => return .named imported imported
  | some (asWord, binding) =>
    return .named imported
      (binding.identifier (start + entry.imported.width + asWord.width))

/-- The specifiers of a group. -/
def Group.specifiers (offset : Nat) : Group → Except Failure (List Specifier)
  | .star mark asWord binding =>
    return [.star (binding.identifier (offset + mark.width + asWord.width))]
  | .named listing =>
    (placeEntries NamedImport.tokens listing.final (offset + listing.opening.width)
      listing.ended).mapM fun (start, entry) => entry.specifier start

/-- The specifiers of bindings. -/
def Bindings.specifiers (offset : Nat) : Bindings → Except Failure (List Specifier)
  | .single binding => return [.default (binding.identifier offset)]
  | .both binding comma members => do
    let specifiers ← members.specifiers (offset + binding.width + comma.width)
    return .default (binding.identifier offset) :: specifiers
  | .group members => members.specifiers offset

/-- The specifiers of a clause. -/
def Clause.specifiers (offset : Nat) (clause : Clause) : Except Failure (List Specifier) :=
  clause.bindings.specifiers (offset + Tokens.width clause.modifier.toList)

/-- The specifiers of a declaration, in the order of the text. -/
def Declaration.specifiers (offset : Nat) (declaration : Declaration) :
    Except Failure (List Specifier) :=
  match declaration.clause with
  | none => return []
  | some clause => clause.specifiers (offset + declaration.keyword.width)

/-- The node of a declaration, whose tokens start at a place of the text. -/
def Declaration.node (offset : Nat) (declaration : Declaration) : Except Failure Node :=
  Node.ofImport
    (.ok (offset + declaration.keyword.gap.length, offset + Tokens.width declaration.tokens))
    (declaration.specifiers offset) (declaration.source.literalValue.map some)

end ImportBinding
