/-
This file reads declarations off a list of tokens.

The next token or two decide how to go on. A list in braces is cut at its commas, and the
number of tokens in a piece tells what they are. Where reading gets stuck it answers with the
tokens that are left.
-/

import ImportBinding.Declaration.Basic
import ImportBinding.Dialect

namespace ImportBinding

/-! ### Words -/

/-- The names that are no identifiers. -/
def keywords : List Text :=
  [text "break", text "case", text "catch", text "class", text "const", text "continue",
    text "debugger", text "default", text "delete", text "do", text "else", text "export",
    text "extends", text "false", text "finally", text "for", text "function", text "if",
    text "import", text "in", text "instanceof", text "new", text "null", text "return",
    text "super", text "switch", text "this", text "throw", text "true", text "try",
    text "typeof", text "var", text "void", text "while", text "with"]

namespace Token

/-- A name that is no keyword. -/
def isIdentifier (token : Token) : Bool := token.kind = .name && !keywords.contains token.body

/-- What can be the name of an export that has a local name: an identifier, the word `default` or a
literal. -/
def isExport (token : Token) : Bool :=
  token.isIdentifier || token.isWord (text "default") || token.kind = .literal

/-- A modifier, in the dialects that have them. -/
def isModifier (dialect : Dialect) (token : Token) : Bool :=
  dialect.isTyped && (token.isWord (text "type") || token.isWord (text "typeof"))

end Token

/-! ### Reading -/

/-- The result of reading, or the tokens at which reading gets stuck. A reader that does not
take all tokens gives those that follow what it has read. -/
abbrev Reading := Except (List Token)

/-- Reads one token of the wanted sort. -/
def expect (wanted : Token → Bool) : List Token → Reading (Token × List Token)
  | [] => .error []
  | token :: rest => if wanted token then .ok (token, rest) else .error (token :: rest)

/-- Reads the entries between two braces. -/
def readEntries {Entry : Type} (ofTokens? : List Token → Option Entry) (tokens : List Token) :
    Reading (List (Entry × Token) × Option Entry) :=
  let piece := tokens.takeWhile fun token => token.kind ≠ .comma
  match _rest : tokens.dropWhile fun token => token.kind ≠ .comma with
  | [] =>
    if piece = [] then .ok ([], none)
    else match ofTokens? piece with
      | some final => .ok ([], some final)
      | none => .error tokens
  | comma :: later =>
    match ofTokens? piece with
    | none => .error tokens
    | some entry =>
      match readEntries ofTokens? later with
      | .ok (ended, final) => .ok ((entry, comma) :: ended, final)
      | .error stuck => .error stuck
termination_by tokens.length
decreasing_by
  have whole := congrArg List.length
    (List.takeWhile_append_dropWhile (p := fun token : Token => token.kind ≠ .comma) (l := tokens))
  rw [_rest, List.length_append, List.length_cons] at whole
  omega

/-- Reads a list in braces. -/
def Listing.read {Entry : Type} (ofTokens? : List Token → Option Entry) (tokens : List Token) :
    Reading (Listing Entry × List Token) := do
  let (opening, rest) ← expect (·.kind = .openBrace) tokens
  let inside := rest.takeWhile fun token => token.kind ≠ .closeBrace
  let (closing, after) ← expect (·.kind = .closeBrace)
    (rest.dropWhile fun token => token.kind ≠ .closeBrace)
  match readEntries ofTokens? inside with
  | .ok (ended, final) => .ok (⟨opening, ended, final, closing⟩, after)
  | .error stuck => .error (stuck ++ closing :: after)

/-- The named import that is written by these tokens. Their number tells whether the first one is a
modifier. -/
def NamedImport.ofTokens? (dialect : Dialect) : List Token → Option NamedImport
  | [imported] => if imported.isIdentifier then some ⟨none, imported, none⟩ else none
  | [modifier, imported] =>
    if modifier.isModifier dialect && imported.isIdentifier then
      some ⟨some modifier, imported, none⟩
    else none
  | [imported, asWord, binding] =>
    if imported.isExport && asWord.isWord (text "as") && binding.isIdentifier then
      some ⟨none, imported, some (asWord, binding)⟩
    else none
  | [modifier, imported, asWord, binding] =>
    if modifier.isModifier dialect && imported.isExport && asWord.isWord (text "as") &&
        binding.isIdentifier then
      some ⟨some modifier, imported, some (asWord, binding)⟩
    else none
  | _ => none

/-- The attribute that is written by these tokens. -/
def Attribute.ofTokens? : List Token → Option Attribute
  | [key, colon, value] =>
    if (key.kind = .name || key.kind = .literal) && colon.kind = .colon &&
        value.kind = .literal then
      some ⟨key, colon, value⟩
    else none
  | _ => none

/-- Reads a group. -/
def Group.read (dialect : Dialect) (tokens : List Token) : Reading (Group × List Token) :=
  match expect (·.kind = .star) tokens with
  | .ok (mark, rest) => do
    let (asWord, rest) ← expect (·.isWord (text "as")) rest
    let (binding, rest) ← expect Token.isIdentifier rest
    .ok (.star mark asWord binding, rest)
  | .error _ => do
    let (listing, rest) ← Listing.read (NamedImport.ofTokens? dialect) tokens
    .ok (.named listing, rest)

/-- Reads bindings. -/
def Bindings.read (dialect : Dialect) (tokens : List Token) : Reading (Bindings × List Token) :=
  match expect (·.kind = .name) tokens with
  | .ok _ => do
    let (binding, rest) ← expect Token.isIdentifier tokens
    match expect (·.kind = .comma) rest with
    | .ok (comma, rest) => do
      let (members, rest) ← Group.read dialect rest
      .ok (.both binding comma members, rest)
    | .error _ => .ok (.single binding, rest)
  | .error _ => do
    let (members, rest) ← Group.read dialect tokens
    .ok (.group members, rest)

/-- Whether the first of these tokens is a modifier of a clause: bindings other than the word `from`
follow it, or that word twice. -/
def startsWithModifier (dialect : Dialect) : List Token → Bool
  | modifier :: next :: rest =>
    modifier.isModifier dialect &&
      (next.kind = .openBrace || next.kind = .star ||
        (next.kind = .name &&
          (!next.isWord (text "from") ||
            rest.head?.elim false fun after => after.isWord (text "from"))))
  | _ => false

/-- Reads a clause. -/
def Clause.read (dialect : Dialect) (tokens : List Token) : Reading (Clause × List Token) := do
  let modifier := if startsWithModifier dialect tokens then tokens.head? else none
  let (bindings, rest) ← Bindings.read dialect (tokens.drop modifier.toList.length)
  let (fromWord, rest) ← expect (·.isWord (text "from")) rest
  .ok (⟨modifier, bindings, fromWord⟩, rest)

/-- Reads attributes, which start on the line on which the source ends. -/
def readAttributes (tokens : List Token) :
    Reading (Option (Token × Listing Attribute) × List Token) :=
  match expect (fun token => token.isWord (text "with") && !token.startsLine) tokens with
  | .ok (withWord, rest) => do
    let (listing, rest) ← Listing.read Attribute.ofTokens? rest
    .ok (some (withWord, listing), rest)
  | .error _ => .ok (none, tokens)

/-- Reads the end of a declaration: a semicolon, or nothing where the text ends or the next token
starts a line. -/
def readTerminator : List Token → Reading (Option Token × List Token)
  | [] => .ok (none, [])
  | token :: rest =>
    if token.kind = .semicolon then .ok (some token, rest)
    else if token.startsLine then .ok (none, token :: rest)
    else .error (token :: rest)

/-- Reads the clause of a declaration. A declaration that imports a module for its effects has
none. -/
def readClause (dialect : Dialect) (tokens : List Token) :
    Reading (Option Clause × List Token) :=
  match expect (·.kind = .literal) tokens with
  | .ok _ => .ok (none, tokens)
  | .error _ => do
    let (clause, rest) ← Clause.read dialect tokens
    .ok (some clause, rest)

/-- Reads a declaration. -/
def Declaration.read (dialect : Dialect) (tokens : List Token) :
    Reading (Declaration × List Token) := do
  let (keyword, rest) ← expect (·.isWord (text "import")) tokens
  let (clause, rest) ← readClause dialect rest
  let (source, rest) ← expect (·.kind = .literal) rest
  let (attributes, rest) ← readAttributes rest
  let (terminator, rest) ← readTerminator rest
  .ok (⟨keyword, clause, source, attributes, terminator⟩, rest)

end ImportBinding
