/-
This file holds import declarations as they are written.

A declaration keeps all of its tokens, in the order of the text, so that it can be written
again.
-/

import ImportBinding.Token

namespace ImportBinding

/-! ### Declarations as they are written -/

/-- A list in braces: entries that a comma follows, perhaps one more, and the braces. -/
structure Listing (Entry : Type) where
  opening : Token
  ended : List (Entry × Token)
  final : Option Entry
  closing : Token

/-- An entry of a list of named imports: perhaps a modifier, the name of the export, and perhaps
`as` with a local name. -/
structure NamedImport where
  modifier : Option Token
  imported : Token
  asClause : Option (Token × Token)

/-- What a clause takes from a module under the braces or the star. -/
inductive Group where
  | star (mark asWord binding : Token)
  | named (listing : Listing NamedImport)

/-- What a clause takes from a module: a default binding, a group, or both with a comma between. -/
inductive Bindings where
  | single (binding : Token)
  | both (binding comma : Token) (members : Group)
  | group (members : Group)

/-- A clause: perhaps a modifier, the bindings, and the word `from`. -/
structure Clause where
  modifier : Option Token
  bindings : Bindings
  fromWord : Token

/-- An attribute: a key, a colon and a value. -/
structure Attribute where
  key : Token
  colon : Token
  value : Token

/-- An import declaration. -/
structure Declaration where
  keyword : Token
  clause : Option Clause
  source : Token
  attributes : Option (Token × Listing Attribute)
  terminator : Option Token

/-! ### The tokens of a declaration -/

/-- The tokens of a list, given the tokens of an entry. -/
def Listing.tokens {Entry : Type} (entryTokens : Entry → List Token) (listing : Listing Entry) :
    List Token :=
  listing.opening ::
    (listing.ended.flatMap (fun (entry, comma) => entryTokens entry ++ [comma]) ++
      (listing.final.elim [] entryTokens ++ [listing.closing]))

/-- The tokens of a named import. -/
def NamedImport.tokens (entry : NamedImport) : List Token :=
  entry.modifier.toList ++
    entry.imported :: entry.asClause.elim [] fun (asWord, binding) => [asWord, binding]

/-- The tokens of a group. -/
def Group.tokens : Group → List Token
  | .star mark asWord binding => [mark, asWord, binding]
  | .named listing => listing.tokens NamedImport.tokens

/-- The tokens of bindings. -/
def Bindings.tokens : Bindings → List Token
  | .single binding => [binding]
  | .both binding comma members => binding :: comma :: members.tokens
  | .group members => members.tokens

/-- The tokens of a clause. -/
def Clause.tokens (clause : Clause) : List Token :=
  clause.modifier.toList ++ (clause.bindings.tokens ++ [clause.fromWord])

/-- The tokens of an attribute. -/
def Attribute.tokens (pair : Attribute) : List Token := [pair.key, pair.colon, pair.value]

/-- The tokens of a declaration. -/
def Declaration.tokens (declaration : Declaration) : List Token :=
  declaration.keyword ::
    (declaration.clause.elim [] Clause.tokens ++
      declaration.source ::
        (declaration.attributes.elim []
            (fun (withWord, listing) => withWord :: listing.tokens Attribute.tokens) ++
          declaration.terminator.toList))

end ImportBinding
