/-
This file holds what is known of a statement once it has been read: its kind, its extent, the
bindings it introduces and the module it imports from.

Extents count code points of the text that was read.
-/

import ImportBinding.Failure

namespace ImportBinding

/-! ### Specifiers -/

/-- A name with the stretch of text in which it is written. -/
structure Identifier where
  name : Text
  start : Nat
  stop : Nat
deriving DecidableEq

/-- One binding that an import declaration introduces. -/
inductive Specifier where
  /-- The default export. -/
  | default (binding : Identifier)
  /-- The whole module. -/
  | star (binding : Identifier)
  /-- A named export. Without an alias both names are the same stretch of text. -/
  | named (imported binding : Identifier)
deriving DecidableEq

namespace Specifier

/-- The local name. -/
def binding : Specifier → Identifier
  | default binding => binding
  | star binding => binding
  | named _ binding => binding

/-- The name of the export, for a named one. -/
def imported? : Specifier → Option Identifier
  | named imported _ => some imported
  | _ => none

/-- Whether the local name is written apart from the name of the export. -/
def isAliased : Specifier → Bool
  | named imported binding => imported.start != binding.start
  | _ => false

end Specifier

/-! ### Reserved words -/

/-- The names that the grammar takes for identifiers and module code does not. They are compared
as they are written. -/
def reservedWords : List Text :=
  [text "await", text "yield", text "let", text "static", text "enum", text "implements",
    text "interface", text "package", text "private", text "protected", text "public",
    text "arguments", text "eval"]

/-- The fault of the first specifier whose binding is a reserved word. -/
def reservedFault? (specifiers : List Specifier) : Option SyntaxFault :=
  (specifiers.find? fun specifier => specifier.binding.name ∈ reservedWords).map
    fun specifier => .reserved specifier.binding.name specifier.binding.start

/-! ### Nodes -/

/-- The kind of an import declaration. -/
def importKind : Text := text "import_statement"

/-- A statement that was read. -/
structure Node where
  kind : Text
  start : Nat
  stop : Nat
  specifiers : List Specifier
  source : Option Text
deriving DecidableEq

/-- The node of an import declaration, decided in this order: the specifiers, whether a binding is
reserved, the extent, the source. -/
def Node.ofImport (extent : Except Failure (Nat × Nat))
    (specifiers : Except Failure (List Specifier)) (source : Except Failure (Option Text)) :
    Except Failure Node := do
  let specifiers ← specifiers
  match reservedFault? specifiers with
  | some fault => throw (.illFormed fault)
  | none =>
    let (start, stop) ← extent
    let source ← source
    return ⟨importKind, start, stop, specifiers, source⟩

end ImportBinding
