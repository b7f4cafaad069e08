/-
This file holds import statements that introduce exactly one binding.

A statement is built from the text that a caller gives. It keeps that text, its normal form, the
dialect and what was read from it. The binding, the source and the imported name are all
taken from the one specifier.
-/

import ImportBinding.Parsing
import ImportBinding.Statement.Normal
import ImportBinding.Text.Lower

namespace ImportBinding

/-! ### Statements -/

/-- An import statement with exactly one binding. -/
structure Statement where
  given : Text
  content : Text
  dialect : Dialect
  node : Node
  specifier : Specifier
  single : node.specifiers = [specifier]

namespace Statement

/-- The local name that the statement introduces. -/
def binding (statement : Statement) : Text := statement.specifier.binding.name

/-- The module that the statement imports from. -/
def source (statement : Statement) : Option Text := statement.node.source

/-- The export that the statement imports: the word `default`, a star for the whole module, or the
name of a named export. -/
def imported (statement : Statement) : Text :=
  match statement.specifier with
  | .star _ => text "*"
  | .default _ => text "default"
  | .named imported _ => imported.name

/-- Two statements are the same when their normal form and their dialect are. -/
def isSame (first second : Statement) : Bool :=
  first.content = second.content && first.dialect = second.dialect

/-- The statement as it is shown to a programmer. -/
def shown (statement : Statement) : Text :=
  text "ImportStatement(" ++ statement.content.trimEnd.quoted ++ text ", binding=" ++
    statement.binding.quoted ++ text ")"

/-! ### Building -/

/-- The text of a value that is given as a statement. -/
def textOf (given : Value) : Except Failure Text :=
  match given with
  | .text content => return content
  | _ => throw (.refused ⟨given, .notText⟩)

/-- The name of the language that a caller chooses. If none is given it is the configured one;
otherwise blanks around it and the case of its letters do not matter. -/
def languageOf (given : Value) (configured : Except Failure Text) : Except Failure Text :=
  if given.isGiven then
    match given with
    | .text name => return name.trim.lower
    | _ => throw .noAttribute
  else configured

/-- The statement whose normal form was read as the given node, if that is an import declaration
with exactly one specifier. -/
def ofNode (given content : Text) (dialect : Dialect) (read : Option Node) :
    Except Reason Statement :=
  match read with
  | none => throw (.otherKind none)
  | some node =>
    if node.kind ≠ importKind then throw (.otherKind (some node.kind))
    else match single : node.specifiers with
      | [specifier] => return ⟨given, content, dialect, node, specifier, single⟩
      | specifiers => throw (.bindings (specifiers.map fun specifier => specifier.binding.name))

/-- The statement of a text in a dialect. What is wrong with its form is a reason to refuse it;
other failures pass. -/
def ofText (recordings : List Recording) (given : Text) (dialect : Dialect) :
    Except Failure Statement :=
  let refuse (reason : Reason) : Failure := .refused ⟨.text given, reason⟩
  let content := normalForm given
  match readStatement recordings dialect content with
  | .error (.illFormed fault) => throw (refuse (.illFormed fault content))
  | .error failure => throw failure
  | .ok read => (ofNode given content dialect read).mapError refuse

/-- The statement of a value in a language: the value has to be a text, and there has to be a
grammar for the language. -/
def ofValue (recordings : List Recording) (given : Value) (language : Except Failure Text) :
    Except Failure Statement := do
  let written ← textOf given
  let name ← language
  let dialect ← dialectOf (.text name)
  ofText recordings written dialect

/-! ### Renaming -/

/-- The normal form with another local name. A named import without an alias gets one behind the
imported name; otherwise the local name is replaced where it stands. -/
def spliced (statement : Statement) (name : Text) : Text :=
  let content := statement.content
  match statement.specifier with
  | .named imported binding =>
    if statement.specifier.isAliased then
      content.take binding.start ++ name ++ content.drop binding.stop
    else content.take imported.stop ++ (text " as " ++ name) ++ content.drop imported.stop
  | .default binding | .star binding =>
    content.take binding.start ++ name ++ content.drop binding.stop

/-- The statement with another local name, built anew from the changed text. -/
def rename (recordings : List Recording) (statement : Statement) (name : Value) :
    Except Failure Statement :=
  match name with
  | .text name => ofText recordings (statement.spliced name) statement.dialect
  | _ => throw (.refused ⟨.text statement.given, .newBinding name⟩)

end Statement

end ImportBinding
