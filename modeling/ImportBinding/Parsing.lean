/-
This file reads the first statement of a text in a dialect.

Trees that have been recorded for a text come first. Every other text is read by the grammar,
which knows import declarations and no other statements.
-/

import ImportBinding.Program
import ImportBinding.Text.Bytes
import ImportBinding.Tree

namespace ImportBinding

/-- A syntax tree that has been recorded for a text in a language. -/
structure Recording where
  language : Text
  content : Text
  tree : Tree

/-- The tree that has been recorded for a text. -/
def recordedTree? (recordings : List Recording) (dialect : Dialect) (content : Text) :
    Option Tree :=
  (recordings.find? fun recording =>
    recording.language = dialect.name && recording.content = content).map Recording.tree

/-- The first statement of a text, if it has one. A text with surrogates is read by no one. -/
def readStatement (recordings : List Recording) (dialect : Dialect) (content : Text) :
    Except Failure (Option Node) :=
  match content.surrogates? fun _ => false with
  | some (first, start, stop) => throw (.surrogates first start stop)
  | none =>
    match recordedTree? recordings dialect content with
    | some tree => tree.node? content
    | none =>
      match Program.ofText dialect content with
      | .error fault => throw (.illFormed fault)
      | .ok program => program.node?

/-- The dialect of a value that is given as the name of a language. -/
def dialectOf (given : Value) : Except Failure Dialect :=
  match given with
  | .text name =>
    match Dialect.ofName? name with
    | some dialect => return dialect
    | none => throw (.unsupportedLanguage given)
  | .list _ | .object _ => throw .wrongKind
  | _ => throw (.unsupportedLanguage given)

end ImportBinding
