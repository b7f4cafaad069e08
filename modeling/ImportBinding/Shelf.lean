/-
This file keeps the grammars that have been loaded.

A grammar is loaded once per language and then shared by all readers of that language, while
each request makes a reader of its own. A request that fails leaves the shelf as it was.
-/

import ImportBinding.Parsing

namespace ImportBinding

/-- A grammar that has been loaded. The serial number tells it from any other. -/
structure Grammar where
  dialect : Dialect
  serial : Nat
deriving DecidableEq

/-- A reader of statements in a language. The serial number tells it from any other. -/
structure StatementReader where
  language : Text
  grammar : Grammar
  serial : Nat
deriving DecidableEq

/-- The loaded grammars under the names of their languages, and how many readers were made. -/
structure Shelf where
  grammars : List (Text × Grammar)
  readers : Nat

namespace Shelf

/-- The shelf before the first request. -/
def empty : Shelf := ⟨[], 0⟩

/-- The grammar that is loaded for a language. -/
def grammar? (shelf : Shelf) (language : Text) : Option Grammar :=
  (shelf.grammars.find? fun (name, _) => name = language).map Prod.snd

/-- The grammar for a language, loaded if need be, and the shelf that holds it. -/
def load (shelf : Shelf) (language : Text) : Except Failure (Grammar × Shelf) :=
  match shelf.grammar? language with
  | some grammar => return (grammar, shelf)
  | none =>
    match Dialect.ofName? language with
    | some dialect =>
      let grammar : Grammar := ⟨dialect, shelf.grammars.length⟩
      return (grammar, { shelf with grammars := shelf.grammars ++ [(language, grammar)] })
    | none => throw (.unsupportedLanguage (.text language))

/-- A reader for a value that is given as the name of a language, and the shelf afterwards. -/
def reader (shelf : Shelf) (given : Value) : Except Failure StatementReader × Shelf :=
  match given with
  | .text language =>
    match shelf.load language with
    | .ok (grammar, after) =>
      (.ok ⟨language, grammar, after.readers⟩, { after with readers := after.readers + 1 })
    | .error failure => (.error failure, shelf)
  | .list _ | .object _ => (.error .wrongKind, shelf)
  | _ => (.error (.unsupportedLanguage given), shelf)

end Shelf

end ImportBinding
