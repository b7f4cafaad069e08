/-
This file names the dialects that a statement can be written in.

The two typed dialects read the same import declarations. They differ from the plain one in a
modifier, `type` or `typeof`, that may stand before a clause and before an entry of a list.
-/

import ImportBinding.Text.Basic

namespace ImportBinding

/-- A dialect of the statement language. -/
inductive Dialect where
  | javascript
  | typescript
  | tsx
deriving DecidableEq

namespace Dialect

/-- The dialects in the order in which messages list them. -/
def all : List Dialect := [javascript, typescript, tsx]

/-- The name of a dialect. -/
def name : Dialect → Text
  | javascript => text "javascript"
  | typescript => text "typescript"
  | tsx => text "tsx"

/-- The dialect of a name. Names are compared as they are, without trimming or folding case. -/
def ofName? (given : Text) : Option Dialect := all.find? fun dialect => dialect.name = given

/-- Whether imports may carry a modifier. -/
def isTyped : Dialect → Bool
  | javascript => false
  | typescript => true
  | tsx => true

/-- Each dialect is found under its name, and under no other. -/
theorem ofName?_eq_some_iff (given : Text) (dialect : Dialect) :
    ofName? given = some dialect ↔ given = dialect.name := by
  constructor
  · intro found
    have same := List.find?_some found
    exact (of_decide_eq_true same).symm
  · intro same
    subst same
    cases dialect <;> decide

end Dialect

end ImportBinding
