/-
This file runs sessions: sequences of steps on statements that are kept in numbered slots.

Each step that builds a statement takes the next slot, which stays empty if it fails. The
settings are the other thing that a session carries from step to step.
-/

import ImportBinding.Settings.Basic
import ImportBinding.Statement.Basic

namespace ImportBinding

/-! ### Steps and answers -/

/-- What a statement is compared with. -/
inductive Operand where
  | slot (slot : Nat)
  | value (value : Value)

/-- A step of a session. -/
inductive Step where
  /-- Build a statement of a value in a language. -/
  | build (statement language : Value)
  /-- Build the statement of a slot anew with another binding. -/
  | rename (slot : Nat) (name : Value)
  /-- Tell what a statement imports. -/
  | describe (slot : Nat)
  /-- Tell how a statement appears in text. -/
  | display (slot : Nat)
  /-- Write a statement in a format. -/
  | format (slot : Nat) (format : Value)
  /-- Compare a statement with another or with a value. -/
  | compare (slot : Nat) (operand : Operand)
  /-- Find the statements that equal none before them. -/
  | distinct (slots : List Nat)
  /-- Change a property of a statement. -/
  | assign (slot : Nat)
  /-- Set the environment variable for the language, or unset it. -/
  | environment (value : Option Text)
  /-- Forget that the settings have been checked. -/
  | forget
  /-- Ask for the configured language. -/
  | configured

/-- The answer to a step. -/
inductive Answer where
  | statement (statement : Statement)
  | display (statement : Statement)
  | formatted (content : Text)
  | comparison (equal : Bool)
  | distinct (slots : List Nat)
  | language (name : Text)
  | done

/-! ### Sessions -/

/-- The state of a session. -/
structure Session where
  slots : List (Option Statement)
  settings : Settings

namespace Session

/-- The state before the first step. -/
def initial : Session := ⟨[], Settings.initial⟩

/-- The statement in a slot. -/
def statement (session : Session) (slot : Nat) : Except Failure Statement :=
  match session.slots[slot]? with
  | some (some statement) => return statement
  | _ => throw .emptySlot

/-- The session in which the outcome of building a statement takes the next slot. -/
def fill (session : Session) (outcome : Except Failure Statement) : Session :=
  { session with slots := session.slots ++ [outcome.toOption] }

/-- The configured language, and the session after the settings have been asked for it. -/
def ask (session : Session) : Except Failure Text × Session :=
  match session.settings.check with
  | .ok settings => (.ok settings.language, { session with settings })
  | .error failure => (.error failure, session)

/-- Builds a statement. The settings are asked for the language only if none is given and the
statement is a text. -/
def build (recordings : List Recording) (session : Session) (given language : Value) :
    Except Failure Statement × Session :=
  let (configured, asked) := session.ask
  let outcome := Statement.ofValue recordings given
    (Statement.languageOf language configured)
  let isAsked := !language.isGiven && (Statement.textOf given).toBool
  (outcome, (if isAsked then asked else session).fill outcome)

/-- The slots whose statements equal none in the slots before them. -/
def firstOccurrences (seen : List Statement) :
    List (Nat × Statement) → List Nat
  | [] => []
  | (slot, statement) :: later =>
    if seen.any statement.isSame then firstOccurrences seen later
    else slot :: firstOccurrences (statement :: seen) later

/-- The answer to a step that leaves the session as it is. -/
def answer (session : Session) : Step → Except Failure Answer
  | .describe slot => (session.statement slot).map .statement
  | .display slot => (session.statement slot).map .display
  | .format slot format => do
    let statement ← session.statement slot
    match format with
    | .text [] => return .formatted statement.binding
    | _ => throw .wrongKind
  | .compare slot operand => do
    let first ← session.statement slot
    match operand with
    | .slot other =>
      let second ← session.statement other
      return .comparison (first.isSame second)
    | .value _ => return .comparison false
  | .distinct slots => do
    let statements ← slots.mapM fun slot => (session.statement slot).map fun found => (slot, found)
    return .distinct (firstOccurrences [] statements)
  | .assign slot => do
    let _ ← session.statement slot
    throw .noAttribute
  | _ => return .done

/-- The answer to a step and the session after it. -/
def step (recordings : List Recording) (session : Session) (step : Step) :
    Except Failure Answer × Session :=
  match step with
  | .build given language =>
    let (outcome, after) := session.build recordings given language
    (outcome.map .statement, after)
  | .rename slot name =>
    let outcome := (session.statement slot).bind fun found => found.rename recordings name
    (outcome.map .statement, session.fill outcome)
  | .environment value =>
    let (outcome, settings) := session.settings.withVariable value
    (outcome.map fun () => .done, { session with settings })
  | .forget => (.ok .done, { session with settings.isChecked := false })
  | .configured =>
    let (language, after) := session.ask
    (language.map .language, after)
  | _ => (session.answer step, session)

/-- The answers to the steps of a session, in order. -/
def run (recordings : List Recording) (session : Session) : List Step → List (Except Failure Answer)
  | [] => []
  | first :: later =>
    let (answer, after) := session.step recordings first
    answer :: run recordings after later

end Session

end ImportBinding
