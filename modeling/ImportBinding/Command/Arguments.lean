/-
This file reads the arguments of the command line.

Options may stand anywhere after the name of a command, in long or short form, several short
ones together, and of equal ones the last counts. Two hyphens on their own end the options. What
cannot be read is a usage error.
-/

import ImportBinding.Text.Basic

namespace ImportBinding

/-! ### Commands -/

/-- What the command line asks for. -/
inductive Command where
  /-- Show the version. -/
  | version
  /-- Show what a statement imports. -/
  | parse (statement : Text) (language : Option Text) (verbose : Bool)
  /-- Show a statement with another binding. -/
  | rename (statement name : Text) (language : Option Text)

/-- The arguments of a command that have been read. -/
structure Arguments where
  positional : List Text
  language : Option Text
  verbose : Bool

namespace Arguments

/-- The arguments before anything has been read. -/
def empty : Arguments := ⟨[], none, false⟩

/-- Whether an argument is an option or several. A hyphen on its own is none. -/
def isOption (argument : Text) : Bool :=
  argument.head? = some (CodePoint.ofChar '-') && 1 < argument.length

/-- Reads short options that stand together. What follows the option for the language is its value;
if nothing does, the next argument is, and the answer says so. -/
def readShort (hasVerbose : Bool) (read : Arguments) : Text → Option (Arguments × Bool)
  | [] => some (read, false)
  | option :: rest =>
    if option = 'l' then
      if rest = [] then some (read, true) else some ({ read with language := some rest }, false)
    else if option = 'v' ∧ hasVerbose then readShort hasVerbose { read with verbose := true } rest
    else none

/-- Reads a long option, given without its hyphens. The answer says whether the next argument is the
value of the option for the language. -/
def readLong (hasVerbose : Bool) (read : Arguments) (option : Text) : Option (Arguments × Bool) :=
  let name := option.takeWhile fun point : CodePoint => point ≠ '='
  let value := if name.length < option.length then some (option.drop (name.length + 1))
    else none
  if name = text "language" then
    match value with
    | some value => some ({ read with language := some value }, false)
    | none => some (read, true)
  else if name = text "verbose" ∧ hasVerbose ∧ value.isNone then
    some ({ read with verbose := true }, false)
  else none

/-- Reads one option. -/
def readOption (hasVerbose : Bool) (read : Arguments) (option : Text) :
    Option (Arguments × Bool) :=
  if (text "--").isPrefixOf option then readLong hasVerbose read (option.drop 2)
  else readShort hasVerbose read (option.drop 1)

/-- Reads the arguments of a command. -/
def read (hasVerbose : Bool) (before : Arguments) : List Text → Option Arguments
  | [] => some before
  | argument :: rest =>
    if argument = text "--" then some { before with positional := before.positional ++ rest }
    else if isOption argument then
      match readOption hasVerbose before argument with
      | none => none
      | some (after, false) => read hasVerbose after rest
      | some (after, true) =>
        match rest with
        | [] => none
        | value :: rest => read hasVerbose { after with language := some value } rest
    else read hasVerbose { before with positional := before.positional ++ [argument] } rest

end Arguments

namespace Command

/-- The command of a name and its arguments. -/
def ofName? (name : Text) (arguments : List Text) : Option Command :=
  if name = text "parse" then
    match Arguments.read true Arguments.empty arguments with
    | some ⟨[statement], language, verbose⟩ => some (.parse statement language verbose)
    | _ => none
  else if name = text "rename" then
    match Arguments.read false Arguments.empty arguments with
    | some ⟨[statement, name], language, _⟩ => some (.rename statement name language)
    | _ => none
  else none

/-- The command of a command line, on which the option for the version may stand before the name.
Then the version is all that is asked for. -/
def ofArguments? (arguments : List Text) (version : Bool) : Option Command :=
  match arguments with
  | [] => if version then some .version else none
  | argument :: rest =>
    if argument = text "--version" then ofArguments? rest true
    else if argument ≠ text "--" ∧ Arguments.isOption argument then none
    else if version then some .version
    else if argument = text "--" then
      match rest with
      | [] => none
      | name :: rest => ofName? name rest
    else ofName? argument rest

end Command

end ImportBinding
