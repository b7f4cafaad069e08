/-
This file is the command line program. It looks up the settings, carries out the command and
prints what is seen of it.
-/

import ImportBinding.Command.Basic

open ImportBinding

/-- The file of settings in the root of the project, if there is one. The root is the directory
above the one that holds the program, wherever the program is called from. -/
def readSettingsFile : IO (Option String) := do
  let directory ← IO.appDir
  try
    return some (← IO.FS.readFile (directory / ".." / ".env"))
  catch _ =>
    return none

/-- A text as the terminal takes it. One with surrogates is left out. -/
def asString (content : Text) : String := (Text.toString? content).getD ""

/-- Carries out the command line that the arguments form. -/
def main (arguments : List String) : IO UInt32 := do
  let environment ← IO.getEnv "SINGLE_IMPORT_LANGUAGE"
  let file ← readSettingsFile
  let answer := do
    let initial : Settings := ⟨environment.map text, false⟩
    let settings ← initial.withFile (text (file.getD ""))
    Command.run ⟨settings, text "utf-8", []⟩ (arguments.map text)
  match answer with
  | .error failure =>
    IO.eprintln (asString failure.message)
    return 1
  | .ok outcome =>
    IO.print (asString outcome.output)
    if let some failure := outcome.escaped then
      IO.eprintln (asString failure.message)
    return outcome.exitCode.toUInt32
