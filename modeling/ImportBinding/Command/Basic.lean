/-
This file carries out commands.

What is wrong with the values that were given is reported on the console, and the command ends
with the code one. Other failures escape, as does a code point that the terminal cannot show. What
had been printed before that is seen.
-/

import ImportBinding.Command.Arguments
import ImportBinding.Console.Basic
import ImportBinding.Session
import ImportBinding.Terminal.Codec.Basic

namespace ImportBinding

/-- What a command depends on: the settings, the encoding of the terminal, and recorded trees. -/
structure Surroundings where
  settings : Settings
  encoding : Text
  recordings : List Recording

/-- What a command has printed, piece by piece, and how it ended: with an exit code or with a
failure that escaped. -/
structure Report where
  printed : List Text
  ending : Except Failure Nat

/-- What is seen of a command: its exit code, its output, and the failure that escaped. -/
structure Outcome where
  exitCode : Nat
  output : Text
  escaped : Option Failure

namespace Command

/-- The name and the number of the version. -/
def versionText : Text := text "single-import 1.0.0"

/-- The statement of a text in the given language, or else in the configured one. -/
def build (surroundings : Surroundings) (statement : Text) (language : Option Text) :
    Except Failure Statement :=
  let session : Session := ⟨[], surroundings.settings⟩
  (session.build surroundings.recordings (.text statement)
    (language.elim .null .text)).1

/-- The rows of the table about a statement. A statement without a source has no table. -/
def tableRows (statement : Statement) : Except Failure (List (Text × Text)) :=
  match statement.source with
  | none => throw .wrongKind
  | some source =>
    return [(text "binding", statement.binding), (text "source", source),
      (text "imported", statement.imported), (text "statement", statement.content.trimEnd)]

/-- The report of a failure, which is printed if it is about the values that were given. -/
def reportFailure (utf8 : Bool) (printed : List Text) (reported : Bool) (failure : Failure) :
    Report :=
  if reported then ⟨printed ++ [Console.errorLine utf8 failure.message], .ok 1⟩
  else ⟨printed, .error failure⟩

/-- Carries out a command. -/
def report (surroundings : Surroundings) (command : Command) : Report :=
  let encoding := surroundings.encoding.lower
  let utf8 := isUtf8 encoding
  match command with
  | .version => ⟨[Console.printWhole utf8 versionText], .ok 0⟩
  | .parse statement language verbose =>
    let printed := if verbose then [statusLine encoding] else []
    match build surroundings statement language with
    | .error failure => reportFailure utf8 printed failure.isReported failure
    | .ok built =>
      match tableRows built with
      | .error failure => ⟨printed, .error failure⟩
      | .ok rows =>
        ⟨printed ++ [Console.table encoding (text "Import Statement") rows], .ok 0⟩
  | .rename statement name language =>
    match build surroundings statement language with
    | .error failure => reportFailure utf8 [] failure.isReported failure
    | .ok built =>
      match built.rename surroundings.recordings (.text name) with
      | .error (.refused refusal) => reportFailure utf8 [] true (.refused refusal)
      | .error failure => ⟨[], .error failure⟩
      | .ok renamed =>
        ⟨[Console.printWrapped utf8
            (text "[green]✓[/green] " ++ Markup.escape built.binding ++ text " → " ++
              Markup.escape renamed.binding),
          Console.printWhole utf8 (Markup.escape renamed.content.trimEnd)], .ok 0⟩

/-- The pieces that are printed before one that a codec cannot encode, and the code point in that
one which it lacks. -/
def printable (codec : Codec) : List Text → Text × Option CodePoint
  | [] => ([], none)
  | piece :: later =>
    match piece.find? fun point => !codec.encodes point with
    | some point => ([], some point)
    | none =>
      let (printed, lacking) := printable codec later
      (piece.map codec.shown ++ printed, lacking)

/-- What is seen of a report on a terminal. -/
def outcome (codec : Codec) (encoding : Text) (report : Report) : Outcome :=
  match printable codec report.printed, report.ending with
  | (output, some point), _ => ⟨1, output, some (.notInEncoding point encoding)⟩
  | (output, none), .ok code => ⟨code, output, none⟩
  | (output, none), .error failure => ⟨1, output, some failure⟩

/-- Carries out a command line. A usage error is no command and ends with the code two. Nothing is
carried out on a terminal whose encoding has no codec. -/
def run (surroundings : Surroundings) (arguments : List Text) : Except Failure Outcome := do
  let codec ← Codec.ofName surroundings.encoding
  match ofArguments? arguments false with
  | none => return ⟨2, [], none⟩
  | some command => return outcome codec surroundings.encoding (command.report surroundings)

end Command

end ImportBinding
