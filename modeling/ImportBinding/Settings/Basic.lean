/-
This file holds the configured language.

An environment variable names it, and a file of settings if the variable is not set. The value
is checked when it is asked for the first time. After that it is read anew each time, and no
longer checked.
-/

import ImportBinding.Failure
import ImportBinding.Settings.File
import ImportBinding.Text.Bytes
import ImportBinding.Text.Lower

namespace ImportBinding

/-! ### Environment variables -/

namespace Variable

/-- The text that is read back after a text has been stored in the environment, which keeps bytes.
Surrogates that are no stray bytes have none, and the byte zero would end the text. -/
def stored (content : Text) : Except Failure Text :=
  match content.surrogates? CodePoint.isStrayByte with
  | some (first, start, stop) => throw (.surrogates first start stop)
  | none =>
    if content.any fun point => point.toNat = 0 then throw .zeroInVariable
    else return Text.ofBytes content.bytes

/-- Whether a variable can be set, and why not otherwise. -/
def check (name value : Text) : Except Failure Unit := do
  let name ← stored name
  let _ ← stored value
  if name.contains (CodePoint.ofChar '=') then throw .illegalVariable

end Variable

/-- The environment variable that names the language. -/
def languageVariable : Text := text "SINGLE_IMPORT_LANGUAGE"

/-! ### Settings -/

/-- The settings: the value of the environment variable, if it is set, and whether the language
has been checked. -/
structure Settings where
  environment : Option Text
  isChecked : Bool

namespace Settings

/-- The settings at the start. -/
def initial : Settings := ⟨none, false⟩

/-- The settings with the environment variable set to a value, or unset. It stays unset where the
value cannot be stored. -/
def withVariable (value : Option Text) (settings : Settings) : Except Failure Unit × Settings :=
  match value.mapM Variable.stored with
  | .ok environment => (.ok (), { settings with environment })
  | .error failure => (.error failure, { settings with environment := none })

/-- The settings with the bindings of a file, which count where the environment has none. Names
without a value are left out, and each of the others has to be one of a variable. -/
def withFile (content : Text) (settings : Settings) : Except Failure Settings := do
  let environment := settings.environment.toList.map fun value => (languageVariable, some value)
  let bindings := (SettingsFile.read environment content).filter fun (name, _) =>
    !environment.any fun (other, _) => other = name
  bindings.forM fun (name, value) => value.forM (Variable.check name)
  let bound := (bindings.find? fun (name, _) => name = languageVariable).bind Prod.snd
  return { settings with environment := settings.environment.or bound }

/-- The language that is named, whether there is such a dialect or not. -/
def language (settings : Settings) : Text :=
  (settings.environment.getD (text "javascript")).trim.lower

/-- The settings after a check of the language. -/
def check (settings : Settings) : Except Failure Settings :=
  if settings.isChecked || (Dialect.ofName? settings.language).isSome then
    return { settings with isChecked := true }
  else throw (.unsupportedSetting settings.language)

end Settings

end ImportBinding
