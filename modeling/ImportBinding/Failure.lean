/-
This file lists every way in which something can go wrong, and gives each its wording.

A refusal says why a value is no import statement with exactly one binding; it carries the
value as the caller gave it. The other failures are not about the form of a statement: a
language without a grammar, a setting, an escape that denotes no code point, text that has no
encoding, markup that closes what is not open, a value of the wrong kind.
-/

import ImportBinding.Diagnostic
import ImportBinding.Dialect
import ImportBinding.Value

namespace ImportBinding

/-! ### Refusals -/

/-- Why a value is refused as a statement. -/
inductive Reason where
  /-- It is no text. -/
  | notText
  /-- Its normal form is no program. -/
  | illFormed (fault : SyntaxFault) (normal : Text)
  /-- Its first statement is of another kind, or there is none. -/
  | otherKind (kind : Option Text)
  /-- It introduces other than one binding. -/
  | bindings (names : List Text)
  /-- The new name of its binding is no text. -/
  | newBinding (given : Value)
  /-- The details and the position are given as they are. -/
  | stated (details : Option Text) (position : Option Int)

/-- A value that is refused as a statement, and the reason. -/
structure Refusal where
  statement : Value
  reason : Reason

namespace Refusal

/-- The explanation of a refusal, if there is more to say than that the value is refused. -/
def details (refusal : Refusal) : Option Text :=
  match refusal.reason with
  | .notText => none
  | .illFormed fault normal => some (diagnostic fault.message normal fault.position)
  | .otherKind kind => some (text "Node type was " ++ kind.getD (text "None"))
  | .bindings names => some <|
    text "Import " ++ Text.ofNat names.length ++ text " bindings: " ++
      Text.join (text ", ") names ++
      text (". Imports for these targets must have exactly one binding, " ++
        "which will be used in generated code.")
  | .newBinding given => some (text "New binding must be a string, got " ++ given.shown)
  | .stated details _ => details

/-- The place of a refusal in the normal form of the statement, if it has one. -/
def position (refusal : Refusal) : Option Int :=
  match refusal.reason with
  | .illFormed fault _ => some fault.position
  | .stated _ position => position
  | _ => none

/-- The wording of a refusal. Empty details are left out. -/
def message (refusal : Refusal) : Text :=
  let head := text "Bad import statement: " ++ refusal.statement.shown ++
    text (". ImportStatement must be an ES Module static import statement of the form " ++
      "specified at https://developer.mozilla.org/en-US/docs/Web/JavaScript/Reference/" ++
      "Statements/import, which imports exactly one binding.")
  match refusal.details with
  | none => head
  | some details => if details.isEmpty then head else head ++ text " \n\nDetails: " ++ details

end Refusal

/-! ### Failures -/

/-- Everything that can go wrong. -/
inductive Failure where
  /-- A value is no statement with exactly one binding. -/
  | refused (refusal : Refusal)
  /-- A text is no program. -/
  | illFormed (fault : SyntaxFault)
  /-- There is no grammar for a language. -/
  | unsupportedLanguage (given : Value)
  /-- The configured language is none of the dialects. -/
  | unsupportedSetting (language : Text)
  /-- A number is no code point. -/
  | notCodePoint (number : Int)
  /-- A number is too large to be looked up as a code point. -/
  | tooLarge (number : Int)
  /-- A text is no numeral in base sixteen. -/
  | notNumeral (given : Text)
  /-- An escape sequence has nothing after its backslash. -/
  | emptyEscape
  /-- A text holds surrogates, the first run of them from one offset up to another. -/
  | surrogates (first : CodePoint) (start stop : Nat)
  /-- A stretch of bytes starts or ends inside a code point, of which it holds these bytes. -/
  | splitCodePoint (bytes : List Nat) (position : Nat) (atEnd : Bool)
  /-- A code point has no encoding on the terminal. -/
  | notInEncoding (point : CodePoint) (encoding : Text)
  /-- There is no encoding of that name. -/
  | unknownEncoding (name : Text)
  /-- The encoding of that name is none of text. -/
  | notTextEncoding (name : Text)
  /-- The name of an encoding holds the code point zero. -/
  | zeroInName
  /-- The name or the value of a variable holds the code point zero. -/
  | zeroInVariable
  /-- The name of a variable holds an equals sign. -/
  | illegalVariable
  /-- A closing tag names no tag that is open. -/
  | unmatchedTag (tag : Text) (position : Nat)
  /-- A closing tag without a name stands where no tag is open. -/
  | nothingToClose (position : Nat)
  /-- A value lacks what was asked of it, or cannot be changed. -/
  | noAttribute
  /-- A value is of the wrong kind for the operation. -/
  | wrongKind
  /-- A slot of a session holds no statement. -/
  | emptySlot
  /-- The locale cannot be looked up. -/
  | unknownLocale (message : Text)
  /-- The locale has a value that cannot be used. -/
  | badLocale (message : Text)
  /-- The terminal cannot be asked. -/
  | noTerminal (message : Text)

namespace Failure

/-- The wording of a failure, for those that have a fixed one. -/
def message : Failure → Text
  | refused refusal => refusal.message
  | illFormed fault => fault.message
  | unsupportedLanguage given => text "Unsupported language: " ++ given.printed
  | unsupportedSetting language =>
    text "SINGLE_IMPORT_LANGUAGE must be one of " ++
      Text.join (text ", ") (Dialect.all.map Dialect.name) ++ text ", got " ++ language.quoted ++
      text "."
  | notCodePoint _ => text "chr() arg not in range(0x110000)"
  | notNumeral given =>
    text "invalid literal for int() with base 16: " ++ given.quoted.take 200
  | emptyEscape => text "string index out of range"
  | surrogates first start stop =>
    if stop = start + 1 then
      text "'utf-8' codec can't encode character '\\u" ++ Text.ofHex 4 first.toNat ++
        text "' in position " ++ Text.ofNat start ++ text ": surrogates not allowed"
    else
      text "'utf-8' codec can't encode characters in position " ++ Text.ofNat start ++ text "-" ++
        Text.ofNat (stop - 1) ++ text ": surrogates not allowed"
  | splitCodePoint bytes position atEnd =>
    let subject := match bytes with
      | [byte] => text "byte 0x" ++ Text.ofHex 2 byte ++ text " in position " ++ Text.ofNat position
      | _ =>
        text "bytes in position " ++ Text.ofNat position ++ text "-" ++
          Text.ofNat (position + bytes.length - 1)
    text "'utf-8' codec can't decode " ++ subject ++
      (if atEnd then text ": unexpected end of data" else text ": invalid start byte")
  | unknownEncoding name => text "unknown encoding: " ++ name
  | notTextEncoding name =>
    text "'" ++ name ++
      text "' is not a text encoding; use codecs.open() to handle arbitrary codecs"
  | zeroInName => text "embedded null character"
  | zeroInVariable => text "embedded null byte"
  | illegalVariable => text "illegal environment variable name"
  | unmatchedTag tag position =>
    text "closing tag '" ++ tag ++ text "' at position " ++ Text.ofNat position ++
      text " doesn't match any open tag"
  | nothingToClose position =>
    text "closing tag '[/]' at position " ++ Text.ofNat position ++ text " has nothing to close"
  | emptySlot => text "empty slot"
  | unknownLocale message => message
  | badLocale message => message
  | noTerminal message => message
  | tooLarge _ | notInEncoding _ _ | noAttribute | wrongKind => []

/-- Whether a failure is about the values that a caller gave, so that it is reported to them. The
others end the program. -/
def isReported : Failure → Bool
  | refused _ | illFormed _ | unsupportedLanguage _ | unsupportedSetting _ | notCodePoint _
  | notNumeral _ | surrogates _ _ _ | splitCodePoint _ _ _ | notInEncoding _ _ | badLocale _
  | zeroInName | zeroInVariable | illegalVariable => true
  | tooLarge _ | emptyEscape | noAttribute | wrongKind | emptySlot | unknownLocale _
  | noTerminal _ | unknownEncoding _ | notTextEncoding _ | unmatchedTag _ _
  | nothingToClose _ => false

end Failure

end ImportBinding
