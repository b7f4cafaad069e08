/-
This file reads files of settings, in which each binding is a name, an equals sign and a value.

A line may start with the word `export`. A value may stand in quotes, may then go on over several
lines, and has escapes. A value without quotes ends with its line, or with blanks and a hash
before that. A name without an equals sign is bound to no value. What is no binding is skipped,
up to the end of the line on which reading stopped.
-/

import ImportBinding.Text.Blank

namespace ImportBinding.SettingsFile

/-! ### Lines -/

/-- The text of a file in which each line ends with a line feed: a carriage return, and one with a
line feed behind it, stand for that. -/
def unifyLines : Text → Text
  | [] => []
  | point :: rest =>
    if point = '\r' then
      if rest.head? = some (CodePoint.ofChar '\n') then unifyLines rest
      else CodePoint.ofChar '\n' :: unifyLines rest
    else point :: unifyLines rest

/-- The text of a file without the mark at its start that tells how it is encoded. -/
def dropMark (content : Text) : Text :=
  if content.head? = some (CodePoint.ofChar '\ufeff') then content.drop 1 else content

/-- A code point that does not end a line. -/
def isInLine (point : CodePoint) : Bool := point ≠ '\n'

/-- A blank that does not end a line. -/
def isGap (point : CodePoint) : Bool := point.isBlank && isInLine point

/-- What follows the line that a text starts with. -/
def dropLine (content : Text) : Text := (content.dropWhile isInLine).drop 1

/-! ### Quoted values -/

/-- The text up to the first quote, and what follows. A backslash and the code point behind it are
taken together, and have to be on one line. -/
def quoted? (quote : CodePoint) : Text → Option (Text × Text)
  | [] => none
  | [point] => if point = quote then some ([], []) else none
  | point :: next :: rest =>
    if point = quote then some ([], next :: rest)
    else if point = '\\' then
      if isInLine next then
        (quoted? quote rest).map fun (inside, after) => (point :: next :: inside, after)
      else none
    else (quoted? quote (next :: rest)).map fun (inside, after) => (point :: inside, after)

/-- What a backslash and the given code point stand for between the given quotes, if they stand for
one code point. -/
def escaped? (quote point : CodePoint) : Option CodePoint :=
  if point = '\\' ∨ point = '\'' then some point
  else if quote = '\'' then none
  else if point = '"' then some point
  else if point = 'a' then some (CodePoint.ofChar '\x07')
  else if point = 'b' then some (CodePoint.ofChar '\x08')
  else if point = 'f' then some (CodePoint.ofChar '\x0c')
  else if point = 'n' then some (CodePoint.ofChar '\n')
  else if point = 'r' then some (CodePoint.ofChar '\r')
  else if point = 't' then some (CodePoint.ofChar '\t')
  else if point = 'v' then some (CodePoint.ofChar '\x0b')
  else none

/-- The text that stands for what is written between quotes. -/
def unescape (quote : CodePoint) : Text → Text
  | first :: second :: rest =>
    if first = '\\' then
      match escaped? quote second with
      | some point => point :: unescape quote rest
      | none => first :: unescape quote (second :: rest)
    else first :: unescape quote (second :: rest)
  | short => short

/-! ### Bindings -/

/-- A name and the value that it is bound to, if it is bound to one. -/
abbrev Binding := Text × Option Text

/-! What is read comes with the text that follows it. Where nothing can be read, the answer is what
is left of the text from there. -/

/-- What follows the word `export` and the blanks behind it, if the text starts with them. -/
def dropExport (content : Text) : Text :=
  let rest := content.drop 6
  if (text "export").isPrefixOf content && (rest.head?.elim false isGap) then rest.dropWhile isGap
  else content

/-- Reads a name. One in single quotes may hold anything but those. -/
def readName (content : Text) : Except Text (Text × Text) :=
  let isQuoted : Bool := content.head? = some (CodePoint.ofChar '\'')
  let start := if isQuoted then content.drop 1 else content
  let name := start.takeWhile fun point : CodePoint =>
    if isQuoted then point ≠ '\'' else !(point = '=' || point = '#' || point.isBlank)
  let after := start.drop name.length
  if name = [] ∨ (isQuoted ∧ after = []) then throw content
  else return (name, if isQuoted then after.drop 1 else after)

/-- The text before the first blanks that a hash follows. -/
def dropComment : Text → Text
  | [] => []
  | point :: rest =>
    if point.isBlank &&
        (rest.dropWhile CodePoint.isBlank).head? = some (CodePoint.ofChar '#') then []
    else point :: dropComment rest

/-- Reads the value that follows an equals sign. The blanks in front of a value without quotes can
already be those before a comment. -/
def readValue (content : Text) : Except Text (Text × Text) :=
  let start := content.dropWhile isGap
  match start with
  | [] => return ([], [])
  | first :: rest =>
    if first = '\'' ∨ first = '"' then
      match quoted? first rest with
      | some (inside, after) => return (unescape first inside, after)
      | none => throw start
    else
      return ((dropComment (content.takeWhile isInLine)).trim, content.dropWhile isInLine)

/-- Reads the end of a line. Nothing but blanks and a comment may come before it. -/
def readLineEnd (content : Text) : Except Text Text :=
  match content.dropWhile isGap with
  | [] => return []
  | point :: rest =>
    if point = '#' ∨ point = '\n' then return dropLine (point :: rest) else throw content

/-- Reads a binding and its line. The hash of a comment starts no binding. -/
def readBinding (content : Text) : Except Text (Option Binding × Text) := do
  let content := dropExport content
  if content.head? = some (CodePoint.ofChar '#') then
    return (none, ← readLineEnd content)
  else
    let (name, rest) ← readName content
    let rest := rest.dropWhile isGap
    if rest.head? = some (CodePoint.ofChar '=') then
      let (value, rest) ← readValue (rest.drop 1)
      return (some (name, some value), ← readLineEnd rest)
    else
      return (some (name, none), ← readLineEnd rest)

/-- The bindings of a text in their order. -/
def bindings (content : Text) : List Binding :=
  let start := content.dropWhile CodePoint.isBlank
  let (found, rest) := match readBinding start with
    | .ok reading => reading
    | .error left => (none, dropLine left)
  if rest.length < content.length then found.toList ++ bindings rest else found.toList
termination_by content.length

/-! ### References -/

/-- What is bound to a name, if the name is bound at all. The first binding of a list counts. -/
def lookup? (bound : List Binding) (name : Text) : Option (Option Text) :=
  (bound.find? fun (other, _) => other = name).map Prod.snd

/-- The reference at the front of a text that follows a dollar sign: a name in braces, perhaps
with a value to use in its place, and what follows. -/
def reference? (content : Text) : Option (Text × Text × Text) :=
  match content with
  | [] => none
  | brace :: rest =>
    if brace ≠ '\x7b' then none
    else
      let name := rest.takeWhile fun point : CodePoint => !(point = '\x7d' || point = ':')
      match rest.drop name.length with
      | close :: after =>
        if close = '\x7d' then some (name, [], after)
        else if after.head? = some (CodePoint.ofChar '-') then
          let instead := (after.drop 1).takeWhile fun point : CodePoint => !(point = '\x7d')
          match (after.drop 1).drop instead.length with
          | _ :: after => some (name, instead, after)
          | [] => none
        else none
      | [] => none

/-- A value in which each reference is replaced by the value of the name, or by the text to use in
its place if the name is not bound. -/
def expand (bound : List Binding) (content : Text) : Text :=
  match content with
  | [] => []
  | point :: rest =>
    match if point = '$' then reference? rest else none with
    | some (name, instead, after) =>
      if after.length < rest.length + 1 then
        ((lookup? bound name).getD (some instead)).getD [] ++ expand bound after
      else content
    | none => point :: expand bound rest
termination_by content.length

/-- Bindings with their references replaced, the last one first, in front of those that were there
before. The bindings of the environment count more than any of the file. -/
def resolve (environment bound : List Binding) : List Binding → List Binding
  | [] => bound
  | (name, value) :: later =>
    resolve environment ((name, value.map (expand (environment ++ bound))) :: bound) later

/-- One binding for each name, in the order in which the names occur first in the file, which is the
end of the list. The last binding of a name in the file counts. -/
def distinct (bound : List Binding) : List Binding :=
  (bound.reverse.map Prod.fst).eraseDups.map fun name => (name, (lookup? bound name).getD none)

/-- The bindings that a file of settings makes in an environment. -/
def read (environment : List Binding) (content : Text) : List Binding :=
  distinct (resolve environment [] (bindings (unifyLines (dropMark content))))

end ImportBinding.SettingsFile
