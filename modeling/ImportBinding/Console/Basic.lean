/-
This file prints to a console, which reads what it prints as markup.

Errors are printed without wrapping, so that a marker stays above its place. On a terminal
without UTF-8 glyphs are replaced before the markup is read.
-/

import ImportBinding.Console.Outline
import ImportBinding.Console.Table
import ImportBinding.Terminal.Glyph

namespace ImportBinding.Console

/-- What a console shows of markup. -/
def shown (utf8 : Bool) (markup : Text) : Text := Markup.shown (markup.sanitize utf8)

/-- Markup printed without wrapping. -/
def printWhole (utf8 : Bool) (markup : Text) : Text :=
  Flow.expandAllTabs (shown utf8 markup) ++ text "\n"

/-- Markup printed in lines that fit the console. -/
def printWrapped (utf8 : Bool) (markup : Text) : Text :=
  Text.join (text "\n") (Flow.wrap true Table.consoleWidth (shown utf8 markup)) ++ text "\n"

/-- The message of an error after its label. -/
def errorLine (utf8 : Bool) (message : Text) : Text :=
  printWhole utf8 (text "[bold red]Error:[/bold red] " ++ Markup.escape message)

/-! ### Values -/

/-- A value as part of a line, if it is printed as one. Only texts are markup, and lists and objects
stand on lines of their own. -/
def partOf? (utf8 : Bool) : Value → Option Text
  | .text content => some (shown utf8 content)
  | .list _ | .object _ => none
  | value => some value.printed

/-- The line of some parts, if there are any. -/
def lineOf (parts : List Text) : List Text :=
  if parts = [] then [] else [Flow.expandAllTabs (Text.join (text " ") parts)]

/-- The lines for values, of which some parts have been put on a line already. -/
def linesFrom (utf8 : Bool) (width : Nat) (parts : List Text) : List Value → List Text
  | [] => lineOf parts
  | value :: later =>
    match partOf? utf8 value with
    | some part => linesFrom utf8 width (parts ++ [part]) later
    | none =>
      lineOf parts ++ Outline.lines width .outermost value ++ linesFrom utf8 width [] later

/-- Checks the tags of a value that is markup. -/
def checkTags (utf8 : Bool) : Value → Except Failure Unit
  | .text content => Markup.check (content.sanitize utf8)
  | _ => return ()

/-- Values printed on a line, or on several where there are lists and objects among them. -/
def print (utf8 : Bool) (width : Nat) (values : List Value) : Except Failure Text := do
  values.forM (checkTags utf8)
  match values with
  | [] => return text "\n"
  | _ => return (linesFrom utf8 width [] values).flatMap (· ++ text "\n")

/-! ### Tables -/

/-- The box that is drawn on a terminal with an encoding. Only with UTF-8 it is a heavy one, and only
with encodings of Unicode it has lines at all. -/
def boxFor (encoding : Text) : Table.Box :=
  if isUtf8 encoding then Table.heavyBox
  else if (text "utf").isPrefixOf encoding then Table.squareBox
  else Table.plainBox

/-- The table of fields and values. What is in the table is not sanitized. -/
def table (encoding title : Text) (rows : List (Text × Text)) : Text :=
  Table.draw (boxFor encoding) title
    (rows.map fun (field, value) => (field, Markup.shown (Markup.escape value)))

end ImportBinding.Console
