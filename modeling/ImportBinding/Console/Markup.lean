/-
This file escapes text so that markup leaves it alone, and renders markup.

A tag stands in brackets and starts with a lower case letter, a hash, a slash or an at sign.
An odd number of backslashes before it makes it plain text; of the others every second one
shows. Anywhere else a backslash before an opening bracket is dropped, which escaping does not
make up for. Nor does it keep codes of emoji from being replaced.

A tag names a style, perhaps with a value behind an equals sign. One whose name starts with a
slash closes the tag of the same style that was opened last, and the slash alone closes the last
tag of all.
-/

import ImportBinding.Console.Emoji
import ImportBinding.Console.Style
import ImportBinding.Failure

namespace ImportBinding.Markup

/-! ### Stretches of markup -/

/-- A stretch of markup: plain text, or a tag with the number of backslashes before it. -/
inductive Stretch where
  | plain (content : Text)
  | tag (backslashes : Nat) (content : Text)

/-- A code point that a tag may start with. -/
def isTagStart (point : CodePoint) : Bool :=
  (0x61 ≤ point.toNat && point.toNat ≤ 0x7A) || point = '#' || point = '/' || point = '@'

/-- The length of the tag at the front of a text. There is no opening bracket inside. -/
def tagSize : Text → Nat
  | bracket :: start :: rest =>
    if bracket = '[' ∧ isTagStart start then
      let inside := rest.takeWhile fun point : CodePoint => point ≠ '[' && point ≠ ']'
      if (rest.drop inside.length).head? = some (CodePoint.ofChar ']') then inside.length + 3 else 0
    else 0
  | _ => 0

/-- The number of backslashes at the front of a text. -/
def backslashes (content : Text) : Nat :=
  (content.takeWhile fun point : CodePoint => point = '\\').length

/-- A code point in front of stretches. -/
def consPlain (point : CodePoint) : List Stretch → List Stretch
  | .plain content :: later => .plain (point :: content) :: later
  | stretches => .plain [point] :: stretches

/-- The stretches of a text. Backslashes that no tag follows are taken together. -/
def stretches (content : Text) : List Stretch :=
  let count := backslashes content
  let size := tagSize (content.drop count)
  if size ≠ 0 then
    .tag count ((content.drop count).take size) :: stretches (content.drop (count + size))
  else if content = [] then []
  else (content.take (max count 1)).foldr consPlain (stretches (content.drop (max count 1)))
termination_by content.length
decreasing_by
  · rename_i sized
    have positive : tagSize (content.drop (backslashes content)) ≠ 0 := sized
    have nonempty : content.length ≠ 0 := by
      intro none
      rw [List.length_eq_zero_iff] at none
      subst none
      exact sized rfl
    simp only [List.length_drop]
    omega
  · rename_i nonempty
    have positive : content.length ≠ 0 := fun none => nonempty (List.length_eq_zero_iff.mp none)
    simp only [List.length_drop]
    omega

/-! ### Escaping and rendering -/

/-- The text as markup that renders to it, but for backslashes before opening brackets. A single
backslash at the end is doubled. -/
def escape (content : Text) : Text :=
  let escaped := (stretches content).flatMap fun stretch => match stretch with
    | .plain content => content
    | .tag count tag => List.replicate (2 * count + 1) (CodePoint.ofChar '\\') ++ tag
  if backslashes escaped.reverse = 1 then escaped ++ text "\\" else escaped

/-- Plain text of markup without the backslashes before opening brackets. -/
def dropEscapes : Text → Text
  | first :: second :: rest =>
    if first = '\\' ∧ second = '[' then second :: dropEscapes rest
    else first :: dropEscapes (second :: rest)
  | short => short

/-- What a stretch of markup shows. Tags change how text looks and are not shown. -/
def Stretch.shown : Stretch → Text
  | .plain content => Emoji.replace (dropEscapes content)
  | .tag count content =>
    List.replicate (count / 2) (CodePoint.ofChar '\\') ++
      if count % 2 = 1 then Emoji.replace content else []

/-- The text that markup shows. -/
def render (content : Text) : Text := (stretches content).flatMap Stretch.shown

/-- The controls that are never shown: bell, backspace, vertical tab, form feed and carriage
return. -/
def isDropped (point : CodePoint) : Bool := point.toNat ∈ [0x07, 0x08, 0x0B, 0x0C, 0x0D]

/-- The text that markup shows, without the controls that are never shown. -/
def shown (content : Text) : Text := (render content).filter fun point => !isDropped point

/-! ### Tags -/

/-- The name of a tag. -/
def tagName (tag : Text) : Text :=
  (tag.drop 1).dropLast.takeWhile fun point : CodePoint => point ≠ '='

/-- The styles of the open tags after a tag, if they are given from the last one on. -/
def follow (opened : List Text) (tag : Text) (position : Nat) : Except Failure (List Text) :=
  let name := tagName tag
  if name.head? = some (CodePoint.ofChar '/') then
    let closed := Text.trim (name.drop 1)
    if closed = [] then
      if opened = [] then throw (.nothingToClose position) else return opened.drop 1
    else
      let style := Style.normalName closed
      if opened.contains style then return opened.erase style
      else throw (.unmatchedTag tag position)
  else return Style.normalName name :: opened

/-- Checks the tags of stretches from a position on. -/
def checkFrom (opened : List Text) (position : Nat) : List Stretch → Except Failure Unit
  | [] => return ()
  | .plain content :: later => checkFrom opened (position + content.length) later
  | .tag count tag :: later => do
    let opened ← if count % 2 = 1 then pure opened else follow opened tag (position + count)
    checkFrom opened (position + count + tag.length) later

/-- Checks that each closing tag of markup closes a tag. -/
def check (content : Text) : Except Failure Unit := checkFrom [] 0 (stretches content)

end ImportBinding.Markup
