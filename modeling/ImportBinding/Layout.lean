/-
This file says what may stand between the tokens of a program: white space and comments.

Scanning goes by units. A unit is a stretch of text that is taken whole, such as one blank or
one comment, and a run of units is taken for as long as there is a next one. Nothing is lost:
the units and the rest make up the text.
-/

import ImportBinding.Text.Basic

namespace ImportBinding

/-! ### Runs of units -/

namespace Text

/-- The units at the front of a text, and what follows them. `size` gives the length of the unit
at the front of a text, and zero if there is none. -/
def units (size : Text → Nat) (content : Text) : List Text × Text :=
  if size content = 0 ∨ content = [] then ([], content)
  else
    let (later, rest) := units size (content.drop (size content))
    (content.take (size content) :: later, rest)
termination_by content.length
decreasing_by
  rename_i going
  have nonempty : content.length ≠ 0 := fun none => going (Or.inr (List.length_eq_zero_iff.mp none))
  have positive : size content ≠ 0 := fun none => going (Or.inl none)
  simp only [List.length_drop]
  omega

/-- The units and the rest make up the text. -/
theorem units_flatten (size : Text → Nat) (content : Text) :
    (content.units size).1.flatten ++ (content.units size).2 = content := by
  fun_induction units size content with
  | case1 content _ => rfl
  | case2 content _ later rest split ih =>
    rw [split] at ih
    simp only [List.flatten_cons, List.append_assoc, ih, List.take_append_drop]

/-- What follows a run of units is no longer than the text. -/
theorem units_length_le (size : Text → Nat) (content : Text) :
    (content.units size).2.length ≤ content.length := by
  have whole := congrArg List.length (units_flatten size content)
  rw [List.length_append] at whole
  omega

end Text

/-! ### White space and comments -/

namespace CodePoint

/-- The four code points that end a line, and with it a comment that started with two slashes. -/
def isLineEnd (point : CodePoint) : Bool :=
  point.toNat = 0x0A || point.toNat = 0x0D || point.toNat = 0x2028 || point.toNat = 0x2029

/-- White space between tokens. -/
def isSpace (point : CodePoint) : Bool :=
  let number := point.toNat
  number = 0x20 || (0x09 ≤ number && number ≤ 0x0D) || number = 0xA0 || number = 0x1680 ||
    (0x2000 ≤ number && number ≤ 0x200B) || number = 0x2028 || number = 0x2029 ||
    number = 0x202F || number = 0x205F || number = 0x2060 || number = 0x3000 || number = 0xFEFF

end CodePoint

/-- The length of a block comment whose opening mark has been taken, its closing mark included. -/
def blockRest : Text → Option Nat
  | star :: slash :: rest =>
    if star = '*' ∧ slash = '/' then some 2 else (blockRest (slash :: rest)).map (· + 1)
  | _ => none

/-- The length of the white space or comment at the front of a text. A block comment that is
never closed is none. -/
def layoutSize : Text → Nat
  | [] => 0
  | point :: rest =>
    if point.isSpace then 1
    else if point = '/' then
      match rest with
      | [] => 0
      | mark :: content =>
        if mark = '/' then 2 + (content.takeWhile fun next => !next.isLineEnd).length
        else if mark = '*' then ((blockRest content).map (· + 2)).getD 0
        else 0
    else 0

/-- Whether a new line begins behind a unit of layout, or inside of it: there is a line feed in it,
or it is one of the two separators. A carriage return on its own begins none. -/
def breaksLine (unit : Text) : Bool :=
  unit.any (fun point => point.toNat = 0x0A) ||
    unit.map CodePoint.toNat ∈ [[0x2028], [0x2029]]

end ImportBinding
