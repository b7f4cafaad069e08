/-
This file lays out lists and objects.

A value stands on one line if it fits. Otherwise its members stand on lines of their own between
the brackets, further in, and each of them is laid out in the same way. The width that a member
needs includes the comma and the space behind it, even where none follows.
-/

import ImportBinding.Console.Flow
import ImportBinding.Value

namespace ImportBinding.Outline

/-- The spaces by which members are further in than their brackets. -/
def step : Nat := 4

/-- Where a member of a list or an object stands: its distance from the edge, the key in front of
it, whether it is a member at all, and whether another one follows. -/
structure Place where
  indent : Nat
  key : Text
  isMember : Bool
  isFollowed : Bool

namespace Place

/-- The place of a value that is no member of another. -/
def outermost : Place := ⟨0, [], false, false⟩

/-- A line up to the comma behind it. -/
def line (place : Place) (start content : Text) : Text :=
  Flow.spaces place.indent ++ start ++ content ++
    if place.isFollowed then text "," else []

/-- Whether a value fits on one line. -/
def fits (width : Nat) (place : Place) (value : Value) : Bool :=
  let behind := if place.isMember then 2 else 0
  place.indent + place.key.cells + value.shown.cells + behind ≤ width

/-- The place of a member of the value in a place. -/
def inside (place : Place) (key : Text) (isFollowed : Bool) : Place :=
  ⟨place.indent + step, key, true, isFollowed⟩

end Place

mutual

/-- The lines of a value in a place. -/
def lines (width : Nat) (place : Place) : Value → List Text
  | .list (item :: items) =>
    if place.fits width (.list (item :: items)) then
      [place.line place.key (Value.shown (.list (item :: items)))]
    else
      [Flow.spaces place.indent ++ place.key ++ text "["] ++
        itemLines width place (item :: items) ++ [place.line [] (text "]")]
  | .object (field :: fields) =>
    if place.fits width (.object (field :: fields)) then
      [place.line place.key (Value.shown (.object (field :: fields)))]
    else
      [Flow.spaces place.indent ++ place.key ++ text "\x7b"] ++
        fieldLines width place (field :: fields) ++ [place.line [] (text "\x7d")]
  | value => [place.line place.key value.shown]

/-- The lines of the items of a list in a place. -/
def itemLines (width : Nat) (place : Place) : List Value → List Text
  | [] => []
  | item :: items =>
    lines width (place.inside [] !items.isEmpty) item ++ itemLines width place items

/-- The lines of the fields of an object in a place. -/
def fieldLines (width : Nat) (place : Place) : List (Text × Value) → List Text
  | [] => []
  | (key, value) :: fields =>
    lines width (place.inside (key.quoted ++ text ": ") !fields.isEmpty) value ++
      fieldLines width place fields

end

end ImportBinding.Outline
