/-
This file holds the values that a caller may hand in where a statement, a name or a language
is expected, and says how a value is shown in a message.

Only texts are statements and names. The other values have to be kept all the same, because an
error names exactly the value that was given.
-/

import ImportBinding.Decimal.Shortest
import ImportBinding.Text.Quoted

namespace ImportBinding

/-- A value of a data format: nothing, a truth value, a number, a text, a list or an object with
its fields in order. A floating-point number is given by the bits of a double. -/
inductive Value where
  | null
  | bool (value : Bool)
  | int (value : Int)
  | float (bits : UInt64)
  | text (content : Text)
  | list (items : List Value)
  | object (fields : List (Text × Value))

namespace Value

instance : Inhabited Value := ⟨null⟩

/-! ### Display -/

mutual

/-- A value as it is shown in a message. -/
def shown : Value → Text
  | null => ImportBinding.text "None"
  | bool true => ImportBinding.text "True"
  | bool false => ImportBinding.text "False"
  | int value => Text.ofInt value
  | float bits => Decimal.ofBits bits
  | text content => content.quoted
  | list items =>
    ImportBinding.text "[" ++ Text.join (ImportBinding.text ", ") (shownItems items) ++
      ImportBinding.text "]"
  | object fields =>
    ImportBinding.text "\x7b" ++ Text.join (ImportBinding.text ", ") (shownFields fields) ++
      ImportBinding.text "\x7d"

/-- The items of a list as they are shown. -/
def shownItems : List Value → List Text
  | [] => []
  | item :: items => item.shown :: shownItems items

/-- The fields of an object as they are shown. -/
def shownFields : List (Text × Value) → List Text
  | [] => []
  | (key, value) :: fields =>
    (key.quoted ++ ImportBinding.text ": " ++ value.shown) :: shownFields fields

end

/-- A value as it is printed: a text stands for itself and all else is shown. -/
def printed : Value → Text
  | text content => content
  | value => value.shown

/-! ### Given and left out -/

/-- Whether a value counts as given. Nothing, `false`, zero and what is empty count as left out. -/
def isGiven : Value → Bool
  | null => false
  | bool value => value
  | int value => value != 0
  | float bits => bits != 0 && bits != 0x8000000000000000
  | text content => !content.isEmpty
  | list items => !items.isEmpty
  | object fields => !fields.isEmpty

end Value

end ImportBinding
