/-!
# JSON values

The values that a JSON text can describe. Numbers carry no value, because nothing that is read
from a JSON text here is a number. A string whose escapes leave a surrogate without its partner is
no text; such strings do no harm where they are ignored.
-/

namespace OrderedChoice

/-- **JSON value.** -/
inductive Json where
  | null
  | bool (value : Bool)
  | number
  /-- A string, if it is a text. -/
  | string (text : Option String)
  | array (items : List Json)
  /-- The members of an object in the order of the text; names may be repeated. -/
  | object (members : List (Option String × Json))

namespace Json

/-- The text of a string. -/
def text? : Json → Option String
  | .string text => text
  | _ => none

/-- The items of an array. -/
def items? : Json → Option (List Json)
  | .array items => some items
  | _ => none

/-- A list of values of one kind. -/
def listOf? {α : Type} (decode : Json → Option α) (value : Json) : Option (List α) := do
  (← value.items?).mapM decode

/-- A value of one kind, or null. -/
def optional? {α : Type} (decode : Json → Option α) : Json → Option (Option α)
  | .null => some none
  | value => (decode value).map some

end Json

end OrderedChoice
