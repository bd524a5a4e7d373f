import Junction.Json.Numeral

/-! # Values

A value is what a text of nested lists and named fields amounts to. Numbers keep their digits, and
fields keep their order and may repeat: what is acceptable is for the reader of a certain kind of
record to say. A text with an escape that stands for half a character has no content, but is a
value where nobody looks at it.
-/

namespace Junction.Json

/-- A value. -/
inductive Value where
  | null
  | bool (b : Bool)
  | number (n : Numeral)
  /-- A text, and what it says, if it says anything. -/
  | text (content : Option String)
  | list (items : List Value)
  /-- Names and values; a name has no content if it holds half a character. -/
  | record (fields : List (Option String × Value))

namespace Value

def ofString (s : String) : Value := .text (some s)

def ofNat (n : Nat) : Value := .number (.ofNat n)

/-- The value of fields that are all named. -/
def ofFields (fields : List (String × Value)) : Value :=
  .record (fields.map fun (name, v) => (some name, v))

end Value

end Junction.Json
