import Junction.Json.Token
import Junction.Json.Value

/-! # Reading a value

The tokens are taken one by one. The lists and records that are still open lie on a stack, the
innermost one on top, and what may come next is part of the state.
-/

namespace Junction.Json

/-- A list or record that is still open; what it holds is kept last one first. -/
inductive Frame where
  | list (items : List Value)
  /-- The fields so far, and the name of the one whose value is awaited. -/
  | record (fields : List (Option String × Value)) (name : Option String)

/-- What may come next. -/
inductive Await where
  /-- A value. -/
  | value
  /-- A value, or the end of the list just opened. -/
  | firstItem
  /-- A name, or the end of the record just opened. -/
  | firstName
  /-- A name, after the fields so far. -/
  | name (fields : List (Option String × Value))
  /-- The colon behind a name, after the fields so far. -/
  | colon (fields : List (Option String × Value)) (name : Option String)
  /-- What follows a complete value. -/
  | after (value : Value)

/-- The value of a token that is one by itself. -/
def Token.value? : Token → Option Value
  | .word .null => some .null
  | .word .yes => some (.bool true)
  | .word .no => some (.bool false)
  | .number n => some (.number n)
  | .text content => some (.text content)
  | .mark _ => none

/-- One token: the frames and what is awaited after it. -/
def step? (frames : List Frame) (await : Await) (token : Token) : Option (List Frame × Await) :=
  let start : Option (List Frame × Await) :=
    match token with
    | .mark .listStart => some (.list [] :: frames, .firstItem)
    | .mark .recordStart => some (frames, .firstName)
    | token => token.value?.map fun v => (frames, .after v)
  match await, token with
  | .firstItem, .mark .listEnd =>
    match frames with
    | .list _ :: outer => some (outer, .after (.list []))
    | _ => none
  | .value, _ => start
  | .firstItem, _ => start
  | .firstName, .mark .recordEnd => some (frames, .after (.record []))
  | .firstName, .text name => some (frames, .colon [] name)
  | .firstName, _ => none
  | .name fields, .text name => some (frames, .colon fields name)
  | .name _, _ => none
  | .colon fields name, .mark .colon => some (.record fields name :: frames, .value)
  | .colon _ _, _ => none
  | .after v, .mark m =>
    match frames, m with
    | .list items :: outer, .comma => some (.list (v :: items) :: outer, .value)
    | .list items :: outer, .listEnd => some (outer, .after (.list (v :: items).reverse))
    | .record fields name :: outer, .comma => some (outer, .name ((name, v) :: fields))
    | .record fields name :: outer, .recordEnd =>
      some (outer, .after (.record ((name, v) :: fields).reverse))
    | _, _ => none
  | .after _, _ => none

def ofTokens? (frames : List Frame) (await : Await) : List Token → Option Value
  | [] =>
    match frames, await with
    | [], .after v => some v
    | _, _ => none
  | token :: rest =>
    match step? frames await token with
    | some (frames, await) => ofTokens? frames await rest
    | none => none

def Value.ofString? (s : String) : Option Value := do
  ofTokens? [] .value (← Token.ofString? s)

end Junction.Json
