import Junction.Json.Value

/-! # Writing a value

A value is written with one item or field on each line, indented by two blanks for each list or
record around it.
-/

namespace Junction.Json

def escape (c : Char) : List Char :=
  match c with
  | '"' => ['\\', '"']
  | '\\' => ['\\', '\\']
  | '\x08' => ['\\', 'b']
  | '\x0c' => ['\\', 'f']
  | '\n' => ['\\', 'n']
  | '\r' => ['\\', 'r']
  | '\t' => ['\\', 't']
  | c =>
    if c.toNat < 0x20 then
      ['\\', 'u', '0', '0'] ++ (if c.toNat < 0x10 then ['0'] else []) ++ Nat.toDigits 16 c.toNat
    else [c]

def quote (s : String) : String := String.ofList ('"' :: s.toList.flatMap escape ++ ['"'])

/-- A line break and the blanks before an item at some depth. -/
def newLine (depth : Nat) : String := "\n" ++ String.ofList (List.replicate (2 * depth) ' ')

mutual

/-- A value, with so many lists and records around it. -/
def Value.render (depth : Nat) : Value → String
  | .null => "null"
  | .bool true => "true"
  | .bool false => "false"
  | .number n => n.text
  | .text content => quote (content.getD "")
  | .list [] => "[]"
  | .list (v :: rest) =>
    "[" ++ newLine (depth + 1) ++ Value.render (depth + 1) v ++ renderItems (depth + 1) rest
      ++ newLine depth ++ "]"
  | .record [] => "\x7b\x7d"
  | .record ((name, v) :: rest) =>
    "\x7b" ++ newLine (depth + 1) ++ quote (name.getD "") ++ ": " ++ Value.render (depth + 1) v
      ++ renderFields (depth + 1) rest ++ newLine depth ++ "\x7d"

/-- The items of a list behind its first. -/
def renderItems (depth : Nat) : List Value → String
  | [] => ""
  | v :: rest => "," ++ newLine depth ++ Value.render depth v ++ renderItems depth rest

/-- The fields of a record behind its first. -/
def renderFields (depth : Nat) : List (Option String × Value) → String
  | [] => ""
  | (name, v) :: rest =>
    "," ++ newLine depth ++ quote (name.getD "") ++ ": " ++ Value.render depth v
      ++ renderFields depth rest

end

def Value.print (v : Value) : String := v.render 0

end Junction.Json
