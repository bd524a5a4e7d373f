import Junction.Json.Reader

/-! # What a value says

A decoder takes a value for one kind of thing, or refuses it. A record of known fields may come with
further fields, which do not count, but not with a known field twice; it may also come as the list
of its fields in their order.
-/

namespace Junction.Json

/-- A way to understand values. -/
abbrev Decoder (α : Type) := Value → Option α

namespace Decoder

def string : Decoder String
  | .text content => content
  | _ => none

def bool : Decoder Bool
  | .bool b => some b
  | _ => none

/-- A count of at most `greatest`. -/
def count (greatest : Nat) : Decoder Nat
  | .number n => n.toNat?.filter fun n => n ≤ greatest
  | _ => none

def word : Decoder UInt64 := fun v => (count (2 ^ 64 - 1) v).map UInt64.ofNat

def measure : Decoder Float
  | .number n => n.toFloat?
  | _ => none

def list {α : Type} (item : Decoder α) : Decoder (List α)
  | .list items => items.mapM item
  | _ => none

/-- Something that may be missing. -/
def nullable {α : Type} (item : Decoder α) : Decoder (Option α)
  | .null => some none
  | v => (item v).map some

/-- One of some names, alone or as the name of a field without a value. -/
def named {α : Type} (names : List (String × α)) : Decoder α
  | .text (some s) => names.lookup s
  | .record [(some s, .null)] => names.lookup s
  | _ => none

end Decoder

/-- The values of the fields of a record, by name. -/
abbrev Fields := String → Option Value

/-- Whether a name is given to several fields. -/
def isRepeated (fields : List (Option String × Value)) (name : String) : Bool :=
  1 < fields.countP fun field => field.1 = some name

/-- The fields of a record with the given names, of which the last `omissible` may be left out at
    the end of a list. -/
def fields? (names : List String) (omissible : Nat) : Decoder Fields
  | .record fields =>
    if fields.any (fun field => field.1.isNone) || names.any (isRepeated fields) then none
    else some fun name => fields.lookup (some name)
  | .list items =>
    if items.length ≤ names.length ∧ names.length ≤ items.length + omissible then
      some fun name => (names.zip items).lookup name
    else none
  | _ => none

namespace Fields

def get {α : Type} (f : Fields) (name : String) (item : Decoder α) : Option α := (f name).bind item

/-- A field that may be null or missing. -/
def getNullable {α : Type} (f : Fields) (name : String) (item : Decoder α) : Option (Option α) :=
  match f name with
  | none => some none
  | some v => Decoder.nullable item v

/-- A field that stands for something else where it is missing. -/
def getOr {α : Type} (f : Fields) (name : String) (item : Decoder α) (other : α) : Option α :=
  match f name with
  | none => some other
  | some v => item v

end Fields

end Junction.Json
