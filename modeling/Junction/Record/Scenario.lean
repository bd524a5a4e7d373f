import Junction.Record.Vehicle
import Junction.Simulation.Script

/-! # Records of scenarios

The written form of scripts, of scenarios, and of the ways in which beacons travel. The way is
tagged: one of its fields says which way is meant, and the others are kept until that is known, so
all of them have to make sense as values.
-/

namespace Junction.Record

open Json Decoder

/-- A script; its distance is the usual one where it is missing. -/
def script : Decoder Script := fun v => do
  let f ← fields? ["id", "route", "start_ms", "crossing_distance"] 1 v
  some {
    id := ← f.get "id" vehicleId
    route := ← f.get "route" route
    start := ← f.get "start_ms" timestamp
    distance := ← f.getOr "crossing_distance" measure usualDistance
  }

def scenario : Decoder Scenario := fun v => do
  let f ← fields? ["vehicles"] 0 v
  some ⟨← f.get "vehicles" (list script)⟩

def scenarioOfText? (text : String) : Option Scenario := (Value.ofString? text).bind scenario

mutual

/-- Whether a value makes sense by itself: no text holds half a character, no number is out of
    range, and no more than `depth` lists and records are nested. -/
def isSound (depth : Nat) : Value → Bool
  | .null | .bool _ => true
  | .number n => n.toFloat?.isSome
  | .text content => content.isSome
  | .list items => depth != 0 && areSoundItems (depth - 1) items
  | .record fields => depth != 0 && areSoundFields (depth - 1) fields

/-- Whether all items of a list make sense by themselves. -/
def areSoundItems (depth : Nat) : List Value → Bool
  | [] => true
  | v :: rest => isSound depth v && areSoundItems depth rest

/-- Whether all fields of a record make sense by themselves. -/
def areSoundFields (depth : Nat) : List (Option String × Value) → Bool
  | [] => true
  | (name, v) :: rest => name.isSome && isSound depth v && areSoundFields depth rest

end

/-- How deep the fields that are kept may be nested. -/
def keptDepth : Nat := 126

def delivery : Decoder Delivery
  | .record fields =>
    if !areSoundFields keptDepth fields || isRepeated fields "mode" then none
    else
      match fields.lookup (some "mode") with
      | some (.text (some "immediate")) => some .immediate
      | some (.text (some "periodic")) =>
        if isRepeated fields "loss_rate" then none
        else (fields.lookup (some "loss_rate")).bind fun v => (measure v).map .periodic
      | _ => none
  | .list [.text (some "immediate")] => some .immediate
  | .list [.text (some "periodic"), v] => (measure v).map .periodic
  | _ => none

end Junction.Record
