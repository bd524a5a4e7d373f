import Junction.Control.Settings.Basic

/-! # Settings from named texts

The texts are looked up by key, in a fixed order, and the first one that cannot be read decides the
answer. Numbers may stand between white space; the message about one shows the text as it was found.
-/

namespace Junction.Settings

/-- Where the text of a key is found. -/
abbrev Lookup := String → Option String

/-- What reading the settings gives so far. -/
abbrev Reading (α : Type) := Except SettingsFault α

/-- The value of a key that a reader of numbers understands. -/
def number? {α : Type} (find : Lookup) (key : String)
    (read : String → Except Text.NumberFault α) : Reading (Option α) :=
  match find key with
  | none => .ok none
  | some raw =>
    match read (Text.trim raw) with
    | .ok a => .ok (some a)
    | .error cause => .error (.unreadable key raw cause)

/-- The value of a key that a reader of names understands. -/
def named? {α : Type} (find : Lookup) (key : String)
    (read : String → Except UnknownName α) : Reading (Option α) :=
  match find key with
  | none => .ok none
  | some raw =>
    match read raw with
    | .ok a => .ok (some a)
    | .error cause => .error (.unknownName key cause)

def readMillis (s : String) : Except Text.NumberFault Duration :=
  (Text.readCount (2 ^ 64 - 1) s).map fun n => .ofMillis (UInt64.ofNat n)

/-- The route, of which both lanes or none must be given. -/
def route? (find : Lookup) : Reading (Option Route) :=
  match find "CROSSROADS_ENTRY", find "CROSSROADS_EXIT" with
  | some entry, some exit => .ok (some ⟨⟨Text.trim entry⟩, ⟨Text.trim exit⟩⟩)
  | none, none => .ok none
  | _, _ => .error .loneLane

/-- The settings under the given texts, before they are checked. -/
def readUnchecked (find : Lookup) : Reading Settings := do
  let id ← number? find "CROSSROADS_VEHICLE_ID" (Text.readCount 255)
  let protocol ← named? find "CROSSROADS_POLICY" Protocol.ofName
  let route ← route? find
  let minPeriod ← number? find "CROSSROADS_MIN_BEACON_MS" readMillis
  let maxPeriod ← number? find "CROSSROADS_MAX_BEACON_MS" readMillis
  let maxLost ← number? find "CROSSROADS_MAX_LOST_BEACONS" (Text.readCount (2 ^ 32 - 1))
  let minSafe ← number? find "CROSSROADS_MIN_SAFE_MS" readMillis
  let cycle ← number? find "CROSSROADS_CYCLE_MS" readMillis
  let crossing ← number? find "CROSSROADS_CROSSING_MS" readMillis
  let exitGrace ← number? find "CROSSROADS_EXIT_GRACE_MS" readMillis
  let distance ← number? find "CROSSROADS_DISTANCE_M" Text.readMeasure
  let maxSpeed ← number? find "CROSSROADS_MAX_SPEED" Text.readMeasure
  let precedence ← named? find "CROSSROADS_TIE_BREAK" Precedence.ofName
  let slots ← named? find "CROSSROADS_SLOT_SELECTION" SlotChoice.ofName
  .ok {
    id := (id.map fun n => ⟨UInt8.ofNat n⟩).getD standard.id
    protocol := protocol.getD standard.protocol
    route := route.getD standard.route
    minPeriod := minPeriod.getD standard.minPeriod
    maxPeriod := maxPeriod.getD standard.maxPeriod
    maxLost := (maxLost.map UInt32.ofNat).getD standard.maxLost
    minSafe := minSafe.getD standard.minSafe
    cycle := cycle.getD standard.cycle
    crossing := crossing.getD standard.crossing
    exitGrace := exitGrace.getD standard.exitGrace
    distance := distance.getD standard.distance
    maxSpeed := maxSpeed.getD standard.maxSpeed
    options := {
      precedence := precedence.getD standard.options.precedence
      slots := slots.getD standard.options.slots
    }
    topologyFile := find "CROSSROADS_TOPOLOGY"
  }

/-- The settings under the given texts, if they can be run. -/
def read (find : Lookup) : Reading Settings := do
  let settings ← readUnchecked find
  settings.validate
  .ok settings

end Junction.Settings
