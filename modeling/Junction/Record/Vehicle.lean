import Junction.Beacon.Basic
import Junction.Control.Event
import Junction.Json.Decode

/-! # Records of vehicles and beacons

The written form of the things that a beacon is made of.
-/

namespace Junction.Record

open Json Decoder

def lane : Decoder Lane := fun v => (string v).map Lane.mk

def route : Decoder Route := fun v => do
  let f ← fields? ["entry", "exit"] 0 v
  some ⟨← f.get "entry" lane, ← f.get "exit" lane⟩

def vehicleId : Decoder VehicleId := fun v => (count 255 v).map fun n => ⟨UInt8.ofNat n⟩

def timestamp : Decoder Timestamp := fun v => (count (2 ^ 64 - 1) v).map Timestamp.wrapping

def status : Decoder Status :=
  named [("Idle", .idle), ("Requesting", .requesting), ("Crossing", .crossing), ("Exiting", .exiting)]

def protocol : Decoder Protocol :=
  named [("Serial", .serial), ("Parallel", .parallel), ("Reservation", .reservation)]

def protocolName : Protocol → String
  | .serial => "Serial"
  | .parallel => "Parallel"
  | .reservation => "Reservation"

/-- An event has the name that messages use. -/
def event : Decoder Event :=
  named ([Event.approaching, .entering, .exiting, .error].map fun e => (e.text, e))

def beacon : Decoder Beacon := fun v => do
  let f ← fields?
    ["sender", "protocol", "status", "route", "sequence", "entry_time", "crossing_duration_ms"] 0 v
  some {
    sender := ← f.get "sender" vehicleId
    protocol := ← f.get "protocol" protocol
    status := ← f.get "status" status
    route := ← f.get "route" route
    sequence := ← f.get "sequence" word
    entryTime := ← f.getNullable "entry_time" timestamp
    crossingMs := ← f.getNullable "crossing_duration_ms" word
  }

def ofLane (l : Lane) : Value := .ofString l.name

def ofRoute (r : Route) : Value := .ofFields [("entry", ofLane r.entry), ("exit", ofLane r.exit)]

def ofTimestamp (t : Timestamp) : Value := .ofNat t.ms

/-- Something that may be missing, in writing. -/
def ofOption {α : Type} (item : α → Value) : Option α → Value
  | none => .null
  | some a => item a

end Junction.Record
