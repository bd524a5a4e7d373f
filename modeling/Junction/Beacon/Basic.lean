import Junction.Road.Lane
import Junction.Time.Timestamp
import Junction.Vehicle.Identity
import Junction.Vehicle.Status

/-! # Beacons

A beacon is what a vehicle tells its peers about itself: who it is, by which rule it takes its
turn, where it stands in its crossing episode, which way it goes, and, where the rule works with
time slots, when it enters and how long it stays.
-/

namespace Junction

/-- The rules by which vehicles take turns. Vehicles under different rules do not understand each
    other's beacons. -/
inductive Protocol where
  /-- One vehicle at a time. -/
  | serial
  /-- Vehicles whose routes do not conflict cross together. -/
  | parallel
  /-- Vehicles publish when they enter. -/
  | reservation
  deriving DecidableEq, Repr, Inhabited

namespace Protocol

def text : Protocol → String
  | serial => "serial"
  | parallel => "parallel"
  | reservation => "reservation"

instance : ToString Protocol := ⟨text⟩

end Protocol

/-- What a vehicle tells its peers. -/
structure Beacon where
  sender : VehicleId
  protocol : Protocol
  status : Status
  route : Route
  /-- How many beacons the sender sent before this one. -/
  sequence : UInt64
  /-- When the sender enters, if it has decided that. -/
  entryTime : Option Timestamp
  /-- How many milliseconds the sender stays inside, if it says so. -/
  crossingMs : Option UInt64
  deriving DecidableEq, Repr

namespace Beacon

/-- The beacon of a vehicle that has not asked to cross. -/
def idle (sender : VehicleId) (protocol : Protocol) (route : Route) : Beacon where
  sender
  protocol
  status := .idle
  route
  sequence := 0
  entryTime := none
  crossingMs := none

/-- When the sender will have left, if it published when it enters. -/
def exitTime (b : Beacon) : Option Timestamp :=
  b.entryTime.map fun t => t.plus (b.crossingMs.elim 0 UInt64.toNat)

def text (b : Beacon) : String :=
  let head := s!"{b.protocol} #{b.sequence.toNat} {b.sender} {b.status} via {b.route}"
  match b.entryTime with
  | some t => s!"{head} entry={t}"
  | none => head

instance : ToString Beacon := ⟨text⟩

end Beacon

end Junction
