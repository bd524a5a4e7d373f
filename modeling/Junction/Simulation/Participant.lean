import Junction.Control.Controller
import Junction.Simulation.Script

/-! # The vehicles of a simulation

A vehicle of a simulation follows its script: it passes the approach mark when its time has come,
drives towards the entrance as fast as its controller lets it, goes on into the crossing if it is
not held, and passes the exit mark at the end of its way. The simulation plays the detector, and
keeps from when to when the vehicle had access.
-/

namespace Junction

/-- Where a vehicle of a simulation is. -/
inductive Stage where
  /-- Has not set out. -/
  | parked
  /-- On its way to the entrance; metres that are left. -/
  | approaching (remaining : Float)
  /-- Past the entrance; metres that are done. -/
  | inside (crossed : Float)
  /-- Past the exit mark. -/
  | done

/-- From when to when a vehicle was inside; without an end while it still is. -/
structure Interval where
  start : Timestamp
  stop : Option Timestamp
  deriving DecidableEq, Repr

/-- A vehicle of a simulation. -/
structure Participant where
  script : Script
  controller : Controller
  stage : Stage
  /-- How many beacons the vehicle has sent. -/
  sent : UInt64
  /-- When the vehicle sends next, where it sends periodically. -/
  nextBeacon : Timestamp
  startedAt : Option Timestamp
  crossing : Option Interval

namespace Participant

def parked (script : Script) (controller : Controller) : Participant where
  script
  controller
  stage := .parked
  sent := 0
  nextBeacon := .zero
  startedAt := none
  crossing := none

def id (p : Participant) : VehicleId := p.script.id

def hasStarted (p : Participant) : Bool := p.startedAt.isSome

/-- Whether the vehicle is through. -/
def isDone (p : Participant) : Bool :=
  match p.stage with
  | .done => true
  | _ => false

/-- How far the vehicle goes in some seconds. -/
def reach (p : Participant) (seconds : Float) : Float :=
  let motion := p.controller.drive.motion
  if motion.isMoving then motion.maxSpeed * seconds else 0.0

/-- The detector reports something. -/
def detect (p : Participant) (event : Event) (now : Timestamp) : Participant :=
  { p with controller := (p.controller.onEvent event now).1 }

/-- Drive a distance towards the entrance, with `remaining` metres to go. -/
def approach (p : Participant) (remaining metres : Float) (now : Timestamp) : Participant :=
  let p := { p with controller := p.controller.onProgress metres }
  let left := remaining - metres
  if left ≤ 0.0 then { p with stage := .inside (-left) }.detect .entering now
  else { p with stage := .approaching left }

/-- Drive a distance inside, with `crossed` metres done. -/
def cross (p : Participant) (crossed metres : Float) (now : Timestamp) : Participant :=
  let crossed := crossed + metres
  if p.script.distance ≤ crossed then
    let p := { p with stage := .done }.detect .exiting now
    { p with crossing := p.crossing.map fun i => { i with stop := some now } }
  else { p with stage := .inside crossed }

def move (p : Participant) (metres : Float) (now : Timestamp) : Participant :=
  if 0.0 < metres then
    match p.stage with
    | .approaching remaining => p.approach remaining metres now
    | .inside crossed => p.cross crossed metres now
    | .parked | .done => p
  else p

/-- Set out when the time has come, with a distance to go to the entrance. -/
def start (p : Participant) (distance : Float) (now : Timestamp) : Participant :=
  match p.stage with
  | .parked =>
    if p.script.start ≤ now then
      { p with stage := .approaching distance, startedAt := some now }.detect .approaching now
    else p
  | _ => p

/-- Let the controller decide, if it is time to. -/
def consult (p : Participant) (due : Bool) (now : Timestamp) : Participant :=
  if due then { p with controller := (p.controller.tick now).1 } else p

/-- Keep when the vehicle first had access. -/
def mark (p : Participant) (now : Timestamp) : Participant :=
  if p.crossing.isNone && p.controller.status == .crossing then
    { p with crossing := some ⟨now, none⟩ }
  else p

/-- All that a vehicle does at its turn: drive, set out, decide. -/
def act (p : Participant) (settings : SimulationSettings) (due : Bool) (now : Timestamp) :
    Participant :=
  let p := p.move (p.reach settings.step.toSeconds) now
  ((p.start settings.client.distance now).consult due now).mark now

/-- The beacon that the vehicle sends now. -/
def outgoing (p : Participant) : Beacon := { p.controller.beacon with sequence := p.sent }

def hear (p : Participant) (b : Beacon) (now : Timestamp) : Participant :=
  { p with controller := (p.controller.onBeacon b now).1 }

end Participant

end Junction
