import Junction.Random.Stream
import Junction.Simulation.Participant

/-! # Simulations

The vehicles of a simulation share one clock and one radio. In a step every vehicle has its turn,
in ascending order of identifiers: it acts, and then sends its beacon, if it is to send. The
controllers decide in the first step of every cycle. The clock moves between the steps. A run ends
when all vehicles are through or the horizon is passed.
-/

namespace Junction

/-- What all vehicles of a simulation share. -/
structure Air where
  random : Random.Stream
  /-- How many copies of beacons were sent. -/
  sent : Nat
  /-- How many of them were lost. -/
  lost : Nat

/-- A simulation. -/
structure Simulation where
  settings : SimulationSettings
  topology : Topology
  now : Timestamp
  /-- The vehicles, in ascending order of their identifiers. -/
  vehicles : List Participant
  air : Air

/-- Why a run has no result. -/
inductive RunFault where
  /-- The decision cycle has no whole millisecond, so no step can be told to be its first. -/
  | noCycle
  /-- The run did not end within the steps that were allowed. -/
  | unfinished
  deriving DecidableEq, Repr

namespace Air

/-- Send one copy of a beacon: whether it is lost. Without loss no chance is taken. -/
def copy (a : Air) (lossRate : Float) : Bool × Air :=
  let a := { a with sent := a.sent + 1 }
  if 0.0 < lossRate then
    let (lost, random) := a.random.chance lossRate
    (lost, { a with random, lost := if lost then a.lost + 1 else a.lost })
  else (false, a)

/-- Send a beacon to all vehicles but its sender, one after the other. -/
def deliver (lossRate : Float) (b : Beacon) (sender : VehicleId) (now : Timestamp) :
    List Participant → Air → List Participant × Air
  | [], a => ([], a)
  | p :: rest, a =>
    if p.id = sender then
      let (rest, a) := deliver lossRate b sender now rest a
      (p :: rest, a)
    else
      let (lost, a) := a.copy lossRate
      let (rest, a) := deliver lossRate b sender now rest a
      ((if lost then p else p.hear b now) :: rest, a)

end Air

namespace Simulation

/-- A simulation without vehicles. -/
def create (settings : SimulationSettings) (topology : Topology) :
    Except SettingsFault Simulation :=
  match settings.fault? with
  | some f => .error f
  | none =>
    .ok {
      settings
      topology
      now := .zero
      vehicles := []
      air := ⟨.ofSeed settings.seed, 0, 0⟩
    }

/-- The settings of a vehicle. -/
def clientOf (sim : Simulation) (script : Script) : Settings :=
  { sim.settings.client with id := script.id, route := script.route }

/-- Add a vehicle. Its identifier must be new, and its route must exist and must not turn back. -/
def addVehicle (sim : Simulation) (script : Script) : Except SettingsFault Simulation :=
  if Roster.contains Participant.id script.id sim.vehicles then
    .error (.duplicateVehicle script.id)
  else if !sim.topology.hasRoute script.route then
    .error (.foreignRoute script.route sim.topology.name)
  else
    match Controller.create (sim.clientOf script) sim.topology.conflicts with
    | .error f => .error f
    | .ok controller =>
      .ok { sim with
        vehicles := Roster.insert Participant.id (.parked script controller) sim.vehicles }

/-- Add vehicles one by one up to the first that is refused. Those before it stay. -/
def addScripts (sim : Simulation) : List Script → Simulation × Option SettingsFault
  | [] => (sim, none)
  | script :: rest =>
    match sim.addVehicle script with
    | .error f => (sim, some f)
    | .ok sim => sim.addScripts rest

def addScenario (sim : Simulation) (scenario : Scenario) : Simulation × Option SettingsFault :=
  sim.addScripts scenario.scripts

/-- Whether the controllers decide in this step: whether it is the first of its cycle. -/
def isDue (sim : Simulation) : Bool :=
  decide (sim.now.ms % sim.settings.client.cycle.ms < sim.settings.step.ms)

def modify (sim : Simulation) (v : VehicleId) (f : Participant → Participant) : Simulation :=
  { sim with vehicles := sim.vehicles.map fun p => if p.id = v then f p else p }

/-- Send the beacon of a vehicle to all others. -/
def broadcast (sim : Simulation) (p : Participant) (lossRate : Float) : Simulation :=
  let sim := sim.modify p.id fun p => { p with sent := p.sent + 1 }
  let (vehicles, air) := sim.air.deliver lossRate p.outgoing p.id sim.now sim.vehicles
  { sim with vehicles, air }

/-- Draw when a vehicle sends next. -/
def schedule (sim : Simulation) (v : VehicleId) : Simulation :=
  let client := sim.settings.client
  let (wait, random) := sim.air.random.uniform client.minPeriod.ms client.maxPeriod.ms
  let sim := { sim with air := { sim.air with random } }
  sim.modify v fun p => { p with nextBeacon := sim.now.advance wait }

/-- Let a vehicle that has set out send its beacon, if it is to send. -/
def transmit (sim : Simulation) (v : VehicleId) : Simulation :=
  match Roster.find? Participant.id v sim.vehicles with
  | none => sim
  | some p =>
    if !p.hasStarted then sim
    else
      match sim.settings.delivery with
      | .immediate => sim.broadcast p 0.0
      | .periodic lossRate =>
        if sim.now < p.nextBeacon then sim else (sim.schedule v).broadcast p lossRate

/-- The turn of one vehicle. -/
def turn (sim : Simulation) (v : VehicleId) : Simulation :=
  (sim.modify v fun p => p.act sim.settings sim.isDue sim.now).transmit v

/-- One step: every vehicle has its turn. -/
def step (sim : Simulation) : Simulation := (sim.vehicles.map Participant.id).foldl turn sim

def tickClock (sim : Simulation) : Simulation :=
  { sim with now := sim.now.advance sim.settings.step.ms }

def isOver (sim : Simulation) : Bool := sim.vehicles.all Participant.isDone

/-- Whether the horizon is passed. -/
def isLate (sim : Simulation) : Bool := decide (sim.settings.horizon.ms < sim.now.ms)

/-- Whether a step can be told to be the first of its cycle. -/
def hasCycle (sim : Simulation) : Bool := sim.settings.client.cycle.ms != 0

/-- Run for a number of steps at most. None if that was not enough. -/
def runWithin : Nat → Simulation → Option Simulation
  | 0, _ => none
  | n + 1, sim =>
    if sim.isLate then some sim
    else
      let sim := sim.step
      if sim.isOver then some sim else runWithin n sim.tickClock

/-- Run for a number of steps at most, if there is anything to run. -/
def run (sim : Simulation) (limit : Nat) : Except RunFault Simulation :=
  if !sim.isLate && !sim.hasCycle then .error .noCycle
  else
    match sim.runWithin limit with
    | some sim => .ok sim
    | none => .error .unfinished

end Simulation

end Junction
