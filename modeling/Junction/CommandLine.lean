import Junction.Control.Settings.Reading
import Junction.Fault
import Junction.Json.Printer
import Junction.Record.Report
import Junction.Record.Scenario
import Junction.Record.Topology

/-! # The command line

One simulation is run under settings that are found by name, and its report is printed. The files
that the settings name are handed in as a function, so a run is a value like any other.
-/

namespace Junction

/-- The text of a file, or why it cannot be read. -/
abbrev Files := String → Except String String

/-- The topology that the settings name, which must have the route. -/
def Settings.topology (s : Settings) (files : Files) : Except Fault Topology := do
  let topology ←
    match s.topologyFile with
    | none => .ok Topology.fourWay
    | some path =>
      match files path with
      | .error reason => .error (.topology (.unreadableFile reason))
      | .ok text => (Record.topologyOfText text).mapError Fault.topology
  if topology.hasRoute s.route then .ok topology
  else .error (.settings (.foreignRoute s.route topology.name))

namespace CommandLine

/-- Why there is no report. -/
inductive Failure where
  | fault (cause : Fault)
  | run (cause : RunFault)

def Failure.message : Failure → String
  | fault cause => cause.message
  | run .noCycle => "cycle time below one millisecond"
  | run .unfinished => "simulation does not end"

/-- How many steps a simulation may take: more than anybody will wait for. -/
def stepLimit : Nat := 2 ^ 62

/-- A number that is read without regard to white space around it. -/
def exactNumber? {α : Type} (find : Settings.Lookup) (key : String)
    (read : String → Except Text.NumberFault α) : Except Fault (Option α) :=
  match find key with
  | none => .ok none
  | some raw =>
    match read raw with
    | .ok a => .ok (some a)
    | .error cause => .error (.settings (.unreadable key raw cause))

def scenarioIn (files : Files) (path : String) : Except Fault Scenario :=
  match files path with
  | .error reason => .error (.unreadableFile reason)
  | .ok text =>
    match Record.scenarioOfText? text with
    | some scenario => .ok scenario
    | none => .error .malformedScenario

/-- The simulation that the settings describe, with its vehicles. -/
def prepare (find : Settings.Lookup) (files : Files) : Except Fault Simulation := do
  let client ← (Settings.read find).mapError Fault.settings
  let topology ← client.topology files
  let seed ← exactNumber? find "CROSSROADS_SIM_SEED" (Text.readCount (2 ^ 64 - 1))
  let loss ← exactNumber? find "CROSSROADS_SIM_LOSS" Text.readMeasure
  let scenario ←
    match find "CROSSROADS_SIM_SCENARIO" with
    | some path => scenarioIn files path
    | none => .ok .rush
  let usual := SimulationSettings.standard client
  let settings := { usual with
    seed := (seed.map UInt64.ofNat).getD usual.seed
    delivery := loss.elim usual.delivery .periodic }
  let sim ← (Simulation.create settings topology).mapError Fault.settings
  match sim.addScenario scenario with
  | (sim, none) => .ok sim
  | (_, some f) => .error (.settings f)

/-- The report on the simulation that the settings describe. -/
def run (find : Settings.Lookup) (files : Files) : Except Failure Report :=
  match prepare find files with
  | .error f => .error (.fault f)
  | .ok sim =>
    match sim.run stepLimit with
    | .error f => .error (.run f)
    | .ok sim => .ok sim.report

def print (r : Report) : String := (Record.ofReport r).print

/-- The keys that a run looks up. -/
def keys : List String := [
  "CROSSROADS_VEHICLE_ID", "CROSSROADS_POLICY", "CROSSROADS_ENTRY", "CROSSROADS_EXIT",
  "CROSSROADS_MIN_BEACON_MS", "CROSSROADS_MAX_BEACON_MS", "CROSSROADS_MAX_LOST_BEACONS",
  "CROSSROADS_MIN_SAFE_MS", "CROSSROADS_CYCLE_MS", "CROSSROADS_CROSSING_MS",
  "CROSSROADS_EXIT_GRACE_MS", "CROSSROADS_DISTANCE_M", "CROSSROADS_MAX_SPEED",
  "CROSSROADS_TIE_BREAK", "CROSSROADS_SLOT_SELECTION", "CROSSROADS_TOPOLOGY",
  "CROSSROADS_SIM_SEED", "CROSSROADS_SIM_LOSS", "CROSSROADS_SIM_SCENARIO"]

/-- The keys whose texts are names of files. -/
def fileKeys : List String := ["CROSSROADS_TOPOLOGY", "CROSSROADS_SIM_SCENARIO"]

end CommandLine

end Junction
