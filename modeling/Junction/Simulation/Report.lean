import Junction.Pairs
import Junction.Simulation.Basic

/-! # Reports

A report tells of every vehicle when it set out and when it was inside, and lists the pairs of
vehicles that were inside together although their routes conflict.
-/

namespace Junction

/-- What became of one vehicle. -/
structure VehicleReport where
  id : VehicleId
  route : Route
  startedAt : Option Timestamp
  crossing : Option Interval
  finished : Bool
  deriving DecidableEq, Repr

/-- Two vehicles on conflicting routes were inside together. -/
structure Violation where
  first : VehicleId
  second : VehicleId
  start : Timestamp
  stop : Timestamp
  deriving DecidableEq, Repr

/-- The result of a simulation. -/
structure Report where
  protocol : Protocol
  seed : UInt64
  elapsed : UInt64
  vehicles : List VehicleReport
  violations : List Violation
  sent : UInt64
  lost : UInt64
  deriving DecidableEq, Repr

namespace Interval

/-- When an interval ends, with the instant at which one without an end is cut. -/
def stopBy (i : Interval) (cut : Timestamp) : Timestamp := i.stop.getD cut

/-- From when to when two intervals hold together, those without an end being cut at an instant. -/
def overlap? (i j : Interval) (cut : Timestamp) : Option (Timestamp × Timestamp) :=
  let start := max i.start j.start
  let stop := if i.stopBy cut ≤ j.stopBy cut then i.stopBy cut else j.stopBy cut
  if start < stop then some (start, stop) else none

end Interval

namespace Report

def allFinished (r : Report) : Bool := r.vehicles.all VehicleReport.finished

/-- Whether no two vehicles were inside together that should not have been. -/
def isSafe (r : Report) : Bool := r.violations.isEmpty

end Report

namespace Participant

/-- What became of a vehicle. -/
def report (p : Participant) : VehicleReport where
  id := p.id
  route := p.script.route
  startedAt := p.startedAt
  crossing := p.crossing
  finished := p.isDone

/-- Whether two vehicles were inside together although their routes conflict. -/
def violation? (topology : Topology) (cut : Timestamp) (p q : Participant) : Option Violation := do
  let i ← p.crossing
  let j ← q.crossing
  if !topology.conflicts p.script.route q.script.route then none
  let (start, stop) ← i.overlap? j cut
  some ⟨p.id, q.id, start, stop⟩

end Participant

namespace Simulation

/-- The pairs of vehicles that were inside together although their routes conflict. -/
def violations (sim : Simulation) : List Violation :=
  (pairsInOrder sim.vehicles).filterMap fun (p, q) =>
    p.violation? sim.topology (sim.now.advance 1) q

/-- The report on a simulation as it stands. -/
def report (sim : Simulation) : Report where
  protocol := sim.settings.client.protocol
  seed := sim.settings.seed
  elapsed := UInt64.ofNat sim.now.ms
  vehicles := sim.vehicles.map Participant.report
  violations := sim.violations
  sent := UInt64.ofNat sim.air.sent
  lost := UInt64.ofNat sim.air.lost

end Simulation

end Junction
