import Junction.Record.Vehicle
import Junction.Simulation.Report

/-! # Records of reports

The written form of the result of a simulation, in both directions.
-/

namespace Junction.Record

open Json Decoder

def interval : Decoder Interval := fun v => do
  let f ← fields? ["start", "end"] 0 v
  some ⟨← f.get "start" timestamp, ← f.getNullable "end" timestamp⟩

def vehicleReport : Decoder VehicleReport := fun v => do
  let f ← fields? ["id", "route", "started_at", "crossing", "finished"] 0 v
  some {
    id := ← f.get "id" vehicleId
    route := ← f.get "route" route
    startedAt := ← f.getNullable "started_at" timestamp
    crossing := ← f.getNullable "crossing" interval
    finished := ← f.get "finished" bool
  }

def violation : Decoder Violation := fun v => do
  let f ← fields? ["first", "second", "from", "until"] 0 v
  some {
    first := ← f.get "first" vehicleId
    second := ← f.get "second" vehicleId
    start := ← f.get "from" timestamp
    stop := ← f.get "until" timestamp
  }

def report : Decoder Report := fun v => do
  let f ← fields?
    ["policy", "seed", "elapsed_ms", "vehicles", "violations", "beacons_sent", "beacons_lost"] 0 v
  some {
    protocol := ← f.get "policy" protocol
    seed := ← f.get "seed" word
    elapsed := ← f.get "elapsed_ms" word
    vehicles := ← f.get "vehicles" (list vehicleReport)
    violations := ← f.get "violations" (list violation)
    sent := ← f.get "beacons_sent" word
    lost := ← f.get "beacons_lost" word
  }

def ofInterval (i : Interval) : Value :=
  .ofFields [("start", ofTimestamp i.start), ("end", ofOption ofTimestamp i.stop)]

/-- What became of a vehicle, in writing. -/
def ofVehicleReport (r : VehicleReport) : Value :=
  .ofFields [
    ("id", .ofNat r.id.toNat),
    ("route", ofRoute r.route),
    ("started_at", ofOption ofTimestamp r.startedAt),
    ("crossing", ofOption ofInterval r.crossing),
    ("finished", .bool r.finished)]

def ofViolation (x : Violation) : Value :=
  .ofFields [
    ("first", .ofNat x.first.toNat),
    ("second", .ofNat x.second.toNat),
    ("from", ofTimestamp x.start),
    ("until", ofTimestamp x.stop)]

def ofReport (r : Report) : Value :=
  .ofFields [
    ("policy", .ofString (protocolName r.protocol)),
    ("seed", .ofNat r.seed.toNat),
    ("elapsed_ms", .ofNat r.elapsed.toNat),
    ("vehicles", .list (r.vehicles.map ofVehicleReport)),
    ("violations", .list (r.violations.map ofViolation)),
    ("beacons_sent", .ofNat r.sent.toNat),
    ("beacons_lost", .ofNat r.lost.toNat)]

end Junction.Record
