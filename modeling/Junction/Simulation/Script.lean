import Junction.Control.Settings.Basic

/-! # Scripts

A script says of one vehicle when it sets out, which way it goes, and how long its way through the
crossing is. A scenario is a list of scripts.
-/

namespace Junction

/-- What one vehicle of a simulation does. -/
structure Script where
  id : VehicleId
  route : Route
  /-- When the approach mark is passed. -/
  start : Timestamp
  /-- Metres from the entrance to the exit mark. -/
  distance : Float

/-- The vehicles of a simulation. -/
structure Scenario where
  scripts : List Script

/-- The way through the crossing of two roads, in metres. -/
def usualDistance : Float := 1.5

namespace Scenario

/-- One vehicle straight on from each side of the crossing of two roads, a fifth of a second apart. -/
def rush : Scenario where
  scripts := [
    ⟨⟨11⟩, ⟨⟨"N"⟩, ⟨"S"⟩⟩, .wrapping 0, usualDistance⟩,
    ⟨⟨12⟩, ⟨⟨"E"⟩, ⟨"W"⟩⟩, .wrapping 200, usualDistance⟩,
    ⟨⟨13⟩, ⟨⟨"S"⟩, ⟨"N"⟩⟩, .wrapping 400, usualDistance⟩,
    ⟨⟨14⟩, ⟨⟨"W"⟩, ⟨"E"⟩⟩, .wrapping 600, usualDistance⟩]

end Scenario

/-- How beacons travel between the vehicles of a simulation. -/
inductive Delivery where
  /-- Every vehicle is heard by all others right after its turn. -/
  | immediate
  /-- Every vehicle sends after random periods, and each copy is lost at a given rate. -/
  | periodic (lossRate : Float)

/-- What can be set about a simulation. -/
structure SimulationSettings where
  seed : UInt64
  delivery : Delivery
  /-- The time between two states. -/
  step : Duration
  /-- The time after which a simulation gives up. -/
  horizon : Duration
  /-- The settings of every vehicle but for its identifier and route. -/
  client : Settings

namespace SimulationSettings

/-- A simulation of two minutes in tenths of a second, without loss. -/
def standard (client : Settings) : SimulationSettings where
  seed := 42
  delivery := .immediate
  step := .ofMillis 100
  horizon := .ofMillis 120000
  client

def isShare (x : Float) : Bool := decide (0.0 ≤ x) && decide (x ≤ 1.0)

/-- The first reason to refuse the settings. -/
def fault? (s : SimulationSettings) : Option SettingsFault :=
  if s.step.isZero then some .noStep
  else
    match s.delivery with
    | .immediate => s.client.fault?
    | .periodic lossRate => if isShare lossRate then s.client.fault? else some (.lossRate lossRate)

end SimulationSettings

end Junction
