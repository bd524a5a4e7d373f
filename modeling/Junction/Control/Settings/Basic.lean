import Junction.Control.Name
import Junction.Decimal.Shortest
import Junction.Road.FourWay
import Junction.RightOfWay.Stack
import Junction.Text.Number
import Junction.Time.Duration

/-! # Settings

Everything about a vehicle that can be set. Settings are read from named texts over defaults, and
are then checked: a vehicle runs only under settings that are valid.
-/

namespace Junction

/-- What can be set about a vehicle. -/
structure Settings where
  id : VehicleId
  protocol : Protocol
  route : Route
  /-- The shortest time between two beacons. -/
  minPeriod : Duration
  /-- The longest time between two beacons. -/
  maxPeriod : Duration
  /-- A peer is forgotten after the longest period this many times over. -/
  maxLost : UInt32
  /-- How long a positive answer without an instant has to hold. -/
  minSafe : Duration
  /-- The time between two decisions. -/
  cycle : Duration
  /-- How long the vehicle expects to be inside. -/
  crossing : Duration
  /-- How long the vehicle keeps moving behind the crossing. -/
  exitGrace : Duration
  /-- Metres from the approach mark to the entrance. -/
  distance : Float
  /-- Metres per second. -/
  maxSpeed : Float
  options : RightOfWay.Options
  /-- The file that describes the crossing; without it the crossing of two roads is meant. -/
  topologyFile : Option String

/-- Why settings are refused. -/
inductive SettingsFault where
  /-- The text under a key is not a number. -/
  | unreadable (key raw : String) (cause : Text.NumberFault)
  /-- The text under a key names nothing. -/
  | unknownName (key : String) (cause : UnknownName)
  /-- Only one of the two lanes of the route is given. -/
  | loneLane
  | noMinPeriod
  | periodsReversed (min max : Duration)
  | noLostBeacons
  /-- The time after which a peer is forgotten cannot be counted. -/
  | thresholdOverflow (period : Duration) (count : UInt32)
  | noCycle
  | maxSpeed (given : Float)
  | distance (given : Float)
  | uTurn (route : Route)
  /-- The route uses lanes that the intersection does not have. -/
  | foreignRoute (route : Route) (intersection : String)
  /-- A transmitter cannot draw its period between these bounds. -/
  | periodRange (min max : Duration)
  /-- A simulation does not move in time. -/
  | noStep
  /-- A share of lost beacons outside zero to one. -/
  | lossRate (given : Float)
  /-- A vehicle was added before. -/
  | duplicateVehicle (id : VehicleId)

namespace SettingsFault

def message : SettingsFault → String
  | unreadable key raw cause => s!"{key}={Text.quoted raw}: {cause.message}"
  | unknownName key cause => s!"{key}: {cause.message}"
  | loneLane => "CROSSROADS_ENTRY and CROSSROADS_EXIT must be set together"
  | noMinPeriod => "min beacon period must be positive"
  | periodsReversed min max => s!"min beacon period {min} exceeds max beacon period {max}"
  | noLostBeacons => "max lost beacons must be at least 1"
  | thresholdOverflow period count => s!"eviction threshold {period} x {count.toNat} overflows"
  | noCycle => "cycle time must be positive"
  | maxSpeed given => s!"invalid max speed {Decimal.floatText given}"
  | distance given => s!"invalid distance to entrance {Decimal.floatText given}"
  | uTurn route => s!"route {route} is a u-turn"
  | foreignRoute route intersection => s!"route {route} is not part of intersection {intersection}"
  | periodRange min max => s!"invalid beacon period range {min}..={max}"
  | noStep => "simulation step must be positive"
  | lossRate given => s!"loss rate {Decimal.floatText given} outside [0, 1]"
  | duplicateVehicle id => s!"duplicate vehicle {id}"

end SettingsFault

namespace Settings

/-- What holds where nothing is set. -/
def standard : Settings where
  id := ⟨1⟩
  protocol := .parallel
  route := ⟨⟨"N"⟩, ⟨"S"⟩⟩
  minPeriod := .ofMillis 100
  maxPeriod := .ofMillis 1000
  maxLost := 5
  minSafe := .ofMillis 2100
  cycle := .ofMillis 500
  crossing := .ofMillis 4000
  exitGrace := .ofMillis 1000
  distance := 0.36
  maxSpeed := 0.75
  options := { precedence := .higherFirst, slots := .firstFit }
  topologyFile := none

instance : Inhabited Settings := ⟨standard⟩

/-- After which silence a peer is forgotten, if that can be counted. -/
def exactThreshold? (s : Settings) : Option Duration := s.maxPeriod.times? s.maxLost.toNat

/-- After which silence a peer is forgotten; a silence that cannot be counted is the longest one. -/
def threshold (s : Settings) : Duration := s.exactThreshold?.getD .greatest

/-- The whole milliseconds of the threshold, or the greatest count where they exceed it. -/
def thresholdMs (s : Settings) : Nat := min s.threshold.millis (2 ^ 64 - 1)

/-- Whether the threshold is exact and its milliseconds can be counted. -/
def hasExactThreshold (s : Settings) : Bool :=
  match s.exactThreshold? with
  | some d => decide (d.millis < 2 ^ 64)
  | none => false

/-- Whether a number is positive and finite. -/
def isUsableSpeed (x : Float) : Bool := x.isFinite && decide (0.0 < x)

/-- Whether a number is finite and not below zero. -/
def isUsableDistance (x : Float) : Bool := x.isFinite && decide (0.0 ≤ x)

/-- The first reason to refuse the settings. -/
def fault? (s : Settings) : Option SettingsFault :=
  if s.minPeriod.isZero then some .noMinPeriod
  else if s.maxPeriod < s.minPeriod then some (.periodsReversed s.minPeriod s.maxPeriod)
  else if s.maxLost = 0 then some .noLostBeacons
  else if !s.hasExactThreshold then some (.thresholdOverflow s.maxPeriod s.maxLost)
  else if s.cycle.isZero then some .noCycle
  else if !isUsableSpeed s.maxSpeed then some (.maxSpeed s.maxSpeed)
  else if !isUsableDistance s.distance then some (.distance s.distance)
  else if s.route.isUTurn then some (.uTurn s.route)
  else none

/-- Settings that can be run, or the first reason against them. -/
def validate (s : Settings) : Except SettingsFault Unit :=
  match s.fault? with
  | some f => .error f
  | none => .ok ()

/-- Whether settings can be run. -/
def Valid (s : Settings) : Prop := s.fault? = none

end Settings

end Junction
