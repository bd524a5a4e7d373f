import Junction.Time.Timestamp

/-! # Pacing

A vehicle that knows when it may enter slows down so as to reach the entrance at that instant
rather than to wait there. The pacer keeps the distance that is left and the speed that was last
set, and asks for a new speed only if that differs enough.
-/

namespace Junction

/-- What is left of the way to the entrance, and how fast it is driven. -/
structure Pacer where
  maxSpeed : Float
  remaining : Float
  lastIssued : Option Float

namespace Pacer

/-- A speed that differs by less than this is not worth a command. -/
def tolerance : Float := 0.001

/-- A length, or zero for one that is negative or no number. -/
def nonNegative (x : Float) : Float := if 0.0 < x then x else 0.0

/-- The smaller of two speeds; one that is no number does not count. -/
def slower (x y : Float) : Float := if x.isNaN then y else if y < x then y else x

def fresh (maxSpeed distance : Float) : Pacer := ⟨maxSpeed, distance, none⟩

def reset (p : Pacer) (distance : Float) : Pacer :=
  { p with remaining := nonNegative distance, lastIssued := none }

def advance (p : Pacer) (metres : Float) : Pacer :=
  { p with remaining := nonNegative (p.remaining - nonNegative metres) }

def note (p : Pacer) (speed : Float) : Pacer := { p with lastIssued := some speed }

/-- The speed that leads to the entrance at an instant; without an instant, none. -/
def target? (p : Pacer) (entry : Option Timestamp) (now : Timestamp) : Option Float :=
  entry.map fun t =>
    let ms := t.since now
    if ms = 0 then p.maxSpeed
    else slower (p.remaining / ((UInt64.ofNat ms).toFloat / 1000.0)) p.maxSpeed

/-- Whether a speed hardly differs from the one that was last set. -/
def isSet (p : Pacer) (speed : Float) : Bool :=
  match p.lastIssued with
  | none => false
  | some last => decide ((last - speed).abs < tolerance)

/-- The speed to set now, if one is to be set. -/
def next? (p : Pacer) (entry : Option Timestamp) (now : Timestamp) : Option Float :=
  (p.target? entry now).filter fun speed => !p.isSet speed

end Pacer

end Junction
