import Junction.Pairs
import Junction.Road.Topology

/-! # The crossing of two roads

Four sides, each with a lane in and a lane out, and traffic that keeps to the right. Routes that
share a lane conflict. Of the other pairs those are free in which a vehicle turns right, and the
two straight routes that pass each other.
-/

namespace Junction

/-- The sides of a crossing, clockwise. -/
inductive Side where
  | north
  | east
  | south
  | west
  deriving DecidableEq, Repr

namespace Side

/-- All sides, clockwise from the north. -/
def all : List Side := [north, east, south, west]

/-- How many quarter turns a side lies clockwise of the north. -/
def quarter : Side → Nat
  | north => 0
  | east => 1
  | south => 2
  | west => 3

/-- The lane of a side, named by its letter. -/
def lane : Side → Lane
  | north => ⟨"N"⟩
  | east => ⟨"E"⟩
  | south => ⟨"S"⟩
  | west => ⟨"W"⟩

end Side

/-- What a vehicle does inside the crossing. -/
inductive Turn where
  /-- Leaves by the side it came from. -/
  | back
  | left
  | straight
  | right
  deriving DecidableEq, Repr

/-- A way through the crossing. -/
structure Passage where
  entry : Side
  exit : Side
  deriving DecidableEq, Repr

namespace Passage

/-- The turn that a passage takes: seen from the side of entry, the next side clockwise is on the
    left hand. -/
def turn (p : Passage) : Turn :=
  match (p.exit.quarter + 4 - p.entry.quarter) % 4 with
  | 0 => .back
  | 1 => .left
  | 2 => .straight
  | _ => .right

def route (p : Passage) : Route := ⟨p.entry.lane, p.exit.lane⟩

/-- Whether the two come from opposite sides. -/
def facing (p q : Passage) : Bool := (p.entry.quarter + 2) % 4 == q.entry.quarter

/-- Whether the two may not be driven at the same time. -/
def conflicts (p q : Passage) : Bool :=
  if p.entry = q.entry ∨ p.exit = q.exit then true
  else if p.turn = .back ∨ q.turn = .back then false
  else if p.turn = .straight ∧ q.turn = .straight ∧ p.facing q then false
  else p.turn ≠ .right && q.turn ≠ .right

/-- All passages that do not turn back, side by side. -/
def all : List Passage :=
  (Side.all.flatMap fun entry => Side.all.map fun exit => ⟨entry, exit⟩).filter fun p =>
    p.turn ≠ .back

end Passage

/-- What is declared about the crossing of two roads. -/
def fourWayPlan : Plan where
  name := "two-lane-four-way"
  lanes := Side.all.map Side.lane
  conflicts := ((pairsInOrder Passage.all).filter fun pair => pair.1.conflicts pair.2).map
    fun pair => (pair.1.route, pair.2.route)

/-- The crossing of two roads. -/
def Topology.fourWay : Topology := fourWayPlan.topology

end Junction
