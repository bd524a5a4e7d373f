/-! # Lanes and routes

A lane is a named way into or out of the crossing. A route is the lane by which a vehicle comes in
and the lane by which it leaves.
-/

namespace Junction

/-- A lane, known by its name. -/
structure Lane where
  name : String
  deriving DecidableEq, Repr, Inhabited

/-- The lane in and the lane out. -/
structure Route where
  entry : Lane
  exit : Lane
  deriving DecidableEq, Repr, Inhabited

/-- Lanes are listed in the order of their names, character by character. -/
def Lane.precedes (a b : Lane) : Bool := decide (a.name < b.name)

namespace Route

/-- A route leaving by the lane it came in by. -/
def isUTurn (r : Route) : Bool := r.entry == r.exit

def text (r : Route) : String := s!"{r.entry.name}->{r.exit.name}"

instance : ToString Route := ⟨text⟩

end Route

end Junction
