import Junction.Time.Timestamp

/-! # Clearances

The answer to the question whether a vehicle may cross. A positive answer names the instant from
which it holds; where it names none, the answer has to hold for a while before it is acted upon.
-/

namespace Junction

/-- Whether a vehicle may cross, and from when. -/
structure Clearance where
  isSafe : Bool
  safeAt : Timestamp
  deriving DecidableEq, Repr

namespace Clearance

def wait : Clearance := ⟨false, .unscheduled⟩

/-- The vehicle may cross, from no instant in particular. -/
def provisional : Clearance := ⟨true, .unscheduled⟩

/-- The vehicle may cross from an instant on. -/
def startingAt (t : Timestamp) : Clearance := ⟨true, t⟩

def isImmediate (c : Clearance) (now : Timestamp) : Bool := c.isSafe && decide (c.safeAt ≤ now)

/-- Whether the answer is positive and cannot be acted upon yet. -/
def isPending (c : Clearance) (now : Timestamp) : Bool := c.isSafe && decide (now < c.safeAt)

/-- The instant from which the vehicle may cross, if the answer names one. -/
def scheduledTime (c : Clearance) : Option Timestamp :=
  if c.isSafe && c.safeAt.isScheduled then some c.safeAt else none

def text (c : Clearance) : String := if c.isSafe then s!"safe at {c.safeAt}" else "not safe"

instance : ToString Clearance := ⟨text⟩

end Clearance

end Junction
