/-! # Detector events

What the detector of a vehicle reports as the vehicle passes the crossing.
-/

namespace Junction

/-- A report of the detector. -/
inductive Event where
  /-- The vehicle passed the mark at which it asks for access. -/
  | approaching
  /-- The vehicle reached the entrance. -/
  | entering
  /-- The vehicle passed the mark behind the crossing. -/
  | exiting
  /-- The detector lost track, and the crossing must be given up. -/
  | error
  deriving DecidableEq, Repr, Inhabited

namespace Event

def text : Event → String
  | approaching => "APPROACHING"
  | entering => "ENTERING"
  | exiting => "EXITING"
  | error => "ERROR"

instance : ToString Event := ⟨text⟩

end Event

end Junction
