/-! # Driving

The controller does not steer. It only holds a vehicle, lets it go, stops it for good, or sets a
limit to its speed; whatever follows the lane obeys.
-/

namespace Junction

/-- What a vehicle can be told. -/
inductive DriveCommand where
  /-- Stand still for now. -/
  | pause
  /-- Go on. -/
  | unpause
  /-- Stand still for good. -/
  | stop
  /-- Go no faster than this, in metres per second. -/
  | limit (speed : Float)

/-- What a vehicle was told, summed up. -/
structure Motion where
  paused : Bool
  stopped : Bool
  maxSpeed : Float

namespace Motion

def free (maxSpeed : Float) : Motion := ⟨false, false, maxSpeed⟩

def isMoving (m : Motion) : Bool := !m.paused && !m.stopped && decide (0.0 < m.maxSpeed)

def obey (m : Motion) : DriveCommand → Motion
  | .pause => { m with paused := true }
  | .unpause => { m with paused := false }
  | .stop => { m with stopped := true }
  | .limit speed => { m with maxSpeed := speed }

theorem isMoving_eq_false_of_paused {m : Motion} (h : m.paused = true) : m.isMoving = false := by
  simp [isMoving, h]

end Motion

/-- A vehicle's motion and the commands that led to it, the last one first. -/
structure Drive where
  motion : Motion
  log : List DriveCommand

namespace Drive

/-- A vehicle that has been told nothing. -/
def fresh (maxSpeed : Float) : Drive := ⟨.free maxSpeed, []⟩

def issue (d : Drive) (c : DriveCommand) : Drive := ⟨d.motion.obey c, c :: d.log⟩

/-- The commands given since there were `n` of them, the first one first. -/
def since (d : Drive) (n : Nat) : List DriveCommand := (d.log.take (d.log.length - n)).reverse

@[simp]
theorem motion_issue (d : Drive) (c : DriveCommand) : (d.issue c).motion = d.motion.obey c := rfl

end Drive

end Junction
