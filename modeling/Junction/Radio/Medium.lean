import Junction.Power

/-! # The medium

All vehicles in range share a medium. Whoever listens hears every frame sent since, unless it falls
behind: the medium keeps only so many frames, and one that has been overtaken goes on with the
oldest that is left.
-/

namespace Junction

/-- What a listener hears next. -/
inductive Reception where
  /-- The next frame. -/
  | frame (bytes : List UInt8)
  /-- Some frames are gone. -/
  | lagged (missed : Nat)
  /-- There is nothing to hear yet. -/
  | silence
  /-- There will be nothing more to hear. -/
  | closed
  deriving DecidableEq, Repr

/-- All frames that were sent, the first one first, and how many of the last ones are kept. -/
structure Medium where
  capacity : Nat
  frames : List (List UInt8)
  isClosed : Bool
  deriving DecidableEq, Repr

namespace Medium

/-- The least power of two that is not below a number. -/
def roundUp (n : Nat) : Nat := if n ≤ 1 then 1 else 2 ^ ((n - 1).log2 + 1)

/-- A medium without frames that keeps at least `capacity` of them. -/
def ofCapacity (capacity : Nat) : Medium := ⟨roundUp capacity, [], false⟩

def send (m : Medium) (bytes : List UInt8) : Medium := { m with frames := m.frames ++ [bytes] }

def close (m : Medium) : Medium := { m with isClosed := true }

/-- What one hears who has heard the first `position` frames, and the position after it. -/
def receive (m : Medium) (position : Nat) : Reception × Nat :=
  let sent := m.frames.length
  if position + m.capacity < sent then (.lagged (sent - m.capacity - position), sent - m.capacity)
  else
    match m.frames[position]? with
    | some bytes => (.frame bytes, position + 1)
    | none => (if m.isClosed then .closed else .silence, position)

end Medium

end Junction
