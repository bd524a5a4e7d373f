/-! # Crossing status

Where a vehicle stands in its crossing episode, as it tells its peers.
-/

namespace Junction

/-- The stages of a crossing episode. -/
inductive Status where
  /-- No wish to cross. -/
  | idle
  /-- Wants to cross and has no access yet. -/
  | requesting
  /-- Has access; it may be inside the crossing. -/
  | crossing
  /-- Has left the crossing. -/
  | exiting
  deriving DecidableEq, Repr, Inhabited

namespace Status

def text : Status → String
  | idle => "IDLE"
  | requesting => "REQUESTING"
  | crossing => "CROSSING"
  | exiting => "EXITING"

instance : ToString Status := ⟨text⟩

end Status

end Junction
