import Junction.Beacon.Wire
import Junction.Radio.Medium

/-! # Receivers

A receiver listens to the medium and puts the beacons that it hears into the inbox of a controller.
It never waits: what is no beacon is dropped, and so is a beacon that finds the inbox full. It ends
when the medium is closed, and fails when there is no inbox any more.
-/

namespace Junction

/-- The beacons that wait for a controller. -/
structure Inbox where
  capacity : Nat
  queue : List Beacon
  /-- Whether somebody will take the beacons out. -/
  isOpen : Bool

/-- What became of a beacon at an inbox. -/
inductive Offer where
  | accepted (inbox : Inbox)
  | full
  | closed

namespace Inbox

/-- An inbox without beacons. -/
def empty (capacity : Nat) : Inbox := ⟨capacity, [], true⟩

def offer (i : Inbox) (b : Beacon) : Offer :=
  if !i.isOpen then .closed
  else if i.capacity ≤ i.queue.length then .full
  else .accepted { i with queue := i.queue ++ [b] }

end Inbox

/-- Whether a receiver goes on. -/
inductive Listening where
  | active
  /-- The medium is closed. -/
  | ended
  /-- The inbox is gone. -/
  | failed
  deriving DecidableEq, Repr

/-- A receiver: how many frames it is through with, the inbox it fills, and whether it goes on. -/
structure Receiver where
  position : Nat
  inbox : Inbox
  state : Listening

namespace Receiver

/-- A receiver of the frames that are sent from now on. -/
def subscribe (m : Medium) (inbox : Inbox) : Receiver := ⟨m.frames.length, inbox, .active⟩

/-- What a user is told about an inbox that is gone. -/
def closedReason : String := "daemon inbox closed"

def accept (r : Receiver) (bytes : List UInt8) : Receiver :=
  match Beacon.ofBytes bytes with
  | .error _ => r
  | .ok b =>
    match r.inbox.offer b with
    | .accepted inbox => { r with inbox }
    | .full => r
    | .closed => { r with state := .failed }

/-- Listen once. -/
def step (r : Receiver) (m : Medium) : Receiver :=
  match r.state with
  | .active =>
    match m.receive r.position with
    | (.frame bytes, position) => { r with position }.accept bytes
    | (.lagged _, position) => { r with position }
    | (.silence, _) => r
    | (.closed, _) => { r with state := .ended }
  | .ended | .failed => r

/-- Listen until there is nothing to hear: each frame takes one step at most, and the end one
    more. -/
def drain (r : Receiver) (m : Medium) : Receiver :=
  (List.range (m.frames.length - r.position + 1)).foldl (fun r _ => r.step m) r

end Receiver

end Junction
