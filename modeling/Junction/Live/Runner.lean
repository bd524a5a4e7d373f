import Junction.Control.Controller

/-! # Runners

A runner owns a controller and hands it one input after the other. The beacon of the controller is
published after every input that changed it. The run ends when no more events can come, or when an
event stops the vehicle.
-/

namespace Junction

/-- How a run ended. -/
inductive RunEnd where
  /-- No more events can come. -/
  | finished
  /-- The detector failed. -/
  | aborted (cause : Abort)
  deriving DecidableEq, Repr

/-- A controller at work. -/
structure Runner where
  controller : Controller
  /-- The beacon that others see. -/
  published : Beacon
  /-- How often another beacon was published. -/
  notices : Nat
  /-- Whether beacons can still come. -/
  hearsBeacons : Bool
  ending : Option RunEnd

/-- Everything that a runner takes. -/
inductive RunnerInput where
  | tick
  | event (event : Event)
  | beacon (beacon : Beacon)
  /-- No more beacons will come. -/
  | beaconsClosed
  /-- No more events will come. -/
  | eventsClosed

namespace Runner

def ofController (c : Controller) : Runner where
  controller := c
  published := c.beacon
  notices := 0
  hearsBeacons := true
  ending := none

def hasEnded (r : Runner) : Bool := r.ending.isSome

def takesBeacons (r : Runner) : Bool := !r.hasEnded && r.hearsBeacons

/-- What the others see: nothing after the end of the run. -/
def visible (r : Runner) : Option Beacon := if r.hasEnded then none else some r.published

/-- Publish the beacon of the controller, if it is another one. -/
def publish (r : Runner) : Runner :=
  if r.published = r.controller.beacon then r
  else { r with published := r.controller.beacon, notices := r.notices + 1 }

def onEvent (r : Runner) (event : Event) (now : Timestamp) : Runner :=
  let (controller, abort) := r.controller.onEvent event now
  { r with controller, ending := abort.map RunEnd.aborted }

def handle (r : Runner) (input : RunnerInput) (now : Timestamp) : Runner :=
  if r.hasEnded then r
  else
    match input with
    | .tick => { r with controller := (r.controller.tick now).1 }.publish
    | .event event => (r.onEvent event now).publish
    | .beacon b =>
      if r.hearsBeacons then { r with controller := (r.controller.onBeacon b now).1 }.publish else r
    | .beaconsClosed => { r with hearsBeacons := false }.publish
    | .eventsClosed => { r with ending := some .finished }

def handleAll (r : Runner) (inputs : List (RunnerInput × Timestamp)) : Runner :=
  inputs.foldl (fun r (input, now) => r.handle input now) r

end Runner

end Junction
