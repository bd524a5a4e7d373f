import Junction.Control.Motion
import Junction.Control.Pacer
import Junction.Control.Settings.Basic
import Junction.Neighbor.Table

/-! # The controller of a vehicle

A controller takes detector events, beacons of peers, and ticks. At a tick it forgets silent peers
and, while the vehicle waits for access, asks its policy. An answer that is good at once lets the
vehicle in. An answer that names a later instant is waited for. An answer that names none has to be
repeated without a break for a while before it lets the vehicle in.

Time is handed in with every input, and all a controller does is in its state: its own beacon, the
commands to the vehicle, the table of its neighbors.
-/

namespace Junction

/-- Where a vehicle is. -/
inductive Phase where
  /-- Far from the crossing. -/
  | idle
  /-- Between the approach mark and the entrance. -/
  | approaching
  /-- At the entrance or past it. -/
  | entering
  /-- Behind the crossing; the vehicle is to pause at an instant, unless it did so. -/
  | exiting (pauseAt : Option Timestamp)
  /-- Stopped for good. -/
  | aborted
  deriving DecidableEq, Repr

/-- What a tick decided. -/
inductive Decision where
  /-- No access. -/
  | waiting
  /-- A positive answer, first read at `since`, that does not let the vehicle in yet. -/
  | provisional (since safeAt : Timestamp)
  /-- Access from now on. -/
  | committed
  deriving DecidableEq, Repr

/-- The detector of a vehicle failed, and the vehicle was stopped. -/
structure Abort where
  vehicle : VehicleId
  status : Status
  deriving DecidableEq, Repr

/-- The sentence that tells a user about a failure of the detector. -/
def Abort.message (a : Abort) : String :=
  s!"{a.vehicle} reported a detector error while {a.status}"

/-- The state of one vehicle's control. -/
structure Controller where
  settings : Settings
  policy : Policy
  table : NeighborTable
  /-- The beacon to send next. -/
  beacon : Beacon
  drive : Drive
  pacer : Pacer
  phase : Phase
  /-- Whether the vehicle has access. -/
  granted : Bool
  /-- When the unbroken run of positive answers began. -/
  safeSince : Option Timestamp
  /-- The last answer of this crossing episode. -/
  lastAnswer : Option Clearance
  running : Bool

namespace Controller

/-- The beacon of a vehicle at rest; only reservations say how long the vehicle stays inside. -/
def firstBeacon (s : Settings) (protocol : Protocol) : Beacon :=
  let b := Beacon.idle s.id protocol s.route
  if protocol = .reservation then { b with crossingMs := some (UInt64.ofNat s.crossing.ms) } else b

/-- The controller of a vehicle at rest that decides by a given policy. -/
def ofPolicy (s : Settings) (policy : Policy) : Controller where
  settings := s
  policy
  table := .empty s.id
  beacon := firstBeacon s policy.protocol
  drive := .fresh s.maxSpeed
  pacer := .fresh s.maxSpeed s.distance
  phase := .idle
  granted := false
  safeSince := none
  lastAnswer := none
  running := true

/-- The controller of a vehicle at rest that decides by the protocol of its settings. -/
def create (s : Settings) (conflicts : ConflictTest) : Except SettingsFault Controller :=
  match s.fault? with
  | some f => .error f
  | none => .ok (ofPolicy s (RightOfWay.policyFor s.protocol conflicts s.options).toPolicy)

def id (c : Controller) : VehicleId := c.settings.id

def status (c : Controller) : Status := c.beacon.status

/-- Whether the vehicle publishes when it enters. -/
def reserves (c : Controller) : Bool := c.beacon.protocol == .reservation

def issue (c : Controller) (command : DriveCommand) : Controller :=
  { c with drive := c.drive.issue command }

/-- Start a crossing episode: ask for access. -/
def beginEpisode (c : Controller) : Controller :=
  { c with
    phase := .approaching
    granted := false
    safeSince := none
    lastAnswer := none
    beacon := { c.beacon with status := .requesting, entryTime := none }
    pacer := c.pacer.reset c.settings.distance }

def approach (c : Controller) : Controller :=
  match c.phase with
  | .approaching | .entering => c
  | _ => c.beginEpisode

/-- The vehicle reached the entrance, where it stands still unless it has access. -/
def enter (c : Controller) : Controller :=
  let c :=
    match c.phase with
    | .idle | .exiting _ => c.beginEpisode
    | _ => c
  let c := { c with phase := .entering }
  if c.granted then c else c.issue .pause

/-- The vehicle left the crossing; it goes on for a moment before it pauses. -/
def leave (c : Controller) (now : Timestamp) : Controller :=
  { c with
    beacon := { c.beacon with status := .exiting }
    safeSince := none
    phase := .exiting (some (now.plus c.settings.exitGrace.ms)) }

def abort (c : Controller) : Controller :=
  { c.issue .stop with running := false, phase := .aborted }

/-- Take an event. A controller that has stopped takes none. -/
def onEvent (c : Controller) (event : Event) (now : Timestamp) : Controller × Option Abort :=
  if !c.running then (c, none)
  else
    match event with
    | .approaching => (c.approach, none)
    | .entering => (c.enter, none)
    | .exiting => (c.leave now, none)
    | .error => (c.abort, some ⟨c.id, c.status⟩)

/-- Take a beacon of a peer. One of another protocol is dropped. -/
def onBeacon (c : Controller) (b : Beacon) (now : Timestamp) : Controller × Option Receipt :=
  if b.protocol = c.beacon.protocol then
    let (table, receipt) := c.table.update b now
    ({ c with table }, some receipt)
  else (c, none)

def onProgress (c : Controller) (metres : Float) : Controller :=
  if c.phase = .approaching then { c with pacer := c.pacer.advance metres } else c

/-- Forget the peers that have been silent for too long. -/
def forget (c : Controller) (now : Timestamp) : Controller :=
  { c with table := (c.table.flush c.settings.thresholdMs now).1 }

/-- Pause behind the crossing when it is time to. -/
def pauseIfDue (c : Controller) (now : Timestamp) : Controller :=
  match c.phase with
  | .exiting (some due) => if due ≤ now then { c.issue .pause with phase := .exiting none } else c
  | _ => c

/-- Whether the vehicle waits for access. -/
def seeks (c : Controller) : Bool :=
  !c.granted && (c.phase == .approaching || c.phase == .entering)

def question (c : Controller) (now : Timestamp) : Evaluation :=
  ⟨c.settings.id, c.settings.route, c.table.snapshot, now⟩

/-- What an answer of the policy amounts to. -/
def weigh (c : Controller) (answer : Clearance) (now : Timestamp) : Decision :=
  if answer.isImmediate now then .committed
  else if answer.isSafe then
    let since := c.safeSince.getD now
    if !answer.safeAt.isScheduled && decide (c.settings.minSafe.ms ≤ now.since since) then .committed
    else .provisional since answer.safeAt
  else .waiting

/-- Let the vehicle in. -/
def commit (c : Controller) (now : Timestamp) : Controller :=
  let c := { c with
    granted := true
    safeSince := none
    beacon := { c.beacon with status := .crossing } }
  let c :=
    if c.reserves then
      { c with
        beacon := { c.beacon with entryTime := some now }
        pacer := c.pacer.note c.pacer.maxSpeed }.issue (.limit c.pacer.maxSpeed)
    else c
  c.issue .unpause

/-- Set the speed that leads to the entrance at an instant. -/
def pace (c : Controller) (entry : Option Timestamp) (now : Timestamp) : Controller :=
  match c.pacer.next? entry now with
  | some speed => { c with pacer := c.pacer.note speed }.issue (.limit speed)
  | none => c

/-- Tell the peers when the vehicle means to enter, and drive accordingly. -/
def publish (c : Controller) (answer : Clearance) (now : Timestamp) : Controller :=
  if c.reserves then
    let entry := answer.scheduledTime
    let c := { c with beacon := { c.beacon with entryTime := entry } }
    if c.phase = .approaching then c.pace entry now else c
  else c

/-- Act upon an answer of the policy. -/
def act (c : Controller) (answer : Clearance) (now : Timestamp) : Controller × Decision :=
  let decision := c.weigh answer now
  let c := { c with lastAnswer := some answer }
  match decision with
  | .committed => (c.commit now, decision)
  | .provisional since _ => ({ c with safeSince := some since }.publish answer now, decision)
  | .waiting => ({ c with safeSince := none }.publish answer now, decision)

/-- Take a tick: forget silent peers, pause if that is due, and decide if the vehicle waits for
    access. A controller that has stopped does nothing. -/
def tick (c : Controller) (now : Timestamp) : Controller × Option Decision :=
  if !c.running then (c, none)
  else
    let c := (c.forget now).pauseIfDue now
    if c.seeks then
      let (c, decision) := c.act (c.policy.answer (c.question now)) now
      (c, some decision)
    else (c, none)

/-- Everything that a controller takes. -/
inductive Input where
  | event (event : Event) (now : Timestamp)
  | beacon (beacon : Beacon) (now : Timestamp)
  | progress (metres : Float)
  | tick (now : Timestamp)

def after (c : Controller) : Input → Controller
  | .event event now => (c.onEvent event now).1
  | .beacon beacon now => (c.onBeacon beacon now).1
  | .progress metres => c.onProgress metres
  | .tick now => (c.tick now).1

def afterAll (c : Controller) (inputs : List Input) : Controller := inputs.foldl after c

end Controller

end Junction
