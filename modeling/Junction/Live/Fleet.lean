import Junction.Live.Session
import Junction.Radio.Receiver
import Junction.Radio.Transmitter

/-! # Fleets

A fleet is a number of vehicles at work on one medium. Each has a session, a transmitter for the
beacon that its session publishes, and a receiver that hands it what it hears. Time moves in small
hops; whatever is due at the end of a hop happens then, and a frame is heard in the hop in which it
is sent, by its sender too.
-/

namespace Junction

/-- A vehicle at work. -/
structure Station where
  session : Session
  sender : Sender
  listening : Listening

namespace Station

/-- How many beacons may wait for a controller. -/
def inboxCapacity : Nat := 256

def create (settings : Settings) (conflicts : ConflictTest) (seed : UInt64) :
    Except SettingsFault Station := do
  let controller ← Controller.create settings conflicts
  let transmitter ←
    Transmitter.create settings.minPeriod settings.maxPeriod (Random.Stream.ofSeed seed)
  .ok {
    session := .begin controller .zero
    sender := .start transmitter 0
    listening := .active
  }

/-- What is published, while the run goes on. -/
def visible (s : Station) : Option Beacon := s.session.runner.visible

/-- Hear a frame. The session takes the beacons out of its inbox at once, as long as it runs. -/
def hear (s : Station) (bytes : List UInt8) : Station :=
  match s.listening with
  | .active =>
    let inbox : Inbox := { Inbox.empty inboxCapacity with isOpen := s.session.runner.takesBeacons }
    let r := (Receiver.mk 0 inbox .active).accept bytes
    { s with
      session := r.inbox.queue.foldl (fun session b => session.give (.beacon b)) s.session
      listening := r.state }
  | .ended | .failed => s

def detect (s : Station) (event : Event) : Station :=
  { s with session := s.session.give (.event event) }

def advance (s : Station) (ms : Nat) : Station := { s with session := s.session.advance ms }

def send (s : Station) : Station × List Beacon :=
  let (sender, frames) :=
    Sender.sendDue s.visible s.session.elapsed Sender.wakeLimit s.sender
  ({ s with sender }, frames)

end Station

/-- Vehicles at work on one medium. -/
structure Fleet where
  stations : List Station

namespace Fleet

/-- Set vehicles to work; the first fault found ends the attempt. -/
def create (conflicts : ConflictTest) (vehicles : List Settings) : Except SettingsFault Fleet := do
  let stations ← vehicles.mapM fun settings => Station.create settings conflicts 0
  .ok ⟨stations⟩

def broadcast (f : Fleet) (bytes : List UInt8) : Fleet :=
  ⟨f.stations.map fun s => s.hear bytes⟩

def detect (f : Fleet) (index : Nat) (event : Event) : Fleet :=
  ⟨f.stations.modify index fun s => s.detect event⟩

/-- All vehicles send what they are to send now, and all hear it. -/
def transmit (f : Fleet) : Fleet :=
  let sent := f.stations.map Station.send
  let frames := sent.flatMap fun (_, frames) => frames
  frames.foldl (fun f b => f.broadcast b.toBytes) ⟨sent.map Prod.fst⟩

def hop (f : Fleet) (ms : Nat) : Fleet := transmit ⟨f.stations.map fun s => s.advance ms⟩

def hops (f : Fleet) (count ms : Nat) : Fleet :=
  (List.range count).foldl (fun f _ => f.hop ms) f

/-- No more events will come: all runs end. -/
def dismiss (f : Fleet) : Fleet :=
  ⟨f.stations.map fun s => { s with session := s.session.give .eventsClosed }⟩

/-- The medium closes: who still listens hears of it. -/
def close (f : Fleet) : Fleet :=
  ⟨f.stations.map fun s =>
    match s.listening with
    | .active => { s with listening := .ended }
    | .ended | .failed => s⟩

end Fleet

end Junction
