import Junction.Beacon.Basic
import Junction.Control.Settings.Basic
import Junction.Random.Stream

/-! # Transmitters

A transmitter sends the latest beacon of its vehicle again and again. The time between two beacons
is drawn anew each time, so that vehicles on one channel do not keep talking at the same moments.
Every beacon that is sent has the next number, whether the medium takes it or not.
-/

namespace Junction

/-- A source of periods and numbers. -/
structure Transmitter where
  random : Random.Stream
  minPeriod : Duration
  maxPeriod : Duration
  sequence : UInt64

namespace Transmitter

/-- A transmitter whose periods lie between two bounds. -/
def create (minPeriod maxPeriod : Duration) (random : Random.Stream) :
    Except SettingsFault Transmitter :=
  if minPeriod.isZero || decide (maxPeriod < minPeriod) then
    .error (.periodRange minPeriod maxPeriod)
  else .ok ⟨random, minPeriod, maxPeriod, 0⟩

/-- Whether there is a period to draw. Bounds are whole milliseconds modulo `2 ^ 64`, so a very long
    upper bound can come out below the lower one. -/
def hasPeriod (t : Transmitter) : Bool := decide (t.minPeriod.ms ≤ t.maxPeriod.ms)

/-- Draw the milliseconds until the next beacon, between bounds in order. -/
def draw (t : Transmitter) : Nat × Transmitter :=
  let (ms, random) := t.random.uniform t.minPeriod.ms t.maxPeriod.ms
  (ms, { t with random })

/-- Draw the milliseconds until the next beacon, if there is a period to draw. -/
def nextPeriod? (t : Transmitter) : Option (Nat × Transmitter) :=
  if t.hasPeriod then some t.draw else none

/-- The beacon to send now, for the one that is published. -/
def stamp (t : Transmitter) (published : Beacon) : Beacon × Transmitter :=
  ({ published with sequence := t.sequence }, { t with sequence := t.sequence + 1 })

end Transmitter

/-- A transmitter at work: when it wakes up next, in milliseconds, and whether it has ended. -/
structure Sender where
  transmitter : Transmitter
  wakeAt : Nat
  hasEnded : Bool

namespace Sender

def start (t : Transmitter) (now : Nat) : Sender :=
  let (ms, transmitter) := t.draw
  { transmitter, wakeAt := now + ms, hasEnded := false }

def isDue (s : Sender) (now : Nat) : Bool := !s.hasEnded && decide (s.wakeAt ≤ now)

/-- Wake up: send the published beacon, or end if nothing is published any more. -/
def wake (s : Sender) (published : Option Beacon) (now : Nat) : Sender × Option Beacon :=
  match published with
  | none => ({ s with hasEnded := true }, none)
  | some b =>
    let (frame, transmitter) := s.transmitter.stamp b
    (start transmitter now, some frame)

/-- The beacons sent at an instant. A period of no time makes the transmitter wake up again at
    once, which is followed `limit` times. -/
def sendDue (published : Option Beacon) (now : Nat) : (limit : Nat) → Sender → Sender × List Beacon
  | 0, s => (s, [])
  | limit + 1, s =>
    if s.isDue now then
      let (s, frame) := s.wake published now
      let (s, frames) := sendDue published now limit s
      (s, frame.toList ++ frames)
    else (s, [])

/-- How often a transmitter may wake up at one instant. -/
def wakeLimit : Nat := 10000

/-- Set a transmitter to work, if it has a period. Where the first period is of no time, there are
    beacons to send at once. -/
def launch? (t : Transmitter) (published : Option Beacon) (now : Nat) :
    Option (Sender × List Beacon) :=
  if t.hasPeriod then some (sendDue published now wakeLimit (start t now)) else none

/-- The beacons sent in the `ms` milliseconds after `now`, each with its instant. -/
def advance (published : Option Beacon) (now : Nat) : (ms : Nat) → Sender → Sender × List (Nat × Beacon)
  | 0, s => (s, [])
  | ms + 1, s =>
    let (s, frames) := sendDue published (now + 1) wakeLimit s
    let (s, later) := advance published (now + 1) ms s
    (s, frames.map (fun b => (now + 1, b)) ++ later)

end Sender

end Junction
