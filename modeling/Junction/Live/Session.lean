import Junction.Live.Runner

/-! # Sessions

A session is a runner in time: a clock, and a ticker that makes the controller decide once in every
cycle. A ticker that was not served in time makes up for nothing: it ticks once, and then again at
the next multiple of its period.
-/

namespace Junction

/-- Something that ticks at every multiple of a period. -/
structure Ticker where
  /-- Nanoseconds between two ticks. -/
  period : Nat
  /-- Nanoseconds from the start to the next tick. -/
  next : Nat
  deriving DecidableEq, Repr

namespace Ticker

/-- A ticker whose first tick is due at its start. -/
def start (period : Duration) : Ticker := ⟨period.nanos, 0⟩

def isDue (t : Ticker) (elapsed : Nat) : Bool := decide (t.next ≤ elapsed)

/-- The ticker after a tick: the next one comes at the first multiple of the period still ahead. -/
def serve (t : Ticker) (elapsed : Nat) : Ticker :=
  { t with next := (elapsed / t.period + 1) * t.period }

end Ticker

/-- A runner in time. -/
structure Session where
  runner : Runner
  ticker : Ticker
  start : Timestamp
  /-- Milliseconds since the start. -/
  elapsed : Nat

namespace Session

def now (s : Session) : Timestamp := s.start.advance s.elapsed

def elapsedNanos (s : Session) : Nat := s.elapsed * 10 ^ 6

/-- Let the controller decide, if a tick is due. -/
def serve (s : Session) : Session :=
  if s.ticker.isDue s.elapsedNanos then
    { s with
      runner := s.runner.handle .tick s.now
      ticker := s.ticker.serve s.elapsedNanos }
  else s

/-- Start a session; the first tick comes at once. -/
def begin (c : Controller) (start : Timestamp) : Session :=
  serve ⟨.ofController c, .start c.settings.cycle, start, 0⟩

def give (s : Session) (input : RunnerInput) : Session :=
  { s with runner := s.runner.handle input s.now }

/-- The clock jumps on by some milliseconds, and what is due is done then. -/
def advance (s : Session) (ms : Nat) : Session := serve { s with elapsed := s.elapsed + ms }

end Session

end Junction
