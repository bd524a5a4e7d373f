import Junction.Power

/-! # Durations

A duration is a count of nanoseconds whose whole seconds fit in sixty-four bits. Instants count
milliseconds, so a duration enters a computation with instants as its whole milliseconds, modulo
`2 ^ 64`.
-/

namespace Junction

/-- A count of nanoseconds of less than `2 ^ 64` seconds. -/
structure Duration where
  nanos : Nat
  bounded : nanos < 2 ^ 64 * 10 ^ 9
  deriving DecidableEq, Repr

namespace Duration

instance : LT Duration := ⟨fun d e => d.nanos < e.nanos⟩

instance (d e : Duration) : Decidable (d < e) := inferInstanceAs (Decidable (d.nanos < e.nanos))

theorem lt_iff {d e : Duration} : d < e ↔ d.nanos < e.nanos := Iff.rfl

def zero : Duration := ⟨0, by decide⟩

instance : Inhabited Duration := ⟨zero⟩

/-- The longest duration. -/
def greatest : Duration := ⟨2 ^ 64 * 10 ^ 9 - 1, by decide⟩

/-- The duration of `n` nanoseconds, if it is not too long. -/
def ofNanos? (n : Nat) : Option Duration :=
  if h : n < 2 ^ 64 * 10 ^ 9 then some ⟨n, h⟩ else none

def ofMillis (ms : UInt64) : Duration :=
  ⟨ms.toNat * 10 ^ 6, by have := ms.toNat_lt; omega⟩

def seconds (d : Duration) : Nat := d.nanos / 10 ^ 9

/-- Nanoseconds beyond the whole seconds. -/
def subsecond (d : Duration) : Nat := d.nanos % 10 ^ 9

def millis (d : Duration) : Nat := d.nanos / 10 ^ 6

/-- Whole milliseconds, counted modulo `2 ^ 64`. -/
def ms (d : Duration) : Nat := d.millis % 2 ^ 64

def isZero (d : Duration) : Bool := d.nanos == 0

/-- The duration `n` times over, if that is not too long. -/
def times? (d : Duration) (n : Nat) : Option Duration := ofNanos? (d.nanos * n)

/-- The duration in seconds, as a floating point number. -/
def toSeconds (d : Duration) : Float :=
  (UInt64.ofNat d.seconds).toFloat + (UInt64.ofNat d.subsecond).toFloat / 1000000000.0

/-- The digits behind the point for `part` of `10 ^ width`, without zeros at the end. -/
def fractionText (width part : Nat) : String :=
  let digits := Nat.toDigits 10 part
  let padded := List.replicate (width - digits.length) '0' ++ digits
  let kept := (padded.reverse.dropWhile (· = '0')).reverse
  if kept.isEmpty then "" else String.ofList ('.' :: kept)

/-- A duration in the greatest of the units second, millisecond, microsecond and nanosecond of
    which it holds at least one. -/
def text (d : Duration) : String :=
  let inUnit (width : Nat) (name : String) : String :=
    s!"{d.nanos / 10 ^ width}{fractionText width (d.nanos % 10 ^ width)}{name}"
  if 10 ^ 9 ≤ d.nanos then inUnit 9 "s"
  else if 10 ^ 6 ≤ d.nanos then inUnit 6 "ms"
  else if 10 ^ 3 ≤ d.nanos then inUnit 3 "µs"
  else inUnit 0 "ns"

instance : ToString Duration := ⟨text⟩

theorem ms_lt (d : Duration) : d.ms < 2 ^ 64 := Nat.mod_lt _ (by decide)

end Duration

end Junction
