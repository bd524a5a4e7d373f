import Junction.Power

/-! # Instants

An instant is a count of milliseconds that fits in sixty-four bits. The greatest count means "no
concrete time", and so it comes after every instant that a clock can show. Adding a delay stops at
the greatest count; a clock that is advanced past it starts again at zero.
-/

namespace Junction

/-- A count of milliseconds below `2 ^ 64`. -/
structure Timestamp where
  ms : Nat
  bounded : ms < 2 ^ 64
  deriving DecidableEq, Repr

namespace Timestamp

@[ext]
theorem ext {t u : Timestamp} (h : t.ms = u.ms) : t = u := by
  cases t; cases u; cases h; rfl

/-- The start of every clock that was given no other reading. -/
def zero : Timestamp := ⟨0, by decide⟩

instance : Inhabited Timestamp := ⟨zero⟩

instance : LT Timestamp := ⟨fun t u => t.ms < u.ms⟩

instance : LE Timestamp := ⟨fun t u => t.ms ≤ u.ms⟩

instance (t u : Timestamp) : Decidable (t < u) := inferInstanceAs (Decidable (t.ms < u.ms))

instance (t u : Timestamp) : Decidable (t ≤ u) := inferInstanceAs (Decidable (t.ms ≤ u.ms))

theorem lt_iff {t u : Timestamp} : t < u ↔ t.ms < u.ms := Iff.rfl

theorem le_iff {t u : Timestamp} : t ≤ u ↔ t.ms ≤ u.ms := Iff.rfl

/-- The later of two instants. -/
instance : Max Timestamp := ⟨fun t u => if t ≤ u then u else t⟩

@[simp]
theorem max_ms (t u : Timestamp) : (max t u).ms = max t.ms u.ms := by
  change (if t.ms ≤ u.ms then u else t).ms = _
  split <;> omega

/-- The count that stands for "no concrete time". -/
def unscheduled : Timestamp := ⟨2 ^ 64 - 1, by decide⟩

@[simp]
theorem unscheduled_ms : unscheduled.ms = 2 ^ 64 - 1 := rfl

theorem le_unscheduled (t : Timestamp) : t ≤ unscheduled := by
  have := t.bounded
  simp only [le_iff, unscheduled_ms]
  omega

/-- Whether the instant is a real point in time. -/
def isScheduled (t : Timestamp) : Bool := t.ms != 2 ^ 64 - 1

theorem isScheduled_iff {t : Timestamp} : t.isScheduled = true ↔ t ≠ unscheduled := by
  simp [isScheduled, Timestamp.ext_iff]

/-- The instant `n` milliseconds in, counted modulo `2 ^ 64`. -/
def wrapping (n : Nat) : Timestamp := ⟨n % 2 ^ 64, Nat.mod_lt _ (by decide)⟩

/-- The instant `n` milliseconds in, or the greatest one where `n` does not fit. -/
def saturating (n : Nat) : Timestamp := ⟨min n (2 ^ 64 - 1), by omega⟩

/-- The instant `ms` milliseconds later, stopping at the greatest count. -/
def plus (t : Timestamp) (ms : Nat) : Timestamp := saturating (t.ms + ms)

@[simp]
theorem plus_ms (t : Timestamp) (ms : Nat) : (t.plus ms).ms = min (t.ms + ms) (2 ^ 64 - 1) := rfl

theorem le_plus (t : Timestamp) (ms : Nat) : t ≤ t.plus ms := by
  have := t.bounded
  simp only [le_iff, plus_ms]
  omega

/-- Milliseconds from `earlier` to `t`, or zero where `earlier` lies ahead. -/
def since (t earlier : Timestamp) : Nat := t.ms - earlier.ms

@[simp]
theorem since_self (t : Timestamp) : t.since t = 0 := Nat.sub_self _

/-- The reading of a clock that showed `t`, `ms` milliseconds on. -/
def advance (t : Timestamp) (ms : Nat) : Timestamp := wrapping (t.ms + ms)

@[simp]
theorem advance_ms (t : Timestamp) (ms : Nat) : (t.advance ms).ms = (t.ms + ms) % 2 ^ 64 := rfl

/-- A count with its unit, or the word for no concrete time. -/
def text (t : Timestamp) : String :=
  if t.isScheduled then s!"{t.ms}ms" else "unscheduled"

instance : ToString Timestamp := ⟨text⟩

end Timestamp

end Junction
