import Junction.Vehicle.Identity

/-! # Precedence

Of two vehicles that both want to cross, one goes first. Which one follows from their identifiers
alone, so all vehicles agree on it without a word.
-/

namespace Junction

/-- Which of two vehicles goes first. -/
inductive Precedence where
  | higherFirst
  | lowerFirst
  deriving DecidableEq, Repr, Inhabited

namespace Precedence

/-- Whether `a` goes before `b`. -/
def outranks : Precedence → VehicleId → VehicleId → Bool
  | higherFirst, a, b => decide (b < a)
  | lowerFirst, a, b => decide (a < b)

/-- Whether none of the others goes before a vehicle. -/
def isHighest (p : Precedence) (me : VehicleId) (others : List VehicleId) : Bool :=
  others.all fun other => !p.outranks other me

def text : Precedence → String
  | higherFirst => "higher-id-first"
  | lowerFirst => "lower-id-first"

instance : ToString Precedence := ⟨text⟩

theorem outranks_irrefl (p : Precedence) (v : VehicleId) : p.outranks v v = false := by
  cases p <;> simp [outranks, VehicleId.lt_iff]

theorem outranks_asymm {p : Precedence} {v w : VehicleId} (h : p.outranks v w = true) :
    p.outranks w v = false := by
  cases p <;> simp only [outranks, VehicleId.lt_iff, decide_eq_true_eq, decide_eq_false_iff_not] at * <;>
    omega

theorem outranks_total {v w : VehicleId} (p : Precedence) (h : v ≠ w) :
    p.outranks v w = true ∨ p.outranks w v = true := by
  have := VehicleId.lt_or_gt_of_ne h
  cases p <;> simp only [outranks, decide_eq_true_eq]
  · exact this.symm
  · exact this

theorem outranks_trans {p : Precedence} {u v w : VehicleId} (h : p.outranks u v = true)
    (k : p.outranks v w = true) : p.outranks u w = true := by
  cases p <;> simp only [outranks, VehicleId.lt_iff, decide_eq_true_eq] at * <;> omega

end Precedence

end Junction
