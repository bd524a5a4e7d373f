import Junction.Neighbor.Basic
import Junction.RightOfWay.Clearance
import Junction.RightOfWay.Precedence

/-! # Policies

A policy answers the question of one vehicle at one moment from what that vehicle knows of its
peers. The answer is a function of the question: nothing is remembered from one to the next. A
baseline is a policy that others can build on, and so also tells whether the vehicle comes first of
all and who goes before whom.
-/

namespace Junction

/-- Whether two routes may not be driven at the same time. -/
abbrev ConflictTest := Route → Route → Bool

/-- The question that a policy answers. -/
structure Evaluation where
  me : VehicleId
  route : Route
  neighbors : Snapshot
  now : Timestamp
  deriving DecidableEq, Repr

/-- A rule that grants or refuses access. -/
structure Policy where
  protocol : Protocol
  answer : Evaluation → Clearance

/-- A policy that others can build on. -/
structure Baseline extends Policy where
  /-- Whether nobody is inside and no peer that waits goes before the vehicle. -/
  hasPriority : Evaluation → Bool
  precedence : Precedence

namespace Evaluation

/-- The peers that wait for access and go before the vehicle. -/
def outranking (e : Evaluation) (p : Precedence) : List Neighbor :=
  e.neighbors.requesting.filter fun n => p.outranks n.id e.me

/-- Whether the route of a peer conflicts with the vehicle's own. -/
def clashes (e : Evaluation) (conflicts : ConflictTest) (n : Neighbor) : Bool :=
  conflicts e.route n.route

theorem mem_outranking {e : Evaluation} {p : Precedence} {n : Neighbor} :
    n ∈ e.outranking p ↔
      n ∈ e.neighbors.neighbors ∧ n.status = .requesting ∧ p.outranks n.id e.me = true := by
  simp [outranking, Snapshot.mem_requesting, and_assoc]

end Evaluation

end Junction
