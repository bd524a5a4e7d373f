import Junction.RightOfWay.Policy
import Junction.RightOfWay.SlotChoice

/-! # Vehicles reserve the time at which they enter

A vehicle publishes when it enters and how long it stays, so its peers know when it will have left.
A vehicle that comes first enters at once. One that finds free routes inside joins them; one that
finds its way taken enters when those inside will have left. A vehicle behind others shares the
slot of one that is not in its way, or else enters after all of them, and waits while they have not
said when they enter.
-/

namespace Junction.RightOfWay

/-- The later of an instant and a bound that may be missing. -/
def notBefore (bound : Option Timestamp) (t : Timestamp) : Timestamp :=
  match bound with
  | none => t
  | some b => max b t

/-- When all of the given vehicles will have left, unless one of them has not said that. -/
def exits? (neighbors : List Neighbor) : Option (List Timestamp) :=
  neighbors.mapM Neighbor.exitTime

/-- Enter together with a vehicle inside that enters at `t`, after all peers that go first and are
    in the way. -/
def joinAt (conflicts : ConflictTest) (p : Precedence) (e : Evaluation) (t : Timestamp) :
    Clearance :=
  match exits? ((e.outranking p).filter (e.clashes conflicts)) with
  | none => .wait
  | some exits => .startingAt (notBefore exits.max? t)

/-- Enter behind the peers that go first, and not before `bound`. -/
def queue (conflicts : ConflictTest) (slots : SlotSelection) (p : Precedence) (e : Evaluation)
    (bound : Option Timestamp) : Clearance :=
  let ahead := e.outranking p
  let published := ahead.filter fun n => n.entryTime.isSome
  let inTheWay := published.filter (e.clashes conflicts)
  let free := published.filter fun n => !e.clashes conflicts n
  if ahead.isEmpty then .startingAt (notBefore bound e.now)
  else if ahead.any fun n => n.entryTime.isNone && e.clashes conflicts n then .wait
  else if published.isEmpty then .wait
  else
    let bound := (bound.toList ++ inTheWay.filterMap Neighbor.exitTime).max?
    let slot :=
      match slots free with
      | some shared => shared.entryTime.getD e.now
      | none => (published.filterMap Neighbor.exitTime).max?.getD e.now
    .startingAt (notBefore bound slot)

/-- The answer to a vehicle that does not come first. -/
def reserve (conflicts : ConflictTest) (slots : SlotSelection) (p : Precedence) (e : Evaluation) :
    Clearance :=
  let inside := e.neighbors.crossing
  match exits? (inside.filter (e.clashes conflicts)) with
  | none => .wait
  | some exits =>
    match exits.max?, inside.find? fun n => !e.clashes conflicts n with
    | none, some host => joinAt conflicts p e (host.entryTime.getD e.now)
    | bound, _ => queue conflicts slots p e bound

/-- The policy that reserves times. -/
def reservation (conflicts : ConflictTest) (slots : SlotSelection) (base : Baseline) : Baseline where
  protocol := .reservation
  answer e :=
    if base.hasPriority e then .startingAt e.now
    else reserve conflicts slots base.precedence e
  hasPriority := base.hasPriority
  precedence := base.precedence

end Junction.RightOfWay
