import Junction.RightOfWay.Policy

/-! # Vehicles on free routes cross together

The policy beneath has the first word. Where it refuses, a vehicle may still join those inside if
none of them is in its way and no peer that waits, goes before it and is in its way could do the
same.
-/

namespace Junction.RightOfWay

/-- The answer to a vehicle that the policy beneath refused. -/
def join (conflicts : ConflictTest) (p : Precedence) (refusal : Clearance) (e : Evaluation) :
    Clearance :=
  if e.neighbors.crossing.any (e.clashes conflicts) then .wait
  else if e.neighbors.crossing.isEmpty then refusal
  else if (e.outranking p).any (e.clashes conflicts) then .wait
  else .startingAt e.now

/-- The policy that lets in vehicles whose routes are free. -/
def parallel (conflicts : ConflictTest) (base : Baseline) : Baseline where
  protocol := .parallel
  answer e :=
    let first := base.answer e
    if first.isSafe then first else join conflicts base.precedence first e
  hasPriority := base.hasPriority
  precedence := base.precedence

end Junction.RightOfWay
