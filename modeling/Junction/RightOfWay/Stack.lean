import Junction.RightOfWay.Parallel
import Junction.RightOfWay.Reservation
import Junction.RightOfWay.Serial

/-! # The three policies of a vehicle

The policies build on each other: the parallel one on the serial one, and the reserving one on the
parallel one.
-/

namespace Junction.RightOfWay

/-- What can be chosen about a policy. -/
structure Options where
  precedence : Precedence
  slots : SlotChoice
  deriving DecidableEq, Repr, Inhabited

def policyFor (protocol : Protocol) (conflicts : ConflictTest) (options : Options) : Baseline :=
  let base := serial options.precedence
  match protocol with
  | .serial => base
  | .parallel => parallel conflicts base
  | .reservation => reservation conflicts options.slots.select (parallel conflicts base)

theorem policyFor_protocol (protocol : Protocol) (conflicts : ConflictTest) (options : Options) :
    (policyFor protocol conflicts options).protocol = protocol := by
  cases protocol <;> rfl

end Junction.RightOfWay
