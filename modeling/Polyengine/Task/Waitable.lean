import Polyengine.Cabi.Trap

/-!
# Events

The codes and tuples that waitables deliver to a guest.
-/

set_option autoImplicit false

namespace Polyengine.Task

inductive EventCode where
  | none
  | subtask
  | streamRead
  | streamWrite
  | futureRead
  | futureWrite
  | taskCancelled
  deriving Repr, DecidableEq

/-- The integer a guest sees for an event code. -/
def EventCode.code : EventCode → Nat
  | .none => 0
  | .subtask => 1
  | .streamRead => 2
  | .streamWrite => 3
  | .futureRead => 4
  | .futureWrite => 5
  | .taskCancelled => 6

/-- `EventTuple`: the code, the waitable's table index and the payload. -/
structure EventTuple where
  code : EventCode
  index : Nat
  payload : Nat
  deriving Repr, DecidableEq

end Polyengine.Task
