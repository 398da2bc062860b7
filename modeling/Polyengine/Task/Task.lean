import Polyengine.Cabi.Trap
import Polyengine.Library.Place

/-!
# Tasks

One call to an export as its callee sees it: from which states it may start, return and cancel.
-/

set_option autoImplicit false
set_option linter.dupNamespace false

namespace Polyengine.Task

open Polyengine.Cabi Polyengine.Library

inductive TaskState where
  | initial
  | pendingCancel
  | started
  | cancelDelivered
  | resolved
  deriving Repr, DecidableEq

structure Task where
  state : TaskState
  numBorrows : Int
  deriving Repr, DecidableEq

namespace Task

def new : Task where
  state := .initial
  numBorrows := 0

def toState (state : TaskState) (task : Task) : Task := { task with state }

section

variable {State : Type} (task : Place State Task)

def requestCancellation : Command State Failure Unit := do
  if (← task.read).state = .initial then
    task.change (toState .pendingCancel)
  else
    assert_ ((← task.read).state = .started) "request_cancellation"
    task.change (toState .pendingCancel)

def deliverPendingCancel : Command State Failure Bool := do
  if (← task.read).state = .pendingCancel then
    task.change (toState .cancelDelivered)
    return true
  else return false

def start (onStart : Command State Failure Unit) : Command State Failure Unit := do
  assert_ ((← task.read).state = .initial) "start on a started task"
  task.change (toState .started)
  onStart

/-- The task is resolved only after its results arrived. -/
def return_ (onResolve : Command State Failure Unit) : Command State Failure Unit := do
  trapIf ((← task.read).state = .resolved) "task.return on a resolved task"
  trapIf (0 < (← task.read).numBorrows) "borrow handles still remain at the end of the call"
  onResolve
  task.change (toState .resolved)

def cancel (onResolve : Command State Failure Unit) : Command State Failure Unit := do
  trapIf ((← task.read).state ≠ .cancelDelivered)
    "task.cancel without a delivered cancellation request"
  trapIf (0 < (← task.read).numBorrows) "borrow handles still remain at the end of the call"
  onResolve
  task.change (toState .resolved)

end

end Task

end Polyengine.Task
