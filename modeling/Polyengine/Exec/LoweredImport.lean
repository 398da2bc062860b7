import Polyengine.Library.Place
import Polyengine.Task.Subtask

/-!
# Lowered imports

The callbacks with which a lowered host import moves the subtask of its call. They are stated over
any state with a subtask in it; how parameters are lifted and results lowered is a parameter.
-/

set_option autoImplicit false

namespace Polyengine.Exec

open Polyengine.Cabi Polyengine.Library Polyengine.Task

variable {State Param Result : Type}

/-- `HOST_RESULT_DELIVERY_CANCELLED`. -/
def hostResultDeliveryCancelled : Failure := .thrown "host result delivery cancelled"

section

variable (subtask : Place State Subtask) (onProgress : Command State Failure Unit)

def onStart (liftParams : Command State Failure Param) : Command State Failure Param := do
  onProgress
  assert_ ((← subtask.read).state = .starting) "on_start on a started subtask"
  subtask.change fun st => { st with state := .started }
  liftParams

/-- `onResolve` on a cancellation; no results are lowered. -/
def onResolveCancelled : Command State Failure Unit := do
  onProgress
  assert_ ((← subtask.read).cancellationRequested = true)
    "resolved as cancelled without a cancellation request"
  subtask.revise fun st => st.resolve st.state.cancelled []

/-- `onResolve` on results; `checkpoint` is that of a result that was prepared for transfer. -/
def onResolveReturned (lowerResults : Command State Failure (List CoreValue))
    (checkpoint : Command State Failure Unit) : Command State Failure Unit := do
  onProgress
  assert_ ((← subtask.read).state = .started) "on_resolve on a subtask that never started"
  let flatResults ← lowerResults
  checkpoint
  subtask.revise (·.resolve .returned flatResults)

end

/-- Neither a cancelled subtask nor a poisoned instance gets a result. -/
def checkLoweredResultDelivery (subtask : Subtask) (poison : Option Failure) :
    Except Failure Unit := do
  if subtask.resolved then throw hostResultDeliveryCancelled
  match poison with
  | some cause => throw cause
  | none => return ()

theorem checkLoweredResultDelivery_ok {subtask : Subtask} {poison : Option Failure} {value : Unit} :
    checkLoweredResultDelivery subtask poison = .ok value ↔
      subtask.resolved = false ∧ poison = none := by
  unfold checkLoweredResultDelivery
  cases subtask.resolved with
  | true => simp [throw, throwThe, MonadExceptOf.throw, bind, Except.bind]
  | false =>
      cases poison with
      | some cause => simp [throw, throwThe, MonadExceptOf.throw]
      | none => simp [pure, Except.pure]

end Polyengine.Exec
