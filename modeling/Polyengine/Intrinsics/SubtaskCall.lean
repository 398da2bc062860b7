import Polyengine.Cabi.HandleTable
import Polyengine.Exec.LoweredImport
import Polyengine.Task.Task

/-!
# Asynchronous lowered calls

One call through a lowered host import or through `async-start-call`, with everything that moves its
subtask: the callee, the settlement of a host promise, the built-ins of the caller, the delivery of
events and the scheduler that resumes a parked caller. Each action is what the runtime runs without
interruption; host code and other guest code run between the actions.
-/

set_option autoImplicit false

namespace Polyengine.Intrinsics

open Polyengine.Cabi Polyengine.Library Polyengine.Task Polyengine.Exec

/-- Who implements the import, with the marks of a host function. -/
inductive CalleeKind where
  | host (asyncTyped deferCancel : Bool)
  | fact
  deriving Repr, DecidableEq

/-- A slot of the caller's table: the subtask of this call or any other object. -/
inductive CallerEntry where
  | subtask
  | other (identity : Nat)
  deriving Repr, DecidableEq

/-- Whether the lowered call has returned to its caller, and how. -/
inductive Activation where
  | calling
  | returned
  | failed
  deriving Repr, DecidableEq

/-- A `subtask.cancel` on the way: in its callback, where a host call may still have to be
discarded, or parked. -/
inductive Cancelling where
  | idle
  | callback (i : Nat) (async discarding : Bool)
  | parked (i : Nat) (async : Bool)
  deriving Repr, DecidableEq

/-- The index that `subtask.cancel` was called with. -/
def Cancelling.index : Cancelling → Option Nat
  | .idle => none
  | .callback i _ _ | .parked i _ => some i

/-- `onProgress` is the index that the event setter captured, `none` while it does nothing; `pending`
and `committing` say where the settlement of a host call stands. `observed` is history: the state
codes that the caller was shown. -/
structure SubtaskCall where
  kind : CalleeKind
  jspi : Bool
  subtask : Subtask
  task : Task
  pending : Bool
  committing : Bool
  activation : Activation
  onProgress : Option Nat
  cancelling : Cancelling
  table : Table CallerEntry
  numLends : Nat → Nat
  poison : Option Failure
  observed : List Nat

namespace SubtaskCall

def initial (kind : CalleeKind) (jspi : Bool) (table : Table CallerEntry) (numLends : Nat → Nat) :
    SubtaskCall where
  kind := kind
  jspi := jspi
  subtask := .new
  task := .new
  pending := false
  committing := false
  activation := .calling
  onProgress := none
  cancelling := .idle
  table := table
  numLends := numLends
  poison := none
  observed := []

abbrev Calling (Result : Type) : Type := Command SubtaskCall Failure Result

def subtaskOf : Place SubtaskCall Subtask where
  get := SubtaskCall.subtask
  set := fun subtask call => { call with subtask }
  get_set := fun _ _ => rfl

def taskOf : Place SubtaskCall Task where
  get := SubtaskCall.task
  set := fun task call => { call with task }
  get_set := fun _ _ => rfl

def observe (code : Nat) : Calling Unit :=
  modify fun call => { call with observed := call.observed ++ [code] }

def onProgressed : Calling Unit := do
  match (← get).onProgress with
  | none => return ()
  | some subtaski => subtaskOf.change (·.setSubtaskPendingEvent subtaski)

def addLender (object : Nat) : Calling Unit := do
  subtaskOf.revise (·.addLender object)
  modify fun call =>
    { call with numLends := Function.update call.numLends object (call.numLends object + 1) }

def addLenders : List Nat → Calling Unit
  | [] => return ()
  | object :: rest => do
      addLender object
      addLenders rest

def release (lenders : List Nat) : Calling Unit :=
  modify fun call =>
    { call with
      numLends := lenders.foldl
        (fun numLends object => Function.update numLends object (numLends object - 1))
        call.numLends }

def deliverResolve : Calling Unit := do release (← subtaskOf.run Subtask.deliverResolve)

def unwindSubtaskLenders : Calling Unit := do release (← subtaskOf.run Subtask.unwindLenders)

/-- `getPendingEvent`, which the caller sees. -/
def takePendingEvent : Calling EventTuple := do
  let (event, lenders) ← subtaskOf.run Subtask.getPendingEvent
  release lenders
  observe event.payload
  return event

/-! ### The callee of `async-start-call` -/

/-- The `on_start` of the callee's task; the copy adapter lends handles and may trap. -/
def calleeStart (lent : List Nat) (adapter : Except Failure Unit) : Calling Unit := do
  addLenders lent
  liftM adapter
  if (← subtaskOf.read).state = .starting then
    subtaskOf.change fun st => { st with state := .started }
    onProgressed

/-- `onCallerResults`; `returned` tells results from the `null` of a cancellation. -/
def onCallerResults (returned : Bool) : Calling Unit := do
  if (← subtaskOf.read).resolved = false then
    subtaskOf.revise fun st => st.resolve (if returned then .returned else st.state.cancelled) []
  onProgressed

/-- The `on_resolve` of the callee's task on results, which the copy adapter writes. -/
def calleeResolve (adapter : Except Failure Unit) : Calling Unit := do
  liftM adapter
  onCallerResults true

/-! ### The built-ins of the caller -/

/-- `finishSubtaskCancel`. -/
def finishSubtaskCancel (i : Nat) : Calling Unit := do
  let event ← takePendingEvent
  let st ← subtaskOf.read
  assert_ (event.code = .subtask ∧ event.index = i ∧ event.payload = st.state.code)
    "unexpected event delivered by subtask.cancel"
  assert_ ((← st.resolveDelivered) = true) "subtask.cancel did not deliver the resolution"

/-- The claim of `subtask.cancel` ends. -/
def endCancel : Calling Unit :=
  modify fun call =>
    { call with
      subtask := { call.subtask with hasSyncWaiter := false }
      cancelling := .idle }

/-- `onCancel` up to the host code or the callee that it runs. -/
def onCancel (i : Nat) (async : Bool) : Calling Unit := do
  match (← get).kind with
  | .fact => do
      modify fun call => { call with cancelling := .callback i async false }
      Task.requestCancellation taskOf
  | .host _ deferCancel =>
      modify fun call => { call with cancelling := .callback i async (!deferCancel) }

/-- `subtask.cancel` until its callback runs other code. -/
def subtaskCancel (i : Nat) (async : Bool) : Calling Unit := do
  match ← (← get).table.get i with
  | .other _ => throw (.trap "subtask.cancel: handle is not a subtask")
  | .subtask => do
      let st ← subtaskOf.read
      st.checkCancel
      if st.resolved then
        assert_ (st.hasPendingEvent = true)
          "resolved subtask without a pending event at cancellation"
        finishSubtaskCancel i
      else
        subtaskOf.change fun st => { st with cancellationRequested := true, hasSyncWaiter := true }
        tryCatch (onCancel i async) fun e => do
          endCancel
          throw e

def waitableJoin (wi : Nat) (si : Option Nat) : Calling Unit := do
  match ← (← get).table.get wi with
  | .other _ => return ()
  | .subtask => do
      trapIf ((← subtaskOf.read).hasSyncWaiter = true)
        "waitable cannot be used synchronously while added to a waitable set (waitable.join)"
      subtaskOf.revise (·.join si)

/-- `subtask.drop`; the handle is gone even when the drop traps. -/
def subtaskDrop (i : Nat) : Calling Unit := do
  let (entry, table) ← (← get).table.remove i
  modify fun call => { call with table }
  match entry with
  | .other _ => throw (.trap "subtask.drop: handle is not a subtask")
  | .subtask => subtaskOf.revise Subtask.drop

def deliverFrom (set : Nat) : Calling Unit := do
  let st ← subtaskOf.read
  if st.wset = some set ∧ st.hasPendingEvent then
    let _ ← takePendingEvent

/-- The built-ins of the caller that reach this call or its table; the last two stand for all those
that add or remove other handles. -/
inductive GuestAction where
  | subtaskCancel (i : Nat) (async : Bool)
  | waitableJoin (wi : Nat) (si : Option Nat)
  | subtaskDrop (i : Nat)
  | waitableSetPoll (set : Nat)
  | addOther (identity : Nat)
  | removeOther (i : Nat)
  deriving Repr, DecidableEq

/-- Every built-in first looks at the flag of its instance. -/
def guest (mayLeave : Bool) (action : GuestAction) : Calling Unit := do
  trapIf (mayLeave = false) "cannot leave component instance"
  match action with
  | .subtaskCancel i async => subtaskCancel i async
  | .waitableJoin wi si => waitableJoin wi si
  | .subtaskDrop i => subtaskDrop i
  | .waitableSetPoll set => deliverFrom set
  | .addOther identity => do
      let (_, table) ← (← get).table.add (.other identity)
      modify fun call => { call with table }
  | .removeOther i => do
      let (entry, table) ← (← get).table.remove i
      modify fun call => { call with table }
      trapIf (entry = .subtask) "handle is of another kind"

/-! ### Settling a host call -/

/-- The guest's `realloc` while results are lowered; `may_leave` is cleared. -/
def reallocs : List GuestAction → Calling Unit
  | [] => return ()
  | action :: rest => do
      guest false action
      reallocs rest

def checkDelivery : Calling Unit := do
  checkLoweredResultDelivery (← subtaskOf.read) (← get).poison

/-- The last part of `commitTransferFreeResult` and of `commitLoweredResult`, from the check that
follows all host code: no other code than `realloc` runs in it. -/
def commit (transferFree : Bool) (during : List GuestAction)
    (lowered : Except Failure (List CoreValue)) : Calling Unit := do
  checkDelivery
  onResolveReturned subtaskOf onProgressed
    (do reallocs during; liftM lowered)
    (if transferFree then pure () else checkDelivery)

/-- The first lines of the reaction to the promise; the immediate arm starts with the same check. -/
def settle : Calling Unit := do
  modify fun call => { call with pending := false }
  let call ← get
  if call.subtask.resolved || call.poison.isSome then return ()
  modify fun call => { call with committing := true }

/-- The callback of a cancelled host call: `call.discard()`, which may throw, and `onResolve(null)`. -/
def discard (i : Nat) (async : Bool) (outcome : Except Failure Unit) : Calling Unit := do
  modify fun call => { call with cancelling := .callback i async false }
  tryCatch (do
    liftM outcome
    onResolveCancelled subtaskOf onProgressed) fun e => do
      endCancel
      throw e

/-! ### Returning to the caller -/

/-- Eager completion: no handle, no event. -/
def reportResolved : Calling Unit := do
  deliverResolve
  match (← get).kind with
  | .host _ _ =>
      assert_ ((← subtaskOf.read).flatResults = []) "async lower produced flat results"
  | .fact => pure ()
  modify fun call => { call with activation := .returned }
  observe SubtaskState.returned.code

def reportHandle : Calling Unit := do
  let (subtaski, table) ← (← get).table.add .subtask
  modify fun call => { call with table, onProgress := some subtaski, activation := .returned }
  let packed ← packSubtaskResult (← subtaskOf.read).state subtaski
  observe (unpackSubtaskResult packed).1

/-- The tail of a lowered import and `report` of `async-start-call`. -/
def report : Calling Unit := do
  let call ← get
  match call.kind with
  | .host asyncTyped _ =>
      assert_ (asyncTyped = true ∨ call.subtask.resolved = true)
        "a non-async-typed import must resolve before returning"
  | .fact => pure ()
  if call.subtask.resolved then reportResolved else reportHandle

/-- The call ends without a result. The adapter's call and an abandoned park unwind the lenders. -/
def failCall : Calling Unit := do
  modify fun call => { call with activation := .failed }
  if (← get).kind = .fact then unwindSubtaskLenders

/-- What `subtask.cancel` answers when it does not park: a resolved state, or BLOCKED. -/
def finishOrBlocked (i : Nat) : Calling Unit := do
  if (← subtaskOf.read).resolved then finishSubtaskCancel i

/-- The `finally` of `subtask.cancel`. -/
def endingCancel (command : Calling Unit) : Calling Unit := do
  tryCatch command fun e => do
    endCancel
    throw e
  endCancel

/-- `subtask.cancel` after its callback; `determinate` is what the scheduler says of the callee. -/
def cancelReturns (i : Nat) (async determinate : Bool) : Calling Unit := do
  let call ← get
  let resolved := call.subtask.resolved
  if call.jspi = false then
    if resolved || async then endingCancel (finishOrBlocked i)
    else endingCancel (throw (.thrown "NeedsJspi"))
  else if !(determinate && (async || resolved)) || (async && !resolved) then
    modify fun call => { call with cancelling := .parked i async }
  else endingCancel (finishOrBlocked i)

/-- The `produce` of a parked `subtask.cancel`. -/
def cancelResumes (i : Nat) : Calling Unit := do
  endCancel
  finishOrBlocked i

/-! ### The actions -/

inductive Action where
  /-- The callee runs: its start, its results, its acknowledgement of a cancellation. -/
  | calleeStart (lent : List Nat) (adapter : Except Failure Unit)
  | calleeReturn (adapter : Except Failure Unit)
  | calleeDeliversCancel
  | calleeCancel
  | calleeBorrows (numBorrows : Int)
  /-- The host import: its start, a pending promise, the settlement and its parts. -/
  | hostStart (lent : List Nat) (lifted : Except Failure Unit)
  | hostPending
  | hostSettles
  | hostCommits (transferFree : Bool) (during : List GuestAction)
      (lowered : Except Failure (List CoreValue))
  | hostAbandons
  | hostDiscards (outcome : Except Failure Unit)
  /-- The call returns to its caller, or fails before that. -/
  | report (parked : Bool)
  | fails
  /-- The caller runs, or the scheduler delivers an event of a set. -/
  | guest (mayLeave : Bool) (action : GuestAction)
  | deliver (set : Nat)
  | cancelReturns (determinate : Bool)
  | cancelThrows
  | cancelResumes
  | cancelAbandoned
  | poisons (cause : Failure)

/-- An action that cannot happen now does nothing. -/
def step : Action → Calling Unit
  | .calleeStart lent adapter => do
      if (← get).kind = .fact then
        Task.start taskOf (calleeStart lent adapter)
  | .calleeReturn adapter => do
      let call ← get
      if call.kind = .fact ∧ call.task.state ≠ .initial then
        Task.return_ taskOf (calleeResolve adapter)
  | .calleeDeliversCancel => do
      if (← get).kind = .fact then
        let _ ← Task.deliverPendingCancel taskOf
  | .calleeCancel => do
      if (← get).kind = .fact then
        Task.cancel taskOf (onCallerResults false)
  | .calleeBorrows numBorrows => taskOf.change fun task => { task with numBorrows }
  | .hostStart lent lifted => do
      let call ← get
      if call.kind ≠ .fact ∧ call.activation = .calling then
        onStart subtaskOf onProgressed do
          addLenders lent
          liftM lifted
  | .hostPending => do
      let call ← get
      if call.kind ≠ .fact ∧ call.activation = .calling then
        modify fun call => { call with pending := true }
  | .hostSettles => do
      let call ← get
      if call.kind ≠ .fact ∧ (call.pending ∨ call.activation = .calling) then settle
  | .hostCommits transferFree during lowered => do
      let call ← get
      if call.kind ≠ .fact ∧ call.committing = true then
        modify fun call => { call with committing := false }
        commit transferFree during lowered
  | .hostAbandons => modify fun call => { call with committing := false }
  | .hostDiscards outcome => do
      let call ← get
      match call.cancelling with
      | .callback i async true => do
          if call.kind ≠ .fact then discard i async outcome
      | _ => return ()
  | .report parked => do
      let call ← get
      if call.activation = .calling ∧ call.committing = false then
        tryCatch report fun e => do
          modify fun call => { call with activation := .failed }
          if parked ∧ call.kind = .fact then unwindSubtaskLenders
          throw e
  | .fails => do
      if (← get).activation = .calling then failCall
  | .guest mayLeave action => guest mayLeave action
  | .deliver set => deliverFrom set
  | .cancelReturns determinate => do
      match (← get).cancelling with
      | .callback i async false => cancelReturns i async determinate
      | _ => return ()
  | .cancelThrows => do
      match (← get).cancelling with
      | .callback _ _ _ => endCancel
      | _ => return ()
  | .cancelResumes => do
      match (← get).cancelling with
      | .parked i async => do
          if async || (← subtaskOf.read).resolved then cancelResumes i
      | _ => return ()
  | .cancelAbandoned => do
      match (← get).cancelling with
      | .parked _ _ => endCancel
      | _ => return ()
  | .poisons cause => do
      if (← get).poison = none then
        modify fun call => { call with poison := some cause }

/-- The call after an action, whether it succeeded or failed. -/
def after (action : Action) (call : SubtaskCall) : SubtaskCall := ((step action).outcome call).2

end SubtaskCall

end Polyengine.Intrinsics
