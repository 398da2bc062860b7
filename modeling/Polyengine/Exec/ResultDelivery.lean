import Polyengine.Cabi.CustodyCleanup
import Polyengine.Exec.LoweredImport
import Polyengine.Library.Transition

/-!
# Delivering the result of a host import

The reaction to the promise of an asynchronous lowered host import: preparing the result, acquiring
the ownership in it, starting its producers and lowering it. Between these steps host code and guest
code run, which may cancel the subtask and poison the instance.
-/

set_option autoImplicit false

namespace Polyengine.Exec

open Polyengine.Cabi Polyengine.Library Polyengine.Task

/-- A resolution of the subtask, and whether results were being lowered by then. -/
structure Resolution where
  state : SubtaskState
  lowering : Bool
  deriving Repr, DecidableEq

/-- What the call of a host import keeps beside the handles; `rest` is the state of all other code.
The fields from `lowering` to `custody` are history: the values whose lowering began, the
resolutions, what was cleaned up and the custody as it was before it was cleaned up or delivered. -/
structure ImportHost (Rest : Type) where
  subtask : Subtask
  onProgress : Option Nat
  poison : Option Failure
  registered : Bool
  awaiting : Bool
  hostFailure : Option Failure
  lowering : Option (List Value)
  resolutions : List Resolution
  disposed : List Cleanup
  custody : Option PreparedCustody
  rest : Rest

variable {Rest Guest : Type}

abbrev ImportHandles (Rest : Type) : Type := Handles (ImportHost Rest)

abbrev ImportState (Rest Guest : Type) : Type := CxState (HandleState (ImportHost Rest) Guest)

def hostIn : Place (ImportHandles Rest) (ImportHost Rest) where
  get := Handles.host
  set := fun host handles => { handles with host }
  get_set := fun _ _ => rfl

def subtaskIn : Place (ImportHandles Rest) Subtask where
  get := fun handles => handles.host.subtask
  set := fun subtask handles => { handles with host := { handles.host with subtask } }
  get_set := fun _ _ => rfl

def handlesIn : Place (ImportState Rest Guest) (ImportHandles Rest) where
  get := fun state => state.world.handles
  set := fun handles state => { state with world := { state.world with handles } }
  get_set := fun _ _ => rfl

section Cancel

variable (deferCancel : Bool)

def onProgressed : Command (ImportHandles Rest) Failure Unit := do
  match (← hostIn.read).onProgress with
  | none => return ()
  | some subtaski => subtaskIn.change (·.setSubtaskPendingEvent subtaski)

/-- The history of resolutions. -/
def recordResolution : Command (ImportHandles Rest) Failure Unit :=
  hostIn.change fun host =>
    { host with resolutions := host.resolutions ++ [⟨host.subtask.state, host.lowering.isSome⟩] }

/-- The `onCancel` of a pending call; discarding the host call may throw. -/
def onCancel (discard : Except Failure Unit) : Command (ImportHandles Rest) Failure Unit := do
  hostIn.change fun host => { host with registered := false }
  liftM discard
  onResolveCancelled subtaskIn onProgressed
  recordResolution

def takePendingEvent : Command (ImportHandles Rest) Failure Unit := do
  let _ ← subtaskIn.run Subtask.getPendingEvent

def endClaim : Command (ImportHandles Rest) Failure Unit :=
  subtaskIn.change fun st => { st with hasSyncWaiter := false }

/-- `subtask.cancel` of a host import. -/
def subtaskCancel (discard : Except Failure Unit) : Command (ImportHandles Rest) Failure Unit := do
  let st ← subtaskIn.read
  st.checkCancel
  if st.resolved then takePendingEvent
  else
    subtaskIn.change fun st => { st with cancellationRequested := true, hasSyncWaiter := true }
    tryCatch (if deferCancel then pure () else onCancel discard) fun e => do
      endClaim
      throw e
    endClaim
    if (← subtaskIn.read).resolved then takePendingEvent

end Cancel

/-- Code that moves neither the state of the subtask nor the settlement of its call: it may deliver
events, join sets and work on the tables, the handles and its own state. -/
structure SameCall (host next : ImportHost Rest) : Prop where
  state : next.subtask.state = host.subtask.state
  flatResults : next.subtask.flatResults = host.subtask.flatResults
  requested : next.subtask.cancellationRequested = host.subtask.cancellationRequested
  poison : next.poison = host.poison
  awaiting : next.awaiting = host.awaiting
  lowering : next.lowering = host.lowering
  resolutions : next.resolutions = host.resolutions
  disposed : next.disposed = host.disposed
  custody : next.custody = host.custody

structure Elsewhere (Rest : Type) where
  change : ImportHandles Rest → ImportHandles Rest
  valid : ∀ handles, (∀ inst, (handles.tables inst).Valid) →
    ∀ inst, ((change handles).tables inst).Valid
  same : ∀ handles, SameCall handles.host (change handles).host

/-- What other code does while the call is pending. -/
inductive Interference (Rest : Type) where
  | cancel (discard : Except Failure Unit)
  | poison (cause : Failure)
  | elsewhere (other : Elsewhere Rest)

/-- A built-in that fails has failed its own caller. -/
def Interference.apply (deferCancel : Bool) (interference : Interference Rest)
    (handles : ImportHandles Rest) : ImportHandles Rest :=
  match interference with
  | .cancel discard => ((subtaskCancel deferCancel discard).outcome handles).2
  | .poison cause =>
      { handles with
        host := { handles.host with poison := handles.host.poison.or (some cause) } }
  | .elsewhere other => other.change handles

def interfere (deferCancel : Bool) (script : List (Interference Rest))
    (handles : ImportHandles Rest) : ImportHandles Rest :=
  script.foldl (fun handles interference => interference.apply deferCancel handles) handles

/-- A callback into host code; guest code that it calls may also write memory. -/
structure Callback (Rest Guest Result : Type) where
  script : List (Interference Rest)
  memory : Option MemInst → Option MemInst
  guest : Guest → Guest
  result : Except Failure Result

def Callback.run {Result : Type} (deferCancel : Bool) (callback : Callback Rest Guest Result) :
    Command (ImportState Rest Guest) Failure Result := do
  modify fun state =>
    { state with
      memory := callback.memory state.memory
      world :=
        { state.world with
          handles := interfere deferCancel callback.script state.world.handles
          guest := callback.guest state.world.guest } }
  callback.result

/-- How a prepared result gives up its ownership: not at all, as raw handles, or through the
wrappers of the facade, whose callbacks return the handle and may leave a producer to start. -/
inductive Transfer (Rest Guest : Type) where
  | free
  | raw
  | facade
      (bridge : DespecializedValType → Value → ImportState Rest Guest →
        Callback Rest Guest (Nat × Option Nat))
      (producer : Nat → ImportState Rest Guest → Callback Rest Guest Unit)

structure Prepared (Rest Guest : Type) (ts : List ValType) where
  array : Bool
  transfer : Transfer Rest Guest
  values : List Value
  same : values.length = ts.length

/-- The parts of a lowered import that its reaction uses. The hooks of `cx` reach the state of other
code only; `dispose` is what cleaning up an ownership runs. -/
structure Import (Rest Guest : Type) where
  deferCancel : Bool
  results : List ValType
  options : Options Guest
  cx : HandleContext Rest
  outParam : Option ValueIter
  dispose : Cleanup → ImportHandles Rest → List (Interference Rest) × Except Failure Unit

/-- The context that lowers the result, with the checkpoint of a result that was prepared for
transfer. -/
def resultContext (cx : HandleContext Rest) (checked : Bool) : HandleContext (ImportHost Rest) where
  inst := cx.inst
  borrowScope := cx.borrowScope
  checkpoint :=
    if checked then
      some fun handles => checkLoweredResultDelivery handles.host.subtask handles.host.poison
    else none
  impl := cx.impl
  storeOf := cx.storeOf
  valTypeEqual := cx.valTypeEqual
  sameElemType := cx.sameElemType
  onLowered := fun v inst host => { host with rest := cx.onLowered v inst host.rest }
  onLifted := fun v inst host => { host with rest := cx.onLifted v inst host.rest }
  onDropped := fun v host => { host with rest := cx.onDropped v host.rest }

mutual

def needsTransfer : DespecializedValType → Bool
  | .own _ | .borrow _ | .stream _ | .future _ => true
  | .list element _ => needsTransfer element
  | .record fields => needsTransferRecord fields
  | .variant cases => needsTransferVariant cases
  | _ => false

def needsTransferRecord : List DespecializedFieldType → Bool
  | [] => false
  | ⟨_, type⟩ :: rest => needsTransfer type || needsTransferRecord rest

def needsTransferVariant : List DespecializedCaseType → Bool
  | [] => false
  | ⟨_, some type⟩ :: rest => needsTransfer type || needsTransferVariant rest
  | ⟨_, none⟩ :: rest => needsTransferVariant rest

end

section Transfer

variable (lowered : Import Rest Guest)

def checkDelivery : Command (ImportState Rest Guest) Failure Unit :=
  handlesIn.focus do
    let host ← hostIn.read
    checkLoweredResultDelivery host.subtask host.poison

def beside : Place (PreparedCustody × ImportState Rest Guest) (ImportState Rest Guest) where
  get := Prod.snd
  set := fun state acquiring => (acquiring.1, state)
  get_set := fun _ _ => rfl

variable (bridge : DespecializedValType → Value → ImportState Rest Guest →
  Callback Rest Guest (Nat × Option Nat))

/-- One call into the facade: the handle, with its producer noted. -/
def bridged (d : DespecializedValType) (v : Value) : Acquiring (ImportState Rest Guest) Nat := do
  beside.focus checkDelivery
  let (_, state) ← get
  let (handle, start) ← beside.focus ((bridge d v state).run lowered.deferCancel)
  match start with
  | none => return handle
  | some start => do
      modify fun (custody, state) => (custody.deferStart start, state)
      return handle

def acquireOwnership (cleanup : Cleanup) : Acquiring (ImportState Rest Guest) Unit := do
  let (custody, state) ← get
  set (← custody.acquire cleanup, state)

/-- The element loop of `transferPreparedValue`. -/
def transferElements (transferElement : Value → Acquiring (ImportState Rest Guest) Value) :
    List Value → Acquiring (ImportState Rest Guest) (List Value)
  | [] => return []
  | e :: rest => do
      let e ← transferElement e
      return e :: (← transferElements transferElement rest)

mutual

def transferPreparedValue (v : Value) (d : DespecializedValType) :
    Acquiring (ImportState Rest Guest) Value :=
  if needsTransfer d then
    match d with
    | .own rt => do
        let rep ← bridged lowered bridge d v
        acquireOwnership (.callDtor rt rep)
        beside.focus checkDelivery
        return .number rep
    | .borrow _ => do return .number (← bridged lowered bridge d v)
    | .stream _ | .future _ => do
        let shared ← bridged lowered bridge d v
        acquireOwnership (.dropShared shared)
        return .token shared
    | .list element _ => do
        let values ← transferElements (fun e => transferPreparedValue e element) (← arrayLike v)
        return .array values
    | .record fields => do return .record (← transferFields v fields)
    | .variant cases =>
        match v with
        | .variant kind value => do return .variant kind (← transferCase kind value cases)
        | _ => throw illTyped
    | _ => return v
  else return v

def transferFields (v : Value) : List DespecializedFieldType →
    Acquiring (ImportState Rest Guest) (List (String × Value))
  | [] => return []
  | ⟨label, type⟩ :: rest => do
      let value ← transferPreparedValue (← propertyOf v label) type
      return (label, value) :: (← transferFields v rest)

/-- The payload of the first case with the label, if it has one. -/
def transferCase (kind : String) (value : Value) : List DespecializedCaseType →
    Acquiring (ImportState Rest Guest) Value
  | [] => return value
  | ⟨label, content⟩ :: rest =>
      if label == kind then
        match content with
        | some type => transferPreparedValue value type
        | none => return value
      else transferCase kind value rest

end

/-- The loop of the transfer of `prepareHostValues`; it keeps the number of values. -/
def transferPreparedValues :
    List Value → List ValType → Acquiring (ImportState Rest Guest) (List Value)
  | v :: vs, t :: ts => do
      let v ← transferPreparedValue lowered bridge v (despecialize t)
      return v :: (← transferPreparedValues vs ts)
  | vs, _ => return vs

end Transfer

/-- `PreparedCustody.start`. -/
def startProducers (lowered : Import Rest Guest)
    (producer : Nat → ImportState Rest Guest → Callback Rest Guest Unit) :
    List Nat → Command (ImportState Rest Guest) Failure Unit
  | [] => return ()
  | start :: rest => do
      checkDelivery
      (producer start (← get)).run lowered.deferCancel
      checkDelivery
      startProducers lowered producer rest

section Settle

variable (lowered : Import Rest Guest)

/-- The loops over the types of a result. -/
def transferValues (transfer : Transfer Rest Guest) (values : List Value) :
    Acquiring (ImportState Rest Guest) (List Value) :=
  match transfer with
  | .free => return values
  | .raw => do
      acquireRawValues checkDelivery values lowered.results
      return values
  | .facade bridge _ => transferPreparedValues lowered bridge values lowered.results

/-- `lowerFlatValues` of the results; with asynchronous options they spill. -/
def lowerResults (checked : Bool) (values : List Value) :
    Command (ImportState Rest Guest) Failure (List CoreValue) := do
  handlesIn.focus (hostIn.change fun host => { host with lowering := some values })
  let (flatResults, _) ← lowerFlatValues
    (callContext lowered.options (resultContext lowered.cx checked)) 0 values lowered.results
    lowered.outParam
  return flatResults

def subtaskAt : Place (ImportState Rest Guest) Subtask where
  get := fun state => subtaskIn.get state.world.handles
  set := fun subtask state =>
    { state with
      world := { state.world with handles := subtaskIn.set subtask state.world.handles } }
  get_set := fun _ _ => rfl

/-- `onResolve` on the values of a result. -/
def onResolve (checked : Bool) (values : List Value) :
    Command (ImportState Rest Guest) Failure Unit := do
  onResolveReturned subtaskAt (handlesIn.focus onProgressed) (lowerResults lowered checked values)
    (if checked then checkDelivery else pure ())
  handlesIn.focus recordResolution

/-- What cleaning up one ownership runs; `disposed` is history. -/
def disposeOf (cleanup : Cleanup) : Command (ImportHandles Rest) Failure Unit := do
  hostIn.change fun host => { host with disposed := host.disposed ++ [cleanup] }
  let (script, result) := lowered.dispose cleanup (← get)
  modify (interfere lowered.deferCancel script)
  result

/-- The custody is about to be cleaned up or delivered; it is kept as history. -/
def closeCustody (custody : PreparedCustody) : Command (ImportState Rest Guest) Failure Unit :=
  handlesIn.focus (hostIn.change fun host => { host with custody := some custody })

/-- `prepared.cleanup(e)` with the failure that ended the delivery. -/
def cleanupCustody (custody : PreparedCustody) : Command (ImportState Rest Guest) Failure Unit := do
  closeCustody custody
  handlesIn.focus (Command.locally custody (PreparedCustody.cleanup (disposeOf lowered) true))

def commitTransferFreeResult (values : List Value) :
    Command (ImportState Rest Guest) Failure Unit := do
  checkDelivery
  onResolve lowered false values

def commitWithoutCustody (values : List Value) :
    Command (ImportState Rest Guest) Failure Unit := do
  checkDelivery
  onResolve lowered true values

/-- The commit of a result whose transfer may acquire ownership. While it is lowered the context
holds the custody. -/
def commitWithCustody (transfer : Transfer Rest Guest) (values : List Value) :
    Command (ImportState Rest Guest) Failure Unit := do
  checkDelivery
  let state ← get
  let (transferred, (custody, state)) :=
    (transferValues lowered transfer values).outcome (PreparedCustody.empty, state)
  set state
  let started : Command (ImportState Rest Guest) Failure Unit :=
    match transfer with
    | .facade _ producer => startProducers lowered producer custody.starts
    | _ => pure ()
  tryCatch (do
    let values ← transferred
    checkDelivery
    started
    modify fun state => { state with world := { state.world with custody := some custody } }
    onResolve lowered true values
    closeCustody (((← get).world.custody).getD custody)
    modify fun state => { state with world := { state.world with custody := none } }) fun e => do
      let kept := ((← get).world.custody).getD custody
      modify fun state => { state with world := { state.world with custody := none } }
      cleanupCustody lowered kept
      throw e

def commit (prepared : Prepared Rest Guest lowered.results) :
    Command (ImportState Rest Guest) Failure Unit :=
  if prepared.array then commitTransferFreeResult lowered prepared.values
  else
    match prepared.transfer with
    | .free => commitWithoutCustody lowered prepared.values
    | transfer => commitWithCustody lowered transfer prepared.values

/-- The reaction to the promise. -/
def settle (prepare : Callback Rest Guest (Prepared Rest Guest lowered.results)) :
    Command (ImportState Rest Guest) Failure Unit := do
  handlesIn.focus (hostIn.change fun host => { host with registered := false, awaiting := false })
  let host := (← get).world.handles.host
  if host.subtask.resolved || host.poison.isSome then return ()
  tryCatch (do
    let prepared ← prepare.run lowered.deferCancel
    commit lowered prepared) fun e => do
      let host := (← get).world.handles.host
      if e ≠ hostResultDeliveryCancelled ∧ host.poison = none then
        handlesIn.focus (hostIn.change fun host => { host with hostFailure := some e })

end Settle

/-- What happens to a pending call: the reaction to its promise, once, or other code. -/
inductive ImportAction (lowered : Import Rest Guest) where
  | settles (prepare : Callback Rest Guest (Prepared Rest Guest lowered.results))
  | interferes (callback : Callback Rest Guest Unit)

def importStep (lowered : Import Rest Guest) (action : ImportAction lowered)
    (state : ImportState Rest Guest) : ImportState Rest Guest :=
  match action with
  | .settles prepare =>
      if state.world.handles.host.awaiting then ((settle lowered prepare).outcome state).2 else state
  | .interferes callback => ((callback.run lowered.deferCancel).outcome state).2

end Polyengine.Exec
