import Polyengine.Cabi.Custody
import Polyengine.Cabi.Lower
import Polyengine.Task.Streams

/-!
# Lifting and lowering handles

Resource handles, the readable ends of streams and futures, and error contexts: how they enter and
leave the handle table of an instance, and the context that lowers and lifts them for one call.
-/

set_option autoImplicit false

namespace Polyengine.Cabi

open Polyengine.Library
open Polyengine.Task.Streams (Kind CopyState)

/-- A shared stream or future as lifting and lowering see it, with its readable end. -/
structure Shared where
  kind : Kind
  t : Option DespecializedValType
  dropped : Bool
  boundStore : Option Nat
  index : Option Nat
  elem : Option DespecializedValType
  state : CopyState
  inWaitableSet : Bool
  idleDropNotified : Bool

/-- The tables and objects that handle operations touch. Tables are named by their instance,
resource handles by their object and borrow scopes by their number; `host` is what the hooks of
host-held ends keep. -/
structure Handles (Host : Type) where
  tables : Nat → TenuredTable HandleEntry
  nextObject : Nat
  numLends : Nat → Nat
  lenders : Nat → List Nat
  numBorrows : Nat → Int
  shared : Nat → Shared
  host : Host

/-- The world of one lift or lower operation. -/
structure HandleState (Host Guest : Type) where
  handles : Handles Host
  custody : Option PreparedCustody
  guest : Guest

/-- A borrow is lifted into the lenders of a subtask and lowered into the count of a task. -/
inductive BorrowScope where
  | subtask (scope : Nat)
  | task (scope : Nat)
  deriving Repr, DecidableEq

/-- The fields of `LiftLowerContext` that handles need, and the facts they look up: the instance
that implements a resource, the store of an instance, the equality of element types. -/
structure HandleContext (Host : Type) where
  inst : Option Nat
  borrowScope : Option BorrowScope
  checkpoint : Option (Handles Host → Except Failure Unit)
  impl : Nat → Option Nat
  storeOf : Nat → Nat
  valTypeEqual : Option DespecializedValType → Option DespecializedValType → Bool
  sameElemType : Option DespecializedValType → Option DespecializedValType → Bool
  onLowered : Nat → Nat → Host → Host
  onLifted : Nat → Nat → Host → Host
  onDropped : Nat → Host → Host

mutual

def containsBorrow : DespecializedValType → Bool
  | .borrow _ => true
  | .list element _ => containsBorrow element
  | .stream element | .future element => containsBorrowOption element
  | .record fields => containsBorrowRecord fields
  | .variant cases => containsBorrowVariant cases
  | _ => false

def containsBorrowOption : Option DespecializedValType → Bool
  | none => false
  | some type => containsBorrow type

def containsBorrowRecord : List DespecializedFieldType → Bool
  | [] => false
  | ⟨_, type⟩ :: rest => containsBorrow type || containsBorrowRecord rest

def containsBorrowVariant : List DespecializedCaseType → Bool
  | [] => false
  | ⟨_, type⟩ :: rest => containsBorrowOption type || containsBorrowVariant rest

end

namespace Handles

variable {Host : Type}

def setTable (handles : Handles Host) (inst : Nat) (table : TenuredTable HandleEntry) :
    Handles Host :=
  { handles with tables := Function.update handles.tables inst table }

def setShared (handles : Handles Host) (v : Nat) (shared : Shared) : Handles Host :=
  { handles with shared := Function.update handles.shared v shared }

/-- `inst.handles.add(e)`. -/
def addEntry (handles : Handles Host) (inst : Nat) (e : HandleEntry) :
    Except Failure (Nat × Handles Host) := do
  let (i, table) ← (handles.tables inst).add e
  return (i, handles.setTable inst table)

/-- `inst.handles.remove(i)`. -/
def removeEntry (handles : Handles Host) (inst i : Nat) :
    Except Failure (HandleEntry × Handles Host) := do
  let (e, table) ← (handles.tables inst).remove i
  return (e, handles.setTable inst table)

end Handles

section

variable {Host Guest : Type}

abbrev Handling (Host Guest Result : Type) : Type :=
  Command (HandleState Host Guest) Failure Result

def modifyHandles (change : Handles Host → Handles Host) : Handling Host Guest Unit :=
  modify fun s => { s with handles := change s.handles }

def addHandle (inst : Nat) (e : HandleEntry) : Handling Host Guest Nat := do
  let s ← get
  let (i, handles) ← s.handles.addEntry inst e
  set { s with handles }
  return i

/-- `new ResourceHandle(rt, rep, own, borrowScope)`. -/
def newResourceHandle (rt rep : Nat) (own : Bool) (borrowScope : Option Nat) :
    Handling Host Guest HandleEntry := do
  let object := (← get).handles.nextObject
  modifyHandles fun handles => { handles with nextObject := object + 1 }
  return .resource object rt rep own borrowScope

/-- `cx.preparedCustody?.inserted(table, i, h)`. -/
def custodyInserted (inst i : Nat) (e : HandleEntry) : Handling Host Guest Unit :=
  modify fun s =>
    { s with custody := s.custody.map fun custody =>
        custody.inserted {
          table := inst
          index := i
          entry := e
          tenure := (s.handles.tables inst).tenureAt i } }

/-- `removeHandleWithUnwind`: an end that was removed before the operation failed is retired. -/
def removeHandleWithUnwind {Result : Type} (onDropped : Nat → Host → Host) (inst i : Nat)
    (use : HandleEntry → Handling Host Guest Result) : Handling Host Guest Result := do
  let s ← get
  let (entry, handles) ← s.handles.removeEntry inst i
  set { s with handles }
  tryCatch (use entry) fun cause => do
    match entry with
    | .readableEnd v =>
        if ((← get).handles.shared v).dropped then pure ()
        else
          modifyHandles fun handles =>
            { handles.setShared v { handles.shared v with dropped := true } with
              host := onDropped v handles.host }
    | _ => pure ()
    throw cause

namespace HandleContext

variable (cx : HandleContext Host)

def runCheckpoint : Handling Host Guest Unit := do
  match cx.checkpoint with
  | none => return ()
  | some checkpoint => checkpoint (← get).handles

def requireInst : Handling Host Guest Nat :=
  match cx.inst with
  | none => throw (Failure.assertion "context requires a component instance")
  | some inst => return inst

def lowerOwn (rep rt : Nat) : Handling Host Guest Nat := do
  let h ← newResourceHandle rt rep true none
  let inst ← cx.requireInst
  let i ← addHandle inst h
  custodyInserted inst i h
  cx.runCheckpoint
  return i

/-- `lowerBorrow`; the instance that implements the resource gets the representation itself. -/
def lowerBorrow (rep rt : Nat) : Handling Host Guest Nat := do
  match cx.borrowScope with
  | some (.task scope) =>
      if cx.inst.isSome ∧ cx.inst = cx.impl rt then return rep
      let h ← newResourceHandle rt rep false (some scope)
      modifyHandles fun handles =>
        { handles with
          numBorrows :=
            Function.update handles.numBorrows scope (handles.numBorrows scope + 1) }
      let inst ← cx.requireInst
      let i ← addHandle inst h
      cx.runCheckpoint
      return i
  | _ => throw (Failure.assertion "lowering a borrow requires a task borrow scope")

/-- `assertAsyncValueDestinationStore`, and the binding to the store that follows it. -/
def bindStore (v inst : Nat) : Handling Host Guest Unit := do
  let shared := (← get).handles.shared v
  match shared.boundStore with
  | some store =>
      if store = cx.storeOf inst then pure ()
      else throw (Failure.thrown "cannot pass this directly between independent stores")
  | none =>
      modifyHandles fun handles =>
        handles.setShared v { shared with boundStore := some (cx.storeOf inst) }

/-- `claimReadableEnd`. -/
def claimReadableEnd (v : Nat) (elem : Option DespecializedValType) : Handling Host Guest Unit := do
  let shared := (← get).handles.shared v
  assert_ (shared.index = none) "readable end already has an owner"
  modifyHandles fun handles =>
    handles.setShared v { shared with
      elem
      idleDropNotified := shared.idleDropNotified || shared.dropped }

/-- `lowerStream` and `lowerFuture`. -/
def lowerAsyncValue (kind : Kind) (v : Nat) (declared : Option DespecializedValType) :
    Handling Host Guest Nat := do
  let shared := (← get).handles.shared v
  assert_ (shared.kind = kind) "lower expects a shared value of its kind"
  assert_ (containsBorrowOption declared = false) "may not contain a borrow"
  assert_ (cx.sameElemType shared.t declared = true) "element type mismatch"
  match cx.inst with
  | none => throw (Failure.assertion "lower requires a component instance")
  | some inst =>
      cx.bindStore v inst
      modifyHandles fun handles => { handles with host := cx.onLowered v inst handles.host }
      cx.runCheckpoint
      claimReadableEnd v declared
      let i ← addHandle inst (.readableEnd v)
      modifyHandles fun handles =>
        handles.setShared v { handles.shared v with index := some i }
      custodyInserted inst i (.readableEnd v)
      cx.runCheckpoint
      return i

def lowerErrorContext (v : Nat) : Handling Host Guest Nat := do
  match cx.inst with
  | none => throw (Failure.assertion "error-context lower requires a component instance")
  | some inst => addHandle inst (.errorContext v)

/-- The handle arms of `lowerFlat` and `store`. -/
def lowerHandle (d : DespecializedValType) (v : Value) : Handling Host Guest Nat := do
  match d with
  | .own rt => do cx.lowerOwn (← asRep v) rt
  | .borrow rt => do cx.lowerBorrow (← asRep v) rt
  | .stream element => do cx.lowerAsyncValue .stream (← asShared v) element
  | .future element => do cx.lowerAsyncValue .future (← asShared v) element
  | .errorContext => do cx.lowerErrorContext (← asShared v)
  | _ => throw illTyped

def liftOwn (i rt : Nat) : Handling Host Guest Nat := do
  let inst ← cx.requireInst
  removeHandleWithUnwind cx.onDropped inst i fun entry => do
    match entry with
    | .resource object rt' rep own _ =>
        trapIf (rt' ≠ rt) "resource type mismatch"
        trapIf ((← get).handles.numLends object ≠ 0) "handle still lent out"
        trapIf (own = false) "expected own handle"
        return rep
    | _ => throw (Failure.trap "not a resource handle")

/-- `addLender`: the scope remembers the handle until the call it lends to is over. -/
def addLender (scope object : Nat) : Handling Host Guest Unit :=
  modifyHandles fun handles =>
    { handles with
      numLends := Function.update handles.numLends object (handles.numLends object + 1)
      lenders := Function.update handles.lenders scope (handles.lenders scope ++ [object]) }

def liftBorrow (i rt : Nat) : Handling Host Guest Nat := do
  match cx.borrowScope with
  | some (.subtask scope) =>
      let inst ← cx.requireInst
      match ← ((← get).handles.tables inst).toTable.get i with
      | .resource object rt' rep _ _ =>
          trapIf (rt' ≠ rt) "resource type mismatch"
          addLender scope object
          return rep
      | _ => throw (Failure.trap "not a resource handle")
  | _ => throw (Failure.assertion "lifting a borrow requires a subtask borrow scope")

/-- The checks and effects of `liftAsyncValue` on the end that was removed. -/
def liftRemovedEnd (kind : Kind) (inst v : Nat) (elem : Option DespecializedValType) :
    Handling Host Guest Nat := do
  let shared := (← get).handles.shared v
  trapIf (shared.kind ≠ kind) "lift: handle is not an end of its kind"
  trapIf (cx.valTypeEqual shared.elem elem = false) "lift: element type mismatch"
  trapIf (shared.state = .done) "cannot lift after the end is done"
  trapIf (shared.state ≠ .idle) "cannot remove busy end"
  trapIf (shared.inWaitableSet = true) "cannot lift while it's in a waitable set"
  cx.bindStore v inst
  modifyHandles fun handles =>
    { handles.setShared v { handles.shared v with index := none } with
      host := cx.onLifted v inst handles.host }
  return v

/-- `liftStream` and `liftFuture`. -/
def liftAsyncValue (kind : Kind) (i : Nat) (elem : Option DespecializedValType) :
    Handling Host Guest Nat := do
  assert_ (containsBorrowOption elem = false) "may not contain a borrow"
  match cx.inst with
  | none => throw (Failure.assertion "lift requires a component instance")
  | some inst =>
      removeHandleWithUnwind cx.onDropped inst i fun entry =>
        match entry with
        | .readableEnd v => cx.liftRemovedEnd kind inst v elem
        | _ => throw (Failure.trap "lift: handle is not an end of its kind")

def liftErrorContext (i : Nat) : Handling Host Guest Nat := do
  match cx.inst with
  | none => throw (Failure.assertion "error-context lift requires a component instance")
  | some inst =>
      match ← ((← get).handles.tables inst).toTable.get i with
      | .errorContext identity => return identity
      | _ => throw (Failure.trap "error-context lift: handle is not an error-context")

/-- The handle arms of `liftFlat` and `load`. -/
def liftHandle (d : DespecializedValType) (i : Nat) : Handling Host Guest Value := do
  match d with
  | .own rt => do return .number (← cx.liftOwn i rt)
  | .borrow rt => do return .number (← cx.liftBorrow i rt)
  | .stream element => do return .token (← cx.liftAsyncValue .stream i element)
  | .future element => do return .token (← cx.liftAsyncValue .future i element)
  | .errorContext => do return .token (← cx.liftErrorContext i)
  | _ => throw illTyped

end HandleContext

/-- The outcome of the guest's `realloc`: the number it returned or the trap it ended with, and the
memory and the guest's own state after it. With `may_leave` cleared every built-in that reaches a
table traps, so nothing else changes. -/
structure ReallocOutcome (Guest : Type) where
  result : Except String Int
  length : Nat
  byte : Nat → UInt8
  guest : Guest

/-- The guest's `realloc` and the other options of `cabiOptions`. -/
structure Options (Guest : Type) where
  stringEncoding : StringEncoding
  realloc : Option (Nat → Nat → Nat → Nat → Option MemInst → Guest → ReallocOutcome Guest)
  littleEndian : Bool
  byteOffset : Nat

/-- The wrapper that `cabiOptions` puts around `realloc`; the result is taken `>>> 0`. -/
def callRealloc
    (realloc : Nat → Nat → Nat → Nat → Option MemInst → Guest → ReallocOutcome Guest)
    (old oldByteLength alignment newByteLength : Nat) : Cx (HandleState Host Guest) Nat := do
  let state ← get
  let ran := realloc old oldByteLength alignment newByteLength state.memory state.world.guest
  let memory := state.memory.map fun mem => { mem with length := ran.length, byte := ran.byte }
  set { state with memory, world := { state.world with guest := ran.guest } }
  match ran.result with
  | .ok n => return LittleEndian.wrap 32 n
  | .error message => throw (Failure.trap message)

def callContext (options : Options Guest) (cx : HandleContext Host) :
    LiftLowerContext (HandleState Host Guest) where
  stringEncoding := options.stringEncoding
  realloc := options.realloc.map callRealloc
  hasInstance := cx.inst.isSome
  checkpoint := cx.checkpoint.map fun _ => onWorld cx.runCheckpoint
  liftHandle := fun d i => onWorld (cx.liftHandle d i)
  lowerHandle := fun d v => onWorld (cx.lowerHandle d v)
  littleEndian := options.littleEndian
  byteOffset := options.byteOffset

end

end Polyengine.Cabi
