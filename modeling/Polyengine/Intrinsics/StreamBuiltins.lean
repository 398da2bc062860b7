import Polyengine.Task.Streams

/-!
# The stream and future built-ins

Every built-in validates the end it names and then drives the shared object. Handle and pointer
arguments are the unsigned values that the entry points normalise them to.
-/

set_option autoImplicit false

namespace Polyengine.Intrinsics.StreamBuiltins

open Polyengine.Cabi Polyengine.Library Polyengine.Task Polyengine.Task.Streams

def BLOCKED : Nat := 0xffffffff

/-- What a built-in leaves its caller with: a core value, a frame suspended by JSPI, or the
capability failure that plain mode raises in its place. -/
inductive Outcome where
  | value (payload : Nat)
  | suspended
  | needsJspi (what : String)
  | unit
  deriving Repr, DecidableEq

/-- The arguments of a copy with the options and the suspension mode of its call site. -/
structure CopyCall (Elem : Type) where
  elem : Option Elem
  inst : Nat
  i : Nat
  ptr : Nat
  n : Nat
  async : Bool
  memory : Option Nat
  jspi : Bool

/-- The arguments of a cancellation. -/
structure CancelCall (Elem : Type) where
  elem : Option Elem
  inst : Nat
  i : Nat
  async : Bool
  jspi : Bool

section

variable {layer : ElementLayer}

def requireMayLeave (inst : Nat) (what : String) : StreamProgram layer Unit := do
  trapIf ((← get).mayLeave inst = false) (what ++ ": cannot leave component instance")

/-- Read a handle and check that it is the expected end of this shared object. -/
def requireEnd (kind : Kind) (side : Side) (inst i : Nat) (message : String) :
    StreamProgram layer Unit := do
  let s ← get
  let e ← (liftM ((s.tables inst).get i) : StreamProgram layer Entry)
  trapIf (¬(e = .copyEnd side ∧ s.kind = kind)) message

/-- Take a handle out of its table and check that it is the expected end. -/
def removeEnd (kind : Kind) (side : Side) (inst i : Nat) (message : String) :
    StreamProgram layer Unit := do
  let s ← get
  let (e, table) ← (liftM ((s.tables inst).remove i) : StreamProgram layer (Entry × Table Entry))
  modify fun s => { s with tables := Function.update s.tables inst table }
  trapIf (¬(e = .copyEnd side ∧ s.kind = kind)) message
  modify fun s => s.setEnd side { s.ends side with holder := .removed }

/-- Put an end into a table and give it the index it got there. -/
def addEnd (side : Side) (inst : Nat) : StreamProgram layer Nat := do
  let s ← get
  let (i, table) ← (liftM ((s.tables inst).add (.copyEnd side)) :
    StreamProgram layer (Nat × Table Entry))
  modify fun s => { s with tables := Function.update s.tables inst table }
  modify fun s => s.setEnd side { s.ends side with index := some i, holder := .held inst i }
  pure i

/-- Allocate the buffer of a new copy. -/
def newBuffer (side : Side) (buffer : GuestBuffer layer.Elem) : StreamProgram layer BufferRef := do
  let ref : BufferRef := ⟨side, (← get).copies side⟩
  modify fun s => { s with copies := Function.update s.copies side (s.copies side + 1) }
  modify fun s => s.setBuffer ref buffer
  pure ref

/-! ## `stream.{read,write}` and `future.{read,write}` -/

/-- `take` in `finishCopy`. -/
def take (kind : Kind) (side : Side) (i : Nat) : StreamProgram layer Outcome := do
  let (copy, event) ← getPendingEvent side
  assert_ (event.code = eventCode kind side ∧ event.index = i)
    ("unexpected event delivered by a " ++ kind.name ++ " copy")
  report side copy event
  pure (.value event.payload)

/-- `finishCopy`. -/
def finishCopy (kind : Kind) (side : Side) (call : CopyCall layer.Elem) :
    StreamProgram layer Outcome := do
  if ((← get).ends side).hasPendingEvent then take kind side call.i
  else if call.async then pure (.value BLOCKED)
  else if call.jspi then
    modify fun s => s.setEnd side { s.ends side with syncWaiter := some call.i }
    pure .suspended
  else
    pure (.needsJspi ("synchronous " ++ kind.name ++ " copy with no counterpart ready " ++
      "(the calling wasm frame must block until the other end arrives)"))

/-- The checks that `streamCopy` and `futureCopy` share, each with its own texts. -/
def validateCopy (kind : Kind) (side : Side) (doneMessage : String)
    (call : CopyCall layer.Elem) : StreamProgram layer Unit := do
  requireMayLeave call.inst (kind.name ++ " copy")
  requireEnd kind side call.inst call.i (kind.name ++ " copy: wrong end type for this handle")
  modify fun s => s.setEnd side { s.ends side with index := some call.i }
  let copyEnd := (← get).ends side
  trapIf (layer.valTypeEqual copyEnd.elem call.elem = false)
    (kind.name ++ " copy: element type mismatch")
  trapIf (copyEnd.state = .done) doneMessage
  trapIf (copyEnd.state ≠ .idle) "cannot have concurrent operations active on a future/stream"
  trapIf (copyEnd.inWaitableSet = true ∧ call.async = false)
    ("synchronous " ++ kind.name ++ " copy on an end that is in a waitable set")

/-- Hand the buffer of a validated copy to the shared object. -/
def startCopy (kind : Kind) (side : Side) (inst : Nat) (buffer : GuestBuffer layer.Elem) :
    StreamProgram layer Unit := do
  let ref ← newBuffer side buffer
  setState side .copying
  let closure : CopyClosure := { side, buffer := ref }
  match kind, side with
  | .stream, .readable => SharedStreamImpl.read inst ref closure
  | .stream, .writable => SharedStreamImpl.write inst ref closure
  | .future, .readable => SharedFutureImpl.read inst ref closure
  | .future, .writable => SharedFutureImpl.write inst ref closure

def streamCopy (side : Side) (call : CopyCall layer.Elem) : StreamProgram layer Outcome := do
  validateCopy .stream side
    (match side with
     | .readable =>
         "cannot read from stream after being notified that the writable end dropped"
     | .writable =>
         "cannot write to stream after being notified that the readable end dropped")
    call
  let buffer ← (liftM (GuestBuffer.create call.elem call.inst call.memory call.ptr call.n
    (← get).memories) : StreamProgram layer (GuestBuffer layer.Elem))
  assert_ (call.elem.all (fun elem => !layer.isChar elem) = true) "stream copy: char element"
  startCopy .stream side call.inst buffer
  finishCopy .stream side call

/-- `futureCopy`; the call's count is not read. -/
def futureCopy (side : Side) (call : CopyCall layer.Elem) : StreamProgram layer Outcome := do
  validateCopy .future side
    (match side with
     | .readable => "cannot read from future after previous read succeeded"
     | .writable =>
         "cannot write to future after previous write succeeded or readable end dropped")
    call
  let buffer ← (liftM (GuestBuffer.create call.elem call.inst call.memory call.ptr 1
    (← get).memories) : StreamProgram layer (GuestBuffer layer.Elem))
  startCopy .future side call.inst buffer
  finishCopy .future side call

/-- The blocked frame of a synchronous copy resumes: `produce`. -/
def resumeCopy (kind : Kind) (side : Side) (i : Nat) : StreamProgram layer Outcome := do
  modify fun s => s.setEnd side { s.ends side with syncWaiter := none }
  take kind side i

/-! ## `{stream,future}.cancel-{read,write}` -/

/-- An undelivered stream completion is reported as cancelled with the same count. -/
def supersedeCompleted (kind : Kind) (payload : Nat) : Nat :=
  if kind = .stream ∧ payload &&& 0xf = CopyResult.completed.code then
    (payload &&& 0xfffffff0) ||| CopyResult.cancelled.code
  else payload

def cancelName : Kind → Side → String
  | .stream, .readable => "stream.cancel-read"
  | .stream, .writable => "stream.cancel-write"
  | .future, .readable => "future.cancel-read"
  | .future, .writable => "future.cancel-write"

def takeCancelEvent (kind : Kind) (side : Side) (i : Nat) : StreamProgram layer Outcome := do
  let (copy, event) ← getPendingEvent side
  assert_ (¬((← get).ends side).copying ∧ event.code = eventCode kind side ∧ event.index = i)
    ("unexpected event delivered by " ++ cancelName kind side)
  let payload := supersedeCompleted kind event.payload
  report side copy { event with payload }
  pure (.value payload)

def cancelCopy (kind : Kind) (side : Side) (call : CancelCall layer.Elem) :
    StreamProgram layer Outcome := do
  let what := cancelName kind side
  requireMayLeave call.inst what
  requireEnd kind side call.inst call.i (what ++ ": wrong end type for this handle")
  let copyEnd := (← get).ends side
  trapIf (layer.valTypeEqual copyEnd.elem call.elem = false) (what ++ ": element type mismatch")
  trapIf (copyEnd.state ≠ .copying ∨ copyEnd.hasSyncWaiter = true)
    (what ++ ": end is not in a cancellable copy")
  trapIf (copyEnd.inWaitableSet = true ∧ call.async = false)
    (what ++ ": synchronous cancel on an end that is in a waitable set")
  setState side .cancellingCopy
  if copyEnd.hasPendingEvent then takeCancelEvent kind side call.i
  else
    cancel
    if ((← get).ends side).hasPendingEvent then takeCancelEvent kind side call.i
    else if call.async then pure (.value BLOCKED)
    else if call.jspi then pure .suspended
    else
      pure (.needsJspi ("synchronous " ++ what ++ " whose copy did not settle immediately " ++
        "(the calling wasm frame must block)"))

/-! ## `{stream,future}.drop-{readable,writable}` -/

def dropName : Kind → Side → String
  | .stream, .readable => "stream.drop-readable"
  | .stream, .writable => "stream.drop-writable"
  | .future, .readable => "future.drop-readable"
  | .future, .writable => "future.drop-writable"

def dropEnd (kind : Kind) (side : Side) (elem : Option layer.Elem) (inst hi : Nat) :
    StreamProgram layer Outcome := do
  let what := dropName kind side
  requireMayLeave inst what
  removeEnd kind side inst hi (what ++ ": wrong end type for this handle")
  trapIf (layer.valTypeEqual ((← get).ends side).elem elem = false)
    (what ++ ": element type mismatch")
  CopyEnd.drop side
  pure .unit

/-! ## Handing the readable end on -/

/-- The checks on the state of a readable end that leaves its table. -/
def requireTransferable (kind : Kind) : StreamProgram layer Unit := do
  let copyEnd := (← get).ends .readable
  trapIf (copyEnd.state = .done)
    (match kind with
     | .future => "cannot lift future after previous read succeeded"
     | .stream => "cannot lift stream after being notified that the writable end dropped")
  trapIf (copyEnd.state ≠ .idle) ("cannot remove busy " ++ kind.name)
  trapIf (copyEnd.inWaitableSet = true)
    ("cannot lift " ++ kind.name ++ " while it's in a waitable set")

/-- `transferAsyncEnd`, the FACT form of a lift followed by a lower. -/
def transferAsyncEnd (kind : Kind) (srcInst dstInst : Nat) (srcElem dstElem : Option layer.Elem)
    (srcIdx : Nat) : StreamProgram layer Outcome := do
  removeEnd kind .readable srcInst srcIdx
    (kind.name ++ ": handle is not a readable " ++ kind.name ++ " end")
  let s ← get
  trapIf (layer.valTypeEqual (s.ends .readable).elem srcElem = false)
    (kind.name ++ ": source element mismatch")
  trapIf (layer.sameElemType s.t dstElem = false) (kind.name ++ ": destination element mismatch")
  requireTransferable kind
  modify fun s => s.setEnd .readable { s.ends .readable with elem := dstElem, index := none }
  let dstIdx ← addEnd .readable dstInst
  pure (.value dstIdx)

/-- `liftAsyncValue`: the readable end leaves the table. -/
def liftAsyncValue (kind : Kind) (inst i : Nat) (elem : Option layer.Elem) :
    StreamProgram layer Outcome := do
  removeEnd kind .readable inst i
    (kind.name ++ " lift: handle is not a " ++ kind.name ++ " end")
  trapIf (layer.valTypeEqual ((← get).ends .readable).elem elem = false)
    (kind.name ++ " lift: element type mismatch")
  requireTransferable kind
  modify fun s => s.setEnd .readable { s.ends .readable with index := none, holder := .transit }
  pure .unit

/-- `lowerStream` and `lowerFuture`: the readable end enters the destination table. -/
def lowerAsyncValue (kind : Kind) (inst : Nat) (declared : Option layer.Elem) :
    StreamProgram layer Outcome := do
  let s ← get
  assert_ (layer.sameElemType s.t declared = true)
    (kind.name ++ " element type mismatch: host end carries " ++ layer.fmtValType s.t ++
      ", callee expects " ++ layer.fmtValType declared)
  claimReadableEnd declared
  let i ← addEnd .readable inst
  pure (.value i)

/-! ## `waitable.join` -/

/-- `createWaitableJoin`, on a handle that is one of the two ends. -/
def waitableJoin (inst wi si : Nat) : StreamProgram layer Outcome := do
  requireMayLeave inst "waitable.join"
  let s ← get
  let w ← (liftM ((s.tables inst).get wi) : StreamProgram layer Entry)
  match w with
  | .waitableSet _ => throw (.trap "waitable.join: handle is not a waitable")
  | .other => pure .unit
  | .copyEnd side =>
      trapIf ((s.ends side).hasSyncWaiter = true)
        "waitable cannot be used synchronously while added to a waitable set (waitable.join)"
      if si = 0 then
        join side none
        pure .unit
      else
        let set ← (liftM ((s.tables inst).get si) : StreamProgram layer Entry)
        match set with
        | .waitableSet identity =>
            join side (some identity)
            pure .unit
        | _ => throw (.trap ("waitable.join: handle " ++ toString si ++ " is not a waitable set"))

end

end Polyengine.Intrinsics.StreamBuiltins
