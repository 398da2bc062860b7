import Mathlib.Logic.Function.Basic
import Polyengine.Cabi.HandleTable
import Polyengine.Cabi.Memory
import Polyengine.Task.Waitable

/-!
# Stream and future rendezvous

The shared object of one guest-created stream or future, its two copy ends and the guest
buffers of their copies. Fields marked as history are never read by the runtime: they record
where an end is, which copies were made and which events were delivered.
-/

set_option autoImplicit false

namespace Polyengine.Task.Streams

open Polyengine.Cabi Polyengine.Library

def bufferMaxLength : Nat := 2 ^ 28 - 1

inductive CopyResult where
  | completed
  | dropped
  | cancelled
  deriving Repr, DecidableEq

def CopyResult.code : CopyResult → Nat
  | .completed => 0
  | .dropped => 1
  | .cancelled => 2

inductive CopyState where
  | idle
  | copying
  | cancellingCopy
  | done
  deriving Repr, DecidableEq

inductive Kind where
  | stream
  | future
  deriving Repr, DecidableEq

inductive Side where
  | readable
  | writable
  deriving Repr, DecidableEq

namespace Side

def peer : Side → Side
  | .readable => .writable
  | .writable => .readable

@[simp] theorem peer_peer (side : Side) : side.peer.peer = side := by cases side <;> rfl

@[simp] theorem peer_ne (side : Side) : side.peer ≠ side := by cases side <;> decide

@[simp] theorem ne_peer (side : Side) : side ≠ side.peer := by cases side <;> decide

theorem eq_or_eq_peer (side other : Side) : other = side ∨ other = side.peer := by
  cases side <;> cases other <;> simp [peer]

end Side

/-- The event code of an end: `ReadableStreamEnd.eventCode` and its siblings. -/
def eventCode : Kind → Side → EventCode
  | .stream, .readable => .streamRead
  | .stream, .writable => .streamWrite
  | .future, .readable => .futureRead
  | .future, .writable => .futureWrite

/-- The element types of streams and futures, with the lifting and lowering of one element.
`null` is the placeholder that a payload-free element type carries. -/
structure ElementLayer where
  Elem : Type
  Value : Type
  null : Value
  isNull : Value → Bool
  isNull_null : isNull null = true
  /-- `valTypeEqual` under local identity, on two present types. -/
  equalLocal : Elem → Elem → Bool
  /-- `valTypeEqual` under underlying identity, on two present types. -/
  equalUnderlying : Elem → Elem → Bool
  isNumber : Elem → Bool
  isChar : Elem → Bool
  fmtValType : Option Elem → String
  alignment : Elem → PtrType → Nat
  elemSize : Elem → PtrType → Nat
  load : Nat → MemInst → Nat → Elem → Except Failure Value
  store : Nat → MemInst → Value → Nat → Elem → Except Failure MemInst
  store_addrType : ∀ {inst : Nat} {mem stored : MemInst} {v : Value} {ptr : Nat} {t : Elem},
    store inst mem v ptr t = .ok stored → stored.addrType = mem.addrType

/-- The `null` cases of `valTypeEqual`. -/
def equalElem {Elem : Type} (equal : Elem → Elem → Bool) : Option Elem → Option Elem → Bool
  | none, none => true
  | some a, some b => equal a b
  | _, _ => false

namespace ElementLayer

variable (layer : ElementLayer)

def valTypeEqual : Option layer.Elem → Option layer.Elem → Bool := equalElem layer.equalLocal

def sameElemType : Option layer.Elem → Option layer.Elem → Bool :=
  equalElem layer.equalUnderlying

def noneOrNumberType : Option layer.Elem → Bool
  | none => true
  | some t => layer.isNumber t

/-- `loadListFromValidRange`: `n` elements from `ptr` on. -/
def loadListFromValidRange (inst : Nat) (mem : MemInst) (t : layer.Elem) :
    Nat → Nat → Except Failure (List layer.Value)
  | _, 0 => pure []
  | ptr, n + 1 => do
      let v ← layer.load inst mem ptr t
      let vs ← loadListFromValidRange inst mem t (ptr + layer.elemSize t mem.ptrType) n
      pure (v :: vs)

/-- `storeListIntoValidRange`: the elements from `ptr` on. -/
def storeListIntoValidRange (inst : Nat) (t : layer.Elem) :
    MemInst → Nat → List layer.Value → Except Failure MemInst
  | mem, _, [] => pure mem
  | mem, ptr, v :: vs => do
      let mem ← layer.store inst mem v ptr t
      storeListIntoValidRange inst t mem (ptr + layer.elemSize t mem.ptrType) vs

theorem loadListFromValidRange_length {layer : ElementLayer} {inst : Nat} {mem : MemInst}
    {t : layer.Elem} : ∀ {n ptr : Nat} {vs : List layer.Value},
      layer.loadListFromValidRange inst mem t ptr n = .ok vs → vs.length = n := by
  intro n
  induction n with
  | zero =>
      intro ptr vs loaded
      cases loaded
      rfl
  | succ n ih =>
      intro ptr vs loaded
      unfold loadListFromValidRange at loaded
      cases first : layer.load inst mem ptr t with
      | error failure => simp [first, bind, Except.bind] at loaded
      | ok v =>
          cases rest : layer.loadListFromValidRange inst mem t
              (ptr + layer.elemSize t mem.ptrType) n with
          | error failure => simp [first, rest, bind, Except.bind] at loaded
          | ok tail =>
              simp only [first, rest, bind, Except.bind, pure, Except.pure,
                Except.ok.injEq] at loaded
              simp [← loaded, ih rest]

theorem storeListIntoValidRange_addrType {layer : ElementLayer} {inst : Nat} {t : layer.Elem} :
    ∀ {vs : List layer.Value} {mem stored : MemInst} {ptr : Nat},
      layer.storeListIntoValidRange inst t mem ptr vs = .ok stored →
        stored.addrType = mem.addrType := by
  intro vs
  induction vs with
  | nil =>
      intro mem stored ptr success
      cases success
      rfl
  | cons v vs ih =>
      intro mem stored ptr success
      unfold storeListIntoValidRange at success
      cases first : layer.store inst mem v ptr t with
      | error failure => simp [first, bind, Except.bind] at success
      | ok next =>
          simp only [first, bind, Except.bind] at success
          exact (ih success).trans (layer.store_addrType first)

end ElementLayer

/-- A guest buffer is named by the end whose copy created it and the copy's number. -/
structure BufferRef where
  side : Side
  number : Nat
  deriving Repr, DecidableEq

/-- `GuestBuffer`, with the address it started from as history. -/
structure GuestBuffer (Elem : Type) where
  t : Option Elem
  inst : Nat
  memory : Nat
  ptr : Nat
  length : Nat
  progress : Nat
  base : Nat

namespace GuestBuffer

variable {Elem : Type}

def remain (buffer : GuestBuffer Elem) : Nat := buffer.length - buffer.progress

def isZeroLength (buffer : GuestBuffer Elem) : Bool := buffer.length == 0

end GuestBuffer

/-- The `reclaim` thunk that an event captures. -/
inductive Reclaim where
  | resetPending
  | nothing
  deriving Repr, DecidableEq

/-- The pending-event thunk of a copy end, by the closure that made it. -/
inductive PendingEvent where
  | streamEvent (result : CopyResult) (reclaim : Reclaim) (buffer : BufferRef)
  | futureEvent (result : CopyResult) (buffer : BufferRef)
  | futureAbandoned (reason : String)
  | idleDrop (abandonReason : Option String)
  deriving Repr, DecidableEq

/-- What the `onCopy` and `onCopyDone` closures of one copy capture. -/
structure CopyClosure where
  side : Side
  buffer : BufferRef
  deriving Repr, DecidableEq

/-- The pending slot of the shared object; its fields are set and cleared together. -/
structure Pending where
  inst : Nat
  buffer : BufferRef
  closure : CopyClosure
  deriving Repr, DecidableEq

/-- Where an end is (history): in a handle table, on its way between a lift and a lower, or
taken out of its table to be dropped. -/
inductive Holder where
  | held (inst index : Nat)
  | transit
  | removed
  deriving Repr, DecidableEq

def Holder.live (poisoned : Nat → Bool) : Holder → Bool
  | .held inst _ => !poisoned inst
  | .transit => true
  | .removed => false

/-- `CopyEnd` with the `Waitable` fields it inherits. `syncWaiter` is `hasSyncWaiter` with the
index that the blocked synchronous copy captured. -/
structure CopyEnd (Elem : Type) where
  state : CopyState
  index : Option Nat
  elem : Option Elem
  pendingEvent : Option PendingEvent
  wset : Option Nat
  syncWaiter : Option Nat
  holder : Holder

namespace CopyEnd

variable {Elem : Type}

/-- An end is busy from the start of a copy to the delivery of its event. -/
def copying (copyEnd : CopyEnd Elem) : Prop :=
  copyEnd.state = .copying ∨ copyEnd.state = .cancellingCopy

instance (copyEnd : CopyEnd Elem) : Decidable copyEnd.copying :=
  inferInstanceAs (Decidable (_ ∨ _))

def hasSyncWaiter (copyEnd : CopyEnd Elem) : Bool := copyEnd.syncWaiter.isSome

def inWaitableSet (copyEnd : CopyEnd Elem) : Bool := copyEnd.wset.isSome

def hasPendingEvent (copyEnd : CopyEnd Elem) : Bool := copyEnd.pendingEvent.isSome

end CopyEnd

/-- What one entry of a handle table is, as far as this shared object can tell. -/
inductive Entry where
  | copyEnd (side : Side)
  | waitableSet (identity : Nat)
  | other
  deriving Repr, DecidableEq

/-- One rendezvous copy (history): the two buffers and the memories as they were before it, the
elements it moved and the memories after it. -/
structure Transfer (layer : ElementLayer) where
  source : BufferRef
  target : BufferRef
  sourceBuffer : GuestBuffer layer.Elem
  targetBuffer : GuestBuffer layer.Elem
  before : Nat → MemInst
  values : List layer.Value
  after : Nat → MemInst

/-- One event that a guest received (history), with the copy it reports, if it reports one. -/
structure Report where
  side : Side
  copy : Option BufferRef
  event : EventTuple
  deriving Repr, DecidableEq

/-- One shared stream or future with everything its builtins read and write. -/
structure State (layer : ElementLayer) where
  kind : Kind
  t : Option layer.Elem
  dropped : Bool
  abandonReason : Option String
  pending : Option Pending
  ends : Side → CopyEnd layer.Elem
  copies : Side → Nat
  buffers : BufferRef → GuestBuffer layer.Elem
  tables : Nat → Table Entry
  memories : Nat → MemInst
  mayLeave : Nat → Bool
  poisoned : Nat → Bool
  transfers : List (Transfer layer)
  reports : List Report

abbrev StreamProgram (layer : ElementLayer) (Result : Type) : Type :=
  Program (State layer) Failure Result

namespace State

variable {layer : ElementLayer}

def setEnd (s : State layer) (side : Side) (copyEnd : CopyEnd layer.Elem) : State layer :=
  { s with ends := Function.update s.ends side copyEnd }

def setBuffer (s : State layer) (ref : BufferRef) (buffer : GuestBuffer layer.Elem) :
    State layer :=
  { s with buffers := Function.update s.buffers ref buffer }

/-- The end is held by a guest that can still run, or on its way to one. -/
def Exists (s : State layer) (side : Side) : Prop :=
  (s.ends side).holder.live s.poisoned = true

instance (s : State layer) (side : Side) : Decidable (s.Exists side) :=
  inferInstanceAs (Decidable (_ = true))

/-- The buffer of the end's latest copy. -/
def currentBuffer (s : State layer) (side : Side) : BufferRef := ⟨side, s.copies side - 1⟩

section

variable (s : State layer) (side : Side) (copyEnd : CopyEnd layer.Elem) (ref : BufferRef)
  (buffer : GuestBuffer layer.Elem)

@[simp] theorem setEnd_ends_same : (s.setEnd side copyEnd).ends side = copyEnd := by
  simp [setEnd]

@[simp] theorem setEnd_ends_peer :
    (s.setEnd side copyEnd).ends side.peer = s.ends side.peer := by simp [setEnd]

@[simp] theorem setEnd_self : s.setEnd side (s.ends side) = s := by simp [setEnd]

theorem setEnd_ends_ne {other : Side} (different : other ≠ side) :
    (s.setEnd side copyEnd).ends other = s.ends other := by simp [setEnd, different]

theorem setEnd_field {Field : Type} (field : CopyEnd layer.Elem → Field)
    (kept : field copyEnd = field (s.ends side)) (other : Side) :
    field ((s.setEnd side copyEnd).ends other) = field (s.ends other) := by
  by_cases same : other = side
  · simp [same, kept]
  · rw [setEnd_ends_ne s side copyEnd same]

theorem setEnd_exists (kept : copyEnd.holder = (s.ends side).holder) (other : Side) :
    (s.setEnd side copyEnd).Exists other ↔ s.Exists other := by
  simp only [Exists, setEnd_field s side copyEnd CopyEnd.holder kept]
  rfl

@[simp] theorem setEnd_kind : (s.setEnd side copyEnd).kind = s.kind := rfl
@[simp] theorem setEnd_t : (s.setEnd side copyEnd).t = s.t := rfl
@[simp] theorem setEnd_dropped : (s.setEnd side copyEnd).dropped = s.dropped := rfl
@[simp] theorem setEnd_abandonReason :
    (s.setEnd side copyEnd).abandonReason = s.abandonReason := rfl
@[simp] theorem setEnd_pending : (s.setEnd side copyEnd).pending = s.pending := rfl
@[simp] theorem setEnd_copies : (s.setEnd side copyEnd).copies = s.copies := rfl
@[simp] theorem setEnd_buffers : (s.setEnd side copyEnd).buffers = s.buffers := rfl
@[simp] theorem setEnd_tables : (s.setEnd side copyEnd).tables = s.tables := rfl
@[simp] theorem setEnd_memories : (s.setEnd side copyEnd).memories = s.memories := rfl
@[simp] theorem setEnd_mayLeave : (s.setEnd side copyEnd).mayLeave = s.mayLeave := rfl
@[simp] theorem setEnd_poisoned : (s.setEnd side copyEnd).poisoned = s.poisoned := rfl
@[simp] theorem setEnd_transfers : (s.setEnd side copyEnd).transfers = s.transfers := rfl
@[simp] theorem setEnd_reports : (s.setEnd side copyEnd).reports = s.reports := rfl
@[simp] theorem setEnd_currentBuffer (other : Side) :
    (s.setEnd side copyEnd).currentBuffer other = s.currentBuffer other := rfl

@[simp] theorem setBuffer_buffers_same : (s.setBuffer ref buffer).buffers ref = buffer := by
  simp [setBuffer]

@[simp] theorem setBuffer_ends : (s.setBuffer ref buffer).ends = s.ends := rfl
@[simp] theorem setBuffer_pending : (s.setBuffer ref buffer).pending = s.pending := rfl
@[simp] theorem setBuffer_copies : (s.setBuffer ref buffer).copies = s.copies := rfl
@[simp] theorem setBuffer_memories : (s.setBuffer ref buffer).memories = s.memories := rfl

@[simp] theorem currentBuffer_side : (s.currentBuffer side).side = side := rfl

end

end State

section SharedObject

variable {layer : ElementLayer}

/-! ## Events and the pending slot -/

def setPendingEvent (side : Side) (event : PendingEvent) : StreamProgram layer Unit :=
  modify fun s => s.setEnd side { s.ends side with pendingEvent := some event }

def setState (side : Side) (state : CopyState) : StreamProgram layer Unit :=
  modify fun s => s.setEnd side { s.ends side with state := state }

def resetPending : StreamProgram layer Unit := modify fun s => { s with pending := none }

def setPending (inst : Nat) (buffer : BufferRef) (closure : CopyClosure) :
    StreamProgram layer Unit :=
  modify fun s => { s with pending := some { inst, buffer, closure } }

/-- The `onCopy` closure of `streamCopy`. -/
def onCopy (closure : CopyClosure) (reclaim : Reclaim) : StreamProgram layer Unit :=
  setPendingEvent closure.side (.streamEvent .completed reclaim closure.buffer)

/-- The `onCopyDone` closures of `streamCopy` and `futureCopy`. -/
def onCopyDone (closure : CopyClosure) (result : CopyResult) : StreamProgram layer Unit := do
  let s ← get
  match s.kind with
  | .stream => setPendingEvent closure.side (.streamEvent result .nothing closure.buffer)
  | .future =>
      let abandoned :=
        if closure.side = .readable ∧ result = .dropped then s.abandonReason else none
      match abandoned with
      | some reason => setPendingEvent closure.side (.futureAbandoned reason)
      | none =>
          assert_ (result ≠ .dropped ∨ closure.side = .writable)
            "a readable future end cannot observe DROPPED"
          setPendingEvent closure.side (.futureEvent result closure.buffer)

def resetAndNotifyPending (result : CopyResult) : StreamProgram layer Unit := do
  match (← get).pending with
  | none => throw (.assertion "reset_and_notify_pending with nothing pending")
  | some pending =>
      resetPending
      onCopyDone pending.closure result

/-- `SharedBase.cancel`. -/
def cancel : StreamProgram layer Unit := resetAndNotifyPending .cancelled

/-- `CopyEnd.armIdleDrop`. -/
def armIdleDrop (side : Side) (abandonReason : Option String) : StreamProgram layer Unit := do
  let s ← get
  if (s.ends side).state = .done ∨ (s.ends side).hasPendingEvent then pure ()
  else setPendingEvent side (.idleDrop abandonReason)

/-- `notifyIdleDrop`: only a readable future end passes the abandonment on. -/
def notifyIdleDrop (side : Side) : StreamProgram layer Unit := do
  let s ← get
  armIdleDrop side (if s.kind = .future ∧ side = .readable then s.abandonReason else none)

/-- The `finally` block of `drop`. -/
def notifyIdlePeers : Option Side → StreamProgram layer Unit
  | some side => notifyIdleDrop side.peer
  | none => do
      notifyIdleDrop .readable
      notifyIdleDrop .writable

/-- `SharedStreamImpl.drop` and `SharedFutureImpl.drop`. -/
def drop (dropping : Option Side) : StreamProgram layer Unit := do
  if (← get).dropped then pure ()
  else
    modify fun s => { s with dropped := true }
    if (← get).pending.isSome then resetAndNotifyPending .dropped else pure ()
    notifyIdlePeers dropping

/-! ## Guest buffers and the copy itself -/

/-- The constructor of `GuestBuffer`. -/
def GuestBuffer.create (t : Option layer.Elem) (inst : Nat) (memory : Option Nat)
    (ptr length : Nat) (memories : Nat → MemInst) : Except Failure (GuestBuffer layer.Elem) := do
  trapIf (bufferMaxLength < length) "stream read/write count too large"
  match t with
  | none => pure ()
  | some elem =>
      if 0 < length then
        assert_ (memory.isSome = true) "buffer requires a memory"
        let mem := memories (memory.getD 0)
        trapIf (ptr ≠ alignTo ptr (layer.alignment elem mem.ptrType)) "unaligned buffer pointer"
        trapIf (mem.length < ptr + length * layer.elemSize elem mem.ptrType)
          "buffer out of bounds"
      else pure ()
  pure { t, inst, memory := memory.getD 0, ptr, length, progress := 0, base := ptr }

/-- The address `n` elements past the buffer's cursor. -/
def GuestBuffer.advance (buffer : GuestBuffer layer.Elem) (memories : Nat → MemInst) (n : Nat) :
    Nat :=
  match buffer.t with
  | none => buffer.ptr
  | some elem => buffer.ptr + n * layer.elemSize elem (memories buffer.memory).ptrType

/-- The buffer with its cursor moved on by `n` elements. -/
def GuestBuffer.forward (buffer : GuestBuffer layer.Elem) (memories : Nat → MemInst) (n : Nat) :
    GuestBuffer layer.Elem :=
  { buffer with ptr := buffer.advance memories n, progress := buffer.progress + n }

/-- A failure of the element layer, told apart from the failures of the rendezvous itself. -/
def liftElement {Result : Type} (computation : Except Failure Result) :
    StreamProgram layer Result :=
  liftM (computation.mapError Failure.element)

/-- `GuestBuffer.read`. -/
def GuestBuffer.read (ref : BufferRef) (n : Nat) : StreamProgram layer (List layer.Value) := do
  let s ← get
  let buffer := s.buffers ref
  assert_ (n ≤ buffer.remain) "buffer read beyond remaining"
  let vs ← match buffer.t with
    | some elem =>
        liftElement (layer.loadListFromValidRange buffer.inst (s.memories buffer.memory) elem
          buffer.ptr n)
    | none => pure (List.replicate n layer.null)
  modify fun s => s.setBuffer ref (buffer.forward s.memories n)
  pure vs

/-- `GuestBuffer.write`. -/
def GuestBuffer.write (ref : BufferRef) (vs : List layer.Value) : StreamProgram layer Unit := do
  let s ← get
  let buffer := s.buffers ref
  assert_ (vs.length ≤ buffer.remain) "buffer write beyond remaining"
  match buffer.t with
  | some elem =>
      let mem ← liftElement (layer.storeListIntoValidRange buffer.inst elem
        (s.memories buffer.memory) buffer.ptr vs)
      modify fun s => { s with memories := Function.update s.memories buffer.memory mem }
  | none =>
      assert_ (vs.all layer.isNull = true) "zero-width buffer written with a non-empty element"
  modify fun after => after.setBuffer ref (buffer.forward s.memories vs.length)

/-- `GuestBuffer.advanceZeroWidth`. -/
def GuestBuffer.advanceZeroWidth (ref : BufferRef) (n : Nat) : StreamProgram layer Unit := do
  let buffer := (← get).buffers ref
  assert_ (buffer.t.isNone = true) "count advance on a payload-bearing buffer"
  assert_ (n ≤ buffer.remain) "count advance beyond remaining"
  modify fun s => s.setBuffer ref { buffer with progress := buffer.progress + n }

/-- Record a completed copy (history); `before` is the state it started from. -/
def recordTransfer (before : State layer) (src dst : BufferRef) (moved : List layer.Value) :
    StreamProgram layer Unit :=
  modify fun after =>
    { after with
      transfers := after.transfers ++
        [{ source := src, target := dst, sourceBuffer := before.buffers src,
           targetBuffer := before.buffers dst, before := before.memories, values := moved,
           after := after.memories }] }

/-- `dst.write(src.read(n))`. -/
def moveElements (src dst : BufferRef) (n : Nat) : StreamProgram layer Unit := do
  let before ← get
  let vs ← GuestBuffer.read src n
  GuestBuffer.write dst vs
  recordTransfer before src dst vs

/-- `rendezvousCopy` between two guest buffers. -/
def rendezvousCopy (src dst : BufferRef) (n : Nat) : StreamProgram layer Unit := do
  let before ← get
  if (before.buffers src).t.isNone ∧ (before.buffers dst).t.isNone then
    GuestBuffer.advanceZeroWidth src n
    GuestBuffer.advanceZeroWidth dst n
    recordTransfer before src dst (List.replicate n layer.null)
  else moveElements src dst n

/-! ## `SharedStreamImpl` -/

def assertSameElemType (arriving pendingBuffer : BufferRef) : StreamProgram layer Unit := do
  let s ← get
  assert_ (layer.sameElemType s.t (s.buffers arriving).t = true ∧
      layer.sameElemType (s.buffers arriving).t (s.buffers pendingBuffer).t = true)
    "stream element type mismatch between ends"

def trapOnSameInstance (inst : Nat) (arriving : BufferRef) (pending : Pending) :
    StreamProgram layer Unit := do
  let s ← get
  trapIf (inst = pending.inst ∧ 0 < (s.buffers pending.buffer).remain ∧
      0 < (s.buffers arriving).remain ∧ layer.noneOrNumberType s.t = false)
    "cannot read from and write to intra-component stream"

def SharedStreamImpl.read (inst : Nat) (dstBuffer : BufferRef) (closure : CopyClosure) :
    StreamProgram layer Unit := do
  let s ← get
  if s.dropped then onCopyDone closure .dropped
  else
    match s.pending with
    | none => setPending inst dstBuffer closure
    | some pending =>
        assertSameElemType dstBuffer pending.buffer
        trapOnSameInstance inst dstBuffer pending
        if 0 < (s.buffers pending.buffer).remain then
          if 0 < (s.buffers dstBuffer).remain then
            let n := min (s.buffers dstBuffer).remain (s.buffers pending.buffer).remain
            rendezvousCopy pending.buffer dstBuffer n
            onCopy pending.closure .resetPending
          else pure ()
          onCopyDone closure .completed
        else
          resetAndNotifyPending .completed
          setPending inst dstBuffer closure

def SharedStreamImpl.write (inst : Nat) (srcBuffer : BufferRef) (closure : CopyClosure) :
    StreamProgram layer Unit := do
  let s ← get
  if s.dropped then onCopyDone closure .dropped
  else
    match s.pending with
    | none => setPending inst srcBuffer closure
    | some pending =>
        assertSameElemType srcBuffer pending.buffer
        trapOnSameInstance inst srcBuffer pending
        if 0 < (s.buffers pending.buffer).remain then
          if 0 < (s.buffers srcBuffer).remain then
            let n := min (s.buffers srcBuffer).remain (s.buffers pending.buffer).remain
            rendezvousCopy srcBuffer pending.buffer n
            onCopy pending.closure .resetPending
          else pure ()
          onCopyDone closure .completed
        else if (s.buffers srcBuffer).isZeroLength ∧ (s.buffers pending.buffer).isZeroLength then
          onCopyDone closure .completed
        else
          resetAndNotifyPending .completed
          setPending inst srcBuffer closure

/-! ## `SharedFutureImpl` -/

/-- `futureAbandonTrap`. -/
def futureAbandonTrap (reason : String) : Failure :=
  .trap ("future.read can never complete: " ++ reason)

def trapOnSameInstanceFuture (inst : Nat) (pending : Pending) : StreamProgram layer Unit := do
  let s ← get
  trapIf (inst = pending.inst ∧ layer.noneOrNumberType s.t = false)
    "cannot read from and write to intra-component future"

def SharedFutureImpl.read (inst : Nat) (dstBuffer : BufferRef) (closure : CopyClosure) :
    StreamProgram layer Unit := do
  let s ← get
  match (if s.dropped then s.abandonReason else none) with
  | some reason => throw (futureAbandonTrap reason)
  | none =>
      assert_ (s.dropped = false ∧ (s.buffers dstBuffer).remain = 1) "future read shape"
      match s.pending with
      | none => setPending inst dstBuffer closure
      | some pending =>
          trapOnSameInstanceFuture inst pending
          moveElements pending.buffer dstBuffer 1
          resetAndNotifyPending .completed
          onCopyDone closure .completed

def SharedFutureImpl.write (inst : Nat) (srcBuffer : BufferRef) (closure : CopyClosure) :
    StreamProgram layer Unit := do
  let s ← get
  assert_ ((s.buffers srcBuffer).remain = 1) "future write shape"
  if s.dropped then onCopyDone closure .dropped
  else
    match s.pending with
    | none => setPending inst srcBuffer closure
    | some pending =>
        trapOnSameInstanceFuture inst pending
        moveElements srcBuffer pending.buffer 1
        resetAndNotifyPending .completed
        onCopyDone closure .completed

/-! ## Events -/

/-- The payload of a stream event: the result in the low four bits, the count above them. -/
def packStreamPayload (delivered : CopyResult) (progress : Nat) : Nat :=
  (delivered.code ||| progress <<< 4) % 2 ^ 32

/-- `streamEvent` in `streamCopy`. -/
def streamEvent (side : Side) (result : CopyResult) (reclaim : Reclaim) (buffer : BufferRef) :
    StreamProgram layer EventTuple := do
  match reclaim with
  | .resetPending => resetPending
  | .nothing => pure ()
  let s ← get
  assert_ (s.ends side).copying "stream event on a non-copying end"
  let delivered := if s.dropped then .dropped else result
  setState side (if delivered = .dropped then .done else .idle)
  assert_ ((s.buffers buffer).progress ≤ bufferMaxLength) "stream progress out of packing range"
  match (s.ends side).index with
  | none => throw (.assertion "stream event without owner index")
  | some index =>
      pure { code := eventCode .stream side, index,
             payload := packStreamPayload delivered (s.buffers buffer).progress }

/-- `futureEvent` in `futureCopy`. -/
def futureEvent (side : Side) (result : CopyResult) (buffer : BufferRef) :
    StreamProgram layer EventTuple := do
  let s ← get
  assert_ ((s.buffers buffer).remain = 0 ↔ result = .completed)
    "future event/progress disagreement"
  assert_ (s.ends side).copying "future event on a non-copying end"
  let delivered := if result = .cancelled ∧ s.dropped = true then .dropped else result
  setState side (if delivered = .dropped ∨ delivered = .completed then .done else .idle)
  match (s.ends side).index with
  | none => throw (.assertion "future event without owner index")
  | some index => pure { code := eventCode .future side, index, payload := delivered.code }

/-- The thunk that `armIdleDrop` leaves. -/
def idleDropEvent (side : Side) (abandonReason : Option String) :
    StreamProgram layer EventTuple := do
  match abandonReason with
  | some reason => throw (futureAbandonTrap reason)
  | none =>
      let s ← get
      setState side .done
      match (s.ends side).index with
      | none => throw (.assertion "idle async event without owner index")
      | some index =>
          pure { code := eventCode s.kind side, index, payload := CopyResult.dropped.code }

def PendingEvent.call (side : Side) : PendingEvent → StreamProgram layer EventTuple
  | .streamEvent result reclaim buffer => Streams.streamEvent side result reclaim buffer
  | .futureEvent result buffer => Streams.futureEvent side result buffer
  | .futureAbandoned reason => throw (futureAbandonTrap reason)
  | .idleDrop abandonReason => idleDropEvent side abandonReason

/-- The copy that an event reports on (history). -/
def PendingEvent.copy? : PendingEvent → Option BufferRef
  | .streamEvent _ _ buffer => some buffer
  | .futureEvent _ buffer => some buffer
  | .futureAbandoned _ => none
  | .idleDrop _ => none

/-- `Waitable.getPendingEvent` of a copy end, with the copy that the event reports on. -/
def getPendingEvent (side : Side) : StreamProgram layer (Option BufferRef × EventTuple) := do
  let s ← get
  match (s.ends side).pendingEvent with
  | none => throw (.assertion "getPendingEvent with no pending event")
  | some event =>
      modify fun s => s.setEnd side { s.ends side with pendingEvent := none }
      let tuple ← event.call side
      pure (event.copy?, tuple)

/-- Record that the guest received an event (history). -/
def report (side : Side) (copy : Option BufferRef) (event : EventTuple) :
    StreamProgram layer Unit :=
  modify fun s => { s with reports := s.reports ++ [{ side, copy, event }] }

/-! ## Joining and dropping an end -/

/-- `Waitable.join`. -/
def join (side : Side) (wset : Option Nat) : StreamProgram layer Unit := do
  assert_ (((← get).ends side).hasSyncWaiter = false) "join on a waitable with a sync waiter"
  modify fun s => s.setEnd side { s.ends side with wset }

/-- `Waitable.drop`. -/
def Waitable.drop (side : Side) : StreamProgram layer Unit := do
  assert_ (((← get).ends side).hasSyncWaiter = false) "dropping a waitable with a sync waiter"
  modify fun s => s.setEnd side { s.ends side with pendingEvent := none }
  join side none

def Kind.name : Kind → String
  | .stream => "stream"
  | .future => "future"

/-- `CopyEnd.drop`, with the guard that `WritableFutureEnd.drop` puts before it. -/
def CopyEnd.drop (side : Side) : StreamProgram layer Unit := do
  let s ← get
  trapIf (s.kind = .future ∧ side = .writable ∧ (s.ends side).state ≠ .done)
    "cannot drop future write end without first writing a value"
  trapIf (s.ends side).copying
    (match side with
     | .readable => "cannot remove busy " ++ s.kind.name
     | .writable => "cannot drop busy " ++ s.kind.name)
  Streams.drop (some side)
  Waitable.drop side

/-- `claimReadableEnd`. -/
def claimReadableEnd (elem : Option layer.Elem) : StreamProgram layer Unit := do
  let s ← get
  assert_ ((s.ends .readable).index.isNone = true)
    (s.kind.name ++ " readable end already has an owner")
  modify fun s => s.setEnd .readable { s.ends .readable with elem }
  if s.dropped then notifyIdleDrop .readable else pure ()

/-! ## Teardown -/

/-- `dropSharedForTeardown`: an end parked by a dead guest is retracted without a word. -/
def dropSharedForTeardown (dropping : Option Side) : StreamProgram layer Unit := do
  let s ← get
  if s.dropped then pure ()
  else
    match s.pending with
    | none => pure ()
    | some pending => if s.poisoned pending.inst then resetPending else pure ()
    drop dropping

/-- The ends of the shared object in one handle table, in the order of their indices. -/
def endsIn (s : State layer) (inst : Nat) : List Side :=
  match (s.ends .readable).holder, (s.ends .writable).holder with
  | .held readerInst i, .held writerInst j =>
      if readerInst = inst ∧ writerInst = inst then
        if i < j then [.readable, .writable] else [.writable, .readable]
      else if readerInst = inst then [.readable]
      else if writerInst = inst then [.writable] else []
  | .held readerInst _, _ => if readerInst = inst then [.readable] else []
  | _, .held writerInst _ => if writerInst = inst then [.writable] else []
  | _, _ => []

/-- `retireInstanceAsyncEnds`: an instance trapped, and its ends are torn down. -/
def retireInstanceAsyncEnds (inst : Nat) (reason : String) : StreamProgram layer Unit := do
  modify fun s => { s with poisoned := Function.update s.poisoned inst true }
  let s ← get
  let ends := endsIn s inst
  if s.kind = .future ∧ .writable ∈ ends ∧ (s.ends .writable).state ≠ .done ∧
      s.dropped = false then
    modify fun s => { s with abandonReason := s.abandonReason <|> some reason }
  else pure ()
  ends.forM fun side => dropSharedForTeardown (some side)

end SharedObject

end Polyengine.Task.Streams
