import Polyengine.Intrinsics.StreamBuiltins
import Polyengine.Library.Transition

/-!
# Runs of one guest-created stream or future

The actions that guests, adapters and the scheduler can take, in any order. Changes of guest
memory, of unrelated handles and of `mayLeave` are actions of their own.
-/

set_option autoImplicit false

namespace Polyengine.Intrinsics.StreamRun

open Polyengine.Cabi Polyengine.Library Polyengine.Task Polyengine.Task.Streams
open Polyengine.Intrinsics.StreamBuiltins

inductive Action (layer : ElementLayer) where
  | copy (kind : Kind) (side : Side) (call : CopyCall layer.Elem)
  | cancel (kind : Kind) (side : Side) (call : CancelCall layer.Elem)
  | drop (kind : Kind) (side : Side) (elem : Option layer.Elem) (inst hi : Nat)
  | join (inst wi si : Nat)
  /-- A waitable set delivers the event of the member that the scheduler chose. -/
  | deliver (wset : Nat) (side : Side)
  /-- A blocked synchronous copy is resumed, or its activation is abandoned. -/
  | resume (side : Side)
  | abandonWait (side : Side)
  | transfer (kind : Kind) (srcInst dstInst : Nat) (srcElem dstElem : Option layer.Elem)
      (srcIdx : Nat)
  | lift (kind : Kind) (inst i : Nat) (elem : Option layer.Elem)
  | lower (inst : Nat) (declared : Option layer.Elem)
  /-- Whoever received a lifted end lets go of it. -/
  | release
  /-- An instance trapped for a reason of its own. -/
  | retire (inst : Nat) (reason : String)
  | addHandle (inst : Nat) (e : Option Nat)
  | removeHandle (inst i : Nat)
  | guestMemory (memory length : Nat) (byte : Nat → UInt8)
  | setMayLeave (inst : Nat) (mayLeave : Bool)

section

variable {layer : ElementLayer}

/-- The instances that have to be able to run for the action to happen. -/
def Action.actors : Action layer → List Nat
  | .copy _ _ call => [call.inst]
  | .cancel _ _ call => [call.inst]
  | .drop _ _ _ inst _ => [inst]
  | .join inst _ _ => [inst]
  | .transfer _ srcInst dstInst _ _ _ => [srcInst, dstInst]
  | .lift _ inst _ _ => [inst]
  | .lower inst _ => [inst]
  | _ => []

def deliver (wset : Nat) (side : Side) : StreamProgram layer Outcome := do
  let s ← get
  if s.Exists side ∧ (s.ends side).wset = some wset ∧ (s.ends side).hasPendingEvent = true then
    let (copy, event) ← getPendingEvent side
    report side copy event
    pure (.value event.payload)
  else pure .unit

def resume (side : Side) : StreamProgram layer Outcome := do
  let s ← get
  match (s.ends side).syncWaiter with
  | none => pure .unit
  | some i =>
      if s.Exists side ∧ (s.ends side).hasPendingEvent = true then resumeCopy s.kind side i
      else pure .unit

def abandonWait (side : Side) : StreamProgram layer Outcome := do
  modify fun s => s.setEnd side { s.ends side with syncWaiter := none }
  pure .unit

/-- `dropSharedForTeardown` on behalf of the receiver of a lifted end. -/
def release : StreamProgram layer Outcome := do
  if ((← get).ends .readable).holder = .transit then
    modify fun s => s.setEnd .readable { s.ends .readable with holder := .removed }
    dropSharedForTeardown none
    pure .unit
  else pure .unit

def lower (inst : Nat) (declared : Option layer.Elem) : StreamProgram layer Outcome := do
  let s ← get
  if (s.ends .readable).holder = .transit then lowerAsyncValue s.kind inst declared
  else pure .unit

def addHandle (inst : Nat) (e : Option Nat) : StreamProgram layer Outcome := do
  let s ← get
  let added := match e with
    | some identity => Entry.waitableSet identity
    | none => Entry.other
  let (i, table) ← (liftM ((s.tables inst).add added) :
    StreamProgram layer (Nat × Table Entry))
  modify fun s => { s with tables := Function.update s.tables inst table }
  pure (.value i)

def removeHandle (inst i : Nat) : StreamProgram layer Outcome := do
  let s ← get
  match (s.tables inst).entry i with
  | some (.copyEnd _) => pure .unit
  | _ =>
      let (_, table) ← (liftM ((s.tables inst).remove i) :
        StreamProgram layer (Entry × Table Entry))
      modify fun s => { s with tables := Function.update s.tables inst table }
      pure .unit

def guestMemory (memory length : Nat) (byte : Nat → UInt8) : StreamProgram layer Outcome := do
  modify fun s =>
    { s with
      memories := Function.update s.memories memory
        { length, byte, addrType := (s.memories memory).addrType } }
  pure .unit

/-- One action of a run. An instance that trapped takes no further action. -/
def step (action : Action layer) : StreamProgram layer Outcome := do
  let s ← get
  if action.actors.any s.poisoned = true then pure .unit
  else
    match action with
    | .copy .stream side call => streamCopy side call
    | .copy .future side call => futureCopy side call
    | .cancel kind side call => cancelCopy kind side call
    | .drop kind side elem inst hi => dropEnd kind side elem inst hi
    | .join inst wi si => waitableJoin inst wi si
    | .deliver wset side => deliver wset side
    | .resume side => resume side
    | .abandonWait side => abandonWait side
    | .transfer kind srcInst dstInst srcElem dstElem srcIdx =>
        transferAsyncEnd kind srcInst dstInst srcElem dstElem srcIdx
    | .lift kind inst i elem => liftAsyncValue kind inst i elem
    | .lower inst declared => lower inst declared
    | .release => release
    | .retire inst reason => do
        retireInstanceAsyncEnds inst reason
        pure .unit
    | .addHandle inst e => addHandle inst e
    | .removeHandle inst i => removeHandle inst i
    | .guestMemory memory length byte => guestMemory memory length byte
    | .setMayLeave inst mayLeave => do
        modify fun s => { s with mayLeave := Function.update s.mayLeave inst mayLeave }
        pure .unit

/-- The instances' state in which a stream or future is created. -/
structure Environment where
  tables : Nat → Table Entry
  memories : Nat → MemInst
  mayLeave : Nat → Bool
  poisoned : Nat → Bool

/-- The tables are well formed and hold no end of an object that does not exist yet. -/
structure Environment.Valid (environment : Environment) : Prop where
  tables : ∀ inst, (environment.tables inst).Valid
  unknown : ∀ inst i side, (environment.tables inst).entry i ≠ some (.copyEnd side)

/-- An end as its constructor leaves it, in no table yet. -/
def CopyEnd.create (elem : Option layer.Elem) : CopyEnd layer.Elem :=
  { state := .idle, index := none, elem, pendingEvent := none, wset := none,
    syncWaiter := none, holder := .transit }

/-- The shared object and its two ends as their constructors leave them. -/
def State.create (environment : Environment) (kind : Kind) (t : Option layer.Elem) :
    State layer :=
  { kind, t, dropped := false, abandonReason := none, pending := none,
    ends := fun _ => CopyEnd.create t, copies := fun _ => 0,
    buffers := fun _ => { t, inst := 0, memory := 0, ptr := 0, length := 0, progress := 0,
                          base := 0 },
    tables := environment.tables, memories := environment.memories,
    mayLeave := environment.mayLeave, poisoned := environment.poisoned,
    transfers := [], reports := [] }

/-- `packEnds`: `ri | (wi << 32)`. -/
def packEnds (ri wi : Nat) : Nat := ri ||| wi <<< 32

/-- `createStreamNew` and `createFutureNew`. -/
def createNew (kind : Kind) (inst : Nat) : StreamProgram layer Outcome := do
  trapIf ((← get).mayLeave inst = false) (kind.name ++ ".new: cannot leave component instance")
  let ri ← addEnd .readable inst
  let wi ← addEnd .writable inst
  pure (.value (packEnds ri wi))

/-- A state of some run that has not trapped, from the creation of the object on. -/
def Reachable (s : State layer) : Prop :=
  ∃ (environment : Environment) (kind : Kind) (t : Option layer.Elem) (inst : Nat)
    (outcome : Outcome) (initial : State layer),
    environment.Valid ∧ environment.poisoned inst = false ∧
    (createNew kind inst).run (State.create environment kind t) = .ok (outcome, initial) ∧
    Transition.Reaches step initial s

end

end Polyengine.Intrinsics.StreamRun
