import Polyengine.Cabi.StringBlocks

/-!
# Recorded calls of the guest allocator

A context whose calls of `realloc` are recorded beside the world, with the memory before and after
each. Recording changes nothing that the operation does. Between two calls it is the host that
works on the memory, so that the record tells which bytes the host wrote.
-/

set_option autoImplicit false

namespace Polyengine.Cabi

open Polyengine.Library Command

/-- A call of `realloc`, the memory it found and what it left. -/
structure ReallocCall where
  old : Nat
  oldByteLength : Nat
  alignment : Nat
  newByteLength : Nat
  before : Option MemInst
  result : Except Failure Nat
  after : Option MemInst

/-- A world with the calls made so far, the last one first. -/
abbrev Recorded (World : Type) : Type := World × List ReallocCall

variable {World : Type}

namespace CxState

/-- The calls made so far, the last one first. -/
def calls (state : CxState (Recorded World)) : List ReallocCall := state.world.2

def erase (state : CxState (Recorded World)) : CxState World :=
  { memory := state.memory, mayLeave := state.mayLeave, world := state.world.1 }

def recording (state : CxState World) (calls : List ReallocCall) : CxState (Recorded World) :=
  { memory := state.memory, mayLeave := state.mayLeave, world := (state.world, calls) }

@[simp] theorem calls_recording (state : CxState World) (calls : List ReallocCall) :
    (state.recording calls).calls = calls := rfl

@[simp] theorem erase_recording (state : CxState World) (calls : List ReallocCall) :
    (state.recording calls).erase = state := rfl

@[simp] theorem recording_erase (state : CxState (Recorded World)) :
    state.erase.recording state.calls = state := rfl

end CxState

section Recording

variable {Result : Type}

/-- A command that leaves the record alone. -/
def unrecorded (command : Cx World Result) : Cx (Recorded World) Result :=
  ExceptT.mk do
    let state ← get
    let (result, next) := command.outcome state.erase
    set (next.recording state.calls)
    return result

/-- `realloc` with every call recorded, whatever comes of it. -/
def recordRealloc (realloc : Nat → Nat → Nat → Nat → Cx World Nat)
    (old oldByteLength alignment newByteLength : Nat) : Cx (Recorded World) Nat :=
  ExceptT.mk do
    let state ← get
    let (result, next) := (realloc old oldByteLength alignment newByteLength).outcome state.erase
    let call : ReallocCall :=
      { old, oldByteLength, alignment, newByteLength, before := state.memory, result,
        after := next.memory }
    set (next.recording (call :: state.calls))
    return result

/-- The context with its calls of `realloc` recorded. -/
def LiftLowerContext.recorded (cx : LiftLowerContext World) :
    LiftLowerContext (Recorded World) where
  stringEncoding := cx.stringEncoding
  realloc := cx.realloc.map recordRealloc
  hasInstance := cx.hasInstance
  checkpoint := cx.checkpoint.map unrecorded
  liftHandle := fun type index => unrecorded (cx.liftHandle type index)
  lowerHandle := fun type value => unrecorded (cx.lowerHandle type value)
  littleEndian := cx.littleEndian
  byteOffset := cx.byteOffset

end Recording

section Erasure

variable {cx : LiftLowerContext World}

theorem erases_unrecorded {Result : Type} (command : Cx World Result) :
    Erases CxState.erase (unrecorded command) command := by
  intro state
  rfl

theorem erases_recordRealloc (realloc : Nat → Nat → Nat → Nat → Cx World Nat)
    (old oldByteLength alignment newByteLength : Nat) :
    Erases CxState.erase (recordRealloc realloc old oldByteLength alignment newByteLength)
      (realloc old oldByteLength alignment newByteLength) := by
  intro state
  rfl

theorem erases_requireMemory :
    Erases CxState.erase (requireMemory : Cx (Recorded World) MemInst) requireMemory := by
  apply Erases.get_bind
  rintro ⟨memory, mayLeave, world⟩
  cases memory with
  | none => exact .throw _
  | some mem => exact .pure mem

theorem erases_modifyMemory (change : MemInst → Except Failure MemInst) :
    Erases CxState.erase (modifyMemory change : Cx (Recorded World) Unit) (modifyMemory change) :=
  erases_requireMemory.bind fun mem => (Erases.lift (change mem)).bind fun _ => .modify fun _ => rfl

theorem erases_assert (condition : Prop) [Decidable condition] (message : String) :
    Erases CxState.erase (assert_ condition message : Cx (Recorded World) Unit)
      (assert_ condition message) :=
  .ite (.pure ()) (.throw _)

theorem erases_trapIf (condition : Prop) [Decidable condition] (message : String) :
    Erases CxState.erase (trapIf condition message : Cx (Recorded World) Unit)
      (trapIf condition message) :=
  .ite (.throw _) (.pure ())

theorem erases_setMayLeave (mayLeave : Bool) :
    Erases CxState.erase
      (modify fun state => { state with mayLeave } : Cx (Recorded World) Unit)
      (modify fun state => { state with mayLeave }) :=
  .modify fun _ => rfl

theorem erases_reallocate (cx : LiftLowerContext World)
    (old oldByteLength alignment newByteLength : Nat) :
    Erases CxState.erase (cx.recorded.reallocate old oldByteLength alignment newByteLength)
      (cx.reallocate old oldByteLength alignment newByteLength) := by
  unfold LiftLowerContext.reallocate LiftLowerContext.recorded
  dsimp only
  cases cx.realloc with
  | none => exact .throw _
  | some realloc =>
      have call := erases_recordRealloc realloc old oldByteLength alignment newByteLength
      apply Erases.ite _ call
      apply Erases.get_bind
      intro state
      apply (erases_assert _ _).bind
      intro _
      apply (erases_setMayLeave false).bind
      intro _
      apply call.bind
      intro ptr
      apply (erases_setMayLeave true).bind
      intro _
      cases cx.checkpoint with
      | none => exact .pure ptr
      | some check => exact (erases_unrecorded check).bind fun _ => .pure ptr

theorem erases_checkBlock (ptr alignment byteLength : Nat) :
    Erases CxState.erase (checkBlock ptr alignment byteLength : Cx (Recorded World) Unit)
      (checkBlock ptr alignment byteLength) :=
  erases_requireMemory.bind fun _ => (erases_trapIf _ _).bind fun _ => erases_trapIf _ _

theorem erases_shrink (condition : Prop) [Decidable condition]
    (ptr capacity alignment byteLength : Nat) (tagged : Nat) :
    Erases CxState.erase
      (if condition then do
        let ptr ← cx.recorded.reallocate ptr capacity alignment byteLength
        checkBlock ptr alignment byteLength
        return (ptr, tagged)
      else return (ptr, tagged))
      (if condition then do
        let ptr ← cx.reallocate ptr capacity alignment byteLength
        checkBlock ptr alignment byteLength
        return (ptr, tagged)
      else return (ptr, tagged)) := by
  apply Erases.ite
  · apply (erases_reallocate cx _ _ _ _).bind
    intro moved
    apply (erases_checkBlock _ _ _).bind
    intro _
    exact .pure _
  · exact .pure _

theorem erases_storeUtf8Loop (src rest : List UInt16) (worstCaseSize ptr i : Nat) :
    Erases CxState.erase (storeUtf8Loop cx.recorded src worstCaseSize ptr i rest)
      (storeUtf8Loop cx src worstCaseSize ptr i rest) := by
  induction rest generalizing i with
  | nil => exact .pure _
  | cons unit rest ih =>
      unfold storeUtf8Loop
      apply Erases.ite
      · apply (erases_modifyMemory _).bind
        intro _
        exact ih (i + 1)
      · apply (erases_assert _ _).bind
        intro _
        apply (erases_reallocate cx _ _ _ _).bind
        intro moved
        apply (erases_checkBlock _ _ _).bind
        intro _
        apply (erases_modifyMemory _).bind
        intro _
        exact erases_shrink _ _ _ _ _ _

theorem erases_storeUtf16Tail (wf : List UInt16) (ptr dstByteLength : Nat) :
    Erases CxState.erase (storeUtf16Tail cx.recorded wf ptr dstByteLength)
      (storeUtf16Tail cx wf ptr dstByteLength) := by
  apply (erases_assert _ _).bind
  intro _
  apply (erases_reallocate cx _ _ _ _).bind
  intro moved
  apply (erases_checkBlock _ _ _).bind
  intro _
  apply (erases_modifyMemory _).bind
  intro _
  apply (erases_modifyMemory _).bind
  intro _
  apply erases_requireMemory.bind
  intro mem
  exact erases_shrink _ _ _ _ _ _

theorem erases_storeLatin1Loop (wf rest : List UInt16) (ptr dstByteLength : Nat) :
    Erases CxState.erase (storeLatin1Loop cx.recorded wf ptr dstByteLength rest)
      (storeLatin1Loop cx wf ptr dstByteLength rest) := by
  induction rest generalizing dstByteLength with
  | nil => exact erases_shrink _ _ _ _ _ _
  | cons unit rest ih =>
      unfold storeLatin1Loop
      apply Erases.ite
      · apply (erases_modifyMemory _).bind
        intro _
        exact ih (dstByteLength + 1)
      · exact erases_storeUtf16Tail wf ptr dstByteLength

theorem erases_acquire {bound : Prop} [Decidable bound] {message : String}
    {alignment capacity : Nat} {fill : Nat → Cx (Recorded World) (Nat × Nat)}
    {fill' : Nat → Cx World (Nat × Nat)}
    (filled : ∀ ptr, Erases CxState.erase (fill ptr) (fill' ptr)) :
    Erases CxState.erase
      (do
        assert_ bound message
        let ptr ← cx.recorded.allocate alignment capacity
        checkBlock ptr alignment capacity
        fill ptr)
      (do
        assert_ bound message
        let ptr ← cx.allocate alignment capacity
        checkBlock ptr alignment capacity
        fill' ptr) := by
  apply (erases_assert _ _).bind
  intro _
  apply (erases_reallocate cx _ _ _ _).bind
  intro ptr
  apply (erases_checkBlock _ _ _).bind
  intro _
  exact filled ptr

theorem erases_storeStringIntoRange (cx : LiftLowerContext World) (src : List UInt16) :
    Erases CxState.erase (storeStringIntoRange cx.recorded src) (storeStringIntoRange cx src) := by
  have same : cx.recorded.stringEncoding = cx.stringEncoding := rfl
  unfold storeStringIntoRange
  rw [same]
  cases cx.stringEncoding with
  | utf8 => exact erases_acquire fun ptr => erases_storeUtf8Loop _ _ _ _ _
  | utf16 =>
      apply erases_acquire
      intro ptr
      apply (erases_assert _ _).bind
      intro _
      apply (erases_modifyMemory _).bind
      intro _
      exact .pure _
  | latin1Utf16 => exact erases_acquire fun ptr => erases_storeLatin1Loop _ _ _ _

end Erasure

end Polyengine.Cabi
