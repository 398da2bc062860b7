import Polyengine.Cabi.Memory

/-!
# Lift and lower contexts

The options of one canonical operation and the state it works on. The guest's `realloc` is a
program over that state, since it runs guest code.
-/

set_option autoImplicit false

namespace Polyengine.Cabi

open Polyengine.Library

/-- The state a lift or lower operation sees; `world` is everything but the memory. -/
structure CxState (World : Type) where
  memory : Option MemInst
  mayLeave : Bool
  world : World

abbrev Cx (World Result : Type) : Type := Command (CxState World) Failure Result

/-- `LiftLowerContext`. Handles are lifted and lowered by the two parameters; `littleEndian` and
`byteOffset` decide whether a typed-array view of the memory exists. -/
structure LiftLowerContext (World : Type) where
  stringEncoding : StringEncoding
  realloc : Option (Nat → Nat → Nat → Nat → Cx World Nat)
  hasInstance : Bool
  checkpoint : Option (Cx World Unit)
  liftHandle : DespecializedValType → Nat → Cx World Value
  lowerHandle : DespecializedValType → Value → Cx World Nat
  littleEndian : Bool
  byteOffset : Nat

variable {World : Type}

def requireMemory : Cx World MemInst := do
  match (← get).memory with
  | none => throw (Failure.assertion "canonical option `memory` required")
  | some mem => return mem

/-- A write through the memory option. -/
def modifyMemory (change : MemInst → Except Failure MemInst) : Cx World Unit := do
  let changed ← change (← requireMemory)
  modify fun state => { state with memory := some changed }

namespace LiftLowerContext

/-- `reallocate`: a guest with an instance runs with `may_leave` cleared. -/
def reallocate (cx : LiftLowerContext World) (old oldByteLength alignment newByteLength : Nat) :
    Cx World Nat :=
  match cx.realloc with
  | none => throw (Failure.trap "realloc required but not provided")
  | some realloc =>
      if cx.hasInstance then do
        assert_ ((← get).mayLeave = true) "realloc with may_leave already false"
        modify fun state => { state with mayLeave := false }
        let ptr ← realloc old oldByteLength alignment newByteLength
        modify fun state => { state with mayLeave := true }
        match cx.checkpoint with
        | none => pure ()
        | some checkpoint => checkpoint
        return ptr
      else realloc old oldByteLength alignment newByteLength

def allocate (cx : LiftLowerContext World) (alignment byteLength : Nat) : Cx World Nat :=
  cx.reallocate 0 0 alignment byteLength

end LiftLowerContext

def onWorld {Result : Type} (command : Command World Failure Result) : Cx World Result :=
  ExceptT.mk do
    let state ← get
    let (result, world) := command.outcome state.world
    set { state with world }
    return result

@[simp] theorem ensures_onWorld {Result : Type} {raised : Failure → CxState World → Prop}
    (command : Command World Failure Result) (post : Result → CxState World → Prop)
    (state : CxState World) :
    Command.Ensures raised (onWorld command) post state ↔
      Command.Ensures (fun failure world => raised failure { state with world }) command
        (fun result world => post result { state with world }) state.world := by
  have ran : (onWorld command).outcome state =
      ((command.outcome state.world).1,
        { state with world := (command.outcome state.world).2 }) := rfl
  simp only [Command.Ensures, ran]
  cases command.outcome state.world with
  | mk result world => cases result <;> rfl

section Meets

open Command

variable {permitted : Failure → Prop} {state : CxState World} {mem : MemInst}

theorem ensures_requireMemory {raised : Failure → CxState World → Prop}
    (present : state.memory = some mem) (post : MemInst → CxState World → Prop) :
    Ensures raised (requireMemory : Cx World MemInst) post state ↔ post mem state := by
  simp only [requireMemory, ensures_bind, ensures_get, present, ensures_pure]

theorem ensures_modifyMemory {raised : Failure → CxState World → Prop}
    (present : state.memory = some mem) (change : MemInst → Except Failure MemInst)
    (post : Unit → CxState World → Prop) :
    Ensures raised (modifyMemory change : Cx World Unit) post state ↔
      Fallible.Satisfies (fun failure => raised failure state) (change mem) fun changed =>
        post () { state with memory := some changed } := by
  simp only [modifyMemory, ensures_bind, ensures_requireMemory present]
  exact ensures_lift _ _ _

theorem meets_requireMemory (present : state.memory = some mem)
    (post : MemInst → CxState World → Prop) :
    Meets permitted (requireMemory : Cx World MemInst) post state ↔ post mem state :=
  ensures_requireMemory present post

theorem meets_modifyMemory (present : state.memory = some mem)
    (change : MemInst → Except Failure MemInst) (post : Unit → CxState World → Prop) :
    Meets permitted (modifyMemory change : Cx World Unit) post state ↔
      Fallible.Satisfies permitted (change mem) fun changed =>
        post () { state with memory := some changed } :=
  ensures_modifyMemory present change post

end Meets

end Polyengine.Cabi
