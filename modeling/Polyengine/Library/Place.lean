import Polyengine.Library.Command

/-!
# Places

A place is a part of a larger state that commands read and change, as an object that several
operations share.
-/

set_option autoImplicit false

namespace Polyengine.Library

structure Place (State Part : Type) where
  get : State → Part
  set : Part → State → State
  get_set : ∀ part state, get (set part state) = part

namespace Place

open Command

variable {State Part Failure Result : Type} (place : Place State Part)

def read : Command State Failure Part := do return place.get (← MonadState.get)

def change (revise : Part → Part) : Command State Failure Unit :=
  modify fun state => place.set (revise (place.get state)) state

/-- Run an operation on the part alone; a failure leaves it as it was. -/
def run (operation : Part → Except Failure (Result × Part)) : Command State Failure Result := do
  let (result, part) ← operation (place.get (← MonadState.get))
  modify (place.set part)
  return result

/-- An operation on the part without a result. -/
def revise (operation : Part → Except Failure Part) : Command State Failure Unit := do
  let part ← operation (place.get (← MonadState.get))
  modify (place.set part)

/-- A command on the part as one on the whole state. -/
def focus (command : Command Part Failure Result) : Command State Failure Result :=
  ExceptT.mk do
    let state ← MonadState.get
    let (result, part) := command.outcome (place.get state)
    MonadState.set (place.set part state)
    return result

variable {raised : Failure → State → Prop} {post : Result → State → Prop} {state : State}

@[simp] theorem ensures_read (post : Part → State → Prop) (state : State) :
    Ensures raised place.read post state ↔ post (place.get state) state := Iff.rfl

@[simp] theorem ensures_change (revise : Part → Part) (post : Unit → State → Prop)
    (state : State) :
    Ensures raised (place.change revise) post state ↔
      post () (place.set (revise (place.get state)) state) := Iff.rfl

@[simp] theorem ensures_run (operation : Part → Except Failure (Result × Part)) :
    Ensures raised (place.run operation) post state ↔
      Fallible.Satisfies (fun failure => raised failure state) (operation (place.get state))
        fun outcome => post outcome.1 (place.set outcome.2 state) := by
  simp only [run, ensures_bind, ensures_get, ensures_lift, ensures_modify, ensures_pure]

@[simp] theorem ensures_revise (operation : Part → Except Failure Part)
    (post : Unit → State → Prop) :
    Ensures raised (place.revise operation) post state ↔
      Fallible.Satisfies (fun failure => raised failure state) (operation (place.get state))
        fun part => post () (place.set part state) := by
  simp only [revise, ensures_bind, ensures_get, ensures_lift, ensures_modify]

@[simp] theorem ensures_focus (command : Command Part Failure Result) :
    Ensures raised (place.focus command) post state ↔
      Ensures (fun failure part => raised failure (place.set part state)) command
        (fun result part => post result (place.set part state)) (place.get state) := by
  have ran : (place.focus command).outcome state =
      ((command.outcome (place.get state)).1,
        place.set (command.outcome (place.get state)).2 state) := rfl
  simp only [Ensures, ran]
  cases command.outcome (place.get state) with
  | mk result part => cases result <;> rfl

/-- What a command does to the part it does to the whole. -/
theorem focus_relates {inner : Part → Part → Prop} {relation : State → State → Prop}
    {command : Command Part Failure Result} (relates : Relates inner command)
    (embeds : ∀ state part, inner (place.get state) part → relation state (place.set part state)) :
    Relates relation (place.focus command) := by
  intro state
  rw [ensures_focus]
  apply (relates (place.get state)).mono
  · intro failure part reached
    exact embeds state part reached
  · intro result part reached
    exact embeds state part reached

end Place

end Polyengine.Library
