import Polyengine.Library.Fallible

/-!
# Fallible stateful programs

A `Program` reads and writes one state and may stop with a failure that discards it. The
predicate `Program.Meets` is its weakest precondition: a successful run establishes the
postcondition and every failure is one of the permitted ones.
-/

set_option autoImplicit false

namespace Polyengine.Library

/-- A program over `State` whose failure leaves no state behind. -/
abbrev Program (State Failure Result : Type) : Type := StateT State (Except Failure) Result

namespace Program

variable {State Failure Result Next : Type}

/-- Every success of `program` from `state` satisfies `post`; every failure is permitted. -/
def Meets (permitted : Failure → Prop) (program : Program State Failure Result)
    (post : Result → State → Prop) (state : State) : Prop :=
  match program.run state with
  | .ok (result, next) => post result next
  | .error failure => permitted failure

variable {permitted : Failure → Prop}

@[simp] theorem meets_pure (result : Result) (post : Result → State → Prop) (state : State) :
    Meets permitted (pure result) post state ↔ post result state := Iff.rfl

@[simp] theorem meets_bind (program : Program State Failure Result)
    (continuation : Result → Program State Failure Next) (post : Next → State → Prop)
    (state : State) :
    Meets permitted (program >>= continuation) post state ↔
      Meets permitted program (fun result next =>
        Meets permitted (continuation result) post next) state := by
  simp only [Meets, StateT.run_bind]
  cases program.run state with
  | error failure => rfl
  | ok outcome => rfl

@[simp] theorem meets_map (program : Program State Failure Result) (convert : Result → Next)
    (post : Next → State → Prop) (state : State) :
    Meets permitted (convert <$> program) post state ↔
      Meets permitted program (fun result next => post (convert result) next) state := by
  simp only [Meets, StateT.run_map]
  cases program.run state with
  | error failure => rfl
  | ok outcome => rfl

@[simp] theorem meets_get (post : State → State → Prop) (state : State) :
    Meets permitted (get : Program State Failure State) post state ↔ post state state := Iff.rfl

@[simp] theorem meets_set (replacement : State) (post : PUnit → State → Prop) (state : State) :
    Meets permitted (set replacement : Program State Failure PUnit) post state ↔
      post ⟨⟩ replacement := Iff.rfl

@[simp] theorem meets_modify (change : State → State) (post : PUnit → State → Prop)
    (state : State) :
    Meets permitted (modify change : Program State Failure PUnit) post state ↔
      post ⟨⟩ (change state) := Iff.rfl

@[simp] theorem meets_throw (failure : Failure) (post : Result → State → Prop) (state : State) :
    Meets permitted (throw failure : Program State Failure Result) post state ↔
      permitted failure := Iff.rfl

@[simp] theorem meets_ite (condition : Prop) [Decidable condition]
    (first second : Program State Failure Result) (post : Result → State → Prop)
    (state : State) :
    Meets permitted (if condition then first else second) post state ↔
      (condition → Meets permitted first post state) ∧
        (¬condition → Meets permitted second post state) := by
  by_cases holds : condition <;> simp [holds]

/-- Running a fallible computation inside a program leaves the state alone. -/
@[simp] theorem meets_lift (computation : Except Failure Result)
    (post : Result → State → Prop) (state : State) :
    Meets permitted (liftM computation : Program State Failure Result) post state ↔
      Fallible.Satisfies permitted computation fun result => post result state := by
  cases computation with
  | error failure => rfl
  | ok result => rfl

/-- Consequence: a weaker postcondition and more permitted failures. -/
theorem Meets.mono {permitted' : Failure → Prop} {program : Program State Failure Result}
    {post post' : Result → State → Prop} {state : State}
    (meets : Meets permitted program post state)
    (failures : ∀ failure, permitted failure → permitted' failure)
    (results : ∀ result next, post result next → post' result next) :
    Meets permitted' program post' state := by
  unfold Meets at meets ⊢
  cases outcome : program.run state with
  | error failure => simp only [outcome] at meets ⊢; exact failures failure meets
  | ok reached => simp only [outcome] at meets ⊢; exact results _ _ meets

/-- Consequence in the postcondition alone. -/
theorem Meets.imp {program : Program State Failure Result} {post post' : Result → State → Prop}
    {state : State} (meets : Meets permitted program post state)
    (results : ∀ result next, post result next → post' result next) :
    Meets permitted program post' state :=
  meets.mono (fun _ allowed => allowed) results

/-- What a met specification says about a run that succeeded. -/
theorem Meets.of_ok {program : Program State Failure Result} {post : Result → State → Prop}
    {state next : State} {result : Result} (meets : Meets permitted program post state)
    (ran : program.run state = .ok (result, next)) : post result next := by
  simpa only [Meets, ran] using meets

/-- What a met specification says about a run that failed. -/
theorem Meets.of_error {program : Program State Failure Result} {post : Result → State → Prop}
    {state : State} {failure : Failure} (meets : Meets permitted program post state)
    (ran : program.run state = .error failure) : permitted failure := by
  simpa only [Meets, ran] using meets

/-- Partial correctness with respect to the successful runs alone. -/
theorem meets_of_ok {program : Program State Failure Result} {post : Result → State → Prop}
    {state : State}
    (succeeds : ∀ result next, program.run state = .ok (result, next) → post result next) :
    Meets (fun _ => True) program post state := by
  unfold Meets
  cases outcome : program.run state with
  | error failure => trivial
  | ok reached => exact succeeds _ _ outcome

end Program

end Polyengine.Library
