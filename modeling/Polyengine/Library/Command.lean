import Mathlib.Order.Defs.Unbundled
import Polyengine.Library.Fallible

/-!
# Commands

A `Command` works on one state and may stop with a failure. Unlike a `Program` it keeps what it had
done when it failed, so that whoever catches the failure can clean up. The predicate
`Command.Ensures` is its weakest precondition, with one postcondition for results and one for
failures.
-/

set_option autoImplicit false

namespace Polyengine.Library

/-- A command over `State` whose failure leaves the state it reached. -/
abbrev Command (State Failure Result : Type) : Type := ExceptT Failure (StateM State) Result

namespace Command

variable {State Failure Result Next : Type}

/-- The outcome of a run and the state it leaves. -/
def outcome (command : Command State Failure Result) (state : State) :
    Except Failure Result × State :=
  Id.run (StateT.run (ExceptT.run command) state)

/-- A success of `command` from `state` satisfies `post`, a failure satisfies `raised`. -/
def Ensures (raised : Failure → State → Prop) (command : Command State Failure Result)
    (post : Result → State → Prop) (state : State) : Prop :=
  match command.outcome state with
  | (.ok result, next) => post result next
  | (.error failure, next) => raised failure next

section Ensures

variable {raised : Failure → State → Prop}

@[simp] theorem ensures_pure (result : Result) (post : Result → State → Prop) (state : State) :
    Ensures raised (pure result) post state ↔ post result state := Iff.rfl

@[simp] theorem outcome_bind (command : Command State Failure Result)
    (continuation : Result → Command State Failure Next) (state : State) :
    (command >>= continuation).outcome state =
      match command.outcome state with
      | (.ok result, next) => (continuation result).outcome next
      | (.error failure, next) => (.error failure, next) := by
  simp only [outcome, ExceptT.run_bind, StateT.run_bind]
  cases (StateT.run (ExceptT.run command) state) with
  | mk result next => cases result <;> rfl

@[simp] theorem ensures_bind (command : Command State Failure Result)
    (continuation : Result → Command State Failure Next) (post : Next → State → Prop)
    (state : State) :
    Ensures raised (command >>= continuation) post state ↔
      Ensures raised command (fun result next =>
        Ensures raised (continuation result) post next) state := by
  simp only [Ensures, outcome_bind]
  cases command.outcome state with
  | mk result next => cases result <;> rfl

@[simp] theorem ensures_map (command : Command State Failure Result) (convert : Result → Next)
    (post : Next → State → Prop) (state : State) :
    Ensures raised (convert <$> command) post state ↔
      Ensures raised command (fun result next => post (convert result) next) state := by
  rw [← bind_pure_comp, ensures_bind]
  rfl

@[simp] theorem ensures_get (post : State → State → Prop) (state : State) :
    Ensures raised (get : Command State Failure State) post state ↔ post state state := Iff.rfl

@[simp] theorem ensures_set (replacement : State) (post : PUnit → State → Prop) (state : State) :
    Ensures raised (set replacement : Command State Failure PUnit) post state ↔
      post ⟨⟩ replacement := Iff.rfl

@[simp] theorem ensures_modify (change : State → State) (post : PUnit → State → Prop)
    (state : State) :
    Ensures raised (modify change : Command State Failure PUnit) post state ↔
      post ⟨⟩ (change state) := Iff.rfl

@[simp] theorem ensures_throw (failure : Failure) (post : Result → State → Prop) (state : State) :
    Ensures raised (throw failure : Command State Failure Result) post state ↔
      raised failure state := Iff.rfl

/-- The handler runs from the state in which the command failed. -/
@[simp] theorem ensures_tryCatch (command : Command State Failure Result)
    (handler : Failure → Command State Failure Result) (post : Result → State → Prop)
    (state : State) :
    Ensures raised (tryCatch command handler) post state ↔
      Ensures (fun failure next => Ensures raised (handler failure) post next) command post
        state := by
  have caught : (tryCatch command handler).outcome state =
      match command.outcome state with
      | (.ok result, next) => (.ok result, next)
      | (.error failure, next) => (handler failure).outcome next := by
    simp only [outcome, tryCatch, tryCatchThe, MonadExceptOf.tryCatch, ExceptT.tryCatch,
      ExceptT.run, ExceptT.mk, StateT.run_bind]
    generalize StateT.run command state = ran
    cases ran with
    | mk result next => cases result <;> rfl
  simp only [Ensures, caught]
  cases command.outcome state with
  | mk result next => cases result <;> rfl

@[simp] theorem ensures_ite (condition : Prop) [Decidable condition]
    (first second : Command State Failure Result) (post : Result → State → Prop)
    (state : State) :
    Ensures raised (if condition then first else second) post state ↔
      (condition → Ensures raised first post state) ∧
        (¬condition → Ensures raised second post state) := by
  by_cases holds : condition <;> simp [holds]

/-- Running a fallible computation inside a command leaves the state alone. -/
@[simp] theorem ensures_lift (computation : Except Failure Result)
    (post : Result → State → Prop) (state : State) :
    Ensures raised (liftM computation : Command State Failure Result) post state ↔
      Fallible.Satisfies (fun failure => raised failure state) computation
        fun result => post result state := by
  cases computation with
  | error failure => rfl
  | ok result => rfl

/-- Consequence: a weaker postcondition for results and for failures. -/
theorem Ensures.mono {raised' : Failure → State → Prop} {command : Command State Failure Result}
    {post post' : Result → State → Prop} {state : State}
    (ensures : Ensures raised command post state)
    (failures : ∀ failure next, raised failure next → raised' failure next)
    (results : ∀ result next, post result next → post' result next) :
    Ensures raised' command post' state := by
  unfold Ensures at ensures ⊢
  cases ran : command.outcome state with
  | mk result next =>
      rw [ran] at ensures
      cases result with
      | error failure => exact failures failure next ensures
      | ok result => exact results result next ensures

/-- Consequence in the postcondition alone. -/
theorem Ensures.imp {command : Command State Failure Result} {post post' : Result → State → Prop}
    {state : State} (ensures : Ensures raised command post state)
    (results : ∀ result next, post result next → post' result next) :
    Ensures raised command post' state :=
  ensures.mono (fun _ _ allowed => allowed) results

/-- Two specifications of the same run hold together. -/
theorem Ensures.and {raised' : Failure → State → Prop} {command : Command State Failure Result}
    {post post' : Result → State → Prop} {state : State}
    (first : Ensures raised command post state) (second : Ensures raised' command post' state) :
    Ensures (fun failure next => raised failure next ∧ raised' failure next) command
      (fun result next => post result next ∧ post' result next) state := by
  unfold Ensures at first second ⊢
  cases ran : command.outcome state with
  | mk result next =>
      rw [ran] at first second
      cases result <;> exact ⟨first, second⟩

theorem Ensures.of_ok {command : Command State Failure Result} {post : Result → State → Prop}
    {state next : State} {result : Result} (ensures : Ensures raised command post state)
    (ran : command.outcome state = (.ok result, next)) : post result next := by
  simpa only [Ensures, ran] using ensures

theorem Ensures.of_error {command : Command State Failure Result} {post : Result → State → Prop}
    {state next : State} {failure : Failure} (ensures : Ensures raised command post state)
    (ran : command.outcome state = (.error failure, next)) : raised failure next := by
  simpa only [Ensures, ran] using ensures

/-- Whatever happens, the state that is reached is the state of the outcome. -/
theorem ensures_reached (command : Command State Failure Result) (state : State) :
    Ensures (fun _ next => next = (command.outcome state).2) command
      (fun _ next => next = (command.outcome state).2) state := by
  unfold Ensures
  cases command.outcome state with
  | mk result next => cases result <;> rfl

/-- What holds after every outcome holds of the state that is reached. -/
theorem Ensures.reached {command : Command State Failure Result} {holds : State → Prop}
    {state : State}
    (ensures : Ensures (fun _ next => holds next) command (fun _ next => holds next) state) :
    holds (command.outcome state).2 := by
  unfold Ensures at ensures
  cases ran : command.outcome state with
  | mk result next =>
      rw [ran] at ensures
      cases result <;> exact ensures

/-- A command that cannot fail has an outcome of the specified kind. -/
theorem Ensures.exists_ok {command : Command State Failure Result} {post : Result → State → Prop}
    {state : State} (ensures : Ensures (fun _ _ => False) command post state) :
    ∃ result next, command.outcome state = (.ok result, next) ∧ post result next := by
  unfold Ensures at ensures
  cases ran : command.outcome state with
  | mk result next =>
      rw [ran] at ensures
      cases result with
      | error failure => exact ensures.elim
      | ok result => exact ⟨result, next, rfl, ensures⟩

end Ensures

section Locally

variable {Local : Type}

/-- Run a command with a local state beside the given one, which is dropped in the end. -/
def locally (initial : Local) (command : Command (Local × State) Failure Result) :
    Command State Failure Result :=
  ExceptT.mk do
    let state ← MonadState.get
    let (result, _, state) := command.outcome (initial, state)
    MonadState.set state
    return result

@[simp] theorem ensures_locally {raised : Failure → State → Prop} (initial : Local)
    (command : Command (Local × State) Failure Result) (post : Result → State → Prop)
    (state : State) :
    Ensures raised (locally initial command) post state ↔
      Ensures (fun failure next => raised failure next.2) command
        (fun result next => post result next.2) (initial, state) := by
  have ran : (locally initial command).outcome state =
      ((command.outcome (initial, state)).1, (command.outcome (initial, state)).2.2) := rfl
  simp only [Ensures, ran]
  cases command.outcome (initial, state) with
  | mk result next => cases result <;> rfl

end Locally

section Keeps

/-- The command preserves the invariant, whether it succeeds or fails. -/
def Keeps (invariant : State → Prop) (command : Command State Failure Result) : Prop :=
  ∀ state, invariant state →
    Ensures (fun _ next => invariant next) command (fun _ next => invariant next) state

variable {invariant : State → Prop}

theorem Keeps.pure (result : Result) :
    Keeps invariant (pure result : Command State Failure Result) := fun _ holds => holds

theorem Keeps.throw (failure : Failure) :
    Keeps invariant (throw failure : Command State Failure Result) := fun _ holds => holds

theorem Keeps.lift (computation : Except Failure Result) :
    Keeps invariant (liftM computation : Command State Failure Result) := by
  intro state holds
  rw [ensures_lift]
  cases computation with
  | error failure => exact holds
  | ok result => exact holds

theorem Keeps.bind {command : Command State Failure Result}
    {continuation : Result → Command State Failure Next} (first : Keeps invariant command)
    (second : ∀ result, Keeps invariant (continuation result)) :
    Keeps invariant (command >>= continuation) := by
  intro state holds
  rw [ensures_bind]
  exact (first state holds).imp fun result next kept => second result next kept

theorem Keeps.get : Keeps invariant (get : Command State Failure State) := fun _ holds => holds

theorem Keeps.modify {change : State → State}
    (preserved : ∀ state, invariant state → invariant (change state)) :
    Keeps invariant (modify change : Command State Failure PUnit) := preserved

theorem Keeps.ite {condition : Prop} [Decidable condition]
    {first second : Command State Failure Result} (holds : Keeps invariant first)
    (fails : Keeps invariant second) : Keeps invariant (if condition then first else second) := by
  by_cases decided : condition
  · rw [if_pos decided]
    exact holds
  · rw [if_neg decided]
    exact fails

/-- The state that a command reaches keeps what the command keeps. -/
theorem Keeps.outcome {command : Command State Failure Result} (keeps : Keeps invariant command)
    {state : State} (holds : invariant state) : invariant (command.outcome state).2 :=
  (keeps state holds).reached

end Keeps

section Relates

/-- The command leads to related states, whether it succeeds or fails. -/
def Relates (relation : State → State → Prop) (command : Command State Failure Result) : Prop :=
  ∀ state, Ensures (fun _ next => relation state next) command (fun _ next => relation state next)
    state

variable {relation : State → State → Prop} [IsPreorder State relation]

theorem Relates.pure (result : Result) :
    Relates relation (pure result : Command State Failure Result) := refl_of relation

theorem Relates.throw (failure : Failure) :
    Relates relation (throw failure : Command State Failure Result) := refl_of relation

theorem Relates.lift (computation : Except Failure Result) :
    Relates relation (liftM computation : Command State Failure Result) := by
  intro state
  rw [ensures_lift]
  cases computation with
  | error failure => exact refl_of relation state
  | ok result => exact refl_of relation state

theorem Relates.get : Relates relation (get : Command State Failure State) := refl_of relation

theorem Relates.bind {command : Command State Failure Result}
    {continuation : Result → Command State Failure Next} (first : Relates relation command)
    (second : ∀ result, Relates relation (continuation result)) :
    Relates relation (command >>= continuation) := by
  intro state
  rw [ensures_bind]
  apply (first state).imp
  intro result middle reached
  apply (second result middle).mono
  · intro failure last reached'
    exact trans_of relation reached reached'
  · intro final last reached'
    exact trans_of relation reached reached'

theorem Relates.tryCatch {command : Command State Failure Result}
    {handler : Failure → Command State Failure Result} (first : Relates relation command)
    (second : ∀ failure, Relates relation (handler failure)) :
    Relates relation (tryCatch command handler) := by
  intro state
  rw [ensures_tryCatch]
  apply (first state).mono _ fun _ _ reached => reached
  intro failure middle reached
  apply (second failure middle).mono
  · intro failure' last reached'
    exact trans_of relation reached reached'
  · intro result last reached'
    exact trans_of relation reached reached'

omit [IsPreorder State relation]

theorem Relates.ite {condition : Prop} [Decidable condition]
    {first second : Command State Failure Result} (holds : Relates relation first)
    (fails : Relates relation second) :
    Relates relation (if condition then first else second) := by
  by_cases decided : condition
  · rw [if_pos decided]
    exact holds
  · rw [if_neg decided]
    exact fails

/-- The state that a command reaches is related to where it began. -/
theorem Relates.outcome {command : Command State Failure Result}
    (relates : Relates relation command) (state : State) :
    relation state (command.outcome state).2 :=
  (relates state).reached

end Relates

section Erases

variable {Recorded : Type}

/-- `recorded` is `command` with more to its state: without the addition they run the same. -/
def Erases (erase : Recorded → State) (recorded : Command Recorded Failure Result)
    (command : Command State Failure Result) : Prop :=
  ∀ state, command.outcome (erase state) =
    ((recorded.outcome state).1, erase (recorded.outcome state).2)

variable {erase : Recorded → State}

theorem Erases.pure (result : Result) :
    Erases erase (pure result : Command Recorded Failure Result) (pure result) := fun _ => rfl

theorem Erases.throw (failure : Failure) :
    Erases erase (throw failure : Command Recorded Failure Result) (throw failure) := fun _ => rfl

theorem Erases.lift (computation : Except Failure Result) :
    Erases erase (liftM computation : Command Recorded Failure Result) (liftM computation) := by
  intro state
  cases computation with
  | error failure => rfl
  | ok result => rfl

theorem Erases.bind {recorded : Command Recorded Failure Result}
    {command : Command State Failure Result} {continuation : Result → Command Recorded Failure Next}
    {continuation' : Result → Command State Failure Next} (first : Erases erase recorded command)
    (second : ∀ result, Erases erase (continuation result) (continuation' result)) :
    Erases erase (recorded >>= continuation) (command >>= continuation') := by
  intro state
  rw [outcome_bind, outcome_bind, first state]
  cases recorded.outcome state with
  | mk result next =>
      cases result with
      | error failure => rfl
      | ok result => exact second result next

theorem Erases.get_bind {continuation : Recorded → Command Recorded Failure Result}
    {continuation' : State → Command State Failure Result}
    (rest : ∀ state, Erases erase (continuation state) (continuation' (erase state))) :
    Erases erase (get >>= continuation) (get >>= continuation') := fun state => rest state state

theorem Erases.modify {change : Recorded → Recorded} {change' : State → State}
    (commutes : ∀ state, erase (change state) = change' (erase state)) :
    Erases erase (modify change : Command Recorded Failure PUnit) (modify change') := by
  intro state
  change (Except.ok PUnit.unit, change' (erase state)) = (_, erase (change state))
  rw [commutes]
  rfl

theorem Erases.ite {condition : Prop} [Decidable condition]
    {first second : Command Recorded Failure Result} {first' second' : Command State Failure Result}
    (holds : Erases erase first first') (fails : Erases erase second second') :
    Erases erase (if condition then first else second) (if condition then first' else second') := by
  by_cases decided : condition
  · rw [if_pos decided, if_pos decided]
    exact holds
  · rw [if_neg decided, if_neg decided]
    exact fails

end Erases

/-- A specification that looks at the failure alone: every failure is a permitted one. -/
def Meets (permitted : Failure → Prop) (command : Command State Failure Result)
    (post : Result → State → Prop) (state : State) : Prop :=
  Ensures (fun failure _ => permitted failure) command post state

section Meets

variable {permitted : Failure → Prop}

@[simp] theorem meets_pure (result : Result) (post : Result → State → Prop) (state : State) :
    Meets permitted (pure result) post state ↔ post result state := Iff.rfl

@[simp] theorem meets_bind (command : Command State Failure Result)
    (continuation : Result → Command State Failure Next) (post : Next → State → Prop)
    (state : State) :
    Meets permitted (command >>= continuation) post state ↔
      Meets permitted command (fun result next =>
        Meets permitted (continuation result) post next) state :=
  ensures_bind command continuation post state

@[simp] theorem meets_map (command : Command State Failure Result) (convert : Result → Next)
    (post : Next → State → Prop) (state : State) :
    Meets permitted (convert <$> command) post state ↔
      Meets permitted command (fun result next => post (convert result) next) state :=
  ensures_map command convert post state

@[simp] theorem meets_get (post : State → State → Prop) (state : State) :
    Meets permitted (get : Command State Failure State) post state ↔ post state state := Iff.rfl

@[simp] theorem meets_set (replacement : State) (post : PUnit → State → Prop) (state : State) :
    Meets permitted (set replacement : Command State Failure PUnit) post state ↔
      post ⟨⟩ replacement := Iff.rfl

@[simp] theorem meets_modify (change : State → State) (post : PUnit → State → Prop)
    (state : State) :
    Meets permitted (modify change : Command State Failure PUnit) post state ↔
      post ⟨⟩ (change state) := Iff.rfl

@[simp] theorem meets_throw (failure : Failure) (post : Result → State → Prop) (state : State) :
    Meets permitted (throw failure : Command State Failure Result) post state ↔
      permitted failure := Iff.rfl

@[simp] theorem meets_ite (condition : Prop) [Decidable condition]
    (first second : Command State Failure Result) (post : Result → State → Prop)
    (state : State) :
    Meets permitted (if condition then first else second) post state ↔
      (condition → Meets permitted first post state) ∧
        (¬condition → Meets permitted second post state) :=
  ensures_ite condition first second post state

@[simp] theorem meets_lift (computation : Except Failure Result)
    (post : Result → State → Prop) (state : State) :
    Meets permitted (liftM computation : Command State Failure Result) post state ↔
      Fallible.Satisfies permitted computation fun result => post result state :=
  ensures_lift computation post state

theorem Meets.imp {command : Command State Failure Result} {post post' : Result → State → Prop}
    {state : State} (meets : Meets permitted command post state)
    (results : ∀ result next, post result next → post' result next) :
    Meets permitted command post' state :=
  Ensures.imp meets results

theorem Meets.of_ok {command : Command State Failure Result} {post : Result → State → Prop}
    {state next : State} {result : Result} (meets : Meets permitted command post state)
    (ran : command.outcome state = (.ok result, next)) : post result next :=
  Ensures.of_ok meets ran

theorem Meets.of_error {command : Command State Failure Result} {post : Result → State → Prop}
    {state next : State} {failure : Failure} (meets : Meets permitted command post state)
    (ran : command.outcome state = (.error failure, next)) : permitted failure :=
  Ensures.of_error meets ran

end Meets

/-- The command returns a result and leaves the state alone. -/
def Reads (command : Command State Failure Result) (result : Result) (state : State) : Prop :=
  command.outcome state = (.ok result, state)

/-- Reading is meeting the exact postcondition without failures. -/
theorem reads_iff {command : Command State Failure Result} {result : Result} {state : State} :
    Reads command result state ↔
      Meets (fun _ => False) command (fun value next => value = result ∧ next = state) state := by
  unfold Reads Meets Ensures
  cases command.outcome state with
  | mk outcome next => cases outcome <;> simp

theorem reads_pure (result : Result) (state : State) :
    Reads (pure result : Command State Failure Result) result state := rfl

theorem Reads.bind {command : Command State Failure Result}
    {continuation : Result → Command State Failure Next} {result : Result} {final : Next}
    {state : State} (first : Reads command result state)
    (second : Reads (continuation result) final state) :
    Reads (command >>= continuation) final state := by
  unfold Reads at *
  rw [outcome_bind, first]
  exact second

end Command

end Polyengine.Library
