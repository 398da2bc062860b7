import Mathlib.Data.List.Basic
import Mathlib.Order.Defs.Unbundled

/-!
# Processes over a shared store

A process makes calls on a store that it shares with others, one at a time; between two of its calls
the others may make any number of theirs, and a process that stops makes no more. `Ensures` is the
weakest precondition of a process whose others do what a relation allows, and `Reaches.ensures` is
its soundness for every interleaving of a growing pool.
-/

set_option autoImplicit false

namespace Polyengine.Library

inductive Process (Call Reply Failure Result : Type) where
  | returns (result : Result)
  | throws (failure : Failure)
  | calls (call : Call) (next : Except Failure Reply → Process Call Reply Failure Result)

namespace Process

variable {Call Reply Failure Result Next : Type}

def bind (process : Process Call Reply Failure Result)
    (continuation : Result → Process Call Reply Failure Next) : Process Call Reply Failure Next :=
  match process with
  | .returns result => continuation result
  | .throws failure => .throws failure
  | .calls call next => .calls call fun reply => (next reply).bind continuation

def rescue (process : Process Call Reply Failure Result)
    (handler : Failure → Process Call Reply Failure Result) : Process Call Reply Failure Result :=
  match process with
  | .returns result => .returns result
  | .throws failure => handler failure
  | .calls call next => .calls call fun reply => (next reply).rescue handler

instance : Monad (Process Call Reply Failure) where
  pure := .returns
  bind := bind

instance : MonadExceptOf Failure (Process Call Reply Failure) where
  throw := .throws
  tryCatch := rescue

/-- Make a call, and pass its failure on. -/
def call (call : Call) : Process Call Reply Failure Reply :=
  .calls call fun reply =>
    match reply with
    | .ok reply => .returns reply
    | .error failure => .throws failure

/-- What needs no call. -/
def ofExcept : Except Failure Result → Process Call Reply Failure Result
  | .ok result => .returns result
  | .error failure => .throws failure

/-- How a process ended, if it has. -/
def outcome : Process Call Reply Failure Result → Option (Except Failure Result)
  | .returns result => some (.ok result)
  | .throws failure => some (.error failure)
  | .calls _ _ => none

/-! ## The weakest precondition -/

section Ensures

variable {Store : Type}

/-- What a call may do to the store and reply. -/
abbrev Performs (Call Reply Failure Store : Type) :=
  Call → Store → Except Failure Reply → Store → Prop

/-- The agreement of one process with the others: what holds of the store all the time, what the
others may do to it between two calls, and what the calls of the process may do to it. -/
structure Agreement (Store : Type) where
  invariant : Store → Prop
  rely : Store → Store → Prop
  guarantee : Store → Store → Prop

variable (performs : Performs Call Reply Failure Store) (agreement : Agreement Store)

/-- From the store, and under whatever the others do, the calls of the process keep to the
agreement, and it ends with the postcondition. -/
def Ensures : Process Call Reply Failure Result → (Except Failure Result → Store → Prop) →
    Store → Prop
  | .returns result, post, store => post (.ok result) store
  | .throws failure, post, store => post (.error failure) store
  | .calls call next, post, store =>
      ∀ current, agreement.invariant current → agreement.rely store current →
        ∀ reply after, performs call current reply after →
          (agreement.invariant after ∧ agreement.guarantee current after) ∧
            Ensures (next reply) post after

/-- A postcondition of a result and one of a failure. -/
def split (ok : Result → Store → Prop) (failed : Failure → Store → Prop) :
    Except Failure Result → Store → Prop
  | .ok result => ok result
  | .error failure => failed failure

variable {performs} {agreement} {post : Except Failure Result → Store → Prop} {store : Store}

@[simp] theorem split_ok (ok : Result → Store → Prop) (failed : Failure → Store → Prop)
    (result : Result) : split ok failed (.ok result) = ok result := rfl

@[simp] theorem split_error (ok : Result → Store → Prop) (failed : Failure → Store → Prop)
    (failure : Failure) : split ok failed (.error failure) = failed failure := rfl

@[simp] theorem ensures_pure (result : Result) :
    Ensures performs agreement (pure result : Process Call Reply Failure Result) post store ↔
      post (.ok result) store := Iff.rfl

@[simp] theorem ensures_throw (failure : Failure) :
    Ensures performs agreement (throw failure : Process Call Reply Failure Result) post store ↔
      post (.error failure) store := Iff.rfl

@[simp] theorem ensures_ofExcept (result : Except Failure Result) :
    Ensures performs agreement (ofExcept result : Process Call Reply Failure Result) post store ↔
      post result store := by
  cases result <;> rfl

theorem ensures_bind {process : Process Call Reply Failure Result}
    {continuation : Result → Process Call Reply Failure Next}
    {post : Except Failure Next → Store → Prop} :
    Ensures performs agreement (process >>= continuation) post store ↔
      Ensures performs agreement process
        (split (fun result => Ensures performs agreement (continuation result) post)
          fun failure => post (.error failure)) store := by
  change Ensures performs agreement (process.bind continuation) post store ↔ _
  induction process generalizing store with
  | returns result => rfl
  | throws failure => rfl
  | calls call next ih =>
      simp only [bind, Ensures]
      constructor
      · intro ensured current holds relied reply after performed
        have step := ensured current holds relied reply after performed
        exact ⟨step.1, (ih reply).mp step.2⟩
      · intro ensured current holds relied reply after performed
        have step := ensured current holds relied reply after performed
        exact ⟨step.1, (ih reply).mpr step.2⟩

theorem ensures_map {process : Process Call Reply Failure Result} {convert : Result → Next}
    {post : Except Failure Next → Store → Prop} :
    Ensures performs agreement (convert <$> process) post store ↔
      Ensures performs agreement process
        (split (fun result => post (.ok (convert result))) fun failure => post (.error failure))
        store := by
  change Ensures performs agreement (process >>= fun result => pure (convert result)) post store ↔ _
  exact ensures_bind

theorem ensures_tryCatch {process : Process Call Reply Failure Result}
    {handler : Failure → Process Call Reply Failure Result} :
    Ensures performs agreement (tryCatch process handler) post store ↔
      Ensures performs agreement process
        (split (fun result => post (.ok result))
          fun failure => Ensures performs agreement (handler failure) post) store := by
  change Ensures performs agreement (process.rescue handler) post store ↔ _
  induction process generalizing store with
  | returns result => rfl
  | throws failure => rfl
  | calls call next ih =>
      simp only [rescue, Ensures]
      constructor
      · intro ensured current holds relied reply after performed
        have step := ensured current holds relied reply after performed
        exact ⟨step.1, (ih reply).mp step.2⟩
      · intro ensured current holds relied reply after performed
        have step := ensured current holds relied reply after performed
        exact ⟨step.1, (ih reply).mpr step.2⟩

/-- The rule of a call. -/
theorem ensures_call {calling : Call} {post : Except Failure Reply → Store → Prop} :
    Ensures performs agreement (call calling) post store ↔
      ∀ current, agreement.invariant current → agreement.rely store current →
        ∀ reply after, performs calling current reply after →
          (agreement.invariant after ∧ agreement.guarantee current after) ∧ post reply after := by
  constructor
  · intro ensured current holds relied reply after performed
    have step := ensured current holds relied reply after performed
    refine ⟨step.1, ?_⟩
    cases reply <;> exact step.2
  · intro ensured current holds relied reply after performed
    have step := ensured current holds relied reply after performed
    refine ⟨step.1, ?_⟩
    cases reply <;> exact step.2

/-- The rule of consequence. -/
theorem Ensures.imp {process : Process Call Reply Failure Result}
    {weaker : Except Failure Result → Store → Prop}
    (ensured : Ensures performs agreement process post store)
    (weaken : ∀ result store, post result store → weaker result store) :
    Ensures performs agreement process weaker store := by
  induction process generalizing store with
  | returns result => exact weaken _ _ ensured
  | throws failure => exact weaken _ _ ensured
  | calls call next ih =>
      intro current holds relied reply after performed
      have step := ensured current holds relied reply after performed
      exact ⟨step.1, ih reply step.2⟩

/-- What others do between two calls does not matter, if they do not disturb the postcondition. -/
theorem Ensures.stable [IsTrans Store agreement.rely]
    {process : Process Call Reply Failure Result} {after : Store}
    (ensured : Ensures performs agreement process post store)
    (undisturbed : ∀ result, post result store → post result after)
    (relied : agreement.rely store after) : Ensures performs agreement process post after := by
  cases process with
  | returns result => exact undisturbed _ ensured
  | throws failure => exact undisturbed _ ensured
  | calls call next =>
      intro current holds relies
      exact ensured current holds (Trans.trans relied relies)

end Ensures

/-! ## Pools -/

/-- An operation and what is left of its process. -/
structure Task (Operation Call Reply Failure Result : Type) where
  operation : Operation
  process : Process Call Reply Failure Result

/-- The tasks that were started, in order, and the store that they share. -/
structure Pool (Operation Call Reply Failure Result Store : Type) where
  tasks : List (Task Operation Call Reply Failure Result)
  store : Store

section Pools

variable {Operation Store : Type}

/-- The processes of operations, which may depend on the place of the task; and what calls do. -/
structure System (Operation Call Reply Failure Result Store : Type) where
  program : Nat → Operation → Process Call Reply Failure Result
  performs : Performs Call Reply Failure Store

variable (system : System Operation Call Reply Failure Result Store) (allowed : Operation → Prop)

/-- An allowed operation is started, or one of the tasks makes its next call. -/
inductive Step : Pool Operation Call Reply Failure Result Store →
    Pool Operation Call Reply Failure Result Store → Prop
  | start {tasks : List (Task Operation Call Reply Failure Result)} {store : Store}
      {operation : Operation} : allowed operation →
      Step ⟨tasks, store⟩ ⟨tasks ++ [⟨operation, system.program tasks.length operation⟩], store⟩
  | move {tasks : List (Task Operation Call Reply Failure Result)} {store after : Store}
      {index : Nat} {operation : Operation} {call : Call}
      {next : Except Failure Reply → Process Call Reply Failure Result}
      {reply : Except Failure Reply} : tasks[index]? = some ⟨operation, .calls call next⟩ →
      system.performs call store reply after →
      Step ⟨tasks, store⟩ ⟨tasks.set index ⟨operation, next reply⟩, after⟩

/-- The pools that some interleaving reaches from a store. -/
inductive Reaches (initial : Store) : Pool Operation Call Reply Failure Result Store → Prop
  | initial : Reaches initial ⟨[], initial⟩
  | step {pool next : Pool Operation Call Reply Failure Result Store} : Reaches initial pool →
      Step system allowed pool next → Reaches initial next

variable {system} {allowed}

/-- The task of an index makes its next call. -/
theorem Reaches.move {initial store after : Store}
    {tasks : List (Task Operation Call Reply Failure Result)}
    (reached : Reaches system allowed initial ⟨tasks, store⟩) (index : Nat) {operation : Operation}
    {call : Call} {next : Except Failure Reply → Process Call Reply Failure Result}
    {reply : Except Failure Reply} (moving : tasks[index]? = some ⟨operation, .calls call next⟩)
    (performed : system.performs call store reply after) :
    Reaches system allowed initial ⟨tasks.set index ⟨operation, next reply⟩, after⟩ :=
  reached.step (.move moving performed)

variable {invariant : Store → Prop} {rely guarantee : Nat → Store → Store → Prop}
  {post : Operation → Except Failure Result → Prop}

/-- The invariant holds, and every task keeps to its agreement from the store on. -/
structure Agrees (system : System Operation Call Reply Failure Result Store)
    (invariant : Store → Prop) (rely guarantee : Nat → Store → Store → Prop)
    (post : Operation → Except Failure Result → Prop)
    (pool : Pool Operation Call Reply Failure Result Store) : Prop where
  holds : invariant pool.store
  ensured : ∀ (index : Nat) (task : Task Operation Call Reply Failure Result),
    pool.tasks[index]? = some task →
      Ensures system.performs ⟨invariant, rely index, guarantee index⟩ task.process
        (fun result _ => post task.operation result) pool.store

theorem Step.agrees
    (transitive : ∀ index, IsTrans Store (rely index))
    (others : ∀ mover index, mover ≠ index → ∀ store after, guarantee mover store after →
      rely index store after)
    (reflexive : ∀ index store, rely index store store)
    (programs : ∀ index operation, allowed operation → ∀ store, invariant store →
      Ensures system.performs ⟨invariant, rely index, guarantee index⟩
        (system.program index operation) (fun result _ => post operation result) store)
    {pool next : Pool Operation Call Reply Failure Result Store}
    (agrees : Agrees system invariant rely guarantee post pool)
    (step : Step system allowed pool next) :
    Agrees system invariant rely guarantee post next := by
  cases step with
  | @start tasks store operation permitted =>
      refine ⟨agrees.holds, ?_⟩
      intro index task listed
      rcases Nat.lt_trichotomy index _ with old | new | beyond
      · rw [List.getElem?_append_left old] at listed
        exact agrees.ensured index task listed
      · subst new
        rw [List.getElem?_concat_length] at listed
        cases listed
        exact programs _ _ permitted _ agrees.holds
      · rw [List.getElem?_eq_none_iff.mpr] at listed
        · cases listed
        · rw [List.length_append]
          exact beyond
  | @move tasks store after mover operation call process reply moving performed =>
      have moved := agrees.ensured mover _ moving store agrees.holds (reflexive mover store) reply
        after performed
      refine ⟨moved.1.1, ?_⟩
      intro index task listed
      by_cases same : mover = index
      · subst same
        rw [List.getElem?_set_self (List.getElem?_eq_some_iff.mp moving).1] at listed
        cases listed
        exact moved.2
      · rw [List.getElem?_set_ne same] at listed
        have := transitive index
        exact (agrees.ensured index task listed).stable (fun _ holds => holds)
          (others mover index same _ _ moved.1.2)

/-- Every interleaving of operations that keep to their agreements keeps to them, and what has ended
ended with its postcondition. -/
theorem Reaches.agrees
    (transitive : ∀ index, IsTrans Store (rely index))
    (others : ∀ mover index, mover ≠ index → ∀ store after, guarantee mover store after →
      rely index store after)
    (reflexive : ∀ index store, rely index store store)
    (programs : ∀ index operation, allowed operation → ∀ store, invariant store →
      Ensures system.performs ⟨invariant, rely index, guarantee index⟩
        (system.program index operation) (fun result _ => post operation result) store)
    {initial : Store} (holds : invariant initial)
    {pool : Pool Operation Call Reply Failure Result Store}
    (reached : Reaches system allowed initial pool) :
    Agrees system invariant rely guarantee post pool := by
  induction reached with
  | initial => exact ⟨holds, nofun⟩
  | step _ step ih => exact Step.agrees transitive others reflexive programs ih step

theorem Agrees.outcome {pool : Pool Operation Call Reply Failure Result Store}
    (agrees : Agrees system invariant rely guarantee post pool)
    {task : Task Operation Call Reply Failure Result} (listed : task ∈ pool.tasks)
    {result : Except Failure Result} (ended : task.process.outcome = some result) :
    post task.operation result := by
  obtain ⟨index, found⟩ := List.mem_iff_getElem?.mp listed
  have ensured := agrees.ensured index task found
  cases process : task.process with
  | returns value =>
      rw [process] at ensured ended
      cases ended
      exact ensured
  | throws failure =>
      rw [process] at ensured ended
      cases ended
      exact ensured
  | calls call next =>
      rw [process] at ended
      cases ended

end Pools

end Process

end Polyengine.Library
