import Mathlib.Tactic.Basic

/-!
# Re-entrant programs

A program over one state that hands control to foreign code at some of its steps. Foreign code runs the
operations of an interface as often as it likes, each of them a program of the same kind, and comes
back with or without a failure. `Ensures` is the weakest precondition of a program whose foreign code
may do anything that a relation allows, and `Exec.established` is its soundness: where every operation
keeps to the relation, so does foreign code, however deep it is nested.
-/

set_option autoImplicit false

namespace Polyengine.Library

inductive Reentrant (State Foreign Failure Result : Type) where
  | ret (result : Result)
  | raise (failure : Failure)
  | read (next : State → Reentrant State Foreign Failure Result)
  | write (state : State) (next : Reentrant State Foreign Failure Result)
  | call (foreign : Foreign) (next : Except Failure Unit → Reentrant State Foreign Failure Result)

namespace Reentrant

variable {State Foreign Failure Result Next Operation : Type}

def bind (program : Reentrant State Foreign Failure Result)
    (continuation : Result → Reentrant State Foreign Failure Next) :
    Reentrant State Foreign Failure Next :=
  match program with
  | .ret result => continuation result
  | .raise failure => .raise failure
  | .read next => .read fun state => (next state).bind continuation
  | .write state next => .write state (next.bind continuation)
  | .call foreign next => .call foreign fun returned => (next returned).bind continuation

/-- The handler runs from the state in which the program failed. -/
def rescue (program : Reentrant State Foreign Failure Result)
    (handler : Failure → Reentrant State Foreign Failure Result) :
    Reentrant State Foreign Failure Result :=
  match program with
  | .ret result => .ret result
  | .raise failure => handler failure
  | .read next => .read fun state => (next state).rescue handler
  | .write state next => .write state (next.rescue handler)
  | .call foreign next => .call foreign fun returned => (next returned).rescue handler

instance : Monad (Reentrant State Foreign Failure) where
  pure := .ret
  bind := Reentrant.bind

instance : MonadStateOf State (Reentrant State Foreign Failure) where
  get := .read .ret
  set state := .write state (.ret ⟨⟩)
  modifyGet change := .read fun state => .write (change state).2 (.ret (change state).1)

instance : MonadExceptOf Failure (Reentrant State Foreign Failure) where
  throw := .raise
  tryCatch := rescue

/-- Hand control to foreign code, and pass its failure on. -/
def invoke (foreign : Foreign) : Reentrant State Foreign Failure Unit :=
  .call foreign fun returned =>
    match returned with
    | .ok () => .ret ()
    | .error failure => .raise failure

/-- A program or the foreign code that it called. -/
inductive Code (State Foreign Failure : Type) where
  | program (program : Reentrant State Foreign Failure Unit)
  | foreign

/-- The runs of code, with the result and the state it ends in. -/
inductive Exec (operations : Operation → Reentrant State Foreign Failure Unit) :
    Code State Foreign Failure → State → Except Failure Unit → State → Prop where
  | ret (state : State) : Exec operations (.program (.ret ())) state (.ok ()) state
  | raise (failure : Failure) (state : State) :
      Exec operations (.program (.raise failure)) state (.error failure) state
  | read {next : State → Reentrant State Foreign Failure Unit} {state final : State}
      {result : Except Failure Unit} :
      Exec operations (.program (next state)) state result final →
      Exec operations (.program (.read next)) state result final
  | write {next : Reentrant State Foreign Failure Unit} {state changed final : State}
      {result : Except Failure Unit} :
      Exec operations (.program next) changed result final →
      Exec operations (.program (.write changed next)) state result final
  | call {foreign : Foreign} {next : Except Failure Unit → Reentrant State Foreign Failure Unit}
      {state changed final : State} {returned result : Except Failure Unit} :
      Exec operations .foreign state returned changed →
      Exec operations (.program (next returned)) changed result final →
      Exec operations (.program (.call foreign next)) state result final
  | back (returned : Except Failure Unit) (state : State) :
      Exec operations .foreign state returned state
  | operate {operation : Operation} {state changed final : State}
      {result returned : Except Failure Unit} :
      Exec operations (.program (operations operation)) state result changed →
      Exec operations .foreign changed returned final →
      Exec operations .foreign state returned final

/-- A program hands control to foreign code in a state. -/
inductive Invokes (operations : Operation → Reentrant State Foreign Failure Unit) :
    Reentrant State Foreign Failure Unit → State → Foreign → State → Prop where
  | read {next : State → Reentrant State Foreign Failure Unit} {state reached : State}
      {foreign : Foreign} :
      Invokes operations (next state) state foreign reached →
      Invokes operations (.read next) state foreign reached
  | write {next : Reentrant State Foreign Failure Unit} {state changed reached : State}
      {foreign : Foreign} :
      Invokes operations next changed foreign reached →
      Invokes operations (.write changed next) state foreign reached
  | here (foreign : Foreign) (next : Except Failure Unit → Reentrant State Foreign Failure Unit)
      (state : State) : Invokes operations (.call foreign next) state foreign state
  | later {first foreign : Foreign}
      {next : Except Failure Unit → Reentrant State Foreign Failure Unit}
      {state changed reached : State} {returned : Except Failure Unit} :
      Exec operations .foreign state returned changed →
      Invokes operations (next returned) changed foreign reached →
      Invokes operations (.call first next) state foreign reached

/-- The states in which foreign code runs: from an initial state, after an operation or where an operation
hands control over. -/
inductive Reaches (operations : Operation → Reentrant State Foreign Failure Unit) (initial : State) :
    State → Prop where
  | initial : Reaches operations initial initial
  | ran {operation : Operation} {state next : State} {result : Except Failure Unit} :
      Reaches operations initial state →
      Exec operations (.program (operations operation)) state result next →
      Reaches operations initial next
  | inside {operation : Operation} {state next : State} {foreign : Foreign} :
      Reaches operations initial state → Invokes operations (operations operation) state foreign next →
      Reaches operations initial next

/-- The run in which all foreign code returns at once. -/
def run : Reentrant State Foreign Failure Result → State → Except Failure Result × State
  | .ret result, state => (.ok result, state)
  | .raise failure, state => (.error failure, state)
  | .read next, state => (next state).run state
  | .write changed next, _ => next.run changed
  | .call _ next, state => (next (.ok ())).run state

theorem Exec.run (operations : Operation → Reentrant State Foreign Failure Unit)
    (program : Reentrant State Foreign Failure Unit) (state : State) :
    Exec operations (.program program) state (program.run state).1 (program.run state).2 := by
  induction program generalizing state with
  | ret result => exact .ret state
  | raise failure => exact .raise failure state
  | read next ih => exact .read (ih state state)
  | write changed next ih => exact .write (ih changed)
  | call foreign next ih => exact .call (.back (.ok ()) state) (ih (.ok ()) state)

/-- Where the program first hands control over, if it does. -/
def firstCall : Reentrant State Foreign Failure Result → State → Option (Foreign × State)
  | .ret _, _ => none
  | .raise _, _ => none
  | .read next, state => (next state).firstCall state
  | .write changed next, _ => next.firstCall changed
  | .call foreign _, state => some (foreign, state)

theorem Invokes.firstCall {operations : Operation → Reentrant State Foreign Failure Unit}
    {program : Reentrant State Foreign Failure Unit} {state reached : State} {foreign : Foreign}
    (calls : program.firstCall state = some (foreign, reached)) :
    Invokes operations program state foreign reached := by
  induction program generalizing state with
  | ret result => cases calls
  | raise failure => cases calls
  | read next ih => exact .read (ih _ calls)
  | write changed next ih => exact .write (ih calls)
  | call own next ih =>
      cases calls
      exact .here _ next _

/-! ## The weakest precondition -/

section Ensures

variable {invariant : State → Prop} {rely : State → State → Prop}

/-- From the state, the program hands control to foreign code in states with the invariant only, and
ends with the postcondition, if foreign code does what the relation allows. -/
def Ensures (invariant : State → Prop) (rely : State → State → Prop) :
    Reentrant State Foreign Failure Result → (Except Failure Result → State → Prop) → State → Prop
  | .ret result, post, state => post (.ok result) state
  | .raise failure, post, state => post (.error failure) state
  | .read next, post, state => Ensures invariant rely (next state) post state
  | .write changed next, post, _ => Ensures invariant rely next post changed
  | .call _ next, post, state =>
      invariant state ∧
        ∀ returned changed, rely state changed → Ensures invariant rely (next returned) post changed

/-- A postcondition of a result and one of a failure. -/
def split (ok : Result → State → Prop) (failed : Failure → State → Prop) :
    Except Failure Result → State → Prop
  | .ok result => ok result
  | .error failure => failed failure

variable {post : Except Failure Result → State → Prop} {state : State}

@[simp] theorem split_ok (ok : Result → State → Prop) (failed : Failure → State → Prop)
    (result : Result) : split ok failed (.ok result) = ok result := rfl

@[simp] theorem split_error (ok : Result → State → Prop) (failed : Failure → State → Prop)
    (failure : Failure) : split ok failed (.error failure) = failed failure := rfl

@[simp] theorem ensures_pure (result : Result) :
    Ensures invariant rely (pure result : Reentrant State Foreign Failure Result) post state ↔
      post (.ok result) state := Iff.rfl

@[simp] theorem ensures_throw (failure : Failure) :
    Ensures invariant rely (throw failure : Reentrant State Foreign Failure Result) post state ↔
      post (.error failure) state := Iff.rfl

@[simp] theorem ensures_get {post : Except Failure State → State → Prop} :
    Ensures invariant rely (get : Reentrant State Foreign Failure State) post state ↔
      post (.ok state) state := Iff.rfl

@[simp] theorem ensures_modify {post : Except Failure PUnit → State → Prop}
    (change : State → State) :
    Ensures invariant rely (modify change : Reentrant State Foreign Failure PUnit) post state ↔
      post (.ok ⟨⟩) (change state) := Iff.rfl

@[simp] theorem ensures_bind {program : Reentrant State Foreign Failure Result}
    {continuation : Result → Reentrant State Foreign Failure Next}
    {post : Except Failure Next → State → Prop} :
    Ensures invariant rely (program >>= continuation) post state ↔
      Ensures invariant rely program
        (split (fun result => Ensures invariant rely (continuation result) post)
          fun failure => post (.error failure)) state := by
  change Ensures invariant rely (program.bind continuation) post state ↔ _
  induction program generalizing state with
  | ret result => rfl
  | raise failure => rfl
  | read next ih => exact ih state
  | write changed next ih => exact ih
  | call foreign next ih =>
      simp only [bind, Ensures]
      constructor
      · rintro ⟨held, after⟩
        exact ⟨held, fun returned changed relied => (ih returned).mp (after returned changed relied)⟩
      · rintro ⟨held, after⟩
        exact ⟨held, fun returned changed relied => (ih returned).mpr (after returned changed relied)⟩

@[simp] theorem ensures_tryCatch {program : Reentrant State Foreign Failure Result}
    {handler : Failure → Reentrant State Foreign Failure Result} :
    Ensures invariant rely (tryCatch program handler) post state ↔
      Ensures invariant rely program
        (split (fun result => post (.ok result))
          fun failure => Ensures invariant rely (handler failure) post) state := by
  change Ensures invariant rely (program.rescue handler) post state ↔ _
  induction program generalizing state with
  | ret result => rfl
  | raise failure => rfl
  | read next ih => exact ih state
  | write changed next ih => exact ih
  | call foreign next ih =>
      simp only [rescue, Ensures]
      constructor
      · rintro ⟨held, after⟩
        exact ⟨held, fun returned changed relied => (ih returned).mp (after returned changed relied)⟩
      · rintro ⟨held, after⟩
        exact ⟨held, fun returned changed relied => (ih returned).mpr (after returned changed relied)⟩

@[simp] theorem ensures_invoke {post : Except Failure Unit → State → Prop} (foreign : Foreign) :
    Ensures invariant rely (invoke foreign : Reentrant State Foreign Failure Unit) post state ↔
      invariant state ∧ ∀ returned changed, rely state changed → post returned changed := by
  simp only [invoke, Ensures]
  constructor
  · rintro ⟨held, after⟩
    refine ⟨held, ?_⟩
    intro returned changed relied
    cases returned with
    | ok result => exact after (.ok result) changed relied
    | error failure => exact after (.error failure) changed relied
  · rintro ⟨held, after⟩
    refine ⟨held, ?_⟩
    intro returned changed relied
    cases returned with
    | ok result => exact after (.ok result) changed relied
    | error failure => exact after (.error failure) changed relied

@[simp] theorem ensures_ite (condition : Prop) [Decidable condition]
    (first second : Reentrant State Foreign Failure Result) :
    Ensures invariant rely (if condition then first else second) post state ↔
      (condition → Ensures invariant rely first post state) ∧
        (¬condition → Ensures invariant rely second post state) := by
  by_cases holds : condition <;> simp [holds]

/-- Consequence. -/
theorem Ensures.imp {program : Reentrant State Foreign Failure Result}
    {post' : Except Failure Result → State → Prop}
    (ensures : Ensures invariant rely program post state)
    (weaker : ∀ result state, post result state → post' result state) :
    Ensures invariant rely program post' state := by
  induction program generalizing state with
  | ret result => exact weaker _ _ ensures
  | raise failure => exact weaker _ _ ensures
  | read next ih => exact ih state ensures
  | write changed next ih => exact ih ensures
  | call foreign next ih =>
      obtain ⟨held, after⟩ := ensures
      exact ⟨held, fun returned changed relied => ih returned (after returned changed relied)⟩

end Ensures

/-! ## Soundness -/

/-- A relation that foreign code is to keep to: a preorder on the states with an invariant, which it
keeps. -/
structure Reliable (invariant : State → Prop) (rely : State → State → Prop) : Prop where
  refl : ∀ {state}, invariant state → rely state state
  trans : ∀ {first second third}, rely first second → rely second third → rely first third
  kept : ∀ {state next}, rely state next → invariant next

section Adequacy

variable {operations : Operation → Reentrant State Foreign Failure Unit}
  {invariant : State → Prop} {rely : State → State → Prop}

/-- An operation keeps to the relation, from every state with the invariant and whatever foreign code
does. -/
def Guarantees (operations : Operation → Reentrant State Foreign Failure Unit)
    (invariant : State → Prop) (rely : State → State → Prop) : Prop :=
  ∀ operation state, invariant state →
    Ensures invariant rely (operations operation) (fun _ => rely state) state

/-- What a run of code establishes. -/
def Established (invariant : State → Prop) (rely : State → State → Prop)
    (code : Code State Foreign Failure) (state : State) (result : Except Failure Unit)
    (final : State) : Prop :=
  match code with
  | .program program => ∀ post, Ensures invariant rely program post state → post result final
  | .foreign => invariant state → rely state final

theorem Exec.established (reliable : Reliable invariant rely)
    (guarantees : Guarantees operations invariant rely) {code : Code State Foreign Failure}
    {state final : State} {result : Except Failure Unit}
    (ran : Exec operations code state result final) :
    Established invariant rely code state result final := by
  induction ran with
  | ret state => exact fun post ensures => ensures
  | raise failure state => exact fun post ensures => ensures
  | read _ ih => exact fun post ensures => ih post ensures
  | write _ ih => exact fun post ensures => ih post ensures
  | call _ _ foreignIh ih =>
      exact fun post ensures => ih post (ensures.2 _ _ (foreignIh ensures.1))
  | back returned state => exact fun holds => reliable.refl holds
  | operate _ _ ih foreignIh =>
      intro holds
      have changed := ih _ (guarantees _ _ holds)
      exact reliable.trans changed (foreignIh (reliable.kept changed))

/-- A run of a program meets its postcondition. -/
theorem Exec.of_ensures (reliable : Reliable invariant rely)
    (guarantees : Guarantees operations invariant rely)
    {program : Reentrant State Foreign Failure Unit} {post : Except Failure Unit → State → Prop}
    {state final : State} {result : Except Failure Unit}
    (ran : Exec operations (.program program) state result final)
    (ensures : Ensures invariant rely program post state) : post result final :=
  ran.established reliable guarantees post ensures

/-- A program hands control to foreign code with the invariant. -/
theorem Invokes.holds (reliable : Reliable invariant rely)
    (guarantees : Guarantees operations invariant rely)
    {program : Reentrant State Foreign Failure Unit} {state reached : State} {foreign : Foreign}
    (invokes : Invokes operations program state foreign reached) :
    ∀ {post : Except Failure Unit → State → Prop},
      Ensures invariant rely program post state → invariant reached := by
  induction invokes with
  | read _ ih => exact fun ensures => ih ensures
  | write _ ih => exact fun ensures => ih ensures
  | here foreign next state => exact fun ensures => ensures.1
  | later ran _ ih =>
      intro post ensures
      exact ih (ensures.2 _ _ (ran.established reliable guarantees ensures.1))

/-- The invariant holds in every state in which foreign code runs. -/
theorem Reaches.holds (reliable : Reliable invariant rely)
    (guarantees : Guarantees operations invariant rely) {initial state : State}
    (holds : invariant initial) (reaches : Reaches operations initial state) :
    invariant state := by
  induction reaches with
  | initial => exact holds
  | ran _ ran ih => exact reliable.kept (ran.of_ensures reliable guarantees (guarantees _ _ ih))
  | inside _ invokes ih => exact invokes.holds reliable guarantees (guarantees _ _ ih)

end Adequacy

end Reentrant

end Polyengine.Library
