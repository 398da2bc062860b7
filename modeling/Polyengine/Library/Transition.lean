import Polyengine.Library.Program

/-!
# Runs of a transition program

A run feeds a list of actions to a fallible step one after another and stops at the first
failure. An invariant of one step is an invariant of every run.
-/

set_option autoImplicit false

namespace Polyengine.Library

namespace Transition

variable {State Failure Action Outcome : Type}

/-- Run the actions in order, keeping the outcome of each step. -/
def run (step : Action → Program State Failure Outcome) :
    List Action → Program State Failure (List Outcome)
  | [] => pure []
  | action :: actions => do
      let outcome ← step action
      let outcomes ← run step actions
      pure (outcome :: outcomes)

/-- The states that some successful run reaches from `initial`. -/
def Reaches (step : Action → Program State Failure Outcome) (initial state : State) : Prop :=
  ∃ actions outcomes, (run step actions).run initial = .ok (outcomes, state)

theorem run_meets {permitted : Failure → Prop} {step : Action → Program State Failure Outcome}
    {invariant : State → Prop}
    (preserved : ∀ action state, invariant state →
      (step action).Meets permitted (fun _ next => invariant next) state) :
    ∀ (actions : List Action) (state : State), invariant state →
      (run step actions).Meets permitted (fun _ next => invariant next) state := by
  intro actions
  induction actions with
  | nil => exact fun _ holds => holds
  | cons action actions ih =>
      intro state holds
      simp only [run, Program.meets_bind, Program.meets_pure]
      exact (preserved action state holds).imp fun _ next kept => ih next kept

/-- The invariant rule for reachable states. -/
theorem Reaches.invariant {permitted : Failure → Prop}
    {step : Action → Program State Failure Outcome} {invariant : State → Prop}
    (preserved : ∀ action state, invariant state →
      (step action).Meets permitted (fun _ next => invariant next) state)
    {initial state : State} (reached : Reaches step initial state)
    (starts : invariant initial) : invariant state := by
  obtain ⟨actions, outcomes, ran⟩ := reached
  exact (run_meets preserved actions initial starts).of_ok ran

/-- Run the actions of a step that always leads to a state. -/
def runAll (step : Action → State → State) (actions : List Action) (state : State) : State :=
  actions.foldl (fun state action => step action state) state

/-- An invariant of every step is an invariant of every run. -/
theorem runAll_invariant {step : Action → State → State} {invariant : State → Prop}
    (preserved : ∀ action state, invariant state → invariant (step action state))
    (actions : List Action) {state : State} (starts : invariant state) :
    invariant (runAll step actions state) := by
  induction actions generalizing state with
  | nil => exact starts
  | cons action actions ih => exact ih (preserved action state starts)

/-- Every action of the run is allowed in the state that it is taken in. -/
def Throughout (step : Action → State → State) (allowed : Action → State → Prop) :
    List Action → State → Prop
  | [], _ => True
  | action :: actions, state =>
      allowed action state ∧ Throughout step allowed actions (step action state)

/-- An invariant that the allowed actions keep is an invariant of every run of allowed actions. -/
theorem Throughout.invariant {step : Action → State → State} {allowed : Action → State → Prop}
    {invariant : State → Prop} {actions : List Action} {state : State}
    (throughout : Throughout step allowed actions state)
    (preserved : ∀ action state, invariant state → allowed action state →
      invariant (step action state))
    (starts : invariant state) : invariant (runAll step actions state) := by
  induction actions generalizing state with
  | nil => exact starts
  | cons action actions ih =>
      obtain ⟨first, rest⟩ := throughout
      exact ih rest (preserved action state starts first)

/-- A property that the allowed actions keep, that every other action breaks and that no action
restores holds at the end of exactly the runs of allowed actions. -/
theorem runAll_iff_throughout {step : Action → State → State} {allowed : Action → State → Prop}
    {invariant good : State → Prop}
    (preserved : ∀ action state, invariant state → invariant (step action state))
    (decides : ∀ action state, invariant state → good state →
      (good (step action state) ↔ allowed action state))
    (final : ∀ action state, invariant state → good (step action state) → good state)
    (actions : List Action) {state : State} (starts : invariant state) (initially : good state) :
    good (runAll step actions state) ↔ Throughout step allowed actions state := by
  have broken : ∀ (actions : List Action) (state : State), invariant state →
      good (runAll step actions state) → good state := by
    intro actions
    induction actions with
    | nil => exact fun _ _ holds => holds
    | cons action actions ih =>
        intro state kept holds
        exact final action state kept (ih _ (preserved action state kept) holds)
  induction actions generalizing state with
  | nil => exact ⟨fun _ => trivial, fun _ => initially⟩
  | cons action actions ih =>
      have next : invariant (step action state) := preserved action state starts
      constructor
      · intro holds
        have kept : good (step action state) := broken actions _ next holds
        exact ⟨(decides action state starts initially).mp kept, (ih next kept).mp holds⟩
      · intro ⟨first, rest⟩
        exact (ih next ((decides action state starts initially).mpr first)).mpr rest

end Transition

end Polyengine.Library
