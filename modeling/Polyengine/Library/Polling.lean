import Mathlib.Data.List.Sort
import Polyengine.Library.Transition

/-!
# Polling

A pollable reads its readiness off the state of a system and hands out the wake promise of the
moment. A wake promise that is swapped on every event, and one that settles for good, both wake
whoever waits whenever the pollable becomes ready.
-/

set_option autoImplicit false

namespace Polyengine.Library

/-- `wait` is the promise that a waiter gets in a state, and `settled` whether a promise has settled
in a state. -/
structure Pollable (State : Type) where
  ready : State → Bool
  wait : State → Nat
  settled : Nat → State → Bool

namespace Pollable

variable {State Action : Type} {step : Action → State → State}

/-- `block` returns, or it awaits the promise of the moment and then looks again. -/
def block (pollable : Pollable State) (state : State) : Option Nat :=
  if pollable.ready state then none else some (pollable.wait state)

/-- A promise that `block` awaits has settled when the pollable has become ready. -/
def WakesFrom (step : Action → State → State) (pollable : Pollable State) (state : State) : Prop :=
  ∀ promise, pollable.block state = some promise → ∀ actions,
    pollable.ready (Transition.runAll step actions state) = true →
      pollable.settled promise (Transition.runAll step actions state) = true

theorem block_eq_some {pollable : Pollable State} {state : State} {promise : Nat}
    (waits : pollable.block state = some promise) :
    pollable.ready state = false ∧ promise = pollable.wait state := by
  unfold block at waits
  split at waits
  · cases waits
  case isFalse unready =>
      cases waits
      exact ⟨eq_false_of_ne_true unready, rfl⟩

/-- The pollable of an event source that counts the swaps of its wake promise. -/
def swapped (ready : State → Bool) (signals : State → Nat) : Pollable State where
  ready := ready
  wait := signals
  settled := fun promise state => decide (promise < signals state)

/-- The pollable of a flag whose promise settles with it. -/
def latched (ready : State → Bool) : Pollable State where
  ready := ready
  wait := fun _ => 0
  settled := fun _ state => ready state

/-- When readiness comes only with a signal, waiters are woken. -/
theorem swapped_wakes {invariant : State → Prop} {ready : State → Bool} {signals : State → Nat}
    (preserved : ∀ action state, invariant state → invariant (step action state))
    (signalled : ∀ action state, invariant state → signals state < signals (step action state) ∨
      (signals (step action state) = signals state ∧
        (ready (step action state) = true → ready state = true)))
    {state : State} (holds : invariant state) : (swapped ready signals).WakesFrom step state := by
  intro promise waits actions becomes
  obtain ⟨unready, rfl⟩ := block_eq_some waits
  have moved : ∀ (actions : List Action) (state : State), invariant state →
      signals state < signals (Transition.runAll step actions state) ∨
        (signals (Transition.runAll step actions state) = signals state ∧
          (ready (Transition.runAll step actions state) = true → ready state = true)) := by
    intro actions
    induction actions with
    | nil => exact fun state _ => .inr ⟨rfl, id⟩
    | cons action actions ih =>
        intro state holds
        obtain later | ⟨same, kept⟩ := ih (step action state) (preserved action state holds)
        · obtain first | ⟨same', _⟩ := signalled action state holds
          · exact .inl (Nat.lt_trans first later)
          · exact .inl (same' ▸ later)
        · obtain first | ⟨same', kept'⟩ := signalled action state holds
          · exact .inl (Nat.lt_of_lt_of_eq first same.symm)
          · exact .inr ⟨same.trans same', fun becomes => kept' (kept becomes)⟩
  obtain later | ⟨_, kept⟩ := moved actions state holds
  · exact decide_eq_true later
  · have contradiction : ready state = true := kept becomes
    exact absurd unready (by simp [swapped, contradiction])

theorem latched_wakes (ready : State → Bool) (state : State) :
    (latched ready).WakesFrom step state := fun _ _ _ becomes => becomes

/-- The pollable of what never waits. -/
def always : Pollable State := latched fun _ => true

/-- The indices of the ready pollables, in order. -/
def readyNow (pollables : List (Pollable State)) (state : State) : List Nat :=
  (List.range pollables.length).filter fun i => (pollables[i]?).any (·.ready state)

/-- `poll` before, while and after it waits; polling nothing is a trap. -/
inductive Poll where
  | trapped
  | returned (indices : List Nat)
  | waiting (promises : List Nat)
  deriving Repr, DecidableEq

/-- One look at the pollables: return, or wait on the promises of the moment. -/
def look (pollables : List (Pollable State)) (state : State) : Poll :=
  match readyNow pollables state with
  | [] => .waiting (pollables.map (·.wait state))
  | indices => .returned indices

/-- A call of `poll`. -/
def poll (pollables : List (Pollable State)) (state : State) : Poll :=
  if pollables = [] then .trapped else look pollables state

/-- Whether one of the awaited promises has settled. -/
def awakened (pollables : List (Pollable State)) (promises : List Nat) (state : State) : Bool :=
  (pollables.zip promises).any fun (pollable, promise) => pollable.settled promise state

/-- A parked `poll` looks again once one of its promises has settled. -/
def resume (pollables : List (Pollable State)) (promises : List Nat) (state : State) : Poll :=
  if awakened pollables promises state then look pollables state else .waiting promises

theorem mem_readyNow {pollables : List (Pollable State)} {state : State} {i : Nat} :
    i ∈ readyNow pollables state ↔
      ∃ pollable, pollables[i]? = some pollable ∧ pollable.ready state = true := by
  rw [readyNow, List.mem_filter, List.mem_range]
  constructor
  · intro ⟨bound, isReady⟩
    rw [List.getElem?_eq_getElem bound] at isReady
    exact ⟨_, List.getElem?_eq_getElem bound, isReady⟩
  · intro ⟨pollable, present, isReady⟩
    exact ⟨(List.getElem?_eq_some_iff.mp present).1, by rw [present]; exact isReady⟩

/-- What a `poll` that returns has found: some pollables are ready, and it names exactly those. -/
structure Names (pollables : List (Pollable State)) (state : State) (indices : List Nat) : Prop where
  nonempty : indices ≠ []
  sorted : indices.Pairwise (· < ·)
  exact : ∀ i, i ∈ indices ↔
    ∃ pollable, pollables[i]? = some pollable ∧ pollable.ready state = true

theorem look_names {pollables : List (Pollable State)} {state : State} {indices : List Nat}
    (returned : look pollables state = .returned indices) : Names pollables state indices := by
  unfold look at returned
  split at returned
  case h_1 none => cases returned
  case h_2 found nonempty =>
      cases returned
      refine ⟨nonempty, ?_, fun i => mem_readyNow⟩
      exact List.Pairwise.filter _ List.pairwise_lt_range

/-- `poll` returns what is ready when it returns, whether it had to wait or not. -/
theorem poll_names {pollables : List (Pollable State)} {state : State} {indices : List Nat}
    (returned : poll pollables state = .returned indices ∨
      ∃ promises, resume pollables promises state = .returned indices) :
    Names pollables state indices := by
  obtain atOnce | ⟨promises, resumed⟩ := returned
  · unfold poll at atOnce
    split at atOnce
    · cases atOnce
    · exact look_names atOnce
  · unfold resume at resumed
    split at resumed
    · exact look_names resumed
    · cases resumed

/-- A `poll` that had to wait returns when one of its pollables has become ready. -/
theorem resume_returns {pollables : List (Pollable State)} {promises : List Nat} {state : State}
    (parked : look pollables state = .waiting promises) (actions : List Action)
    (wakes : ∀ pollable ∈ pollables, pollable.WakesFrom step state)
    (becomes : ∃ pollable ∈ pollables,
      pollable.ready (Transition.runAll step actions state) = true) :
    ∃ indices, resume pollables promises (Transition.runAll step actions state) =
      .returned indices := by
  obtain ⟨pollable, member, isReady⟩ := becomes
  obtain ⟨i, bound, isPollable⟩ := List.getElem_of_mem member
  have waits : readyNow pollables state = [] ∧ promises = pollables.map (·.wait state) := by
    unfold look at parked
    split at parked
    case h_1 none => exact ⟨none, by cases parked; rfl⟩
    case h_2 => cases parked
  have unready : pollable.ready state = false := by
    cases now : pollable.ready state with
    | false => rfl
    | true =>
        have member : i ∈ readyNow pollables state :=
          mem_readyNow.mpr ⟨pollable, by rw [List.getElem?_eq_getElem bound, isPollable], now⟩
        rw [waits.1] at member
        cases member
  have woken : awakened pollables promises (Transition.runAll step actions state) = true := by
    rw [awakened, List.any_eq_true]
    have blocks : pollable.block state = some (pollable.wait state) := by simp [block, unready]
    refine ⟨(pollable, pollable.wait state), ?_, wakes pollable member _ blocks actions isReady⟩
    rw [waits.2, List.zip_map_right, List.mem_map]
    refine ⟨(pollable, pollable), ?_, rfl⟩
    rw [List.mem_iff_getElem]
    exact ⟨i, by simpa using bound, by simp [isPollable]⟩
  have found : i ∈ readyNow pollables (Transition.runAll step actions state) :=
    mem_readyNow.mpr ⟨pollable, by rw [List.getElem?_eq_getElem bound, isPollable], isReady⟩
  unfold resume look
  rw [if_pos woken]
  cases now : readyNow pollables (Transition.runAll step actions state) with
  | nil =>
      rw [now] at found
      cases found
  | cons first rest => exact ⟨_, rfl⟩

end Pollable

end Polyengine.Library
