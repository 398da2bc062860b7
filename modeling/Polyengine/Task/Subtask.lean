import Polyengine.Cabi.Types
import Polyengine.Library.LittleEndian
import Polyengine.Task.Waitable

/-!
# Subtasks

One call to an import as its caller sees it: the state that the callee drives, the event that is
pending for the caller, and the handles that were lent to the call.
-/

set_option autoImplicit false

namespace Polyengine.Task

open Polyengine.Cabi Polyengine.Library

inductive SubtaskState where
  | starting
  | started
  | returned
  | cancelledBeforeStarted
  | cancelledBeforeReturned
  deriving Repr, DecidableEq

namespace SubtaskState

/-- The integer a guest sees for a state. -/
def code : SubtaskState → Nat
  | .starting => 0
  | .started => 1
  | .returned => 2
  | .cancelledBeforeStarted => 3
  | .cancelledBeforeReturned => 4

def resolved : SubtaskState → Bool
  | .starting | .started => false
  | _ => true

/-- The state of a call that is cancelled now. -/
def cancelled : SubtaskState → SubtaskState
  | .starting => .cancelledBeforeStarted
  | _ => .cancelledBeforeReturned

theorem resolved_iff (state : SubtaskState) : state.resolved = true ↔ 2 ≤ state.code := by
  cases state <;> decide

@[simp] theorem cancelled_resolved (state : SubtaskState) : state.cancelled.resolved = true := by
  cases state <;> rfl

theorem code_lt (state : SubtaskState) : state.code < 2 ^ 4 := by cases state <;> decide

end SubtaskState

/-- `Subtask` with the fields of `Waitable`. The pending event is the closure that
`setSubtaskPendingEvent` made, as the index it captured; `lenders` is `null` once the resolution was
delivered; a waitable set is named by a number. -/
structure Subtask where
  state : SubtaskState
  cancellationRequested : Bool
  flatResults : List CoreValue
  lenders : Option (List Nat)
  pendingEvent : Option Nat
  wset : Option Nat
  hasSyncWaiter : Bool
  deriving Repr, DecidableEq

namespace Subtask

def new : Subtask where
  state := .starting
  cancellationRequested := false
  flatResults := []
  lenders := some []
  pendingEvent := none
  wset := none
  hasSyncWaiter := false

def resolved (st : Subtask) : Bool := st.state.resolved

def hasPendingEvent (st : Subtask) : Bool := st.pendingEvent.isSome

def inWaitableSet (st : Subtask) : Bool := st.wset.isSome

def resolveDelivered (st : Subtask) : Except Failure Bool := do
  assert_ (st.lenders.isSome = true ∨ st.resolved = true) "lenders released on an unresolved subtask"
  return st.lenders.isNone

def addLender (object : Nat) (st : Subtask) : Except Failure Subtask := do
  let delivered ← st.resolveDelivered
  assert_ (delivered = false ∧ st.resolved = false) "addLender on a resolved subtask"
  return { st with lenders := st.lenders.map (· ++ [object]) }

def resolve (state : SubtaskState) (flatResults : List CoreValue) (st : Subtask) :
    Except Failure Subtask := do
  assert_ (state = .returned ∨ flatResults = []) "non-RETURNED subtask resolution carries results"
  assert_ (st.resolved = false) "resolve on an already-resolved subtask"
  return { st with state, flatResults }

/-- The lenders that are released go with the result. -/
def deliverResolve (st : Subtask) : Except Failure (List Nat × Subtask) := do
  let delivered ← st.resolveDelivered
  assert_ (delivered = false ∧ st.resolved = true)
    "deliverResolve on an unresolved or already-delivered subtask"
  return (st.lenders.getD [], { st with lenders := none })

def unwindLenders (st : Subtask) : Except Failure (List Nat × Subtask) := do
  let st ← if st.resolved then pure st else st.resolve st.state.cancelled []
  if ← st.resolveDelivered then return ([], st) else st.deliverResolve

def setSubtaskPendingEvent (subtaski : Nat) (st : Subtask) : Subtask :=
  { st with pendingEvent := some subtaski }

/-- `getPendingEvent`: the closure is evaluated now, after it was taken. -/
def getPendingEvent (st : Subtask) : Except Failure ((EventTuple × List Nat) × Subtask) := do
  match st.pendingEvent with
  | none => throw (.assertion "getPendingEvent with no pending event")
  | some subtaski =>
      let st := { st with pendingEvent := none }
      let (lenders, st) ←
        if st.resolved then
          if ← st.resolveDelivered then pure ([], st) else st.deliverResolve
        else pure ([], st)
      return ((⟨.subtask, subtaski, st.state.code⟩, lenders), st)

/-- The checks of `subtask.cancel` on its subtask. -/
def checkCancel (st : Subtask) : Except Failure Unit := do
  trapIf ((← st.resolveDelivered) = true)
    "subtask.cancel on a subtask whose resolution was already delivered"
  trapIf (st.cancellationRequested = true)
    "subtask.cancel on a subtask that was already cancelled"
  trapIf (st.inWaitableSet = true)
    "waitable cannot be used synchronously while added to a waitable set (subtask.cancel)"

def join (wset : Option Nat) (st : Subtask) : Except Failure Subtask := do
  assert_ (st.hasSyncWaiter = false) "join on a waitable with a sync waiter"
  return { st with wset }

def drop (st : Subtask) : Except Failure Subtask := do
  trapIf ((← st.resolveDelivered) = false) "cannot drop a subtask which has not yet resolved"
  assert_ (st.hasSyncWaiter = false) "dropping a waitable with a sync waiter"
  { st with pendingEvent := none }.join none

section

variable {st : Subtask}

theorem resolveDelivered_ok (delivered : st.lenders = none → st.resolved = true) :
    st.resolveDelivered = .ok st.lenders.isNone := by
  unfold resolveDelivered
  rw [assert_ok]
  · rfl
  · cases lenders : st.lenders with
    | none => exact .inr (delivered lenders)
    | some _ => exact .inl rfl

theorem deliverResolve_ok {lenders : List Nat} (held : st.lenders = some lenders)
    (resolved : st.resolved = true) :
    st.deliverResolve = .ok (lenders, { st with lenders := none }) := by
  have known : st.resolveDelivered = .ok false := by
    rw [resolveDelivered_ok fun _ => resolved, held]
    rfl
  simp only [deliverResolve, known, held, resolved, bind, Except.bind]
  rw [assert_ok]
  · rfl
  · exact ⟨trivial, trivial⟩

theorem getPendingEvent_ok {subtaski : Nat} (pending : st.pendingEvent = some subtaski)
    (delivered : st.lenders = none → st.resolved = true) :
    st.getPendingEvent = .ok
      ((⟨.subtask, subtaski, st.state.code⟩, if st.resolved then st.lenders.getD [] else []),
      { st with
        pendingEvent := none
        lenders := if st.resolved then none else st.lenders }) := by
  have known := @resolveDelivered_ok { st with pendingEvent := none } delivered
  have same : Subtask.resolved { st with pendingEvent := none } = st.resolved := rfl
  simp only [getPendingEvent, pending, same]
  cases resolved : st.resolved with
  | false => rfl
  | true =>
      simp only [if_true, known]
      cases held : st.lenders with
      | none => rfl
      | some lenders =>
          have taken := @deliverResolve_ok { st with pendingEvent := none } lenders held
            (same.trans resolved)
          rw [held] at taken
          simp only [bind, Except.bind, Option.isNone_some, Bool.false_eq_true, if_false, taken]
          rfl

theorem getPendingEvent_state {outcome : EventTuple × List Nat} {next : Subtask}
    (taken : st.getPendingEvent = .ok (outcome, next)) :
    next.state = st.state ∧ next.flatResults = st.flatResults := by
  cases pending : st.pendingEvent with
  | none =>
      rw [getPendingEvent, pending] at taken
      cases taken
  | some subtaski =>
      by_cases delivered : st.lenders = none → st.resolved = true
      · rw [getPendingEvent_ok pending delivered] at taken
        cases taken
        exact ⟨rfl, rfl⟩
      · -- Lenders that are gone from an open subtask: the event does not look at them.
        have open' : Subtask.resolved { st with pendingEvent := none } = false := by
          cases resolved : st.resolved with
          | false => exact resolved
          | true => exact absurd (fun _ => resolved) delivered
        simp only [getPendingEvent, pending, open', Bool.false_eq_true, if_false] at taken
        cases taken
        exact ⟨rfl, rfl⟩

theorem unwindLenders_ok (st : Subtask) :
    ∃ lenders next, st.unwindLenders = .ok (lenders, next) ∧
      next.pendingEvent = st.pendingEvent ∧
      next.cancellationRequested = st.cancellationRequested ∧ next.resolved = true := by
  have finish : ∀ next : Subtask, next.resolved = true →
      ∃ lenders final, (do
        if ← next.resolveDelivered then pure ([], next) else next.deliverResolve) =
          (.ok (lenders, final) : Except Failure (List Nat × Subtask)) ∧
        final.pendingEvent = next.pendingEvent ∧
        final.cancellationRequested = next.cancellationRequested ∧ final.resolved = true := by
    intro next resolved
    rw [resolveDelivered_ok fun _ => resolved]
    cases held : next.lenders with
    | none => exact ⟨[], next, rfl, rfl, rfl, resolved⟩
    | some lenders =>
        exact ⟨lenders, { next with lenders := none }, deliverResolve_ok held resolved, rfl,
          rfl, resolved⟩
  cases resolved : st.resolved with
  | true =>
      obtain ⟨lenders, final, done⟩ := finish st resolved
      refine ⟨lenders, final, ?_⟩
      simp only [unwindLenders, resolved, if_true, pure_bind]
      exact done
  | false =>
      obtain ⟨lenders, final, done⟩ :=
        finish { st with state := st.state.cancelled, flatResults := [] }
          (SubtaskState.cancelled_resolved st.state)
      have moved : st.resolve st.state.cancelled [] =
          .ok { st with state := st.state.cancelled, flatResults := [] } := by
        rw [resolve, assert_ok (Or.inr rfl), assert_ok resolved]
        rfl
      refine ⟨lenders, final, ?_⟩
      simp only [unwindLenders, resolved, Bool.false_eq_true, if_false, moved]
      exact done

end

end Subtask

/-- `packSubtaskResult`: the low four bits hold the state, the others the index. -/
def packSubtaskResult (state : SubtaskState) (subtaski : Nat) : Except Failure Nat := do
  assert_ (0 < subtaski ∧ subtaski ≤ 2 ^ 28 - 1) "subtask index out of packing range"
  assert_ (state.code < 2 ^ 4) "subtask state out of packing range"
  return LittleEndian.wrap 32 (state.code ||| (subtaski <<< 4) : Nat)

def unpackSubtaskResult (packed : Nat) : Nat × Nat := (packed &&& 0xf, packed >>> 4)

theorem packSubtaskResult_ok (state : SubtaskState) {subtaski : Nat}
    (inRange : 0 < subtaski ∧ subtaski ≤ 2 ^ 28 - 1) :
    ∃ packed, packSubtaskResult state subtaski = .ok packed ∧
      unpackSubtaskResult packed = (state.code, subtaski) := by
  have small := state.code_lt
  have joined : state.code ||| subtaski <<< 4 = subtaski * 2 ^ 4 + state.code := by
    rw [Nat.or_comm, ← Nat.shiftLeft_add_eq_or_of_lt small, Nat.shiftLeft_eq]
  refine ⟨LittleEndian.wrap 32 ((state.code ||| subtaski <<< 4 : Nat) : Int), ?_, ?_⟩
  · rw [packSubtaskResult, assert_ok inRange, assert_ok small]
    rfl
  · have low : (0xf : Nat) = 2 ^ 4 - 1 := rfl
    have whole : LittleEndian.wrap 32 ((state.code ||| subtaski <<< 4 : Nat) : Int) =
        subtaski * 2 ^ 4 + state.code := by
      rw [joined, LittleEndian.wrap]
      omega
    rw [whole, unpackSubtaskResult, low, Nat.and_two_pow_sub_one_eq_mod, Nat.shiftRight_eq_div_pow]
    congr 1 <;> omega

end Polyengine.Task
