import Polyengine.Exec.ResultDelivery

/-!
# Interference with a delivery

What host code and guest code can do to a pending call while its result is on the way: they may
cancel it, once, and nothing else of it.
-/

set_option autoImplicit false

namespace Polyengine.Exec

open Polyengine.Cabi Polyengine.Library Polyengine.Task Command

variable {Rest Guest : Type}

inductive Unreturned (host : ImportHost Rest) : Prop where
  | pending : host.resolutions = [] → host.subtask.state = .started → Unreturned host
  | cancelled (lowering : Bool) : host.resolutions = [⟨.cancelledBeforeReturned, lowering⟩] →
      host.subtask.state = .cancelledBeforeReturned → host.subtask.flatResults = [] →
      (lowering = false → host.lowering = none) → Unreturned host

theorem Unreturned.state_of_open {host : ImportHost Rest} (unreturned : Unreturned host)
    (open' : host.subtask.resolved = false) :
    host.resolutions = [] ∧ host.subtask.state = .started := by
  cases unreturned with
  | pending resolutions state => exact ⟨resolutions, state⟩
  | cancelled lowering _ state _ _ =>
      rw [Subtask.resolved, state] at open'
      cases open'

/-- The step from one moment of the call to a later one at which other code has run. -/
structure Interfered (handles next : ImportHandles Rest) : Prop where
  awaiting : next.host.awaiting = handles.host.awaiting
  lowering : next.host.lowering = handles.host.lowering
  disposed : next.host.disposed = handles.host.disposed
  custody : next.host.custody = handles.host.custody
  valid : (∀ inst, (handles.tables inst).Valid) → ∀ inst, (next.tables inst).Valid
  unreturned : Unreturned handles.host → Unreturned next.host
  returned : handles.host.subtask.resolved = true →
    next.host.subtask.state = handles.host.subtask.state ∧
      next.host.subtask.flatResults = handles.host.subtask.flatResults ∧
      next.host.resolutions = handles.host.resolutions

namespace Interfered

theorem refl (handles : ImportHandles Rest) : Interfered handles handles where
  awaiting := rfl
  lowering := rfl
  disposed := rfl
  custody := rfl
  valid := id
  unreturned := id
  returned := fun _ => ⟨rfl, rfl, rfl⟩

theorem trans {first middle last : ImportHandles Rest} (before : Interfered first middle)
    (after : Interfered middle last) : Interfered first last where
  awaiting := after.awaiting.trans before.awaiting
  lowering := after.lowering.trans before.lowering
  disposed := after.disposed.trans before.disposed
  custody := after.custody.trans before.custody
  valid := fun valid => after.valid (before.valid valid)
  unreturned := fun unreturned => after.unreturned (before.unreturned unreturned)
  returned := by
    intro resolved
    obtain ⟨state, flatResults, resolutions⟩ := before.returned resolved
    have still : middle.host.subtask.resolved = true := by
      rw [Subtask.resolved, state]
      exact resolved
    obtain ⟨state', flatResults', resolutions'⟩ := after.returned still
    exact ⟨state'.trans state, flatResults'.trans flatResults, resolutions'.trans resolutions⟩

instance : IsPreorder (ImportHandles Rest) Interfered where
  refl := refl
  trans := fun _ _ _ => trans

theorem of_same {handles next : ImportHandles Rest} (same : SameCall handles.host next.host)
    (valid : (∀ inst, (handles.tables inst).Valid) → ∀ inst, (next.tables inst).Valid) :
    Interfered handles next where
  awaiting := same.awaiting
  lowering := same.lowering
  disposed := same.disposed
  custody := same.custody
  valid := valid
  unreturned := by
    intro unreturned
    cases unreturned with
    | pending resolutions state =>
        exact .pending (same.resolutions.trans resolutions) (same.state.trans state)
    | cancelled lowering resolutions state flatResults early =>
        exact .cancelled lowering (same.resolutions.trans resolutions) (same.state.trans state)
          (same.flatResults.trans flatResults) fun first => same.lowering.trans (early first)
  returned := fun _ => ⟨same.state, same.flatResults, same.resolutions⟩

theorem of_subtask {handles : ImportHandles Rest} {subtask : Subtask}
    (state : subtask.state = handles.host.subtask.state)
    (flatResults : subtask.flatResults = handles.host.subtask.flatResults) :
    Interfered handles (subtaskIn.set subtask handles) where
  awaiting := rfl
  lowering := rfl
  disposed := rfl
  custody := rfl
  valid := id
  unreturned := by
    intro unreturned
    cases unreturned with
    | pending resolutions started => exact .pending resolutions (state.trans started)
    | cancelled lowering resolutions cancelled empty early =>
        exact .cancelled lowering resolutions (state.trans cancelled) (flatResults.trans empty) early
  returned := fun _ => ⟨state, flatResults, rfl⟩

end Interfered

section Cancel

theorem onProgressed_relates :
    Relates Interfered (onProgressed : Command (ImportHandles Rest) Failure Unit) := by
  intro handles
  simp only [onProgressed, ensures_bind, Place.ensures_read]
  cases (hostIn.get handles).onProgress with
  | none => exact .refl handles
  | some subtaski => exact .of_subtask rfl rfl

theorem takePendingEvent_relates :
    Relates Interfered (takePendingEvent : Command (ImportHandles Rest) Failure Unit) := by
  intro handles
  simp only [takePendingEvent, ensures_bind, Place.ensures_run, ensures_pure]
  cases ran : (subtaskIn.get handles).getPendingEvent with
  | error failure => exact .refl handles
  | ok outcome =>
      obtain ⟨state, flatResults⟩ := Subtask.getPendingEvent_state ran
      exact .of_subtask state flatResults

theorem endClaim_relates :
    Relates Interfered (endClaim : Command (ImportHandles Rest) Failure Unit) :=
  fun _ => .of_subtask rfl rfl

theorem resolveCancelled_relates :
    Relates Interfered (do
      subtaskIn.revise fun st => st.resolve st.state.cancelled []
      recordResolution : Command (ImportHandles Rest) Failure Unit) := by
  intro handles
  simp only [ensures_bind, Place.ensures_revise, Subtask.resolve, Fallible.satisfies_bind,
    satisfies_assert, Fallible.satisfies_pure, recordResolution, Place.ensures_change]
  refine ⟨fun _ => .refl handles, fun _ => ⟨fun _ => .refl handles, fun open' => ?_⟩⟩
  exact
    { awaiting := rfl
      lowering := rfl
      disposed := rfl
      custody := rfl
      valid := id
      unreturned := by
        intro unreturned
        obtain ⟨resolutions, started⟩ := unreturned.state_of_open open'
        have cancelled : handles.host.subtask.state.cancelled = .cancelledBeforeReturned := by
          rw [started]
          rfl
        have early : handles.host.lowering.isSome = false → handles.host.lowering = none :=
          fun absent => Option.not_isSome_iff_eq_none.mp (ne_true_of_eq_false absent)
        refine .cancelled handles.host.lowering.isSome ?_ cancelled rfl early
        simp only [hostIn, subtaskIn, resolutions, cancelled, List.nil_append]
      returned := by
        intro resolved
        rw [show handles.host.subtask.resolved = false from open'] at resolved
        cases resolved }

theorem onCancel_relates (discard : Except Failure Unit) :
    Relates Interfered (onCancel discard : Command (ImportHandles Rest) Failure Unit) := by
  have deregister : Relates Interfered
      (hostIn.change fun host => { host with registered := false } :
        Command (ImportHandles Rest) Failure Unit) := by
    intro handles
    exact .of_same ⟨rfl, rfl, rfl, rfl, rfl, rfl, rfl, rfl, rfl⟩ id
  have read : Relates Interfered
      (subtaskIn.read : Command (ImportHandles Rest) Failure Subtask) := Interfered.refl
  unfold onCancel onResolveCancelled
  simp only [bind_assoc]
  apply deregister.bind
  intro _
  apply (Relates.lift discard).bind
  intro _
  apply onProgressed_relates.bind
  intro _
  apply read.bind
  intro st
  apply (Relates.ite (.pure ()) (.throw _)).bind
  intro _
  exact resolveCancelled_relates

theorem subtaskCancel_relates (deferCancel : Bool) (discard : Except Failure Unit) :
    Relates Interfered
      (subtaskCancel deferCancel discard : Command (ImportHandles Rest) Failure Unit) := by
  have read : Relates Interfered
      (subtaskIn.read : Command (ImportHandles Rest) Failure Subtask) := Interfered.refl
  have claim : Relates Interfered
      (subtaskIn.change fun st => { st with cancellationRequested := true, hasSyncWaiter := true } :
        Command (ImportHandles Rest) Failure Unit) := fun _ => .of_subtask rfl rfl
  apply read.bind
  intro st
  apply (Relates.lift st.checkCancel).bind
  intro _
  apply Relates.ite takePendingEvent_relates
  apply claim.bind
  intro _
  have discarded : Relates Interfered
      (tryCatch (if deferCancel then pure () else onCancel discard) fun e => do
        endClaim
        throw e : Command (ImportHandles Rest) Failure Unit) := by
    apply Relates.tryCatch
    · exact .ite (.pure ()) (onCancel_relates discard)
    · intro e
      exact endClaim_relates.bind fun _ => .throw e
  apply discarded.bind
  intro _
  apply endClaim_relates.bind
  intro _
  apply read.bind
  intro st
  exact .ite takePendingEvent_relates (.pure ())

structure Cancelled (handles : ImportHandles Rest) : Prop where
  state : handles.host.subtask.state = .cancelledBeforeReturned
  resolutions : handles.host.resolutions =
    [⟨.cancelledBeforeReturned, handles.host.lowering.isSome⟩]

theorem Cancelled.interfered {handles next : ImportHandles Rest} (cancelled : Cancelled handles)
    (interfered : Interfered handles next) : Cancelled next := by
  have resolved : handles.host.subtask.resolved = true := by
    rw [Subtask.resolved, cancelled.state]
    rfl
  obtain ⟨state, _, resolutions⟩ := interfered.returned resolved
  constructor
  · exact state.trans cancelled.state
  · rw [resolutions, interfered.lowering]
    exact cancelled.resolutions

theorem onCancel_cancels (discard : Except Failure Unit) {handles : ImportHandles Rest}
    (started : handles.host.subtask.state = .started) (none : handles.host.resolutions = []) :
    Ensures (fun _ _ => True) (onCancel discard) (fun _ next => Cancelled next) handles := by
  have progressed : ∀ start : ImportHandles Rest, start.host.subtask.state = .started →
      start.host.resolutions = [] → Ensures (fun _ _ => True) onProgressed
        (fun _ next => next.host.subtask.state = .started ∧ next.host.resolutions = []) start := by
    intro start started none
    simp only [onProgressed, ensures_bind, Place.ensures_read]
    cases (hostIn.get start).onProgress with
    | none => exact ⟨started, none⟩
    | some subtaski => exact ⟨started, none⟩
  simp only [onCancel, onResolveCancelled, bind_assoc, ensures_bind, Place.ensures_change,
    ensures_lift]
  cases discard with
  | error failure => trivial
  | ok _ =>
      rw [Fallible.satisfies_ok]
      apply (progressed _ _ _).imp
      · intro _ next reached
        obtain ⟨started, none⟩ := reached
        simp only [Place.ensures_read, ensures_assert, Place.ensures_revise, Subtask.resolve,
          Fallible.satisfies_bind, satisfies_assert, Fallible.satisfies_pure, recordResolution,
          Place.ensures_change]
        refine ⟨fun _ => trivial, fun _ =>
          ⟨fun _ => trivial, fun _ => ⟨fun _ => trivial, fun _ => ?_⟩⟩⟩
        have cancelled : next.host.subtask.state.cancelled = .cancelledBeforeReturned := by
          rw [started]
          rfl
        constructor
        · exact cancelled
        · simp only [hostIn, subtaskIn, none, cancelled, List.nil_append]
      · exact started
      · exact none

theorem subtaskCancel_cancels (discard : Except Failure Unit) {handles : ImportHandles Rest}
    (started : handles.host.subtask.state = .started) (none : handles.host.resolutions = []) :
    Ensures (fun _ _ => True) (subtaskCancel false discard) (fun _ next => Cancelled next)
      handles := by
  have open' : (subtaskIn.get handles).resolved = false := by
    rw [Subtask.resolved, show (subtaskIn.get handles).state = .started from started]
    rfl
  simp only [subtaskCancel, ensures_bind, Place.ensures_read, ensures_lift, open',
    Bool.false_eq_true, if_false, Place.ensures_change, ensures_tryCatch, ensures_throw]
  cases (subtaskIn.get handles).checkCancel with
  | error failure => trivial
  | ok _ =>
      apply (onCancel_cancels discard _ _).mono
      · intro failure next _
        apply (endClaim_relates next).mono
        · exact fun _ _ _ => trivial
        · exact fun _ _ _ => trivial
      · intro _ next cancelled
        apply (endClaim_relates next).mono
        · exact fun _ _ _ => trivial
        · intro _ released reached
          have cancelled' := cancelled.interfered reached
          rw [ensures_ite]
          constructor
          · intro _
            apply (takePendingEvent_relates released).mono
            · exact fun _ _ _ => trivial
            · exact fun _ final taken => cancelled'.interfered taken
          · exact fun _ => cancelled'
      · exact started
      · exact none

end Cancel

theorem Interference.apply_interfered (deferCancel : Bool) (interference : Interference Rest)
    (handles : ImportHandles Rest) :
    Interfered handles (interference.apply deferCancel handles) := by
  cases interference with
  | cancel discard => exact (subtaskCancel_relates deferCancel discard).outcome handles
  | poison cause =>
      exact
        { awaiting := rfl
          lowering := rfl
          disposed := rfl
          custody := rfl
          valid := id
          unreturned := by
            intro unreturned
            cases unreturned with
            | pending resolutions state => exact .pending resolutions state
            | cancelled lowering resolutions state flatResults early =>
                exact .cancelled lowering resolutions state flatResults early
          returned := fun _ => ⟨rfl, rfl, rfl⟩ }
  | elsewhere other => exact .of_same (other.same handles) (other.valid handles)

theorem interfere_interfered (deferCancel : Bool) (script : List (Interference Rest))
    (handles : ImportHandles Rest) : Interfered handles (interfere deferCancel script handles) := by
  induction script generalizing handles with
  | nil => exact .refl handles
  | cons interference script ih =>
      exact (interference.apply_interfered deferCancel handles).trans (ih _)

end Polyengine.Exec
