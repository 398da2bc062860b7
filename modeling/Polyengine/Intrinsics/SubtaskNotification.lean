import Polyengine.Intrinsics.SubtaskInvariant
import Polyengine.Library.Transition

/-!
# Notifications of subtasks

What the caller of an asynchronous lowered call observes of its subtask: the packed result, the events
in the order of their delivery and the result of `subtask.cancel`.
-/

set_option autoImplicit false

namespace Polyengine.Intrinsics

open Polyengine.Cabi Polyengine.Library Polyengine.Task Polyengine.Exec Command

namespace SubtaskCall

section Step

variable {call : SubtaskCall}

theorem hostStart_consistent (consistent : Consistent call) (calling : call.activation = .calling)
    (lent : List Nat) (lifted : Except Failure Unit) :
    Ensures (fun _ next => Consistent next)
      (onStart subtaskOf onProgressed do
        addLenders lent
        liftM lifted)
      (fun _ next => Consistent next) call := by
  obtain ⟨unreported, _⟩ := consistent.notified.silent (by rw [calling]; decide)
  simp only [onStart, ensures_bind, ensures_onProgressed, armed_unreported unreported,
    Place.ensures_read, ensures_assert, Place.ensures_change, subtaskOf]
  refine ⟨fun _ => consistent, fun starting => ?_⟩
  have unresolved : call.subtask.resolved = false := by
    rw [Subtask.resolved, starting]
    rfl
  have started : Consistent (call.advanced .started call.subtask.flatResults) := by
    apply consistent.advanced unresolved
    · rw [← consistent.notified.armed_pending, armed_unreported unreported]
    · exact starting ▸ Nat.zero_le 1
    · intro _ impossible
      cases impossible
    · exact fun _ => rfl
  refine (addLenders_keeps lent _ started).imp ?_
  intro _ next reached
  exact Keeps.lift lifted next reached

theorem discard_consistent (consistent : Consistent call) {i : Nat} {async : Bool}
    (cancelling : call.cancelling = .callback i async true) (host : call.kind ≠ .fact)
    (outcome : Except Failure Unit) :
    Ensures (fun _ next => Consistent next) (discard i async outcome)
      (fun _ next => Consistent next) call := by
  have claimed : call.cancelling ≠ .idle := by
    rw [cancelling]
    exact Cancelling.noConfusion
  obtain ⟨waiting, unjoined, owed⟩ := consistent.notified.claimed claimed
  have progress := consistent.notified.named i (by rw [cancelling]; rfl)
  have requested := consistent.answered.requested claimed
  have framed : Consistent { call with cancelling := .callback i async false } := by
    apply consistent.framed requested waiting unjoined owed
    intro j named
    cases named
    exact progress
  have resolves := discarded_keeps _ framed (by exact Cancelling.noConfusion) host outcome
  rw [discard, ensures_bind, ensures_modify, ensures_tryCatch]
  refine resolves.mono ?_ ?_
  · intro failure next reached
    rw [ensures_bind, ensures_endCancel, ensures_throw]
    exact reached.ended
  · intro _ next reached
    exact reached

theorem cancelReturns_consistent (consistent : Consistent call) {i : Nat} {async : Bool}
    (cancelling : call.cancelling = .callback i async false) (determinate : Bool) :
    Ensures (fun _ next => Consistent next) (cancelReturns i async determinate)
      (fun _ next => Consistent next) call := by
  have claimed : call.cancelling ≠ .idle := by
    rw [cancelling]
    exact Cancelling.noConfusion
  obtain ⟨waiting, unjoined, owed⟩ := consistent.notified.claimed claimed
  have progress := consistent.notified.named i (by rw [cancelling]; rfl)
  have requested := consistent.answered.requested claimed
  have finishes := endingCancel_consistent consistent progress owed
  have parks : Consistent { call with cancelling := .parked i async } := by
    apply consistent.framed requested waiting unjoined owed
    intro j named
    cases named
    exact progress
  simp only [cancelReturns, ensures_bind, ensures_get, ensures_ite, ensures_modify]
  refine ⟨fun _ => ⟨fun _ => finishes, fun _ => ?_⟩, fun _ => ⟨fun _ => parks, fun _ => finishes⟩⟩
  simp only [endingCancel, ensures_bind, ensures_tryCatch, ensures_throw, ensures_endCancel]
  exact consistent.ended

theorem cancelResumes_consistent (consistent : Consistent call) {i : Nat} {async : Bool}
    (cancelling : call.cancelling = .parked i async) :
    Ensures (fun _ next => Consistent next) (cancelResumes i) (fun _ next => Consistent next)
      call := by
  have claimed : call.cancelling ≠ .idle := by
    rw [cancelling]
    exact Cancelling.noConfusion
  obtain ⟨_, _, owed⟩ := consistent.notified.claimed claimed
  have progress := consistent.notified.named i (by rw [cancelling]; rfl)
  simp only [cancelResumes, finishOrBlocked, ensures_bind, ensures_endCancel, Place.ensures_read,
    ensures_ite, ensures_pure]
  refine ⟨fun resolved => ?_, fun _ => consistent.ended⟩
  refine (finishSubtaskCancel_taken consistent.ended progress resolved owed).imp ?_
  intro _ next reached
  rw [reached]
  exact consistent.ended.taken (consistent.announced progress resolved owed) rfl

theorem step_keeps (action : Action) : Keeps Consistent (step action) := by
  intro call consistent
  cases action with
  | calleeStart lent adapter =>
      simp only [step, ensures_bind, ensures_get, ensures_ite, ensures_pure]
      exact ⟨fun fact => taskStart_consistent consistent fact lent adapter, fun _ => consistent⟩
  | calleeReturn adapter =>
      simp only [step, ensures_bind, ensures_get, ensures_ite, ensures_pure]
      exact ⟨fun now => taskReturn_consistent consistent now.1 adapter, fun _ => consistent⟩
  | calleeDeliversCancel =>
      simp only [step, ensures_bind, ensures_get, ensures_ite, ensures_pure]
      exact ⟨fun _ => deliverPendingCancel_keeps call consistent, fun _ => consistent⟩
  | calleeCancel =>
      simp only [step, ensures_bind, ensures_get, ensures_ite, ensures_pure]
      exact ⟨fun fact => taskCancel_consistent consistent fact, fun _ => consistent⟩
  | calleeBorrows numBorrows =>
      simp only [step, Place.ensures_change]
      exact consistent.withTask consistent.answered.owing consistent.answered.asked
        consistent.answered.answered
  | hostStart lent lifted =>
      simp only [step, ensures_bind, ensures_get, ensures_ite, ensures_pure]
      exact ⟨fun now => hostStart_consistent consistent now.2 lent lifted, fun _ => consistent⟩
  | hostPending =>
      simp only [step, ensures_bind, ensures_get, ensures_ite, ensures_modify, ensures_pure]
      exact ⟨fun _ => ⟨{ consistent.notified with }, { consistent.answered with }⟩,
        fun _ => consistent⟩
  | hostSettles =>
      simp only [step, ensures_bind, ensures_get, ensures_ite, ensures_pure]
      exact ⟨fun _ => settle_keeps call consistent, fun _ => consistent⟩
  | hostCommits transferFree during lowered =>
      simp only [step, ensures_bind, ensures_get, ensures_ite, ensures_modify, ensures_pure]
      have committing : Consistent { call with committing := false } :=
        ⟨{ consistent.notified with }, { consistent.answered with }⟩
      exact ⟨fun now => commit_keeps transferFree during lowered _ now.1 committing,
        fun _ => consistent⟩
  | hostAbandons =>
      exact ⟨{ consistent.notified with }, { consistent.answered with }⟩
  | hostDiscards outcome =>
      simp only [step, ensures_bind, ensures_get]
      split
      · rename_i i async cancelling
        simp only [ensures_ite, ensures_pure]
        exact ⟨fun host => discard_consistent consistent cancelling host outcome,
          fun _ => consistent⟩
      · exact consistent
  | report parked =>
      simp only [step, ensures_bind, ensures_get, ensures_ite, ensures_tryCatch, ensures_modify,
        ensures_throw, ensures_pure]
      refine ⟨fun now => ?_, fun _ => consistent⟩
      refine (report_consistent consistent now.1).mono ?_ ?_
      · intro failure next failed
        exact ⟨fun _ => unwind_consistent failed rfl, fun _ => failed⟩
      · intro _ next reached
        exact reached
  | fails =>
      simp only [step, failCall, ensures_bind, ensures_get, ensures_ite, ensures_modify,
        ensures_pure]
      refine ⟨fun calling => ?_, fun _ => consistent⟩
      obtain ⟨unreported, silent⟩ := consistent.notified.silent (by rw [calling]; decide)
      have failed : Consistent { call with activation := .failed } :=
        consistent.failing unreported silent rfl rfl consistent.notified.delivered id call.numLends
      exact ⟨fun _ => unwind_consistent failed rfl, fun _ => failed⟩
  | guest mayLeave action => exact guest_keeps mayLeave action call consistent
  | deliver set => exact deliverFrom_keeps set call consistent
  | cancelReturns determinate =>
      simp only [step, ensures_bind, ensures_get]
      split
      · rename_i i async cancelling
        exact cancelReturns_consistent consistent cancelling determinate
      · exact consistent
  | cancelThrows =>
      simp only [step, ensures_bind, ensures_get]
      split
      · exact consistent.ended
      · exact consistent
  | cancelResumes =>
      simp only [step, ensures_bind, ensures_get]
      split
      · rename_i i async cancelling
        simp only [ensures_bind, Place.ensures_read, ensures_ite, ensures_pure]
        exact ⟨fun _ => cancelResumes_consistent consistent cancelling, fun _ => consistent⟩
      · exact consistent
  | cancelAbandoned =>
      simp only [step, ensures_bind, ensures_get]
      split
      · exact consistent.ended
      · exact consistent
  | poisons cause =>
      simp only [step, ensures_bind, ensures_get, ensures_ite, ensures_modify, ensures_pure]
      exact ⟨fun _ => ⟨{ consistent.notified with }, { consistent.answered with }⟩,
        fun _ => consistent⟩

end Step

/-- What the caller of a lowered call can rely on. A code from 2 on is a resolution. -/
structure NothingLost (call : SubtaskCall) : Prop where
  /-- The observed states never go backwards in the order STARTING, STARTED, resolved. -/
  forward : call.observed.Pairwise fun earlier later => min earlier 2 ≤ min later 2
  /-- While the caller holds the handle, a state beyond the last observed one has its event. -/
  announced : ∀ i, call.table.entry i = some .subtask →
    ∃ last, call.observed.getLast? = some last ∧
      (min last 2 < min call.subtask.state.code 2 → call.subtask.pendingEvent = some i)
  /-- A resolution is observed at most once. -/
  once : (call.observed.filter (2 ≤ ·)).length ≤ 1
  /-- A resolution is announced until it is observed, and never again after that. -/
  resolution : call.activation = .returned → call.subtask.resolved = true →
    (call.observed.filter (2 ≤ ·)).length =
      if call.subtask.pendingEvent.isSome then 0 else 1
  /-- A call that is resolved when it returns yields neither a handle nor an event. -/
  eager : ∀ code, call.observed.head? = some code → 2 ≤ code →
    code = call.subtask.state.code ∧ call.observed = [code] ∧ call.subtask.pendingEvent = none ∧
      ∀ i, call.table.entry i ≠ some .subtask

theorem chain_resolutions {observed : List Nat} (chain : observed.Pairwise Precedes) {last : Nat}
    (newest : observed.getLast? = some last) :
    (observed.filter (2 ≤ ·)).length = if 2 ≤ last then 1 else 0 := by
  obtain ⟨before, rfl⟩ := List.getLast?_eq_some_iff.mp newest
  obtain ⟨_, _, ordered⟩ := List.pairwise_append.mp chain
  have none' : before.filter (2 ≤ ·) = [] := by
    rw [List.filter_eq_nil_iff]
    intro earlier member
    have unresolved := (ordered earlier member last List.mem_cons_self).1
    simp only [decide_eq_true_eq]
    omega
  rw [List.filter_append, none', List.nil_append]
  split
  · rename_i resolved
    rw [List.filter_cons_of_pos (by simpa using resolved)]
    rfl
  · rename_i unresolved
    rw [List.filter_cons_of_neg (by simpa using unresolved)]
    rfl

theorem Consistent.nothingLost {call : SubtaskCall} (consistent : Consistent call) :
    NothingLost call where
  forward := by
    refine consistent.notified.chain.imp ?_
    intro earlier later precedes
    have ordered := precedes.2
    omega
  announced := by
    intro i held
    have progress := consistent.notified.handle i held
    obtain ⟨_, last, seen⟩ := consistent.notified.reported i progress
    refine ⟨last, seen.newest, ?_⟩
    intro ahead
    obtain ⟨j, event⟩ := Option.isSome_iff_exists.mp (seen.announced ahead)
    have same := consistent.notified.event j event
    rw [progress] at same
    cases same
    exact event
  once := by
    cases newest : call.observed.getLast? with
    | none =>
        rw [List.getLast?_eq_none_iff.mp newest]
        exact Nat.zero_le 1
    | some last =>
        rw [chain_resolutions consistent.notified.chain newest]
        split <;> omega
  resolution := by
    intro returned resolved
    cases progress : call.onProgress with
    | none =>
        obtain ⟨_, observed, _⟩ := consistent.notified.eager returned progress
        have quiet : call.subtask.pendingEvent = none := by
          cases pending : call.subtask.pendingEvent with
          | none => rfl
          | some i =>
              have event := consistent.notified.event i pending
              rw [progress] at event
              cases event
        rw [observed, quiet]
        rfl
    | some i =>
        obtain ⟨_, last, seen⟩ := consistent.notified.reported i progress
        have code := call.subtask.state.resolved_iff.mp resolved
        rw [chain_resolutions consistent.notified.chain seen.newest]
        by_cases shown : 2 ≤ last
        · rw [if_pos shown, seen.quiet shown]
          rfl
        · rw [if_neg shown, seen.announced (by omega)]
          rfl
  eager := by
    intro code first resolved
    have unreported : call.onProgress = none := by
      cases progress : call.onProgress with
      | none => rfl
      | some i =>
          obtain ⟨opening, same, unresolved⟩ := consistent.notified.opening i progress
          rw [first] at same
          cases same
          omega
    have returned : call.activation = .returned := by
      by_contra unreturned
      rw [(consistent.notified.silent unreturned).2] at first
      cases first
    obtain ⟨state, observed, _⟩ := consistent.notified.eager returned unreported
    rw [observed] at first
    cases first
    refine ⟨by rw [state]; rfl, observed, ?_, ?_⟩
    · cases pending : call.subtask.pendingEvent with
      | none => rfl
      | some i =>
          have event := consistent.notified.event i pending
          rw [unreported] at event
          cases event
    · intro i held
      have progress := consistent.notified.handle i held
      rw [unreported] at progress
      cases progress

end SubtaskCall

end Polyengine.Intrinsics
