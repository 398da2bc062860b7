import Polyengine.Intrinsics.SubtaskCall

/-!
# What stays true of a lowered call

The invariant that relates what the caller has observed to the subtask, its pending event, its handle
and a `subtask.cancel` on the way, and what every operation of the call makes of it.
-/

set_option autoImplicit false

namespace Polyengine.Intrinsics

open Polyengine.Cabi Polyengine.Library Polyengine.Task Polyengine.Exec Command

namespace SubtaskCall

/-- An earlier observation is no resolution and is not beyond a later one. -/
def Precedes (earlier later : Nat) : Prop := earlier < 2 ∧ earlier ≤ later

/-- Where the last observation stands to the subtask: a state beyond it has an event pending, and the
resolution counts as delivered exactly when it was observed. -/
structure Seen (st : Subtask) (observed : List Nat) (last : Nat) : Prop where
  newest : observed.getLast? = some last
  behind : min last 2 ≤ min st.state.code 2
  announced : min last 2 < min st.state.code 2 → st.pendingEvent.isSome = true
  delivered : st.lenders = none ↔ 2 ≤ last
  quiet : 2 ≤ last → st.pendingEvent = none

structure Notified (call : SubtaskCall) : Prop where
  valid : call.table.Valid
  numbered : call.table.Numbered
  handle : ∀ i, call.table.entry i = some .subtask → call.onProgress = some i
  delivered : call.subtask.lenders = none → call.subtask.resolved = true
  event : ∀ i, call.subtask.pendingEvent = some i → call.onProgress = some i
  reported : ∀ i, call.onProgress = some i →
    call.activation = .returned ∧ ∃ last, Seen call.subtask call.observed last
  opening : ∀ i, call.onProgress = some i → ∃ code, call.observed.head? = some code ∧ code < 2
  named : ∀ i, call.cancelling.index = some i → call.onProgress = some i
  claimed : call.cancelling ≠ .idle →
    call.subtask.hasSyncWaiter = true ∧ call.subtask.wset = none ∧ call.subtask.lenders.isSome = true
  early : call.activation ≠ .returned → call.observed = []
  calling : call.activation = .calling →
    call.subtask.lenders.isSome = true ∧
      (call.subtask.resolved = true → call.subtask.state = .returned)
  eager : call.activation = .returned → call.onProgress = none →
    call.subtask.state = .returned ∧ call.observed = [2] ∧ call.subtask.lenders = none
  chain : call.observed.Pairwise Precedes

theorem initial_notified (kind : CalleeKind) (jspi : Bool) {table : Table CallerEntry}
    (valid : table.Valid) (numbered : table.Numbered) (fresh : ∀ i, table.entry i ≠ some .subtask)
    (numLends : Nat → Nat) : Notified (initial kind jspi table numLends) where
  valid := valid
  numbered := numbered
  handle := fun i held => absurd held (fresh i)
  delivered := by simp [initial, Subtask.new]
  event := by simp [initial, Subtask.new]
  reported := by simp [initial]
  opening := by simp [initial]
  named := by simp [initial, Cancelling.index]
  claimed := fun claimed => absurd rfl claimed
  early := fun _ => rfl
  calling := fun _ => ⟨rfl, fun resolved => by cases resolved⟩
  eager := by simp [initial]
  chain := .nil

namespace Notified

variable {call : SubtaskCall}

theorem unreported (notified : Notified call) (none' : call.onProgress = none) :
    call.cancelling = .idle := by
  cases cancelling : call.cancelling with
  | idle => rfl
  | callback i _ _ | parked i _ =>
      have named := notified.named i (by rw [cancelling]; rfl)
      rw [none'] at named
      cases named

theorem open_seen (notified : Notified call) (owed : call.subtask.lenders.isSome = true) {i : Nat}
    (reported : call.onProgress = some i) :
    ∃ last, Seen call.subtask call.observed last ∧ last < 2 := by
  obtain ⟨_, last, seen⟩ := notified.reported i reported
  refine ⟨last, seen, ?_⟩
  rcases Nat.lt_or_ge last 2 with open' | closed
  · exact open'
  · rw [seen.delivered.mpr closed] at owed
    cases owed

end Notified

/-- `onProgress` as a change of the call. -/
def armed (call : SubtaskCall) : SubtaskCall :=
  { call with
    subtask :=
      { call.subtask with pendingEvent := call.onProgress.or call.subtask.pendingEvent } }

@[simp] theorem ensures_onProgressed {raised : Failure → SubtaskCall → Prop}
    (post : Unit → SubtaskCall → Prop) (call : SubtaskCall) :
    Ensures raised onProgressed post call ↔ post () call.armed := by
  obtain ⟨_, _, _, _, _, _, _, onProgress, _, _, _, _, _⟩ := call
  cases onProgress with
  | none => rfl
  | some subtaski => rfl

theorem Notified.armed_pending {call : SubtaskCall} (notified : Notified call) :
    call.armed.subtask.pendingEvent = call.onProgress := by
  unfold SubtaskCall.armed
  cases progress : call.onProgress with
  | some subtaski => rfl
  | none =>
      cases pending : call.subtask.pendingEvent with
      | none => rfl
      | some subtaski =>
          have announced := notified.event subtaski pending
          rw [progress] at announced
          cases announced

theorem Notified.armed {call : SubtaskCall} (notified : Notified call)
    (owed : call.subtask.lenders.isSome = true) : Notified call.armed :=
  { notified with
    event := by
      intro i pending
      rw [notified.armed_pending] at pending
      exact pending
    reported := by
      intro i progress
      obtain ⟨returned, _⟩ := notified.reported i progress
      obtain ⟨last, seen, unresolved⟩ := notified.open_seen owed progress
      refine ⟨returned, last, seen.newest, seen.behind, ?_, seen.delivered, ?_⟩
      · intro _
        rw [notified.armed_pending, show call.onProgress = some i from progress]
        rfl
      · intro closed
        omega }

/-- The subtask moves on. -/
def advanced (state : SubtaskState) (flatResults : List CoreValue) (call : SubtaskCall) :
    SubtaskCall :=
  { call with subtask := { call.subtask with state, flatResults } }

theorem Notified.open_lenders {call : SubtaskCall} (notified : Notified call)
    (unresolved : call.subtask.resolved = false) : call.subtask.lenders.isSome = true := by
  cases lenders : call.subtask.lenders with
  | some _ => rfl
  | none =>
      rw [notified.delivered lenders] at unresolved
      cases unresolved

theorem Notified.advanced {call : SubtaskCall} (notified : Notified call)
    (unresolved : call.subtask.resolved = false)
    (announced : call.subtask.pendingEvent = call.onProgress) {state : SubtaskState}
    (forward : call.subtask.state.code ≤ state.code)
    (legal : call.activation = .calling → state.resolved = true → state = .returned)
    (flatResults : List CoreValue) : Notified (call.advanced state flatResults) := by
  have owed := notified.open_lenders unresolved
  have undelivered : call.subtask.lenders ≠ none := by
    intro none'
    rw [none'] at owed
    cases owed
  exact
    { notified with
      delivered := fun none' => absurd none' undelivered
      reported := by
        intro i progress
        obtain ⟨returned, _⟩ := notified.reported i progress
        obtain ⟨last, seen, unseen⟩ := notified.open_seen owed progress
        refine ⟨returned, last, seen.newest, ?_, ?_, seen.delivered, ?_⟩
        · have behind := seen.behind
          simp only [SubtaskCall.advanced]
          omega
        · intro _
          have pending : call.subtask.pendingEvent = some i := announced.trans progress
          simp only [SubtaskCall.advanced, pending, Option.isSome_some]
        · intro closed
          omega
      calling := fun calling => ⟨owed, legal calling⟩
      eager := by
        intro returned progress
        obtain ⟨_, _, none'⟩ := notified.eager returned progress
        exact absurd none' undelivered }

def taken (call : SubtaskCall) : SubtaskCall :=
  { call with
    subtask :=
      { call.subtask with
        pendingEvent := none
        lenders := if call.subtask.resolved then none else call.subtask.lenders }
    numLends :=
      (if call.subtask.resolved then call.subtask.lenders.getD [] else []).foldl
        (fun numLends object => Function.update numLends object (numLends object - 1))
        call.numLends
    observed := call.observed ++ [call.subtask.state.code] }

theorem ensures_takePendingEvent {raised : Failure → SubtaskCall → Prop} {call : SubtaskCall}
    {subtaski : Nat} (pending : call.subtask.pendingEvent = some subtaski)
    (delivered : call.subtask.lenders = none → call.subtask.resolved = true)
    (post : EventTuple → SubtaskCall → Prop) :
    Ensures raised takePendingEvent post call ↔
      post ⟨.subtask, subtaski, call.subtask.state.code⟩ call.taken := by
  have ran := Subtask.getPendingEvent_ok pending delivered
  simp only [takePendingEvent, ensures_bind, Place.ensures_run, subtaskOf, ran,
    Fallible.satisfies_ok, release, observe, ensures_modify, ensures_pure]
  rfl

theorem chain_append {observed : List Nat} {last code : Nat} (chain : observed.Pairwise Precedes)
    (newest : observed.getLast? = some last) (unseen : last < 2) (forward : last ≤ code) :
    (observed ++ [code]).Pairwise Precedes := by
  obtain ⟨before, rfl⟩ := List.getLast?_eq_some_iff.mp newest
  obtain ⟨_, _, ordered⟩ := List.pairwise_append.mp chain
  rw [List.pairwise_append]
  refine ⟨chain, List.pairwise_singleton _ _, ?_⟩
  intro earlier member later single
  cases List.mem_singleton.mp single
  cases List.mem_append.mp member with
  | inl inside =>
      have behind := ordered earlier inside last List.mem_cons_self
      exact ⟨behind.1, behind.2.trans forward⟩
  | inr same =>
      cases List.mem_singleton.mp same
      exact ⟨unseen, forward⟩

theorem Notified.taken {call : SubtaskCall} (notified : Notified call) {subtaski : Nat}
    (pending : call.subtask.pendingEvent = some subtaski) (idle : call.cancelling = .idle) :
    Notified call.taken := by
  have progress := notified.event subtaski pending
  obtain ⟨returned, last, seen⟩ := notified.reported subtaski progress
  have unseen : last < 2 := by
    rcases Nat.lt_or_ge last 2 with unseen | closed
    · exact unseen
    · rw [seen.quiet closed] at pending
      cases pending
  have forward : last ≤ call.subtask.state.code := by
    have behind := seen.behind
    omega
  have open' : call.subtask.lenders ≠ none := by
    intro none'
    have closed := seen.delivered.mp none'
    omega
  have resolved := call.subtask.state.resolved_iff
  exact
    { notified with
      delivered := by
        intro none'
        cases resolution : call.subtask.resolved with
        | true => exact resolution
        | false =>
            simp only [SubtaskCall.taken, resolution] at none'
            exact absurd none' open'
      event := by
        intro i impossible
        cases impossible
      reported := by
        intro i _
        refine ⟨returned, call.subtask.state.code, ?_, Nat.le_refl _, ?_, ?_, fun _ => rfl⟩
        · exact List.getLast?_concat
        · intro ahead
          exact absurd ahead (Nat.lt_irrefl _)
        · simp only [SubtaskCall.taken]
          cases resolution : call.subtask.resolved with
          | true => exact ⟨fun _ => resolved.mp resolution, fun _ => rfl⟩
          | false =>
              refine ⟨fun none' => absurd none' open', ?_⟩
              intro closed
              have impossible := resolved.mpr closed
              rw [Subtask.resolved] at resolution
              rw [resolution] at impossible
              cases impossible
      opening := by
        intro i progress
        obtain ⟨code, first, unresolved⟩ := notified.opening i progress
        refine ⟨code, ?_, unresolved⟩
        simp only [SubtaskCall.taken, List.head?_append, first, Option.some_or]
      claimed := fun claimed => absurd idle claimed
      early := fun early => absurd returned early
      calling := by
        intro calling
        rw [show call.taken.activation = call.activation from rfl, returned] at calling
        cases calling
      eager := by
        intro _ none'
        rw [show call.taken.onProgress = call.onProgress from rfl, progress] at none'
        cases none'
      chain := chain_append notified.chain seen.newest unseen forward }

/-- The claim of `subtask.cancel` has ended. -/
def ended (call : SubtaskCall) : SubtaskCall :=
  { call with
    subtask := { call.subtask with hasSyncWaiter := false }
    cancelling := .idle }

theorem Notified.ended {call : SubtaskCall} (notified : Notified call) : Notified call.ended :=
  { notified with
    reported := fun i progress => by
      obtain ⟨returned, last, seen⟩ := notified.reported i progress
      exact ⟨returned, last, { seen with }⟩
    named := by
      intro i impossible
      cases impossible
    claimed := fun claimed => absurd rfl claimed }

structure Answered (call : SubtaskCall) : Prop where
  owing : call.kind = .fact → call.onProgress ≠ none → call.subtask.resolved = true →
    call.task.state = .resolved
  asked : call.task.state = .pendingCancel ∨ call.task.state = .cancelDelivered →
    call.subtask.cancellationRequested = true
  unrequested : call.onProgress = none → call.subtask.cancellationRequested = false
  requested : call.cancelling ≠ .idle → call.subtask.cancellationRequested = true
  answered : call.kind = .fact → call.task.state = .resolved → call.subtask.resolved = true

structure Consistent (call : SubtaskCall) : Prop where
  notified : Notified call
  answered : Answered call

theorem initial_consistent (kind : CalleeKind) (jspi : Bool) {table : Table CallerEntry}
    (valid : table.Valid) (numbered : table.Numbered) (fresh : ∀ i, table.entry i ≠ some .subtask)
    (numLends : Nat → Nat) : Consistent (initial kind jspi table numLends) where
  notified := initial_notified kind jspi valid numbered fresh numLends
  answered :=
    { owing := fun _ reported => absurd rfl reported
      asked := by simp [initial, Task.new]
      unrequested := fun _ => rfl
      requested := fun claimed => absurd rfl claimed
      answered := by simp [initial, Task.new] }

namespace Consistent

variable {call : SubtaskCall}

theorem armed (consistent : Consistent call) (owed : call.subtask.lenders.isSome = true) :
    Consistent call.armed :=
  ⟨consistent.notified.armed owed, { consistent.answered with }⟩

theorem taken (consistent : Consistent call) {subtaski : Nat}
    (pending : call.subtask.pendingEvent = some subtaski) (idle : call.cancelling = .idle) :
    Consistent call.taken :=
  ⟨consistent.notified.taken pending idle, { consistent.answered with }⟩

theorem ended (consistent : Consistent call) : Consistent call.ended :=
  ⟨consistent.notified.ended,
    { consistent.answered with requested := fun claimed => absurd rfl claimed }⟩

theorem advanced (consistent : Consistent call) (unresolved : call.subtask.resolved = false)
    (announced : call.subtask.pendingEvent = call.onProgress) {state : SubtaskState}
    (forward : call.subtask.state.code ≤ state.code)
    (legal : call.activation = .calling → state.resolved = true → state = .returned)
    (host : call.kind = .fact → state.resolved = false) (flatResults : List CoreValue) :
    Consistent (call.advanced state flatResults) where
  notified := consistent.notified.advanced unresolved announced forward legal flatResults
  answered :=
    { consistent.answered with
      owing := by
        intro fact _ resolved
        have open' := host fact
        rw [show (call.advanced state flatResults).subtask.resolved = state.resolved from rfl,
          open'] at resolved
        cases resolved
      answered := by
        intro fact done
        have resolved := consistent.answered.answered fact done
        rw [unresolved] at resolved
        cases resolved }

theorem withTable (consistent : Consistent call) {table : Table CallerEntry}
    (valid : table.Valid) (numbered : table.Numbered)
    (handle : ∀ i, table.entry i = some .subtask → call.onProgress = some i) :
    Consistent { call with table } :=
  ⟨{ consistent.notified with valid := valid, numbered := numbered, handle := handle },
    { consistent.answered with }⟩

theorem handle_removed (consistent : Consistent call) {table : Table CallerEntry}
    {entry : CallerEntry} {i : Nat} (removed : call.table.remove i = .ok (entry, table)) :
    Consistent { call with table } := by
  obtain ⟨_, valid, entries⟩ := Table.remove_ok consistent.notified.valid removed
  apply consistent.withTable valid (Table.remove_numbered consistent.notified.numbered removed)
  intro j held
  rw [entries j] at held
  split at held
  · cases held
  · exact consistent.notified.handle j held

theorem other_added (consistent : Consistent call) {table : Table CallerEntry} {i identity : Nat}
    (added : call.table.add (.other identity) = .ok (i, table)) :
    Consistent { call with table } := by
  obtain ⟨_, valid, entries⟩ := Table.add_ok consistent.notified.valid added
  apply consistent.withTable valid (Table.add_numbered consistent.notified.numbered added).1
  intro j held
  rw [entries j] at held
  split at held
  · cases held
  · exact consistent.notified.handle j held

theorem announced (consistent : Consistent call) {i : Nat} (progress : call.onProgress = some i)
    (resolved : call.subtask.resolved = true) (owed : call.subtask.lenders.isSome = true) :
    call.subtask.pendingEvent = some i := by
  obtain ⟨last, seen, unseen⟩ := consistent.notified.open_seen owed progress
  have closed := call.subtask.state.resolved_iff.mp resolved
  have pending := seen.announced (by omega)
  obtain ⟨j, event⟩ := Option.isSome_iff_exists.mp pending
  have same := consistent.notified.event j event
  rw [progress] at same
  cases same
  exact event

end Consistent

@[simp] theorem ensures_endCancel {raised : Failure → SubtaskCall → Prop}
    (post : Unit → SubtaskCall → Prop) (call : SubtaskCall) :
    Ensures raised endCancel post call ↔ post () call.ended := Iff.rfl

theorem finishSubtaskCancel_taken {raised : Failure → SubtaskCall → Prop} {call : SubtaskCall}
    (consistent : Consistent call) {i : Nat} (progress : call.onProgress = some i)
    (resolved : call.subtask.resolved = true) (owed : call.subtask.lenders.isSome = true) :
    Ensures raised (finishSubtaskCancel i) (fun _ next => next = call.taken) call := by
  have pending := consistent.announced progress resolved owed
  have delivered : call.taken.subtask.resolveDelivered = .ok true := by
    have released : call.taken.subtask.lenders = none := by
      simp only [SubtaskCall.taken, resolved, if_true]
    rw [Subtask.resolveDelivered_ok, released]
    · rfl
    · exact fun _ => resolved
  rw [finishSubtaskCancel, ensures_bind,
    ensures_takePendingEvent pending consistent.notified.delivered]
  simp only [ensures_bind, Place.ensures_read, ensures_assert, ensures_lift, subtaskOf, delivered,
    Fallible.satisfies_ok]
  refine ⟨fun failed => absurd ⟨trivial, trivial, rfl⟩ failed, fun _ => ⟨?_, fun _ => trivial⟩⟩
  exact fun failed => absurd trivial failed

theorem Consistent.finished {call : SubtaskCall} (consistent : Consistent call) {i : Nat}
    (progress : call.onProgress = some i) (resolved : call.subtask.resolved = true)
    (owed : call.subtask.lenders.isSome = true) : Consistent call.taken.ended :=
  consistent.ended.taken (consistent.announced progress resolved owed) rfl

theorem endingCancel_consistent {call : SubtaskCall} (consistent : Consistent call) {i : Nat}
    (progress : call.onProgress = some i) (owed : call.subtask.lenders.isSome = true) :
    Ensures (fun _ next => Consistent next) (endingCancel (finishOrBlocked i))
      (fun _ next => Consistent next) call := by
  simp only [endingCancel, finishOrBlocked, ensures_bind, ensures_tryCatch, Place.ensures_read,
    ensures_endCancel, ensures_throw]
  cases resolved : call.subtask.resolved with
  | false =>
      rw [show (subtaskOf.get call).resolved = false from resolved]
      exact consistent.ended
  | true =>
      rw [show (subtaskOf.get call).resolved = true from resolved]
      refine (finishSubtaskCancel_taken consistent progress resolved owed).imp ?_
      intro _ next reached
      rw [reached]
      exact consistent.finished progress resolved owed

theorem deliverFrom_keeps (set : Nat) : Keeps Consistent (deliverFrom set) := by
  intro call consistent
  simp only [deliverFrom, ensures_bind, Place.ensures_read, ensures_ite, ensures_pure]
  constructor
  · intro ready
    obtain ⟨joined, pending⟩ := ready
    obtain ⟨i, event⟩ := Option.isSome_iff_exists.mp pending
    have idle : call.cancelling = .idle := by
      by_contra claimed
      have unjoined := (consistent.notified.claimed claimed).2.1
      rw [show call.subtask.wset = some set from joined] at unjoined
      cases unjoined
    rw [ensures_takePendingEvent event consistent.notified.delivered]
    exact consistent.taken event idle
  · intro _
    exact consistent

theorem Consistent.claimed {call : SubtaskCall} (consistent : Consistent call)
    (reported : call.onProgress ≠ none) :
    Consistent
      { call with
        subtask :=
          { call.subtask with cancellationRequested := true, hasSyncWaiter := true } } where
  notified :=
    { consistent.notified with
      reported := by
        intro j progress
        obtain ⟨returned, last, seen⟩ := consistent.notified.reported j progress
        exact ⟨returned, last, { seen with }⟩
      claimed := by
        intro claimed
        obtain ⟨_, unjoined, owed⟩ := consistent.notified.claimed claimed
        exact ⟨rfl, unjoined, owed⟩ }
  answered :=
    { consistent.answered with
      asked := fun _ => rfl
      unrequested := fun none' => absurd none' reported
      requested := fun _ => rfl }

theorem Consistent.framed {call : SubtaskCall} (consistent : Consistent call)
    (requested : call.subtask.cancellationRequested = true)
    (waiting : call.subtask.hasSyncWaiter = true) (unjoined : call.subtask.wset = none)
    (owed : call.subtask.lenders.isSome = true) {cancelling : Cancelling}
    (named : ∀ i, cancelling.index = some i → call.onProgress = some i) :
    Consistent { call with cancelling } where
  notified :=
    { consistent.notified with
      named := named
      claimed := fun _ => ⟨waiting, unjoined, owed⟩ }
  answered := { consistent.answered with requested := fun _ => requested }

theorem Consistent.withTask {call : SubtaskCall} (consistent : Consistent call) {task : Task}
    (owing : call.kind = .fact → call.onProgress ≠ none → call.subtask.resolved = true →
      task.state = .resolved)
    (asked : task.state = .pendingCancel ∨ task.state = .cancelDelivered →
      call.subtask.cancellationRequested = true)
    (answered : call.kind = .fact → task.state = .resolved → call.subtask.resolved = true) :
    Consistent { call with task } :=
  ⟨{ consistent.notified with },
    { consistent.answered with owing := owing, asked := asked, answered := answered }⟩

theorem onCancel_consistent {call : SubtaskCall} (consistent : Consistent call) {i : Nat}
    (progress : call.onProgress = some i) (requested : call.subtask.cancellationRequested = true)
    (waiting : call.subtask.hasSyncWaiter = true) (unjoined : call.subtask.wset = none)
    (unresolved : call.subtask.resolved = false) (async : Bool) :
    Ensures (fun _ next => Consistent next) (onCancel i async) (fun _ next => Consistent next)
      call := by
  have owed := consistent.notified.open_lenders unresolved
  have framed : ∀ discarding, Consistent { call with cancelling := .callback i async discarding } := by
    intro discarding
    apply consistent.framed requested waiting unjoined owed
    intro j named
    cases named
    exact progress
  simp only [onCancel, ensures_bind, ensures_get]
  cases kind : call.kind with
  | host asyncTyped deferCancel => exact framed _
  | fact =>
      have asked : ∀ task : Task, task.state = .pendingCancel →
          Consistent { call with cancelling := .callback i async false, task } := by
        intro task pending
        apply (framed false).withTask
        · intro _ _ resolved
          rw [show call.subtask.resolved = true from resolved] at unresolved
          cases unresolved
        · intro _
          exact requested
        · intro _ resolved
          rw [pending] at resolved
          cases resolved
      simp only [ensures_bind, ensures_modify, Task.requestCancellation, Place.ensures_read,
        ensures_ite, Place.ensures_change, ensures_assert]
      refine ⟨fun _ => asked _ rfl, fun _ => ⟨fun _ => framed _, fun _ => asked _ rfl⟩⟩

theorem subtaskCancel_keeps (i : Nat) (async : Bool) : Keeps Consistent (subtaskCancel i async) := by
  intro call consistent
  simp only [subtaskCancel, ensures_bind, ensures_get, ensures_lift]
  cases found : call.table.get i with
  | error failure => exact consistent
  | ok entry =>
      cases entry with
      | other identity => exact consistent
      | subtask =>
          have progress := consistent.notified.handle i ((Table.get_eq_ok _ _ _).mp found)
          have reported : call.onProgress ≠ none := by
            rw [progress]
            exact Option.some_ne_none i
          have delivered := Subtask.resolveDelivered_ok consistent.notified.delivered
          simp only [Fallible.satisfies_ok, ensures_bind, Place.ensures_read, subtaskOf,
            ensures_lift, Subtask.checkCancel, delivered, Fallible.satisfies_bind,
            satisfies_trapIf, ensures_ite, ensures_assert, Place.ensures_change, ensures_tryCatch,
            ensures_endCancel, ensures_throw]
          refine ⟨fun _ => consistent, fun undelivered => ⟨fun _ => consistent, fun unrequested =>
            ⟨fun _ => consistent, fun unjoined => ⟨fun resolved => ?_, fun unresolved => ?_⟩⟩⟩⟩
          · have owed : call.subtask.lenders.isSome = true := by
              cases lenders : call.subtask.lenders with
              | none => simp [lenders] at undelivered
              | some _ => rfl
            have idle : call.cancelling = .idle := by
              by_contra claimed
              exact unrequested (consistent.answered.requested claimed)
            refine ⟨fun _ => consistent, fun _ => ?_⟩
            refine (finishSubtaskCancel_taken consistent progress resolved owed).imp ?_
            intro _ next reached
            rw [reached]
            exact consistent.taken (consistent.announced progress resolved owed) idle
          · have claimed := consistent.claimed reported
            have alone : call.subtask.wset = none := by
              cases joined : call.subtask.wset with
              | none => rfl
              | some set => simp [Subtask.inWaitableSet, joined] at unjoined
            have open' : call.subtask.resolved = false := Bool.eq_false_iff.mpr unresolved
            refine (onCancel_consistent claimed progress rfl rfl alone open' async).mono ?_ ?_
            · intro failure next reached
              exact reached.ended
            · intro _ next reached
              exact reached

theorem waitableJoin_keeps (wi : Nat) (si : Option Nat) : Keeps Consistent (waitableJoin wi si) := by
  intro call consistent
  simp only [waitableJoin, ensures_bind, ensures_get, ensures_lift]
  cases found : call.table.get wi with
  | error failure => exact consistent
  | ok entry =>
      cases entry with
      | other identity => exact consistent
      | subtask =>
          simp only [Fallible.satisfies_ok, ensures_bind, Place.ensures_read, subtaskOf,
            ensures_trapIf, Place.ensures_revise, Subtask.join, Fallible.satisfies_bind,
            satisfies_assert, Fallible.satisfies_pure]
          refine ⟨fun _ => consistent, fun _ => ⟨fun _ => consistent, fun free => ?_⟩⟩
          constructor
          · exact
              { consistent.notified with
                reported := by
                  intro j progress
                  obtain ⟨returned, last, seen⟩ := consistent.notified.reported j progress
                  exact ⟨returned, last, { seen with }⟩
                claimed := by
                  intro claimed
                  rw [(consistent.notified.claimed claimed).1] at free
                  cases free }
          · exact { consistent.answered with }

theorem subtaskDrop_keeps (i : Nat) : Keeps Consistent (subtaskDrop i) := by
  intro call consistent
  simp only [subtaskDrop, ensures_bind, ensures_get, ensures_lift]
  cases removed : call.table.remove i with
  | error failure => exact consistent
  | ok outcome =>
      obtain ⟨entry, table⟩ := outcome
      have without := consistent.handle_removed removed
      cases entry with
      | other identity => exact without
      | subtask =>
          have delivered := Subtask.resolveDelivered_ok consistent.notified.delivered
          simp only [Fallible.satisfies_ok, ensures_modify, Place.ensures_revise, subtaskOf,
            Subtask.drop, Subtask.join, delivered, Fallible.satisfies_bind, satisfies_trapIf,
            satisfies_assert, Fallible.satisfies_pure]
          refine ⟨fun _ => without, fun closed => ⟨fun _ => without, fun free => ⟨fun _ => without,
            fun _ => ?_⟩⟩⟩
          have released : call.subtask.lenders = none := by
            cases lenders : call.subtask.lenders with
            | none => rfl
            | some _ => simp [lenders] at closed
          constructor
          · exact
              { without.notified with
                event := by
                  intro j impossible
                  cases impossible
                reported := by
                  intro j progress
                  obtain ⟨returned, last, seen⟩ := consistent.notified.reported j progress
                  have shown := seen.delivered.mp released
                  refine ⟨returned, last, seen.newest, seen.behind, ?_, seen.delivered, fun _ => rfl⟩
                  intro ahead
                  omega
                claimed := by
                  intro claimed
                  obtain ⟨_, _, owed⟩ := consistent.notified.claimed claimed
                  rw [released] at owed
                  cases owed }
          · exact { without.answered with }

theorem guest_keeps (mayLeave : Bool) (action : GuestAction) :
    Keeps Consistent (guest mayLeave action) := by
  intro call consistent
  rw [guest.eq_def, ensures_bind, ensures_trapIf]
  refine ⟨fun _ => consistent, fun _ => ?_⟩
  cases action with
  | subtaskCancel i async => exact subtaskCancel_keeps i async call consistent
  | waitableJoin wi si => exact waitableJoin_keeps wi si call consistent
  | subtaskDrop i => exact subtaskDrop_keeps i call consistent
  | waitableSetPoll set => exact deliverFrom_keeps set call consistent
  | addOther identity =>
      simp only [ensures_bind, ensures_get, ensures_lift]
      cases added : call.table.add (.other identity) with
      | error failure => exact consistent
      | ok outcome =>
          obtain ⟨i, table⟩ := outcome
          exact consistent.other_added added
  | removeOther i =>
      simp only [ensures_bind, ensures_get, ensures_lift]
      cases removed : call.table.remove i with
      | error failure => exact consistent
      | ok outcome =>
          obtain ⟨entry, table⟩ := outcome
          have without := consistent.handle_removed removed
          simp only [Fallible.satisfies_ok, ensures_modify, ensures_trapIf]
          exact ⟨fun _ => without, fun _ => without⟩

theorem reallocs_blocked {raised : Failure → SubtaskCall → Prop} {post : Unit → SubtaskCall → Prop}
    {call : SubtaskCall} (during : List GuestAction) (success : post () call)
    (failure : ∀ message, raised (.trap message) call) :
    Ensures raised (reallocs during) post call := by
  cases during with
  | nil => exact success
  | cons action rest =>
      rw [reallocs, ensures_bind, guest.eq_def, ensures_bind, ensures_trapIf]
      exact ⟨fun _ => failure _, fun impossible => absurd rfl impossible⟩

theorem checkDelivery_ensures {raised : Failure → SubtaskCall → Prop}
    {post : Unit → SubtaskCall → Prop} {call : SubtaskCall}
    (success : call.subtask.resolved = false → post () call)
    (failure : ∀ cause, raised cause call) : Ensures raised checkDelivery post call := by
  simp only [checkDelivery, ensures_bind, Place.ensures_read, subtaskOf, ensures_get, ensures_lift]
  cases checked : checkLoweredResultDelivery call.subtask call.poison with
  | error cause => exact failure cause
  | ok _ => exact success (checkLoweredResultDelivery_ok.mp checked).1

theorem commit_keeps (transferFree : Bool) (during : List GuestAction)
    (lowered : Except Failure (List CoreValue)) (call : SubtaskCall) (host : call.kind ≠ .fact)
    (consistent : Consistent call) :
    Ensures (fun _ next => Consistent next) (commit transferFree during lowered)
      (fun _ next => Consistent next) call := by
  rw [commit, ensures_bind]
  apply checkDelivery_ensures
  · intro unresolved
    have announced := consistent.armed (consistent.notified.open_lenders unresolved)
    have pending := consistent.notified.armed_pending
    have finish : ∀ flatResults, call.subtask.state = .started →
        Consistent (call.armed.advanced .returned flatResults) := by
      intro flatResults started
      have code : call.armed.subtask.state = .started := started
      apply announced.advanced unresolved pending
      · rw [code]
        decide
      · exact fun _ _ => rfl
      · exact fun fact => absurd fact host
    simp only [onResolveReturned, ensures_bind, ensures_onProgressed, Place.ensures_read,
      ensures_assert]
    refine ⟨fun _ => announced, fun started => ?_⟩
    apply reallocs_blocked
    · rw [ensures_lift]
      cases lowered with
      | error failure => exact announced
      | ok flatResults =>
          have resolve : Ensures (fun _ next => Consistent next)
              (subtaskOf.revise (·.resolve .returned flatResults) : Calling Unit)
              (fun _ next => Consistent next) call.armed := by
            simp only [Place.ensures_revise, Subtask.resolve, Fallible.satisfies_bind,
              satisfies_assert, Fallible.satisfies_pure]
            exact ⟨fun _ => announced, fun _ => ⟨fun _ => announced, fun _ =>
              finish flatResults started⟩⟩
          rw [Fallible.satisfies_ok]
          cases transferFree with
          | true => exact resolve
          | false => exact checkDelivery_ensures (fun _ => resolve) fun _ => announced
    · exact fun _ => announced
  · exact fun _ => consistent

theorem settle_keeps : Keeps Consistent settle := by
  intro call consistent
  have settled : Consistent { call with pending := false } :=
    ⟨{ consistent.notified with }, { consistent.answered with }⟩
  simp only [settle, ensures_bind, ensures_modify, ensures_get]
  cases call.subtask.resolved || call.poison.isSome with
  | true => exact settled
  | false => exact ⟨{ settled.notified with }, { settled.answered with }⟩

theorem discarded_keeps (call : SubtaskCall) (consistent : Consistent call)
    (claimed : call.cancelling ≠ .idle) (host : call.kind ≠ .fact)
    (outcome : Except Failure Unit) :
    Ensures (fun _ next => Consistent next)
      (do
        liftM outcome
        onResolveCancelled subtaskOf onProgressed)
      (fun _ next => Consistent next) call := by
  obtain ⟨_, _, owed⟩ := consistent.notified.claimed claimed
  have reported : call.onProgress ≠ none := fun none' => claimed (consistent.notified.unreported none')
  obtain ⟨i, progress⟩ := Option.ne_none_iff_exists'.mp reported
  obtain ⟨returned, _⟩ := consistent.notified.reported i progress
  have announced := consistent.armed owed
  have pending := consistent.notified.armed_pending
  rw [ensures_bind, ensures_lift]
  cases outcome with
  | error failure => exact consistent
  | ok _ =>
      simp only [Fallible.satisfies_ok, onResolveCancelled, ensures_bind, ensures_onProgressed,
        Place.ensures_read, ensures_assert, Place.ensures_revise, Subtask.resolve,
        Fallible.satisfies_bind, satisfies_assert, Fallible.satisfies_pure]
      refine ⟨fun _ => announced, fun _ => ⟨fun _ => announced, fun _ => ⟨fun _ => announced,
        fun unresolved => ?_⟩⟩⟩
      apply announced.advanced unresolved pending
      · have moved : ∀ state : SubtaskState, state.code ≤ state.cancelled.code := by
          intro state
          cases state <;> decide
        exact moved _
      · intro calling
        rw [show call.armed.activation = call.activation from rfl, returned] at calling
        cases calling
      · exact fun fact => absurd fact host

theorem armed_unreported {call : SubtaskCall} (none' : call.onProgress = none) :
    call.armed = call := by
  obtain ⟨_, _, ⟨_, _, _, _, _, _, _⟩, _, _, _, _, onProgress, _, _, _, _, _⟩ := call
  cases none'
  rfl

theorem addLenders_keeps (lent : List Nat) : Keeps Consistent (addLenders lent) := by
  induction lent with
  | nil => exact .pure ()
  | cons object rest ih =>
      rw [addLenders]
      refine Keeps.bind ?_ fun _ => ih
      intro call consistent
      have delivered := Subtask.resolveDelivered_ok consistent.notified.delivered
      simp only [addLender, ensures_bind, Place.ensures_revise, subtaskOf, Subtask.addLender,
        delivered, Fallible.satisfies_bind, Fallible.satisfies_ok, satisfies_assert,
        Fallible.satisfies_pure, ensures_modify]
      refine ⟨fun _ => consistent, fun owed => ?_⟩
      obtain ⟨lenders, held⟩ : ∃ lenders, call.subtask.lenders = some lenders := by
        cases held : call.subtask.lenders with
        | none => simp [held] at owed
        | some lenders => exact ⟨lenders, rfl⟩
      simp only [held, Option.map_some]
      constructor
      · exact
          { consistent.notified with
            delivered := by
              intro impossible
              cases impossible
            reported := by
              intro i progress
              obtain ⟨returned, last, seen⟩ := consistent.notified.reported i progress
              have still := seen.delivered
              rw [held] at still
              refine ⟨returned, last, seen.newest, seen.behind, seen.announced, ?_, seen.quiet⟩
              constructor
              · intro impossible
                cases impossible
              · intro shown
                cases still.mpr shown
            claimed := by
              intro claimed
              obtain ⟨waiting, unjoined, _⟩ := consistent.notified.claimed claimed
              exact ⟨waiting, unjoined, rfl⟩
            calling := by
              intro calling
              exact ⟨rfl, (consistent.notified.calling calling).2⟩
            eager := by
              intro returned none'
              obtain ⟨_, _, released⟩ := consistent.notified.eager returned none'
              rw [held] at released
              cases released }
      · exact { consistent.answered with }

theorem Consistent.failing {call : SubtaskCall} (consistent : Consistent call)
    (unreported : call.onProgress = none) (observed : call.observed = []) {subtask : Subtask}
    (event : subtask.pendingEvent = call.subtask.pendingEvent)
    (requested : subtask.cancellationRequested = call.subtask.cancellationRequested)
    (delivered : subtask.lenders = none → subtask.resolved = true)
    (resolved : call.subtask.resolved = true → subtask.resolved = true)
    (numLends : Nat → Nat) :
    Consistent { call with subtask, numLends, activation := .failed } where
  notified :=
    { consistent.notified with
      delivered := delivered
      event := by
        intro i pending
        rw [event] at pending
        exact consistent.notified.event i pending
      reported := by
        intro i progress
        rw [show call.onProgress = some i from progress] at unreported
        cases unreported
      claimed := fun claimed => absurd (consistent.notified.unreported unreported) claimed
      early := fun _ => observed
      calling := by
        intro impossible
        cases impossible
      eager := by
        intro impossible
        cases impossible }
  answered :=
    { owing := fun _ reported => absurd unreported reported
      asked := by
        intro asked
        rw [requested]
        exact consistent.answered.asked asked
      unrequested := by
        intro none'
        rw [requested]
        exact consistent.answered.unrequested none'
      requested := fun claimed => absurd (consistent.notified.unreported unreported) claimed
      answered := fun fact done => resolved (consistent.answered.answered fact done) }

theorem Notified.silent {call : SubtaskCall} (notified : Notified call)
    (unreturned : call.activation ≠ .returned) : call.onProgress = none ∧ call.observed = [] := by
  refine ⟨?_, notified.early unreturned⟩
  cases progress : call.onProgress with
  | none => rfl
  | some i => exact absurd (notified.reported i progress).1 unreturned

theorem unwind_consistent {call : SubtaskCall} (consistent : Consistent call)
    (failed : call.activation = .failed) {raised : Failure → SubtaskCall → Prop} :
    Ensures raised unwindSubtaskLenders (fun _ next => Consistent next) call := by
  obtain ⟨lenders, next, ran, event, requested, resolved⟩ := call.subtask.unwindLenders_ok
  obtain ⟨unreported, observed⟩ := consistent.notified.silent (by rw [failed]; decide)
  have unwound := consistent.failing unreported observed event requested (fun _ => resolved)
    (fun _ => resolved)
    (lenders.foldl (fun numLends object => Function.update numLends object (numLends object - 1))
      call.numLends)
  simp only [unwindSubtaskLenders, ensures_bind, Place.ensures_run, subtaskOf, ran,
    Fallible.satisfies_ok, release, ensures_modify]
  rw [← failed] at unwound
  exact unwound

theorem Consistent.handed {call : SubtaskCall} (consistent : Consistent call)
    (calling : call.activation = .calling) (unresolved : call.subtask.resolved = false)
    {table : Table CallerEntry} {i : Nat} (added : call.table.add .subtask = .ok (i, table)) :
    Consistent
      { call with
        table
        onProgress := some i
        activation := .returned
        observed := call.observed ++ [call.subtask.state.code] } := by
  have owed := (consistent.notified.calling calling).1
  obtain ⟨unreported, silent⟩ := consistent.notified.silent (by rw [calling]; decide)
  obtain ⟨_, valid, entries⟩ := Table.add_ok consistent.notified.valid added
  have idle := consistent.notified.unreported unreported
  have open' : ¬2 ≤ call.subtask.state.code := by
    intro closed
    have resolved := call.subtask.state.resolved_iff.mpr closed
    rw [Subtask.resolved] at unresolved
    rw [unresolved] at resolved
    cases resolved
  constructor
  · exact
      { consistent.notified with
        valid := valid
        numbered := (Table.add_numbered consistent.notified.numbered added).1
        handle := by
          intro j held
          rw [entries j] at held
          split at held
          · rename_i same
            rw [same]
          · have before := consistent.notified.handle j held
            rw [unreported] at before
            cases before
        event := by
          intro j pending
          have before := consistent.notified.event j pending
          rw [unreported] at before
          cases before
        reported := by
          intro j _
          refine ⟨rfl, call.subtask.state.code, List.getLast?_concat, Nat.le_refl _, ?_, ?_, ?_⟩
          · intro ahead
            exact absurd ahead (Nat.lt_irrefl _)
          · constructor
            · intro none'
              rw [show call.subtask.lenders = none from none'] at owed
              cases owed
            · intro closed
              exact absurd closed open'
          · intro closed
            exact absurd closed open'
        opening := by
          intro j _
          refine ⟨call.subtask.state.code, ?_, Nat.lt_of_not_le open'⟩
          rw [silent]
          rfl
        named := by
          intro j named
          rw [show call.cancelling = .idle from idle] at named
          cases named
        early := fun early => absurd rfl early
        calling := by
          intro impossible
          cases impossible
        eager := by
          intro _ impossible
          cases impossible
        chain := by
          rw [silent]
          exact List.pairwise_singleton _ _ }
  · exact
      { consistent.answered with
        owing := by
          intro _ _ resolved
          rw [show call.subtask.resolved = true from resolved] at unresolved
          cases unresolved
        unrequested := by
          intro impossible
          cases impossible }

theorem Consistent.eagerly {call : SubtaskCall} (consistent : Consistent call)
    (calling : call.activation = .calling) (resolved : call.subtask.resolved = true)
    (numLends : Nat → Nat) :
    Consistent
      { call with
        subtask := { call.subtask with lenders := none }
        numLends
        activation := .returned
        observed := call.observed ++ [2] } := by
  obtain ⟨_, legal⟩ := consistent.notified.calling calling
  obtain ⟨unreported, silent⟩ := consistent.notified.silent (by rw [calling]; decide)
  have idle := consistent.notified.unreported unreported
  constructor
  · exact
      { consistent.notified with
        delivered := fun _ => resolved
        reported := by
          intro j progress
          rw [show call.onProgress = some j from progress] at unreported
          cases unreported
        opening := by
          intro j progress
          rw [show call.onProgress = some j from progress] at unreported
          cases unreported
        claimed := fun claimed => absurd idle claimed
        early := fun early => absurd rfl early
        calling := by
          intro impossible
          cases impossible
        eager := by
          intro _ _
          rw [silent]
          exact ⟨legal resolved, rfl, rfl⟩
        chain := by
          rw [silent]
          exact List.pairwise_singleton _ _ }
  · exact { consistent.answered with }

section Report

variable {call : SubtaskCall}

theorem reportHandle_consistent (consistent : Consistent call)
    (calling : call.activation = .calling) (unresolved : call.subtask.resolved = false)
    (failed : Consistent { call with activation := .failed }) :
    Ensures (fun _ next => Consistent { next with activation := .failed }) reportHandle
      (fun _ next => Consistent next) call := by
  simp only [reportHandle, ensures_bind, ensures_get, ensures_lift]
  cases added : call.table.add .subtask with
  | error failure => exact failed
  | ok outcome =>
      obtain ⟨i, table⟩ := outcome
      obtain ⟨_, inRange⟩ := Table.add_numbered consistent.notified.numbered added
      obtain ⟨packed, ran, unpacked⟩ := packSubtaskResult_ok call.subtask.state inRange
      simp only [Fallible.satisfies_ok, ensures_modify, Place.ensures_read, subtaskOf, ran, observe,
        unpacked]
      exact consistent.handed calling unresolved added

theorem reportResolved_consistent (consistent : Consistent call)
    (calling : call.activation = .calling) (resolved : call.subtask.resolved = true) :
    Ensures (fun _ next => Consistent { next with activation := .failed }) reportResolved
      (fun _ next => Consistent next) call := by
  obtain ⟨unreported, silent⟩ := consistent.notified.silent (by rw [calling]; decide)
  obtain ⟨lenders, held⟩ := Option.isSome_iff_exists.mp (consistent.notified.calling calling).1
  have taken := Subtask.deliverResolve_ok held resolved
  have failed : ∀ numLends, Consistent
      { call with
        subtask := { call.subtask with lenders := none }
        numLends
        activation := .failed } := by
    intro numLends
    exact @Consistent.failing call consistent unreported silent { call.subtask with lenders := none }
      rfl rfl (fun _ => resolved) id numLends
  simp only [reportResolved, deliverResolve, ensures_bind, Place.ensures_run, subtaskOf, taken,
    Fallible.satisfies_ok, release, ensures_modify, ensures_get]
  split
  · simp only [ensures_bind, Place.ensures_read, ensures_assert, ensures_modify, observe]
    exact ⟨fun _ => failed _, fun _ => consistent.eagerly calling resolved _⟩
  · simp only [ensures_bind, ensures_modify, observe]
    exact consistent.eagerly calling resolved _

theorem report_consistent (consistent : Consistent call) (calling : call.activation = .calling) :
    Ensures (fun _ next => Consistent { next with activation := .failed }) report
      (fun _ next => Consistent next) call := by
  obtain ⟨unreported, silent⟩ := consistent.notified.silent (by rw [calling]; decide)
  have failed : Consistent { call with activation := .failed } :=
    consistent.failing unreported silent rfl rfl consistent.notified.delivered id call.numLends
  have reports : Ensures (fun _ next => Consistent { next with activation := .failed })
      (if call.subtask.resolved then reportResolved else reportHandle)
      (fun _ next => Consistent next) call := by
    cases resolved : call.subtask.resolved with
    | true => exact reportResolved_consistent consistent calling resolved
    | false => exact reportHandle_consistent consistent calling resolved failed
  simp only [report, ensures_bind, ensures_get]
  cases call.kind with
  | fact => exact reports
  | host asyncTyped deferCancel =>
      simp only [ensures_bind, ensures_assert]
      exact ⟨fun _ => failed, fun _ => reports⟩

end Report

/-! ### The callee of `async-start-call` -/

section Callee

variable {call : SubtaskCall}

theorem onCallerResults_consistent {raised : Failure → SubtaskCall → Prop}
    (consistent : Consistent call) (fact : call.kind = .fact) (ongoing : call.task.state ≠ .resolved)
    {returned : Bool} (legal : returned = false → call.activation ≠ .calling) :
    Ensures raised (onCallerResults returned)
      (fun _ next => Consistent { next with task := next.task.toState .resolved }) call := by
  have settles : ∀ next : SubtaskCall, Notified next → next.subtask.resolved = true →
      next.subtask.cancellationRequested = call.subtask.cancellationRequested →
      next.onProgress = call.onProgress → next.cancelling = call.cancelling →
      Consistent { next with task := next.task.toState .resolved } := by
    intro next notified resolved requested progress cancelling
    constructor
    · exact { notified with }
    · constructor
      · exact fun _ _ _ => rfl
      · simp [Task.toState]
      · intro none'
        rw [show next.onProgress = none from none'] at progress
        rw [show next.subtask.cancellationRequested = _ from requested]
        exact consistent.answered.unrequested progress.symm
      · intro claimed
        rw [show next.subtask.cancellationRequested = _ from requested]
        rw [show next.cancelling = _ from cancelling] at claimed
        exact consistent.answered.requested claimed
      · exact fun _ _ => resolved
  simp only [onCallerResults, ensures_bind, Place.ensures_read, subtaskOf, ensures_ite,
    Place.ensures_revise, Subtask.resolve, Fallible.satisfies_bind, satisfies_assert,
    Fallible.satisfies_pure, ensures_onProgressed]
  constructor
  · intro unresolved
    have announced := consistent.notified.armed (consistent.notified.open_lenders unresolved)
    have moved : ∀ state : SubtaskState, state.code ≤ state.cancelled.code ∧
        (state.resolved = false → state.code ≤ SubtaskState.returned.code) := by
      intro state
      cases state <;> decide
    refine ⟨fun failed => absurd (Or.inr trivial) failed, fun _ => ⟨fun failed => absurd unresolved failed,
      fun _ => ?_⟩⟩
    cases returned with
    | true =>
        apply settles (call.armed.advanced .returned [])
        · apply announced.advanced unresolved consistent.notified.armed_pending
          · exact (moved _).2 unresolved
          · exact fun _ _ => rfl
        all_goals rfl
    | false =>
        apply settles (call.armed.advanced call.subtask.state.cancelled [])
        · apply announced.advanced unresolved consistent.notified.armed_pending
          · exact (moved _).1
          · exact fun calling => absurd calling (legal rfl)
        · exact SubtaskState.cancelled_resolved _
        all_goals rfl
  · intro resolved
    have resolved : call.subtask.resolved = true := by
      cases resolution : call.subtask.resolved with
      | true => rfl
      | false => exact absurd resolution resolved
    have unreported : call.onProgress = none := by
      by_contra reported
      exact ongoing (consistent.answered.owing fact reported resolved)
    rw [armed_unreported unreported]
    exact settles call consistent.notified resolved rfl rfl rfl

theorem calleeStart_keeps (lent : List Nat) (adapter : Except Failure Unit) :
    Keeps Consistent (calleeStart lent adapter) := by
  refine Keeps.bind (addLenders_keeps lent) fun _ => Keeps.bind (.lift adapter) fun _ => ?_
  intro call consistent
  simp only [ensures_bind, Place.ensures_read, subtaskOf, ensures_ite, Place.ensures_change,
    ensures_onProgressed, ensures_pure]
  constructor
  · intro starting
    have unresolved : call.subtask.resolved = false := by
      rw [Subtask.resolved, starting]
      rfl
    have announced := consistent.armed (consistent.notified.open_lenders unresolved)
    have code : call.armed.subtask.state = .starting := starting
    apply announced.advanced unresolved consistent.notified.armed_pending
    · exact code ▸ Nat.zero_le 1
    · intro _ impossible
      cases impossible
    · exact fun _ => rfl
  · intro _
    exact consistent

theorem taskStart_consistent (consistent : Consistent call) (fact : call.kind = .fact)
    (lent : List Nat) (adapter : Except Failure Unit) :
    Ensures (fun _ next => Consistent next) (Task.start taskOf (calleeStart lent adapter))
      (fun _ next => Consistent next) call := by
  simp only [Task.start, ensures_bind, Place.ensures_read, ensures_assert, Place.ensures_change]
  refine ⟨fun _ => consistent, fun fresh => ?_⟩
  have fresh : call.task.state = .initial := fresh
  apply calleeStart_keeps
  apply consistent.withTask
  · intro _ reported resolved
    have done := consistent.answered.owing fact reported resolved
    rw [fresh] at done
    cases done
  · simp [taskOf, Task.toState]
  · simp [taskOf, Task.toState]

theorem taskReturn_consistent (consistent : Consistent call) (fact : call.kind = .fact)
    (adapter : Except Failure Unit) :
    Ensures (fun _ next => Consistent next) (Task.return_ taskOf (calleeResolve adapter))
      (fun _ next => Consistent next) call := by
  simp only [Task.return_, ensures_bind, Place.ensures_read, ensures_trapIf, Place.ensures_change]
  refine ⟨fun _ => consistent, fun ongoing => ⟨fun _ => consistent, fun _ => ?_⟩⟩
  rw [calleeResolve, ensures_bind, ensures_lift]
  cases adapter with
  | error failure => exact consistent
  | ok _ => exact onCallerResults_consistent consistent fact ongoing (by intro impossible; cases impossible)

theorem taskCancel_consistent (consistent : Consistent call) (fact : call.kind = .fact) :
    Ensures (fun _ next => Consistent next) (Task.cancel taskOf (onCallerResults false))
      (fun _ next => Consistent next) call := by
  simp only [Task.cancel, ensures_bind, Place.ensures_read, ensures_trapIf, Place.ensures_change]
  refine ⟨fun _ => consistent, fun delivered => ⟨fun _ => consistent, fun _ => ?_⟩⟩
  have delivered : call.task.state = .cancelDelivered := not_not.mp delivered
  apply onCallerResults_consistent consistent fact
  · rw [delivered]
    decide
  · intro _ calling
    obtain ⟨unreported, _⟩ := consistent.notified.silent (by rw [calling]; decide)
    have asked := consistent.answered.asked (.inr delivered)
    rw [consistent.answered.unrequested unreported] at asked
    cases asked

theorem deliverPendingCancel_keeps : Keeps Consistent (Task.deliverPendingCancel taskOf) := by
  intro call consistent
  simp only [Task.deliverPendingCancel, ensures_bind, Place.ensures_read, ensures_ite,
    Place.ensures_change, ensures_pure]
  constructor
  · intro pending
    have pending : call.task.state = .pendingCancel := pending
    apply consistent.withTask
    · intro fact reported resolved
      have done := consistent.answered.owing fact reported resolved
      rw [pending] at done
      cases done
    · intro _
      exact consistent.answered.asked (.inl pending)
    · simp [taskOf, Task.toState]
  · intro _
    exact consistent

end Callee

end SubtaskCall

end Polyengine.Intrinsics
