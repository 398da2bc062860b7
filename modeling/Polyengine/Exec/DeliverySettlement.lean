import Polyengine.Cabi.LowerFrame
import Polyengine.Exec.DeliveryCleanup

/-!
# The settlement of a host import

Whatever other code does between its steps, the reaction to the promise of a host import leaves the
call either with the results it lowered or with its custody cleaned up.
-/

set_option autoImplicit false

namespace Polyengine.Exec

open Polyengine.Cabi Polyengine.Library Polyengine.Task Command

variable {Rest Guest : Type}

def Lowered (lowered : Import Rest Guest) (host : ImportHost Rest) : Prop :=
  ∃ (values : List Value) (checked : Bool) (before after : ImportState Rest Guest)
    (outParam : Option ValueIter),
    host.lowering = some values ∧ values.length = lowered.results.length ∧
    (lowerFlatValues (callContext lowered.options (resultContext lowered.cx checked)) 0 values
      lowered.results lowered.outParam).outcome before =
        (.ok (host.subtask.flatResults, outParam), after)

/-- What became of the custody of the call: each of its ownerships is cleaned up at most once, and
exactly once if no lowering began, in which case nothing was inserted for it either. -/
def Custodial (host : ImportHost Rest) : Prop :=
  match host.custody with
  | none => host.disposed = []
  | some custody =>
      host.disposed.Sublist (custody.acquired.reverse.map (·.cleanup)) ∧
        (host.lowering = none → (∀ a ∈ custody.acquired, a.insertion = none) ∧
          host.disposed = custody.acquired.reverse.map (·.cleanup))

/-- The subtask returned, with results that were lowered and without a cleanup. -/
structure Returned (lowered : Import Rest Guest) (host : ImportHost Rest) : Prop where
  resolutions : host.resolutions = [⟨.returned, true⟩]
  state : host.subtask.state = .returned
  disposed : host.disposed = []
  results : Lowered lowered host

/-- Between two reactions. -/
structure Settled (lowered : Import Rest Guest) (state : ImportState Rest Guest) : Prop where
  valid : ∀ inst, (state.world.handles.tables inst).Valid
  outcome : Unreturned state.world.handles.host ∨ Returned lowered state.world.handles.host
  custodial : Custodial state.world.handles.host
  waiting : state.world.handles.host.awaiting = true →
    Unreturned state.world.handles.host ∧ state.world.handles.host.lowering = none ∧
      state.world.handles.host.custody = none
  released : state.world.custody = none

theorem Settled.around {lowered : Import Rest Guest} {state next : ImportState Rest Guest}
    (settled : Settled lowered state) (around : Around state next) : Settled lowered next := by
  have interfered := around.interfered
  constructor
  · exact interfered.valid settled.valid
  · cases settled.outcome with
    | inl unreturned => exact .inl (interfered.unreturned unreturned)
    | inr returned =>
        have resolved : state.world.handles.host.subtask.resolved = true := by
          rw [Subtask.resolved, returned.state]
          rfl
        obtain ⟨same, flatResults, resolutions⟩ := interfered.returned resolved
        obtain ⟨values, checked, before, after, outParam, lowering, lengths, ran⟩ := returned.results
        right
        constructor
        · exact resolutions.trans returned.resolutions
        · exact same.trans returned.state
        · exact interfered.disposed.trans returned.disposed
        · rw [← flatResults] at ran
          exact ⟨values, checked, before, after, outParam, interfered.lowering.trans lowering,
            lengths, ran⟩
  · have custodial := settled.custodial
    unfold Custodial at custodial ⊢
    rwa [interfered.custody, interfered.disposed, interfered.lowering]
  · intro waiting
    rw [interfered.awaiting] at waiting
    obtain ⟨unreturned, lowering, custody⟩ := settled.waiting waiting
    exact ⟨interfered.unreturned unreturned, interfered.lowering.trans lowering,
      interfered.custody.trans custody⟩
  · exact around.custody.trans settled.released

/-- During a reaction that has neither returned nor cleaned up anything. -/
structure Undelivered (state : ImportState Rest Guest) : Prop where
  valid : ∀ inst, (state.world.handles.tables inst).Valid
  unreturned : Unreturned state.world.handles.host
  awaiting : state.world.handles.host.awaiting = false
  disposed : state.world.handles.host.disposed = []
  custody : state.world.handles.host.custody = none

theorem Undelivered.around {state next : ImportState Rest Guest} (undelivered : Undelivered state)
    (around : Around state next) : Undelivered next where
  valid := around.interfered.valid undelivered.valid
  unreturned := around.interfered.unreturned undelivered.unreturned
  awaiting := around.interfered.awaiting.trans undelivered.awaiting
  disposed := around.interfered.disposed.trans undelivered.disposed
  custody := around.interfered.custody.trans undelivered.custody

theorem Undelivered.settled {lowered : Import Rest Guest} {state : ImportState Rest Guest}
    (undelivered : Undelivered state) (released : state.world.custody = none) :
    Settled lowered state where
  valid := undelivered.valid
  outcome := .inl undelivered.unreturned
  custodial := by
    rw [Custodial, undelivered.custody]
    exact undelivered.disposed
  waiting := by
    intro waiting
    rw [undelivered.awaiting] at waiting
    cases waiting
  released := released

/-- A custody that can be cleaned up; until a lowering began nothing was inserted for it. -/
structure Keeps (host : ImportHost Rest) (custody : PreparedCustody) : Prop where
  unfinished : custody.finished = false
  uninserted : host.lowering = none → ∀ a ∈ custody.acquired, a.insertion = none

section Lowering

/-- The call without the state of other code. -/
def ImportHost.forget (host : ImportHost Rest) : ImportHost Unit :=
  { host with rest := () }

theorem insertedAll_finished (custody : PreparedCustody) (inserted : List Insertion) :
    (custody.insertedAll inserted).finished = custody.finished := by
  induction inserted generalizing custody with
  | nil => rfl
  | cons insertion inserted ih => exact ih (custody.inserted insertion)

structure Lowers (state next : ImportState Rest Guest) : Prop where
  valid : (∀ inst, (state.world.handles.tables inst).Valid) →
    ∀ inst, (next.world.handles.tables inst).Valid
  host : next.world.handles.host.forget = state.world.handles.host.forget
  custody : ∃ inserted, next.world.custody = state.world.custody.map (·.insertedAll inserted)

theorem lowerFlatValues_lowers (lowered : Import Rest Guest)
    (valid : ∀ t ∈ lowered.results, ValidType True (despecialize t)) (checked : Bool)
    {values : List Value} (same : values.length = lowered.results.length)
    {state : ImportState Rest Guest} (tables : ∀ inst, (state.world.handles.tables inst).Valid) :
    Ensures (fun _ next => Lowers state next)
      (lowerFlatValues (callContext lowered.options (resultContext lowered.cx checked)) 0 values
        lowered.results lowered.outParam) (fun _ next => Lowers state next) state := by
  have law := @callContext_fixingLaw (ImportHost Rest) Guest (ImportHost Unit) ImportHost.forget
    (resultContext lowered.cx checked) lowered.options (fun _ => True) (fun _ _ => trivial)
    (fun _ _ _ _ _ => trivial) (fun _ _ _ => rfl) (lanePtrType state.memory)
  have loose : ¬False → ∀ failure : Failure, (fun _ => True) failure := fun _ _ => trivial
  have taken : ∀ vi, lowered.outParam = some vi → Fallible.Satisfies (fun _ => True)
      (vi.next (lanePtrType state.memory).core) fun _ => True := by
    intro vi _
    rw [Fallible.satisfies_iff]
    exact ⟨fun _ _ => trivial, fun _ _ => trivial⟩
  have emits := lowerFlatValues_emits law loose valid same False.elim 0 (fun _ => taken) state
    ⟨rfl, tables⟩
  apply emits.mono
  · intro failure next failed
    obtain ⟨_, done, _, ⟨inserted, _, custody, _, stays⟩, host⟩ := failed
    exact ⟨stays.valid, host, inserted, custody⟩
  · intro lanes next succeeded
    obtain ⟨_, _, ⟨inserted, _, custody, _, stays⟩, host⟩ := succeeded
    exact ⟨stays.valid, host, inserted, custody⟩

theorem Undelivered.lowers {state next : ImportState Rest Guest} (undelivered : Undelivered state)
    (lowers : Lowers state next) : Undelivered next := by
  have subtask : next.world.handles.host.subtask = state.world.handles.host.subtask :=
    congrArg (@ImportHost.subtask Unit) lowers.host
  have resolutions : next.world.handles.host.resolutions = state.world.handles.host.resolutions :=
    congrArg (@ImportHost.resolutions Unit) lowers.host
  have lowering : next.world.handles.host.lowering = state.world.handles.host.lowering :=
    congrArg (@ImportHost.lowering Unit) lowers.host
  constructor
  · exact lowers.valid undelivered.valid
  · cases undelivered.unreturned with
    | pending none started =>
        exact .pending (resolutions.trans none) ((congrArg Subtask.state subtask).trans started)
    | cancelled began only cancelled empty early =>
        exact .cancelled began (resolutions.trans only)
          ((congrArg Subtask.state subtask).trans cancelled)
          ((congrArg Subtask.flatResults subtask).trans empty)
          fun first => lowering.trans (early first)
  · exact (congrArg (@ImportHost.awaiting Unit) lowers.host).trans undelivered.awaiting
  · exact (congrArg (@ImportHost.disposed Unit) lowers.host).trans undelivered.disposed
  · exact (congrArg (@ImportHost.custody Unit) lowers.host).trans undelivered.custody

end Lowering

section Commit

variable (lowered : Import Rest Guest)

/-- A reaction that stopped: what it holds can be cleaned up, and a custody appears nowhere else. -/
structure Stopped (state next : ImportState Rest Guest) : Prop where
  undelivered : Undelivered next
  keeps : ∀ custody, next.world.custody = some custody → Keeps next.world.handles.host custody
  released : state.world.custody = none → next.world.custody = none

/-- A reaction that delivered its result. -/
structure Delivered (state next : ImportState Rest Guest) : Prop where
  valid : ∀ inst, (next.world.handles.tables inst).Valid
  returned : Returned lowered next.world.handles.host
  awaiting : next.world.handles.host.awaiting = false
  custody : next.world.handles.host.custody = none
  released : state.world.custody = none → next.world.custody = none

theorem Stopped.of_around {state next : ImportState Rest Guest} (undelivered : Undelivered state)
    (keeps : ∀ custody, state.world.custody = some custody →
      Keeps state.world.handles.host custody) (around : Around state next) :
    Stopped state next where
  undelivered := undelivered.around around
  keeps := by
    intro custody held
    rw [around.custody] at held
    constructor
    · exact (keeps custody held).unfinished
    · rw [around.interfered.lowering]
      exact (keeps custody held).uninserted
  released := around.custody.trans

theorem Stopped.trans {first middle last : ImportState Rest Guest} (before : Stopped first middle)
    (after : Stopped middle last) : Stopped first last where
  undelivered := after.undelivered
  keeps := after.keeps
  released := fun released => after.released (before.released released)

theorem lowerResults_stops (valid : ∀ t ∈ lowered.results, ValidType True (despecialize t))
    (checked : Bool) {values : List Value} (same : values.length = lowered.results.length)
    {state : ImportState Rest Guest} (undelivered : Undelivered state)
    (started : state.world.handles.host.subtask.state = .started)
    (keeps : ∀ custody, state.world.custody = some custody →
      Keeps state.world.handles.host custody) :
    Ensures (fun _ next => Stopped state next) (lowerResults lowered checked values)
      (fun flatResults next => Stopped state next ∧
        next.world.handles.host.lowering = some values ∧
        ∃ before after outParam,
          (lowerFlatValues (callContext lowered.options (resultContext lowered.cx checked)) 0 values
            lowered.results lowered.outParam).outcome before = (.ok (flatResults, outParam), after))
      state := by
  let begun : ImportState Rest Guest := handlesIn.set
    (hostIn.set { state.world.handles.host with lowering := some values } state.world.handles) state
  have open' : Undelivered begun :=
    { valid := undelivered.valid
      unreturned := by
        obtain ⟨resolutions, _⟩ := undelivered.unreturned.state_of_open (by
          rw [Subtask.resolved, started]
          rfl)
        exact .pending resolutions started
      awaiting := undelivered.awaiting
      disposed := undelivered.disposed
      custody := undelivered.custody }
  have stops : ∀ next, Lowers begun next → Stopped state next := by
    intro next lowers
    obtain ⟨inserted, custody⟩ := lowers.custody
    constructor
    · exact open'.lowers lowers
    · intro held present
      rw [custody] at present
      obtain ⟨before, was, rfl⟩ := Option.map_eq_some_iff.mp present
      constructor
      · rw [insertedAll_finished]
        exact (keeps before was).unfinished
      · intro absent
        have lowering : next.world.handles.host.lowering = some values :=
          congrArg (@ImportHost.lowering Unit) lowers.host
        rw [lowering] at absent
        cases absent
    · intro released
      rw [custody, show begun.world.custody = none from released]
      rfl
  have framed := lowerFlatValues_lowers lowered valid checked same open'.valid
  simp only [lowerResults, ensures_bind, Place.ensures_focus, Place.ensures_change, ensures_pure]
  change Ensures _ _ _ begun
  cases ran : (lowerFlatValues (callContext lowered.options (resultContext lowered.cx checked)) 0
      values lowered.results lowered.outParam).outcome begun with
  | mk result next =>
      unfold Ensures at framed ⊢
      rw [ran] at framed ⊢
      cases result with
      | error failure => exact stops next framed
      | ok lanes =>
          have lowering : next.world.handles.host.lowering = some values :=
            congrArg (@ImportHost.lowering Unit) framed.host
          exact ⟨stops next framed, lowering, begun, next, lanes.2, ran⟩

theorem onResolve_delivers (valid : ∀ t ∈ lowered.results, ValidType True (despecialize t))
    (checked : Bool) {values : List Value} (same : values.length = lowered.results.length)
    {state : ImportState Rest Guest} (undelivered : Undelivered state)
    (keeps : ∀ custody, state.world.custody = some custody →
      Keeps state.world.handles.host custody) :
    Ensures (fun _ next => Stopped state next) (onResolve lowered checked values)
      (fun _ next => Delivered lowered state next) state := by
  have checkpoint : Relates (@Around Rest Guest) (if checked then checkDelivery else pure ()) :=
    .ite checkDelivery_around (.pure ())
  simp only [onResolve, onResolveReturned, bind_assoc, ensures_bind, Place.ensures_read]
  apply (focus_around onProgressed_relates state).mono
  · intro failure progressed around
    exact .of_around undelivered keeps around
  intro _ progressed around
  have before : Stopped state progressed := .of_around undelivered keeps around
  rw [ensures_assert]
  refine ⟨fun _ => before, fun started => ?_⟩
  apply (lowerResults_stops lowered valid checked same before.undelivered started before.keeps).mono
  · intro failure next stopped
    exact before.trans stopped
  intro flatResults filled reached
  obtain ⟨stopped, lowering, start, last, outParam, ran⟩ := reached
  apply (checkpoint filled).mono
  · intro failure next around
    exact (before.trans stopped).trans (.of_around stopped.undelivered stopped.keeps around)
  intro _ eligible around
  have final : Stopped state eligible :=
    (before.trans stopped).trans (.of_around stopped.undelivered stopped.keeps around)
  simp only [Place.ensures_revise, Subtask.resolve, Fallible.satisfies_bind, satisfies_assert,
    Fallible.satisfies_pure, recordResolution, Place.ensures_focus, Place.ensures_change]
  refine ⟨fun _ => final, fun _ => ⟨fun _ => final, fun open' => ?_⟩⟩
  obtain ⟨resolutions, _⟩ := final.undelivered.unreturned.state_of_open open'
  have began : eligible.world.handles.host.lowering = some values :=
    around.interfered.lowering.trans lowering
  constructor
  · exact final.undelivered.valid
  · constructor
    · change eligible.world.handles.host.resolutions ++ [_] = _
      rw [resolutions]
      change [Resolution.mk .returned eligible.world.handles.host.lowering.isSome] = _
      rw [began]
      rfl
    · rfl
    · exact final.undelivered.disposed
    · exact ⟨values, checked, start, last, outParam, began, same, ran⟩
  · exact final.undelivered.awaiting
  · exact final.undelivered.custody
  · exact final.released

/-- At the start of a reaction. -/
structure Ready (state : ImportState Rest Guest) : Prop where
  undelivered : Undelivered state
  lowering : state.world.handles.host.lowering = none
  released : state.world.custody = none

theorem Ready.around {state next : ImportState Rest Guest} (ready : Ready state)
    (around : Around state next) : Ready next where
  undelivered := ready.undelivered.around around
  lowering := around.interfered.lowering.trans ready.lowering
  released := around.custody.trans ready.released

theorem Ready.keeps {state : ImportState Rest Guest} (ready : Ready state)
    (custody : PreparedCustody) (held : state.world.custody = some custody) :
    Keeps state.world.handles.host custody := by
  rw [ready.released] at held
  cases held

theorem Fresh.keeps {custody : PreparedCustody} (fresh : Fresh custody) (host : ImportHost Rest) :
    Keeps host custody where
  unfinished := fresh.unfinished
  uninserted := fun _ => fresh.uninserted

theorem Delivered.settled {lowered : Import Rest Guest} {state next : ImportState Rest Guest}
    (delivered : Delivered lowered state next) (released : state.world.custody = none) :
    Settled lowered next where
  valid := delivered.valid
  outcome := .inr delivered.returned
  custodial := by
    rw [Custodial, delivered.custody]
    exact delivered.returned.disposed
  waiting := by
    intro waiting
    rw [delivered.awaiting] at waiting
    cases waiting
  released := delivered.released released

section

variable (valid : ∀ t ∈ lowered.results, ValidType True (despecialize t))

include valid

theorem commitUnkept_settles (checked : Bool) {values : List Value}
    (same : values.length = lowered.results.length) {state : ImportState Rest Guest}
    (ready : Ready state) :
    Ensures (fun _ next => Settled lowered next) (do
      checkDelivery
      onResolve lowered checked values) (fun _ next => Settled lowered next) state := by
  simp only [ensures_bind]
  apply (checkDelivery_around state).mono
  · intro failure next around
    exact (ready.around around).undelivered.settled (ready.around around).released
  · intro _ eligible around
    have open' := ready.around around
    apply (onResolve_delivers lowered valid checked same open'.undelivered open'.keeps).mono
    · intro failure next stopped
      exact stopped.undelivered.settled (stopped.released open'.released)
    · intro _ next delivered
      exact delivered.settled open'.released

omit valid

theorem cleanupCustody_settles {custody : PreparedCustody} {state : ImportState Rest Guest}
    (undelivered : Undelivered state) (keeps : Keeps state.world.handles.host custody)
    (released : state.world.custody = none) :
    Ensures (fun _ next => Settled lowered next) (cleanupCustody lowered custody)
      (fun _ next => Settled lowered next) state := by
  have settles : ∀ next, Disposes custody.acquired.reverse
      (hostIn.set { state.world.handles.host with custody := some custody } state.world.handles)
        next → Settled lowered (handlesIn.set next state) := by
    intro next disposes
    obtain ⟨done, disposed, sublist, exact'⟩ := disposes.disposed
    have only : next.host.disposed = done :=
      disposed.trans (congrArg (· ++ done) undelivered.disposed)
    constructor
    · exact disposes.valid undelivered.valid
    · left
      apply disposes.unreturned
      cases undelivered.unreturned with
      | pending resolutions started => exact .pending resolutions started
      | cancelled lowering resolutions cancelled empty early =>
          exact .cancelled lowering resolutions cancelled empty early
    · have kept : next.host.custody = some custody := disposes.custody
      change Custodial next.host
      rw [Custodial, kept, only]
      refine ⟨sublist, ?_⟩
      intro absent
      have uninserted := keeps.uninserted (disposes.lowering.symm.trans absent)
      refine ⟨uninserted, exact' ?_⟩
      intro a member
      exact uninserted a (List.mem_reverse.mp member)
    · intro waiting
      have settled : next.host.awaiting = false := disposes.awaiting.trans undelivered.awaiting
      exact absurd (settled.symm.trans waiting) Bool.false_ne_true
    · exact released
  simp only [cleanupCustody, closeCustody, ensures_bind, Place.ensures_focus, Place.ensures_change]
  apply (cleanup_disposes lowered keeps.unfinished _).mono
  · intro failure next disposes
    exact settles next disposes
  · intro _ next disposes
    exact settles next disposes

/-- What a reaction that fails leaves to its handler: the custody of the context, or its own. -/
structure Failed (custody : PreparedCustody) (state : ImportState Rest Guest) : Prop where
  undelivered : Undelivered state
  keeps : Keeps state.world.handles.host (state.world.custody.getD custody)

theorem Ready.failed {state : ImportState Rest Guest} (ready : Ready state)
    {custody : PreparedCustody} (fresh : Fresh custody) : Failed custody state where
  undelivered := ready.undelivered
  keeps := by
    rw [ready.released]
    exact fresh.keeps _

theorem Stopped.failed {state next : ImportState Rest Guest} (stopped : Stopped state next)
    {custody : PreparedCustody} (fresh : Fresh custody) : Failed custody next where
  undelivered := stopped.undelivered
  keeps := by
    cases held : next.world.custody with
    | none => exact fresh.keeps _
    | some kept => exact stopped.keeps kept held

/-- The state whose context holds the custody, or none. -/
def withCustody (custody : Option PreparedCustody) (state : ImportState Rest Guest) :
    ImportState Rest Guest :=
  { state with world := { state.world with custody } }

include valid

theorem deliver_settles {custody : PreparedCustody} (fresh : Fresh custody)
    {start : Command (ImportState Rest Guest) Failure Unit} (starts : Relates Around start)
    {transferred : Except Failure (List Value)}
    (same : ∀ values, transferred = .ok values → values.length = lowered.results.length)
    {state : ImportState Rest Guest} (ready : Ready state) :
    Ensures (fun _ next => Failed custody next) (do
      let values ← transferred
      checkDelivery
      start
      modify (withCustody (some custody))
      onResolve lowered true values
      closeCustody (((← get).world.custody).getD custody)
      modify (withCustody none) : Command (ImportState Rest Guest) Failure Unit) (fun _ next => Settled lowered next) state := by
  simp only [ensures_bind, ensures_lift, ensures_modify, ensures_get]
  cases transferred with
  | error failure => exact ready.failed fresh
  | ok values =>
      apply (checkDelivery_around state).mono
      · intro failure next around
        exact (ready.around around).failed fresh
      intro _ checked around
      apply (starts checked).mono
      · intro failure next later
        exact ((ready.around around).around later).failed fresh
      intro _ started later
      have open' := (ready.around around).around later
      have held : Undelivered (withCustody (some custody) started) :=
        ⟨open'.undelivered.valid, open'.undelivered.unreturned, open'.undelivered.awaiting,
          open'.undelivered.disposed, open'.undelivered.custody⟩
      have keeps : ∀ kept, (withCustody (some custody) started).world.custody = some kept →
          Keeps (withCustody (some custody) started).world.handles.host kept := by
        intro kept present
        cases present
        exact fresh.keeps _
      apply (onResolve_delivers lowered valid true (same values rfl) held keeps).mono
      · intro failure next stopped
        exact stopped.failed fresh
      intro _ next delivered
      have returned := delivered.returned
      constructor
      · exact delivered.valid
      · exact .inr ⟨returned.resolutions, returned.state, returned.disposed, returned.results⟩
      · change Custodial { next.world.handles.host with
          custody := some (next.world.custody.getD custody) }
        rw [Custodial]
        simp only [returned.disposed]
        refine ⟨List.nil_sublist _, ?_⟩
        intro absent
        obtain ⟨values, _, _, _, _, lowering, _, _⟩ := returned.results
        rw [absent] at lowering
        cases lowering
      · intro waiting
        exact absurd (delivered.awaiting.symm.trans waiting) Bool.false_ne_true
      · rfl

theorem commitWithCustody_settles (transfer : Transfer Rest Guest) {values : List Value}
    (same : values.length = lowered.results.length) {state : ImportState Rest Guest}
    (ready : Ready state) :
    Ensures (fun _ next => Settled lowered next) (commitWithCustody lowered transfer values)
      (fun _ next => Settled lowered next) state := by
  simp only [commitWithCustody, ensures_bind, ensures_get]
  apply (checkDelivery_around state).mono
  · intro failure next around
    exact (ready.around around).undelivered.settled (ready.around around).released
  intro _ eligible around
  have acquires := transferValues_acquires lowered transfer values (PreparedCustody.empty, eligible)
  cases ran : (transferValues lowered transfer values).outcome
      (PreparedCustody.empty, eligible) with
  | mk transferred acquiring =>
      obtain ⟨custody, next⟩ := acquiring
      have reached : Acquires (PreparedCustody.empty, eligible) (custody, next) ∧
          ∀ values', transferred = .ok values' → values'.length = values.length := by
        unfold Ensures at acquires
        rw [ran] at acquires
        cases transferred with
        | error failure =>
            refine ⟨acquires, ?_⟩
            intro values' impossible
            cases impossible
        | ok transferred =>
            refine ⟨acquires.2, ?_⟩
            intro values' matched
            cases matched
            exact acquires.1
      obtain ⟨acquired, lengths⟩ := reached
      have fresh : Fresh custody := acquired.fresh .empty
      have ready' : Ready next := (ready.around around).around acquired.around
      simp only [ensures_set, ensures_tryCatch]
      refine (deliver_settles lowered valid fresh ?starts
        (fun values' matched => (lengths values' matched).trans same) ready').mono ?_ ?_
      case starts =>
        cases transfer with
        | facade bridge producer => exact startProducers_around lowered producer custody.starts
        | free => exact .pure ()
        | raw => exact .pure ()
      · intro failure stopped failed
        have held : Undelivered (withCustody none stopped) :=
          ⟨failed.undelivered.valid, failed.undelivered.unreturned, failed.undelivered.awaiting,
            failed.undelivered.disposed, failed.undelivered.custody⟩
        simp only [ensures_bind, ensures_get, ensures_modify, ensures_throw]
        exact cleanupCustody_settles lowered held failed.keeps rfl
      · intro _ final settled
        exact settled

theorem commit_settles (prepared : Prepared Rest Guest lowered.results)
    {state : ImportState Rest Guest} (ready : Ready state) :
    Ensures (fun _ next => Settled lowered next) (commit lowered prepared)
      (fun _ next => Settled lowered next) state := by
  simp only [commit, ensures_ite]
  constructor
  · intro _
    exact commitUnkept_settles lowered valid false prepared.same ready
  · intro _
    cases prepared.transfer with
    | free => exact commitUnkept_settles lowered valid true prepared.same ready
    | raw => exact commitWithCustody_settles lowered valid .raw prepared.same ready
    | facade bridge producer =>
        exact commitWithCustody_settles lowered valid (.facade bridge producer) prepared.same ready

theorem settle_settles (prepare : Callback Rest Guest (Prepared Rest Guest lowered.results))
    {state : ImportState Rest Guest} (settled : Settled lowered state)
    (waiting : state.world.handles.host.awaiting = true) :
    Settled lowered ((settle lowered prepare).outcome state).2 := by
  apply Ensures.reached
  obtain ⟨unreturned, lowering, custody⟩ := settled.waiting waiting
  have disposed : state.world.handles.host.disposed = [] := by
    have custodial := settled.custodial
    rw [Custodial, custody] at custodial
    exact custodial
  let noted : ImportState Rest Guest := handlesIn.set
    (hostIn.set { state.world.handles.host with registered := false, awaiting := false }
      state.world.handles) state
  have ready : Ready noted := by
    constructor
    · constructor
      · exact settled.valid
      · cases unreturned with
        | pending resolutions started => exact .pending resolutions started
        | cancelled began resolutions cancelled empty early =>
            exact .cancelled began resolutions cancelled empty early
      · rfl
      · exact disposed
      · exact custody
    · exact lowering
    · exact settled.released
  have notes : ∀ (failure : Option Failure) (next : ImportState Rest Guest),
      Settled lowered next → Settled lowered (handlesIn.set
        (hostIn.set { next.world.handles.host with hostFailure := failure } next.world.handles)
          next) := by
    intro failure next settled
    apply settled.around
    exact ⟨.of_same ⟨rfl, rfl, rfl, rfl, rfl, rfl, rfl, rfl, rfl⟩ id, rfl⟩
  simp only [settle, ensures_bind, Place.ensures_focus, Place.ensures_change, ensures_get]
  change Ensures _ _ _ noted
  rw [ensures_ite]
  constructor
  · intro _
    exact ready.undelivered.settled ready.released
  · intro _
    simp only [ensures_tryCatch, ensures_bind, ensures_get, ensures_ite, ensures_pure,
      Place.ensures_focus, Place.ensures_change]
    apply (prepare.run_around lowered.deferCancel noted).mono
    · intro failure next around
      have settled' : Settled lowered next :=
        (ready.around around).undelivered.settled (ready.around around).released
      exact ⟨fun _ => notes _ next settled', fun _ => settled'⟩
    · intro prepared next around
      apply (commit_settles lowered valid prepared (ready.around around)).mono
      · intro failure final settled'
        exact ⟨fun _ => notes _ final settled', fun _ => settled'⟩
      · intro _ final settled'
        exact settled'

theorem importStep_settled (action : ImportAction lowered) (state : ImportState Rest Guest)
    (settled : Settled lowered state) : Settled lowered (importStep lowered action state) := by
  cases action with
  | interferes callback =>
      exact settled.around ((callback.run_around lowered.deferCancel).outcome state)
  | settles prepare =>
      rw [importStep]
      cases waiting : state.world.handles.host.awaiting with
      | false => exact settled
      | true => exact settle_settles lowered valid prepare settled waiting

end

end Commit

section Run

variable (lowered : Import Rest Guest)

/-- A call whose promise is pending. -/
structure Pending (state : ImportState Rest Guest) : Prop where
  valid : ∀ inst, (state.world.handles.tables inst).Valid
  started : state.world.handles.host.subtask.state = .started
  resolutions : state.world.handles.host.resolutions = []
  lowering : state.world.handles.host.lowering = none
  disposed : state.world.handles.host.disposed = []
  custody : state.world.handles.host.custody = none
  released : state.world.custody = none

theorem Pending.settled {state : ImportState Rest Guest} (pending : Pending state) :
    Settled lowered state where
  valid := pending.valid
  outcome := .inl (.pending pending.resolutions pending.started)
  custodial := by
    rw [Custodial, pending.custody]
    exact pending.disposed
  waiting := fun _ =>
    ⟨.pending pending.resolutions pending.started, pending.lowering, pending.custody⟩
  released := pending.released

/-- Every ownership acquired for the result was cleaned up exactly once, and nothing was inserted
for it. -/
def CleanedUpOnce (host : ImportHost Rest) : Prop :=
  match host.custody with
  | none => host.disposed = []
  | some custody =>
      (∀ a ∈ custody.acquired, a.insertion = none) ∧
        host.disposed = custody.acquired.reverse.map (·.cleanup)

theorem Custodial.once {host : ImportHost Rest} (custodial : Custodial host)
    (absent : host.lowering = none) : CleanedUpOnce host := by
  unfold Custodial at custodial
  unfold CleanedUpOnce
  cases held : host.custody with
  | none =>
      rw [held] at custodial
      exact custodial
  | some custody =>
      rw [held] at custodial
      exact custodial.2 absent

/-- What is certain of a call at any time: it resolves at most once; a cancellation that came before
the lowering leaves no results, inserts nothing and has every ownership cleaned up; a return has
lowered all values and cleans up nothing. -/
structure Delivery (host : ImportHost Rest) : Prop where
  once : host.resolutions.length ≤ 1
  unresolved : host.resolutions = [] → host.subtask.state = .started
  resolved : ∀ r ∈ host.resolutions, host.subtask.state = r.state ∧
    (r.state = .returned ∨ r.state = .cancelledBeforeReturned)
  cancelled : ∀ r ∈ host.resolutions, r.state = .cancelledBeforeReturned →
    host.subtask.flatResults = [] ∧
      (r.lowering = false → host.lowering = none ∧ CleanedUpOnce host)
  returned : ∀ r ∈ host.resolutions, r.state = .returned → Lowered lowered host ∧ host.disposed = []
  atMostOnce : Custodial host

theorem Settled.delivery {lowered : Import Rest Guest} {state : ImportState Rest Guest}
    (settled : Settled lowered state) : Delivery lowered state.world.handles.host := by
  cases settled.outcome with
  | inl unreturned =>
      cases unreturned with
      | pending resolutions started =>
          constructor
          · simp [resolutions]
          · exact fun _ => started
          · simp [resolutions]
          · simp [resolutions]
          · simp [resolutions]
          · exact settled.custodial
      | cancelled lowering resolutions state' flatResults early =>
          constructor
          · simp [resolutions]
          · simp [resolutions]
          · intro r member
            rw [resolutions, List.mem_singleton] at member
            subst member
            exact ⟨state', .inr rfl⟩
          · intro r member _
            rw [resolutions, List.mem_singleton] at member
            subst member
            exact ⟨flatResults, fun first => ⟨early first, settled.custodial.once (early first)⟩⟩
          · simp [resolutions]
          · exact settled.custodial
  | inr returned =>
      constructor
      · simp [returned.resolutions]
      · simp [returned.resolutions]
      · intro r member
        rw [returned.resolutions, List.mem_singleton] at member
        subst member
        exact ⟨returned.state, .inl rfl⟩
      · simp [returned.resolutions]
      · exact fun _ _ _ => ⟨returned.results, returned.disposed⟩
      · exact settled.custodial

structure Final (host next : ImportHost Rest) : Prop where
  state : next.subtask.state = host.subtask.state
  flatResults : next.subtask.flatResults = host.subtask.flatResults
  resolutions : next.resolutions = host.resolutions

theorem Final.refl (host : ImportHost Rest) : Final host host := ⟨rfl, rfl, rfl⟩

/-- The settlement came to nothing: no lowering, no table and no custody was touched. -/
structure Discarded (state next : ImportState Rest Guest) : Prop where
  final : Final state.world.handles.host next.world.handles.host
  tables : next.world.handles.tables = state.world.handles.tables
  lowering : next.world.handles.host.lowering = state.world.handles.host.lowering
  custody : next.world.handles.host.custody = state.world.handles.host.custody
  disposed : next.world.handles.host.disposed = state.world.handles.host.disposed

theorem settles_discarded (prepare : Callback Rest Guest (Prepared Rest Guest lowered.results))
    {state : ImportState Rest Guest} (resolved : state.world.handles.host.subtask.resolved = true) :
    Discarded state (importStep lowered (.settles prepare) state) := by
  rw [importStep]
  cases state.world.handles.host.awaiting with
  | false => exact ⟨.refl _, rfl, rfl, rfl, rfl⟩
  | true =>
      rw [if_pos rfl]
      apply Ensures.reached
      simp only [settle, ensures_bind, Place.ensures_focus, Place.ensures_change, ensures_get]
      rw [ensures_ite]
      constructor
      · intro _
        exact ⟨⟨rfl, rfl, rfl⟩, rfl, rfl, rfl, rfl⟩
      · intro open'
        refine absurd ?_ open'
        change (state.world.handles.host.subtask.resolved ||
          state.world.handles.host.poison.isSome) = true
        rw [resolved]
        rfl

theorem importStep_final (action : ImportAction lowered) {state : ImportState Rest Guest}
    (resolved : state.world.handles.host.subtask.resolved = true) :
    Final state.world.handles.host (importStep lowered action state).world.handles.host := by
  cases action with
  | settles prepare => exact (settles_discarded lowered prepare resolved).final
  | interferes callback =>
      have around := (callback.run_around lowered.deferCancel).outcome state
      obtain ⟨same, flatResults, resolutions⟩ := around.interfered.returned resolved
      exact ⟨same, flatResults, resolutions⟩

theorem run_final (actions : List (ImportAction lowered)) {state : ImportState Rest Guest}
    (resolved : state.world.handles.host.subtask.resolved = true) :
    Final state.world.handles.host
      (Transition.runAll (importStep lowered) actions state).world.handles.host := by
  have preserved : ∀ action (next : ImportState Rest Guest),
      Final state.world.handles.host next.world.handles.host →
        Final state.world.handles.host (importStep lowered action next).world.handles.host := by
    intro action next final
    have still : next.world.handles.host.subtask.resolved = true := by
      rw [Subtask.resolved, final.state]
      exact resolved
    have step := importStep_final lowered action still
    exact ⟨step.state.trans final.state, step.flatResults.trans final.flatResults,
      step.resolutions.trans final.resolutions⟩
  exact Transition.runAll_invariant preserved actions (.refl _)

theorem Settled.cancels {state : ImportState Rest Guest} (settled : Settled lowered state)
    (prompt : lowered.deferCancel = false)
    (open' : state.world.handles.host.subtask.resolved = false) (discard : Except Failure Unit) :
    Ensures (fun _ _ => True) (subtaskCancel lowered.deferCancel discard)
      (fun _ next => Cancelled next) state.world.handles := by
  rw [prompt]
  cases settled.outcome with
  | inl unreturned =>
      obtain ⟨resolutions, started⟩ := unreturned.state_of_open open'
      exact subtaskCancel_cancels discard started resolutions
  | inr returned =>
      rw [Subtask.resolved, returned.state] at open'
      cases open'

/-- Whatever settles, cancels and poisons in whatever order, a call is either cancelled and left
without any trace of its result, or returned with all of it; and this is final. A cancellation that
is accepted while the call is open cancels it, unless the import defers cancellations. -/
theorem hostImport_delivery (valid : ∀ t ∈ lowered.results, ValidType True (despecialize t))
    {initial : ImportState Rest Guest} (pending : Pending initial)
    (actions : List (ImportAction lowered)) :
    let state := Transition.runAll (importStep lowered) actions initial
    Delivery lowered state.world.handles.host ∧
      (lowered.deferCancel = false → state.world.handles.host.subtask.resolved = false →
        ∀ discard, Ensures (fun _ _ => True) (subtaskCancel lowered.deferCancel discard)
          (fun _ next => Cancelled next) state.world.handles) ∧
      (state.world.handles.host.subtask.resolved = true →
        (∀ prepare, Discarded state (importStep lowered (.settles prepare) state)) ∧
        ∀ later, Final state.world.handles.host
          (Transition.runAll (importStep lowered) later state).world.handles.host) := by
  intro state
  have settled : Settled lowered state :=
    Transition.runAll_invariant (importStep_settled lowered valid) actions (pending.settled lowered)
  refine ⟨settled.delivery, settled.cancels lowered, ?_⟩
  intro resolved
  constructor
  · intro prepare
    exact settles_discarded lowered prepare resolved
  · intro later
    exact run_final lowered later resolved

/-- An import of one owned resource. -/
def ownImport : Import Unit Unit where
  deferCancel := false
  results := [.own 3]
  options := plainOptions
  cx := plainContext
  outParam := none
  dispose := fun _ _ => ([], .ok ())

/-- A call that waits for its promise. -/
def ownPending : ImportState Unit Unit where
  memory := none
  mayLeave := true
  world :=
    { handles := { noHandles with
        host :=
          { subtask := { Subtask.new with state := .started }
            onProgress := none
            poison := none
            registered := true
            awaiting := true
            hostFailure := none
            lowering := none
            resolutions := []
            disposed := []
            custody := none
            rest := () } }
      custody := none
      guest := () }

/-- The guest cancels while the facade takes the resource out of its wrapper. -/
def cancelledTransfer : Transfer Unit Unit :=
  .facade (fun _ _ _ => ⟨[.cancel (.ok ())], id, id, .ok (7, none)⟩)
    fun _ _ => ⟨[], id, id, .ok ()⟩

def cancelledPrepare : Callback Unit Unit (Prepared Unit Unit ownImport.results) :=
  ⟨[], id, id, .ok ⟨false, cancelledTransfer, [.token 0], rfl⟩⟩

/-- The resource that was already taken is cleaned up, once. -/
theorem hostImport_delivery_cancelled :
    let host := (Transition.runAll (importStep ownImport) [.settles cancelledPrepare]
      ownPending).world.handles.host
    Delivery ownImport host ∧ host.subtask.state = .cancelledBeforeReturned ∧
      host.disposed = [.callDtor 3 7] ∧ host.lowering = none ∧ host.hostFailure = none := by
  have valid : ∀ t ∈ ownImport.results, ValidType True (despecialize t) := by
    intro t member
    cases List.mem_singleton.mp member
    exact .handle trivial rfl
  have pending : Pending ownPending :=
    ⟨fun _ => TenuredTable.empty_valid, rfl, rfl, rfl, rfl, rfl, rfl⟩
  exact ⟨(hostImport_delivery ownImport valid pending [.settles cancelledPrepare]).1, rfl, rfl, rfl,
    rfl⟩

end Run

end Polyengine.Exec
