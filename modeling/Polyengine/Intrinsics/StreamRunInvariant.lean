import Polyengine.Intrinsics.StreamDeliveryInvariant

/-!
# Every run keeps the invariant

One lemma for each builtin, one for each action, and from them the invariant of every reachable
state.
-/

set_option autoImplicit false

namespace Polyengine.Intrinsics.StreamInvariant

open Polyengine.Cabi Polyengine.Library Polyengine.Task Polyengine.Task.Streams
open Polyengine.Intrinsics.StreamBuiltins Polyengine.Intrinsics.StreamRun

variable {layer : ElementLayer}

/-! ## Validation -/

theorem requireMayLeave_meets {s : State layer} {inst : Nat} {what : String}
    {permitted : Failure → Prop} {post : Unit → State layer → Prop}
    (traps : ∀ failure, failure.IsTrap → permitted failure) (holds : post () s) :
    (requireMayLeave inst what).Meets permitted post s := by
  simp only [requireMayLeave, Program.meets_bind, Program.meets_get, meets_trapIf]
  exact ⟨fun _ => traps _ trivial, fun _ => holds⟩

theorem permitted_of_isTrap (failure : Failure) (isTrap : failure.IsTrap) :
    Permitted layer failure := by
  cases failure with
  | trap message => exact .trap message
  | assertion message => exact isTrap.elim
  | rangeError message => exact isTrap.elim
  | element inner => exact .element inner
  | thrown value => exact isTrap.elim

theorem requireEnd_meets {s : State layer} {kind : Kind} {side : Side} {inst i : Nat}
    {message : String} {permitted : Failure → Prop} {post : Unit → State layer → Prop}
    (traps : ∀ failure, failure.IsTrap → permitted failure) (placement : Placement s)
    (holds : (s.ends side).holder = .held inst i → s.kind = kind → post () s) :
    (requireEnd kind side inst i message).Meets permitted post s := by
  simp only [requireEnd, Program.meets_bind, Program.meets_get, Program.meets_lift,
    Fallible.satisfies_iff, meets_trapIf]
  refine ⟨fun e found => ⟨fun _ => traps _ trivial, fun checked => ?_⟩, fun failure failed =>
    traps failure (Table.get_error_isTrap failed)⟩
  obtain ⟨same, sameKind⟩ := not_not.mp checked
  rw [Table.get_eq_ok, same, placement.entry] at found
  exact holds found sameKind

theorem exists_of_held {s : State layer} {side : Side} {inst i : Nat}
    (held : (s.ends side).holder = .held inst i) (running : s.poisoned inst = false) :
    s.Exists side := by
  simp [State.Exists, held, Holder.live, running]

theorem GuestBuffer.create_meets {s : State layer} {t : Option layer.Elem} {inst : Nat}
    {memory : Option Nat} {ptr length : Nat} {post : GuestBuffer layer.Elem → State layer → Prop}
    (holds : ∀ buffer : GuestBuffer layer.Elem, buffer.progress = 0 → buffer.ptr = buffer.base →
      buffer.length = length → length ≤ bufferMaxLength → post buffer s) :
    (liftM (GuestBuffer.create t inst memory ptr length s.memories) :
      StreamProgram layer (GuestBuffer layer.Elem)).Meets (Permitted layer) post s := by
  simp only [GuestBuffer.create, Program.meets_lift, Fallible.satisfies_bind, satisfies_trapIf]
  refine ⟨fun _ => .trap _, fun small => ?_⟩
  have made := holds { t, inst, memory := memory.getD 0, ptr, length, progress := 0, base := ptr }
    rfl rfl rfl (Nat.le_of_not_lt small)
  cases t with
  | none => exact made
  | some elem =>
      simp only [Fallible.satisfies_ite, Fallible.satisfies_bind, satisfies_assert,
        satisfies_trapIf, Fallible.satisfies_pure]
      exact ⟨fun _ => ⟨fun _ => .noMemory, fun _ => ⟨fun _ => .trap _, fun _ =>
        ⟨fun _ => .trap _, fun _ => made⟩⟩⟩, fun _ => made⟩

/-- What validation has established about a copy. -/
structure Validated (s : State layer) (kind : Kind) (side : Side) (call : CopyCall layer.Elem) :
    Prop where
  held : (s.ends side).holder = .held call.inst call.i
  kind : s.kind = kind
  idle : (s.ends side).state = .idle
  alone : call.async = false → (s.ends side).wset = none

theorem validateCopy_meets {s : State layer} {kind : Kind} {side : Side} {doneMessage : String}
    {call : CopyCall layer.Elem} {post : Unit → State layer → Prop} (placement : Placement s)
    (holds : Validated s kind side call → post () s) :
    (validateCopy kind side doneMessage call).Meets (Permitted layer) post s := by
  simp only [validateCopy, Program.meets_bind]
  refine requireMayLeave_meets permitted_of_isTrap
    (requireEnd_meets permitted_of_isTrap placement fun held sameKind => ?_)
  have same : ({ s.ends side with index := some call.i } : CopyEnd layer.Elem) = s.ends side := by
    rw [← placement.index side _ _ held]
  simp only [Program.meets_modify, same, State.setEnd_self, Program.meets_get, meets_trapIf]
  refine ⟨fun _ => .trap _, fun _ => ⟨fun _ => .trap _, fun notDone => ⟨fun _ => .trap _,
    fun idle => ⟨fun _ => .trap _, fun alone => holds ⟨held, sameKind, not_not.mp idle, ?_⟩⟩⟩⟩⟩
  intro sync
  by_contra joined
  exact alone ⟨by simpa [CopyEnd.inWaitableSet, Option.isSome_iff_ne_none] using joined, sync⟩

/-! ## Copies -/

theorem startCopy_meets {s : State layer} {side : Side} {buffer : GuestBuffer layer.Elem}
    {inst i : Nat} (stable : Stable s) (live : s.Exists side)
    (held : (s.ends side).holder = .held inst i) (idle : (s.ends side).state = .idle)
    (fresh : Fresh s.kind buffer) :
    (startCopy s.kind side inst buffer).Meets (Permitted layer)
      (fun _ s' => Handed (begun s side buffer) s') s := by
  have inv : Inv (some side) (begun s side buffer) := stable.inv.begin live held idle fresh
  have held' : ((begun s side buffer).ends side).holder = .held inst i := by simpa using held
  have current : (⟨side, s.copies side⟩ : BufferRef) = (begun s side buffer).currentBuffer side :=
    (begun_currentBuffer s side buffer).symm
  simp only [startCopy, newBuffer, setState, Program.meets_bind, Program.meets_get,
    Program.meets_modify, Program.meets_pure]
  change Program.Meets (Permitted layer) _ _ (begun s side buffer)
  rw [current]
  cases kind : s.kind with
  | stream =>
      cases side with
      | readable => exact SharedStreamImpl.read_meets inv kind held'
      | writable => exact SharedStreamImpl.write_meets inv kind held'
  | future =>
      cases side with
      | readable => exact SharedFutureImpl.read_meets inv kind held'
      | writable => exact SharedFutureImpl.write_meets inv kind held'

/-- An end whose event can be delivered. -/
structure Deliverable (s : State layer) (side : Side) (inst i : Nat) : Prop where
  inv : Inv none s
  observed : Observed s
  gone : Gone s
  resting : ∀ other, other ≠ side → (s.ends other).state ≠ .cancellingCopy
  live : s.Exists side
  held : (s.ends side).holder = .held inst i
  waiterless : (s.ends side).syncWaiter = none
  armed : (s.ends side).pendingEvent.isSome = true

theorem delivery_meets {s : State layer} {side : Side} {inst i : Nat}
    {permitted : Failure → Prop} {post : Option BufferRef × EventTuple → State layer → Prop}
    (traps : ∀ failure, failure.IsTrap → permitted failure)
    (deliverable : Deliverable s side inst i)
    (delivers : ∀ copy tuple clears state, Delivery s side copy tuple clears state →
      tuple.code = eventCode s.kind side → tuple.index = i →
      post (copy, tuple) (consumed s side clears state)) :
    (getPendingEvent side).Meets permitted post s := by
  obtain ⟨event, armed⟩ := Option.isSome_iff_exists.mp deliverable.armed
  have place := deliverable.inv.placement.index side inst i deliverable.held
  refine getPendingEvent_meets deliverable.inv deliverable.live armed place
    (fun _ _ _ _ _ => traps _ trivial) fun copy tuple clears state delivery => ?_
  obtain ⟨code, index⟩ := delivery.tuple_eq deliverable.inv.control deliverable.live
  exact delivers copy tuple clears state delivery code
    (Option.some.inj (index.trans place))

theorem Deliverable.received {s : State layer} {side : Side} {inst i : Nat}
    (deliverable : Deliverable s side inst i) (event : EventTuple) {copy : Option BufferRef}
    {tuple : EventTuple} {clears : Bool} {state : CopyState}
    (delivery : Delivery s side copy tuple clears state)
    (count : event.payload >>> 4 = tuple.payload >>> 4)
    (same : s.kind = .future → event.payload = tuple.payload) :
    Stable (received s side copy event clears state) :=
  Stable.received deliverable.inv deliverable.observed deliverable.gone deliverable.resting
    deliverable.live deliverable.waiterless deliverable.held delivery count same

theorem take_meets {s : State layer} {side : Side} {inst i : Nat}
    (deliverable : Deliverable s side inst i) :
    (take s.kind side i).Meets (Permitted layer) (fun _ s' => Stable s') s := by
  simp only [take, Program.meets_bind]
  refine delivery_meets permitted_of_isTrap deliverable
    fun copy tuple clears state delivery code index => ?_
  simp only [meets_assert, report, Program.meets_modify, Program.meets_pure]
  exact ⟨fun wrong => absurd ⟨code, index⟩ wrong,
    fun _ => deliverable.received _ delivery rfl fun _ => rfl⟩

/-! ## Ends that move or are claimed -/

/-- `s` with other handle tables and one end placed, joined or claimed otherwise. -/
def resituated (s : State layer) (tables : Nat → Table Entry) (side : Side)
    (copyEnd : CopyEnd layer.Elem) : State layer :=
  State.setEnd { s with tables := tables } side copyEnd

/-- What a change of place may not touch. -/
structure Resituates (s : State layer) (tables : Nat → Table Entry) (side : Side)
    (copyEnd : CopyEnd layer.Elem) : Prop where
  placement : Placement (resituated s tables side copyEnd)
  state : copyEnd.state = (s.ends side).state
  event : copyEnd.pendingEvent = (s.ends side).pendingEvent
  live : copyEnd.holder.live s.poisoned = true → s.Exists side
  settled : copyEnd.holder = (s.ends side).holder ∨ ¬(s.ends side).copying
  sync : ∀ i, copyEnd.syncWaiter = some i → s.Exists side →
    (s.ends side).copying ∧ copyEnd.wset = none ∧ copyEnd.index = some i
  transit : copyEnd.holder = .transit →
    (s.ends side).state = .idle ∧ copyEnd.wset = none ∧ copyEnd.syncWaiter = none

section Resituated

variable {s : State layer} {tables : Nat → Table Entry} {side : Side}
  {copyEnd : CopyEnd layer.Elem}

namespace Resituates

theorem state_eq (fits : Resituates s tables side copyEnd) (other : Side) :
    ((resituated s tables side copyEnd).ends other).state = (s.ends other).state :=
  State.setEnd_field _ side copyEnd CopyEnd.state fits.state other

theorem copying_iff (fits : Resituates s tables side copyEnd) (other : Side) :
    ((resituated s tables side copyEnd).ends other).copying ↔ (s.ends other).copying := by
  simp only [CopyEnd.copying, fits.state_eq]

theorem event_eq (fits : Resituates s tables side copyEnd) (other : Side) :
    ((resituated s tables side copyEnd).ends other).pendingEvent = (s.ends other).pendingEvent :=
  State.setEnd_field _ side copyEnd CopyEnd.pendingEvent fits.event other

end Resituates

theorem resituated_ends_ne {other : Side} (different : other ≠ side) :
    (resituated s tables side copyEnd).ends other = s.ends other :=
  State.setEnd_ends_ne _ side _ different

theorem resituated_same : (resituated s tables side copyEnd).ends side = copyEnd := by
  simp [resituated]

theorem Resituates.exists_of (fits : Resituates s tables side copyEnd) {other : Side}
    (there : (resituated s tables side copyEnd).Exists other) : s.Exists other := by
  rcases eq_or_ne other side with rfl | different
  · rw [State.Exists, resituated_same] at there
    exact fits.live there
  · rw [State.Exists, resituated_ends_ne different] at there
    exact there

theorem Control.resituate (control : Control none s) (fits : Resituates s tables side copyEnd) :
    Control none (resituated s tables side copyEnd) := by
  refine
    { pending := fun p parked => ?_, parked := fun other there busy quiet _ => ?_,
      event := fun other event there present => ?_, starts := by simp,
      sync := fun other i there waits => ?_, transit := fun other moving => ?_ }
  · have slot := control.pending p parked
    have holder : ((resituated s tables side copyEnd).ends p.buffer.side).holder =
        (s.ends p.buffer.side).holder := by
      rcases eq_or_ne p.buffer.side side with same | different
      · rw [same, resituated_same]
        exact fits.settled.resolve_right (not_not.mpr (same ▸ slot.copying))
      · rw [resituated_ends_ne different]
    exact
      { open_ := slot.open_
        closure := slot.closure
        current := slot.current
        live := by rw [State.Exists, holder]; exact slot.live
        holder := by rw [holder]; exact slot.holder
        copying := (fits.copying_iff _).mpr slot.copying
        event := by rw [fits.event_eq]; exact slot.event }
  · rw [fits.event_eq] at quiet
    exact control.parked other (fits.exists_of there) ((fits.copying_iff other).mp busy) quiet
      (by simp)
  · rw [fits.event_eq] at present
    have before := control.event other event (fits.exists_of there) present
    cases event with
    | streamEvent result reclaim buffer =>
        obtain ⟨stream, busy, rest⟩ := before
        exact ⟨stream, (fits.copying_iff other).mpr busy, rest⟩
    | futureEvent result buffer =>
        obtain ⟨future, busy, rest⟩ := before
        exact ⟨future, (fits.copying_iff other).mpr busy, rest⟩
    | futureAbandoned reason =>
        obtain ⟨future, readable, busy, rest⟩ := before
        exact ⟨future, readable, (fits.copying_iff other).mpr busy, rest⟩
    | idleDrop reason =>
        obtain ⟨gone, waiting, reasons⟩ := before
        exact ⟨gone, by rw [fits.state_eq]; exact waiting, reasons⟩
  · refine ⟨by simp, ?_⟩
    rw [fits.copying_iff]
    rcases eq_or_ne other side with rfl | different
    · rw [resituated_same] at waits ⊢
      exact fits.sync i waits (fits.exists_of there)
    · rw [resituated_ends_ne different] at waits ⊢
      exact (control.sync other i (fits.exists_of there) waits).2
  · rw [fits.state_eq]
    rcases eq_or_ne other side with rfl | different
    · rw [resituated_same] at moving ⊢
      exact fits.transit moving
    · rw [resituated_ends_ne different] at moving ⊢
      exact control.transit other moving

theorem Inv.resituate (inv : Inv none s) (fits : Resituates s tables side copyEnd) :
    Inv none (resituated s tables side copyEnd) where
  placement := fits.placement
  control := inv.control.resituate fits
  accounting := inv.accounting.congr ⟨rfl, rfl, rfl, rfl, rfl, fits.copying_iff, fun _ => rfl⟩
  future future :=
    (inv.future future).congr rfl rfl rfl rfl fits.copying_iff
      (fun other => by rw [fits.state_eq])
      (fun other ref armed => by rw [fits.event_eq]; exact armed)
      (fun moved => ((inv.future future).copied moved).2.1) id fun gone unexplained =>
        ((inv.future future).abandoned gone unexplained).imp_right fun absent there =>
          absent (fits.exists_of there)

theorem Observed.resituate (observed : Observed s) (fits : Resituates s tables side copyEnd) :
    Observed (resituated s tables side copyEnd) := by
  intro gone other there
  rw [fits.state_eq, fits.event_eq]
  exact observed gone other (fits.exists_of there)

theorem Resting.resituate (resting : Resting s) (fits : Resituates s tables side copyEnd) :
    Resting (resituated s tables side copyEnd) := by
  intro other
  rw [fits.state_eq]
  exact resting other

theorem Stable.resituate (stable : Stable s) (fits : Resituates s tables side copyEnd)
    (there : s.Exists side → copyEnd.holder.live s.poisoned = true) :
    Stable (resituated s tables side copyEnd) where
  inv := stable.inv.resituate fits
  observed := stable.observed.resituate fits
  gone other absent := by
    refine stable.gone other fun before => absent ?_
    rcases eq_or_ne other side with rfl | different
    · rw [State.Exists, resituated_same]
      exact there before
    · rw [State.Exists, resituated_ends_ne different]
      exact before
  resting := stable.resting.resituate fits

theorem Stable.claim (stable : Stable s) (side : Side) (wset syncWaiter : Option Nat)
    (sync : ∀ i, syncWaiter = some i → s.Exists side →
      (s.ends side).copying ∧ wset = none ∧ (s.ends side).index = some i)
    (transit : (s.ends side).holder = .transit → wset = none ∧ syncWaiter = none) :
    Stable (s.setEnd side { s.ends side with wset := wset, syncWaiter := syncWaiter }) := by
  have placement : Placement (s.setEnd side
      { s.ends side with wset := wset, syncWaiter := syncWaiter }) :=
    stable.inv.placement.congr rfl
      (State.setEnd_field s side { s.ends side with wset := wset, syncWaiter := syncWaiter }
        CopyEnd.holder rfl)
      (State.setEnd_field s side { s.ends side with wset := wset, syncWaiter := syncWaiter }
        CopyEnd.index rfl)
  have fits : Resituates s s.tables side
      { s.ends side with wset := wset, syncWaiter := syncWaiter } :=
    { placement, state := rfl, event := rfl, live := id, settled := .inl rfl, sync,
      transit := fun moving => ⟨(stable.inv.control.transit side moving).1, transit moving⟩ }
  exact stable.resituate fits id

end Resituated

/-! ## Builtins that copy, deliver and join -/

theorem finishCopy_meets {s s' : State layer} {side : Side} {buffer : GuestBuffer layer.Elem}
    {call : CopyCall layer.Elem} (stable : Stable s) (live : s.Exists side)
    (validated : Validated s s.kind side call) (handed : Handed (begun s side buffer) s') :
    (finishCopy s.kind side call).Meets (Permitted layer) (fun _ s'' => Stable s'') s' := by
  have places := handed.places
  have kind : s'.kind = s.kind := places.kind
  have held : (s'.ends side).holder = .held call.inst call.i := by
    rw [places.holder, begun_holder]
    exact validated.held
  have live' : s'.Exists side := (places.exists_iff side).mpr ((begun_exists s side buffer side).mpr live)
  have busy : (s'.ends side).state = .copying := by rw [places.state, begun_state]
  have waiterless : (s'.ends side).syncWaiter = none := by
    rw [places.syncWaiter, begun_syncWaiter]
    cases waits : (s.ends side).syncWaiter with
    | none => rfl
    | some i =>
        have copying := (stable.inv.control.sync side i live waits).2.1
        rw [CopyEnd.copying, validated.idle] at copying
        simp at copying
  have resting : Resting s' := by
    intro other
    rw [places.state]
    rcases eq_or_ne other side with rfl | different
    · simp
    · rw [begun_ends_ne s side buffer different]
      exact stable.resting other
  have gone : Gone s' := by
    intro other absent
    rw [places.dropped]
    refine stable.gone other fun there => absent ?_
    exact (places.exists_iff other).mpr ((begun_exists s side buffer other).mpr there)
  have observed : Observed s' := by
    refine handed.observed ?_
    intro dropped other there
    rcases eq_or_ne other side with rfl | different
    · rw [begun_event]
      have before := stable.observed dropped other live
      rw [validated.idle] at before
      exact .inr (before.resolve_left (by simp))
    · rw [begun_ends_ne s side buffer different]
      exact stable.observed dropped other ((begun_exists s side buffer other).mp there)
  have stable' : Stable s' := ⟨handed.inv, observed, gone, resting⟩
  simp only [finishCopy, Program.meets_bind, Program.meets_get, Program.meets_ite]
  refine ⟨fun armed => ?_, fun _ => ⟨fun _ => stable', fun sync => ⟨fun _ => ?_, fun _ => stable'⟩⟩⟩
  · rw [← kind]
    exact take_meets ⟨handed.inv, observed, gone, fun other _ => resting other, live', held,
      waiterless, armed⟩
  · have place := handed.inv.placement.index side call.inst call.i held
    have alone : (s'.ends side).wset = none := by
      rw [places.wset, begun_wset]
      exact validated.alone (by simpa using sync)
    simp only [Program.meets_modify, Program.meets_pure]
    exact stable'.claim side (s'.ends side).wset (some call.i)
      (fun i same _ => ⟨.inl busy, alone, Option.some.inj same ▸ place⟩)
      fun moving => by simp [held] at moving

theorem streamCopy_meets {s : State layer} {side : Side} {call : CopyCall layer.Elem}
    (stable : Stable s) (running : s.poisoned call.inst = false) :
    (streamCopy side call).Meets (Permitted layer) (fun _ s' => Stable s') s := by
  unfold streamCopy
  rw [Program.meets_bind]
  refine validateCopy_meets stable.inv.placement fun validated => ?_
  have live := exists_of_held validated.held running
  simp only [Program.meets_bind, Program.meets_get]
  refine GuestBuffer.create_meets fun buffer progress ptr length small => ?_
  simp only [meets_assert]
  refine ⟨fun _ => .charElement, fun _ => ?_⟩
  have fresh : Fresh s.kind buffer :=
    ⟨progress, ptr, length ▸ small, fun future => by simp [validated.kind] at future⟩
  have started := startCopy_meets stable live validated.held validated.idle fresh
  have finished := fun s' (handed : Handed (begun s side buffer) s') =>
    finishCopy_meets stable live (validated.kind.symm ▸ validated) handed
  rw [validated.kind] at started finished
  exact started.imp fun _ s' handed => finished s' handed

theorem futureCopy_meets {s : State layer} {side : Side} {call : CopyCall layer.Elem}
    (stable : Stable s) (running : s.poisoned call.inst = false) :
    (futureCopy side call).Meets (Permitted layer) (fun _ s' => Stable s') s := by
  unfold futureCopy
  rw [Program.meets_bind]
  refine validateCopy_meets stable.inv.placement fun validated => ?_
  have live := exists_of_held validated.held running
  simp only [Program.meets_bind, Program.meets_get]
  refine GuestBuffer.create_meets fun buffer progress ptr length small => ?_
  have fresh : Fresh s.kind buffer := ⟨progress, ptr, length ▸ small, fun _ => length⟩
  have started := startCopy_meets stable live validated.held validated.idle fresh
  have finished := fun s' (handed : Handed (begun s side buffer) s') =>
    finishCopy_meets stable live (validated.kind.symm ▸ validated) handed
  rw [validated.kind] at started finished
  exact started.imp fun _ s' handed => finished s' handed

theorem Stable.held_of_claimed {s : State layer} (stable : Stable s) {side : Side}
    (live : s.Exists side)
    (claimed : (s.ends side).wset ≠ none ∨ (s.ends side).syncWaiter ≠ none) :
    ∃ inst i, (s.ends side).holder = .held inst i := by
  cases place : (s.ends side).holder with
  | held inst i => exact ⟨inst, i, rfl⟩
  | transit =>
      obtain ⟨_, alone, free⟩ := stable.inv.control.transit side place
      exact (claimed.elim (fun joined => joined alone) fun waits => waits free).elim
  | removed => simp [State.Exists, place, Holder.live] at live

theorem deliver_meets {s : State layer} {wset : Nat} {side : Side} (stable : Stable s) :
    (deliver wset side).Meets (Permitted layer) (fun _ s' => Stable s') s := by
  simp only [deliver, Program.meets_bind, Program.meets_get, Program.meets_ite]
  refine ⟨fun ready => ?_, fun _ => stable⟩
  obtain ⟨live, joined, armed⟩ := ready
  obtain ⟨inst, i, held⟩ := stable.held_of_claimed live (.inl (by simp [joined]))
  have waiterless : (s.ends side).syncWaiter = none := by
    cases waits : (s.ends side).syncWaiter with
    | none => rfl
    | some i =>
        have alone := (stable.inv.control.sync side i live waits).2.2.1
        simp [joined] at alone
  have deliverable : Deliverable s side inst i :=
    ⟨stable.inv, stable.observed, stable.gone, fun other _ => stable.resting other, live, held,
      waiterless, armed⟩
  refine delivery_meets permitted_of_isTrap deliverable
    fun copy tuple clears state delivery _ _ => ?_
  simp only [report, Program.meets_modify, Program.meets_pure]
  exact deliverable.received _ delivery rfl fun _ => rfl

theorem resume_meets {s : State layer} {side : Side} (stable : Stable s) :
    (resume side).Meets (Permitted layer) (fun _ s' => Stable s') s := by
  simp only [resume, Program.meets_bind, Program.meets_get]
  cases waits : (s.ends side).syncWaiter with
  | none => exact stable
  | some i =>
      simp only [Program.meets_ite]
      refine ⟨fun ready => ?_, fun _ => stable⟩
      obtain ⟨live, armed⟩ := ready
      obtain ⟨inst, j, held⟩ := stable.held_of_claimed live (.inr (by simp [waits]))
      have place := (stable.inv.control.sync side i live waits).2.2.2
      have same : j = i :=
        Option.some.inj ((stable.inv.placement.index side inst j held).symm.trans place)
      subst same
      have released := stable.claim side (s.ends side).wset none (by simp)
        fun moving => by simp [held] at moving
      simp only [resumeCopy, Program.meets_bind, Program.meets_modify]
      exact take_meets (s := s.setEnd side { s.ends side with syncWaiter := none })
        { inv := released.inv
          observed := released.observed
          gone := released.gone
          resting := fun other _ => released.resting other
          live := (State.setEnd_exists s side { s.ends side with syncWaiter := none } rfl
            side).mpr live
          held := by simpa using held
          waiterless := by simp
          armed := by simpa [CopyEnd.hasPendingEvent] using armed }

theorem abandonWait_meets {s : State layer} {side : Side} (stable : Stable s) :
    (abandonWait side).Meets (Permitted layer) (fun _ s' => Stable s') s := by
  simp only [abandonWait, Program.meets_bind, Program.meets_modify, Program.meets_pure]
  exact stable.claim side (s.ends side).wset none (by simp)
    fun moving => ⟨(stable.inv.control.transit side moving).2.1, rfl⟩

theorem join_meets {s : State layer} {side : Side} {wset : Option Nat} {inst i : Nat}
    (stable : Stable s) (held : (s.ends side).holder = .held inst i)
    (free : (s.ends side).hasSyncWaiter = false) :
    (join side wset).Meets (Permitted layer) (fun _ s' => Stable s') s := by
  simp only [Streams.join, Program.meets_bind, Program.meets_get, meets_assert, Program.meets_modify]
  refine ⟨fun wrong => absurd free wrong, fun _ => ?_⟩
  have free : (s.ends side).syncWaiter = none := by simpa [CopyEnd.hasSyncWaiter] using free
  exact stable.claim side wset (s.ends side).syncWaiter
    (fun j waits => by simp [free] at waits) fun moving => by simp [held] at moving

theorem waitableJoin_meets {s : State layer} {inst wi si : Nat} (stable : Stable s) :
    (waitableJoin inst wi si).Meets (Permitted layer) (fun _ s' => Stable s') s := by
  unfold waitableJoin
  rw [Program.meets_bind]
  refine requireMayLeave_meets permitted_of_isTrap ?_
  simp only [Program.meets_bind, Program.meets_get, Program.meets_lift, Fallible.satisfies_iff]
  refine ⟨fun e found => ?_, fun failure failed =>
    permitted_of_isTrap failure (Table.get_error_isTrap failed)⟩
  cases e with
  | waitableSet identity => exact .trap _
  | other => exact stable
  | copyEnd side =>
      rw [Table.get_eq_ok, stable.inv.placement.entry] at found
      simp only [Program.meets_bind, meets_trapIf, Program.meets_ite]
      refine ⟨fun _ => .trap _, fun free => ?_⟩
      have free : (s.ends side).hasSyncWaiter = false := by simpa using free
      refine ⟨fun _ => (join_meets stable found free).imp fun _ _ kept => kept, fun _ => ?_⟩
      simp only [Program.meets_lift, Fallible.satisfies_iff]
      refine ⟨fun set _ => ?_, fun failure failed =>
        permitted_of_isTrap failure (Table.get_error_isTrap failed)⟩
      cases set with
      | waitableSet identity =>
          simp only [Program.meets_bind, Program.meets_pure]
          exact join_meets stable found free
      | copyEnd side => exact .trap _
      | other => exact .trap _

/-! ## Cancellation -/

/-- `s` with the cancellation of one end under way. -/
def cancelling (s : State layer) (side : Side) : State layer :=
  s.setEnd side { s.ends side with state := .cancellingCopy }

section Cancelling

variable {s : State layer} {side : Side}

theorem cancelling_ends_ne {other : Side} (different : other ≠ side) :
    (cancelling s side).ends other = s.ends other := State.setEnd_ends_ne s side _ different

theorem cancelling_field {Field : Type} (field : CopyEnd layer.Elem → Field)
    (kept : field { s.ends side with state := .cancellingCopy } = field (s.ends side))
    (other : Side) : field ((cancelling s side).ends other) = field (s.ends other) :=
  State.setEnd_field s side _ field kept other

theorem cancelling_copying (busy : (s.ends side).state = .copying) (other : Side) :
    ((cancelling s side).ends other).copying ↔ (s.ends other).copying := by
  rcases eq_or_ne other side with rfl | different
  · simp [cancelling, CopyEnd.copying, busy]
  · rw [cancelling_ends_ne different]

theorem cancelling_state_eq (busy : (s.ends side).state = .copying) {state : CopyState}
    (resting : state ≠ .copying ∧ state ≠ .cancellingCopy) (other : Side) :
    ((cancelling s side).ends other).state = state ↔ (s.ends other).state = state := by
  rcases eq_or_ne other side with rfl | different
  · simp [cancelling, busy, resting.1.symm, resting.2.symm]
  · rw [cancelling_ends_ne different]

theorem cancelling_exists (other : Side) : (cancelling s side).Exists other ↔ s.Exists other :=
  State.setEnd_exists s side { s.ends side with state := .cancellingCopy } rfl other

theorem Inv.cancelling (inv : Inv none s) (busy : (s.ends side).state = .copying) :
    Inv none (cancelling s side) where
  placement := inv.placement.congr rfl (cancelling_field CopyEnd.holder rfl)
    (cancelling_field CopyEnd.index rfl)
  control := inv.control.congr
    { kind := rfl, dropped := rfl, abandonReason := rfl, pending := rfl, copies := rfl,
      poisoned := rfl, copying := cancelling_copying busy,
      idle := cancelling_state_eq busy ⟨by simp, by simp⟩,
      event := cancelling_field CopyEnd.pendingEvent rfl,
      wset := cancelling_field CopyEnd.wset rfl,
      syncWaiter := cancelling_field CopyEnd.syncWaiter rfl,
      index := cancelling_field CopyEnd.index rfl,
      holder := cancelling_field CopyEnd.holder rfl, remain := fun _ _ _ _ _ => rfl }
  accounting := inv.accounting.congr
    ⟨rfl, rfl, rfl, rfl, rfl, cancelling_copying busy, fun _ => rfl⟩
  future future :=
    (inv.future future).congr rfl rfl rfl rfl (cancelling_copying busy)
      (cancelling_state_eq busy ⟨by simp, by simp⟩)
      (fun other ref armed => (cancelling_field CopyEnd.pendingEvent rfl other).trans armed)
      (fun moved => ((inv.future future).copied moved).2.1) id fun gone unexplained => by
        rw [cancelling_exists]
        exact (inv.future future).abandoned gone unexplained

end Cancelling

/-- The event that a cancelled copy reports. -/
def cancelEvent : Kind → BufferRef → PendingEvent
  | .stream, buffer => .streamEvent .cancelled .nothing buffer
  | .future, buffer => .futureEvent .cancelled buffer

theorem cancelEvent_stream {kind : Kind} (stream : kind = .stream) (buffer : BufferRef) :
    cancelEvent kind buffer = .streamEvent .cancelled .nothing buffer := by rw [stream]; rfl

theorem cancelEvent_future {kind : Kind} (future : kind = .future) (buffer : BufferRef) :
    cancelEvent kind buffer = .futureEvent .cancelled buffer := by rw [future]; rfl

theorem stream_or_future : ∀ kind : Kind, kind = .stream ∨ kind = .future
  | .stream => .inl rfl
  | .future => .inr rfl

theorem Inv.cancelPending {s : State layer} {p : Pending} (inv : Inv none s)
    (parked : s.pending = some p) :
    Inv none (withEvent { s with pending := none } p.buffer.side (cancelEvent s.kind p.buffer))
    where
  placement := (inv.placement.unpark s.dropped).withEvent _ _
  control := by
    have slot := inv.control.pending p parked
    refine inv.control.notify s.dropped parked ?_
    rcases stream_or_future s.kind with kind | kind
    · rw [cancelEvent_stream kind]
      exact ⟨kind, slot.copying, slot.current, by simp, by simp⟩
    · rw [cancelEvent_future kind]
      have shape := inv.future kind
      have untouched : s.transfers = [] := by
        by_contra moved
        simp [(shape.copied moved).2.1] at parked
      have made := inv.accounting.busy _ slot.copying
      refine ⟨kind, slot.copying, slot.current, ?_, by simp⟩
      have single : (s.buffers p.buffer).length = 1 := by
        rw [slot.current]
        exact shape.single _ (Nat.sub_lt made Nat.one_pos)
      simp [GuestBuffer.remain, shape.uncopied untouched, single]
  accounting := (inv.accounting.unpark s.dropped).withEvent _ _
  future kind := by
    have shape := inv.future kind
    have slot := inv.control.pending p parked
    have silent : (s.ends p.buffer.side).pendingEvent = none := by
      rcases slot.event with silent | ⟨stream, _⟩
      · exact silent
      · change s.kind = .future at kind
        simp [kind] at stream
    refine shape.congr rfl rfl rfl rfl (withEvent_copying _ _ _)
      (fun _ => by rw [withEvent_state]) (fun other ref armed => ?_) (fun _ => rfl) id ?_
    · have different : other ≠ p.buffer.side := by
        rintro rfl
        simp [silent] at armed
      rw [withEvent_event_ne _ _ _ different]
      exact armed
    · intro gone _
      change s.dropped = true at gone
      simp [slot.open_] at gone

/-- `cancel` on behalf of a busy end without news: the pending slot is its own, and the end is
notified. -/
theorem cancel_meets {s : State layer} {side : Side} {permitted : Failure → Prop}
    {post : Unit → State layer → Prop}
    (inv : Inv none s) (live : s.Exists side) (busy : (s.ends side).copying)
    (quiet : (s.ends side).pendingEvent = none)
    (notified : ∀ p, s.pending = some p → p.buffer.side = side →
      post () (withEvent { s with pending := none } side (cancelEvent s.kind p.buffer))) :
    cancel.Meets permitted post s := by
  obtain ⟨p, parked, own⟩ := inv.control.parked side live busy quiet (by simp)
  have slot := inv.control.pending p parked
  have result := notified p parked own
  rw [cancel, resetAndNotifyPending_meets parked, slot.closure, own]
  rcases stream_or_future s.kind with kind | kind
  · rw [cancelEvent_stream kind] at result
    exact (onCopyDone_stream (by exact kind)).mpr result
  · rw [cancelEvent_future kind] at result
    exact (onCopyDone_future (by exact kind) (.inl (by simp))).mpr result

/-- What a cancellation that does not trap leaves: its result at hand, and the peer untouched. -/
structure Cancelled (s : State layer) (side : Side) (outcome : Outcome) (s' : State layer) :
    Prop where
  stable : Stable s'
  synchronous : ∃ payload, outcome = .value payload ∧ payload < BLOCKED
  peer : s'.ends side.peer = s.ends side.peer

theorem takeCancelEvent_meets {s before : State layer} {side : Side} {inst i : Nat}
    (deliverable : Deliverable s side inst i)
    (peer : s.ends side.peer = before.ends side.peer) :
    (takeCancelEvent s.kind side i).Meets Failure.IsTrap
      (fun outcome s' => Cancelled before side outcome s') s := by
  simp only [takeCancelEvent, Program.meets_bind]
  refine delivery_meets (fun _ isTrap => isTrap) deliverable
    fun copy tuple clears state delivery code index => ?_
  simp only [Program.meets_get, meets_assert, report, Program.meets_modify, Program.meets_pure]
  have idle : ¬((consumed s side clears state).ends side).copying := by
    rcases delivery.settles with rfl | rfl <;> simp [consumed, CopyEnd.copying]
  refine ⟨fun wrong => absurd ⟨idle, code, index⟩ wrong, fun _ => ?_⟩
  have stable := deliverable.received
    { tuple with payload := supersedeCompleted s.kind tuple.payload } delivery
    (supersedeCompleted_count s.kind delivery.word) fun future => by
      rw [future]
      exact supersedeCompleted_future _
  refine ⟨stable, ⟨_, rfl, ?_⟩, ?_⟩
  · refine Nat.lt_of_le_of_lt
      (supersedeCompleted_le s.kind delivery.word
        (delivery.payload_le deliverable.inv.accounting)) ?_
    decide
  · exact (State.setEnd_ends_ne _ side _ side.peer_ne).trans peer

theorem cancelCopy_meets {s : State layer} {kind : Kind} {side : Side}
    {call : CancelCall layer.Elem} (stable : Stable s) (running : s.poisoned call.inst = false) :
    (cancelCopy kind side call).Meets Failure.IsTrap
      (fun outcome s' => Cancelled s side outcome s') s := by
  simp only [cancelCopy, Program.meets_bind]
  refine requireMayLeave_meets (fun _ isTrap => isTrap) (requireEnd_meets (fun _ isTrap => isTrap)
    stable.inv.placement fun held sameKind => ?_)
  subst sameKind
  have live := exists_of_held held running
  simp only [Program.meets_get, meets_trapIf, setState, Program.meets_modify, Program.meets_ite]
  refine ⟨fun _ => trivial, fun _ => ⟨fun _ => trivial, fun cancellable =>
    ⟨fun _ => trivial, fun _ => ?_⟩⟩⟩
  have busy : (s.ends side).state = .copying := by
    by_contra other
    exact cancellable (.inl other)
  have waiterless : (s.ends side).syncWaiter = none := by
    by_contra waits
    exact cancellable (.inr (by
      simpa [CopyEnd.hasSyncWaiter, Option.isSome_iff_ne_none] using waits))
  have inv := stable.inv.cancelling busy
  change (_ → Program.Meets _ _ _ (cancelling s side)) ∧ (_ → Program.Meets _ _ _ (cancelling s side))
  refine ⟨fun armed => ?_, fun quiet => ?_⟩
  · have deliverable : Deliverable (cancelling s side) side call.inst call.i :=
      { inv
        observed := fun gone other there => by
          rw [cancelling_state_eq busy ⟨by simp, by simp⟩,
            cancelling_field CopyEnd.pendingEvent rfl]
          exact stable.observed gone other ((cancelling_exists other).mp there)
        gone := fun other absent => stable.gone other fun there =>
          absent ((cancelling_exists other).mpr there)
        resting := fun other different => by
          rw [cancelling_ends_ne different]
          exact stable.resting other
        live := (cancelling_exists side).mpr live
        held := (cancelling_field CopyEnd.holder rfl side).trans held
        waiterless := (cancelling_field CopyEnd.syncWaiter rfl side).trans waiterless
        armed := by
          rw [cancelling_field CopyEnd.pendingEvent rfl]
          exact armed }
    exact takeCancelEvent_meets deliverable (cancelling_ends_ne side.peer_ne)
  · have quiet : ((cancelling s side).ends side).pendingEvent = none := by
      rw [cancelling_field CopyEnd.pendingEvent rfl]
      simpa [CopyEnd.hasPendingEvent] using quiet
    have copying := (cancelling_copying busy side).mpr (.inl busy)
    rw [Program.meets_bind]
    refine cancel_meets inv ((cancelling_exists side).mpr live) copying quiet
      fun p parked own => ?_
    have cancelled := inv.cancelPending parked
    rw [own] at cancelled
    have armed : ((withEvent { cancelling s side with pending := none } side
        (cancelEvent (cancelling s side).kind p.buffer)).ends side).hasPendingEvent = true := by
      simp [CopyEnd.hasPendingEvent]
    simp only [Program.meets_bind, Program.meets_get, Program.meets_ite, armed, forall_const,
      not_true_eq_false, false_implies, and_true]
    have open_ : s.dropped = false := (inv.control.pending p parked).open_
    have deliverable : Deliverable (withEvent { cancelling s side with pending := none } side
        (cancelEvent (cancelling s side).kind p.buffer)) side call.inst call.i :=
      { inv := cancelled
        observed := fun gone => by
          change s.dropped = true at gone
          simp [open_] at gone
        gone := fun other absent => stable.gone other fun there =>
          absent ((withEvent_exists _ _ _ _).mpr ((cancelling_exists other).mpr there))
        resting := fun other different => by
          rw [withEvent_state]
          change ((cancelling s side).ends other).state ≠ _
          rw [cancelling_ends_ne different]
          exact stable.resting other
        live := (withEvent_exists _ _ _ _).mpr ((cancelling_exists side).mpr live)
        held := (withEvent_holder _ _ _ _).trans
          ((cancelling_field CopyEnd.holder rfl side).trans held)
        waiterless := (withEvent_syncWaiter _ _ _ _).trans
          ((cancelling_field CopyEnd.syncWaiter rfl side).trans waiterless)
        armed }
    exact takeCancelEvent_meets deliverable
      ((State.setEnd_ends_ne _ side _ side.peer_ne).trans (cancelling_ends_ne side.peer_ne))

/-! ## Dropping the shared object -/

/-- What dropping the shared object leaves alone. -/
structure SameEnds (s s' : State layer) : Prop where
  kind : s'.kind = s.kind
  tables : s'.tables = s.tables
  poisoned : s'.poisoned = s.poisoned
  state : ∀ side, (s'.ends side).state = (s.ends side).state
  wset : ∀ side, (s'.ends side).wset = (s.ends side).wset
  syncWaiter : ∀ side, (s'.ends side).syncWaiter = (s.ends side).syncWaiter
  index : ∀ side, (s'.ends side).index = (s.ends side).index
  holder : ∀ side, (s'.ends side).holder = (s.ends side).holder

namespace SameEnds

variable {s s' s'' : State layer}

theorem refl (s : State layer) : SameEnds s s :=
  ⟨rfl, rfl, rfl, fun _ => rfl, fun _ => rfl, fun _ => rfl, fun _ => rfl, fun _ => rfl⟩

theorem trans (first : SameEnds s s') (second : SameEnds s' s'') : SameEnds s s'' where
  kind := second.kind.trans first.kind
  tables := second.tables.trans first.tables
  poisoned := second.poisoned.trans first.poisoned
  state side := (second.state side).trans (first.state side)
  wset side := (second.wset side).trans (first.wset side)
  syncWaiter side := (second.syncWaiter side).trans (first.syncWaiter side)
  index side := (second.index side).trans (first.index side)
  holder side := (second.holder side).trans (first.holder side)

theorem withEvent (s : State layer) (side : Side) (event : PendingEvent) :
    SameEnds s (withEvent s side event) where
  kind := rfl
  tables := rfl
  poisoned := rfl
  state := withEvent_state s side event
  wset := withEvent_wset s side event
  syncWaiter := withEvent_syncWaiter s side event
  index := withEvent_index s side event
  holder := withEvent_holder s side event

theorem exists_iff (same : SameEnds s s') (side : Side) : s'.Exists side ↔ s.Exists side := by
  simp only [State.Exists, same.holder, same.poisoned]

theorem copying_iff (same : SameEnds s s') (side : Side) :
    (s'.ends side).copying ↔ (s.ends side).copying := by
  simp only [CopyEnd.copying, same.state]

end SameEnds

/-- The end knows, or is about to learn, that its peer is gone. -/
def Notified (s : State layer) (side : Side) : Prop :=
  (s.ends side).state = .done ∨ (s.ends side).pendingEvent.isSome = true

theorem Notified.withEvent {s : State layer} {side : Side} (notified : Notified s side)
    (other : Side) (event : PendingEvent) : Notified (withEvent s other event) side := by
  rcases eq_or_ne side other with rfl | different
  · exact .inr (by simp)
  · rw [Notified, withEvent_state, withEvent_event_ne _ _ _ different]
    exact notified

/-- The states between the notifications of a drop. -/
structure Dropping (s s' : State layer) : Prop where
  inv : Inv none s'
  gone : s'.dropped = true
  free : s'.pending = none
  same : SameEnds s s'

theorem notifyIdleDrop_meets {s s' : State layer} {side : Side}
    {post : Unit → State layer → Prop} (dropping : Dropping s s')
    (holds : ∀ next, Dropping s next → Notified next side →
      (∀ other, Notified s' other → Notified next other) → post () next) :
    (notifyIdleDrop side).Meets (Permitted layer) post s' := by
  simp only [notifyIdleDrop, armIdleDrop, Program.meets_bind, Program.meets_get,
    Program.meets_ite, setPendingEvent, Program.meets_modify, Program.meets_pure]
  refine ⟨fun settled => holds s' dropping settled fun _ notified => notified, fun unsettled => ?_⟩
  obtain ⟨unfinished, quiet⟩ := not_or.mp unsettled
  have quiet : (s'.ends side).pendingEvent = none := by
    simpa [CopyEnd.hasPendingEvent] using quiet
  have inv := dropping.inv
  refine holds (withEvent s' side _) ?_ (.inr (by simp)) fun other notified =>
    notified.withEvent side _
  refine
    { inv := ?_, gone := dropping.gone, free := dropping.free,
      same := dropping.same.trans (.withEvent s' side _) }
  refine
    { placement := inv.placement.withEvent side _
      control := inv.control.arm (fun live => ?_) (fun p parked _ => ?_) (by simp) (by simp)
      accounting := inv.accounting.withEvent side _
      future := fun future => ?_ }
  · refine ⟨dropping.gone, .inl ?_, rfl⟩
    cases state : (s'.ends side).state with
    | idle => rfl
    | done => exact absurd state unfinished
    | copying =>
        obtain ⟨p, parked, _⟩ := inv.control.parked side live (.inl state) quiet (by simp)
        simp [dropping.free] at parked
    | cancellingCopy =>
        obtain ⟨p, parked, _⟩ := inv.control.parked side live (.inr state) quiet (by simp)
        simp [dropping.free] at parked
  · simp [dropping.free] at parked
  · refine (inv.future future).congr rfl rfl rfl rfl (withEvent_copying _ _ _)
      (fun _ => by rw [withEvent_state]) (fun other ref armed => ?_) (fun _ => dropping.free) id
      fun gone unexplained => ?_
    · have different : other ≠ side := by
        rintro rfl
        simp [quiet] at armed
      rw [withEvent_event_ne _ _ _ different]
      exact armed
    · rw [withEvent_exists]
      exact (inv.future future).abandoned gone unexplained

/-- A drop that has something to say about an unwritten future gives a reason for it. -/
def Explained (s : State layer) : Prop :=
  s.kind = .future → s.abandonReason = none → s.transfers ≠ [] ∨ ¬s.Exists .readable

theorem Dropping.mark {s : State layer} (inv : Inv none s) (explained : Explained s)
    (free : s.pending = none) : Dropping s { s with dropped := true } where
  gone := rfl
  free := free
  same := ⟨rfl, rfl, rfl, fun _ => rfl, fun _ => rfl, fun _ => rfl, fun _ => rfl, fun _ => rfl⟩
  inv :=
    { placement := inv.placement.congr rfl (fun _ => rfl) fun _ => rfl
      accounting := inv.accounting.congr
        ⟨rfl, rfl, rfl, rfl, rfl, fun _ => Iff.rfl, fun _ => rfl⟩
      control :=
        { pending := fun p parked => by simp [free] at parked
          parked := inv.control.parked
          event := fun side event live armed => by
            have before := inv.control.event side event live armed
            cases event with
            | streamEvent result reclaim buffer =>
                obtain ⟨stream, busy, current, _, clears⟩ := before
                exact ⟨stream, busy, current, fun _ => rfl, clears⟩
            | futureEvent result buffer =>
                obtain ⟨future, busy, current, full, late⟩ := before
                exact ⟨future, busy, current, full, fun result => ⟨rfl, (late result).2⟩⟩
            | futureAbandoned reason =>
                obtain ⟨future, readable, busy, _, recorded⟩ := before
                exact ⟨future, readable, busy, rfl, recorded⟩
            | idleDrop reason =>
                obtain ⟨_, waiting, reasons⟩ := before
                exact ⟨rfl, waiting, reasons⟩
          starts := by simp
          sync := inv.control.sync
          transit := inv.control.transit }
      future := fun future =>
        (inv.future future).congr rfl rfl rfl rfl (fun _ => Iff.rfl) (fun _ => Iff.rfl)
          (fun _ _ armed => armed) (fun _ => free) (fun _ => rfl) fun _ unexplained =>
            explained future unexplained }

theorem Dropping.notifyParked {s : State layer} {p : Pending} {event : PendingEvent}
    (inv : Inv none s) (explained : Explained s) (parked : s.pending = some p)
    (fits : EventFits none { s with pending := none, dropped := true } p.buffer.side event) :
    Dropping s (withEvent { s with pending := none, dropped := true } p.buffer.side event) where
  gone := rfl
  free := rfl
  same := SameEnds.trans
    (⟨rfl, rfl, rfl, fun _ => rfl, fun _ => rfl, fun _ => rfl, fun _ => rfl, fun _ => rfl⟩ :
      SameEnds s { s with pending := none, dropped := true }) (.withEvent _ _ _)
  inv :=
    { placement := (inv.placement.unpark true).withEvent _ _
      control := inv.control.notify true parked fits
      accounting := (inv.accounting.unpark true).withEvent _ _
      future := fun future => by
        have slot := inv.control.pending p parked
        refine (inv.future future).congr rfl rfl rfl rfl (withEvent_copying _ _ _)
          (fun _ => by rw [withEvent_state]) (fun other ref armed => ?_) (fun _ => rfl)
          (fun _ => rfl) fun _ unexplained => ?_
        · have different : other ≠ p.buffer.side := by
            rintro rfl
            rcases slot.event with silent | ⟨stream, _⟩
            · simp [silent] at armed
            · change s.kind = .future at future
              simp [future] at stream
          rw [withEvent_event_ne _ _ _ different]
          exact armed
        · exact (explained future unexplained).imp_right fun absent there =>
            absent ((withEvent_exists _ _ _ _).mp there) }

theorem notifyParked_meets {s : State layer} {p : Pending} {post : Unit → State layer → Prop}
    (inv : Inv none s) (explained : Explained s) (parked : s.pending = some p)
    (holds : ∀ s', Dropping s s' → post () s') :
    (resetAndNotifyPending .dropped).Meets (Permitted layer) post { s with dropped := true } := by
  have slot := inv.control.pending p parked
  rw [resetAndNotifyPending_meets (s := { s with dropped := true }) parked, slot.closure]
  rcases stream_or_future s.kind with kind | kind
  · refine (onCopyDone_stream (by exact kind)).mpr ?_
    exact holds _ (.notifyParked inv explained parked
      ⟨kind, slot.copying, slot.current, fun _ => rfl, by simp⟩)
  · have shape := inv.future kind
    have untouched : s.transfers = [] := by
      by_contra moved
      simp [(shape.copied moved).2.1] at parked
    rcases eq_or_ne p.buffer.side .writable with writing | reading
    · refine (onCopyDone_future (by exact kind) (.inr writing)).mpr ?_
      refine holds _ (.notifyParked inv explained parked
        ⟨kind, slot.copying, slot.current, ?_, fun _ => ⟨rfl, writing⟩⟩)
      have made := inv.accounting.busy _ slot.copying
      have single : (s.buffers p.buffer).length = 1 := by
        rw [slot.current]
        exact shape.single _ (Nat.sub_lt made Nat.one_pos)
      simp [GuestBuffer.remain, shape.uncopied untouched, single]
    · have reading : p.buffer.side = .readable := by
        cases side : p.buffer.side with
        | readable => rfl
        | writable => exact absurd side reading
      cases reason : s.abandonReason with
      | none =>
          rcases explained kind reason with moved | absent
          · exact absurd untouched moved
          · exact absurd (reading ▸ slot.live) absent
      | some words =>
          have fits : EventFits none { s with pending := none, dropped := true }
              p.buffer.side (.futureAbandoned words) := ⟨kind, reading, slot.copying, rfl, reason⟩
          have result := holds _ (.notifyParked inv explained parked fits)
          simp only [onCopyDone, Program.meets_bind, Program.meets_get, kind, reading, reason,
            and_self, if_true, setPendingEvent, Program.meets_modify] at result ⊢
          exact result

/-- What dropping the shared object establishes. -/
structure Dropped (s s' : State layer) : Prop where
  inv : Inv none s'
  observed : Observed s'
  gone : s'.dropped = true
  same : SameEnds s s'

theorem notifyIdlePeers_meets {s s' : State layer} {dropping : Option Side}
    (begun : Dropping s s') (left : ∀ side, dropping = some side → ¬s.Exists side) :
    (notifyIdlePeers dropping).Meets (Permitted layer) (fun _ last => Dropped s last) s' := by
  cases dropping with
  | some side =>
      refine notifyIdleDrop_meets begun fun next done notified _ => ?_
      refine ⟨done.inv, fun _ other there => ?_, done.gone, done.same⟩
      rcases Side.eq_or_eq_peer side other with rfl | rfl
      · exact absurd ((done.same.exists_iff other).mp there) (left other rfl)
      · exact notified
  | none =>
      rw [notifyIdlePeers, Program.meets_bind]
      refine notifyIdleDrop_meets begun fun next first notified _ => ?_
      refine notifyIdleDrop_meets first fun last second notified' kept => ?_
      refine ⟨second.inv, fun _ other _ => ?_, second.gone, second.same⟩
      cases other with
      | readable => exact kept .readable notified
      | writable => exact notified'

theorem drop_meets {s : State layer} (dropping : Option Side) (inv : Inv none s)
    (observed : Observed s) (explained : s.dropped = false → Explained s)
    (left : ∀ side, dropping = some side → ¬s.Exists side) :
    (drop dropping).Meets (Permitted layer) (fun _ s' => Dropped s s') s := by
  simp only [drop, Program.meets_bind, Program.meets_get, Program.meets_ite, Program.meets_pure]
  refine ⟨fun gone => ⟨inv, observed, gone, .refl s⟩, fun open_ => ?_⟩
  have explained := explained (by simpa using open_)
  simp only [Program.meets_modify]
  refine ⟨fun some_ => ?_, fun none_ =>
    notifyIdlePeers_meets (.mark inv explained (by simpa using none_)) left⟩
  obtain ⟨p, parked⟩ := Option.isSome_iff_exists.mp some_
  exact notifyParked_meets inv explained parked fun s' begun => notifyIdlePeers_meets begun left

/-! ## Ends that enter and leave a table -/

/-- The end as it leaves its table. -/
def taken (s : State layer) (inst : Nat) (side : Side) (table : Table Entry) : State layer :=
  resituated s (Function.update s.tables inst table) side
    { s.ends side with holder := .removed }

/-- The end as it enters a table. -/
def placed (s : State layer) (inst i : Nat) (side : Side) (table : Table Entry) : State layer :=
  resituated s (Function.update s.tables inst table) side
    { s.ends side with index := some i, holder := .held inst i }

section Tables

variable {s : State layer} {inst i : Nat} {side : Side} {table : Table Entry}

theorem Placement.take (placement : Placement s) (valid : table.Valid)
    (held : (s.ends side).holder = .held inst i)
    (entries : ∀ j, table.entry j = if j = i then none else (s.tables inst).entry j) :
    Placement (taken s inst side table) := by
  have others : ∀ other, other ≠ side → (taken s inst side table).ends other = s.ends other :=
    fun other different => resituated_ends_ne different
  have own : (taken s inst side table).ends side = { s.ends side with holder := .removed } :=
    resituated_same
  refine
    { tables := fun inst' => ?_, entry := fun inst' j other => ?_,
      index := fun other inst' j place => ?_, transit := fun other moving => ?_ }
  · change (Function.update s.tables inst table inst').Valid
    rcases eq_or_ne inst' inst with rfl | different
    · simpa using valid
    · simpa [different] using placement.tables inst'
  · change (Function.update s.tables inst table inst').entry j = _ ↔ _
    have before := placement.entry inst' j other
    rcases eq_or_ne other side with rfl | different
    · rw [own]
      simp only [reduceCtorEq, iff_false]
      rcases eq_or_ne inst' inst with rfl | elsewhere
      · rw [Function.update_self, entries]
        split
        · simp
        · rename_i different
          intro found
          rw [before.mp found] at held
          injection held with _ same
          exact different same
      · rw [Function.update_of_ne elsewhere]
        intro found
        rw [before.mp found] at held
        injection held with same _
        exact elsewhere same
    · rw [others other different]
      rcases eq_or_ne inst' inst with rfl | elsewhere
      · rw [Function.update_self, entries]
        split
        · rename_i same
          subst same
          have mine := (placement.entry inst' j side).mpr held
          refine ⟨by simp, fun place => ?_⟩
          have theirs := before.mpr place
          rw [mine] at theirs
          simp only [Option.some.injEq, Entry.copyEnd.injEq] at theirs
          exact absurd theirs.symm different
        · exact before
      · rw [Function.update_of_ne elsewhere]
        exact before
  · rcases eq_or_ne other side with rfl | different
    · simp [own] at place
    · rw [others other different] at place ⊢
      exact placement.index other inst' j place
  · rcases eq_or_ne other side with rfl | different
    · simp [own] at moving
    · rw [others other different] at moving ⊢
      exact placement.transit other moving

theorem Placement.place (placement : Placement s) (valid : table.Valid)
    (absent : ∀ inst' j, (s.ends side).holder ≠ .held inst' j)
    (vacant : (s.tables inst).entry i = none)
    (entries : ∀ j, table.entry j =
      if j = i then some (.copyEnd side) else (s.tables inst).entry j) :
    Placement (placed s inst i side table) := by
  have others : ∀ other, other ≠ side → (placed s inst i side table).ends other = s.ends other :=
    fun other different => resituated_ends_ne different
  have own : (placed s inst i side table).ends side =
      { s.ends side with index := some i, holder := .held inst i } := resituated_same
  refine
    { tables := fun inst' => ?_, entry := fun inst' j other => ?_,
      index := fun other inst' j place => ?_, transit := fun other moving => ?_ }
  · change (Function.update s.tables inst table inst').Valid
    rcases eq_or_ne inst' inst with rfl | different
    · simpa using valid
    · simpa [different] using placement.tables inst'
  · change (Function.update s.tables inst table inst').entry j = _ ↔ _
    have before := placement.entry inst' j other
    rcases eq_or_ne other side with rfl | different
    · rw [own]
      simp only [Holder.held.injEq]
      rcases eq_or_ne inst' inst with rfl | elsewhere
      · rw [Function.update_self, entries]
        split
        · rename_i same
          simp [same]
        · rename_i different
          refine ⟨fun found => absurd (before.mp found) (absent _ _), fun same => ?_⟩
          exact absurd same.2.symm different
      · rw [Function.update_of_ne elsewhere]
        refine ⟨fun found => absurd (before.mp found) (absent _ _), fun same => ?_⟩
        exact absurd same.1.symm elsewhere
    · rw [others other different]
      rcases eq_or_ne inst' inst with rfl | elsewhere
      · rw [Function.update_self, entries]
        split
        · rename_i same
          subst same
          refine ⟨fun found => ?_, fun place => ?_⟩
          · simp only [Option.some.injEq, Entry.copyEnd.injEq] at found
            exact absurd found.symm different
          · have theirs := before.mpr place
            simp [vacant] at theirs
        · exact before
      · rw [Function.update_of_ne elsewhere]
        exact before
  · rcases eq_or_ne other side with rfl | different
    · rw [own] at place ⊢
      simp only [Holder.held.injEq] at place
      simp [place.2]
    · rw [others other different] at place ⊢
      exact placement.index other inst' j place
  · rcases eq_or_ne other side with rfl | different
    · simp [own] at moving
    · rw [others other different] at moving ⊢
      exact placement.transit other moving

theorem removeEnd_meets {kind : Kind} {message : String} {post : Unit → State layer → Prop}
    (placement : Placement s)
    (holds : ∀ table, (s.ends side).holder = .held inst i → s.kind = kind →
      Placement (taken s inst side table) → post () (taken s inst side table)) :
    (removeEnd kind side inst i message).Meets (Permitted layer) post s := by
  simp only [removeEnd, Program.meets_bind, Program.meets_get, Program.meets_lift,
    Fallible.satisfies_iff, Program.meets_modify, meets_trapIf]
  refine ⟨fun result removed => ⟨fun _ => .trap _, fun checked => ?_⟩, fun failure failed =>
    permitted_of_isTrap failure (Table.remove_error_isTrap failed)⟩
  obtain ⟨e, table⟩ := result
  obtain ⟨same, sameKind⟩ := not_not.mp checked
  obtain ⟨found, valid, entries⟩ := Table.remove_ok (placement.tables inst) removed
  simp only at same
  rw [same, placement.entry] at found
  exact holds table found sameKind (placement.take valid found entries)

theorem addEnd_meets {post : Nat → State layer → Prop} (placement : Placement s)
    (absent : ∀ inst' j, (s.ends side).holder ≠ .held inst' j)
    (holds : ∀ i table, Placement (placed s inst i side table) →
      post i (placed s inst i side table)) :
    (addEnd side inst).Meets (Permitted layer) post s := by
  simp only [addEnd, Program.meets_bind, Program.meets_get, Program.meets_lift,
    Fallible.satisfies_iff, Program.meets_modify, Program.meets_pure]
  refine ⟨fun result added => ?_, fun failure failed =>
    permitted_of_isTrap failure (Table.add_error_isTrap (placement.tables inst) failed)⟩
  obtain ⟨i, table⟩ := result
  obtain ⟨vacant, valid, entries⟩ := Table.add_ok (placement.tables inst) added
  exact holds i table (placement.place valid absent vacant entries)

end Tables

/-! ## Dropping an end -/

theorem Inv.forget {s : State layer} {side : Side} (inv : Inv none s) (absent : ¬s.Exists side)
    (idle : ¬(s.ends side).copying) (away : (s.ends side).holder = .removed) :
    Inv none (s.setEnd side { s.ends side with pendingEvent := none, wset := none }) := by
  have others : ∀ other, other ≠ side →
      (s.setEnd side { s.ends side with pendingEvent := none, wset := none }).ends other =
        s.ends other := fun other different => State.setEnd_ends_ne s side _ different
  have field := fun {Field : Type} (field : CopyEnd layer.Elem → Field) kept =>
    State.setEnd_field s side { s.ends side with pendingEvent := none, wset := none } field kept
  have exists_ := State.setEnd_exists s side
    { s.ends side with pendingEvent := none, wset := none } rfl
  have elsewhere : ∀ other, (s.setEnd side
      { s.ends side with pendingEvent := none, wset := none }).Exists other → other ≠ side := by
    rintro other there rfl
    exact absent ((exists_ other).mp there)
  refine
    { placement := inv.placement.congr rfl (field CopyEnd.holder rfl) (field CopyEnd.index rfl)
      accounting := inv.accounting.congr ⟨rfl, rfl, rfl, rfl, rfl,
        fun other => by simp only [CopyEnd.copying, field CopyEnd.state rfl], fun _ => rfl⟩
      control := ?_, future := fun future => ?_ }
  · refine
      { pending := fun p parked => ?_, parked := fun other there busy quiet _ => ?_,
        event := fun other event there armed => ?_, starts := by simp,
        sync := fun other i there waits => ?_, transit := fun other moving => ?_ }
    · have slot := inv.control.pending p parked
      have different : p.buffer.side ≠ side := fun same => absent (same ▸ slot.live)
      exact
        { open_ := slot.open_
          closure := slot.closure
          current := slot.current
          live := (exists_ _).mpr slot.live
          holder := by rw [others _ different]; exact slot.holder
          copying := by rw [others _ different]; exact slot.copying
          event := by rw [others _ different]; exact slot.event }
    · rw [others other (elsewhere other there)] at busy quiet
      exact inv.control.parked other ((exists_ other).mp there) busy quiet (by simp)
    · have different := elsewhere other there
      rw [others other different] at armed
      have before := inv.control.event other event ((exists_ other).mp there) armed
      cases event <;> simpa only [EventFits, others other different, State.setEnd_kind,
        State.setEnd_dropped, State.setEnd_pending, State.setEnd_currentBuffer,
        State.setEnd_buffers, State.setEnd_abandonReason, idleReason_setEnd] using before
    · rw [others other (elsewhere other there)] at waits ⊢
      exact inv.control.sync other i ((exists_ other).mp there) waits
    · rcases eq_or_ne other side with rfl | different
      · simp [away] at moving
      · rw [others other different] at moving ⊢
        exact inv.control.transit other moving
  · have shape := inv.future future
    have settled : ∀ other, Settled s other → Settled (s.setEnd side
        { s.ends side with pendingEvent := none, wset := none }) other := by
      intro other before
      rcases eq_or_ne other side with rfl | different
      · rcases before with ⟨done, reported⟩ | ⟨busy, _⟩
        · exact .inl ⟨(field CopyEnd.state rfl other).trans done, reported⟩
        · exact absurd busy idle
      · unfold Settled
        rw [others other different]
        exact before
    exact
      { single := shape.single
        uncopied := shape.uncopied
        copied := fun moved => by
          obtain ⟨one, free, both⟩ := shape.copied moved
          exact ⟨one, free, fun other => ⟨(both other).1, (both other).2.1,
            settled other (both other).2.2⟩⟩
        earlier := shape.earlier
        finished := fun other finished =>
          shape.finished other ((field CopyEnd.state rfl other).symm.trans finished)
        abandoned := fun gone unexplained =>
          (shape.abandoned gone unexplained).imp_right fun absent there =>
            absent ((exists_ _).mp there)
        told := fun other finished =>
          shape.told other ((field CopyEnd.state rfl other).symm.trans finished)
        reported := fun r member ref about => by
          obtain ⟨sameSide, made, ended, exact_⟩ := shape.reported r member ref about
          refine ⟨sameSide, made, fun busy => ended ?_, exact_⟩
          simpa only [CopyEnd.copying, field CopyEnd.state rfl] using busy }

theorem Waitable.drop_meets {s : State layer} {side : Side} {post : Unit → State layer → Prop}
    (free : (s.ends side).syncWaiter = none)
    (holds : post () (s.setEnd side { s.ends side with pendingEvent := none, wset := none })) :
    (Waitable.drop side).Meets (Permitted layer) post s := by
  simp only [Waitable.drop, Streams.join, Program.meets_bind, Program.meets_get, meets_assert,
    Program.meets_modify, CopyEnd.hasSyncWaiter, State.setEnd_ends_same, free]
  refine ⟨fun wrong => absurd rfl wrong, fun _ => ⟨fun wrong => absurd rfl wrong, fun _ => ?_⟩⟩
  simpa only [State.setEnd, Function.update_idem, free] using holds

theorem dropEnd_meets {s : State layer} {kind : Kind} {side : Side} {elem : Option layer.Elem}
    {inst hi : Nat} (stable : Stable s) (running : s.poisoned inst = false) :
    (dropEnd kind side elem inst hi).Meets (Permitted layer) (fun _ s' => Stable s') s := by
  simp only [dropEnd, Program.meets_bind]
  refine requireMayLeave_meets permitted_of_isTrap (removeEnd_meets stable.inv.placement
    fun table held sameKind placement => ?_)
  have live := exists_of_held held running
  have own : (taken s inst side table).ends side = { s.ends side with holder := .removed } :=
    resituated_same
  simp only [Program.meets_get, meets_trapIf, CopyEnd.drop, Program.meets_bind, own]
  refine ⟨fun _ => .trap _, fun _ => ⟨fun _ => .trap _, fun written =>
    ⟨fun _ => .trap _, fun idle => ?_⟩⟩⟩
  have idle : ¬(s.ends side).copying := idle
  have waiterless : (s.ends side).syncWaiter = none := by
    cases waits : (s.ends side).syncWaiter with
    | none => rfl
    | some i => exact absurd (stable.inv.control.sync side i live waits).2.1 idle
  have fits : Resituates s (Function.update s.tables inst table) side
      { s.ends side with holder := .removed } :=
    { placement := placement, state := rfl, event := rfl, live := by simp [Holder.live],
      settled := .inr idle, sync := fun i waits => by simp [waiterless] at waits,
      transit := by simp }
  have inv : Inv none (taken s inst side table) := stable.inv.resituate fits
  have absent : ¬(taken s inst side table).Exists side := by
    simp [State.Exists, own, Holder.live]
  have explained : (taken s inst side table).dropped = false →
      Explained (taken s inst side table) := by
    intro open_ future unexplained
    rcases eq_or_ne side .readable with rfl | writing
    · exact .inr absent
    · have writing : side = .writable := by
        cases side with
        | readable => exact absurd rfl writing
        | writable => rfl
      have done : (s.ends side).state = .done := by
        by_contra unfinished
        exact written ⟨future, writing, unfinished⟩
      rcases (stable.inv.future future).finished side done with moved | gone
      · exact .inl moved
      · change s.dropped = false at open_
        simp [open_] at gone
  have observed : Observed (taken s inst side table) := stable.observed.resituate fits
  have dropped := drop_meets (some side) inv observed explained
    fun other same => Option.some.inj same ▸ absent
  refine dropped.imp fun _ s' after => ?_
  have away : (s'.ends side).holder = .removed := (after.same.holder side).trans (by rw [own])
  have absent' : ¬s'.Exists side := fun there => absent ((after.same.exists_iff side).mp there)
  have idle' : ¬(s'.ends side).copying := fun busy => idle (by
    have before := (after.same.copying_iff side).mp busy
    rw [own] at before
    exact before)
  have free : (s'.ends side).syncWaiter = none := by
    rw [after.same.syncWaiter, own]
    exact waiterless
  refine Waitable.drop_meets free ?_
  simp only [Program.meets_pure]
  refine
    { inv := after.inv.forget absent' idle' away, observed := fun gone other there => ?_,
      gone := fun _ _ => after.gone, resting := fun other => ?_ }
  · have exists_ := (State.setEnd_exists s' side
      { s'.ends side with pendingEvent := none, wset := none } rfl other).mp there
    have different : other ≠ side := by
      rintro rfl
      exact absent' exists_
    rw [State.setEnd_ends_ne s' side _ different]
    exact after.observed gone other exists_
  · rw [State.setEnd_field s' side { s'.ends side with pendingEvent := none, wset := none }
      CopyEnd.state rfl, after.same.state]
    rw [show ((taken s inst side table).ends other).state = (s.ends other).state from
      fits.state_eq other]
    exact stable.resting other

end Polyengine.Intrinsics.StreamInvariant
