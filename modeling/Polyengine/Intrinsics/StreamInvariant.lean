import Polyengine.Intrinsics.StreamRun

/-!
# The invariant of a shared stream or future

Four parts: where the two ends are, who owns the pending slot and the pending events, how the
copies add up, and what a future's single element does. A copy that has begun and has neither
parked nor completed is named by `starting`.
-/

set_option autoImplicit false

namespace Polyengine.Intrinsics.StreamInvariant

open Polyengine.Cabi Polyengine.Library Polyengine.Task Polyengine.Task.Streams
open Polyengine.Intrinsics.StreamBuiltins Polyengine.Intrinsics.StreamRun

variable {layer : ElementLayer}

structure Placement (s : State layer) : Prop where
  tables : ∀ inst, (s.tables inst).Valid
  entry : ∀ inst i side,
    (s.tables inst).entry i = some (.copyEnd side) ↔ (s.ends side).holder = .held inst i
  index : ∀ side inst i, (s.ends side).holder = .held inst i → (s.ends side).index = some i
  transit : ∀ side, (s.ends side).holder = .transit → (s.ends side).index = none

/-- The pending slot belongs to the latest copy of an end that has nothing to report yet, or
only the completion whose delivery clears the slot. -/
structure PendingFits (s : State layer) (p : Pending) : Prop where
  open_ : s.dropped = false
  closure : p.closure = ⟨p.buffer.side, p.buffer⟩
  current : p.buffer = s.currentBuffer p.buffer.side
  live : s.Exists p.buffer.side
  holder : ∃ i, (s.ends p.buffer.side).holder = .held p.inst i
  copying : (s.ends p.buffer.side).copying
  event : (s.ends p.buffer.side).pendingEvent = none ∨
    s.kind = .stream ∧ (s.ends p.buffer.side).pendingEvent =
      some (.streamEvent .completed .resetPending p.buffer)

/-- The abandonment that an idle end passes on: only a readable future end has one. -/
def idleReason (s : State layer) (side : Side) : Option String :=
  if s.kind = .future ∧ side = .readable then s.abandonReason else none

@[simp] theorem idleReason_setEnd (s : State layer) (side other : Side)
    (copyEnd : CopyEnd layer.Elem) :
    idleReason (s.setEnd side copyEnd) other = idleReason s other := rfl

/-- What a pending event says about the end that holds it. -/
def EventFits (starting : Option Side) (s : State layer) (side : Side) : PendingEvent → Prop
  | .streamEvent result reclaim buffer =>
      s.kind = .stream ∧ (s.ends side).copying ∧ buffer = s.currentBuffer side ∧
        (result = .dropped → s.dropped = true) ∧
        (reclaim = .resetPending → ∃ p, s.pending = some p ∧ p.buffer.side = side)
  | .futureEvent result buffer =>
      s.kind = .future ∧ (s.ends side).copying ∧ buffer = s.currentBuffer side ∧
        ((s.buffers buffer).remain = 0 ↔ result = .completed) ∧
        (result = .dropped → s.dropped = true ∧ side = .writable)
  | .futureAbandoned reason =>
      s.kind = .future ∧ side = .readable ∧ (s.ends side).copying ∧ s.dropped = true ∧
        s.abandonReason = some reason
  | .idleDrop abandonReason =>
      s.dropped = true ∧ ((s.ends side).state = .idle ∨ starting = some side) ∧
        abandonReason = idleReason s side

/-- Who is busy, who is notified and who owns the pending slot. -/
structure Control (starting : Option Side) (s : State layer) : Prop where
  pending : ∀ p, s.pending = some p → PendingFits s p
  parked : ∀ side, s.Exists side → (s.ends side).copying →
    (s.ends side).pendingEvent = none → starting ≠ some side →
    ∃ p, s.pending = some p ∧ p.buffer.side = side
  event : ∀ side event, s.Exists side → (s.ends side).pendingEvent = some event →
    EventFits starting s side event
  starts : ∀ side, starting = some side →
    s.Exists side ∧ (s.ends side).copying ∧ 0 < s.copies side ∧
      (∀ p, s.pending = some p → p.buffer.side ≠ side) ∧
      ((s.ends side).pendingEvent = none ∨
        ∃ reason, (s.ends side).pendingEvent = some (.idleDrop reason))
  sync : ∀ side i, s.Exists side → (s.ends side).syncWaiter = some i →
    starting ≠ some side ∧ (s.ends side).copying ∧ (s.ends side).wset = none ∧
      (s.ends side).index = some i
  transit : ∀ side, (s.ends side).holder = .transit →
    (s.ends side).state = .idle ∧ (s.ends side).wset = none ∧ (s.ends side).syncWaiter = none

/-- Every end that exists knows, or is about to learn, that its peer is gone. -/
def Observed (s : State layer) : Prop :=
  s.dropped = true → ∀ side, s.Exists side →
    (s.ends side).state = .done ∨ (s.ends side).pendingEvent.isSome = true

/-- An end that no running guest can reach any more has dropped the shared object. -/
def Gone (s : State layer) : Prop := ∀ side, ¬s.Exists side → s.dropped = true

/-- No cancellation is under way between two builtins. -/
def Resting (s : State layer) : Prop := ∀ side, (s.ends side).state ≠ .cancellingCopy

/-! ## The accounts of the copies -/

/-- How many elements the transfers moved out of, or into, one buffer. -/
def movedThrough (transfers : List (Transfer layer)) (ref : BufferRef) : Nat :=
  ((transfers.filter fun t => t.source = ref ∨ t.target = ref).map (·.values.length)).sum

/-- Two views of one buffer that may differ in the cursor. -/
structure SameArea (buffer other : GuestBuffer layer.Elem) : Prop where
  t : other.t = buffer.t
  inst : other.inst = buffer.inst
  memory : other.memory = buffer.memory
  length : other.length = buffer.length
  base : other.base = buffer.base

/-- The cursor of a buffer stands right behind the elements it has moved. -/
def CursorFits (memories : Nat → MemInst) (buffer : GuestBuffer layer.Elem) : Prop :=
  ∀ elem, buffer.t = some elem →
    buffer.ptr = buffer.base +
      buffer.progress * layer.elemSize elem (memories buffer.memory).ptrType

/-- A transfer read its elements at the source's cursor, in the memory of that moment, and wrote
them at the target's cursor. -/
structure Transfer.Faithful (t : Transfer layer) : Prop where
  loaded : ∀ elem, t.sourceBuffer.t = some elem →
    layer.loadListFromValidRange t.sourceBuffer.inst (t.before t.sourceBuffer.memory) elem
      t.sourceBuffer.ptr t.values.length = .ok t.values
  blank : t.sourceBuffer.t = none → t.values = List.replicate t.values.length layer.null
  stored : ∀ elem, t.targetBuffer.t = some elem →
    layer.storeListIntoValidRange t.targetBuffer.inst elem (t.before t.targetBuffer.memory)
      t.targetBuffer.ptr t.values = .ok (t.after t.targetBuffer.memory)

/-- A transfer continued both buffers where the earlier transfers had left them. -/
structure Transfer.Traced (s : State layer) (earlier : List (Transfer layer))
    (t : Transfer layer) : Prop where
  faithful : Transfer.Faithful t
  sourceArea : SameArea (s.buffers t.source) t.sourceBuffer
  targetArea : SameArea (s.buffers t.target) t.targetBuffer
  sourceProgress : t.sourceBuffer.progress = movedThrough earlier t.source
  targetProgress : t.targetBuffer.progress = movedThrough earlier t.target
  sourceCursor : CursorFits t.before t.sourceBuffer
  targetCursor : CursorFits t.before t.targetBuffer

/-- The element count of every event that one side's guest received, added up. -/
def reportedTotal (s : State layer) (side : Side) : Nat :=
  ((s.reports.filter fun r => r.side = side).map fun r => r.event.payload >>> 4).sum

/-- The progress of the copy that has not been reported yet. -/
def unreported (s : State layer) (side : Side) : Nat :=
  if (s.ends side).copying then (s.buffers (s.currentBuffer side)).progress else 0

def copiedTotal (s : State layer) (side : Side) : Nat :=
  ((List.range (s.copies side)).map fun n => (s.buffers ⟨side, n⟩).progress).sum

/-- The buffers, the transfers between them and the reports about them agree. -/
structure Accounting (s : State layer) : Prop where
  busy : ∀ side, (s.ends side).copying → 0 < s.copies side
  ends_ : ∀ t ∈ s.transfers,
    (t.source.side = .writable ∧ t.source.number < s.copies .writable) ∧
      t.target.side = .readable ∧ t.target.number < s.copies .readable
  ordered : s.transfers.Pairwise fun earlier later =>
    earlier.source.number ≤ later.source.number ∧ earlier.target.number ≤ later.target.number
  progress : ∀ ref, (s.buffers ref).progress = movedThrough s.transfers ref
  bounded : ∀ ref, (s.buffers ref).progress ≤ (s.buffers ref).length ∧
    (s.buffers ref).length ≤ bufferMaxLength
  cursor : ∀ ref, CursorFits s.memories (s.buffers ref)
  traced : ∀ earlier t later, s.transfers = earlier ++ t :: later → Transfer.Traced s earlier t
  totals : s.kind = .stream → ∀ side,
    copiedTotal s side = reportedTotal s side + unreported s side

/-! ## The single element of a future -/

/-- The copy of an end is over and reported as completed, or about to be. -/
def Settled (s : State layer) (side : Side) : Prop :=
  ((s.ends side).state = .done ∧ ∃ r ∈ s.reports, r.copy = some (s.currentBuffer side) ∧
      r.event.payload = CopyResult.completed.code) ∨
    ((s.ends side).copying ∧
      (s.ends side).pendingEvent = some (.futureEvent .completed (s.currentBuffer side)))

/-- What a future's element has done, and what the two guests were told about it. -/
structure FutureShape (s : State layer) : Prop where
  single : ∀ ref : BufferRef, ref.number < s.copies ref.side → (s.buffers ref).length = 1
  uncopied : s.transfers = [] → ∀ ref, (s.buffers ref).progress = 0
  copied : s.transfers ≠ [] → s.transfers.length = 1 ∧ s.pending = none ∧
    ∀ side, 0 < s.copies side ∧ (s.buffers (s.currentBuffer side)).progress = 1 ∧ Settled s side
  earlier : ∀ ref : BufferRef, ref ≠ s.currentBuffer ref.side → (s.buffers ref).progress = 0
  finished : ∀ side, (s.ends side).state = .done → s.transfers ≠ [] ∨ s.dropped = true
  abandoned : s.dropped = true → s.abandonReason = none →
    s.transfers ≠ [] ∨ ¬s.Exists .readable
  told : ∀ side, (s.ends side).state = .done →
    ∃ r ∈ s.reports, r.side = side ∧ (r.event.payload = CopyResult.completed.code ∨
      r.event.payload = CopyResult.dropped.code)
  reported : ∀ r ∈ s.reports, ∀ ref, r.copy = some ref →
    ref.side = r.side ∧ ref.number < s.copies ref.side ∧
      ((s.ends ref.side).copying → ref ≠ s.currentBuffer ref.side) ∧
      (r.event.payload = CopyResult.completed.code ↔ (s.buffers ref).progress = 1)

/-- Everything that holds of a shared object in the course of a builtin. -/
structure Inv (starting : Option Side) (s : State layer) : Prop where
  placement : Placement s
  control : Control starting s
  accounting : Accounting s
  future : s.kind = .future → FutureShape s

/-- Everything that holds of a shared object between two builtins. -/
structure Stable (s : State layer) : Prop where
  inv : Inv none s
  observed : Observed s
  gone : Gone s
  resting : Resting s

/-! ## The control part under elementary changes -/

/-- Two states that the control part cannot tell apart. -/
structure SameControl (s s' : State layer) : Prop where
  kind : s'.kind = s.kind
  dropped : s'.dropped = s.dropped
  abandonReason : s'.abandonReason = s.abandonReason
  pending : s'.pending = s.pending
  copies : s'.copies = s.copies
  poisoned : s'.poisoned = s.poisoned
  copying : ∀ side, (s'.ends side).copying ↔ (s.ends side).copying
  idle : ∀ side, (s'.ends side).state = .idle ↔ (s.ends side).state = .idle
  event : ∀ side, (s'.ends side).pendingEvent = (s.ends side).pendingEvent
  wset : ∀ side, (s'.ends side).wset = (s.ends side).wset
  syncWaiter : ∀ side, (s'.ends side).syncWaiter = (s.ends side).syncWaiter
  index : ∀ side, (s'.ends side).index = (s.ends side).index
  holder : ∀ side, (s'.ends side).holder = (s.ends side).holder
  remain : ∀ side result buffer, s.Exists side →
    (s.ends side).pendingEvent = some (.futureEvent result buffer) →
    (s'.buffers buffer).remain = (s.buffers buffer).remain

namespace SameControl

variable {s s' : State layer}

theorem exists_iff (same : SameControl s s') (side : Side) : s'.Exists side ↔ s.Exists side := by
  simp only [State.Exists, same.holder, same.poisoned]

theorem currentBuffer_eq (same : SameControl s s') (side : Side) :
    s'.currentBuffer side = s.currentBuffer side := by
  simp only [State.currentBuffer, same.copies]

theorem pendingFits (same : SameControl s s') {p : Pending} (fits : PendingFits s p) :
    PendingFits s' p where
  open_ := same.dropped.trans fits.open_
  closure := fits.closure
  current := fits.current.trans (same.currentBuffer_eq _).symm
  live := (same.exists_iff _).mpr fits.live
  holder := by simpa only [same.holder] using fits.holder
  copying := (same.copying _).mpr fits.copying
  event := by simpa only [same.event, same.kind] using fits.event

theorem eventFits (same : SameControl s s') {starting : Option Side} {side : Side}
    {event : PendingEvent} (live : s.Exists side)
    (armed : (s.ends side).pendingEvent = some event)
    (fits : EventFits starting s side event) : EventFits starting s' side event := by
  cases event with
  | streamEvent result reclaim buffer =>
      simpa only [EventFits, same.kind, same.copying, same.currentBuffer_eq, same.dropped,
        same.pending] using fits
  | futureEvent result buffer =>
      simpa only [EventFits, same.kind, same.copying, same.currentBuffer_eq, same.dropped,
        same.remain side result buffer live armed] using fits
  | futureAbandoned reason =>
      simpa only [EventFits, same.kind, same.copying, same.dropped, same.abandonReason]
        using fits
  | idleDrop abandonReason =>
      simpa only [EventFits, idleReason, same.kind, same.idle, same.dropped, same.abandonReason]
        using fits

end SameControl

theorem Control.congr {starting : Option Side} {s s' : State layer} (control : Control starting s)
    (same : SameControl s s') : Control starting s' where
  pending p parked := same.pendingFits (control.pending p (same.pending ▸ parked))
  parked side live busy quiet other := by
    rw [same.pending]
    exact control.parked side ((same.exists_iff side).mp live) ((same.copying side).mp busy)
      (same.event side ▸ quiet) other
  event side event live armed := by
    rw [same.event] at armed
    have before := (same.exists_iff side).mp live
    exact same.eventFits before armed (control.event side event before armed)
  starts side begun := by
    obtain ⟨live, busy, made, foreign, quiet⟩ := control.starts side begun
    refine ⟨(same.exists_iff side).mpr live, (same.copying side).mpr busy, ?_, ?_, ?_⟩
    · rw [same.copies]; exact made
    · rw [same.pending]; exact foreign
    · rw [same.event]; exact quiet
  sync side i live waits := by
    rw [same.syncWaiter] at waits
    rw [same.copying, same.wset, same.index]
    exact control.sync side i ((same.exists_iff side).mp live) waits
  transit side moving := by
    rw [same.holder] at moving
    rw [same.idle, same.wset, same.syncWaiter]
    exact control.transit side moving

/-- `s` with another pending event at one end. -/
def withEvent (s : State layer) (side : Side) (event : PendingEvent) : State layer :=
  s.setEnd side { s.ends side with pendingEvent := some event }

section WithEvent

variable (s : State layer) (side : Side) (event : PendingEvent)

@[simp] theorem withEvent_same :
    ((withEvent s side event).ends side).pendingEvent = some event := by simp [withEvent]

theorem withEvent_event_ne {other : Side} (different : other ≠ side) :
    ((withEvent s side event).ends other).pendingEvent = (s.ends other).pendingEvent := by
  simp [withEvent, State.setEnd_ends_ne s side _ different]

@[simp] theorem withEvent_state (other : Side) :
    ((withEvent s side event).ends other).state = (s.ends other).state :=
  State.setEnd_field s side { s.ends side with pendingEvent := some event } CopyEnd.state rfl other

@[simp] theorem withEvent_copying (other : Side) :
    ((withEvent s side event).ends other).copying ↔ (s.ends other).copying := by
  simp only [CopyEnd.copying, withEvent_state]

@[simp] theorem withEvent_wset (other : Side) :
    ((withEvent s side event).ends other).wset = (s.ends other).wset :=
  State.setEnd_field s side { s.ends side with pendingEvent := some event } CopyEnd.wset rfl other

@[simp] theorem withEvent_syncWaiter (other : Side) :
    ((withEvent s side event).ends other).syncWaiter = (s.ends other).syncWaiter :=
  State.setEnd_field s side { s.ends side with pendingEvent := some event } CopyEnd.syncWaiter
    rfl other

@[simp] theorem withEvent_index (other : Side) :
    ((withEvent s side event).ends other).index = (s.ends other).index :=
  State.setEnd_field s side { s.ends side with pendingEvent := some event } CopyEnd.index rfl other

@[simp] theorem withEvent_holder (other : Side) :
    ((withEvent s side event).ends other).holder = (s.ends other).holder :=
  State.setEnd_field s side { s.ends side with pendingEvent := some event } CopyEnd.holder
    rfl other

@[simp] theorem withEvent_exists (other : Side) :
    (withEvent s side event).Exists other ↔ s.Exists other :=
  State.setEnd_exists s side { s.ends side with pendingEvent := some event } rfl other

@[simp] theorem withEvent_kind : (withEvent s side event).kind = s.kind := rfl
@[simp] theorem withEvent_dropped : (withEvent s side event).dropped = s.dropped := rfl
@[simp] theorem withEvent_abandonReason :
    (withEvent s side event).abandonReason = s.abandonReason := rfl
@[simp] theorem withEvent_pending : (withEvent s side event).pending = s.pending := rfl
@[simp] theorem withEvent_copies : (withEvent s side event).copies = s.copies := rfl
@[simp] theorem withEvent_buffers : (withEvent s side event).buffers = s.buffers := rfl
@[simp] theorem withEvent_idleReason (other : Side) :
    idleReason (withEvent s side event) other = idleReason s other := rfl
@[simp] theorem withEvent_currentBuffer (other : Side) :
    (withEvent s side event).currentBuffer other = s.currentBuffer other := rfl

theorem eventFits_withEvent {starting : Option Side} {other : Side} {armed : PendingEvent} :
    EventFits starting (withEvent s side event) other armed ↔
      EventFits starting s other armed := by
  cases armed <;> simp [EventFits]

end WithEvent

theorem Control.arm {starting next : Option Side} {s : State layer} {side : Side}
    {event : PendingEvent} (control : Control starting s)
    (fits : s.Exists side → EventFits next s side event)
    (owned : ∀ p, s.pending = some p → p.buffer.side = side →
      s.kind = .stream ∧ event = .streamEvent .completed .resetPending p.buffer)
    (keeps : ∀ other, next = some other → starting = some other ∧ other ≠ side)
    (covers : ∀ other, starting = some other → other ≠ side → next = some other) :
    Control next (withEvent s side event) where
  pending p parked := by
    have before := control.pending p parked
    refine ⟨before.open_, before.closure, before.current, ?_, ?_, ?_, ?_⟩
    · simpa using before.live
    · simpa using before.holder
    · simpa using before.copying
    · by_cases own : p.buffer.side = side
      · obtain ⟨stream, shape⟩ := owned p parked own
        exact .inr ⟨stream, by rw [own, withEvent_same, shape]⟩
      · simpa [withEvent_event_ne s side event own] using before.event
  parked other live busy quiet other' := by
    by_cases own : other = side
    · simp [own] at quiet
    · rw [withEvent_event_ne s side event own] at quiet
      exact control.parked other (by simpa using live) (by simpa using busy) quiet
        fun begun => other' (covers other begun own)
  event other armed live present := by
    rw [eventFits_withEvent]
    by_cases own : other = side
    · subst own
      rw [withEvent_same, Option.some.injEq] at present
      exact present ▸ fits ((withEvent_exists s other event other).mp live)
    · rw [withEvent_event_ne s side event own] at present
      have before := control.event other armed (by simpa using live) present
      cases armed with
      | idleDrop reason =>
          obtain ⟨dropped, idle, reasons⟩ := before
          exact ⟨dropped, idle.imp_right fun begun => covers other begun own, reasons⟩
      | streamEvent result reclaim buffer => exact before
      | futureEvent result buffer => exact before
      | futureAbandoned reason => exact before
  starts other begun := by
    obtain ⟨before, own⟩ := keeps other begun
    obtain ⟨live, busy, made, foreign, quiet⟩ := control.starts other before
    refine ⟨by simpa using live, by simpa using busy, made, foreign, ?_⟩
    rwa [withEvent_event_ne s side event own]
  sync other i live waits := by
    obtain ⟨begun, busy, alone, place⟩ :=
      control.sync other i (by simpa using live) (by simpa using waits)
    exact ⟨fun now => begun (keeps other now).1, by simpa using busy, by simpa using alone,
      by simpa using place⟩
  transit other moving := by
    simpa using control.transit other (by simpa using moving)

/-- The pending slot is cleared and its owner gets an event that does not clear it again. The
shared object may be marked dropped in the same breath. -/
theorem Control.notify {starting : Option Side} {s : State layer} {p : Pending}
    {event : PendingEvent} (control : Control starting s) (dropped : Bool)
    (parked : s.pending = some p)
    (fits : EventFits starting { s with pending := none, dropped := dropped } p.buffer.side event) :
    Control starting
      (withEvent { s with pending := none, dropped := dropped } p.buffer.side event) := by
  have slot := control.pending p parked
  exact
    { pending := fun q impossible => by simp at impossible
      parked := fun other live busy quiet begun => by
        by_cases own : other = p.buffer.side
        · simp [own] at quiet
        · rw [withEvent_event_ne _ _ _ own] at quiet
          obtain ⟨q, found, side⟩ := control.parked other ((withEvent_exists _ _ _ other).mp live)
            (by simpa using busy) quiet begun
          rw [parked, Option.some.injEq] at found
          exact absurd (found ▸ side).symm own
      event := fun other armed live present => by
        rw [eventFits_withEvent]
        by_cases own : other = p.buffer.side
        · subst own
          rw [withEvent_same, Option.some.injEq] at present
          exact present ▸ fits
        · rw [withEvent_event_ne _ _ _ own] at present
          have before := control.event other armed ((withEvent_exists _ _ _ other).mp live) present
          have still : s.dropped = true → dropped = true := fun gone => by
            simp [slot.open_] at gone
          cases armed with
          | streamEvent result reclaim buffer =>
              obtain ⟨stream, busy, current, late, clears⟩ := before
              refine ⟨stream, busy, current, fun result => still (late result), fun reset => ?_⟩
              obtain ⟨q, found, side⟩ := clears reset
              rw [parked, Option.some.injEq] at found
              exact absurd (found ▸ side).symm own
          | futureEvent result buffer =>
              obtain ⟨future, busy, current, full, late⟩ := before
              exact ⟨future, busy, current, full,
                fun result => ⟨still (late result).1, (late result).2⟩⟩
          | futureAbandoned reason =>
              obtain ⟨future, readable, busy, gone, recorded⟩ := before
              exact ⟨future, readable, busy, still gone, recorded⟩
          | idleDrop reason =>
              obtain ⟨gone, idle, reasons⟩ := before
              exact ⟨still gone, idle, reasons⟩
      starts := fun other begun => by
        obtain ⟨live, busy, made, foreign, quiet⟩ := control.starts other begun
        have own : other ≠ p.buffer.side := fun same => foreign p parked same.symm
        refine ⟨(withEvent_exists _ _ _ other).mpr live, by simpa using busy, made,
          fun q impossible => ?_, ?_⟩
        · simp at impossible
        · rwa [withEvent_event_ne _ _ _ own]
      sync := fun other i live waits => by
        simpa using control.sync other i ((withEvent_exists _ _ _ other).mp live)
          (by simpa using waits)
      transit := fun other moving => by
        simpa using control.transit other (by simpa using moving) }

/-! ## The other parts under elementary changes -/

theorem Placement.congr {s s' : State layer} (placement : Placement s)
    (tables : s'.tables = s.tables) (holder : ∀ side, (s'.ends side).holder = (s.ends side).holder)
    (index : ∀ side, (s'.ends side).index = (s.ends side).index) : Placement s' where
  tables inst := tables ▸ placement.tables inst
  entry inst i side := by rw [tables, holder]; exact placement.entry inst i side
  index side inst i held := by
    rw [holder] at held
    rw [index]
    exact placement.index side inst i held
  transit side moving := by
    rw [holder] at moving
    rw [index]
    exact placement.transit side moving

theorem Placement.unpark {s : State layer} (placement : Placement s) (dropped : Bool) :
    Placement { s with pending := none, dropped := dropped } :=
  placement.congr rfl (fun _ => rfl) fun _ => rfl

theorem CursorFits.congr {memories memories' : Nat → MemInst} {buffer : GuestBuffer layer.Elem}
    (fits : CursorFits memories buffer)
    (addrType : ∀ memory, (memories' memory).addrType = (memories memory).addrType) :
    CursorFits memories' buffer := by
  intro elem present
  simpa only [MemInst.ptrType, addrType] using fits elem present

/-- The accounts do not depend on anything else. -/
structure SameAccounts (s s' : State layer) : Prop where
  kind : s'.kind = s.kind
  copies : s'.copies = s.copies
  buffers : s'.buffers = s.buffers
  transfers : s'.transfers = s.transfers
  reports : s'.reports = s.reports
  copying : ∀ side, (s'.ends side).copying ↔ (s.ends side).copying
  addrType : ∀ memory, (s'.memories memory).addrType = (s.memories memory).addrType

theorem Transfer.Traced.congr {s s' : State layer} {earlier : List (Transfer layer)}
    {t : Transfer layer} (traced : Transfer.Traced s earlier t)
    (source : SameArea (s'.buffers t.source) (s.buffers t.source))
    (target : SameArea (s'.buffers t.target) (s.buffers t.target)) :
    Transfer.Traced s' earlier t where
  faithful := traced.faithful
  sourceArea :=
    { t := traced.sourceArea.t.trans source.t
      inst := traced.sourceArea.inst.trans source.inst
      memory := traced.sourceArea.memory.trans source.memory
      length := traced.sourceArea.length.trans source.length
      base := traced.sourceArea.base.trans source.base }
  targetArea :=
    { t := traced.targetArea.t.trans target.t
      inst := traced.targetArea.inst.trans target.inst
      memory := traced.targetArea.memory.trans target.memory
      length := traced.targetArea.length.trans target.length
      base := traced.targetArea.base.trans target.base }
  sourceProgress := traced.sourceProgress
  targetProgress := traced.targetProgress
  sourceCursor := traced.sourceCursor
  targetCursor := traced.targetCursor

theorem SameArea.refl (buffer : GuestBuffer layer.Elem) : SameArea buffer buffer :=
  ⟨rfl, rfl, rfl, rfl, rfl⟩

theorem Accounting.congr {s s' : State layer} (accounting : Accounting s)
    (same : SameAccounts s s') : Accounting s' where
  busy side copying := by
    rw [same.copies]
    exact accounting.busy side ((same.copying side).mp copying)
  ends_ t member := by
    rw [same.copies]
    exact accounting.ends_ t (same.transfers ▸ member)
  ordered := same.transfers ▸ accounting.ordered
  progress ref := by rw [same.buffers, same.transfers]; exact accounting.progress ref
  bounded ref := by rw [same.buffers]; exact accounting.bounded ref
  cursor ref := by rw [same.buffers]; exact (accounting.cursor ref).congr same.addrType
  traced earlier t later split := by
    have before := accounting.traced earlier t later (same.transfers ▸ split)
    exact before.congr (by rw [same.buffers]; exact SameArea.refl _)
      (by rw [same.buffers]; exact SameArea.refl _)
  totals stream side := by
    have before := accounting.totals (same.kind ▸ stream) side
    simpa only [copiedTotal, reportedTotal, unreported, State.currentBuffer, same.copies,
      same.buffers, same.reports, same.copying] using before

theorem Accounting.unpark {s : State layer} (accounting : Accounting s) (dropped : Bool) :
    Accounting { s with pending := none, dropped := dropped } :=
  accounting.congr ⟨rfl, rfl, rfl, rfl, rfl, fun _ => Iff.rfl, fun _ => rfl⟩

/-- The element of a future is untouched by a change that keeps the copies, the states and every
undelivered completion. -/
theorem FutureShape.congr {s s' : State layer} (shape : FutureShape s)
    (copies : s'.copies = s.copies) (buffers : s'.buffers = s.buffers)
    (transfers : s'.transfers = s.transfers) (reports : s'.reports = s.reports)
    (copying : ∀ side, (s'.ends side).copying ↔ (s.ends side).copying)
    (done : ∀ side, (s'.ends side).state = .done ↔ (s.ends side).state = .done)
    (event : ∀ side ref, (s.ends side).pendingEvent = some (.futureEvent .completed ref) →
      (s'.ends side).pendingEvent = some (.futureEvent .completed ref))
    (pending : s.transfers ≠ [] → s'.pending = none)
    (dropped : s.dropped = true → s'.dropped = true)
    (abandoned : s'.dropped = true → s'.abandonReason = none →
      s.transfers ≠ [] ∨ ¬s'.Exists .readable) : FutureShape s' := by
  have current : ∀ side, s'.currentBuffer side = s.currentBuffer side := fun side => by
    simp only [State.currentBuffer, copies]
  refine
    { single := fun ref made => ?_, uncopied := fun none_ ref => ?_, copied := fun some_ => ?_,
      earlier := fun ref older => ?_, finished := fun side finished => ?_,
      abandoned := fun gone unexplained => ?_, told := fun side finished => ?_,
      reported := fun r member ref about => ?_ }
  · rw [buffers]
    exact shape.single ref (copies ▸ made)
  · rw [buffers]
    exact shape.uncopied (transfers ▸ none_) ref
  · rw [transfers] at some_ ⊢
    obtain ⟨one, _, both⟩ := shape.copied some_
    refine ⟨one, pending some_, fun side => ?_⟩
    obtain ⟨made, full, settled⟩ := both side
    rw [copies, buffers, current]
    refine ⟨made, full, ?_⟩
    unfold Settled
    rw [done, reports, current, copying]
    exact settled.imp_right fun waiting => ⟨waiting.1, event side _ waiting.2⟩
  · rw [buffers]
    exact shape.earlier ref (current ref.side ▸ older)
  · rw [done] at finished
    rw [transfers]
    exact (shape.finished side finished).imp_right dropped
  · rw [transfers]
    exact abandoned gone unexplained
  · rw [done] at finished
    rw [reports]
    exact shape.told side finished
  · rw [reports] at member
    rw [copies, buffers, current, copying]
    exact shape.reported r member ref about

end Polyengine.Intrinsics.StreamInvariant
