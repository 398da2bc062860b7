import Polyengine.Intrinsics.StreamCopyInvariant

/-!
# Deliveries keep the invariant

An event is delivered by the copy builtin itself, by a waitable set, by the frame of a blocked
copy or by a cancellation. What the four have in common is stated once.
-/

set_option autoImplicit false

namespace Polyengine.Intrinsics.StreamInvariant

open Polyengine.Cabi Polyengine.Library Polyengine.Task Polyengine.Task.Streams
open Polyengine.Intrinsics.StreamBuiltins Polyengine.Intrinsics.StreamRun

variable {layer : ElementLayer}

/-! ## Payload words -/

theorem CopyResult.code_lt (result : CopyResult) : result.code < 16 := by
  cases result <;> decide

theorem CopyResult.code_inj {result other : CopyResult} :
    result.code = other.code ↔ result = other := by
  cases result <;> cases other <;> decide

theorem packStreamPayload_eq {delivered : CopyResult} {progress : Nat}
    (small : progress ≤ bufferMaxLength) :
    packStreamPayload delivered progress = progress * 16 + delivered.code := by
  have code := CopyResult.code_lt delivered
  have joined : delivered.code ||| progress <<< 4 = progress * 16 + delivered.code := by
    rw [Nat.or_comm, ← Nat.shiftLeft_add_eq_or_of_lt (by simpa using code), Nat.shiftLeft_eq]
  rw [packStreamPayload, joined]
  simp only [bufferMaxLength] at small
  omega

theorem packStreamPayload_count {delivered : CopyResult} {progress : Nat}
    (small : progress ≤ bufferMaxLength) :
    packStreamPayload delivered progress >>> 4 = progress := by
  have code := CopyResult.code_lt delivered
  rw [packStreamPayload_eq small, Nat.shiftRight_eq_div_pow]
  omega

theorem and_count_mask {payload : Nat} (word : payload < 2 ^ 32) :
    payload &&& 0xfffffff0 = payload / 16 * 16 := by
  have mask : (0xfffffff0 : Nat) = (2 ^ 28 - 1) <<< 4 := by decide
  have shifted : payload / 16 * 16 = (payload >>> 4) <<< 4 := by
    rw [Nat.shiftRight_eq_div_pow, Nat.shiftLeft_eq]
  rw [mask, shifted]
  apply Nat.eq_of_testBit_eq
  intro i
  rw [Nat.testBit_and, Nat.testBit_shiftLeft, Nat.testBit_shiftLeft, Nat.testBit_two_pow_sub_one,
    Nat.testBit_shiftRight]
  by_cases counting : 4 ≤ i
  · have position : 4 + (i - 4) = i := by omega
    rw [position]
    by_cases inWord : i - 4 < 28
    · simp [counting, inWord]
    · have high : payload.testBit i = false := by
        apply Nat.testBit_lt_two_pow
        exact Nat.lt_of_lt_of_le word (Nat.pow_le_pow_right (by decide) (by omega))
      simp [high]
  · simp [counting]

theorem or_cancelled {payload : Nat} (word : payload < 2 ^ 32) :
    (payload &&& 0xfffffff0) ||| CopyResult.cancelled.code = payload / 16 * 16 + 2 := by
  rw [and_count_mask word]
  have shifted : payload / 16 * 16 = (payload / 16) <<< 4 := by rw [Nat.shiftLeft_eq]
  rw [shifted, CopyResult.code, ← Nat.shiftLeft_add_eq_or_of_lt (by decide)]

theorem supersedeCompleted_count (kind : Kind) {payload : Nat} (word : payload < 2 ^ 32) :
    supersedeCompleted kind payload >>> 4 = payload >>> 4 := by
  unfold supersedeCompleted
  split
  · rw [or_cancelled word, Nat.shiftRight_eq_div_pow, Nat.shiftRight_eq_div_pow]
    omega
  · rfl

theorem supersedeCompleted_le (kind : Kind) {payload limit : Nat} (word : payload < 2 ^ 32)
    (bound : payload ≤ limit * 16 + 2) : supersedeCompleted kind payload ≤ limit * 16 + 2 := by
  unfold supersedeCompleted
  split
  · rw [or_cancelled word]
    omega
  · exact bound

theorem supersedeCompleted_future (payload : Nat) :
    supersedeCompleted .future payload = payload := by
  simp [supersedeCompleted]

theorem packStreamPayload_lt (delivered : CopyResult) (progress : Nat) :
    packStreamPayload delivered progress < 2 ^ 32 := Nat.mod_lt _ (by decide)

/-! ## What a delivery does -/

/-- The result that a stream event reports once the peer may have dropped its end. -/
def streamResult (s : State layer) (result : CopyResult) : CopyResult :=
  if s.dropped = true then .dropped else result

/-- The result that a future event reports: only a cancellation gives way to a drop. -/
def futureResult (s : State layer) (result : CopyResult) : CopyResult :=
  if result = .cancelled ∧ s.dropped = true then .dropped else result

/-- The copy an event reports on, the tuple, whether the pending slot is cleared, and the state
the end is left in. -/
inductive Delivery (s : State layer) (side : Side) :
    Option BufferRef → EventTuple → Bool → CopyState → Prop where
  | stream {result : CopyResult} {reclaim : Reclaim} {buffer : BufferRef} {index : Nat}
      (armed : (s.ends side).pendingEvent = some (.streamEvent result reclaim buffer))
      (place : (s.ends side).index = some index) :
      Delivery s side (some buffer)
        { code := eventCode .stream side, index,
          payload := packStreamPayload (streamResult s result) (s.buffers buffer).progress }
        (decide (reclaim = .resetPending))
        (if streamResult s result = .dropped then .done else .idle)
  | future {result : CopyResult} {buffer : BufferRef} {index : Nat}
      (armed : (s.ends side).pendingEvent = some (.futureEvent result buffer))
      (place : (s.ends side).index = some index) :
      Delivery s side (some buffer)
        { code := eventCode .future side, index, payload := (futureResult s result).code } false
        (if futureResult s result = .dropped ∨ futureResult s result = .completed then .done
          else .idle)
  | idle {index : Nat}
      (armed : (s.ends side).pendingEvent = some (.idleDrop none))
      (place : (s.ends side).index = some index) :
      Delivery s side none
        { code := eventCode s.kind side, index, payload := CopyResult.dropped.code } false .done

/-- `s` after the event of one end was taken. -/
def consumed (s : State layer) (side : Side) (clears : Bool) (state : CopyState) : State layer :=
  State.setEnd { s with pending := if clears = true then none else s.pending } side
    { s.ends side with pendingEvent := none, state := state }

theorem getPendingEvent_of_fits {s : State layer} {side : Side} {event : PendingEvent}
    {index : Nat} {permitted : Failure → Prop}
    {post : Option BufferRef × EventTuple → State layer → Prop}
    (fits : EventFits none s side event)
    (bounded : ∀ ref, (s.buffers ref).progress ≤ bufferMaxLength)
    (armed : (s.ends side).pendingEvent = some event)
    (place : (s.ends side).index = some index)
    (abandoned : ∀ reason, event = .futureAbandoned reason ∨ event = .idleDrop (some reason) →
      s.kind = .future → side = .readable → s.abandonReason = some reason →
      permitted (futureAbandonTrap reason))
    (delivers : ∀ copy tuple clears state, Delivery s side copy tuple clears state →
      post (copy, tuple) (consumed s side clears state)) :
    (getPendingEvent side).Meets permitted post s := by
  simp only [getPendingEvent, Program.meets_bind, Program.meets_get, armed, Program.meets_modify]
  cases event with
  | streamEvent result reclaim buffer =>
      have delivery := delivers _ _ _ _ (.stream armed place)
      have small := bounded buffer
      have busy : (s.ends side).copying := fits.2.1
      cases reclaim with
      | resetPending =>
          simp only [PendingEvent.call, Streams.streamEvent, resetPending, setState,
            Program.meets_bind, Program.meets_modify, Program.meets_get, meets_assert,
            State.setEnd_ends_same, CopyEnd.copying, place, Program.meets_pure]
          refine ⟨fun idle => absurd busy idle, fun _ => ⟨fun large => absurd small large, fun _ => ?_⟩⟩
          simp only [consumed, State.setEnd, Function.update_idem, streamResult, place,
            PendingEvent.copy?, decide_true, if_true] at delivery ⊢
          exact delivery
      | nothing =>
          simp only [PendingEvent.call, Streams.streamEvent, setState,
            Program.meets_bind, Program.meets_modify, Program.meets_get, meets_assert,
            State.setEnd_ends_same, CopyEnd.copying, place, Program.meets_pure]
          refine ⟨fun idle => absurd busy idle, fun _ => ⟨fun large => absurd small large, fun _ => ?_⟩⟩
          simp only [consumed, State.setEnd, Function.update_idem, streamResult, place,
            PendingEvent.copy?, reduceCtorEq, decide_false, Bool.false_eq_true, if_false] at delivery ⊢
          exact delivery
  | futureEvent result buffer =>
      have delivery := delivers _ _ _ _ (.future armed place)
      have busy : (s.ends side).copying := fits.2.1
      have full := fits.2.2.2.1
      simp only [PendingEvent.call, Streams.futureEvent, setState,
        Program.meets_bind, Program.meets_modify, Program.meets_get, meets_assert,
        State.setEnd_ends_same, CopyEnd.copying, place, Program.meets_pure]
      refine ⟨fun wrong => absurd full wrong, fun _ => ⟨fun idle => absurd busy idle, fun _ => ?_⟩⟩
      simp only [consumed, State.setEnd, Function.update_idem, futureResult, place,
        PendingEvent.copy?, Bool.false_eq_true, if_false] at delivery ⊢
      exact delivery
  | futureAbandoned reason => exact abandoned reason (.inl rfl) fits.1 fits.2.1 fits.2.2.2.2
  | idleDrop abandonReason =>
      cases abandonReason with
      | some reason =>
          have given := fits.2.2
          rw [idleReason] at given
          split at given
          · rename_i reader
            exact abandoned reason (.inr rfl) reader.1 reader.2 given.symm
          · simp at given
      | none =>
          have delivery := delivers _ _ _ _ (.idle armed place)
          simp only [PendingEvent.call, Streams.idleDropEvent, setState,
            Program.meets_bind, Program.meets_modify, Program.meets_get,
            State.setEnd_ends_same, place, Program.meets_pure]
          simp only [consumed, State.setEnd, Function.update_idem, place,
            PendingEvent.copy?, Bool.false_eq_true, if_false] at delivery ⊢
          exact delivery

theorem getPendingEvent_meets {s : State layer} {side : Side} {event : PendingEvent} {index : Nat}
    {permitted : Failure → Prop} {post : Option BufferRef × EventTuple → State layer → Prop}
    (inv : Inv none s) (live : s.Exists side)
    (armed : (s.ends side).pendingEvent = some event)
    (place : (s.ends side).index = some index)
    (abandoned : ∀ reason, event = .futureAbandoned reason ∨ event = .idleDrop (some reason) →
      s.kind = .future → side = .readable → s.abandonReason = some reason →
      permitted (futureAbandonTrap reason))
    (delivers : ∀ copy tuple clears state, Delivery s side copy tuple clears state →
      post (copy, tuple) (consumed s side clears state)) :
    (getPendingEvent side).Meets permitted post s :=
  getPendingEvent_of_fits (inv.control.event side event live armed)
    (fun ref => Nat.le_trans (inv.accounting.bounded ref).1 (inv.accounting.bounded ref).2)
    armed place abandoned delivers

/-! ## What every delivery has in common -/

section Delivery

variable {s : State layer} {side : Side} {copy : Option BufferRef} {tuple : EventTuple}
  {clears : Bool} {state : CopyState}

theorem Control.armed {starting : Option Side} {event : PendingEvent}
    (control : Control starting s) (live : s.Exists side)
    (armed : (s.ends side).pendingEvent = some event) : (s.ends side).state ≠ .done := by
  intro done
  have idle : ¬(s.ends side).copying := by simp [CopyEnd.copying, done]
  have fits := control.event side event live armed
  cases event with
  | streamEvent result reclaim buffer => exact idle fits.2.1
  | futureEvent result buffer => exact idle fits.2.1
  | futureAbandoned reason => exact idle fits.2.2.1
  | idleDrop reason =>
      rcases fits.2.1 with waiting | begun
      · simp [done] at waiting
      · exact idle (control.starts side begun).2.1

theorem Delivery.settles (delivery : Delivery s side copy tuple clears state) :
    state = .done ∨ state = .idle := by
  cases delivery with
  | stream armed place => split <;> simp
  | future armed place => split <;> simp
  | idle armed place => exact .inl rfl

theorem Delivery.observes (delivery : Delivery s side copy tuple clears state)
    (gone : s.dropped = true) : state = .done := by
  cases delivery with
  | stream armed place => simp [streamResult, gone]
  | @future result buffer index armed place =>
      cases result <;> simp [futureResult, gone]
  | idle armed place => rfl

theorem Delivery.clears_iff (delivery : Delivery s side copy tuple clears state)
    (control : Control none s) (live : s.Exists side) :
    clears = true ↔ ∃ p, s.pending = some p ∧ p.buffer.side = side := by
  have own : ∀ event, (s.ends side).pendingEvent = some event →
      (∃ p, s.pending = some p ∧ p.buffer.side = side) →
      ∃ buffer, event = .streamEvent .completed .resetPending buffer := by
    rintro event armed ⟨p, parked, rfl⟩
    rcases (control.pending p parked).event with quiet | ⟨_, shape⟩
    · simp [armed] at quiet
    · exact ⟨p.buffer, by rw [armed, Option.some.injEq] at shape; exact shape⟩
  cases delivery with
  | @stream result reclaim buffer index armed place =>
      constructor
      · intro reset
        exact (control.event side _ live armed).2.2.2.2 (by simpa using reset)
      · intro parked
        obtain ⟨_, shape⟩ := own _ armed parked
        simp only [PendingEvent.streamEvent.injEq] at shape
        simp [shape.2.1]
  | future armed place =>
      refine ⟨by simp, fun parked => ?_⟩
      obtain ⟨_, shape⟩ := own _ armed parked
      simp at shape
  | idle armed place =>
      refine ⟨by simp, fun parked => ?_⟩
      obtain ⟨_, shape⟩ := own _ armed parked
      simp at shape

theorem Delivery.count (delivery : Delivery s side copy tuple clears state) (inv : Inv none s)
    (live : s.Exists side) (stream : s.kind = .stream) :
    tuple.payload >>> 4 = unreported s side := by
  cases delivery with
  | @stream result reclaim buffer index armed place =>
      obtain ⟨_, busy, current, _⟩ := inv.control.event side _ live armed
      have bound := inv.accounting.bounded buffer
      rw [unreported, if_pos busy, ← current]
      exact packStreamPayload_count (Nat.le_trans bound.1 bound.2)
  | future armed place =>
      have future := (inv.control.event side _ live armed).1
      simp [stream] at future
  | idle armed place =>
      have waiting := (inv.control.event side _ live armed).2.1
      have quiet : ¬(s.ends side).copying := by
        rcases waiting with waiting | begun
        · simp [CopyEnd.copying, waiting]
        · simp at begun
      rw [unreported, if_neg quiet]
      change CopyResult.dropped.code >>> 4 = 0
      decide

theorem Delivery.word (delivery : Delivery s side copy tuple clears state) :
    tuple.payload < 2 ^ 32 := by
  cases delivery with
  | stream armed place => exact packStreamPayload_lt _ _
  | future armed place => exact Nat.lt_trans (CopyResult.code_lt _) (by decide)
  | idle armed place => exact Nat.lt_trans (CopyResult.code_lt .dropped) (by decide)

theorem Delivery.payload_le (delivery : Delivery s side copy tuple clears state)
    (accounting : Accounting s) : tuple.payload ≤ bufferMaxLength * 16 + 2 := by
  have code : ∀ result : CopyResult, result.code ≤ 2 := fun result => by cases result <;> decide
  cases delivery with
  | @stream result reclaim buffer index armed place =>
      have bound := accounting.bounded buffer
      have small := Nat.le_trans bound.1 bound.2
      have packed : packStreamPayload (streamResult s result) (s.buffers buffer).progress = _ :=
        packStreamPayload_eq small
      have low := code (streamResult s result)
      change packStreamPayload _ _ ≤ _
      omega
  | future armed place => exact Nat.le_trans (code _) (Nat.le_add_left _ _)
  | idle armed place => exact Nat.le_trans (code .dropped) (Nat.le_add_left _ _)

theorem Delivery.told (delivery : Delivery s side copy tuple clears state)
    (future : s.kind = .future) (inv : Inv none s) (live : s.Exists side) (done : state = .done) :
    tuple.payload = CopyResult.completed.code ∨ tuple.payload = CopyResult.dropped.code := by
  cases delivery with
  | stream armed place =>
      have stream := (inv.control.event side _ live armed).1
      simp [future] at stream
  | future armed place =>
      split at done
      · rename_i final
        rcases final with late | completed
        · exact .inr (congrArg CopyResult.code late)
        · exact .inl (congrArg CopyResult.code completed)
      · simp at done
  | idle armed place => exact .inr rfl

theorem Delivery.tuple_eq (delivery : Delivery s side copy tuple clears state)
    (control : Control none s) (live : s.Exists side) :
    tuple.code = eventCode s.kind side ∧ some tuple.index = (s.ends side).index := by
  cases delivery with
  | stream armed place =>
      exact ⟨congrArg (eventCode · side) (control.event side _ live armed).1.symm, place.symm⟩
  | future armed place =>
      exact ⟨congrArg (eventCode · side) (control.event side _ live armed).1.symm, place.symm⟩
  | idle armed place => exact ⟨rfl, place.symm⟩

/-- The copy a future's event reports on is the end's latest, and it is reported as completed
exactly when its element moved. -/
theorem Delivery.reports (delivery : Delivery s side copy tuple clears state)
    (future : s.kind = .future) (inv : Inv none s) (live : s.Exists side) {ref : BufferRef}
    (about : copy = some ref) :
    ref = s.currentBuffer side ∧ (s.ends side).copying ∧
      (tuple.payload = CopyResult.completed.code ↔ (s.buffers ref).progress = 1) ∧
      (tuple.payload = CopyResult.completed.code →
        (s.ends side).pendingEvent = some (.futureEvent .completed ref) ∧ state = .done) := by
  cases delivery with
  | stream armed place =>
      have stream := (inv.control.event side _ live armed).1
      simp [future] at stream
  | @future result buffer index armed place =>
      obtain rfl : buffer = ref := Option.some.inj about
      obtain ⟨_, busy, current, full, _⟩ := inv.control.event side _ live armed
      have made := inv.accounting.busy side busy
      have single : (s.buffers buffer).length = 1 := by
        rw [current]
        exact (inv.future future).single _ (Nat.sub_lt made Nat.one_pos)
      have completed : futureResult s result = .completed ↔ result = .completed := by
        cases result <;> simp [futureResult]
        split <;> simp
      have bound := (inv.accounting.bounded buffer).1
      rw [GuestBuffer.remain, single] at full
      rw [single] at bound
      refine ⟨current, busy, ?_, fun told => ?_⟩
      · change (futureResult s result).code = _ ↔ _
        rw [CopyResult.code_inj, completed, ← full]
        omega
      · have result' := completed.mp (CopyResult.code_inj.mp told)
        subst result'
        exact ⟨armed, by simp [completed.mpr rfl]⟩
  | idle armed place => simp at about

end Delivery

/-! ## The state after a delivery -/

/-- `s` after a delivery that the guest has seen. -/
def received (s : State layer) (side : Side) (copy : Option BufferRef) (event : EventTuple)
    (clears : Bool) (state : CopyState) : State layer :=
  { consumed s side clears state with reports := s.reports ++ [{ side, copy, event }] }

section Received

variable {s : State layer} {side : Side} {copy : Option BufferRef} {tuple event : EventTuple}
  {clears : Bool} {state : CopyState}

@[simp] theorem received_state :
    ((received s side copy event clears state).ends side).state = state := by
  simp [received, consumed]

@[simp] theorem received_event :
    ((received s side copy event clears state).ends side).pendingEvent = none := by
  simp [received, consumed]

theorem received_ends_ne {other : Side} (different : other ≠ side) :
    (received s side copy event clears state).ends other = s.ends other :=
  State.setEnd_ends_ne _ side _ different

@[simp] theorem received_holder (other : Side) :
    ((received s side copy event clears state).ends other).holder = (s.ends other).holder :=
  State.setEnd_field _ side { s.ends side with pendingEvent := none, state := state }
    CopyEnd.holder rfl other

@[simp] theorem received_index (other : Side) :
    ((received s side copy event clears state).ends other).index = (s.ends other).index :=
  State.setEnd_field _ side { s.ends side with pendingEvent := none, state := state }
    CopyEnd.index rfl other

@[simp] theorem received_wset (other : Side) :
    ((received s side copy event clears state).ends other).wset = (s.ends other).wset :=
  State.setEnd_field _ side { s.ends side with pendingEvent := none, state := state }
    CopyEnd.wset rfl other

@[simp] theorem received_syncWaiter (other : Side) :
    ((received s side copy event clears state).ends other).syncWaiter =
      (s.ends other).syncWaiter :=
  State.setEnd_field _ side { s.ends side with pendingEvent := none, state := state }
    CopyEnd.syncWaiter rfl other

theorem received_exists (other : Side) :
    (received s side copy event clears state).Exists other ↔ s.Exists other :=
  State.setEnd_exists _ side { s.ends side with pendingEvent := none, state := state } rfl other

theorem received_pending : (received s side copy event clears state).pending =
    if clears = true then none else s.pending := rfl

theorem received_busy (settles : state = .done ∨ state = .idle) {other : Side}
    (busy : ((received s side copy event clears state).ends other).copying) :
    other ≠ side ∧ (s.ends other).copying := by
  have different : other ≠ side := by
    rintro rfl
    rw [CopyEnd.copying, received_state] at busy
    rcases settles with rfl | rfl <;> simp at busy
  rw [received_ends_ne different] at busy
  exact ⟨different, busy⟩

theorem Control.received (control : Control none s) (live : s.Exists side)
    (delivery : Delivery s side copy tuple clears state)
    (waiterless : (s.ends side).syncWaiter = none) {inst i : Nat}
    (held : (s.ends side).holder = .held inst i) :
    Control none (received s side copy event clears state) := by
  have settles := delivery.settles
  have own := delivery.clears_iff control live
  refine
    { pending := fun p parked => ?_, parked := fun other there busy quiet _ => ?_,
      event := fun other armed there present => ?_, starts := by simp,
      sync := fun other j there waits => ?_, transit := fun other moving => ?_ }
  · rw [received_pending] at parked
    split at parked
    · simp at parked
    · rename_i kept
      have different : p.buffer.side ≠ side := fun same => kept (own.mpr ⟨p, parked, same⟩)
      have slot := control.pending p parked
      exact
        { open_ := slot.open_
          closure := slot.closure
          current := slot.current
          live := (received_exists _).mpr slot.live
          holder := by simpa using slot.holder
          copying := by rw [received_ends_ne different]; exact slot.copying
          event := by rw [received_ends_ne different]; exact slot.event }
  · obtain ⟨different, copying⟩ := received_busy settles busy
    rw [received_ends_ne different] at quiet
    obtain ⟨p, parked, same⟩ :=
      control.parked other ((received_exists other).mp there) copying quiet (by simp)
    refine ⟨p, ?_, same⟩
    rw [received_pending, if_neg, parked]
    intro cleared
    obtain ⟨q, found, mine⟩ := own.mp cleared
    rw [parked, Option.some.injEq] at found
    exact different (same ▸ found ▸ mine)
  · have different : other ≠ side := by
      rintro rfl
      simp at present
    rw [received_ends_ne different] at present
    have before := control.event other armed ((received_exists other).mp there) present
    cases armed with
    | streamEvent result reclaim buffer =>
        obtain ⟨stream, busy, current, late, resets⟩ := before
        refine ⟨stream, by rw [received_ends_ne different]; exact busy, current, late,
          fun reset => ?_⟩
        obtain ⟨p, parked, same⟩ := resets reset
        refine ⟨p, ?_, same⟩
        rw [received_pending, if_neg, parked]
        intro cleared
        obtain ⟨q, found, mine⟩ := own.mp cleared
        rw [parked, Option.some.injEq] at found
        exact different (same ▸ found ▸ mine)
    | futureEvent result buffer =>
        obtain ⟨future, busy, current, full, late⟩ := before
        exact ⟨future, by rw [received_ends_ne different]; exact busy, current, full, late⟩
    | futureAbandoned reason =>
        obtain ⟨future, readable, busy, gone, recorded⟩ := before
        exact ⟨future, readable, by rw [received_ends_ne different]; exact busy, gone, recorded⟩
    | idleDrop reason =>
        obtain ⟨gone, waiting, reasons⟩ := before
        exact ⟨gone, by rw [received_ends_ne different]; exact waiting, reasons⟩
  · rw [received_syncWaiter] at waits
    have different : other ≠ side := by
      rintro rfl
      simp [waiterless] at waits
    rw [received_ends_ne different]
    exact control.sync other j ((received_exists other).mp there) waits
  · rw [received_holder] at moving
    have different : other ≠ side := by
      rintro rfl
      simp [held] at moving
    rw [received_ends_ne different]
    exact control.transit other moving

theorem Accounting.received (inv : Inv none s) (live : s.Exists side)
    (delivery : Delivery s side copy tuple clears state)
    (count : event.payload >>> 4 = tuple.payload >>> 4) :
    Accounting (received s side copy event clears state) where
  busy other busy := inv.accounting.busy other (received_busy delivery.settles busy).2
  ends_ := inv.accounting.ends_
  ordered := inv.accounting.ordered
  progress := inv.accounting.progress
  bounded := inv.accounting.bounded
  cursor := inv.accounting.cursor
  traced earlier t later split :=
    (inv.accounting.traced earlier t later split).congr (SameArea.refl _) (SameArea.refl _)
  totals stream other := by
    have before := inv.accounting.totals stream other
    have copied : copiedTotal (StreamInvariant.received s side copy event clears state) other =
        copiedTotal s other := rfl
    have reported : reportedTotal (StreamInvariant.received s side copy event clears state) other =
        reportedTotal s other + if side = other then event.payload >>> 4 else 0 := by
      by_cases same : side = other
      · simp [reportedTotal, StreamInvariant.received, List.filter_append, same]
      · simp [reportedTotal, StreamInvariant.received, List.filter_append, same]
    rw [copied, reported, before]
    rcases eq_or_ne other side with rfl | different
    · have rest : unreported (StreamInvariant.received s other copy event clears state) other =
          0 := by
        rw [unreported, if_neg]
        intro busy
        exact (received_busy delivery.settles busy).1 rfl
      rw [if_pos rfl, rest, count, delivery.count inv live stream, Nat.add_zero]
    · have rest : unreported (StreamInvariant.received s side copy event clears state) other =
          unreported s other := by
        simp only [unreported, received_ends_ne different]
        rfl
      rw [if_neg different.symm, rest, Nat.add_zero]

theorem FutureShape.received (inv : Inv none s) (future : s.kind = .future)
    (live : s.Exists side) (delivery : Delivery s side copy tuple clears state)
    (same : event.payload = tuple.payload) :
    FutureShape (received s side copy event clears state) := by
  have shape := inv.future future
  have settles := delivery.settles
  have kept : ∀ r ∈ s.reports, r ∈ (StreamInvariant.received s side copy event clears
      state).reports := fun r member => List.mem_append_left _ member
  have newest : ({ side, copy, event } : Report) ∈ (StreamInvariant.received s side copy event
      clears state).reports := List.mem_append_right _ (List.mem_singleton.mpr rfl)
  refine
    { single := shape.single, uncopied := shape.uncopied, copied := fun moved => ?_,
      earlier := shape.earlier, finished := fun other finished => ?_,
      abandoned := fun gone unexplained => ?_, told := fun other finished => ?_,
      reported := fun r member ref about => ?_ }
  · obtain ⟨one, free, both⟩ := shape.copied moved
    refine ⟨one, by rw [received_pending, free]; simp, fun other => ?_⟩
    obtain ⟨made, full, settled⟩ := both other
    refine ⟨made, full, ?_⟩
    rcases eq_or_ne other side with rfl | different
    · rcases settled with ⟨done, _⟩ | ⟨busy, armed⟩
      · cases delivery with
        | stream armed place => exact absurd done (inv.control.armed live armed)
        | future armed place => exact absurd done (inv.control.armed live armed)
        | idle armed place => exact absurd done (inv.control.armed live armed)
      · have about : copy = some (s.currentBuffer other) := by
          cases delivery with
          | stream armed' place => simp [armed'] at armed
          | future armed' place =>
              simp only [armed', Option.some.injEq, PendingEvent.futureEvent.injEq] at armed
              rw [armed.2]
          | idle armed' place => simp [armed'] at armed
        obtain ⟨_, _, completed, final⟩ := delivery.reports future inv live about
        have told := completed.mpr full
        exact .inl ⟨by rw [received_state]; exact (final told).2,
          ⟨_, newest, about, same.trans told⟩⟩
    · rcases settled with ⟨done, r, member, about, told⟩ | ⟨busy, armed⟩
      · exact .inl ⟨by rw [received_ends_ne different]; exact done,
          r, kept r member, about, told⟩
      · refine .inr ⟨?_, ?_⟩
        · rw [received_ends_ne different]
          exact busy
        · rw [received_ends_ne different]
          exact armed
  · rcases eq_or_ne other side with rfl | different
    · rw [received_state] at finished
      rcases delivery.told future inv live finished with told | told
      · cases delivery with
        | stream armed place =>
            have stream := (inv.control.event other _ live armed).1
            simp [future] at stream
        | future armed place =>
            obtain ⟨_, _, completed, _⟩ :=
              (Delivery.future armed place).reports future inv live rfl
            left
            intro untouched
            have full := completed.mp told
            rw [shape.uncopied untouched] at full
            simp at full
        | idle armed place => simp [CopyResult.code] at told
      · right
        cases delivery with
        | stream armed place =>
            have stream := (inv.control.event other _ live armed).1
            simp [future] at stream
        | @future result buffer index armed place =>
            have late := CopyResult.code_inj.mp told
            rw [futureResult] at late
            split at late
            · rename_i gone
              exact gone.2
            · exact ((inv.control.event other _ live armed).2.2.2.2 late).1
        | idle armed place => exact (inv.control.event other _ live armed).1
    · rw [received_ends_ne different] at finished
      exact shape.finished other finished
  · rcases shape.abandoned gone unexplained with moved | absent
    · exact .inl moved
    · exact .inr fun there => absent ((received_exists _).mp there)
  · rcases eq_or_ne other side with rfl | different
    · rw [received_state] at finished
      exact ⟨_, newest, rfl, same ▸ delivery.told future inv live finished⟩
    · rw [received_ends_ne different] at finished
      obtain ⟨r, member, told⟩ := shape.told other finished
      exact ⟨r, kept r member, told⟩
  · rcases List.mem_append.mp member with older | latest
    · obtain ⟨sameSide, made, ended, exact_⟩ := shape.reported r older ref about
      exact ⟨sameSide, made, fun busy => ended (received_busy settles busy).2, exact_⟩
    · obtain rfl := List.mem_singleton.mp latest
      obtain ⟨current, busy, completed, _⟩ := delivery.reports future inv live about
      have sameSide : ref.side = side := by rw [current]; rfl
      refine ⟨sameSide, ?_, fun again => ?_, by rw [same]; exact completed⟩
      · rw [current]
        exact Nat.sub_lt (inv.accounting.busy side busy) Nat.one_pos
      · exact absurd sameSide (received_busy settles again).1

theorem Stable.received (inv : Inv none s) (observed : Observed s) (gone : Gone s)
    (resting : ∀ other, other ≠ side → (s.ends other).state ≠ .cancellingCopy)
    (live : s.Exists side) (waiterless : (s.ends side).syncWaiter = none) {inst i : Nat}
    (held : (s.ends side).holder = .held inst i)
    (delivery : Delivery s side copy tuple clears state)
    (count : event.payload >>> 4 = tuple.payload >>> 4)
    (same : s.kind = .future → event.payload = tuple.payload) :
    Stable (received s side copy event clears state) where
  inv :=
    { placement := inv.placement.congr rfl received_holder received_index
      control := inv.control.received live delivery waiterless held
      accounting := Accounting.received inv live delivery count
      future := fun future => FutureShape.received inv future live delivery (same future) }
  observed dropped other there := by
    rcases eq_or_ne other side with rfl | different
    · exact .inl (received_state.trans (delivery.observes dropped))
    · rw [received_ends_ne different]
      exact observed dropped other ((received_exists other).mp there)
  gone other absent := gone other fun there => absent ((received_exists other).mpr there)
  resting other := by
    rcases eq_or_ne other side with rfl | different
    · rw [received_state]
      rcases delivery.settles with rfl | rfl <;> simp
    · rw [received_ends_ne different]
      exact resting other different

end Received

end Polyengine.Intrinsics.StreamInvariant
