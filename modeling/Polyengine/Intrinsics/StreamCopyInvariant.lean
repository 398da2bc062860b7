import Mathlib.Algebra.BigOperators.Group.List.Basic
import Polyengine.Intrinsics.StreamInvariant

/-!
# Copies keep the invariant

A copy begins, then parks, completes at once or moves elements to or from the parked copy.
-/

set_option autoImplicit false

namespace Polyengine.Intrinsics.StreamInvariant

open Polyengine.Cabi Polyengine.Library Polyengine.Task Polyengine.Task.Streams
open Polyengine.Intrinsics.StreamBuiltins Polyengine.Intrinsics.StreamRun

variable {layer : ElementLayer}

/-! ## A copy begins -/

/-- `s` with a fresh buffer for a copy that has just begun. -/
def begun (s : State layer) (side : Side) (buffer : GuestBuffer layer.Elem) : State layer :=
  (State.setBuffer { s with copies := Function.update s.copies side (s.copies side + 1) }
    ⟨side, s.copies side⟩ buffer).setEnd side { s.ends side with state := .copying }

/-- A buffer that has moved nothing yet. -/
structure Fresh (kind : Kind) (buffer : GuestBuffer layer.Elem) : Prop where
  progress : buffer.progress = 0
  ptr : buffer.ptr = buffer.base
  length : buffer.length ≤ bufferMaxLength
  single : kind = .future → buffer.length = 1

section Begun

variable (s : State layer) (side : Side) (buffer : GuestBuffer layer.Elem)

@[simp] theorem begun_kind : (begun s side buffer).kind = s.kind := rfl
@[simp] theorem begun_dropped : (begun s side buffer).dropped = s.dropped := rfl
@[simp] theorem begun_pending : (begun s side buffer).pending = s.pending := rfl
@[simp] theorem begun_abandonReason :
    (begun s side buffer).abandonReason = s.abandonReason := rfl
@[simp] theorem begun_transfers : (begun s side buffer).transfers = s.transfers := rfl
@[simp] theorem begun_reports : (begun s side buffer).reports = s.reports := rfl
@[simp] theorem begun_tables : (begun s side buffer).tables = s.tables := rfl
@[simp] theorem begun_memories : (begun s side buffer).memories = s.memories := rfl

@[simp] theorem begun_state : ((begun s side buffer).ends side).state = .copying := by
  simp [begun]

theorem begun_ends_ne {other : Side} (different : other ≠ side) :
    (begun s side buffer).ends other = s.ends other :=
  State.setEnd_ends_ne _ _ _ different

@[simp] theorem begun_event (other : Side) :
    ((begun s side buffer).ends other).pendingEvent = (s.ends other).pendingEvent :=
  State.setEnd_field _ side { s.ends side with state := .copying } CopyEnd.pendingEvent rfl other

@[simp] theorem begun_holder (other : Side) :
    ((begun s side buffer).ends other).holder = (s.ends other).holder :=
  State.setEnd_field _ side { s.ends side with state := .copying } CopyEnd.holder rfl other

@[simp] theorem begun_index (other : Side) :
    ((begun s side buffer).ends other).index = (s.ends other).index :=
  State.setEnd_field _ side { s.ends side with state := .copying } CopyEnd.index rfl other

@[simp] theorem begun_wset (other : Side) :
    ((begun s side buffer).ends other).wset = (s.ends other).wset :=
  State.setEnd_field _ side { s.ends side with state := .copying } CopyEnd.wset rfl other

@[simp] theorem begun_syncWaiter (other : Side) :
    ((begun s side buffer).ends other).syncWaiter = (s.ends other).syncWaiter :=
  State.setEnd_field _ side { s.ends side with state := .copying } CopyEnd.syncWaiter rfl other

@[simp] theorem begun_exists (other : Side) :
    (begun s side buffer).Exists other ↔ s.Exists other :=
  State.setEnd_exists _ side { s.ends side with state := .copying } rfl other

@[simp] theorem begun_copies_same : (begun s side buffer).copies side = s.copies side + 1 := by
  simp [begun]

theorem begun_copies_ne {other : Side} (different : other ≠ side) :
    (begun s side buffer).copies other = s.copies other := by
  simp [begun, different]

@[simp] theorem begun_currentBuffer :
    (begun s side buffer).currentBuffer side = ⟨side, s.copies side⟩ := by
  simp [State.currentBuffer]

theorem begun_currentBuffer_ne {other : Side} (different : other ≠ side) :
    (begun s side buffer).currentBuffer other = s.currentBuffer other := by
  simp [State.currentBuffer, begun_copies_ne s side buffer different]

@[simp] theorem begun_buffers_new :
    (begun s side buffer).buffers ⟨side, s.copies side⟩ = buffer := by
  simp [begun]

theorem begun_buffers_ne {ref : BufferRef} (old : ref ≠ ⟨side, s.copies side⟩) :
    (begun s side buffer).buffers ref = s.buffers ref := by
  simp [begun, State.setBuffer, old]

end Begun

theorem Control.begin {s : State layer} {side : Side} {buffer : GuestBuffer layer.Elem}
    {inst i : Nat} (control : Control none s) (live : s.Exists side)
    (held : (s.ends side).holder = .held inst i) (idle : (s.ends side).state = .idle) :
    Control (some side) (begun s side buffer) := by
  have notBusy : ¬(s.ends side).copying := by simp [CopyEnd.copying, idle]
  have old : ∀ other, other ≠ side → s.currentBuffer other ≠ ⟨side, s.copies side⟩ := by
    intro other different same
    exact different (congrArg BufferRef.side same)
  refine
    { pending := fun p parked => ?_, parked := fun other there busy quiet started => ?_,
      event := fun other event there present => ?_, starts := fun other started => ?_,
      sync := fun other i there waits => ?_, transit := fun other moving => ?_ }
  · have slot := control.pending p parked
    have different : p.buffer.side ≠ side := fun same => notBusy (same ▸ slot.copying)
    exact
      { open_ := slot.open_
        closure := slot.closure
        current := by rw [begun_currentBuffer_ne s side buffer different]; exact slot.current
        live := by simpa using slot.live
        holder := by simpa using slot.holder
        copying := by rw [begun_ends_ne s side buffer different]; exact slot.copying
        event := by simpa using slot.event }
  · have different : other ≠ side := fun same => started (by rw [same])
    rw [begun_ends_ne s side buffer different] at busy quiet
    exact control.parked other (by simpa using there) busy quiet (by simp)
  · rw [begun_event] at present
    have before := control.event other event (by simpa using there) present
    by_cases same : other = side
    · subst same
      cases event with
      | streamEvent result reclaim ref => exact absurd before.2.1 notBusy
      | futureEvent result ref => exact absurd before.2.1 notBusy
      | futureAbandoned reason => exact absurd before.2.2.1 notBusy
      | idleDrop reason => exact ⟨before.1, .inr rfl, before.2.2⟩
    · cases event with
      | streamEvent result reclaim ref =>
          simpa only [EventFits, begun_ends_ne s side buffer same,
            begun_currentBuffer_ne s side buffer same, begun_kind, begun_dropped,
            begun_pending] using before
      | futureEvent result ref =>
          obtain ⟨future, busy, current, full, late⟩ := before
          have untouched := begun_buffers_ne s side buffer (current ▸ old other same)
          refine ⟨future, ?_, ?_, ?_, late⟩
          · rw [begun_ends_ne s side buffer same]; exact busy
          · rw [begun_currentBuffer_ne s side buffer same]; exact current
          · rw [untouched]; exact full
      | futureAbandoned reason =>
          simpa only [EventFits, begun_ends_ne s side buffer same, begun_kind, begun_dropped,
            begun_abandonReason] using before
      | idleDrop reason =>
          obtain ⟨gone, waiting, reasons⟩ := before
          refine ⟨gone, .inl ?_, reasons⟩
          rw [begun_ends_ne s side buffer same]
          simpa using waiting
  · obtain rfl : side = other := Option.some.inj started
    refine ⟨by simpa using live, by simp [CopyEnd.copying], by simp, fun p parked same => ?_, ?_⟩
    · exact notBusy (same ▸ (control.pending p parked).copying)
    · rw [begun_event]
      cases armed : (s.ends side).pendingEvent with
      | none => exact .inl rfl
      | some event =>
          have before := control.event side event live armed
          cases event with
          | streamEvent result reclaim ref => exact absurd before.2.1 notBusy
          | futureEvent result ref => exact absurd before.2.1 notBusy
          | futureAbandoned reason => exact absurd before.2.2.1 notBusy
          | idleDrop reason => exact .inr ⟨reason, rfl⟩
  · have before := control.sync other i (by simpa using there) (by simpa using waits)
    have different : other ≠ side := fun same => notBusy (same ▸ before.2.1)
    rw [begun_ends_ne s side buffer different]
    exact ⟨fun started => different (Option.some.inj started).symm, before.2⟩
  · have before := control.transit other (by simpa using moving)
    have different : other ≠ side := fun same => by simp [same, held] at moving
    rw [begun_ends_ne s side buffer different]
    exact before

theorem movedThrough_eq_zero {transfers : List (Transfer layer)} {ref : BufferRef}
    (untouched : ∀ t ∈ transfers, t.source ≠ ref ∧ t.target ≠ ref) :
    movedThrough transfers ref = 0 := by
  have nothing : (transfers.filter fun t => t.source = ref ∨ t.target = ref) = [] := by
    rw [List.filter_eq_nil_iff]
    intro t member
    simpa using untouched t member
  rw [movedThrough, nothing, List.map_nil, List.sum_nil]

theorem Accounting.created {s : State layer} (accounting : Accounting s) {t : Transfer layer}
    (member : t ∈ s.transfers) (side : Side) :
    t.source ≠ ⟨side, s.copies side⟩ ∧ t.target ≠ ⟨side, s.copies side⟩ := by
  obtain ⟨⟨sourceSide, source⟩, targetSide, target⟩ := accounting.ends_ t member
  constructor
  · intro same
    rw [same] at sourceSide source
    simp only at sourceSide
    subst sourceSide
    exact Nat.lt_irrefl _ source
  · intro same
    rw [same] at targetSide target
    simp only at targetSide
    subst targetSide
    exact Nat.lt_irrefl _ target

theorem Accounting.begin {s : State layer} {side : Side} {buffer : GuestBuffer layer.Elem}
    (accounting : Accounting s) (idle : (s.ends side).state = .idle)
    (fresh : Fresh s.kind buffer) : Accounting (begun s side buffer) where
  busy other copying := by
    rcases eq_or_ne other side with rfl | different
    · simp
    · rw [begun_copies_ne s side buffer different]
      rw [begun_ends_ne s side buffer different] at copying
      exact accounting.busy other copying
  ends_ t member := by
    have grows : ∀ other, s.copies other ≤ (begun s side buffer).copies other := fun other => by
      rcases eq_or_ne other side with rfl | different
      · simp
      · simp [begun_copies_ne s side buffer different]
    obtain ⟨source, target⟩ := accounting.ends_ t member
    exact ⟨⟨source.1, Nat.lt_of_lt_of_le source.2 (grows _)⟩, target.1,
      Nat.lt_of_lt_of_le target.2 (grows _)⟩
  ordered := accounting.ordered
  progress ref := by
    rcases eq_or_ne ref ⟨side, s.copies side⟩ with rfl | old
    · rw [begun_buffers_new, begun_transfers, fresh.progress,
        movedThrough_eq_zero fun t member => accounting.created member side]
    · rw [begun_buffers_ne s side buffer old]
      exact accounting.progress ref
  bounded ref := by
    rcases eq_or_ne ref ⟨side, s.copies side⟩ with rfl | old
    · rw [begun_buffers_new, fresh.progress]
      exact ⟨Nat.zero_le _, fresh.length⟩
    · rw [begun_buffers_ne s side buffer old]
      exact accounting.bounded ref
  cursor ref := by
    rcases eq_or_ne ref ⟨side, s.copies side⟩ with rfl | old
    · rw [begun_buffers_new]
      intro elem _
      simp [fresh.progress, fresh.ptr]
    · rw [begun_buffers_ne s side buffer old]
      exact accounting.cursor ref
  traced earlier t later split := by
    have member : t ∈ s.transfers := by
      rw [begun_transfers] at split
      simp [split]
    obtain ⟨source, target⟩ := accounting.created member side
    refine (accounting.traced earlier t later split).congr ?_ ?_
    · rw [begun_buffers_ne s side buffer source]; exact SameArea.refl _
    · rw [begun_buffers_ne s side buffer target]; exact SameArea.refl _
  totals stream other := by
    have before := accounting.totals stream other
    have olds : ∀ n < s.copies other,
        ((begun s side buffer).buffers ⟨other, n⟩).progress = (s.buffers ⟨other, n⟩).progress := by
      intro n made
      rw [begun_buffers_ne]
      intro same
      injection same with sameSide sameNumber
      subst sameSide
      omega
    have sums : ((List.range (s.copies other)).map fun n =>
        ((begun s side buffer).buffers ⟨other, n⟩).progress) =
        (List.range (s.copies other)).map fun n => (s.buffers ⟨other, n⟩).progress :=
      List.map_congr_left fun n member => olds n (List.mem_range.mp member)
    rcases eq_or_ne other side with rfl | different
    · have quiet : unreported s other = 0 := by simp [unreported, CopyEnd.copying, idle]
      simp only [copiedTotal, reportedTotal, unreported, begun_copies_same, begun_reports,
        begun_currentBuffer, begun_buffers_new, fresh.progress, List.range_succ, List.map_append,
        List.sum_append, sums] at before ⊢
      simpa [quiet, unreported, CopyEnd.copying, idle, fresh.progress] using before
    · simp only [copiedTotal, reportedTotal, unreported, begun_reports,
        begun_copies_ne s side buffer different, begun_currentBuffer_ne s side buffer different,
        begun_ends_ne s side buffer different, sums] at before ⊢
      rw [before]
      by_cases busy : (s.ends other).copying
      · have made := accounting.busy other busy
        rw [if_pos busy, if_pos busy]
        exact congrArg _ (olds (s.copies other - 1) (by omega)).symm
      · rw [if_neg busy, if_neg busy]

theorem FutureShape.untouched {s : State layer} (shape : FutureShape s) {side : Side}
    (idle : (s.ends side).state = .idle) : s.transfers = [] := by
  by_contra moved
  obtain ⟨_, _, both⟩ := shape.copied moved
  rcases (both side).2.2 with ⟨done, _⟩ | ⟨busy, _⟩
  · simp [idle] at done
  · simp [CopyEnd.copying, idle] at busy

theorem FutureShape.begin {s : State layer} {side : Side} {buffer : GuestBuffer layer.Elem}
    (shape : FutureShape s) (idle : (s.ends side).state = .idle) (fresh : Fresh .future buffer) :
    FutureShape (begun s side buffer) := by
  have untouched := shape.untouched idle
  have zero : ∀ ref, ((begun s side buffer).buffers ref).progress = 0 := by
    intro ref
    rcases eq_or_ne ref ⟨side, s.copies side⟩ with rfl | old
    · rw [begun_buffers_new, fresh.progress]
    · rw [begun_buffers_ne s side buffer old]
      exact shape.uncopied untouched ref
  have done : ∀ other, ((begun s side buffer).ends other).state = .done →
      (s.ends other).state = .done := by
    intro other finished
    rcases eq_or_ne other side with rfl | different
    · simp at finished
    · rwa [begun_ends_ne s side buffer different] at finished
  refine
    { single := fun ref made => ?_, uncopied := fun _ => zero,
      copied := fun moved => absurd untouched moved, earlier := fun ref _ => zero ref,
      finished := fun other finished => shape.finished other (done other finished),
      abandoned := fun gone unexplained => ?_,
      told := fun other finished => shape.told other (done other finished),
      reported := fun r member ref about => ?_ }
  · rcases eq_or_ne ref ⟨side, s.copies side⟩ with rfl | old
    · rw [begun_buffers_new]
      exact fresh.single rfl
    · rw [begun_buffers_ne s side buffer old]
      refine shape.single ref ?_
      rcases eq_or_ne ref.side side with same | different
      · rw [same, begun_copies_same] at made
        rw [same]
        refine Nat.lt_of_le_of_ne (Nat.lt_succ_iff.mp made) fun number => old ?_
        cases ref
        simp_all
      · rwa [begun_copies_ne s side buffer different] at made
  · simpa using shape.abandoned gone unexplained
  · obtain ⟨sameSide, made, ended, exact_⟩ := shape.reported r member ref about
    have old : ref ≠ ⟨side, s.copies side⟩ := by
      rintro rfl
      exact Nat.lt_irrefl _ made
    rw [begun_buffers_ne s side buffer old]
    refine ⟨sameSide, ?_, fun busy => ?_, exact_⟩
    · rcases eq_or_ne ref.side side with same | different
      · rw [same, begun_copies_same]
        rw [same] at made
        omega
      · rwa [begun_copies_ne s side buffer different]
    · rcases eq_or_ne ref.side side with same | different
      · rw [same, begun_currentBuffer]
        exact old
      · rw [begun_currentBuffer_ne s side buffer different]
        rw [begun_ends_ne s side buffer different] at busy
        exact ended busy

theorem Inv.begin {s : State layer} {side : Side} {buffer : GuestBuffer layer.Elem}
    {inst i : Nat} (inv : Inv none s) (live : s.Exists side)
    (held : (s.ends side).holder = .held inst i) (idle : (s.ends side).state = .idle)
    (fresh : Fresh s.kind buffer) : Inv (some side) (begun s side buffer) where
  placement := inv.placement.congr rfl (begun_holder s side buffer) (begun_index s side buffer)
  control := inv.control.begin live held idle
  accounting := inv.accounting.begin idle fresh
  future kind := (inv.future kind).begin idle (kind ▸ fresh)

/-! ## Elements move -/

/-- The failures that can end a run: traps, failures of the element layer, and the assertions
about the element types and options that a component was linked with. -/
inductive Permitted (layer : ElementLayer) : Failure → Prop where
  | trap (message : String) : Permitted layer (.trap message)
  | element (inner : Failure) : Permitted layer (.element inner)
  | typeMismatch : Permitted layer (.assertion "stream element type mismatch between ends")
  | nonEmpty :
      Permitted layer (.assertion "zero-width buffer written with a non-empty element")
  | charElement : Permitted layer (.assertion "stream copy: char element")
  | noMemory : Permitted layer (.assertion "buffer requires a memory")
  | lowerMismatch (kind : Kind) (t declared : Option layer.Elem) :
      Permitted layer (.assertion (kind.name ++ " element type mismatch: host end carries " ++
        layer.fmtValType t ++ ", callee expects " ++ layer.fmtValType declared))

/-- The record that a copy leaves. -/
def transferOf (s : State layer) (src dst : BufferRef) (values : List layer.Value)
    (after : Nat → MemInst) : Transfer layer :=
  { source := src, target := dst, sourceBuffer := s.buffers src, targetBuffer := s.buffers dst,
    before := s.memories, values, after }

/-- `s` after a copy between two buffers. -/
def moved (s : State layer) (src dst : BufferRef) (values : List layer.Value)
    (after : Nat → MemInst) : State layer :=
  { s with
    buffers := Function.update
      (Function.update s.buffers src ((s.buffers src).forward s.memories values.length))
      dst ((s.buffers dst).forward s.memories values.length)
    memories := after
    transfers := s.transfers ++ [transferOf s src dst values after] }

/-- What a copy that succeeded did to the memories. -/
structure MoveFits (s : State layer) (src dst : BufferRef) (values : List layer.Value)
    (after : Nat → MemInst) : Prop where
  faithful : Transfer.Faithful (transferOf s src dst values after)
  addrType : ∀ memory, (after memory).addrType = (s.memories memory).addrType

theorem liftElement_meets {Result : Type} {computation : Except Failure Result}
    {post : Result → State layer → Prop} {s : State layer}
    (succeeds : ∀ result, computation = .ok result → post result s) :
    (liftElement computation : StreamProgram layer Result).Meets (Permitted layer) post s := by
  unfold liftElement
  rw [Program.meets_lift]
  cases outcome : computation with
  | ok value => exact succeeds value outcome
  | error inner => exact .element inner

theorem moveElements_meets {s : State layer} {src dst : BufferRef} {n : Nat}
    {post : Unit → State layer → Prop} (different : src ≠ dst)
    (source : n ≤ (s.buffers src).remain) (target : n ≤ (s.buffers dst).remain)
    (moves : ∀ values after, values.length = n → MoveFits s src dst values after →
      post () (moved s src dst values after)) :
    (moveElements src dst n).Meets (Permitted layer) post s := by
  have write : ∀ vs : List layer.Value, vs.length = n →
      (∀ elem, (s.buffers src).t = some elem →
        layer.loadListFromValidRange (s.buffers src).inst (s.memories (s.buffers src).memory) elem
          (s.buffers src).ptr vs.length = .ok vs) →
      ((s.buffers src).t = none → vs = List.replicate vs.length layer.null) →
      (do GuestBuffer.write dst vs; recordTransfer s src dst vs).Meets (Permitted layer) post
        (s.setBuffer src ((s.buffers src).forward s.memories n)) := by
    intro vs length loaded blank
    have apart : (s.setBuffer src ((s.buffers src).forward s.memories n)).buffers dst = s.buffers dst := by
      simp [State.setBuffer, different.symm]
    simp only [GuestBuffer.write, recordTransfer, Program.meets_bind, Program.meets_get,
      meets_assert, Program.meets_modify, apart]
    refine ⟨fun ended => absurd target (by omega), fun _ => ?_⟩
    cases kind : (s.buffers dst).t with
    | none =>
        simp only [Program.meets_bind, meets_assert, Program.meets_modify]
        refine ⟨fun _ => .nonEmpty, fun _ => ?_⟩
        have fits : MoveFits s src dst vs s.memories :=
          ⟨⟨loaded, blank, fun elem present => by simp [transferOf, kind] at present⟩,
            fun _ => rfl⟩
        have result := moves vs s.memories length fits
        subst length
        exact result
    | some elem =>
        simp only [Program.meets_bind, Program.meets_modify]
        refine liftElement_meets fun mem stored => ?_
        have fits : MoveFits s src dst vs
            (Function.update s.memories (s.buffers dst).memory mem) := by
          refine ⟨⟨loaded, blank, fun elem' present => ?_⟩, fun memory => ?_⟩
          · simp only [transferOf, kind, Option.some.injEq] at present
            simpa [transferOf, ← present] using stored
          · rcases eq_or_ne memory (s.buffers dst).memory with rfl | other
            · simpa using ElementLayer.storeListIntoValidRange_addrType stored
            · simp [other]
        have result := moves vs _ length fits
        subst length
        exact result
  simp only [moveElements, GuestBuffer.read, Program.meets_bind, Program.meets_get, meets_assert]
  refine ⟨fun ended => absurd source ended, fun _ => ?_⟩
  cases kind : (s.buffers src).t with
  | none =>
      simp only [Program.meets_bind, Program.meets_modify, Program.meets_pure]
      have := write (List.replicate n layer.null) (by simp) (by simp [kind]) (by simp)
      simpa only [Program.meets_bind] using this
  | some elem =>
      simp only [Program.meets_bind, Program.meets_modify, Program.meets_pure]
      refine liftElement_meets fun vs loaded => ?_
      have length := ElementLayer.loadListFromValidRange_length loaded
      have := write vs length (fun elem' present => by
        rw [kind, Option.some.injEq] at present
        rw [← present, length]
        exact loaded) (by simp [kind])
      simpa only [Program.meets_bind] using this

theorem forward_of_blank {buffer : GuestBuffer layer.Elem} {memories : Nat → MemInst} {n : Nat}
    (blank : buffer.t = none) :
    buffer.forward memories n = { buffer with progress := buffer.progress + n } := by
  simp [GuestBuffer.forward, GuestBuffer.advance, blank]

theorem rendezvousCopy_meets {s : State layer} {src dst : BufferRef} {n : Nat}
    {post : Unit → State layer → Prop} (different : src ≠ dst)
    (source : n ≤ (s.buffers src).remain) (target : n ≤ (s.buffers dst).remain)
    (moves : ∀ values after, values.length = n → MoveFits s src dst values after →
      post () (moved s src dst values after)) :
    (rendezvousCopy src dst n).Meets (Permitted layer) post s := by
  simp only [rendezvousCopy, Program.meets_bind, Program.meets_get, Program.meets_ite,
    GuestBuffer.advanceZeroWidth, recordTransfer, meets_assert, Program.meets_modify]
  refine ⟨fun blank => ?_, fun _ => moveElements_meets different source target moves⟩
  have sourceBlank : (s.buffers src).t = none := Option.isNone_iff_eq_none.mp blank.1
  have targetBlank : (s.buffers dst).t = none := Option.isNone_iff_eq_none.mp blank.2
  have apart : ∀ buffer, (s.setBuffer src buffer).buffers dst = s.buffers dst := fun buffer => by
    simp [State.setBuffer, different.symm]
  refine ⟨fun typed => absurd blank.1 typed, fun _ => ⟨fun ended => absurd source ended, fun _ => ?_⟩⟩
  rw [apart]
  refine ⟨fun typed => absurd blank.2 typed, fun _ => ⟨fun ended => absurd target ended, fun _ => ?_⟩⟩
  have fits : MoveFits s src dst (List.replicate n layer.null) s.memories :=
    ⟨⟨fun elem present => by simp [transferOf, sourceBlank] at present, fun _ => by
        simp [transferOf], fun elem present => by simp [transferOf, targetBlank] at present⟩,
      fun _ => rfl⟩
  have result := moves (List.replicate n layer.null) s.memories (by simp) fits
  simp only [moved, List.length_replicate, forward_of_blank sourceBlank,
    forward_of_blank targetBlank] at result
  exact result

theorem movedThrough_append (transfers : List (Transfer layer)) (t : Transfer layer)
    (ref : BufferRef) :
    movedThrough (transfers ++ [t]) ref =
      movedThrough transfers ref + if t.source = ref ∨ t.target = ref then t.values.length else 0 := by
  by_cases through : t.source = ref ∨ t.target = ref
  · simp only [movedThrough, List.filter_append, List.filter_cons, List.filter_nil,
      decide_eq_true_eq, if_pos through, List.map_append, List.sum_append, List.map_cons,
      List.map_nil, List.sum_cons, List.sum_nil, Nat.add_zero]
  · simp only [movedThrough, List.filter_append, List.filter_cons, List.filter_nil,
      decide_eq_true_eq, if_neg through, List.append_nil, Nat.add_zero]

section Moved

variable (s : State layer) (src dst : BufferRef) (values : List layer.Value)
  (after : Nat → MemInst)

theorem moved_buffers (ref : BufferRef) :
    (moved s src dst values after).buffers ref =
      if src = ref ∨ dst = ref then (s.buffers ref).forward s.memories values.length
      else s.buffers ref := by
  rcases eq_or_ne dst ref with rfl | target
  · simp [moved]
  · rcases eq_or_ne src ref with rfl | source
    · simp [moved, target.symm]
    · simp [moved, target, source, target.symm, source.symm]

theorem moved_area (ref : BufferRef) :
    SameArea ((moved s src dst values after).buffers ref) (s.buffers ref) := by
  rw [moved_buffers]
  split
  · exact ⟨rfl, rfl, rfl, rfl, rfl⟩
  · exact SameArea.refl _

theorem moved_progress (ref : BufferRef) :
    ((moved s src dst values after).buffers ref).progress =
      (s.buffers ref).progress + if src = ref ∨ dst = ref then values.length else 0 := by
  rw [moved_buffers]
  split <;> simp [GuestBuffer.forward]

end Moved

theorem copiedTotal_eq {s : State layer} {side : Side} (made : 0 < s.copies side) :
    copiedTotal s side =
      ((List.range (s.copies side - 1)).map fun n => (s.buffers ⟨side, n⟩).progress).sum +
        (s.buffers (s.currentBuffer side)).progress := by
  obtain ⟨n, count⟩ : ∃ n, s.copies side = n + 1 := ⟨s.copies side - 1, by omega⟩
  simp [copiedTotal, State.currentBuffer, count, List.range_succ]

abbrev latest (s : State layer) (values : List layer.Value) (after : Nat → MemInst) :
    State layer :=
  moved s (s.currentBuffer .writable) (s.currentBuffer .readable) values after

theorem Accounting.moved {s : State layer} {values : List layer.Value} {after : Nat → MemInst}
    (accounting : Accounting s) (copying : ∀ side, (s.ends side).copying)
    (room : ∀ side, values.length ≤ (s.buffers (s.currentBuffer side)).remain)
    (fits : MoveFits s (s.currentBuffer .writable) (s.currentBuffer .readable) values after) :
    Accounting (latest s values after) := by
  have current : ∀ ref : BufferRef,
      s.currentBuffer .writable = ref ∨ s.currentBuffer .readable = ref →
        ref = s.currentBuffer ref.side := by
    rintro ref (rfl | rfl) <;> rfl
  have through : ∀ side, s.currentBuffer .writable = s.currentBuffer side ∨
      s.currentBuffer .readable = s.currentBuffer side := by
    intro side
    cases side
    · exact .inr rfl
    · exact .inl rfl
  refine
    { busy := accounting.busy, ends_ := fun t member => ?_, ordered := ?_,
      progress := fun ref => ?_, bounded := fun ref => ?_, cursor := fun ref => ?_,
      traced := fun earlier t later split => ?_, totals := fun stream side => ?_ }
  · rcases List.mem_append.mp member with older | newest
    · exact accounting.ends_ t older
    · rw [List.mem_singleton.mp newest]
      have written := accounting.busy .writable (copying .writable)
      have read := accounting.busy .readable (copying .readable)
      exact ⟨⟨rfl, Nat.sub_lt written Nat.one_pos⟩, rfl, Nat.sub_lt read Nat.one_pos⟩
  · refine List.pairwise_append.mpr ⟨accounting.ordered, List.pairwise_singleton _ _, ?_⟩
    intro older member newest same
    rw [List.mem_singleton.mp same]
    obtain ⟨source, target⟩ := accounting.ends_ older member
    exact ⟨Nat.le_sub_one_of_lt source.2, Nat.le_sub_one_of_lt target.2⟩
  · rw [moved_progress, accounting.progress]
    exact (movedThrough_append s.transfers
      (transferOf s (s.currentBuffer .writable) (s.currentBuffer .readable) values after) ref).symm
  · rw [moved_progress, ← (moved_area s _ _ values after ref).length]
    obtain ⟨room', small⟩ := accounting.bounded ref
    refine ⟨?_, small⟩
    split
    · rename_i touched
      have := room ref.side
      rw [← current ref touched, GuestBuffer.remain] at this
      omega
    · exact room'
  · intro elem present
    rw [← (moved_area s _ _ values after ref).t] at present
    have before := accounting.cursor ref elem present
    rw [← (moved_area s _ _ values after ref).base, ← (moved_area s _ _ values after ref).memory,
      moved_progress]
    have type : ((latest s values after).memories (s.buffers ref).memory).ptrType =
        (s.memories (s.buffers ref).memory).ptrType := fits.addrType _
    rw [type, moved_buffers]
    split
    · simp only [GuestBuffer.forward, GuestBuffer.advance, present, before]
      rw [Nat.add_mul, Nat.add_assoc]
    · simpa using before
  · have area := fun ref => moved_area s (s.currentBuffer .writable) (s.currentBuffer .readable)
      values after ref
    rcases List.eq_nil_or_concat later with rfl | ⟨front, last, rfl⟩
    · obtain ⟨rfl, same⟩ := List.append_inj' split rfl
      obtain rfl : transferOf s (s.currentBuffer .writable) (s.currentBuffer .readable) values
        after = t := by simpa using same
      exact
        { faithful := fits.faithful
          sourceArea := area _
          targetArea := area _
          sourceProgress := accounting.progress _
          targetProgress := accounting.progress _
          sourceCursor := accounting.cursor _
          targetCursor := accounting.cursor _ }
    · have whole : s.transfers = earlier ++ t :: front := by
        have := split
        rw [List.concat_eq_append, ← List.cons_append, ← List.append_assoc] at this
        exact (List.append_inj' this rfl).1
      exact (accounting.traced earlier t front whole).congr (area _) (area _)
  · have made := accounting.busy side (copying side)
    have before := accounting.totals stream side
    have old : ∀ n, n ∈ List.range (s.copies side - 1) →
        ((latest s values after).buffers ⟨side, n⟩).progress = (s.buffers ⟨side, n⟩).progress := by
      intro n member
      rw [moved_progress, if_neg, Nat.add_zero]
      intro touched
      have same := congrArg BufferRef.number (current _ touched)
      simp only [State.currentBuffer] at same
      have small := List.mem_range.mp member
      omega
    rw [copiedTotal_eq made] at before
    have sameCopies : (latest s values after).copies = s.copies := rfl
    have sameCurrent : (latest s values after).currentBuffer side = s.currentBuffer side := rfl
    have sameReports : reportedTotal (latest s values after) side = reportedTotal s side := rfl
    have busy : ((latest s values after).ends side).copying := copying side
    rw [copiedTotal_eq (s := latest s values after) made, sameCopies,
      List.map_congr_left old, sameReports]
    rw [unreported, if_pos (copying side)] at before
    rw [unreported, if_pos busy, sameCurrent, moved_progress, if_pos (through side)]
    omega

/-! ## The rendezvous of a stream -/

/-- Nothing changed that the rest of a builtin relies on. -/
structure SamePlaces (s s' : State layer) : Prop where
  kind : s'.kind = s.kind
  dropped : s'.dropped = s.dropped
  poisoned : s'.poisoned = s.poisoned
  state : ∀ side, (s'.ends side).state = (s.ends side).state
  wset : ∀ side, (s'.ends side).wset = (s.ends side).wset
  syncWaiter : ∀ side, (s'.ends side).syncWaiter = (s.ends side).syncWaiter
  index : ∀ side, (s'.ends side).index = (s.ends side).index
  holder : ∀ side, (s'.ends side).holder = (s.ends side).holder

namespace SamePlaces

variable {s s' s'' : State layer}

theorem trans (first : SamePlaces s s') (second : SamePlaces s' s'') : SamePlaces s s'' where
  kind := second.kind.trans first.kind
  dropped := second.dropped.trans first.dropped
  poisoned := second.poisoned.trans first.poisoned
  state side := (second.state side).trans (first.state side)
  wset side := (second.wset side).trans (first.wset side)
  syncWaiter side := (second.syncWaiter side).trans (first.syncWaiter side)
  index side := (second.index side).trans (first.index side)
  holder side := (second.holder side).trans (first.holder side)

theorem exists_iff (same : SamePlaces s s') (side : Side) : s'.Exists side ↔ s.Exists side := by
  simp only [State.Exists, same.holder, same.poisoned]

theorem withEvent (s : State layer) (side : Side) (event : PendingEvent) :
    SamePlaces s (withEvent s side event) where
  kind := rfl
  dropped := rfl
  poisoned := rfl
  state := withEvent_state s side event
  wset := withEvent_wset s side event
  syncWaiter := withEvent_syncWaiter s side event
  index := withEvent_index s side event
  holder := withEvent_holder s side event

end SamePlaces

theorem Observed.withEvent {s : State layer} (observed : Observed s) (side : Side)
    (event : PendingEvent) : Observed (withEvent s side event) := by
  intro dropped other live
  rcases eq_or_ne other side with rfl | different
  · simp
  · rw [withEvent_state, withEvent_event_ne s side event different]
    exact observed dropped other ((withEvent_exists s side event other).mp live)

theorem Placement.withEvent {s : State layer} (placement : Placement s) (side : Side)
    (event : PendingEvent) : Placement (withEvent s side event) :=
  placement.congr rfl (withEvent_holder s side event) (withEvent_index s side event)

theorem Accounting.withEvent {s : State layer} (accounting : Accounting s) (side : Side)
    (event : PendingEvent) : Accounting (withEvent s side event) :=
  accounting.congr ⟨rfl, rfl, rfl, rfl, rfl, withEvent_copying s side event, fun _ => rfl⟩

theorem not_future {s : State layer} (stream : s.kind = .stream) {shape : Prop} :
    s.kind = .future → shape := fun future => by simp [stream] at future

theorem Inv.complete {s : State layer} {side : Side} {result : CopyResult}
    (inv : Inv (some side) s) (stream : s.kind = .stream)
    (late : result = .dropped → s.dropped = true) :
    Inv none (withEvent s side (.streamEvent result .nothing (s.currentBuffer side))) where
  placement := inv.placement.withEvent side _
  control := by
    obtain ⟨_, busy, _, foreign, _⟩ := inv.control.starts side rfl
    refine inv.control.arm (fun _ => ⟨stream, busy, rfl, late, by simp⟩)
      (fun p parked own => absurd own (foreign p parked)) (by simp) fun other begun different => ?_
    exact absurd (Option.some.inj begun).symm different
  accounting := inv.accounting.withEvent side _
  future := not_future stream

theorem Inv.advance {s : State layer} {starting : Option Side} {p : Pending}
    (inv : Inv starting s) (stream : s.kind = .stream) (parked : s.pending = some p) :
    Inv starting (withEvent s p.buffer.side (.streamEvent .completed .resetPending p.buffer)) where
  placement := inv.placement.withEvent _ _
  control := by
    have slot := inv.control.pending p parked
    refine inv.control.arm
      (fun _ => ⟨stream, slot.copying, slot.current, by simp, fun _ => ⟨p, parked, rfl⟩⟩)
      (fun q found _ => ?_) (fun other begun => ⟨begun, fun same => ?_⟩) fun _ begun _ => begun
    · rw [parked, Option.some.injEq] at found
      exact ⟨stream, by rw [found]⟩
    · obtain ⟨_, _, _, foreign, _⟩ := inv.control.starts other begun
      exact foreign p parked same.symm
  accounting := inv.accounting.withEvent _ _
  future := not_future stream

theorem Inv.retirePending {s : State layer} {starting : Option Side} {p : Pending}
    (inv : Inv starting s) (stream : s.kind = .stream) (parked : s.pending = some p) :
    Inv starting (withEvent { s with pending := none } p.buffer.side
      (.streamEvent .completed .nothing p.buffer)) where
  placement := (inv.placement.unpark s.dropped).withEvent _ _
  control := by
    have slot := inv.control.pending p parked
    exact inv.control.notify s.dropped parked
      ⟨stream, slot.copying, slot.current, by simp, by simp⟩
  accounting := (inv.accounting.unpark s.dropped).withEvent _ _
  future := not_future stream

/-- The slot that a copy parks in. -/
def slotOf (s : State layer) (inst : Nat) (side : Side) : Pending :=
  { inst, buffer := s.currentBuffer side, closure := ⟨side, s.currentBuffer side⟩ }

theorem Inv.untouched {s : State layer} {side : Side} (inv : Inv (some side) s)
    (future : s.kind = .future) : s.transfers = [] := by
  obtain ⟨_, busy, _, _, quiet⟩ := inv.control.starts side rfl
  by_contra moved
  rcases (((inv.future future).copied moved).2.2 side).2.2 with ⟨done, _⟩ | ⟨_, armed⟩
  · rcases busy with copying | cancelling
    · simp [done] at copying
    · simp [done] at cancelling
  · rcases quiet with silent | ⟨reason, idle⟩
    · simp [armed] at silent
    · simp [armed] at idle

theorem Inv.park {s : State layer} {side : Side} {inst i : Nat} (inv : Inv (some side) s)
    (open_ : s.dropped = false) (free : s.pending = none)
    (held : (s.ends side).holder = .held inst i) :
    Inv none { s with pending := some (slotOf s inst side) } where
  placement := inv.placement.congr rfl (fun _ => rfl) fun _ => rfl
  accounting := inv.accounting.congr ⟨rfl, rfl, rfl, rfl, rfl, fun _ => Iff.rfl, fun _ => rfl⟩
  control := by
    obtain ⟨live, busy, made, _, quiet⟩ := inv.control.starts side rfl
    have silent : (s.ends side).pendingEvent = none := by
      rcases quiet with silent | ⟨reason, idle⟩
      · exact silent
      · have := (inv.control.event side _ live idle).1
        simp [open_] at this
    refine
      { pending := fun p parked => ?_, parked := fun other there copying silent' _ => ?_,
        event := fun other event there present => ?_, starts := by simp,
        sync := fun other i there waits => ?_, transit := inv.control.transit }
    · obtain rfl : slotOf s inst side = p := Option.some.inj parked
      exact ⟨open_, rfl, rfl, live, ⟨i, held⟩, busy, .inl silent⟩
    · rcases eq_or_ne other side with rfl | different
      · exact ⟨_, rfl, rfl⟩
      · obtain ⟨p, found, _⟩ := inv.control.parked other there copying silent'
          fun same => different (Option.some.inj same).symm
        simp [free] at found
    · have before := inv.control.event other event there present
      cases event with
      | streamEvent result reclaim buffer =>
          obtain ⟨stream, copying, current, late, clears⟩ := before
          refine ⟨stream, copying, current, late, fun reset => ?_⟩
          obtain ⟨p, found, _⟩ := clears reset
          simp [free] at found
      | futureEvent result buffer => exact before
      | futureAbandoned reason => exact before
      | idleDrop reason =>
          have gone : s.dropped = true := before.1
          simp [open_] at gone
    · exact ⟨by simp, (inv.control.sync other i there waits).2⟩
  future kind :=
    (inv.future kind).congr rfl rfl rfl rfl (fun _ => Iff.rfl) (fun _ => Iff.rfl)
      (fun _ _ armed => armed)
      (fun moved => absurd (inv.untouched kind) moved) id (inv.future kind).abandoned

theorem Inv.movedStream {s : State layer} {starting : Option Side} {values : List layer.Value}
    {after : Nat → MemInst} (inv : Inv starting s) (stream : s.kind = .stream)
    (copying : ∀ side, (s.ends side).copying)
    (room : ∀ side, values.length ≤ (s.buffers (s.currentBuffer side)).remain)
    (fits : MoveFits s (s.currentBuffer .writable) (s.currentBuffer .readable) values after) :
    Inv starting (latest s values after) where
  placement := inv.placement.congr rfl (fun _ => rfl) fun _ => rfl
  control := inv.control.congr
    { kind := rfl, dropped := rfl, abandonReason := rfl, pending := rfl, copies := rfl,
      poisoned := rfl, copying := fun _ => Iff.rfl, idle := fun _ => Iff.rfl,
      event := fun _ => rfl, wset := fun _ => rfl,
      syncWaiter := fun _ => rfl, index := fun _ => rfl, holder := fun _ => rfl,
      remain := fun side result buffer live armed => by
        have future := (inv.control.event side _ live armed).1
        simp [stream] at future }
  accounting := inv.accounting.moved copying room fits
  future := not_future stream

theorem onCopyDone_stream {s : State layer} {closure : CopyClosure} {result : CopyResult}
    {permitted : Failure → Prop} {post : Unit → State layer → Prop} (stream : s.kind = .stream) :
    (onCopyDone closure result).Meets permitted post s ↔
      post () (withEvent s closure.side (.streamEvent result .nothing closure.buffer)) := by
  simp only [onCopyDone, Program.meets_bind, Program.meets_get, stream]
  rfl

theorem resetAndNotifyPending_meets {s : State layer} {p : Pending} {result : CopyResult}
    {permitted : Failure → Prop} {post : Unit → State layer → Prop} (parked : s.pending = some p) :
    (resetAndNotifyPending result).Meets permitted post s ↔
      (onCopyDone p.closure result).Meets permitted post { s with pending := none } := by
  simp only [resetAndNotifyPending, Program.meets_bind, Program.meets_get, parked]
  rfl

theorem Control.peer_parked {s : State layer} {side : Side} {p : Pending}
    (control : Control (some side) s) (parked : s.pending = some p) :
    p.buffer = s.currentBuffer side.peer ∧ p.closure = ⟨side.peer, s.currentBuffer side.peer⟩ := by
  obtain ⟨_, _, _, foreign, _⟩ := control.starts side rfl
  have slot := control.pending p parked
  have peer : p.buffer.side = side.peer :=
    (Side.eq_or_eq_peer side p.buffer.side).resolve_left (foreign p parked)
  have buffer : p.buffer = s.currentBuffer side.peer := by rw [← peer]; exact slot.current
  exact ⟨buffer, by rw [slot.closure, peer, buffer]⟩

theorem Control.both_copying {s : State layer} {side : Side} {p : Pending}
    (control : Control (some side) s) (parked : s.pending = some p) :
    ∀ other, (s.ends other).copying := by
  intro other
  rcases Side.eq_or_eq_peer side other with rfl | rfl
  · exact (control.starts other rfl).2.1
  · have busy := (control.pending p parked).copying
    rw [(control.peer_parked parked).1] at busy
    exact busy

/-- What handing a copy to the shared object establishes. -/
structure Handed (s s' : State layer) : Prop where
  inv : Inv none s'
  observed : Observed s → Observed s'
  places : SamePlaces s s'

theorem Handed.complete {s : State layer} {side : Side} {result : CopyResult}
    (inv : Inv (some side) s) (stream : s.kind = .stream)
    (late : result = .dropped → s.dropped = true) :
    Handed s (withEvent s side (.streamEvent result .nothing (s.currentBuffer side))) where
  inv := inv.complete stream late
  observed observed := observed.withEvent side _
  places := .withEvent s side _

theorem Handed.park {s : State layer} {side : Side} {inst i : Nat} (inv : Inv (some side) s)
    (open_ : s.dropped = false) (free : s.pending = none)
    (held : (s.ends side).holder = .held inst i) :
    Handed s { s with pending := some (slotOf s inst side) } where
  inv := inv.park open_ free held
  observed observed := observed
  places := ⟨rfl, rfl, rfl, fun _ => rfl, fun _ => rfl, fun _ => rfl, fun _ => rfl, fun _ => rfl⟩

theorem Handed.replace {s : State layer} {side : Side} {inst i : Nat} {p : Pending}
    (inv : Inv (some side) s) (stream : s.kind = .stream) (parked : s.pending = some p)
    (held : (s.ends side).holder = .held inst i) :
    Handed s { withEvent { s with pending := none } p.buffer.side
        (.streamEvent .completed .nothing p.buffer) with
      pending := some (slotOf s inst side) } := by
  have open_ := (inv.control.pending p parked).open_
  have retired := inv.retirePending stream parked
  have held' : ((withEvent { s with pending := none } p.buffer.side
      (.streamEvent .completed .nothing p.buffer)).ends side).holder = .held inst i := by
    simpa using held
  have placed := retired.park (by simpa using open_) rfl held'
  exact
    { inv := placed
      observed := fun _ gone => by simp [open_] at gone
      places :=
        { kind := rfl, dropped := rfl, poisoned := rfl, state := withEvent_state _ _ _,
          wset := withEvent_wset _ _ _, syncWaiter := withEvent_syncWaiter _ _ _,
          index := withEvent_index _ _ _, holder := withEvent_holder _ _ _ } }

theorem Handed.exchange {s : State layer} {side : Side} {p : Pending}
    {values : List layer.Value} {after : Nat → MemInst} (inv : Inv (some side) s)
    (stream : s.kind = .stream) (parked : s.pending = some p)
    (room : ∀ side, values.length ≤ (s.buffers (s.currentBuffer side)).remain)
    (fits : MoveFits s (s.currentBuffer .writable) (s.currentBuffer .readable) values after) :
    Handed s (withEvent (withEvent (latest s values after) p.buffer.side
      (.streamEvent .completed .resetPending p.buffer)) side
        (.streamEvent .completed .nothing (s.currentBuffer side))) := by
  have open_ := (inv.control.pending p parked).open_
  have exchanged := inv.movedStream stream (inv.control.both_copying parked) room fits
  have advanced := exchanged.advance (p := p) stream parked
  exact
    { inv := advanced.complete stream (by simp)
      observed := fun _ gone => by
        simp only [withEvent_dropped] at gone
        change s.dropped = true at gone
        simp [open_] at gone
      places := SamePlaces.trans
        (⟨rfl, rfl, rfl, fun _ => rfl, fun _ => rfl, fun _ => rfl, fun _ => rfl, fun _ => rfl⟩ :
          SamePlaces s (latest s values after))
        ((SamePlaces.withEvent _ _ _).trans (.withEvent _ _ _)) }

theorem assertSameElemType_meets {s : State layer} {arriving pendingBuffer : BufferRef}
    {post : Unit → State layer → Prop} (holds : post () s) :
    (assertSameElemType arriving pendingBuffer).Meets (Permitted layer) post s := by
  simp only [assertSameElemType, Program.meets_bind, Program.meets_get, meets_assert]
  exact ⟨fun _ => .typeMismatch, fun _ => holds⟩

theorem trapOnSameInstance_meets {s : State layer} {inst : Nat} {arriving : BufferRef}
    {p : Pending} {post : Unit → State layer → Prop} (holds : post () s) :
    (trapOnSameInstance inst arriving p).Meets (Permitted layer) post s := by
  simp only [trapOnSameInstance, Program.meets_bind, Program.meets_get, meets_trapIf]
  exact ⟨fun _ => .trap _, fun _ => holds⟩

section SharedStream

variable {s : State layer} {inst i : Nat}

theorem SharedStreamImpl.read_meets (inv : Inv (some .readable) s) (stream : s.kind = .stream)
    (held : (s.ends .readable).holder = .held inst i) :
    (SharedStreamImpl.read inst (s.currentBuffer .readable)
      ⟨.readable, s.currentBuffer .readable⟩).Meets (Permitted layer)
        (fun _ s' => Handed s s') s := by
  simp only [SharedStreamImpl.read, Program.meets_bind, Program.meets_get, Program.meets_ite]
  refine ⟨fun gone => ?_, fun open_ => ?_⟩
  · rw [onCopyDone_stream stream]
    exact .complete inv stream fun _ => gone
  · have open_ : s.dropped = false := by simpa using open_
    cases parked : s.pending with
    | none => exact .park inv open_ parked held
    | some p =>
        obtain ⟨buffer, closure⟩ := inv.control.peer_parked parked
        simp only [Program.meets_bind]
        refine assertSameElemType_meets (trapOnSameInstance_meets ?_)
        simp only [Program.meets_ite, Program.meets_bind]
        refine ⟨fun left => ⟨fun wanted => ?_, fun _ => ?_⟩, fun _ => ?_⟩
        · rw [buffer]
          refine rendezvousCopy_meets (by simp [State.currentBuffer, Side.peer])
            (Nat.min_le_right _ _) (Nat.min_le_left _ _) fun values after length fits => ?_
          simp only [onCopy, setPendingEvent, Program.meets_modify, closure]
          refine (onCopyDone_stream (by exact stream)).mpr ?_
          have room : ∀ side, values.length ≤ (s.buffers (s.currentBuffer side)).remain := by
            intro side
            cases side
            · exact length ▸ Nat.min_le_left _ _
            · exact length ▸ Nat.min_le_right _ _
          have handed := Handed.exchange inv stream parked room fits
          rw [buffer] at handed
          exact handed
        · rw [onCopyDone_stream stream]
          exact .complete inv stream (by simp)
        · rw [resetAndNotifyPending_meets parked, closure]
          refine (onCopyDone_stream (by exact stream)).mpr ?_
          have handed := Handed.replace inv stream parked held
          rw [buffer] at handed
          exact handed

theorem SharedStreamImpl.write_meets (inv : Inv (some .writable) s) (stream : s.kind = .stream)
    (held : (s.ends .writable).holder = .held inst i) :
    (SharedStreamImpl.write inst (s.currentBuffer .writable)
      ⟨.writable, s.currentBuffer .writable⟩).Meets (Permitted layer)
        (fun _ s' => Handed s s') s := by
  simp only [SharedStreamImpl.write, Program.meets_bind, Program.meets_get, Program.meets_ite]
  refine ⟨fun gone => ?_, fun open_ => ?_⟩
  · rw [onCopyDone_stream stream]
    exact .complete inv stream fun _ => gone
  · have open_ : s.dropped = false := by simpa using open_
    cases parked : s.pending with
    | none => exact .park inv open_ parked held
    | some p =>
        obtain ⟨buffer, closure⟩ := inv.control.peer_parked parked
        simp only [Program.meets_bind]
        refine assertSameElemType_meets (trapOnSameInstance_meets ?_)
        simp only [Program.meets_ite, Program.meets_bind]
        refine ⟨fun left => ⟨fun wanted => ?_, fun _ => ?_⟩, fun _ => ⟨fun _ => ?_, fun _ => ?_⟩⟩
        · rw [buffer]
          refine rendezvousCopy_meets (by simp [State.currentBuffer, Side.peer])
            (Nat.min_le_left _ _) (Nat.min_le_right _ _) fun values after length fits => ?_
          simp only [onCopy, setPendingEvent, Program.meets_modify, closure]
          refine (onCopyDone_stream (by exact stream)).mpr ?_
          have room : ∀ side, values.length ≤ (s.buffers (s.currentBuffer side)).remain := by
            intro side
            cases side
            · exact length ▸ Nat.min_le_right _ _
            · exact length ▸ Nat.min_le_left _ _
          have handed := Handed.exchange inv stream parked room fits
          rw [buffer] at handed
          exact handed
        · rw [onCopyDone_stream stream]
          exact .complete inv stream (by simp)
        · rw [onCopyDone_stream stream]
          exact .complete inv stream (by simp)
        · rw [resetAndNotifyPending_meets parked, closure]
          refine (onCopyDone_stream (by exact stream)).mpr ?_
          have handed := Handed.replace inv stream parked held
          rw [buffer] at handed
          exact handed

end SharedStream

/-! ## The rendezvous of a future -/

theorem onCopyDone_future {s : State layer} {closure : CopyClosure} {result : CopyResult}
    {permitted : Failure → Prop} {post : Unit → State layer → Prop} (future : s.kind = .future)
    (final : result ≠ .dropped ∨ closure.side = .writable) :
    (onCopyDone closure result).Meets permitted post s ↔
      post () (withEvent s closure.side (.futureEvent result closure.buffer)) := by
  have quiet : ¬(closure.side = .readable ∧ result = .dropped) := by
    rintro ⟨reading, late⟩
    rcases final with other | writing
    · exact other late
    · simp [reading] at writing
  simp only [onCopyDone, Program.meets_bind, Program.meets_get, future, if_neg quiet, meets_assert]
  exact ⟨fun holds => holds.2 final, fun holds => ⟨fun wrong => absurd final wrong, fun _ => holds⟩⟩

theorem Inv.remain_one {s : State layer} {side : Side} (inv : Inv (some side) s)
    (future : s.kind = .future) : (s.buffers (s.currentBuffer side)).remain = 1 := by
  have made := (inv.control.starts side rfl).2.2.1
  have empty := (inv.future future).uncopied (inv.untouched future) (s.currentBuffer side)
  have single := (inv.future future).single (s.currentBuffer side) (Nat.sub_lt made Nat.one_pos)
  rw [GuestBuffer.remain, single, empty]

theorem Inv.silent {s : State layer} {side : Side} {p : Pending} (inv : Inv (some side) s)
    (future : s.kind = .future) (parked : s.pending = some p) :
    ∀ other, (s.ends other).pendingEvent = none := by
  have slot := inv.control.pending p parked
  intro other
  rcases Side.eq_or_eq_peer side other with rfl | rfl
  · obtain ⟨live, _, _, _, quiet⟩ := inv.control.starts other rfl
    rcases quiet with silent | ⟨reason, idle⟩
    · exact silent
    · have gone := (inv.control.event other _ live idle).1
      simp [slot.open_] at gone
  · have event := slot.event
    rw [(inv.control.peer_parked parked).1] at event
    rcases event with silent | ⟨stream, _⟩
    · exact silent
    · simp [future] at stream

theorem Handed.droppedWrite {s : State layer} (inv : Inv (some .writable) s)
    (future : s.kind = .future) (gone : s.dropped = true) :
    Handed s (withEvent s .writable (.futureEvent .dropped (s.currentBuffer .writable))) where
  inv :=
    { placement := inv.placement.withEvent _ _
      control := by
        obtain ⟨_, busy, _, foreign, _⟩ := inv.control.starts .writable rfl
        refine inv.control.arm
          (fun _ => ⟨future, busy, rfl, by simp [inv.remain_one future], fun _ => ⟨gone, rfl⟩⟩)
          (fun p parked own => absurd own (foreign p parked)) (by simp) fun other begun other' => ?_
        exact absurd (Option.some.inj begun).symm other'
      accounting := inv.accounting.withEvent _ _
      future := fun _ =>
        (inv.future future).congr rfl rfl rfl rfl (withEvent_copying _ _ _)
          (fun _ => by rw [withEvent_state])
          (fun side ref armed => by
            rcases eq_or_ne side .writable with rfl | different
            · obtain ⟨_, _, _, _, silent | ⟨reason, idle⟩⟩ := inv.control.starts .writable rfl
              · simp [armed] at silent
              · simp [armed] at idle
            · rwa [withEvent_event_ne _ _ _ different])
          (fun moved => absurd (inv.untouched future) moved) id
          (fun gone unexplained => by
            simpa using (inv.future future).abandoned gone unexplained) }
  observed observed := observed.withEvent _ _
  places := .withEvent _ _ _

/-- The element of a future has moved: both copies are completed. -/
def exchanged (s : State layer) (side : Side) (values : List layer.Value)
    (after : Nat → MemInst) : State layer :=
  withEvent (withEvent { latest s values after with pending := none } side.peer
    (.futureEvent .completed (s.currentBuffer side.peer))) side
      (.futureEvent .completed (s.currentBuffer side))

section Exchanged

variable {s : State layer} {side : Side} {p : Pending} {values : List layer.Value}
  {after : Nat → MemInst}

@[simp] theorem exchanged_event (other : Side) :
    ((exchanged s side values after).ends other).pendingEvent =
      some (.futureEvent .completed (s.currentBuffer other)) := by
  rcases Side.eq_or_eq_peer side other with rfl | rfl
  · simp [exchanged]
  · rw [exchanged, withEvent_event_ne _ _ _ side.peer_ne, withEvent_same]

@[simp] theorem exchanged_state (other : Side) :
    ((exchanged s side values after).ends other).state = (s.ends other).state := by
  rw [exchanged, withEvent_state, withEvent_state]
  rfl

theorem exchanged_progress (s : State layer) (side : Side) (values : List layer.Value)
    (after : Nat → MemInst) (side' : Side) :
    ((exchanged s side values after).buffers (s.currentBuffer side')).progress =
      (s.buffers (s.currentBuffer side')).progress + values.length := by
  have touched : s.currentBuffer .writable = s.currentBuffer side' ∨
      s.currentBuffer .readable = s.currentBuffer side' := by
    cases side'
    · exact .inr rfl
    · exact .inl rfl
  change ((latest s values after).buffers (s.currentBuffer side')).progress = _
  rw [moved_progress, if_pos touched]

theorem exchanged_buffers_old {ref : BufferRef} (old : ref ≠ s.currentBuffer ref.side) :
    (exchanged s side values after).buffers ref = s.buffers ref := by
  change (latest s values after).buffers ref = _
  rw [moved_buffers, if_neg]
  rintro (rfl | rfl) <;> exact old rfl

theorem Control.exchange (inv : Inv (some side) s) (future : s.kind = .future)
    (parked : s.pending = some p) (one : values.length = 1) :
    Control none (exchanged s side values after) := by
  have silent := inv.silent future parked
  have slot := inv.control.pending p parked
  obtain ⟨buffer, _⟩ := inv.control.peer_parked parked
  have made := (inv.control.starts side rfl).2.2.1
  have full : ∀ other, ((latest s values after).buffers (s.currentBuffer other)).remain = 0 := by
    intro other
    have area := (moved_area s (s.currentBuffer .writable) (s.currentBuffer .readable) values
      after (s.currentBuffer other)).length
    have progress := exchanged_progress s side values after other
    change ((latest s values after).buffers (s.currentBuffer other)).progress = _ at progress
    have created := inv.accounting.busy other (inv.control.both_copying parked other)
    rw [GuestBuffer.remain, progress, one, ← area,
      (inv.future future).single _ (Nat.sub_lt created Nat.one_pos)]
    omega
  have copied : Control (some side) (latest s values after) := inv.control.congr
    { kind := rfl, dropped := rfl, abandonReason := rfl, pending := rfl, copies := rfl,
      poisoned := rfl, copying := fun _ => Iff.rfl, idle := fun _ => Iff.rfl,
      event := fun _ => rfl, wset := fun _ => rfl,
      syncWaiter := fun _ => rfl, index := fun _ => rfl, holder := fun _ => rfl,
      remain := fun other result ref _ armed => by simp [silent other] at armed }
  have fits : EventFits (some side) { latest s values after with pending := none }
      p.buffer.side (.futureEvent .completed p.buffer) :=
    ⟨future, slot.copying, slot.current, by simpa [buffer] using full side.peer, by simp⟩
  have notified := copied.notify s.dropped parked fits
  rw [buffer] at notified
  obtain ⟨_, busy, _, foreign, _⟩ := notified.starts side rfl
  refine notified.arm (fun _ => ⟨future, busy, rfl, by simpa using full side, by simp⟩)
    (fun q found _ => by simp at found) (by simp) fun other begun different => ?_
  exact absurd (Option.some.inj begun).symm different

theorem FutureShape.exchange (inv : Inv (some side) s) (future : s.kind = .future)
    (parked : s.pending = some p) (one : values.length = 1) :
    FutureShape (exchanged s side values after) := by
  have shape := inv.future future
  have untouched := inv.untouched future
  have copying := inv.control.both_copying parked
  have notDone : ∀ other, ((exchanged s side values after).ends other).state ≠ .done := by
    intro other finished
    rw [exchanged_state] at finished
    rcases copying other with copying | cancelling
    · simp [finished] at copying
    · simp [finished] at cancelling
  have transfers : (exchanged s side values after).transfers =
      [transferOf s (s.currentBuffer .writable) (s.currentBuffer .readable) values after] := by
    change s.transfers ++ _ = _
    rw [untouched, List.nil_append]
  refine
    { single := fun ref made => ?_, uncopied := fun none_ => ?_, copied := fun _ => ?_,
      earlier := fun ref older => ?_, finished := fun other finished => ?_,
      abandoned := fun gone _ => ?_, told := fun other finished => ?_,
      reported := fun r member ref about => ?_ }
  · have area := (moved_area s (s.currentBuffer .writable) (s.currentBuffer .readable) values
      after ref).length
    exact area.symm.trans (shape.single ref made)
  · simp [transfers] at none_
  · refine ⟨by simp [transfers], rfl, fun other => ?_⟩
    refine ⟨inv.accounting.busy other (copying other), ?_, .inr ⟨?_, exchanged_event other⟩⟩
    · have progress := exchanged_progress s side values after other
      rw [shape.uncopied untouched, one] at progress
      exact progress
    · rw [CopyEnd.copying, exchanged_state]
      exact copying other
  · have old : ref ≠ s.currentBuffer ref.side := older
    rw [exchanged_buffers_old old]
    exact shape.earlier ref old
  · exact absurd finished (notDone other)
  · have open_ := (inv.control.pending p parked).open_
    change s.dropped = true at gone
    simp [open_] at gone
  · exact absurd finished (notDone other)
  · obtain ⟨sameSide, made, ended, exact_⟩ := shape.reported r member ref about
    have old := ended (copying ref.side)
    rw [exchanged_buffers_old old]
    exact ⟨sameSide, made, fun _ => old, exact_⟩

theorem Handed.exchangeFuture (inv : Inv (some side) s) (future : s.kind = .future)
    (parked : s.pending = some p) (one : values.length = 1)
    (fits : MoveFits s (s.currentBuffer .writable) (s.currentBuffer .readable) values after)
    (room : ∀ side, values.length ≤ (s.buffers (s.currentBuffer side)).remain) :
    Handed s (exchanged s side values after) where
  inv :=
    { placement := (((inv.placement.congr rfl (fun _ => rfl) fun _ => rfl :
        Placement (latest s values after)).unpark s.dropped).withEvent _ _).withEvent _ _
      control := Control.exchange inv future parked one
      accounting := (((inv.accounting.moved (inv.control.both_copying parked) room fits).unpark
        s.dropped).withEvent _ _).withEvent _ _
      future := fun _ => FutureShape.exchange inv future parked one }
  observed _ gone := by
    have open_ := (inv.control.pending p parked).open_
    change s.dropped = true at gone
    simp [open_] at gone
  places := SamePlaces.trans
    (⟨rfl, rfl, rfl, fun _ => rfl, fun _ => rfl, fun _ => rfl, fun _ => rfl, fun _ => rfl⟩ :
      SamePlaces s { latest s values after with pending := none })
    ((SamePlaces.withEvent _ _ _).trans (.withEvent _ _ _))

end Exchanged

section SharedFuture

variable {s : State layer} {inst i : Nat}

theorem exchangeFuture_meets {side : Side} {p : Pending} (inv : Inv (some side) s)
    (future : s.kind = .future) (parked : s.pending = some p)
    {src dst : BufferRef} (source : src = s.currentBuffer .writable)
    (target : dst = s.currentBuffer .readable) :
    (do
      trapOnSameInstanceFuture inst p
      moveElements src dst 1
      resetAndNotifyPending .completed
      onCopyDone ⟨side, s.currentBuffer side⟩ .completed :
        StreamProgram layer Unit).Meets (Permitted layer) (fun _ s' => Handed s s') s := by
  have remain : ∀ other, (s.buffers (s.currentBuffer other)).remain = 1 := by
    intro other
    have created := inv.accounting.busy other (inv.control.both_copying parked other)
    rw [GuestBuffer.remain, (inv.future future).uncopied (inv.untouched future),
      (inv.future future).single _ (Nat.sub_lt created Nat.one_pos)]
  obtain ⟨buffer, closure⟩ := inv.control.peer_parked parked
  subst source target
  simp only [trapOnSameInstanceFuture, Program.meets_bind, Program.meets_get, meets_trapIf]
  refine ⟨fun _ => .trap _, fun _ => ?_⟩
  refine moveElements_meets (by simp [State.currentBuffer]) (Nat.le_of_eq (remain _).symm)
    (Nat.le_of_eq (remain _).symm)
    fun values after one fits => ?_
  refine (resetAndNotifyPending_meets (p := p) (by exact parked)).mpr ?_
  rw [closure]
  refine (onCopyDone_future (by exact future) (.inl (by simp))).mpr ?_
  refine (onCopyDone_future (by exact future) (.inl (by simp))).mpr ?_
  exact Handed.exchangeFuture inv future parked one fits fun other =>
    Nat.le_of_eq (one.trans (remain other).symm)

theorem SharedFutureImpl.read_meets (inv : Inv (some .readable) s) (future : s.kind = .future)
    (held : (s.ends .readable).holder = .held inst i) :
    (SharedFutureImpl.read inst (s.currentBuffer .readable)
      ⟨.readable, s.currentBuffer .readable⟩).Meets (Permitted layer)
        (fun _ s' => Handed s s') s := by
  have shape := inv.future future
  simp only [SharedFutureImpl.read, Program.meets_bind, Program.meets_get]
  cases abandoned : (if s.dropped = true then s.abandonReason else none) with
  | some reason => exact .trap _
  | none =>
      have open_ : s.dropped = false := by
        by_contra gone
        have gone : s.dropped = true := by simpa using gone
        rw [if_pos gone] at abandoned
        rcases shape.abandoned gone abandoned with moved | absent
        · exact moved (inv.untouched future)
        · exact absent (inv.control.starts .readable rfl).1
      simp only [Program.meets_bind, meets_assert]
      refine ⟨fun wrong => absurd ⟨open_, inv.remain_one future⟩ wrong, fun _ => ?_⟩
      cases parked : s.pending with
      | none => exact .park inv open_ parked held
      | some p =>
          exact exchangeFuture_meets inv future parked (inv.control.peer_parked parked).1 rfl

theorem SharedFutureImpl.write_meets (inv : Inv (some .writable) s) (future : s.kind = .future)
    (held : (s.ends .writable).holder = .held inst i) :
    (SharedFutureImpl.write inst (s.currentBuffer .writable)
      ⟨.writable, s.currentBuffer .writable⟩).Meets (Permitted layer)
        (fun _ s' => Handed s s') s := by
  simp only [SharedFutureImpl.write, Program.meets_bind, Program.meets_get, meets_assert,
    Program.meets_ite]
  refine ⟨fun wrong => absurd (inv.remain_one future) wrong, fun _ => ⟨fun gone => ?_, fun open_ => ?_⟩⟩
  · refine (onCopyDone_future future (.inr rfl)).mpr ?_
    exact .droppedWrite inv future gone
  · cases parked : s.pending with
    | none => exact .park inv (by simpa using open_) parked held
    | some p =>
        exact exchangeFuture_meets inv future parked rfl (inv.control.peer_parked parked).1

end SharedFuture

end Polyengine.Intrinsics.StreamInvariant
