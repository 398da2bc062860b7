import Polyengine.Intrinsics.StreamConservation

/-!
# Copy ends

Who owns the pending slot, what a cancellation can count on, and who learns of a drop.
-/

set_option autoImplicit false

namespace Polyengine.Intrinsics.StreamInvariant

open Polyengine.Cabi Polyengine.Library Polyengine.Task Polyengine.Task.Streams
open Polyengine.Intrinsics.StreamBuiltins Polyengine.Intrinsics.StreamRun

variable {layer : ElementLayer}

/-! ## The pending slot -/

/-- The buffer of the end's latest copy is the shared object's pending buffer. -/
def ownBufferPending (s : State layer) (side : Side) : Prop :=
  s.pending.map (·.buffer) = some (s.currentBuffer side)

instance (s : State layer) (side : Side) : Decidable (ownBufferPending s side) :=
  inferInstanceAs (Decidable (_ = _))

/-- The end is busy, and no event, or only the completion that clears the slot, waits for it. -/
def slotExpected (s : State layer) (side : Side) : Prop :=
  (s.ends side).copying ∧ ((s.ends side).pendingEvent = none ∨
    (s.ends side).pendingEvent =
      some (.streamEvent .completed .resetPending (s.currentBuffer side)))

theorem ownBufferPending_iff {s : State layer} {side : Side} (control : Control none s)
    (live : s.Exists side) : ownBufferPending s side ↔ slotExpected s side := by
  constructor
  · intro owned
    obtain ⟨p, parked, buffer⟩ := Option.map_eq_some_iff.mp owned
    have slot := control.pending p parked
    have own : p.buffer.side = side := by rw [buffer]; rfl
    refine ⟨own ▸ slot.copying, ?_⟩
    rcases slot.event with quiet | ⟨_, armed⟩
    · exact .inl (own ▸ quiet)
    · rw [own, buffer] at armed
      exact .inr armed
  · rintro ⟨busy, quiet | armed⟩
    · obtain ⟨p, parked, own⟩ := control.parked side live busy quiet (by simp)
      rw [ownBufferPending, parked, Option.map_some, (control.pending p parked).current, own]
    · obtain ⟨_, _, _, _, clears⟩ := control.event side _ live armed
      obtain ⟨p, parked, own⟩ := clears rfl
      rw [ownBufferPending, parked, Option.map_some, (control.pending p parked).current, own]

/-- What holds of the two ends of a shared object between two builtins. -/
structure CopyEndsSettled (s : State layer) : Prop where
  slot : ∀ side, s.Exists side → (ownBufferPending s side ↔ slotExpected s side)
  /-- `cancel` as `cancelCopy` issues it finds something pending and notifies the caller. -/
  notifies : ∀ side, s.Exists side → (s.ends side).state = .copying →
    (s.ends side).pendingEvent = none →
    cancel.Meets (fun _ => False)
      (fun _ s' => s'.pending = none ∧ s'.ends side.peer = s.ends side.peer ∧
        (s'.ends side).pendingEvent = some (cancelEvent s.kind (s.currentBuffer side)))
      (s.setEnd side { s.ends side with state := .cancellingCopy })
  /-- A cancellation traps or has its result at hand, and the peer does not notice it. -/
  synchronous : ∀ kind side (call : CancelCall layer.Elem), s.poisoned call.inst = false →
    (cancelCopy kind side call).Meets Failure.IsTrap
      (fun outcome s' => (∃ payload, outcome = .value payload ∧ payload ≠ BLOCKED) ∧
        s'.ends side.peer = s.ends side.peer) s

theorem copyEnds_settled {s : State layer} (reachable : Reachable s) : CopyEndsSettled s := by
  have stable := Reachable.stable reachable
  refine
    { slot := fun side live => ownBufferPending_iff stable.inv.control live
      notifies := fun side live busy quiet => ?_
      synchronous := fun kind side call running => ?_ }
  · have inv := stable.inv.cancelling busy
    refine cancel_meets inv ((cancelling_exists side).mpr live)
      ((cancelling_copying busy side).mpr (.inl busy))
      ((cancelling_field CopyEnd.pendingEvent rfl side).trans quiet) fun p parked own => ?_
    have current := (inv.control.pending p parked).current
    rw [own] at current
    refine ⟨rfl, ?_, ?_⟩
    · exact (State.setEnd_ends_ne _ side _ side.peer_ne).trans (cancelling_ends_ne side.peer_ne)
    · rw [withEvent_same, current]
      rfl
  · refine (cancelCopy_meets stable running).imp fun outcome s' cancelled => ?_
    obtain ⟨payload, value, small⟩ := cancelled.synchronous
    exact ⟨⟨payload, value, Nat.ne_of_lt small⟩, cancelled.peer⟩

/-- The writer after one of its three bytes was taken. -/
def takenOne : List (Action byteLayer) := partialCopy.take 3

theorem copyEnds_settled_takenOne :
    ∃ s : State byteLayer, stateAfter .stream takenOne = some s ∧
      ownBufferPending s .writable ∧ CopyEndsSettled s := by
  have facts : (stateAfter .stream takenOne).map (fun s => decide (ownBufferPending s .writable)) =
      some true := by decide +kernel
  obtain ⟨s, after, owned⟩ := Option.map_eq_some_iff.mp facts
  exact ⟨s, after, of_decide_eq_true owned, copyEnds_settled (stateAfter_reachable after)⟩

/-- A parked buffer stays in the slot while its owner already has a completion to receive. -/
theorem slot_outlives_completion :
    ¬∀ (s : State byteLayer) (side : Side), Reachable s → s.Exists side →
      ((s.ends side).copying ∧ (s.ends side).pendingEvent = none ↔ ownBufferPending s side) := by
  intro literal
  have facts : (stateAfter .stream takenOne).map (fun s =>
      decide (s.Exists .writable ∧ ownBufferPending s .writable ∧
        (s.ends .writable).pendingEvent.isSome = true)) = some true := by decide +kernel
  obtain ⟨s, after, all⟩ := Option.map_eq_some_iff.mp facts
  obtain ⟨live, owned, armed⟩ := of_decide_eq_true all
  have quiet := ((literal s .writable (stateAfter_reachable after) live).mpr owned).2
  simp [quiet] at armed

/-! ## Drops are noticed -/

def abandonment (s : State layer) (failure : Failure) : Prop :=
  s.kind = .future ∧ ∃ reason, s.abandonReason = some reason ∧
    failure = futureAbandonTrap reason

/-- The end as it is once a table has given it an index. -/
def ownedBy (s : State layer) (side : Side) (index : Nat) : State layer :=
  s.setEnd side { s.ends side with index := some index }

/-- An event waits for the end, and its delivery leaves the end done or traps with the
abandonment of the future. -/
def dropAnnounced (s : State layer) (side : Side) : Prop :=
  (s.ends side).pendingEvent.isSome = true ∧
    ∀ index, (getPendingEvent side).Meets (abandonment s)
      (fun _ s' => (s'.ends side).state = .done) (ownedBy s side index)

theorem dropAnnounced_of_armed {s : State layer} {side : Side} (inv : Inv none s)
    (gone : s.dropped = true) (live : s.Exists side)
    (armed : (s.ends side).pendingEvent.isSome = true) : dropAnnounced s side := by
  refine ⟨armed, fun index => ?_⟩
  obtain ⟨event, present⟩ := Option.isSome_iff_exists.mp armed
  have before := inv.control.event side event live present
  have fits : EventFits none (ownedBy s side index) side event := by
    cases event <;> simpa [EventFits, ownedBy, CopyEnd.copying] using before
  have armed' : ((ownedBy s side index).ends side).pendingEvent = some event := by
    simpa [ownedBy] using present
  have place : ((ownedBy s side index).ends side).index = some index := by simp [ownedBy]
  refine getPendingEvent_of_fits fits (fun ref => ?_) armed' place
    (fun reason _ future _ given => ?_) fun copy tuple clears state delivery => ?_
  · exact Nat.le_trans (inv.accounting.bounded ref).1 (inv.accounting.bounded ref).2
  · exact ⟨future, reason, given, rfl⟩
  · simpa [consumed] using delivery.observes gone

/-- Once the shared object is dropped, every end that still exists is done or about to be. -/
theorem dropped_noticed {s : State layer} (reachable : Reachable s) (gone : s.dropped = true)
    (side : Side) (live : s.Exists side) :
    (s.ends side).state = .done ∨ dropAnnounced s side := by
  have stable := Reachable.stable reachable
  exact (stable.observed gone side live).imp_right (dropAnnounced_of_armed stable.inv gone live)

/-- A reader that is handed to another instance while its writer drops. -/
def droppedInTransit : List (Action byteLayer) :=
  [.lift .stream 0 1 (some ()), .drop .stream .writable (some ()) 0 2]

theorem dropped_noticed_inTransit :
    ∃ s : State byteLayer, stateAfter .stream droppedInTransit = some s ∧
      ((s.ends .readable).state = .done ∨ dropAnnounced s .readable) := by
  have facts : (stateAfter .stream droppedInTransit).map (fun s =>
      decide (s.dropped = true ∧ s.Exists .readable)) = some true := by decide
  obtain ⟨s, after, both⟩ := Option.map_eq_some_iff.mp facts
  obtain ⟨gone, live⟩ := of_decide_eq_true both
  exact ⟨s, after, dropped_noticed (stateAfter_reachable after) gone .readable live⟩

end Polyengine.Intrinsics.StreamInvariant
