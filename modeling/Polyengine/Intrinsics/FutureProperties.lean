import Polyengine.Intrinsics.CopyEndProperties

/-!
# Futures deliver once

At most one payload moves; when it has moved, both guests are told `COMPLETED` and nothing else,
and nobody is told so before.
-/

set_option autoImplicit false

namespace Polyengine.Intrinsics.StreamInvariant

open Polyengine.Cabi Polyengine.Library Polyengine.Task Polyengine.Task.Streams
open Polyengine.Intrinsics.StreamBuiltins Polyengine.Intrinsics.StreamRun

variable {layer : ElementLayer}

def toldCompleted (s : State layer) (side : Side) : Prop :=
  ∃ r ∈ s.reports, r.side = side ∧ r.copy = some (s.currentBuffer side) ∧
    r.event.payload = CopyResult.completed.code

/-- The completion of the end's copy waits to be delivered, and can be delivered as nothing
else. -/
def completionWaits (s : State layer) (side : Side) : Prop :=
  (s.ends side).pendingEvent = some (.futureEvent .completed (s.currentBuffer side)) ∧
    (s.Exists side → ∀ index, (s.ends side).index = some index →
      (getPendingEvent side).Meets (fun _ => False)
        (fun delivered _ => delivered.2.payload = CopyResult.completed.code) s)

/-- The internal errors that no guest can cause in a future. -/
def futureAssertions : List String :=
  ["future read shape", "future event/progress disagreement",
   "a readable future end cannot observe DROPPED"]

structure DeliversOnce (s : State layer) : Prop where
  once : s.transfers.length ≤ 1
  /-- Once the payload has moved, either guest is told so, or will be. -/
  completes : s.transfers ≠ [] → ∀ side, toldCompleted s side ∨ completionWaits s side
  /-- A completion that was told, or waits to be told, had its payload moved. -/
  truthful : ∀ side, toldCompleted s side ∨ (s.Exists side ∧ completionWaits s side) →
    s.transfers ≠ []
  /-- A copy that moved the payload is never reported as cancelled or dropped. -/
  exclusive : ∀ r ∈ s.reports, ∀ ref, r.copy = some ref → (s.buffers ref).progress = 1 →
    r.event.payload = CopyResult.completed.code
  /-- The writable end goes only when its guest knows how its write ended, or that nobody reads. -/
  informed : ∀ elem inst hi outcome s',
    (dropEnd .future .writable elem inst hi).run s = .ok (outcome, s') →
    ∃ r ∈ s.reports, r.side = .writable ∧
      (r.event.payload = CopyResult.completed.code ∨ r.event.payload = CopyResult.dropped.code)
  consistent : ∀ action failure, (step action).run s = .error failure →
    ∀ message ∈ futureAssertions, failure ≠ .assertion message

theorem lowerMismatch_ne (kind : Kind) (rest message : String) (member : message ∈ futureAssertions) :
    kind.name ++ " element type mismatch: host end carries " ++ rest ≠ message := by
  intro same
  have letters := congrArg (fun text => text.toList.take 9) same
  simp only [futureAssertions, List.mem_cons, List.not_mem_nil, or_false] at member
  rcases member with rfl | rfl | rfl <;> cases kind <;> simp [Kind.name] at letters

theorem Permitted.not_futureAssertion {failure : Failure} (permitted : Permitted layer failure)
    {message : String} (member : message ∈ futureAssertions) : failure ≠ .assertion message := by
  cases permitted with
  | trap text => simp
  | element inner => simp
  | typeMismatch => simp only [futureAssertions] at member; rintro ⟨⟩; simp at member
  | nonEmpty => simp only [futureAssertions] at member; rintro ⟨⟩; simp at member
  | charElement => simp only [futureAssertions] at member; rintro ⟨⟩; simp at member
  | noMemory => simp only [futureAssertions] at member; rintro ⟨⟩; simp at member
  | lowerMismatch kind t declared =>
      intro same
      injection same with texts
      exact lowerMismatch_ne kind _ message member (by simpa [String.append_assoc] using texts)

section

variable {s : State layer}

theorem Inv.single (inv : Inv none s) (future : s.kind = .future) {side : Side}
    (busy : (s.ends side).copying) : (s.buffers (s.currentBuffer side)).length = 1 :=
  (inv.future future).single _ (Nat.sub_lt (inv.accounting.busy side busy) Nat.one_pos)

theorem Settled.told_or_waits (inv : Inv none s) (future : s.kind = .future) {side : Side}
    (settled : Settled s side) : toldCompleted s side ∨ completionWaits s side := by
  rcases settled with ⟨_, r, member, about, payload⟩ | ⟨_, armed⟩
  · obtain ⟨sameSide, _⟩ := (inv.future future).reported r member _ about
    exact .inl ⟨r, member, sameSide.symm, about, payload⟩
  · refine .inr ⟨armed, fun live index place => ?_⟩
    refine getPendingEvent_meets inv live armed place (by simp)
      fun copy tuple clears state delivery => ?_
    cases delivery with
    | stream armed' place' => simp [armed] at armed'
    | future armed' place' =>
        simp only [armed, Option.some.injEq, PendingEvent.futureEvent.injEq] at armed'
        simp [futureResult, ← armed'.1]
    | idle armed' place' => simp [armed] at armed'

theorem toldCompleted.moved (inv : Inv none s) (future : s.kind = .future) {side : Side}
    (told : toldCompleted s side) : s.transfers ≠ [] := by
  obtain ⟨r, member, _, about, payload⟩ := told
  obtain ⟨_, _, _, completed⟩ := (inv.future future).reported r member _ about
  intro untouched
  have full := completed.mp payload
  rw [(inv.future future).uncopied untouched] at full
  simp at full

theorem completionWaits.moved (inv : Inv none s) (future : s.kind = .future) {side : Side}
    (live : s.Exists side) (waits : completionWaits s side) : s.transfers ≠ [] := by
  obtain ⟨_, busy, _, full, _⟩ := inv.control.event side _ live waits.1
  intro untouched
  have empty := full.mpr rfl
  rw [GuestBuffer.remain, inv.single future busy,
    (inv.future future).uncopied untouched] at empty
  simp at empty

theorem dropEnd_done {elem : Option layer.Elem} {inst hi : Nat} {outcome : Outcome}
    {s' : State layer} (inv : Inv none s) (future : s.kind = .future)
    (dropped : (dropEnd .future .writable elem inst hi).run s = .ok (outcome, s')) :
    (s.ends .writable).state = .done := by
  have meets : (dropEnd .future .writable elem inst hi).Meets (fun _ => True)
      (fun _ _ => (s.ends .writable).state = .done) s := by
    simp only [dropEnd, Program.meets_bind]
    refine requireMayLeave_meets (fun _ _ => trivial) ?_
    have removed : (removeEnd .future .writable inst hi
        (dropName .future .writable ++ ": wrong end type for this handle")).Meets
        (Permitted layer) (fun _ next => next.kind = s.kind ∧
          (next.ends .writable).state = (s.ends .writable).state) s :=
      removeEnd_meets inv.placement fun table _ _ _ => ⟨rfl, by simp [taken, resituated]⟩
    refine removed.mono (fun _ _ => trivial) fun _ next same => ?_
    simp only [Program.meets_get, meets_trapIf, CopyEnd.drop, Program.meets_bind]
    refine ⟨fun _ => trivial, fun _ => ⟨fun _ => trivial, fun written => ?_⟩⟩
    have done : (s.ends .writable).state = .done := by
      by_contra unfinished
      exact written ⟨same.1.trans future, trivial, by rw [same.2]; exact unfinished⟩
    exact ⟨fun _ => trivial, fun _ => Program.meets_of_ok fun _ _ _ =>
      Program.meets_of_ok fun _ _ _ => done⟩
  exact meets.of_ok dropped

end

/-- A future delivers once, whatever the order of its builtins. -/
theorem future_deliversOnce {s : State layer} (reachable : Reachable s)
    (future : s.kind = .future) : DeliversOnce s := by
  have inv := (Reachable.stable reachable).inv
  have shape := inv.future future
  refine
    { once := ?_
      completes := fun moved side => ((shape.copied moved).2.2 side).2.2.told_or_waits inv future
      truthful := fun side told => told.elim (toldCompleted.moved inv future)
        fun waits => completionWaits.moved inv future waits.1 waits.2
      exclusive := fun r member ref about full =>
        (shape.reported r member ref about).2.2.2.mpr full
      informed := fun elem inst hi outcome s' dropped =>
        shape.told .writable (dropEnd_done inv future dropped)
      consistent := fun action failure failed message member =>
        ((step_meets action s (Reachable.stable reachable)).of_error failed).not_futureAssertion
          member }
  by_cases moved : s.transfers = []
  · simp [moved]
  · exact Nat.le_of_eq (shape.copied moved).1

/-- The writer parks its byte, the reader takes it, and the writer is told. -/
def oneDelivery : List (Action byteLayer) :=
  [.transfer .future 0 1 (some ()) (some ()) 1,
   .copy .future .writable (byteCopy 0 2 0 1),
   .copy .future .readable (byteCopy 1 1 0 1),
   .addHandle 0 (some 7), .join 0 2 1, .deliver 7 .writable]

theorem future_deliversOnce_oneDelivery :
    ∃ s : State byteLayer, stateAfter .future oneDelivery = some s ∧ s.reports.length = 2 ∧
      DeliversOnce s := by
  have facts : (stateAfter .future oneDelivery).map (fun s => (s.kind, s.reports.length)) =
      some (.future, 2) := by decide +kernel
  obtain ⟨s, after, both⟩ := Option.map_eq_some_iff.mp facts
  simp only [Prod.mk.injEq] at both
  exact ⟨s, after, both.2, future_deliversOnce (stateAfter_reachable after) both.1⟩

/-- The reader goes before anything is written, and the writer hears of it. -/
def unreadFuture : List (Action byteLayer) :=
  [.drop .future .readable (some ()) 0 1, .addHandle 0 (some 7), .join 0 2 1,
   .deliver 7 .writable]

/-- A writable end can be dropped although no copy of its own was ever reported. -/
theorem drop_without_report :
    ¬∀ (s s' : State byteLayer) (outcome : Outcome), Reachable s → s.kind = .future →
      (dropEnd .future .writable (some ()) 0 2).run s = .ok (outcome, s') →
      ∃ r ∈ s.reports, r.side = .writable ∧ r.copy.isSome = true ∧
        (r.event.payload = CopyResult.completed.code ∨
          r.event.payload = CopyResult.dropped.code) := by
  intro literal
  have facts : (stateAfter .future unreadFuture).map (fun s =>
      (s.kind, s.reports.map (·.copy),
        ((dropEnd .future .writable (some ()) 0 2).run s).toOption.isSome)) =
      some (.future, [none], true) := by decide
  obtain ⟨s, after, all⟩ := Option.map_eq_some_iff.mp facts
  simp only [Prod.mk.injEq] at all
  obtain ⟨kind, copies, drops⟩ := all
  cases dropped : (dropEnd .future .writable (some ()) 0 2).run s with
  | error failure => simp [dropped, Except.toOption] at drops
  | ok reached =>
      obtain ⟨r, member, _, reported, _⟩ :=
        literal s reached.2 reached.1 (stateAfter_reachable after) kind dropped
      have silent : r.copy ∈ s.reports.map (·.copy) := List.mem_map_of_mem member
      rw [copies, List.mem_singleton] at silent
      simp [silent] at reported

end Polyengine.Intrinsics.StreamInvariant
