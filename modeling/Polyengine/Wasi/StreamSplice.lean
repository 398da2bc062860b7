import Mathlib.Data.List.Infix
import Polyengine.Wasi.SinkOutputStream

/-!
# Splicing

The `splice` of the output streams, which reads from an input stream before it asks whether the output
takes the bytes.
-/

set_option autoImplicit false

namespace Polyengine.Wasi.Io

open Polyengine.Library

/-- The buffer-backed `InputStream`. -/
structure InputStream where
  buf : List UInt8
  pos : Nat
  closed : Bool
  deriving Repr, DecidableEq

def InputStream.read (stream : InputStream) (len : Nat) :
    Except Failure (List UInt8) × InputStream :=
  if stream.closed then (.error .closed, stream)
  else
    let n := min len (stream.buf.length - stream.pos)
    let out := (stream.buf.drop stream.pos).take n
    let read := { stream with pos := stream.pos + n }
    if 0 < len ∧ out.length = 0 then (.error .closed, read) else (.ok out, read)

/-- An input stream to splice from; a stream that is fed is as its operations leave it. -/
inductive Input where
  | buffered (stream : InputStream)
  | fed (stream : FedInputStream) (sound : stream.Sound)

namespace Input

def read (input : Input) (len : Nat) : Except Failure (List UInt8) × Input :=
  match input with
  | .buffered stream => ((stream.read len).1, .buffered (stream.read len).2)
  | .fed stream sound =>
      ((stream.read len).1, .fed (stream.read len).2 ((stream.read_takes len).sound sound))

/-- The bytes that have not been taken. -/
def contents : Input → List UInt8
  | .buffered stream => stream.buf.drop stream.pos
  | .fed stream _ => stream.buffer.flatten

def closed : Input → Bool
  | .buffered stream => stream.closed
  | .fed stream _ => stream.closed

/-- How many bytes the input has for a request. -/
def offered (input : Input) (len : Nat) : Nat :=
  if input.closed then 0 else min len input.contents.length

end Input

/-- The `OutputStream` over a byte sink, with the bytes that the sink was handed. -/
structure OutputStream where
  closed : Bool
  written : List UInt8
  deriving Repr, DecidableEq

namespace OutputStream

def checkWrite (stream : OutputStream) : Except Failure Int :=
  if stream.closed then .error .closed else .ok 65536

/-- `write`; `thrown` is what the sink throws, if it does. -/
def write (stream : OutputStream) (contents : List UInt8) (thrown : Option Reason) :
    Except Failure OutputStream :=
  if stream.closed then .error .closed
  else
    match thrown with
    | some reason => .error (.thrown reason)
    | none => .ok { stream with written := stream.written ++ contents }

end OutputStream

/-- The body of `splice`, over the `write` of a stream. -/
def spliceWith {Stream : Type} (write : List UInt8 → Except Failure Stream) (stream : Stream)
    (src : Input) (len : Nat) : Except Failure Nat × Input × Stream :=
  match src.read len with
  | (.error failure, src) => (.error failure, src, stream)
  | (.ok chunk, src) =>
      match write chunk with
      | .error failure => (.error failure, src, stream)
      | .ok next => (.ok chunk.length, src, next)

/-- `splice`, and `blockingSplice`. -/
def OutputStream.splice (stream : OutputStream) (thrown : Option Reason) (src : Input) (len : Nat) :
    Except Failure Nat × Input × OutputStream :=
  spliceWith (stream.write · thrown) stream src len

namespace SinkOutputStream

def splice (stream : SinkOutputStream) (src : Input) (len : Nat) :
    Except Failure Nat × Input × SinkOutputStream :=
  spliceWith stream.write stream src len

/-- `blockingSplice` returns at once, or waits for the sink to drain and then returns the count. -/
inductive Blocking where
  | returned (outcome : Except Failure Nat)
  | waits (n : Nat)

def blockingSplice (stream : SinkOutputStream) (src : Input) (len : Nat) :
    Blocking × Input × SinkOutputStream :=
  match stream.splice src len with
  | (.error failure, src, stream) => (.returned (.error failure), src, stream)
  | (.ok n, src, stream) =>
      match stream.blockingFlush with
      | some outcome => (.returned (outcome.map fun _ => n), src, stream)
      | none => (.waits n, src, stream)

/-- What a `blockingSplice` that waited returns when it is woken, unless it goes on waiting. -/
def wakeSplice (stream : SinkOutputStream) (n : Nat) : Option (Except Failure Nat) :=
  if stream.settled then some (stream.checkOpen.map fun _ => n) else none

/-- The bytes that were accepted. -/
def accepted (stream : SinkOutputStream) : List UInt8 := (stream.jobs.map Job.contents).flatten

/-- The stream is open, and its permit is for so many bytes. -/
def Permits (stream : SinkOutputStream) (count : Nat) : Prop :=
  stream.closed = false ∧ stream.failure = .undefined ∧
    (count : Int) ≤ stream.highWater - stream.queued

end SinkOutputStream

/-- What a splice is to do: to move some bytes within the request and the permit from the front of the
input to the end of the output, or to leave the input alone and fail. -/
def Transfers (src : Input) (len : Nat) (permit : Except Failure Int) (accepted : List UInt8)
    (result : Except Failure Nat) (left : Input) (acceptedAfter : List UInt8) : Prop :=
  match result with
  | .ok n => n ≤ len ∧ (∃ limit, permit = .ok limit ∧ n ≤ limit) ∧
      n ≤ src.contents.length ∧ left.contents = src.contents.drop n ∧
      accepted ++ src.contents.take n <+: acceptedAfter
  | .error failure => (∀ message, failure ≠ .trap message) ∧ left.contents = src.contents

/-! ## What a read takes -/

namespace Input

theorem fed_read {stream : FedInputStream} (sound : stream.Sound) (len : Nat) :
    FedInputStream.bytesOf (stream.read len).1 ++ (stream.read len).2.buffer.flatten =
      stream.buffer.flatten := ((stream.read_takes len).bytes sound).symm

theorem read_offered {src : Input} {len : Nat} (some : 0 < src.offered len) :
    (src.read len).1 = .ok (src.contents.take (src.offered len)) ∧
      (src.read len).2.contents = src.contents.drop (src.offered len) := by
  have opened : src.closed = false := by
    by_contra closed
    rw [offered, if_pos (Bool.of_not_eq_false closed)] at some
    exact Nat.lt_irrefl 0 some
  have count : src.offered len = min len src.contents.length := by
    rw [offered, if_neg (Bool.eq_false_iff.mp opened)]
  rw [count] at some ⊢
  cases src with
  | buffered stream =>
      have opened : stream.closed = false := opened
      have length : (stream.buf.drop stream.pos).length = stream.buf.length - stream.pos :=
        List.length_drop
      simp only [contents, length] at some ⊢
      have nonempty : ¬(0 < len ∧ ((stream.buf.drop stream.pos).take
          (min len (stream.buf.length - stream.pos))).length = 0) := by
        rw [List.length_take, length]
        omega
      simp only [read, InputStream.read, opened, Bool.false_eq_true, if_false, if_neg nonempty,
        List.drop_drop]
      exact ⟨trivial, trivial⟩
  | fed stream sound =>
      have opened : stream.closed = false := opened
      have enough : 0 < stream.buffered := by
        rw [sound.counted]
        simp only [contents] at some
        omega
      obtain ⟨out, left⟩ := FedInputStream.takeBytes_eq stream.buffer (min len stream.buffered)
        (sound.counted ▸ Nat.min_le_right _ _)
      have taken : (stream.read len) = (.ok (stream.take len).1, (stream.take len).2) := by
        simp only [FedInputStream.read, opened, Bool.false_eq_true, if_false, if_pos enough]
      have isOut : (stream.take len).1 =
          stream.buffer.flatten.take (min len stream.buffer.flatten.length) := by
        rw [← sound.counted]
        exact out
      have split := fed_read sound len
      simp only [read, contents, taken, FedInputStream.bytesOf, isOut] at split ⊢
      refine ⟨trivial, ?_⟩
      have whole := List.take_append_drop (min len stream.buffer.flatten.length)
        stream.buffer.flatten
      exact List.append_cancel_left (split.trans whole.symm)

theorem read_nothing {src : Input} {len : Nat} (none : src.offered len = 0) :
    (src.read len).2.contents = src.contents ∧
      ((src.read len).1 = .ok [] ∨ ∃ failure, (src.read len).1 = .error failure ∧
        ∀ message, failure ≠ .trap message) := by
  by_cases closed : src.closed = true
  · cases src with
    | buffered stream =>
        have closed : stream.closed = true := closed
        simp only [read, InputStream.read, if_pos closed]
        exact ⟨trivial, .inr ⟨_, rfl, by simp⟩⟩
    | fed stream sound =>
        have closed : stream.closed = true := closed
        have failed : stream.read len = (.error .closed, stream) := by
          rw [FedInputStream.read, if_pos closed]
        simp only [read, contents, failed]
        exact ⟨trivial, .inr ⟨_, rfl, by simp⟩⟩
  · rw [offered, if_neg closed] at none
    cases src with
    | buffered stream =>
        have opened : ¬stream.closed = true := closed
        have zero : min len (stream.buf.length - stream.pos) = 0 := by
          rwa [contents, List.length_drop] at none
        simp only [read, InputStream.read, if_neg opened, zero, List.take_zero, Nat.add_zero]
        split
        · exact ⟨rfl, .inr ⟨_, rfl, by simp⟩⟩
        · exact ⟨rfl, .inl rfl⟩
    | fed stream sound =>
        have opened : ¬stream.closed = true := closed
        rw [contents, ← sound.counted] at none
        have split := fed_read sound len
        simp only [read, contents]
        by_cases enough : 0 < stream.buffered
        · have taken : stream.read len = (.ok (stream.take len).1, (stream.take len).2) := by
            rw [FedInputStream.read, if_neg opened, if_pos enough]
          have out : (stream.take len).1 = [] := by
            have isOut := (FedInputStream.takeBytes_eq stream.buffer (min len stream.buffered)
              (sound.counted ▸ Nat.min_le_right _ _)).1
            rw [none, List.take_zero] at isOut
            simp only [FedInputStream.take, none, isOut]
          rw [taken] at split ⊢
          simp only [FedInputStream.bytesOf, out, List.nil_append] at split ⊢
          exact ⟨split, .inl trivial⟩
        · simp only [FedInputStream.read, if_neg opened, if_neg enough]
          split
          · exact ⟨rfl, .inr ⟨_, rfl, by simp⟩⟩
          · split
            · exact ⟨rfl, .inr ⟨_, rfl, by simp⟩⟩
            · exact ⟨rfl, .inl rfl⟩

end Input

/-! ## Where a splice moves the bytes -/

section

variable {Stream : Type} {write : List UInt8 → Except Failure Stream} {stream : Stream} {src : Input}
  {len : Nat}

theorem spliceWith_offered (some : 0 < src.offered len) :
    (∃ failure, write (src.contents.take (src.offered len)) = .error failure ∧
        spliceWith write stream src len = (.error failure, (src.read len).2, stream)) ∨
      ∃ next, write (src.contents.take (src.offered len)) = .ok next ∧
        spliceWith write stream src len = (.ok (src.offered len), (src.read len).2, next) := by
  obtain ⟨isRead, _⟩ := Input.read_offered some
  have count : (src.contents.take (src.offered len)).length = src.offered len := by
    rw [List.length_take, Nat.min_eq_left]
    rw [Input.offered]
    split
    · exact Nat.zero_le _
    · exact Nat.min_le_right _ _
  have unfolded : spliceWith write stream src len =
      match write (src.contents.take (src.offered len)) with
      | .error failure => (.error failure, (src.read len).2, stream)
      | .ok next => (.ok (src.offered len), (src.read len).2, next) := by
    unfold spliceWith
    cases result : src.read len with
    | mk outcome left =>
        rw [result] at isRead
        simp only at isRead
        simp only [isRead, count]
  rw [unfolded]
  cases write (src.contents.take (src.offered len)) with
  | error failure => exact .inl ⟨failure, rfl, rfl⟩
  | ok next => exact .inr ⟨next, rfl, rfl⟩

theorem spliceWith_nothing (none : src.offered len = 0) :
    ((spliceWith write stream src len).2.1 = (src.read len).2) ∧
      ((∃ failure, (spliceWith write stream src len).1 = .error failure ∧
          (write [] = .error failure ∨ ∀ message, failure ≠ .trap message)) ∨
        ∃ next, write [] = .ok next ∧ spliceWith write stream src len =
          (.ok 0, (src.read len).2, next)) := by
  obtain ⟨_, outcome⟩ := Input.read_nothing none
  unfold spliceWith
  cases result : src.read len with
  | mk read left =>
      rw [result] at outcome
      obtain empty | ⟨failure, failed, noTrap⟩ := outcome
      · simp only at empty
        subst empty
        simp only
        cases written : write [] with
        | error failure => exact ⟨rfl, .inl ⟨failure, rfl, .inl rfl⟩⟩
        | ok next => exact ⟨rfl, .inr ⟨next, rfl, rfl⟩⟩
      · simp only at failed
        subst failed
        exact ⟨rfl, .inl ⟨failure, rfl, .inr noTrap⟩⟩

theorem Input.offered_le (src : Input) (len : Nat) :
    src.offered len ≤ len ∧ src.offered len ≤ src.contents.length := by
  unfold Input.offered
  split
  · exact ⟨Nat.zero_le _, Nat.zero_le _⟩
  · exact ⟨Nat.min_le_left _ _, Nat.min_le_right _ _⟩

theorem spliceWith_transfers_iff {permit : Except Failure Int} {accepted : List UInt8}
    {acceptedAfter : Stream → List UInt8} {takes : Prop}
    (writes : ∀ chunk next, write chunk = .ok next → takes ∧ acceptedAfter next = accepted ++ chunk)
    (within : takes → ∃ limit, permit = .ok limit ∧ 0 ≤ limit ∧ ∀ chunk : List UInt8,
      (chunk.length : Int) ≤ limit → ∃ next, write chunk = .ok next)
    (noTrap : ∀ message, write [] ≠ .error (.trap message)) :
    Transfers src len permit accepted (spliceWith write stream src len).1
        (spliceWith write stream src len).2.1
        (acceptedAfter (spliceWith write stream src len).2.2) ↔
      src.offered len = 0 ∨
        (takes ∧ ∀ limit, permit = .ok limit → (src.offered len : Int) ≤ limit) := by
  obtain ⟨inRequest, inContents⟩ := src.offered_le len
  by_cases none : src.offered len = 0
  · refine ⟨fun _ => .inl none, fun _ => ?_⟩
    obtain ⟨unmoved, _⟩ := Input.read_nothing none
    obtain ⟨left, ⟨failure, failed, why⟩ | ⟨next, written, spliced⟩⟩ :=
      @spliceWith_nothing _ write stream _ _ none
    · rw [left, failed]
      refine ⟨fun message isTrap => ?_, unmoved⟩
      obtain refused | other := why
      · exact noTrap message (isTrap ▸ refused)
      · exact other message isTrap
    · obtain ⟨opened, after⟩ := writes [] next written
      obtain ⟨limit, isPermit, positive, _⟩ := within opened
      rw [spliced]
      refine ⟨Nat.zero_le _, ⟨limit, isPermit, positive⟩, Nat.zero_le _, unmoved, ?_⟩
      rw [after, List.take_zero]
  · have positive : 0 < src.offered len := Nat.pos_of_ne_zero none
    have left := (Input.read_offered positive).2
    have count : (src.contents.take (src.offered len)).length = src.offered len := by
      rw [List.length_take, Nat.min_eq_left inContents]
    obtain ⟨failure, refused, spliced⟩ | ⟨next, written, spliced⟩ :=
      @spliceWith_offered _ write stream _ _ positive
    · rw [spliced]
      constructor
      · intro ⟨_, unmoved⟩
        have lengths := congrArg List.length (left.symm.trans unmoved)
        rw [List.length_drop] at lengths
        omega
      · rintro (absent | ⟨opened, bound⟩)
        · exact absurd absent none
        · obtain ⟨limit, isPermit, _, accepts⟩ := within opened
          obtain ⟨next, written⟩ := accepts (src.contents.take (src.offered len))
            (by rw [count]; exact bound limit isPermit)
          cases refused.symm.trans written
    · obtain ⟨opened, after⟩ := writes _ next written
      rw [spliced]
      constructor
      · intro ⟨_, ⟨limit, isPermit, bound⟩, _⟩
        refine .inr ⟨opened, fun other isOther => ?_⟩
        cases isPermit.symm.trans isOther
        exact bound
      · rintro (absent | ⟨_, bound⟩)
        · exact absurd absent none
        · obtain ⟨limit, isPermit, _, _⟩ := within opened
          refine ⟨inRequest, ⟨limit, isPermit, bound limit isPermit⟩, inContents, left, ?_⟩
          rw [after]

end

theorem outputStream_splice_iff (stream : OutputStream) (thrown : Option Reason) (src : Input)
    (len : Nat) :
    let spliced := stream.splice thrown src len
    Transfers src len stream.checkWrite stream.written spliced.1 spliced.2.1 spliced.2.2.written ↔
      src.offered len = 0 ∨
        (stream.closed = false ∧ thrown = none ∧ src.offered len ≤ 65536) := by
  have iff := @spliceWith_transfers_iff _ (stream.write · thrown) stream src len stream.checkWrite
    stream.written OutputStream.written (stream.closed = false ∧ thrown = none)
  simp only [OutputStream.splice]
  rw [iff, and_assoc]
  · refine or_congr_right (and_congr_right fun opened => and_congr_right fun _ => ?_)
    simp only [OutputStream.checkWrite, opened, Bool.false_eq_true, if_false, Except.ok.injEq,
      forall_eq']
    omega
  · intro chunk next written
    unfold OutputStream.write at written
    split at written
    · cases written
    case isFalse opened =>
      cases thrown with
      | some reason => cases written
      | none =>
          cases written
          exact ⟨⟨Bool.eq_false_iff.mpr opened, rfl⟩, rfl⟩
  · rintro ⟨opened, rfl⟩
    refine ⟨65536, ?_, by decide, fun chunk _ => ?_⟩
    · simp only [OutputStream.checkWrite, opened, Bool.false_eq_true, if_false]
    · simp only [OutputStream.write, opened, Bool.false_eq_true, if_false]
      exact ⟨_, rfl⟩
  · intro message
    unfold OutputStream.write
    split
    · exact nofun
    · cases thrown <;> exact nofun

theorem sinkOutputStream_splice_iff (stream : SinkOutputStream)
    (permitted : stream.queued ≤ stream.highWater) (src : Input) (len : Nat) :
    let spliced := stream.splice src len
    Transfers src len stream.checkWrite stream.accepted spliced.1 spliced.2.1
        spliced.2.2.accepted ↔
      src.offered len = 0 ∨ stream.Permits (src.offered len) := by
  have permit : stream.checkOpen = .ok () →
      stream.checkWrite = .ok (stream.highWater - stream.queued) := by
    intro opened
    rw [SinkOutputStream.checkWrite, opened]
    have same : max 0 (stream.highWater - stream.queued) = stream.highWater - stream.queued := by
      omega
    exact congrArg Except.ok same
  have iff := @spliceWith_transfers_iff _ stream.write stream src len stream.checkWrite
    stream.accepted SinkOutputStream.accepted (stream.checkOpen = .ok ())
  simp only [SinkOutputStream.splice]
  rw [iff, SinkOutputStream.Permits, ← and_assoc, ← SinkOutputStream.checkOpen_ok_iff]
  · refine or_congr_right (and_congr_right fun opened => ?_)
    simp only [permit opened, Except.ok.injEq, forall_eq']
  · intro chunk next written
    obtain ⟨opened, _, rfl⟩ := SinkOutputStream.write_ok written
    refine ⟨opened, ?_⟩
    simp [SinkOutputStream.accepted]
  · intro opened
    refine ⟨_, permit opened, by omega, fun chunk bound => ?_⟩
    rw [SinkOutputStream.write, opened]
    simp only [if_neg (Int.not_lt.mpr bound)]
    exact ⟨_, rfl⟩
  · intro message trapped
    have refused := stream.checkOpen_noTrap message
    rw [SinkOutputStream.write] at trapped
    cases opened : stream.checkOpen with
    | error failure =>
        rw [opened] at trapped refused
        cases trapped
        exact refused rfl
    | ok done =>
        have within : ¬(stream.highWater - stream.queued < (([] : List UInt8).length : Int)) := by
          rw [List.length_nil]
          omega
        rw [opened] at trapped
        simp only [if_neg within] at trapped
        cases trapped

theorem sinkOutputStream_splice_ok {stream next : SinkOutputStream}
    (permitted : stream.queued ≤ stream.highWater) {src left : Input} {len n : Nat}
    (spliced : stream.splice src len = (.ok n, left, next)) :
    n = src.offered len ∧ next.checkOpen = .ok () ∧
      Transfers src len stream.checkWrite stream.accepted (.ok n) left next.accepted := by
  have stillOpen : ∀ chunk, stream.write chunk = .ok next → next.checkOpen = .ok () := by
    intro chunk written
    obtain ⟨opened, _, rfl⟩ := SinkOutputStream.write_ok written
    exact opened
  have iff := sinkOutputStream_splice_iff stream permitted src len
  simp only [spliced] at iff
  by_cases none : src.offered len = 0
  · obtain ⟨_, ⟨_, failed, _⟩ | ⟨_, written, moved⟩⟩ :=
      @spliceWith_nothing _ stream.write stream _ _ none
    · rw [SinkOutputStream.splice] at spliced
      rw [spliced] at failed
      cases failed
    · cases spliced.symm.trans moved
      exact ⟨none.symm, stillOpen _ written, iff.mpr (.inl none)⟩
  · obtain ⟨_, _, moved⟩ | ⟨_, written, moved⟩ :=
      @spliceWith_offered _ stream.write stream _ _ (Nat.pos_of_ne_zero none)
    · cases spliced.symm.trans moved
    · cases spliced.symm.trans moved
      obtain ⟨opened, within, _⟩ := SinkOutputStream.write_ok written
      rw [List.length_take, Nat.min_eq_left (src.offered_le len).2] at within
      obtain ⟨notClosed, unfailed⟩ := SinkOutputStream.checkOpen_ok opened
      exact ⟨rfl, stillOpen _ written, iff.mpr (.inr ⟨notClosed, unfailed, within⟩)⟩

theorem blockingSplice_returned_iff {stream next : SinkOutputStream}
    (permitted : stream.queued ≤ stream.highWater) {src left : Input} {len : Nat}
    {outcome : Except Failure Nat}
    (returned : stream.blockingSplice src len = (.returned outcome, left, next)) :
    Transfers src len stream.checkWrite stream.accepted outcome left next.accepted ↔
      src.offered len = 0 ∨ stream.Permits (src.offered len) := by
  have iff := sinkOutputStream_splice_iff stream permitted src len
  rw [SinkOutputStream.blockingSplice] at returned
  rcases spliced : stream.splice src len with ⟨result, input, output⟩
  simp only [spliced] at iff returned
  cases result with
  | error failure =>
      cases returned
      exact iff
  | ok n =>
      have opened := (sinkOutputStream_splice_ok permitted spliced).2.1
      simp only [SinkOutputStream.blockingFlush, opened] at returned
      split at returned
      case h_2 => cases returned
      case h_1 outcome flushed =>
        split at flushed
        · cases flushed
          cases returned
          exact iff
        · cases flushed

theorem blockingSplice_waited_iff {stream next : SinkOutputStream}
    (permitted : stream.queued ≤ stream.highWater) {src left : Input} {len n : Nat}
    (waits : stream.blockingSplice src len = (.waits n, left, next)) (run : SinkOutputStream.Run)
    (started : run.stream = next) (actions : List SinkOutputStream.Action)
    (outcome : Except Failure Nat) :
    let after := (Transition.runAll SinkOutputStream.step actions run).stream
    after.wakeSplice n = some outcome →
      (Transfers src len stream.checkWrite stream.accepted outcome left after.accepted ↔
        src.offered len = 0 ∨ (after.closed = false ∧ after.failure = .undefined)) := by
  intro after woken
  have spliced : stream.splice src len = (.ok n, left, next) := by
    rw [SinkOutputStream.blockingSplice] at waits
    rcases spliced : stream.splice src len with ⟨result, input, output⟩
    simp only [spliced] at waits
    cases result with
    | error failure => cases waits
    | ok n =>
        simp only at waits
        split at waits
        · cases waits
        · cases waits
          rfl
  obtain ⟨isOffered, _, inRequest, permit, inContents, moved, appended⟩ :=
    sinkOutputStream_splice_ok permitted spliced
  have grown : next.accepted <+: after.accepted := by
    have keeps := @Transition.runAll_invariant _ _ SinkOutputStream.step
      (fun other => run.stream.jobs.map Job.contents <+: other.stream.jobs.map Job.contents)
      (fun action other before => before.trans (SinkOutputStream.Run.step_jobs action other))
    obtain ⟨later, jobs⟩ := keeps actions List.prefix_rfl
    rw [SinkOutputStream.accepted, SinkOutputStream.accepted, ← started, ← jobs,
      List.flatten_append]
    exact List.prefix_append _ _
  have returned : outcome = after.checkOpen.map fun _ => n := by
    rw [SinkOutputStream.wakeSplice] at woken
    split at woken
    · exact (Option.some.inj woken).symm
    · cases woken
  rw [← SinkOutputStream.checkOpen_ok_iff, returned]
  cases opened : after.checkOpen with
  | ok done =>
      exact ⟨fun _ => .inr rfl, fun _ => ⟨inRequest, permit, inContents, moved,
        appended.trans grown⟩⟩
  | error failure =>
      have noTrap : ∀ message, failure ≠ .trap message := by
        rintro message rfl
        exact after.checkOpen_noTrap message opened
      constructor
      · intro ⟨_, unmoved⟩
        have lengths := congrArg List.length (moved.symm.trans unmoved)
        rw [List.length_drop] at lengths
        left
        omega
      · rintro (none | isOpen)
        · refine ⟨noTrap, ?_⟩
          rw [moved, isOffered, none, List.drop_zero]
        · cases isOpen

end Polyengine.Wasi.Io
