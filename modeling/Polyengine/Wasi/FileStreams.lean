import Mathlib.Algebra.Order.Group.Nat
import Polyengine.Library.Splice
import Polyengine.Library.Transition
import Polyengine.Wasi.FsProvider

/-!
# File write streams

The streams that `write-via-stream` and `append-via-stream` hand out, over a backend that stores some
leading bytes of each chunk and says how many: the synchronous stream of 0.2, the one over an
asynchronous backend, and the loop of 0.3. A chunk whose count is short is not written again.
-/

set_option autoImplicit false

namespace Polyengine.Wasi

open Polyengine.Library

variable {Handle : Type}

/-! ## The file behind a stream -/

/-- The content of a file, and the bytes that calls stored in it, in order, with their positions. -/
structure FileState where
  content : List UInt8
  stored : List (UInt8 × Nat)
  deriving Repr, DecidableEq

/-- Store bytes at a position; a gap before it reads as zeros. -/
def FileState.store (file : FileState) (position : Nat) (bytes : List UInt8) : FileState where
  content := Splice.splice 0 file.content position bytes
  stored := file.stored ++ bytes.zipIdx position

/-- The answer to a `write` or an `append`: the count of leading bytes that were stored. -/
inductive Reply where
  | stored (count : Nat)
  | failed (code : FsErrorCode)
  deriving Repr, DecidableEq

/-- What a call that stored `count` leading bytes does to the file. -/
def BackendCall.storeInto (call : BackendCall Handle) (count : Nat) (file : FileState) : FileState :=
  match call with
  | .write _ buffer offset => file.store offset (buffer.take count)
  | .append _ buffer => file.store file.content.length (buffer.take count)
  | _ => file

/-- A write stream over a file: the chunks that were accepted from the guest, and those that the
backend has stored something of, with its counts. -/
structure Session (Handle : Type) where
  writer : FileWriter Handle
  file : FileState
  accepted : List (List UInt8)
  moved : List (List UInt8 × Nat)
  deriving Repr, DecidableEq

namespace Session

def start (writer : FileWriter Handle) (file : FileState) : Session Handle where
  writer
  file
  accepted := []
  moved := []

def accept (session : Session Handle) (chunk : List UInt8) : Session Handle :=
  { session with accepted := session.accepted ++ [chunk] }

/-- One call of the backend, and `cursor += count`. -/
def move (session : Session Handle) (chunk : List UInt8) (count : Nat) : Session Handle :=
  { session with
    writer := session.writer.advance count
    file := (session.writer.call chunk).storeInto count session.file
    moved := session.moved ++ [(chunk, count)] }

end Session

inductive StreamFailure where
  | closed
  | lastOperationFailed (code : FsErrorCode)
  | trap (message : String)
  deriving Repr, DecidableEq

/-! ## The synchronous stream of 0.2 -/

structure OutputStream (Handle : Type) where
  closed : Bool
  session : Session Handle
  deriving Repr, DecidableEq

namespace OutputStream

/-- `syncWriteStream` on the sink of a file. -/
def create (writer : FileWriter Handle) (file : FileState) : OutputStream Handle where
  closed := false
  session := .start writer file

def checkClosed (stream : OutputStream Handle) : Except StreamFailure Unit :=
  if stream.closed then throw .closed else return ()

/-- `write`, and with it `blockingWriteAndFlush`, `writeZeroes` and `splice`; `reply` is the answer of
the backend to the one call that the sink makes. -/
def write (stream : OutputStream Handle) (contents : List UInt8) (reply : Reply) :
    Except StreamFailure (OutputStream Handle) := do
  stream.checkClosed
  match reply with
  | .stored count =>
      return { stream with session := (stream.session.accept contents).move contents count }
  | .failed code => throw (.lastOperationFailed code)

/-- `flush` and `blockingFlush`. -/
def flush (stream : OutputStream Handle) : Except StreamFailure Unit := stream.checkClosed

inductive Action where
  | write (contents : List UInt8) (reply : Reply)
  | dispose
  deriving Repr, DecidableEq

def step : Action → OutputStream Handle → OutputStream Handle
  | .write contents reply, stream =>
      match stream.write contents reply with
      | .ok next => next
      | .error _ => stream
  | .dispose, stream => { stream with closed := true }

end OutputStream

/-! ## The stream over an asynchronous backend -/

/-- `queued` counts the bytes of the chunks in `running` and `tail`; `running` is the chunk whose
backend call has not been answered. -/
structure SinkOutputStream (Handle : Type) where
  highWater : Nat
  queued : Nat
  closed : Bool
  failure : Option FsErrorCode
  running : Option (List UInt8)
  tail : List (List UInt8)
  session : Session Handle
  deriving Repr, DecidableEq

namespace SinkOutputStream

def create (writer : FileWriter Handle) (file : FileState) : SinkOutputStream Handle where
  highWater := 65536
  queued := 0
  closed := false
  failure := none
  running := none
  tail := []
  session := .start writer file

def checkOpen (stream : SinkOutputStream Handle) : Except StreamFailure Unit :=
  if stream.closed then throw .closed
  else
    match stream.failure with
    | some code => throw (.lastOperationFailed code)
    | none => return ()

/-- `write`, and with it `writeZeroes` and `splice`. -/
def write (stream : SinkOutputStream Handle) (contents : List UInt8) :
    Except StreamFailure (SinkOutputStream Handle) := do
  stream.checkOpen
  if stream.highWater - stream.queued < contents.length then
    throw (.trap "wasi:io/streams.write: contents exceed the check-write permit")
  return { stream with
    queued := stream.queued + contents.length
    tail := stream.tail ++ [contents]
    session := stream.session.accept contents }

/-- The next job of the pump starts once the one before it has ended; after a failure it calls
nothing. -/
def startJob (stream : SinkOutputStream Handle) : SinkOutputStream Handle :=
  match stream.running, stream.tail with
  | none, contents :: rest =>
      if stream.failure = none then { stream with running := some contents, tail := rest }
      else { stream with queued := stream.queued - contents.length, tail := rest }
  | _, _ => stream

/-- The backend answers the call of the running job. -/
def endJob (stream : SinkOutputStream Handle) (reply : Reply) : SinkOutputStream Handle :=
  match stream.running with
  | none => stream
  | some contents =>
      let ended :=
        { stream with
          queued := stream.queued - contents.length
          running := none }
      match reply with
      | .stored count => { ended with session := stream.session.move contents count }
      | .failed code => { ended with failure := some code }

/-- `blockingFlush`: what it returns at once, unless it parks. -/
def blockingFlush (stream : SinkOutputStream Handle) : Option (Except StreamFailure Unit) :=
  match stream.checkOpen with
  | .error failure => some (.error failure)
  | .ok () => if stream.queued = 0 then some (.ok ()) else none

/-- What a parked flush returns when it is woken, unless it goes on waiting. -/
def wakeFlush (stream : SinkOutputStream Handle) : Option (Except StreamFailure Unit) :=
  if 0 < stream.queued ∧ stream.failure = none then none else some stream.checkOpen

inductive Action where
  | write (contents : List UInt8)
  | startJob
  | endJob (reply : Reply)
  | dispose
  deriving Repr, DecidableEq

def step : Action → SinkOutputStream Handle → SinkOutputStream Handle
  | .write contents, stream =>
      match stream.write contents with
      | .ok next => next
      | .error _ => stream
  | .startJob, stream => stream.startJob
  | .endJob reply, stream => stream.endJob reply
  | .dispose, stream => { stream with closed := true }

section

attribute [local simp] checkOpen write startJob endJob blockingFlush wakeFlush step

end

end SinkOutputStream

/-! ## The loop of 0.3 -/

/-- The chunks of the stream of the guest with the answers of the backend; `ending` is the error that
the stream ends with, if it does. -/
def drainStream (ending : Option FsErrorCode) :
    List (List UInt8 × Reply) → Session Handle → Except FsErrorCode Unit × Session Handle
  | [], session =>
      match ending with
      | none => (.ok (), session)
      | some code => (.error code, session)
  | (chunk, reply) :: rest, session =>
      match reply with
      | .stored count => drainStream ending rest ((session.accept chunk).move chunk count)
      | .failed code => (.error code, session.accept chunk)

/-! ## What a stream promises -/

/-- The file is as one call would leave it that stores all accepted bytes from `start` on: the bytes
stand there one behind the other, and each was stored once. -/
def HoldsAll (start : Nat) (before : FileState) (session : Session Handle) : Prop :=
  session.file = before.store start session.accepted.flatten

/-- The contract of the backend: some leading bytes of each chunk. -/
def Contract (moved : List (List UInt8 × Nat)) : Prop :=
  ∀ entry ∈ moved, entry.2 ≤ entry.1.length ∧ (entry.1 ≠ [] → 0 < entry.2)

def FileWriter.StandsAt (writer : FileWriter Handle) (position : Nat) : Prop :=
  match writer.target with
  | .cursor offset => offset = position
  | .append => True

/-- Every chunk is stored whole by the one call that it gets, and a cursor is the exact position of
the chunk. -/
def Intact (writer : FileWriter Handle) (position : Nat) : List (List UInt8 × Nat) → Prop
  | [] => True
  | (chunk, count) :: rest =>
      (chunk ≠ [] → count = chunk.length ∧ writer.StandsAt position) ∧
        Intact (writer.advance count) (position + chunk.length) rest

instance (start : Nat) (before : FileState) (session : Session Handle) :
    Decidable (HoldsAll start before session) :=
  inferInstanceAs (Decidable (_ = _))

instance (moved : List (List UInt8 × Nat)) : Decidable (Contract moved) :=
  inferInstanceAs (Decidable (∀ entry ∈ moved, _))

instance (writer : FileWriter Handle) (position : Nat) : Decidable (writer.StandsAt position) :=
  match target : writer.target with
  | .cursor offset => decidable_of_iff (offset = position) (by simp [FileWriter.StandsAt, target])
  | .append => .isTrue (by simp [FileWriter.StandsAt, target])

instance decideIntact (writer : FileWriter Handle) (position : Nat) :
    (moved : List (List UInt8 × Nat)) → Decidable (Intact writer position moved)
  | [] => .isTrue trivial
  | (chunk, count) :: rest =>
      let _ := decideIntact (writer.advance count) (position + chunk.length) rest
      inferInstanceAs (Decidable ((chunk ≠ [] → count = chunk.length ∧ writer.StandsAt position) ∧
        Intact (writer.advance count) (position + chunk.length) rest))

/-- The two operations: `write-via-stream` at an offset, or `append-via-stream`. -/
def writeOperation : Option Nat → Operation
  | some offset => .writeViaStream offset
  | none => .appendViaStream

/-- The position that the stream is to start at: the offset, or the end of the file. -/
def startOf (offset : Option Nat) (file : FileState) : Nat :=
  offset.getD file.content.length

/-! ## Calls in a row -/

/-- The file after calls in a row. -/
def transfer (writer : FileWriter Handle) (file : FileState) :
    List (List UInt8 × Nat) → FileState
  | [] => file
  | (chunk, count) :: rest =>
      transfer (writer.advance count) ((writer.call chunk).storeInto count file) rest

theorem FileState.store_append (file : FileState) (position : Nat) (first second : List UInt8) :
    (file.store position first).store (position + first.length) second =
      file.store position (first ++ second) := by
  simp [FileState.store, Splice.splice_append, List.zipIdx_append]

@[simp] theorem FileState.store_nil (file : FileState) (position : Nat) :
    file.store position [] = file := by
  simp [FileState.store]

/-- Where the writer puts its next chunk. -/
def FileWriter.position (writer : FileWriter Handle) (file : FileState) : Nat :=
  match writer.target with
  | .cursor offset => offset
  | .append => file.content.length

theorem storeInto_call (writer : FileWriter Handle) (chunk : List UInt8) (count : Nat)
    (file : FileState) :
    (writer.call chunk).storeInto count file =
      file.store (writer.position file) (chunk.take count) := by
  unfold FileWriter.call FileWriter.position
  cases writer.target <;> rfl

theorem transfer_stored (writer : FileWriter Handle) (file : FileState)
    (moved : List (List UInt8 × Nat)) :
    ∃ added, (transfer writer file moved).stored = file.stored ++ added ∧
      added.length ≤ (moved.map Prod.fst).flatten.length := by
  induction moved generalizing writer file with
  | nil => exact ⟨[], by simp [transfer], by simp⟩
  | cons entry rest ih =>
      obtain ⟨chunk, count⟩ := entry
      obtain ⟨added, stored, bound⟩ :=
        ih (writer.advance count) ((writer.call chunk).storeInto count file)
      refine ⟨(chunk.take count).zipIdx (writer.position file) ++ added, ?_, ?_⟩
      · rw [transfer, stored, storeInto_call]
        simp [FileState.store]
      · simp only [List.length_append, List.length_zipIdx, List.length_take, List.map_cons,
          List.flatten_cons]
        omega

theorem transfer_of_intact (writer : FileWriter Handle) (file : FileState) (position : Nat)
    (moved : List (List UInt8 × Nat)) (intact : Intact writer position moved)
    (atEnd : writer.target = .append → position = file.content.length) :
    transfer writer file moved = file.store position (moved.map Prod.fst).flatten := by
  induction moved generalizing writer file position with
  | nil => simp [transfer]
  | cons entry rest ih =>
      obtain ⟨chunk, count⟩ := entry
      obtain ⟨whole, restIntact⟩ := intact
      have first : (writer.call chunk).storeInto count file = file.store position chunk := by
        rw [storeInto_call]
        by_cases empty : chunk = []
        · simp [empty]
        · obtain ⟨full, stands⟩ := whole empty
          have same : writer.position file = position := by
            unfold FileWriter.position
            unfold FileWriter.StandsAt at stands
            cases target : writer.target with
            | cursor offset => simpa [target] using stands
            | append => exact (atEnd target).symm
          rw [same, full, List.take_length]
      have next : (writer.advance count).target = .append →
          position + chunk.length = (file.store position chunk).content.length := by
        intro appends
        have target : writer.target = .append := by
          unfold FileWriter.advance at appends
          cases target : writer.target with
          | cursor offset => simp [target] at appends
          | append => rfl
        rw [atEnd target, FileState.store, Splice.splice_length, List.length_append]
      rw [transfer, first, ih _ _ _ restIntact next, FileState.store_append]
      rfl

theorem intact_of_stored (writer : FileWriter Handle) (file : FileState) (position : Nat)
    (moved : List (List UInt8 × Nat)) (contract : Contract moved)
    (holds : (transfer writer file moved).stored =
      file.stored ++ (moved.map Prod.fst).flatten.zipIdx position) :
    Intact writer position moved := by
  induction moved generalizing writer file position with
  | nil => trivial
  | cons entry rest ih =>
      obtain ⟨chunk, count⟩ := entry
      obtain ⟨added, stored, bound⟩ :=
        transfer_stored (writer.advance count) ((writer.call chunk).storeInto count file) rest
      have fits : count ≤ chunk.length := (contract (chunk, count) List.mem_cons_self).1
      have pieces : (chunk.take count).zipIdx (writer.position file) ++ added =
          chunk.zipIdx position ++
            (rest.map Prod.fst).flatten.zipIdx (position + chunk.length) := by
        rw [transfer, stored, storeInto_call] at holds
        simpa [FileState.store, List.zipIdx_append] using holds
      have lengths := congrArg List.length pieces
      simp only [List.length_append, List.length_zipIdx, List.length_take] at lengths
      have full : count = chunk.length := by omega
      subst full
      rw [List.take_length] at pieces
      obtain ⟨head, back⟩ := List.append_inj pieces (by simp)
      constructor
      · intro nonempty
        have same : writer.position file = position := by
          cases chunk with
          | nil => exact absurd rfl nonempty
          | cons byte bytes =>
              rw [List.zipIdx_cons, List.zipIdx_cons] at head
              exact (Prod.mk.inj (List.cons.inj head).1).2
        unfold FileWriter.position at same
        unfold FileWriter.StandsAt
        cases target : writer.target with
        | cursor offset => exact ⟨rfl, by simpa [target] using same⟩
        | append => exact ⟨rfl, trivial⟩
      · apply ih
        · intro entry member
          exact contract entry (List.mem_cons_of_mem _ member)
        · rw [stored, back]

theorem intact_of_whole (writer : FileWriter Handle) (position : Nat)
    (moved : List (List UInt8 × Nat)) (whole : ∀ entry ∈ moved, entry.2 = entry.1.length)
    (stands : writer.StandsAt position)
    (small : position + (moved.map Prod.fst).flatten.length ≤ 2 ^ 53) :
    Intact writer position moved := by
  induction moved generalizing writer position with
  | nil => trivial
  | cons entry rest ih =>
      obtain ⟨chunk, count⟩ := entry
      have full : count = chunk.length := whole (chunk, count) List.mem_cons_self
      subst full
      simp only [List.map_cons, List.flatten_cons, List.length_append] at small
      constructor
      · exact fun _ => ⟨rfl, stands⟩
      · apply ih
        · exact fun entry member => whole entry (List.mem_cons_of_mem _ member)
        · unfold FileWriter.StandsAt at stands
          unfold FileWriter.advance FileWriter.StandsAt
          cases target : writer.target with
          | cursor offset =>
              simp only [target] at stands
              subst stands
              exact toNumber_of_le (by omega)
          | append => simp [target]
        · omega

/-! ## Sessions -/

namespace Session

variable {writer : FileWriter Handle} {file : FileState} {session : Session Handle}

/-- The file and the writer of a session are those after its calls. -/
structure Follows (writer : FileWriter Handle) (file : FileState) (session : Session Handle) :
    Prop where
  file : session.file = transfer writer file session.moved
  writer : session.writer = session.moved.foldl (fun writer entry => writer.advance entry.2) writer

theorem start_follows (writer : FileWriter Handle) (file : FileState) :
    (start writer file).Follows writer file := ⟨rfl, rfl⟩

theorem transfer_append (writer : FileWriter Handle) (file : FileState)
    (moved : List (List UInt8 × Nat)) (chunk : List UInt8) (count : Nat) :
    transfer writer file (moved ++ [(chunk, count)]) =
      ((moved.foldl (fun writer entry => writer.advance entry.2) writer).call chunk).storeInto count
        (transfer writer file moved) := by
  induction moved generalizing writer file with
  | nil => rfl
  | cons entry rest ih => exact ih _ _

theorem Follows.accept (follows : session.Follows writer file) (chunk : List UInt8) :
    (session.accept chunk).Follows writer file := ⟨follows.file, follows.writer⟩

theorem Follows.move (follows : session.Follows writer file) (chunk : List UInt8) (count : Nat) :
    (session.move chunk count).Follows writer file where
  file := by
    simp only [Session.move, transfer_append, follows.file, follows.writer]
  writer := by
    simp [Session.move, follows.writer]

theorem Follows.holdsAll_iff (follows : session.Follows writer file) {position : Nat}
    (complete : session.accepted.flatten = (session.moved.map Prod.fst).flatten)
    (contract : Contract session.moved)
    (atEnd : writer.target = .append → position = file.content.length) :
    HoldsAll position file session ↔ Intact writer position session.moved := by
  unfold HoldsAll
  rw [follows.file, complete]
  constructor
  · intro holds
    apply intact_of_stored writer file position session.moved contract
    rw [holds]
    rfl
  · intro intact
    exact transfer_of_intact writer file position session.moved intact atEnd

end Session

namespace OutputStream

/-- Every accepted chunk has had its call. -/
structure Sound (writer : FileWriter Handle) (file : FileState) (stream : OutputStream Handle) :
    Prop where
  follows : stream.session.Follows writer file
  complete : stream.session.accepted = stream.session.moved.map Prod.fst

theorem write_gives (stream : OutputStream Handle) (contents : List UInt8) (reply : Reply) :
    Fallible.Satisfies (fun _ => True) (stream.write contents reply) fun next =>
      ∃ count, next.session = (stream.session.accept contents).move contents count := by
  simp only [write, checkClosed, Fallible.satisfies_bind, Fallible.satisfies_ite,
    Fallible.satisfies_throw, implies_true, true_and]
  intro _
  cases reply with
  | stored count => exact ⟨count, rfl⟩
  | failed code => trivial

theorem step_sound {writer : FileWriter Handle} {file : FileState} (action : Action)
    (stream : OutputStream Handle) (sound : stream.Sound writer file) :
    (step action stream).Sound writer file := by
  cases action with
  | write contents reply =>
      simp only [step]
      cases result : stream.write contents reply with
      | error failure => exact sound
      | ok next =>
          obtain ⟨count, moved⟩ := (write_gives stream contents reply).of_ok result
          constructor
          · rw [moved]
            exact (sound.follows.accept contents).move contents count
          · rw [moved]
            simp [Session.move, Session.accept, sound.complete]
  | dispose => exact ⟨sound.follows, sound.complete⟩

end OutputStream

namespace SinkOutputStream

/-- The chunks that were accepted and not answered. -/
def pending (stream : SinkOutputStream Handle) : List (List UInt8) :=
  stream.running.toList ++ stream.tail

/-- `queued` counts the pending bytes, and while there is no failure the accepted chunks are those
with an answer followed by the pending ones. -/
structure Sound (writer : FileWriter Handle) (file : FileState) (stream : SinkOutputStream Handle) :
    Prop where
  follows : stream.session.Follows writer file
  counted : stream.queued = stream.pending.flatten.length
  complete : stream.failure = none →
    stream.session.accepted = stream.session.moved.map Prod.fst ++ stream.pending

theorem write_gives (stream : SinkOutputStream Handle) (contents : List UInt8) :
    Fallible.Satisfies (fun _ => True) (stream.write contents) fun next =>
      next = { stream with
        queued := stream.queued + contents.length
        tail := stream.tail ++ [contents]
        session := stream.session.accept contents } := by
  have opened : Fallible.Satisfies (fun _ => True) stream.checkOpen fun _ => True := by
    cases stream.checkOpen <;> trivial
  simp only [write, Fallible.satisfies_bind]
  apply opened.imp
  intro _ _
  simp

theorem step_sound {writer : FileWriter Handle} {file : FileState} (action : Action)
    (stream : SinkOutputStream Handle) (sound : stream.Sound writer file) :
    (step action stream).Sound writer file := by
  cases action with
  | write contents =>
      simp only [step]
      cases result : stream.write contents with
      | error failure => exact sound
      | ok next =>
          have written := (write_gives stream contents).of_ok result
          subst written
          exact
            { follows := sound.follows.accept contents
              counted := by
                simp only [sound.counted, pending, List.flatten_append, List.length_append,
                  List.flatten_cons, List.flatten_nil, List.append_nil]
                omega
              complete := by
                intro open'
                simp [Session.accept, sound.complete open', pending] }
  | startJob =>
      simp only [step, startJob]
      have counted := sound.counted
      have complete := sound.complete
      cases running : stream.running with
      | some contents => simpa [running] using sound
      | none =>
          cases tail : stream.tail with
          | nil => simpa [running, tail] using sound
          | cons contents rest =>
              simp only [pending, running, tail] at counted complete
              by_cases open' : stream.failure = none
              · simp only [open', if_true]
                exact ⟨sound.follows, counted, fun _ => complete open'⟩
              · simp only [open', if_false]
                exact
                  { follows := sound.follows
                    counted := by
                      simp only [counted, pending, Option.toList_none, List.nil_append,
                        List.flatten_cons, List.length_append]
                      omega
                    complete := fun unfailed => absurd unfailed open' }
  | endJob reply =>
      simp only [step, endJob]
      have counted := sound.counted
      have complete := sound.complete
      cases running : stream.running with
      | none => simpa [running] using sound
      | some contents =>
          simp only [pending, running] at counted complete
          have rest : stream.queued - contents.length = stream.tail.flatten.length := by
            simp only [counted, Option.toList_some, List.singleton_append, List.flatten_cons,
              List.length_append]
            omega
          cases reply with
          | stored count =>
              exact
                { follows := sound.follows.move contents count
                  counted := by simpa [pending] using rest
                  complete := by
                    intro open'
                    simp [Session.move, complete open', pending] }
          | failed code =>
              exact
                { follows := sound.follows
                  counted := by simpa [pending] using rest
                  complete := nofun }
  | dispose => exact ⟨sound.follows, sound.counted, sound.complete⟩

theorem flushed {stream : SinkOutputStream Handle}
    (reported : stream.blockingFlush = some (.ok ()) ∨ stream.wakeFlush = some (.ok ())) :
    stream.queued = 0 ∧ stream.failure = none := by
  have opened : stream.checkOpen = .ok () → stream.failure = none := by
    intro isOpen
    unfold checkOpen at isOpen
    cases failed : stream.failure with
    | none => rfl
    | some code => cases closed : stream.closed <;> simp [failed, closed] at isOpen
  cases reported with
  | inl flushed =>
      unfold blockingFlush at flushed
      cases isOpen : stream.checkOpen with
      | error failure => simp [isOpen] at flushed
      | ok done =>
          by_cases empty : stream.queued = 0
          · exact ⟨empty, opened isOpen⟩
          · simp [isOpen, empty] at flushed
  | inr woken =>
      unfold wakeFlush at woken
      by_cases waits : 0 < stream.queued ∧ stream.failure = none
      · simp [waits] at woken
      · have unfailed := opened (by simpa [waits] using woken)
        exact ⟨by simpa [unfailed] using waits, unfailed⟩

theorem Sound.complete_of_flushed {writer : FileWriter Handle} {file : FileState}
    {stream : SinkOutputStream Handle} (sound : stream.Sound writer file)
    (reported : stream.blockingFlush = some (.ok ()) ∨ stream.wakeFlush = some (.ok ())) :
    stream.session.accepted.flatten = (stream.session.moved.map Prod.fst).flatten := by
  obtain ⟨empty, unfailed⟩ := flushed reported
  have nothing : stream.pending.flatten = [] :=
    List.length_eq_zero_iff.mp (sound.counted.symm.trans empty)
  rw [sound.complete unfailed, List.flatten_append, nothing, List.append_nil]

end SinkOutputStream

theorem drainStream_sound {writer : FileWriter Handle} {file : FileState}
    {ending : Option FsErrorCode} (chunks : List (List UInt8 × Reply)) (session : Session Handle)
    (follows : session.Follows writer file)
    (complete : session.accepted = session.moved.map Prod.fst) :
    (drainStream ending chunks session).2.Follows writer file ∧
      ((drainStream ending chunks session).1 = .ok () →
        (drainStream ending chunks session).2.accepted =
          (drainStream ending chunks session).2.moved.map Prod.fst) := by
  induction chunks generalizing session with
  | nil =>
      cases ending with
      | none => exact ⟨follows, fun _ => complete⟩
      | some code => exact ⟨follows, nofun⟩
  | cons entry rest ih =>
      obtain ⟨chunk, reply⟩ := entry
      cases reply with
      | stored count =>
          apply ih
          · exact (follows.accept chunk).move chunk count
          · simp [Session.move, Session.accept, complete]
      | failed code => exact ⟨follows.accept chunk, nofun⟩

/-! ## No byte lost -/

theorem writeOperation_target {provider : Provider} {c other : Core Handle} {track : Track}
    {offset : Option Nat} {writer : FileWriter Handle} (file : FileState)
    (opened : track.invoke provider c other (writeOperation offset) = .ok (.writes writer)) :
    writer.target = .append → startOf offset file = file.content.length := by
  cases offset with
  | none => exact fun _ => rfl
  | some offset =>
      have positioned : ∀ shape surface, Fallible.Satisfies (fun _ => True)
          (provider.writeViaStream shape c surface offset) fun effect =>
            effect = .writes writer → writer.target = .cursor (toNumber offset) := by
        intro shape surface
        have always : ∀ {checks : Except ErrorPayload Unit},
            Fallible.Satisfies (fun _ => True) checks fun _ => True := by
          intro checks
          cases checks <;> trivial
        simp only [Provider.writeViaStream, Fallible.satisfies_bind, Fallible.satisfies_pure]
        apply always.imp
        intro _ _
        apply always.imp
        intro _ _
        apply always.imp
        intro _ _ same
        cases same
        rfl
      intro appends
      have target : writer.target = .cursor (toNumber offset) := by
        cases track with
        | wasi02 => exact (positioned err02 _).of_ok opened rfl
        | wasi03 => exact (positioned err03 .future).of_ok opened rfl
      rw [target] at appends
      cases appends

/-- When a write stream reports success, the file holds all accepted bytes, each once, exactly when
every call stored its whole chunk at a cursor that is exact. -/
theorem writeStreams_holdAll_iff {provider : Provider} {c other : Core Handle} {track : Track}
    {offset : Option Nat} {writer : FileWriter Handle} (file : FileState)
    (opened : track.invoke provider c other (writeOperation offset) = .ok (.writes writer)) :
    (∀ actions, let stream := Transition.runAll OutputStream.step actions (.create writer file)
      Contract stream.session.moved → stream.flush = .ok () →
        (HoldsAll (startOf offset file) file stream.session ↔
          Intact writer (startOf offset file) stream.session.moved)) ∧
    (∀ actions, let stream := Transition.runAll SinkOutputStream.step actions (.create writer file)
      Contract stream.session.moved →
        (stream.blockingFlush = some (.ok ()) ∨ stream.wakeFlush = some (.ok ())) →
        (HoldsAll (startOf offset file) file stream.session ↔
          Intact writer (startOf offset file) stream.session.moved)) ∧
    ∀ ending chunks, let drained := drainStream ending chunks (.start writer file)
      Contract drained.2.moved → drained.1 = .ok () →
        (HoldsAll (startOf offset file) file drained.2 ↔
          Intact writer (startOf offset file) drained.2.moved) := by
  have atEnd := writeOperation_target file opened
  constructor
  · intro actions stream contract _
    have sound : stream.Sound writer file :=
      Transition.runAll_invariant OutputStream.step_sound actions
        ⟨Session.start_follows writer file, rfl⟩
    exact sound.follows.holdsAll_iff (congrArg List.flatten sound.complete) contract atEnd
  constructor
  · intro actions stream contract reported
    have sound : stream.Sound writer file :=
      Transition.runAll_invariant SinkOutputStream.step_sound actions
        ⟨Session.start_follows writer file, rfl, fun _ => rfl⟩
    exact sound.follows.holdsAll_iff (sound.complete_of_flushed reported) contract atEnd
  · intro ending chunks drained contract finished
    obtain ⟨follows, complete⟩ :=
      drainStream_sound chunks _ (Session.start_follows writer file) rfl
    exact follows.holdsAll_iff (congrArg List.flatten (complete finished)) contract atEnd

def openFile : Core Nat where
  h := 0
  type := .regularFile
  flags :=
    { read := true
      write := true
      fileIntegritySync := false
      dataIntegritySync := false
      requestedWriteSync := false
      mutateDirectory := false }

/-- A package over a synchronous backend. -/
def syncPackage : Provider where
  writable := true
  isSync := true
  hasLinkAt := true
  hasSymlinkAt := true
  hasReadlinkAt := true

def emptyFile : FileState where
  content := []
  stored := []

def streamAt (target : WriteTarget) : FileWriter Nat where
  surface := .outputStream
  h := 0
  target

theorem writeStreams_holdAll_whole :
    HoldsAll 0 emptyFile
      (Transition.runAll OutputStream.step
        [.write [1, 2] (.stored 2), .write [3] (.stored 1)]
        (.create (streamAt (.cursor 0)) emptyFile)).session :=
  have opened : Track.wasi02.invoke syncPackage openFile openFile (writeOperation (some 0)) =
      .ok (.writes (streamAt (.cursor 0))) := rfl
  ((writeStreams_holdAll_iff emptyFile opened).1 _ (by decide) rfl).mpr (by decide)

/-- The backend stores one of two bytes, and the flush succeeds all the same. -/
theorem shortWrite_losesByte :
    ∃ stream : OutputStream Nat,
      Transition.runAll OutputStream.step [.write [1, 2] (.stored 1)]
        (.create (streamAt (.cursor 0)) emptyFile) = stream ∧
      Contract stream.session.moved ∧ stream.flush = .ok () ∧
      ¬HoldsAll 0 emptyFile stream.session :=
  ⟨_, rfl, by decide, rfl, by decide⟩

end Polyengine.Wasi
