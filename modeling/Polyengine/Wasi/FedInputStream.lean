import Polyengine.Library.Polling

/-!
# Input streams that are fed

The input stream of 0.2 over a source that yields its chunks in its own time, with the calls that
are parked on it. A parked call waits for a promise that every event swaps; the promises are
counted.
-/

set_option autoImplicit false

namespace Polyengine.Wasi.Io

open Polyengine.Library

/-- The error resource; a subclass may carry a code. -/
structure IoError where
  message : String
  code : Option String
  deriving Repr, DecidableEq

/-- What a promise was rejected with: an `IoError`, another `Error`, or any other value. -/
inductive Reason where
  | undefined
  | ioError (error : IoError)
  | native (message : String)
  | other (text : String)
  deriving Repr, DecidableEq

def Reason.toIoError : Reason → IoError
  | .ioError error => error
  | .native message => ⟨message, none⟩
  | .other text => ⟨text, none⟩
  | .undefined => ⟨"undefined", none⟩

/-- How a call fails: with a stream error, with a trap of the stream, or with what the host threw.
-/
inductive Failure where
  | closed
  | lastOperationFailed (error : IoError)
  | trap (message : String)
  | thrown (reason : Reason)
  deriving Repr, DecidableEq

/-- `#feed`: it awaits a chunk, or room in the buffer, or the end of a source that it stops; the
promise of room may have been resolved. -/
inductive Feed where
  | pulling
  | paused (resumed : Bool)
  | stopping
  | ended
  deriving Repr, DecidableEq

/-- `signals` counts the swaps of `#wakePromise`. -/
structure FedInputStream where
  buffer : List (List UInt8)
  buffered : Nat
  eof : Bool
  failure : Reason
  closed : Bool
  highWater : Nat
  signals : Nat
  feed : Feed
  deriving Repr, DecidableEq

inductive SourceEvent where
  | chunk (bytes : List UInt8)
  | done
  | failed (reason : Reason)
  deriving Repr, DecidableEq

def SourceEvent.chunks : SourceEvent → List (List UInt8)
  | .chunk bytes => [bytes]
  | _ => []

namespace FedInputStream

def create (highWater : Nat) : FedInputStream where
  buffer := []
  buffered := 0
  eof := false
  failure := .undefined
  closed := false
  highWater
  signals := 0
  feed := .pulling

def signal (stream : FedInputStream) : FedInputStream :=
  { stream with signals := stream.signals + 1 }

/-- `#resume`: it resolves the promise that the feed awaits, if it awaits one. -/
def resume (stream : FedInputStream) : FedInputStream :=
  match stream.feed with
  | .paused _ => { stream with feed := .paused true }
  | _ => stream

/-- The loop that awaits room, from its test on. -/
def pauseOrPull (stream : FedInputStream) : FedInputStream :=
  if stream.highWater ≤ stream.buffered ∧ stream.closed = false then
    { stream with feed := .paused false }
  else { stream with feed := .pulling }

def push (stream : FedInputStream) (bytes : List UInt8) : FedInputStream :=
  { stream with
    buffer := stream.buffer ++ [bytes]
    buffered := stream.buffered + bytes.length }

/-- The feed goes on with what it got from the source. -/
def fed (stream : FedInputStream) (event : SourceEvent) : FedInputStream :=
  match event with
  | .chunk bytes =>
      if stream.closed then { stream with feed := .stopping }
      else if bytes = [] then stream
      else
        (stream.push bytes).signal.pauseOrPull
  | .done => signal { stream with eof := true, feed := .ended }
  | .failed reason => signal { stream with failure := reason, eof := true, feed := .ended }

def stopped (stream : FedInputStream) (failure : Option Reason) : FedInputStream :=
  match failure with
  | none => { stream with feed := .ended }
  | some reason => signal { stream with failure := reason, eof := true, feed := .ended }

/-- The first `want` bytes of the chunks, and the chunks that are left. -/
def takeBytes : List (List UInt8) → Nat → List UInt8 × List (List UInt8)
  | [], _ => ([], [])
  | head :: rest, want =>
      if want = 0 then ([], head :: rest)
      else if head.length ≤ want then
        let (out, left) := takeBytes rest (want - head.length)
        (head ++ out, left)
      else (head.take want, head.drop want :: rest)

/-- `#take`; a length is exact as a number up to more bytes than a buffer can have. -/
def take (stream : FedInputStream) (len : Nat) : List UInt8 × FedInputStream :=
  let want := min len stream.buffered
  let (out, left) := takeBytes stream.buffer want
  let taken :=
    { stream with
      buffer := left
      buffered := stream.buffered - want }
  (out, if taken.buffered < taken.highWater then taken.resume else taken)

/-- `read`, and `skip`, which returns the count of the bytes only. -/
def read (stream : FedInputStream) (len : Nat) : Except Failure (List UInt8) × FedInputStream :=
  if stream.closed then (.error .closed, stream)
  else if 0 < stream.buffered then
    let (out, taken) := stream.take len
    (.ok out, taken)
  else if stream.failure ≠ .undefined then
    (.error (.lastOperationFailed stream.failure.toIoError), stream)
  else if stream.eof then (.error .closed, stream)
  else (.ok [], stream)

/-- What ends the wait of `blockingRead` and makes the pollable ready. -/
def ready (stream : FedInputStream) : Bool :=
  decide (0 < stream.buffered) || stream.eof || stream.closed

/-- `[Symbol.dispose]`. -/
def dispose (stream : FedInputStream) : FedInputStream :=
  ({ stream with closed := true }.resume).signal

/-- The bytes of an outcome. -/
def bytesOf : Except Failure (List UInt8) → List UInt8
  | .ok bytes => bytes
  | .error _ => []

/-- A `blockingRead` or `blockingSkip` that awaits the promise. -/
structure Parked where
  id : Nat
  len : Nat
  promise : Nat
  deriving Repr, DecidableEq

/-- A stream in use: the calls that are parked, the chunks that the source has yielded, and what
calls returned, with the bytes that a skip passed over. -/
structure Run where
  stream : FedInputStream
  parked : List Parked
  yielded : List (List UInt8)
  outcomes : List (Except Failure (List UInt8))
  deriving Repr, DecidableEq

namespace Run

def start (highWater : Nat) : Run where
  stream := .create highWater
  parked := []
  yielded := []
  outcomes := []

/-- The bytes that left the stream, in order. -/
def returned (run : Run) : List UInt8 := (run.outcomes.map bytesOf).flatten

def onStream (run : Run) (change : FedInputStream → FedInputStream) : Run :=
  { run with stream := change run.stream }

def read (run : Run) (len : Nat) : Run :=
  let (outcome, stream) := run.stream.read len
  { run with stream, outcomes := run.outcomes ++ [outcome] }

/-- `blockingRead` reads at once or awaits the promise of the moment; a parked call that is woken
does the same again. -/
def blockingRead (run : Run) (id len : Nat) : Run :=
  if run.stream.ready then run.read len
  else { run with parked := run.parked ++ [⟨id, len, run.stream.signals⟩] }

/-- The promise has been resolved. -/
def settled (run : Run) (call : Parked) : Bool := decide (call.promise < run.stream.signals)

def wake (run : Run) (id : Nat) : Run :=
  match run.parked.find? (·.id = id) with
  | none => run
  | some call =>
      if run.settled call then
        { run with parked := run.parked.filter (·.id ≠ id) }.blockingRead id call.len
      else run

end Run

/-- The chunks and the end of the source come while the feed awaits them, and so does the end of a
source that was stopped. -/
inductive Action where
  | source (event : SourceEvent)
  | sourceStopped (failure : Option Reason)
  | feedResumes
  | read (len : Nat)
  | blockingRead (id len : Nat)
  | wake (id : Nat)
  | dispose
  deriving Repr, DecidableEq

def step : Action → Run → Run
  | .source event, run =>
      if run.stream.feed = .pulling then
        { run.onStream (·.fed event) with yielded := run.yielded ++ event.chunks }
      else run
  | .sourceStopped failure, run =>
      if run.stream.feed = .stopping then run.onStream (·.stopped failure) else run
  | .feedResumes, run =>
      if run.stream.feed = .paused true then run.onStream (·.pauseOrPull) else run
  | .read len, run => run.read len
  | .blockingRead id len, run =>
      if run.parked.any (·.id = id) then run else run.blockingRead id len
  | .wake id, run => run.wake id
  | .dispose, run => run.onStream (·.dispose)

/-! ## The operations on the stream -/

@[simp] theorem resume_buffer (stream : FedInputStream) : stream.resume.buffer = stream.buffer := by
  unfold resume
  cases stream.feed <;> rfl

@[simp] theorem resume_buffered (stream : FedInputStream) : stream.resume.buffered = stream.buffered := by
  unfold resume
  cases stream.feed <;> rfl

@[simp] theorem resume_eof (stream : FedInputStream) : stream.resume.eof = stream.eof := by
  unfold resume
  cases stream.feed <;> rfl

@[simp] theorem resume_failure (stream : FedInputStream) : stream.resume.failure = stream.failure := by
  unfold resume
  cases stream.feed <;> rfl

@[simp] theorem resume_closed (stream : FedInputStream) : stream.resume.closed = stream.closed := by
  unfold resume
  cases stream.feed <;> rfl

@[simp] theorem resume_highWater (stream : FedInputStream) : stream.resume.highWater = stream.highWater := by
  unfold resume
  cases stream.feed <;> rfl

@[simp] theorem resume_signals (stream : FedInputStream) : stream.resume.signals = stream.signals := by
  unfold resume
  cases stream.feed <;> rfl

@[simp] theorem pauseOrPull_buffer (stream : FedInputStream) : stream.pauseOrPull.buffer = stream.buffer := by
  unfold pauseOrPull
  split <;> rfl

@[simp] theorem pauseOrPull_buffered (stream : FedInputStream) : stream.pauseOrPull.buffered = stream.buffered := by
  unfold pauseOrPull
  split <;> rfl

@[simp] theorem pauseOrPull_eof (stream : FedInputStream) : stream.pauseOrPull.eof = stream.eof := by
  unfold pauseOrPull
  split <;> rfl

@[simp] theorem pauseOrPull_failure (stream : FedInputStream) : stream.pauseOrPull.failure = stream.failure := by
  unfold pauseOrPull
  split <;> rfl

@[simp] theorem pauseOrPull_closed (stream : FedInputStream) : stream.pauseOrPull.closed = stream.closed := by
  unfold pauseOrPull
  split <;> rfl

@[simp] theorem pauseOrPull_highWater (stream : FedInputStream) : stream.pauseOrPull.highWater = stream.highWater := by
  unfold pauseOrPull
  split <;> rfl

@[simp] theorem pauseOrPull_signals (stream : FedInputStream) : stream.pauseOrPull.signals = stream.signals := by
  unfold pauseOrPull
  split <;> rfl

/-- The chunks hold the bytes that are counted, a feed that awaits a chunk has room for it, and one
that awaits room has none. -/
structure Sound (stream : FedInputStream) : Prop where
  counted : stream.buffered = stream.buffer.flatten.length
  room : stream.feed = .pulling → stream.closed = false → stream.buffered ≤ stream.highWater - 1
  full : stream.feed = .paused false → stream.highWater ≤ stream.buffered ∧ stream.closed = false
  failed : stream.failure ≠ .undefined → stream.eof = true

theorem takeBytes_eq (buffer : List (List UInt8)) (want : Nat)
    (enough : want ≤ buffer.flatten.length) :
    (takeBytes buffer want).1 = buffer.flatten.take want ∧
      (takeBytes buffer want).2.flatten = buffer.flatten.drop want := by
  induction buffer generalizing want with
  | nil =>
      simp only [List.flatten_nil, List.length_nil, Nat.le_zero_eq] at enough
      subst enough
      exact ⟨rfl, rfl⟩
  | cons head rest ih =>
      simp only [List.flatten_cons, List.length_append] at enough ⊢
      by_cases none : want = 0
      · subst none
        simp [takeBytes]
      · by_cases whole : head.length ≤ want
        · obtain ⟨out, left⟩ := ih (want - head.length) (by omega)
          simp only [takeBytes, if_neg none, if_pos whole, out, left]
          rw [List.take_append, List.drop_append, List.take_of_length_le whole,
            List.drop_eq_nil_of_le whole]
          exact ⟨rfl, rfl⟩
        · have part : want ≤ head.length := by omega
          simp only [takeBytes, if_neg none, if_neg whole, List.flatten_cons]
          rw [List.take_append_of_le_length part, List.drop_append_of_le_length part]
          exact ⟨rfl, rfl⟩

/-- What an operation that takes bytes out leaves: the rest of the bytes, and a feed that is woken
if there is room. -/
structure Takes (bytes : List UInt8) (before after : FedInputStream) : Prop where
  sound : before.Sound → after.Sound
  bytes : before.Sound → before.buffer.flatten = bytes ++ after.buffer.flatten
  closed : after.closed = before.closed
  eof : after.eof = before.eof
  failure : after.failure = before.failure
  highWater : after.highWater = before.highWater
  signals : after.signals = before.signals

theorem Takes.nothing (stream : FedInputStream) : Takes [] stream stream :=
  ⟨id, fun _ => rfl, rfl, rfl, rfl, rfl, rfl⟩

theorem resume_eq (stream : FedInputStream) :
    stream.resume = { stream with feed := stream.resume.feed } := by
  unfold resume
  cases stream.feed <;> rfl

theorem resume_feed (stream : FedInputStream) :
    (stream.resume.feed = .pulling → stream.feed = .pulling) ∧ stream.resume.feed ≠ .paused false := by
  unfold resume
  cases awaits : stream.feed <;> simp [awaits]

theorem take_takes (stream : FedInputStream) (len : Nat) :
    Takes (stream.take len).1 stream (stream.take len).2 := by
  have fields : (stream.take len).2 =
      { stream with
        buffer := (takeBytes stream.buffer (min len stream.buffered)).2
        buffered := stream.buffered - min len stream.buffered
        feed := (stream.take len).2.feed } := by
    simp only [take]
    split
    · rw [resume_eq]
    · rfl
  have enough : stream.Sound → min len stream.buffered ≤ stream.buffer.flatten.length :=
    fun sound => sound.counted ▸ Nat.min_le_right _ _
  refine ⟨fun sound => ?_, fun sound => ?_, ?_, ?_, ?_, ?_, ?_⟩
  · have failed : (stream.take len).2.failure ≠ .undefined → (stream.take len).2.eof = true := by
      rw [fields]
      exact sound.failed
    have counted : (stream.take len).2.buffered = (stream.take len).2.buffer.flatten.length := by
      have left := congrArg List.length (takeBytes_eq _ _ (enough sound)).2
      rw [List.length_drop] at left
      rw [fields]
      simp only [left, ← sound.counted]
    refine ⟨counted, ?_, ?_, failed⟩
    · intro pulling opened
      rw [fields] at opened ⊢
      have before : stream.feed = .pulling := by
        simp only [take] at pulling
        split at pulling
        · have awaited := (resume_feed _).1 pulling
          exact awaited
        · exact pulling
      have room := sound.room before opened
      simp only
      omega
    · intro paused
      simp only [take] at paused
      split at paused
      · exact absurd paused (resume_feed _).2
      case isFalse noRoom =>
        rw [fields]
        exact ⟨Nat.le_of_not_lt noRoom, (sound.full paused).2⟩
  · obtain ⟨out, left⟩ := takeBytes_eq _ _ (enough sound)
    rw [fields]
    simp only [take, out, left, List.take_append_drop]
  all_goals rw [fields]

theorem read_takes (stream : FedInputStream) (len : Nat) :
    Takes (bytesOf (stream.read len).1) stream (stream.read len).2 := by
  unfold read
  split
  · exact .nothing stream
  · split
    · exact take_takes stream len
    · split
      · exact .nothing stream
      · split
        · exact .nothing stream
        · exact .nothing stream

theorem read_ended {stream : FedInputStream} (ended : stream.feed = .ended) (len : Nat) :
    (stream.read len).2.feed = .ended := by
  unfold read
  split
  · exact ended
  · split
    · simp only [take]
      split
      · simp only [resume, ended]
      · exact ended
    · split
      · exact ended
      · split <;> exact ended

theorem read_error {stream : FedInputStream} {len : Nat} {failure : Failure}
    (failed : (stream.read len).1 = .error failure) :
    stream.closed = true ∨ stream.buffered = 0 := by
  unfold read at failed
  split at failed
  case isTrue closed => exact .inl closed
  case isFalse =>
    split at failed
    · cases failed
    case isFalse empty => exact .inr (Nat.eq_zero_of_not_pos empty)

theorem read_closed_iff (stream : FedInputStream) (len : Nat) :
    (stream.read len).1 = .error .closed ↔
      stream.closed = true ∨
        (stream.buffered = 0 ∧ stream.failure = .undefined ∧ stream.eof = true) := by
  unfold read
  split
  · next closed => simp [closed]
  · next opened =>
      split
      · next some =>
          have left : stream.buffered ≠ 0 := Nat.pos_iff_ne_zero.mp some
          simp [opened, left]
      · next none =>
          have empty : stream.buffered = 0 := Nat.eq_zero_of_not_pos none
          split
          · next failed => simp [opened, failed]
          · next unfailed =>
              have clean : stream.failure = .undefined := Decidable.not_not.mp unfailed
              split
              · next ended => simp [empty, clean, ended]
              · next going => simp [opened, going]

theorem read_ok {stream : FedInputStream} (sound : stream.Sound) {len : Nat} {bytes : List UInt8}
    (returned : (stream.read len).1 = .ok bytes) :
    (0 < stream.buffered ∧ bytes.length = min len stream.buffered) ∨
      (bytes = [] ∧ stream.ready = false) := by
  unfold read at returned
  split at returned
  · cases returned
  case isFalse opened =>
    split at returned
    case isTrue some =>
      have out := (takeBytes_eq stream.buffer (min len stream.buffered)
        (sound.counted ▸ Nat.min_le_right _ _)).1
      have taken : (takeBytes stream.buffer (min len stream.buffered)).1 = bytes := by
        simpa only [take, Except.ok.injEq] using returned
      have length := congrArg List.length (taken.symm.trans out)
      rw [List.length_take, ← sound.counted] at length
      exact .inl ⟨some, by omega⟩
    case isFalse none =>
      split at returned
      · cases returned
      · split at returned
        · cases returned
        case isFalse going =>
          refine .inr ⟨by simpa [eq_comm] using returned, ?_⟩
          simp [ready, none, going, opened]

theorem pauseOrPull_sound {stream : FedInputStream}
    (counted : stream.buffered = stream.buffer.flatten.length)
    (failed : stream.failure ≠ .undefined → stream.eof = true) : stream.pauseOrPull.Sound := by
  unfold pauseOrPull
  split
  case isTrue full => exact ⟨counted, nofun, fun _ => full, failed⟩
  case isFalse room =>
      refine ⟨counted, fun _ opened => ?_, nofun, failed⟩
      have below : stream.buffered < stream.highWater := by
        by_contra full
        exact room ⟨Nat.le_of_not_lt full, opened⟩
      simp only
      omega

theorem dispose_sound {stream : FedInputStream} (sound : stream.Sound) : stream.dispose.Sound := by
  refine ⟨?_, fun _ opened => ?_, fun paused => absurd paused (resume_feed _).2, ?_⟩
  · simpa [dispose, signal] using sound.counted
  · simp [dispose, signal] at opened
  · simpa [dispose, signal] using sound.failed

theorem ready_iff {stream : FedInputStream} (sound : stream.Sound) :
    stream.ready = true ↔
      stream.buffer.flatten ≠ [] ∨ stream.eof = true ∨ stream.closed = true := by
  have bytes : 0 < stream.buffered ↔ stream.buffer.flatten ≠ [] := by
    rw [sound.counted, List.length_pos_iff]
  simp only [ready, Bool.or_eq_true, decide_eq_true_eq, bytes, or_assoc]

/-! ## Runs -/

namespace Run

/-- Every byte that was yielded was returned or waits in the buffer; no more bytes wait than a chunk
above the mark; and whoever is parked while the stream is ready has been woken. -/
structure Sound (run : Run) : Prop where
  stream : run.stream.Sound
  yielded : run.returned ++ run.stream.buffer.flatten <+: run.yielded.flatten
  complete : run.stream.closed = false →
    run.returned ++ run.stream.buffer.flatten = run.yielded.flatten
  bounded : ∃ chunk ∈ [] :: run.yielded,
    run.stream.buffered ≤ run.stream.highWater - 1 + chunk.length
  unique : (run.parked.map Parked.id).Nodup
  woken : ∀ call ∈ run.parked, call.promise ≤ run.stream.signals ∧
    (run.stream.ready = true → call.promise < run.stream.signals)

theorem start_sound (highWater : Nat) : (start highWater).Sound where
  stream := ⟨rfl, fun _ _ => Nat.zero_le _, nofun, fun failed => absurd rfl failed⟩
  yielded := List.prefix_rfl
  complete := fun _ => rfl
  bounded := ⟨[], List.mem_cons_self, Nat.zero_le _⟩
  unique := List.nodup_nil
  woken := nofun

theorem returned_append (run : Run) (stream : FedInputStream) (parked : List Parked)
    (outcome : Except Failure (List UInt8)) :
    ({ run with stream, parked, outcomes := run.outcomes ++ [outcome] } : Run).returned =
      run.returned ++ bytesOf outcome := by
  simp [returned]

theorem ready_of_takes {bytes : List UInt8} {before after : FedInputStream}
    (takes : Takes bytes before after) (sound : before.Sound) (isReady : after.ready = true) :
    before.ready = true := by
  rw [ready_iff (takes.sound sound), takes.eof, takes.closed] at isReady
  rw [ready_iff sound, takes.bytes sound]
  obtain left | ended := isReady
  · exact .inl (List.append_ne_nil_of_right_ne_nil _ left)
  · exact .inr ended

theorem read_sound {run : Run} (sound : run.Sound) (len : Nat) : (run.read len).Sound := by
  have takes := read_takes run.stream len
  have moved : run.returned ++ bytesOf (run.stream.read len).1 ++
      (run.stream.read len).2.buffer.flatten = run.returned ++ run.stream.buffer.flatten := by
    rw [List.append_assoc, ← takes.bytes sound.stream]
  have fewer : (run.stream.read len).2.buffered ≤ run.stream.buffered := by
    rw [sound.stream.counted, (takes.sound sound.stream).counted, takes.bytes sound.stream,
      List.length_append]
    omega
  refine ⟨takes.sound sound.stream, ?_, ?_, ?_, sound.unique, ?_⟩
  · rw [read, returned_append, moved]
    exact sound.yielded
  · intro opened
    rw [read, returned_append, moved]
    exact sound.complete (takes.closed.symm.trans opened)
  · obtain ⟨chunk, listed, bound⟩ := sound.bounded
    refine ⟨chunk, listed, ?_⟩
    simp only [read, takes.highWater]
    omega
  · intro call member
    obtain ⟨promised, isWoken⟩ := sound.woken call member
    simp only [read, takes.signals]
    exact ⟨promised, fun isReady => isWoken (ready_of_takes takes sound.stream isReady)⟩

theorem blockingRead_sound {run : Run} (sound : run.Sound) {id : Nat} (len : Nat)
    (fresh : id ∉ run.parked.map Parked.id) : (run.blockingRead id len).Sound := by
  unfold blockingRead
  split
  · exact read_sound sound len
  case isFalse notReady =>
      refine ⟨sound.stream, sound.yielded, sound.complete, sound.bounded, ?_, ?_⟩
      · rw [List.map_append]
        exact List.Nodup.append sound.unique (List.nodup_singleton _)
          (List.disjoint_singleton.mpr fresh)
      · intro call member
        obtain before | new := List.mem_append.mp member
        · exact sound.woken call before
        · cases List.mem_singleton.mp new
          exact ⟨Nat.le_refl _, fun isReady => absurd isReady notReady⟩

theorem wake_sound {run : Run} (sound : run.Sound) (id : Nat) : (run.wake id).Sound := by
  unfold wake
  cases run.parked.find? (·.id = id) with
  | none => exact sound
  | some call =>
      simp only
      split
      · apply blockingRead_sound
        · refine ⟨sound.stream, sound.yielded, sound.complete, sound.bounded, ?_, ?_⟩
          · exact sound.unique.sublist (List.filter_sublist.map Parked.id)
          · exact fun call member => sound.woken call (List.mem_of_mem_filter member)
        · intro member
          obtain ⟨other, listed, same⟩ := List.mem_map.mp member
          simp [same] at listed
      · exact sound

theorem Sound.withStream {run : Run} (sound : run.Sound) {stream : FedInputStream}
    (kept : stream.Sound) (buffer : stream.buffer = run.stream.buffer)
    (highWater : stream.highWater = run.stream.highWater)
    (closed : stream.closed = false → run.stream.closed = false)
    (signals : run.stream.signals < stream.signals ∨
      (stream.signals = run.stream.signals ∧ (stream.ready = true → run.stream.ready = true))) :
    ({ run with stream } : Run).Sound := by
  refine ⟨kept, ?_, fun opened => ?_, ?_, sound.unique, fun call member => ?_⟩
  · rw [buffer]
    exact sound.yielded
  · rw [buffer]
    exact sound.complete (closed opened)
  · obtain ⟨chunk, listed, bound⟩ := sound.bounded
    refine ⟨chunk, listed, ?_⟩
    rw [kept.counted, buffer, highWater, ← sound.stream.counted]
    exact bound
  · obtain ⟨promised, isWoken⟩ := sound.woken call member
    obtain signalled | ⟨same, unready⟩ := signals
    · exact ⟨Nat.le_trans promised signalled.le, fun _ => Nat.lt_of_le_of_lt promised signalled⟩
    · rw [same]
      exact ⟨promised, fun isReady => isWoken (unready isReady)⟩

theorem Sound.yields {run : Run} (sound : run.Sound) (chunks : List (List UInt8))
    (dropped : run.stream.closed = true ∨ chunks.flatten = []) :
    ({ run with yielded := run.yielded ++ chunks } : Run).Sound := by
  refine ⟨sound.stream, ?_, fun opened => ?_, ?_, sound.unique, sound.woken⟩
  · rw [List.flatten_append]
    exact sound.yielded.trans (List.prefix_append _ _)
  · obtain closed | empty := dropped
    · exact absurd closed (Bool.eq_false_iff.mp opened)
    · rw [List.flatten_append, empty, List.append_nil]
      exact sound.complete opened
  · obtain ⟨chunk, listed, bound⟩ := sound.bounded
    refine ⟨chunk, ?_, bound⟩
    rw [← List.cons_append]
    exact List.mem_append_left _ listed

theorem push_sound {run : Run} (sound : run.Sound) (pulling : run.stream.feed = .pulling)
    (opened : run.stream.closed = false) (bytes : List UInt8) :
    ({ run with
      stream := (run.stream.push bytes).signal.pauseOrPull
      yielded := run.yielded ++ [bytes] } : Run).Sound := by
  have counted : run.stream.buffered + bytes.length =
      (run.stream.buffer ++ [bytes]).flatten.length := by
    simp [sound.stream.counted]
  have room := sound.stream.room pulling opened
  have moved : run.returned ++ (run.stream.buffer ++ [bytes]).flatten =
      (run.yielded ++ [bytes]).flatten := by
    rw [List.flatten_append, List.flatten_append, ← sound.complete opened, List.append_assoc]
  refine ⟨pauseOrPull_sound counted sound.stream.failed, ?_, fun _ => ?_, ?_, sound.unique, fun call member => ?_⟩
  · rw [pauseOrPull_buffer, ← moved]
    exact List.prefix_rfl
  · rw [pauseOrPull_buffer, ← moved]
    rfl
  · refine ⟨bytes, List.mem_cons_of_mem _ (List.mem_append_right _ List.mem_cons_self), ?_⟩
    simp only [pauseOrPull_buffered, pauseOrPull_highWater, signal, push]
    omega
  · obtain ⟨promised, _⟩ := sound.woken call member
    simp only [pauseOrPull_signals, signal, push]
    exact ⟨by omega, fun _ => by omega⟩

theorem end_sound {run : Run} (sound : run.Sound) (failure : Reason) :
    ({ run with
      stream := signal { run.stream with failure, eof := true, feed := .ended } } : Run).Sound :=
  sound.withStream ⟨sound.stream.counted, nofun, nofun, fun _ => rfl⟩ rfl rfl id
    (.inl (Nat.lt_succ_self _))

theorem source_sound {run : Run} (sound : run.Sound) (pulling : run.stream.feed = .pulling)
    (event : SourceEvent) :
    ({ run with
      stream := run.stream.fed event
      yielded := run.yielded ++ event.chunks } : Run).Sound := by
  cases event with
  | chunk bytes =>
      by_cases closed : run.stream.closed = true
      · have stopping : run.stream.fed (.chunk bytes) = { run.stream with feed := .stopping } := by
          rw [fed, if_pos closed]
        have kept : ({ run with stream := { run.stream with feed := .stopping } } : Run).Sound :=
          sound.withStream ⟨sound.stream.counted, nofun, nofun, sound.stream.failed⟩ rfl rfl id
            (.inr ⟨rfl, id⟩)
        rw [stopping]
        exact kept.yields [bytes] (.inl closed)
      · by_cases empty : bytes = []
        · have same : run.stream.fed (.chunk bytes) = run.stream := by
            rw [fed, if_neg closed, if_pos empty]
          rw [same]
          exact sound.yields [bytes] (.inr (by rw [empty]; rfl))
        · have pushed : run.stream.fed (.chunk bytes) =
              (run.stream.push bytes).signal.pauseOrPull := by
            rw [fed, if_neg closed, if_neg empty]
          rw [pushed]
          exact push_sound sound pulling (Bool.eq_false_iff.mpr closed) bytes
  | done => exact (end_sound sound run.stream.failure).yields [] (.inr rfl)
  | failed reason => exact (end_sound sound reason).yields [] (.inr rfl)

theorem step_sound (action : Action) (run : Run) (sound : run.Sound) : (step action run).Sound := by
  cases action with
  | source event =>
      simp only [step]
      split
      case isTrue pulling => exact source_sound sound pulling event
      case isFalse => exact sound
  | sourceStopped failure =>
      simp only [step]
      split
      · cases failure with
        | none =>
            exact sound.withStream ⟨sound.stream.counted, nofun, nofun, sound.stream.failed⟩ rfl rfl id
              (.inr ⟨rfl, id⟩)
        | some reason => exact end_sound sound reason
      · exact sound
  | feedResumes =>
      simp only [step]
      split
      · have kept := pauseOrPull_sound sound.stream.counted sound.stream.failed
        exact sound.withStream kept (by simp) (by simp) (by simp) (.inr (by simp [ready]))
      · exact sound
  | read len => exact read_sound sound len
  | blockingRead id len =>
      simp only [step]
      split
      · exact sound
      case isFalse fresh =>
        apply blockingRead_sound sound
        intro member
        obtain ⟨call, listed, same⟩ := List.mem_map.mp member
        exact fresh (List.any_eq_true.mpr ⟨call, listed, decide_eq_true same⟩)
  | wake id => exact wake_sound sound id
  | dispose =>
      have signalled : run.stream.signals < run.stream.dispose.signals := by
        simp [dispose, signal]
      exact sound.withStream (dispose_sound sound.stream) (by simp [dispose, signal])
        (by simp [dispose, signal]) (by simp [dispose, signal]) (.inl signalled)

def Moves (before after : FedInputStream) : Prop :=
  before.signals < after.signals ∨
    (after.signals = before.signals ∧ (after.ready = true → before.ready = true))

theorem read_moves {run : Run} (sound : run.Sound) (len : Nat) :
    Moves run.stream (run.read len).stream :=
  have takes := read_takes run.stream len
  .inr ⟨takes.signals, ready_of_takes takes sound.stream⟩

theorem blockingRead_moves {run : Run} (sound : run.Sound) (id len : Nat) :
    Moves run.stream (run.blockingRead id len).stream := by
  unfold blockingRead
  split
  · exact read_moves sound len
  · exact .inr ⟨rfl, fun isReady => isReady⟩

theorem wake_moves {run : Run} (sound : run.Sound) (id : Nat) :
    Moves run.stream (run.wake id).stream := by
  unfold wake
  cases run.parked.find? (·.id = id) with
  | none => exact .inr ⟨rfl, fun isReady => isReady⟩
  | some call =>
      simp only
      split
      · unfold blockingRead
        split
        · have takes := read_takes run.stream call.len
          exact .inr ⟨takes.signals, ready_of_takes takes sound.stream⟩
        · exact .inr ⟨rfl, fun isReady => isReady⟩
      · exact .inr ⟨rfl, fun isReady => isReady⟩

theorem fed_moves (stream : FedInputStream) (event : SourceEvent) :
    Moves stream (stream.fed event) := by
  cases event with
  | chunk bytes =>
      simp only [fed]
      split
      · exact .inr ⟨rfl, id⟩
      · split
        · exact .inr ⟨rfl, id⟩
        · refine .inl ?_
          rw [pauseOrPull_signals]
          exact Nat.lt_succ_self _
  | done => exact .inl (Nat.lt_succ_self _)
  | failed reason => exact .inl (Nat.lt_succ_self _)

theorem step_moves (action : Action) (run : Run) (sound : run.Sound) :
    Moves run.stream (step action run).stream := by
  cases action with
  | source event =>
      simp only [step]
      split
      · exact fed_moves run.stream event
      · exact .inr ⟨rfl, id⟩
  | sourceStopped failure =>
      simp only [step]
      split
      · cases failure with
        | none => exact .inr ⟨rfl, id⟩
        | some reason => exact .inl (Nat.lt_succ_self _)
      · exact .inr ⟨rfl, id⟩
  | feedResumes =>
      simp only [step]
      split
      · exact .inr (by simp [Run.onStream, ready])
      · exact .inr ⟨rfl, id⟩
  | read len => exact read_moves sound len
  | blockingRead id len =>
      simp only [step]
      split
      · exact .inr ⟨rfl, fun isReady => isReady⟩
      · exact blockingRead_moves sound id len
  | wake id => exact wake_moves sound id
  | dispose => exact .inl (by simp [step, Run.onStream, dispose, signal])

theorem step_closed (action : Action) (run : Run) :
    (step action run).stream.closed =
      (run.stream.closed || decide (action = .dispose)) := by
  have blocking (run : Run) (id len : Nat) :
      (run.blockingRead id len).stream.closed = run.stream.closed := by
    unfold blockingRead
    split
    · exact (read_takes run.stream len).closed
    · rfl
  cases action with
  | source event =>
      simp only [step, reduceCtorEq, decide_false, Bool.or_false]
      split
      · cases event with
        | chunk bytes =>
            simp only [onStream, fed]
            split
            · rfl
            · split
              · rfl
              · simp [push, signal]
        | done => rfl
        | failed reason => rfl
      · rfl
  | sourceStopped failure =>
      simp only [step, reduceCtorEq, decide_false, Bool.or_false]
      split
      · cases failure <;> rfl
      · rfl
  | feedResumes =>
      simp only [step, reduceCtorEq, decide_false, Bool.or_false]
      split
      · simp [onStream]
      · rfl
  | read len =>
      simp only [step, reduceCtorEq, decide_false, Bool.or_false]
      exact (read_takes run.stream len).closed
  | blockingRead id len =>
      simp only [step, reduceCtorEq, decide_false, Bool.or_false]
      split
      · rfl
      · exact blocking run id len
  | wake id =>
      simp only [step, wake, reduceCtorEq, decide_false,
        Bool.or_false]
      split
      · rfl
      · split
        · exact blocking _ id _
        · rfl
  | dispose => simp [step, onStream, dispose,
      signal]

/-- What the calls of the guest, and the loop of the feed, leave as the source made it. -/
structure Leaves (before after : Run) : Prop where
  yielded : after.yielded = before.yielded
  failure : after.stream.failure = before.stream.failure
  eof : after.stream.eof = before.stream.eof
  ended : before.stream.feed = .ended → after.stream.feed = .ended

theorem Leaves.refl (run : Run) : Leaves run run := ⟨rfl, rfl, rfl, id⟩

theorem read_leaves (run : Run) (len : Nat) : Leaves run (run.read len) where
  yielded := rfl
  failure := (read_takes run.stream len).failure
  eof := (read_takes run.stream len).eof
  ended := fun ended => read_ended ended len

theorem blockingRead_leaves (run : Run) (id len : Nat) : Leaves run (run.blockingRead id len) := by
  unfold blockingRead
  split
  · exact read_leaves run len
  · exact ⟨rfl, rfl, rfl, fun ended => ended⟩

theorem step_leaves {action : Action} (run : Run) (unyielded : ∀ event, action ≠ .source event)
    (unfailed : ∀ reason, action ≠ .sourceStopped (some reason)) : Leaves run (step action run) := by
  cases action with
  | source event => exact absurd rfl (unyielded event)
  | sourceStopped failure =>
      simp only [step]
      split
      · cases failure with
        | none => exact ⟨rfl, rfl, rfl, fun _ => rfl⟩
        | some reason => exact absurd rfl (unfailed reason)
      · exact .refl run
  | feedResumes =>
      simp only [step]
      split
      case isTrue paused =>
        refine ⟨rfl, pauseOrPull_failure _, pauseOrPull_eof _, ?_⟩
        intro ended
        rw [paused] at ended
        cases ended
      case isFalse => exact .refl run
  | read len => exact read_leaves run len
  | blockingRead id len =>
      simp only [step]
      split
      · exact .refl run
      · exact blockingRead_leaves run id len
  | wake id =>
      simp only [step, wake]
      cases run.parked.find? (·.id = id) with
      | none => exact .refl run
      | some call =>
          simp only
          split
          · have kept := blockingRead_leaves
              { run with parked := run.parked.filter (·.id ≠ id) } id call.len
            exact ⟨kept.yielded, kept.failure, kept.eof, kept.ended⟩
          · exact .refl run
  | dispose =>
      refine ⟨rfl, resume_failure _, resume_eof _, ?_⟩
      intro ended
      simp [step, onStream, dispose, signal, resume, ended]

/-- `subscribe`. -/
def subscribe : Pollable Run := .swapped (fun run => run.stream.ready) (fun run => run.stream.signals)

/-- What a stream in use promises: the bytes come in order and none is lost, an end or a failure
comes after the last byte of a stream that is not disposed, the buffer is bounded, and whoever waits
for what is there is woken and gets it. -/
structure Conserves (run : Run) : Prop where
  bytes : run.returned <+: run.yielded.flatten
  reported : ∀ action failure,
    (step action run).outcomes = run.outcomes ++ [.error failure] →
      run.stream.closed = true ∨ run.returned = run.yielded.flatten
  bounded : ∃ chunk ∈ [] :: run.yielded,
    run.stream.buffer.flatten.length ≤ run.stream.highWater - 1 + chunk.length
  readiness : subscribe.ready run = true ↔ run.stream.buffer.flatten ≠ [] ∨
    run.stream.eof = true ∨ run.stream.closed = true
  failures : run.stream.failure ≠ .undefined → subscribe.ready run = true
  wakes : subscribe.WakesFrom step run
  returns : subscribe.ready run = true → ∀ call ∈ run.parked,
    run.settled call = true ∧
      (step (.wake call.id) run).parked = run.parked.filter (·.id ≠ call.id) ∧
      (step (.wake call.id) run).outcomes = run.outcomes ++ [(run.stream.read call.len).1]
  feeds : run.stream.feed = .paused false →
    run.stream.highWater ≤ run.stream.buffered ∧ run.stream.closed = false

theorem outcomes_cases (action : Action) (run : Run) :
    (step action run).outcomes = run.outcomes ∨
      ∃ len, (step action run).outcomes = run.outcomes ++ [(run.stream.read len).1] := by
  have blocking : ∀ (run : Run) id len, (run.blockingRead id len).outcomes = run.outcomes ∨
      (run.blockingRead id len).outcomes = run.outcomes ++ [(run.stream.read len).1] := by
    intro run id len
    unfold blockingRead
    split
    · exact .inr rfl
    · exact .inl rfl
  cases action with
  | source event | sourceStopped failure | feedResumes =>
      simp only [step]
      split <;> exact .inl rfl
  | dispose => exact .inl rfl
  | read len => exact .inr ⟨len, rfl⟩
  | blockingRead id len =>
      simp only [step]
      split
      · exact .inl rfl
      · exact (blocking run id len).imp_right fun same => ⟨len, same⟩
  | wake id =>
      simp only [step, wake]
      cases run.parked.find? (·.id = id) with
      | none => exact .inl rfl
      | some call =>
          simp only
          split
          · exact (blocking _ id call.len).imp_right fun same => ⟨call.len, same⟩
          · exact .inl rfl

theorem find_parked {parked : List Parked} (unique : (parked.map Parked.id).Nodup) {call : Parked}
    (member : call ∈ parked) : parked.find? (·.id = call.id) = some call := by
  cases found : parked.find? (·.id = call.id) with
  | none => exact absurd (decide_eq_true rfl) (List.find?_eq_none.mp found call member)
  | some other =>
      have same : other.id = call.id := by simpa using List.find?_some found
      rw [List.inj_on_of_nodup_map unique (List.mem_of_find?_eq_some found) member same]

theorem Sound.conserves {run : Run} (sound : run.Sound) : run.Conserves where
  bytes := (List.prefix_append _ _).trans sound.yielded
  reported := by
    intro action failure reports
    obtain quiet | ⟨len, spoke⟩ := outcomes_cases action run
    · rw [quiet] at reports
      simp at reports
    · rw [spoke] at reports
      have failed : (run.stream.read len).1 = .error failure := by simpa using reports
      obtain closed | empty := read_error failed
      · exact .inl closed
      · by_cases closed : run.stream.closed = true
        · exact .inl closed
        · have nothing : run.stream.buffer.flatten = [] :=
            List.length_eq_zero_iff.mp (sound.stream.counted.symm.trans empty)
          have complete := sound.complete (Bool.eq_false_iff.mpr closed)
          rw [nothing, List.append_nil] at complete
          exact .inr complete
  bounded := sound.stream.counted ▸ sound.bounded
  readiness := ready_iff sound.stream
  failures := fun failed => (ready_iff sound.stream).mpr (.inr (.inl (sound.stream.failed failed)))
  wakes := by
    apply Pollable.swapped_wakes step_sound _ sound
    intro action run sound
    exact step_moves action run sound
  returns := by
    intro isReady call member
    have settled : run.settled call = true := decide_eq_true ((sound.woken call member).2 isReady)
    have woken : step (.wake call.id) run =
        { run with parked := run.parked.filter (·.id ≠ call.id) }.read call.len := by
      have isReady : run.stream.ready = true := isReady
      simp only [step, wake, find_parked sound.unique member, settled, if_true, blockingRead,
        isReady]
    rw [woken]
    exact ⟨settled, rfl, rfl⟩
  feeds := sound.stream.full

theorem run_conserves (highWater : Nat) (actions : List Action) :
    (Transition.runAll step actions (start highWater)).Conserves :=
  (Transition.runAll_invariant step_sound actions (start_sound highWater)).conserves

end Run

end FedInputStream

end Polyengine.Wasi.Io
