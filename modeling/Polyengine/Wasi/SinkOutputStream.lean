import Polyengine.Wasi.FedInputStream

/-!
# Output streams over a sink

The output stream of 0.2 over a sink that drains its chunks in its own time. The chunks form a chain
of jobs, each of which starts when the one before it has ended.
-/

set_option autoImplicit false

namespace Polyengine.Wasi.Io

open Polyengine.Library

/-- Where the job of a chunk stands; a job whose sink call failed before it skips the sink. -/
inductive JobState where
  | waiting
  | called
  | drained
  | failed (reason : Reason)
  | skipped
  deriving Repr, DecidableEq

def JobState.ended : JobState → Bool
  | .waiting | .called => false
  | .drained | .failed _ | .skipped => true

structure Job where
  contents : List UInt8
  state : JobState
  deriving Repr, DecidableEq

/-- `jobs` is the chain of `#tail`, with the jobs that have ended; `signals` counts the swaps of
`#wakePromise`. -/
structure SinkOutputStream where
  highWater : Nat
  queued : Int
  closed : Bool
  failure : Reason
  jobs : List Job
  signals : Nat
  deriving Repr, DecidableEq

namespace SinkOutputStream

def create (highWater : Nat) : SinkOutputStream where
  highWater
  queued := 0
  closed := false
  failure := .undefined
  jobs := []
  signals := 0

def signal (stream : SinkOutputStream) : SinkOutputStream :=
  { stream with signals := stream.signals + 1 }

def checkOpen (stream : SinkOutputStream) : Except Failure Unit :=
  if stream.closed then .error .closed
  else if stream.failure ≠ .undefined then
    .error (.lastOperationFailed stream.failure.toIoError)
  else .ok ()

def checkWrite (stream : SinkOutputStream) : Except Failure Int := do
  stream.checkOpen
  return max 0 (stream.highWater - stream.queued)

/-- `write`, and with it `writeZeroes`. -/
def write (stream : SinkOutputStream) (contents : List UInt8) :
    Except Failure SinkOutputStream := do
  stream.checkOpen
  if stream.highWater - stream.queued < contents.length then
    throw (.trap "wasi:io/streams.write: contents exceed the check-write permit")
  return { stream with
    queued := stream.queued + contents.length
    jobs := stream.jobs ++ [⟨contents, .waiting⟩] }

def endJob (stream : SinkOutputStream) (i : Nat) (contents : List UInt8) (state : JobState) :
    SinkOutputStream :=
  signal
    { stream with
      jobs := stream.jobs.set i ⟨contents, state⟩
      queued := stream.queued - contents.length }

/-- The promise of the job before has been resolved. -/
def mayStart (stream : SinkOutputStream) (i : Nat) : Bool :=
  i = 0 || (stream.jobs[i - 1]?).any (·.state.ended)

def startJob (stream : SinkOutputStream) (i : Nat) : Option (List UInt8) × SinkOutputStream :=
  match stream.jobs[i]? with
  | some ⟨contents, .waiting⟩ =>
      if stream.mayStart i then
        if stream.failure = .undefined then
          (some contents, { stream with jobs := stream.jobs.set i ⟨contents, .called⟩ })
        else (none, stream.endJob i contents .skipped)
      else (none, stream)
  | _ => (none, stream)

def answer (stream : SinkOutputStream) (i : Nat) (failure : Option Reason) : SinkOutputStream :=
  match stream.jobs[i]? with
  | some ⟨contents, .called⟩ =>
      match failure with
      | none => stream.endJob i contents .drained
      | some reason => { stream with failure := reason }.endJob i contents (.failed reason)
  | _ => stream

/-- `blockingFlush`: what it returns at once, unless it waits. -/
def blockingFlush (stream : SinkOutputStream) : Option (Except Failure Unit) :=
  match stream.checkOpen with
  | .error failure => some (.error failure)
  | .ok () => if stream.queued = 0 then some (.ok ()) else none

/-- What ends the wait of `blockingFlush`. -/
def settled (stream : SinkOutputStream) : Bool :=
  decide (stream.queued ≤ 0) || decide (stream.failure ≠ .undefined)

/-- What makes the pollable ready. -/
def ready (stream : SinkOutputStream) : Bool :=
  stream.closed || decide (stream.failure ≠ .undefined) ||
    decide (stream.queued < stream.highWater)

/-- `[Symbol.dispose]`. -/
def dispose (stream : SinkOutputStream) : SinkOutputStream := signal { stream with closed := true }

/-- A `blockingFlush` that awaits the promise. -/
structure Flush where
  id : Nat
  promise : Nat
  deriving Repr, DecidableEq

/-- A stream in use: what the sink was called with, the flushes that are parked and what flushes
returned. -/
structure Run where
  stream : SinkOutputStream
  calls : List (List UInt8)
  parked : List Flush
  outcomes : List (Except Failure Unit)
  deriving Repr, DecidableEq

namespace Run

def start (highWater : Nat) : Run where
  stream := .create highWater
  calls := []
  parked := []
  outcomes := []

def onStream (run : Run) (change : SinkOutputStream → SinkOutputStream) : Run :=
  { run with stream := change run.stream }

def write (run : Run) (contents : List UInt8) : Run :=
  match run.stream.write contents with
  | .ok stream => { run with stream }
  | .error _ => run

def startJob (run : Run) (i : Nat) : Run :=
  let (call, stream) := run.stream.startJob i
  { run with stream, calls := run.calls ++ call.toList }

def report (run : Run) (outcome : Except Failure Unit) : Run :=
  { run with outcomes := run.outcomes ++ [outcome] }

def park (run : Run) (id : Nat) : Run :=
  { run with parked := run.parked ++ [⟨id, run.stream.signals⟩] }

def blockingFlush (run : Run) (id : Nat) : Run :=
  match run.stream.blockingFlush with
  | some outcome => run.report outcome
  | none => run.park id

/-- The promise has been resolved. -/
def woken (run : Run) (flush : Flush) : Bool := decide (flush.promise < run.stream.signals)

/-- A flush that is woken returns or waits again. -/
def wake (run : Run) (id : Nat) : Run :=
  match run.parked.find? (·.id = id) with
  | none => run
  | some flush =>
      if run.woken flush then
        let others := { run with parked := run.parked.filter (·.id ≠ id) }
        if run.stream.settled then others.report run.stream.checkOpen else others.park id
      else run

end Run

/-- A guest writes, flushes and disposes; jobs start, and the sink answers. A
`blockingWriteAndFlush` is a `write` followed by a `blockingFlush`. -/
inductive Action where
  | write (contents : List UInt8)
  | startJob (i : Nat)
  | answer (i : Nat) (failure : Option Reason)
  | blockingFlush (id : Nat)
  | wake (id : Nat)
  | dispose
  deriving Repr, DecidableEq

def step : Action → Run → Run
  | .write contents, run => run.write contents
  | .startJob i, run => run.startJob i
  | .answer i failure, run => run.onStream (·.answer i failure)
  | .blockingFlush id, run => if run.parked.any (·.id = id) then run else run.blockingFlush id
  | .wake id, run => run.wake id
  | .dispose, run => run.onStream (·.dispose)

theorem checkOpen_ok {stream : SinkOutputStream} (opened : stream.checkOpen = .ok ()) :
    stream.closed = false ∧ stream.failure = .undefined := by
  unfold checkOpen at opened
  split at opened
  · cases opened
  case isFalse notClosed =>
    split at opened
    · cases opened
    case isFalse unfailed =>
      exact ⟨Bool.eq_false_iff.mpr notClosed, Decidable.not_not.mp unfailed⟩

theorem checkOpen_ok_iff {stream : SinkOutputStream} :
    stream.checkOpen = .ok () ↔ stream.closed = false ∧ stream.failure = .undefined := by
  refine ⟨checkOpen_ok, fun ⟨opened, unfailed⟩ => ?_⟩
  simp only [checkOpen, opened, unfailed, Bool.false_eq_true, if_false, ne_eq, not_true_eq_false]

theorem checkOpen_noTrap (stream : SinkOutputStream) (message : String) :
    stream.checkOpen ≠ .error (.trap message) := by
  unfold checkOpen
  split
  · exact nofun
  · split <;> exact nofun

theorem write_ok {stream next : SinkOutputStream} {contents : List UInt8}
    (written : stream.write contents = .ok next) :
    stream.checkOpen = .ok () ∧ (contents.length : Int) ≤ stream.highWater - stream.queued ∧
      next = { stream with
        queued := stream.queued + contents.length
        jobs := stream.jobs ++ [⟨contents, .waiting⟩] } := by
  simp only [write] at written
  cases opened : stream.checkOpen with
  | error failure =>
      rw [opened] at written
      cases written
  | ok done =>
      rw [opened] at written
      by_cases above : stream.highWater - stream.queued < contents.length
      · simp only [if_pos above] at written
        cases written
      · simp only [if_neg above] at written
        cases written
        exact ⟨rfl, Int.not_lt.mp above, rfl⟩

/-! ## The chain of jobs -/

/-- How far the chain has come: the chunks that the sink has answered, the one that it is called with,
those that skipped it, and those that wait. -/
structure Progress where
  answered : List Job
  current : Option (List UInt8)
  skipped : List (List UInt8)
  waiting : List (List UInt8)

namespace Progress

/-- The jobs that have started. -/
def started (progress : Progress) : List Job :=
  progress.answered ++ progress.current.toList.map (⟨·, .called⟩) ++
    progress.skipped.map (⟨·, .skipped⟩)

def jobs (progress : Progress) : List Job :=
  progress.started ++ progress.waiting.map (⟨·, .waiting⟩)

/-- The bytes that were accepted and not drained. -/
def queued (progress : Progress) : List UInt8 :=
  (progress.current.toList ++ progress.waiting).flatten

theorem set_first {progress : Progress} {contents : List UInt8} {rest : List (List UInt8)}
    (waiting : progress.waiting = contents :: rest) (job : Job) :
    progress.jobs.set progress.started.length job =
      progress.started ++ job :: rest.map (⟨·, .waiting⟩) := by
  rw [jobs, waiting, List.set_append_right _ _ (Nat.le_refl _), Nat.sub_self]
  rfl

end Progress

/-- The chain of a stream and the calls of its sink; the sink is called only while there is no
failure. -/
structure Follows (stream : SinkOutputStream) (calls : List (List UInt8)) (progress : Progress) :
    Prop where
  jobs : stream.jobs = progress.jobs
  calls : calls = progress.answered.map Job.contents ++ progress.current.toList
  answered : ∀ job ∈ progress.answered, job.state = .drained ∨ ∃ reason, job.state = .failed reason ∧
    (reason ≠ .undefined → stream.failure ≠ .undefined)
  queued : stream.queued = progress.queued.length
  permitted : stream.queued ≤ stream.highWater
  unfailed : progress.current ≠ none → stream.failure = .undefined ∧ progress.skipped = []
  skips : progress.skipped ≠ [] → stream.failure ≠ .undefined

section

variable {stream : SinkOutputStream} {calls : List (List UInt8)} {progress : Progress}

theorem Follows.started (follows : Follows stream calls progress) {job : Job}
    (member : job ∈ progress.started) : job.state ≠ .waiting := by
  simp only [Progress.started, List.mem_append, List.mem_map] at member
  obtain (answered | ⟨_, _, rfl⟩) | ⟨_, _, rfl⟩ := member
  · obtain drained | ⟨_, failed, _⟩ := follows.answered job answered
    · rw [drained]
      exact nofun
    · rw [failed]
      exact nofun
  · exact nofun
  · exact nofun

theorem Follows.starts (follows : Follows stream calls progress) {i : Nat} {contents : List UInt8}
    (found : stream.jobs[i]? = some ⟨contents, .waiting⟩) (may : stream.mayStart i = true) :
    i = progress.started.length ∧ progress.current = none ∧
      ∃ rest, progress.waiting = contents :: rest := by
  have jobs := follows.jobs
  rw [Progress.jobs] at jobs
  have atLeast : progress.started.length ≤ i := by
    by_contra below
    rw [jobs, List.getElem?_append_left (Nat.lt_of_not_le below)] at found
    exact follows.started (List.mem_of_getElem? found) rfl
  have before : i ≠ 0 → ∃ job, stream.jobs[i - 1]? = some job ∧ job.state.ended = true := by
    intro positive
    rw [mayStart, Bool.or_eq_true, decide_eq_true_eq] at may
    obtain first | ended := may
    · exact absurd first positive
    · exact (Option.any_eq_true _ _).mp ended
  have atMost : i ≤ progress.started.length := by
    by_contra above
    obtain ⟨job, isBefore, ended⟩ := before (by omega)
    rw [jobs, List.getElem?_append_right (by omega)] at isBefore
    obtain ⟨_, _, rfl⟩ := List.mem_map.mp (List.mem_of_getElem? isBefore)
    cases ended
  have isFirst : i = progress.started.length := Nat.le_antisymm atMost atLeast
  refine ⟨isFirst, ?_, ?_⟩
  · cases running : progress.current with
    | none => rfl
    | some current =>
        have noSkips := (follows.unfailed (by rw [running]; exact nofun)).2
        have last : progress.started = progress.answered ++ [⟨current, .called⟩] := by
          simp [Progress.started, running, noSkips]
        have count : i = progress.answered.length + 1 := by simp [isFirst, last]
        obtain ⟨job, isBefore, ended⟩ := before (by omega)
        rw [jobs, last, count] at isBefore
        simp at isBefore
        rw [← isBefore] at ended
        cases ended
  · rw [jobs, List.getElem?_append_right atLeast, isFirst, Nat.sub_self] at found
    cases waiting : progress.waiting with
    | nil => simp [waiting] at found
    | cons first rest =>
        rw [waiting] at found
        simp only [List.map_cons, List.getElem?_cons_zero, Option.some.injEq, Job.mk.injEq,
          and_true] at found
        exact ⟨rest, by rw [found]⟩

theorem Follows.answers (follows : Follows stream calls progress) {i : Nat} {contents : List UInt8}
    (found : stream.jobs[i]? = some ⟨contents, .called⟩) :
    i = progress.answered.length ∧ progress.current = some contents := by
  have jobs : stream.jobs = progress.answered ++ (progress.current.toList.map (⟨·, .called⟩) ++
      (progress.skipped.map (⟨·, .skipped⟩) ++ progress.waiting.map (⟨·, .waiting⟩))) := by
    rw [follows.jobs, Progress.jobs, Progress.started]
    simp only [List.append_assoc]
  have others : (⟨contents, .called⟩ : Job) ∉
      progress.skipped.map (⟨·, .skipped⟩) ++ progress.waiting.map (⟨·, .waiting⟩) := by
    simp
  have atLeast : progress.answered.length ≤ i := by
    by_contra below
    rw [jobs, List.getElem?_append_left (Nat.lt_of_not_le below)] at found
    obtain drained | ⟨_, failed, _⟩ := follows.answered _ (List.mem_of_getElem? found)
    · cases drained
    · cases failed
  rw [jobs, List.getElem?_append_right atLeast] at found
  cases running : progress.current with
  | none =>
      rw [running, Option.toList_none, List.map_nil, List.nil_append] at found
      exact absurd (List.mem_of_getElem? found) others
  | some current =>
      rw [running, Option.toList_some, List.map_singleton, List.singleton_append] at found
      cases later : i - progress.answered.length with
      | zero =>
          rw [later] at found
          simp only [List.getElem?_cons_zero, Option.some.injEq, Job.mk.injEq, and_true] at found
          exact ⟨by omega, by rw [found]⟩
      | succ index =>
          rw [later, List.getElem?_cons_succ] at found
          exact absurd (List.mem_of_getElem? found) others

theorem Follows.write (follows : Follows stream calls progress) {contents : List UInt8}
    {next : SinkOutputStream} (written : stream.write contents = .ok next) :
    Follows next calls { progress with waiting := progress.waiting ++ [contents] } := by
  obtain ⟨_, within, rfl⟩ := write_ok written
  refine ⟨?_, follows.calls, follows.answered, ?_, ?_, follows.unfailed, follows.skips⟩
  · simp only [follows.jobs, Progress.jobs, Progress.started, List.map_append, List.map_singleton,
      List.append_assoc]
  · simp only [follows.queued, Progress.queued, List.flatten_append, List.flatten_singleton,
      List.length_append]
    omega
  · simp only
    omega

theorem Follows.call (follows : Follows stream calls progress) {i : Nat} {contents : List UInt8}
    (found : stream.jobs[i]? = some ⟨contents, .waiting⟩) (may : stream.mayStart i = true)
    (unfailed : stream.failure = .undefined) :
    ∃ next, Follows { stream with jobs := stream.jobs.set i ⟨contents, .called⟩ }
      (calls ++ [contents]) next := by
  obtain ⟨isFirst, notRunning, rest, waiting⟩ := follows.starts found may
  have noSkips : progress.skipped = [] := by
    by_contra skipped
    exact follows.skips skipped unfailed
  have started : progress.started = progress.answered := by
    simp [Progress.started, notRunning, noSkips]
  refine ⟨⟨progress.answered, some contents, [], rest⟩, ?_, ?_, follows.answered, ?_,
    follows.permitted, fun _ => ⟨unfailed, rfl⟩, fun skipped => absurd rfl skipped⟩
  · rw [follows.jobs, isFirst, Progress.set_first waiting, started]
    simp [Progress.jobs, Progress.started]
  · simp [follows.calls, notRunning]
  · rw [follows.queued]
    simp [Progress.queued, notRunning, waiting]

theorem Follows.skip (follows : Follows stream calls progress) {i : Nat} {contents : List UInt8}
    (found : stream.jobs[i]? = some ⟨contents, .waiting⟩) (may : stream.mayStart i = true)
    (failed : stream.failure ≠ .undefined) :
    ∃ next, Follows (stream.endJob i contents .skipped) calls next := by
  obtain ⟨isFirst, notRunning, rest, waiting⟩ := follows.starts found may
  have queued := follows.queued
  have permitted := follows.permitted
  refine ⟨⟨progress.answered, none, progress.skipped ++ [contents], rest⟩, ?_, ?_,
    follows.answered, ?_, ?_, fun running => absurd rfl running, fun _ => failed⟩
  · simp only [endJob, signal, follows.jobs, isFirst, Progress.set_first waiting]
    simp [Progress.jobs, Progress.started, notRunning]
  · simp [follows.calls, notRunning]
  · simp [endJob, signal, Progress.queued, notRunning, waiting] at queued ⊢
    omega
  · simp only [endJob, signal]
    omega

theorem Follows.answer (follows : Follows stream calls progress) (i : Nat)
    (failure : Option Reason) : ∃ next, Follows (stream.answer i failure) calls next := by
  unfold SinkOutputStream.answer
  split
  case h_2 => exact ⟨progress, follows⟩
  case h_1 contents found =>
    obtain ⟨isCurrent, running⟩ := follows.answers found
    obtain ⟨unfailed, noSkips⟩ := follows.unfailed (by rw [running]; exact nofun)
    have queued := follows.queued
    have permitted := follows.permitted
    have jobs : ∀ state, stream.jobs.set i ⟨contents, state⟩ =
        Progress.jobs ⟨progress.answered ++ [⟨contents, state⟩], none, [], progress.waiting⟩ := by
      intro state
      simp [follows.jobs, Progress.jobs, Progress.started, isCurrent, running, noSkips]
    have rest : stream.queued - contents.length = (progress.waiting.flatten.length : Int) := by
      simp only [Progress.queued, running, Option.toList_some, List.singleton_append,
        List.flatten_cons, List.length_append] at queued
      omega
    have called : calls = (progress.answered.map Job.contents) ++ [contents] := by
      simp [follows.calls, running]
    cases failure with
    | none =>
        simp only
        refine ⟨⟨progress.answered ++ [(⟨contents, .drained⟩ : Job)], none, [], progress.waiting⟩,
          jobs .drained, ?_, ?_, rest, ?_, fun running => absurd rfl running,
          fun skipped => absurd rfl skipped⟩
        · simp [called]
        · intro job member
          obtain before | new := List.mem_append.mp member
          · exact follows.answered job before
          · cases List.mem_singleton.mp new
            exact .inl rfl
        · simp only [endJob, signal]
          omega
    | some reason =>
        simp only
        refine ⟨⟨progress.answered ++ [(⟨contents, .failed reason⟩ : Job)], none, [], progress.waiting⟩,
          jobs (.failed reason), ?_, ?_, rest, ?_, fun running => absurd rfl running,
          fun skipped => absurd rfl skipped⟩
        · simp [called]
        · intro job member
          obtain before | new := List.mem_append.mp member
          · obtain drained | ⟨other, failed, kept⟩ := follows.answered job before
            · exact .inl drained
            · refine .inr ⟨other, failed, fun isReason => absurd unfailed (kept isReason)⟩
          · cases List.mem_singleton.mp new
            exact .inr ⟨reason, rfl, id⟩
        · simp only [endJob, signal]
          omega

end

/-! ## Runs -/

/-- The stream signals, or it does not become ready and no flush may return that might not before. -/
def Moves (before after : SinkOutputStream) : Prop :=
  before.signals < after.signals ∨
    (after.signals = before.signals ∧ (after.ready = true → before.ready = true) ∧
      (after.settled = true → before.settled = true))

theorem Moves.refl (stream : SinkOutputStream) : Moves stream stream :=
  .inr ⟨rfl, fun isReady => isReady, fun settled => settled⟩

/-- A failure can no longer be told from none if its reason is undefined. -/
def Unambiguous (stream : SinkOutputStream) : Prop :=
  ∀ job ∈ stream.jobs, job.state ≠ .failed .undefined

/-- The chunks that were accepted and have not been drained. -/
def undrained (stream : SinkOutputStream) : List (List UInt8) :=
  (stream.jobs.filter (·.state ≠ .drained)).map Job.contents

namespace Run

structure Sound (run : Run) : Prop where
  follows : ∃ progress, Follows run.stream run.calls progress
  unique : (run.parked.map Flush.id).Nodup
  woken : ∀ flush ∈ run.parked, flush.promise ≤ run.stream.signals ∧
    (run.stream.settled = true → flush.promise < run.stream.signals)

theorem start_sound (highWater : Nat) : (start highWater).Sound where
  follows := by
    refine ⟨⟨[], none, [], []⟩, rfl, rfl, nofun, rfl, ?_, nofun, nofun⟩
    exact Int.natCast_nonneg highWater
  unique := List.nodup_nil
  woken := nofun

theorem Sound.withStream {run : Run} (sound : run.Sound) {stream : SinkOutputStream}
    {calls : List (List UInt8)} (follows : ∃ progress, Follows stream calls progress)
    (moves : Moves run.stream stream) : ({ run with stream, calls } : Run).Sound := by
  refine ⟨follows, sound.unique, fun flush member => ?_⟩
  obtain ⟨promised, isWoken⟩ := sound.woken flush member
  obtain signalled | ⟨same, _, unsettled⟩ := moves
  · exact ⟨Nat.le_trans promised signalled.le, fun _ => Nat.lt_of_le_of_lt promised signalled⟩
  · simp only [same]
    exact ⟨promised, fun settled => isWoken (unsettled settled)⟩

theorem write_moves {run : Run} {contents : List UInt8} {next : SinkOutputStream}
    (sound : run.Sound) (written : run.stream.write contents = .ok next) :
    Moves run.stream next ∧ ∃ progress, Follows next run.calls progress := by
  obtain ⟨progress, follows⟩ := sound.follows
  have nextFollows := follows.write written
  obtain ⟨_, _, rfl⟩ := write_ok written
  refine ⟨.inr ⟨rfl, fun isReady => ?_, fun settled => ?_⟩, _, nextFollows⟩
  · simp only [ready, Bool.or_eq_true, decide_eq_true_eq] at isReady ⊢
    exact isReady.imp_right fun below => by omega
  · simp only [SinkOutputStream.settled, Bool.or_eq_true, decide_eq_true_eq] at settled ⊢
    exact settled.imp_left fun none => by omega

theorem startJob_moves {run : Run} (sound : run.Sound) (i : Nat) :
    Moves run.stream (run.startJob i).stream ∧
      ∃ progress, Follows (run.startJob i).stream (run.startJob i).calls progress := by
  obtain ⟨progress, follows⟩ := sound.follows
  have same : Moves run.stream run.stream ∧
      ∃ progress, Follows run.stream (run.calls ++ []) progress := by
    rw [List.append_nil]
    exact ⟨.refl run.stream, progress, follows⟩
  simp only [startJob, SinkOutputStream.startJob]
  split
  case h_2 => exact same
  case h_1 contents found =>
    split
    case isFalse => exact same
    case isTrue may =>
      split
      case isTrue unfailed => exact ⟨.inr ⟨rfl, fun isReady => isReady, fun settled => settled⟩,
          follows.call found may unfailed⟩
      case isFalse failed =>
        rw [Option.toList_none, List.append_nil]
        exact ⟨.inl (Nat.lt_succ_self _), follows.skip found may failed⟩

theorem answer_moves (stream : SinkOutputStream) (i : Nat) (failure : Option Reason) :
    Moves stream (stream.answer i failure) := by
  unfold answer
  split
  · cases failure with
    | none => exact .inl (Nat.lt_succ_self _)
    | some reason => exact .inl (Nat.lt_succ_self _)
  · exact .refl stream

theorem report_sound {run : Run} (sound : run.Sound) (outcome : Except Failure Unit) :
    (run.report outcome).Sound := ⟨sound.follows, sound.unique, sound.woken⟩

theorem park_sound {run : Run} (sound : run.Sound) {id : Nat}
    (fresh : id ∉ run.parked.map Flush.id) (unsettled : run.stream.settled ≠ true) :
    (run.park id).Sound := by
  refine ⟨sound.follows, ?_, fun flush member => ?_⟩
  · rw [park, List.map_append]
    exact List.Nodup.append sound.unique (List.nodup_singleton _)
      (List.disjoint_singleton.mpr fresh)
  · obtain before | new := List.mem_append.mp member
    · exact sound.woken flush before
    · cases List.mem_singleton.mp new
      exact ⟨Nat.le_refl _, fun settled => absurd settled unsettled⟩

theorem Sound.settled_iff {run : Run} (sound : run.Sound)
    (unfailed : run.stream.failure = .undefined) :
    run.stream.settled = true ↔ run.stream.queued = 0 := by
  obtain ⟨progress, follows⟩ := sound.follows
  have queued := follows.queued
  simp only [SinkOutputStream.settled, unfailed, Bool.or_eq_true, decide_eq_true_eq, ne_eq,
    not_true_eq_false, or_false]
  omega

theorem blockingFlush_cases {run : Run} (sound : run.Sound) :
    (run.stream.blockingFlush = some run.stream.checkOpen ∧
        (run.stream.checkOpen = .ok () → run.stream.settled = true)) ∨
      (run.stream.blockingFlush = none ∧ run.stream.settled ≠ true) := by
  unfold SinkOutputStream.blockingFlush
  cases opened : run.stream.checkOpen with
  | error failure => exact .inl ⟨rfl, nofun⟩
  | ok done =>
      have settled := sound.settled_iff (checkOpen_ok opened).2
      simp only
      split
      case isTrue empty => exact .inl ⟨rfl, fun _ => settled.mpr empty⟩
      case isFalse pending => exact .inr ⟨rfl, fun isSettled => pending (settled.mp isSettled)⟩

theorem blockingFlush_sound {run : Run} (sound : run.Sound) {id : Nat}
    (fresh : id ∉ run.parked.map Flush.id) : (run.blockingFlush id).Sound := by
  unfold blockingFlush
  obtain ⟨returns, _⟩ | ⟨waits, unsettled⟩ := blockingFlush_cases sound
  · rw [returns]
    exact report_sound sound _
  · rw [waits]
    exact park_sound sound fresh unsettled

theorem wake_sound {run : Run} (sound : run.Sound) (id : Nat) : (run.wake id).Sound := by
  unfold wake
  cases run.parked.find? (·.id = id) with
  | none => exact sound
  | some flush =>
      simp only
      have others : ({ run with parked := run.parked.filter (·.id ≠ id) } : Run).Sound := by
        refine ⟨sound.follows, ?_, fun flush member => ?_⟩
        · exact sound.unique.sublist (List.filter_sublist.map Flush.id)
        · exact sound.woken flush (List.mem_of_mem_filter member)
      split
      · split
        · exact report_sound others _
        case isFalse unsettled =>
          apply park_sound others _ unsettled
          intro member
          obtain ⟨other, listed, same⟩ := List.mem_map.mp member
          simp [same] at listed
      · exact sound

theorem step_sound (action : Action) (run : Run) (sound : run.Sound) : (step action run).Sound := by
  cases action with
  | write contents =>
      simp only [step, write]
      cases written : run.stream.write contents with
      | error failure => exact sound
      | ok next =>
          obtain ⟨moves, follows⟩ := write_moves sound written
          exact sound.withStream follows moves
  | startJob i =>
      obtain ⟨moves, follows⟩ := startJob_moves sound i
      exact sound.withStream follows moves
  | answer i failure =>
      obtain ⟨progress, follows⟩ := sound.follows
      exact sound.withStream (follows.answer i failure) (answer_moves run.stream i failure)
  | blockingFlush id =>
      simp only [step]
      split
      · exact sound
      case isFalse fresh =>
        apply blockingFlush_sound sound
        intro member
        obtain ⟨flush, listed, same⟩ := List.mem_map.mp member
        exact fresh (List.any_eq_true.mpr ⟨flush, listed, decide_eq_true same⟩)
  | wake id => exact wake_sound sound id
  | dispose =>
      obtain ⟨progress, follows⟩ := sound.follows
      have kept : Follows run.stream.dispose run.calls progress :=
        ⟨follows.jobs, follows.calls, follows.answered, follows.queued, follows.permitted,
          follows.unfailed, follows.skips⟩
      exact sound.withStream ⟨progress, kept⟩ (.inl (Nat.lt_succ_self _))

theorem step_moves (action : Action) (run : Run) (sound : run.Sound) :
    Moves run.stream (step action run).stream := by
  have flushes : ∀ (run : Run) id, (run.blockingFlush id).stream = run.stream := by
    intro run id
    unfold blockingFlush
    split <;> rfl
  cases action with
  | write contents =>
      simp only [step, write]
      cases written : run.stream.write contents with
      | error failure => exact .refl run.stream
      | ok next => exact (write_moves sound written).1
  | startJob i => exact (startJob_moves sound i).1
  | answer i failure => exact answer_moves run.stream i failure
  | blockingFlush id =>
      simp only [step]
      split
      · exact .refl run.stream
      · rw [flushes]
        exact .refl run.stream
  | wake id =>
      simp only [step, wake]
      cases run.parked.find? (·.id = id) with
      | none => exact .refl run.stream
      | some flush =>
          simp only
          split
          · split
            · exact .refl run.stream
            · exact .refl run.stream
          · exact .refl run.stream
  | dispose => exact .inl (Nat.lt_succ_self _)

theorem find_parked {parked : List Flush} (unique : (parked.map Flush.id).Nodup) {flush : Flush}
    (member : flush ∈ parked) : parked.find? (·.id = flush.id) = some flush := by
  cases found : parked.find? (·.id = flush.id) with
  | none => exact absurd (decide_eq_true rfl) (List.find?_eq_none.mp found flush member)
  | some other =>
      have same : other.id = flush.id := by simpa using List.find?_some found
      rw [List.inj_on_of_nodup_map unique (List.mem_of_find?_eq_some found) member same]

theorem Sound.undrained {run : Run} (sound : run.Sound) (unambiguous : run.stream.Unambiguous)
    (unfailed : run.stream.failure = .undefined) :
    run.stream.queued = run.stream.undrained.flatten.length := by
  obtain ⟨progress, follows⟩ := sound.follows
  have noSkips : progress.skipped = [] := by
    by_contra skipped
    exact follows.skips skipped unfailed
  have drained : ∀ job ∈ progress.answered, ¬job.state ≠ .drained := by
    intro job member pending
    obtain drained | ⟨reason, failed, kept⟩ := follows.answered job member
    · exact pending drained
    · have listed : job ∈ run.stream.jobs := by
        rw [follows.jobs]
        simp [Progress.jobs, Progress.started, member]
      have isUndefined : reason = .undefined := by
        by_contra other
        exact kept other unfailed
      exact unambiguous job listed (isUndefined ▸ failed)
  have none : progress.answered.filter (·.state ≠ .drained) = [] := by
    simpa [List.filter_eq_nil_iff] using drained
  rw [follows.queued, SinkOutputStream.undrained, follows.jobs, Progress.jobs, Progress.started,
    noSkips, List.filter_append, List.filter_append, List.filter_append, none]
  cases running : progress.current with
  | none => simp [Progress.queued, List.filter_map, Function.comp_def, running]
  | some current => simp [Progress.queued, List.filter_map, Function.comp_def, running]

/-- The chunk that an action adds to those that the stream has accepted. -/
def accepts (run : Run) : Action → List (List UInt8)
  | .write contents =>
      match run.stream.write contents with
      | .ok _ => [contents]
      | .error _ => []
  | _ => []

theorem step_contents (action : Action) (run : Run) :
    (step action run).stream.jobs.map Job.contents =
        run.stream.jobs.map Job.contents ++ run.accepts action ∧
      (step action run).stream.closed = (run.stream.closed || decide (action = .dispose)) := by
  have changed : ∀ i contents state state',
      run.stream.jobs[i]? = some (⟨contents, state⟩ : Job) →
        (run.stream.jobs.set i ⟨contents, state'⟩).map Job.contents =
          run.stream.jobs.map Job.contents := by
    intro i contents state state' found
    have same : (run.stream.jobs.map Job.contents)[i]? = some contents := by
      rw [List.getElem?_map, found]
      rfl
    obtain ⟨bound, isContents⟩ := List.getElem?_eq_some_iff.mp same
    rw [List.map_set, ← isContents, List.set_getElem_self]
  have flushes : ∀ (run : Run) id, (run.blockingFlush id).stream = run.stream := by
    intro run id
    unfold blockingFlush
    split <;> rfl
  cases action with
  | write contents =>
      simp only [step, write, accepts]
      cases written : run.stream.write contents with
      | error failure => simp
      | ok next =>
          obtain ⟨_, _, rfl⟩ := write_ok written
          simp
  | startJob i =>
      simp only [step, startJob, SinkOutputStream.startJob, accepts, List.append_nil]
      split
      case h_2 => simp
      case h_1 contents found =>
        split
        · split
          · exact ⟨changed _ _ _ _ found, by simp⟩
          · exact ⟨changed _ _ _ _ found, by simp [endJob, signal]⟩
        · simp
  | answer i failure =>
      simp only [step, onStream, SinkOutputStream.answer, accepts, List.append_nil]
      split
      case h_2 => simp
      case h_1 contents found =>
        cases failure with
        | none => exact ⟨changed _ _ _ _ found, by simp [endJob, signal]⟩
        | some reason => exact ⟨changed _ _ _ _ found, by simp [endJob, signal]⟩
  | blockingFlush id =>
      simp only [step, accepts, List.append_nil]
      split
      · simp
      · rw [flushes]
        simp
  | wake id =>
      simp only [step, wake, accepts, List.append_nil]
      cases run.parked.find? (·.id = id) with
      | none => simp
      | some flush =>
          simp only
          split
          · split <;> simp [report, park]
          · simp
  | dispose => simp [step, onStream, dispose, signal, accepts]

theorem step_jobs (action : Action) (run : Run) :
    run.stream.jobs.map Job.contents <+: (step action run).stream.jobs.map Job.contents := by
  rw [(step_contents action run).1]
  exact List.prefix_append _ _

/-- `subscribe`. -/
def subscribe : Pollable Run := .swapped (fun run => run.stream.ready) (fun run => run.stream.signals)

/-- What a stream in use promises: the sink gets the accepted chunks in order, one at a time and none
after a failure, the permit is what is left below the mark, a flush that succeeds has drained every
byte, and whoever waits is woken. -/
structure Conserves (run : Run) : Prop where
  calls : run.calls <+: run.stream.jobs.map Job.contents
  serial : ∀ action, (step action run).calls ≠ run.calls →
    (∀ job ∈ run.stream.jobs, job.state ≠ .called) ∧
      ∀ job ∈ run.stream.jobs, ∀ reason, job.state = .failed reason → reason = .undefined
  permit : run.stream.Unambiguous → ∀ n, run.stream.checkWrite = .ok n →
    0 ≤ n ∧ n = run.stream.highWater - (run.stream.undrained.flatten.length : Int)
  flushed : run.stream.Unambiguous → ∀ action,
    (step action run).outcomes = run.outcomes ++ [.ok ()] → run.stream.undrained.flatten = []
  readiness : subscribe.ready run = true ↔ run.stream.closed = true ∨
    run.stream.failure ≠ .undefined ∨ run.stream.queued < run.stream.highWater
  wakes : subscribe.WakesFrom step run
  returns : run.stream.settled = true → ∀ flush ∈ run.parked,
    run.woken flush = true ∧
      step (.wake flush.id) run =
        { run with
          parked := run.parked.filter (·.id ≠ flush.id)
          outcomes := run.outcomes ++ [run.stream.checkOpen] }

theorem outcomes_cases (action : Action) (run : Run) (sound : run.Sound) :
    (step action run).outcomes = run.outcomes ∨
      ((step action run).outcomes = run.outcomes ++ [run.stream.checkOpen] ∧
        (run.stream.checkOpen = .ok () → run.stream.settled = true)) := by
  cases action with
  | write contents =>
      simp only [step, write]
      split <;> exact .inl rfl
  | startJob i => exact .inl rfl
  | answer i failure => exact .inl rfl
  | dispose => exact .inl rfl
  | blockingFlush id =>
      simp only [step]
      split
      · exact .inl rfl
      · unfold blockingFlush
        obtain ⟨returns, settles⟩ | ⟨waits, _⟩ := blockingFlush_cases sound
        · rw [returns]
          exact .inr ⟨rfl, settles⟩
        · rw [waits]
          exact .inl rfl
  | wake id =>
      simp only [step, wake]
      cases run.parked.find? (·.id = id) with
      | none => exact .inl rfl
      | some flush =>
          simp only
          split
          · split
            case isTrue settled => exact .inr ⟨rfl, fun _ => settled⟩
            case isFalse => exact .inl rfl
          · exact .inl rfl

theorem calls_cases {action : Action} {run : Run} (calls : (step action run).calls ≠ run.calls) :
    ∃ i contents, run.stream.jobs[i]? = some ⟨contents, .waiting⟩ ∧
      run.stream.mayStart i = true ∧ run.stream.failure = .undefined := by
  cases action with
  | startJob i =>
      simp only [step, startJob, SinkOutputStream.startJob] at calls
      split at calls
      case h_2 => exact absurd (List.append_nil _) calls
      case h_1 contents found =>
        split at calls
        case isFalse => exact absurd (List.append_nil _) calls
        case isTrue may =>
          split at calls
          case isFalse => exact absurd (List.append_nil _) calls
          case isTrue unfailed => exact ⟨i, contents, found, may, unfailed⟩
  | write contents =>
      simp only [step, write] at calls
      split at calls <;> exact absurd rfl calls
  | answer i failure | dispose => exact absurd rfl calls
  | blockingFlush id =>
      simp only [step, blockingFlush] at calls
      split at calls
      · exact absurd rfl calls
      · split at calls <;> exact absurd rfl calls
  | wake id =>
      simp only [step, wake] at calls
      split at calls
      · exact absurd rfl calls
      · split at calls
        · split at calls <;> exact absurd rfl calls
        · exact absurd rfl calls

theorem Sound.conserves {run : Run} (sound : run.Sound) : run.Conserves where
  calls := by
    obtain ⟨progress, follows⟩ := sound.follows
    rw [follows.calls, follows.jobs, Progress.jobs, Progress.started]
    cases progress.current with
    | none => simp
    | some current => simp
  serial := by
    intro action calls
    obtain ⟨i, contents, found, may, unfailed⟩ := calls_cases calls
    obtain ⟨progress, follows⟩ := sound.follows
    obtain ⟨_, notRunning, _⟩ := follows.starts found may
    have parts : ∀ job ∈ run.stream.jobs, job ∈ progress.answered ∨ job.state = .skipped ∨
        job.state = .waiting := by
      intro job member
      rw [follows.jobs, Progress.jobs, Progress.started, notRunning] at member
      simp only [Option.toList_none, List.map_nil, List.append_nil, List.mem_append,
        List.mem_map] at member
      obtain (answered | ⟨_, _, rfl⟩) | ⟨_, _, rfl⟩ := member
      · exact .inl answered
      · exact .inr (.inl rfl)
      · exact .inr (.inr rfl)
    refine ⟨fun job member called => ?_, fun job member reason failed => ?_⟩
    · obtain answered | skipped | waiting := parts job member
      · obtain drained | ⟨_, failed, _⟩ := follows.answered job answered
        · exact nomatch drained.symm.trans called
        · exact nomatch failed.symm.trans called
      · exact nomatch skipped.symm.trans called
      · exact nomatch waiting.symm.trans called
    · obtain answered | skipped | waiting := parts job member
      · obtain drained | ⟨other, isFailed, kept⟩ := follows.answered job answered
        · exact nomatch drained.symm.trans failed
        · cases isFailed.symm.trans failed
          by_contra isReason
          exact kept isReason unfailed
      · exact nomatch skipped.symm.trans failed
      · exact nomatch waiting.symm.trans failed
  permit := by
    intro unambiguous n checked
    unfold checkWrite at checked
    cases opened : run.stream.checkOpen with
    | error failure =>
        rw [opened] at checked
        cases checked
    | ok done =>
        rw [opened] at checked
        cases checked
        obtain ⟨progress, follows⟩ := sound.follows
        have permitted := follows.permitted
        rw [← sound.undrained unambiguous (checkOpen_ok opened).2]
        omega
  flushed := by
    intro unambiguous action reports
    obtain quiet | ⟨spoke, settles⟩ := outcomes_cases action run sound
    · rw [quiet] at reports
      simp at reports
    · rw [spoke] at reports
      have opened : run.stream.checkOpen = .ok () := by simpa using reports
      have unfailed := (checkOpen_ok opened).2
      have none := (sound.settled_iff unfailed).mp (settles opened)
      have undrained := sound.undrained unambiguous unfailed
      apply List.length_eq_zero_iff.mp
      omega
  readiness := by
    simp [subscribe, Pollable.swapped, ready, or_assoc]
  wakes := by
    apply Pollable.swapped_wakes step_sound _ sound
    intro action run sound
    exact (step_moves action run sound).imp_right fun same => ⟨same.1, same.2.1⟩
  returns := by
    intro settled flush member
    have isWoken : run.woken flush = true := decide_eq_true ((sound.woken flush member).2 settled)
    refine ⟨isWoken, ?_⟩
    simp only [step, wake, find_parked sound.unique member, isWoken, settled, if_true]
    rfl

theorem run_conserves (highWater : Nat) (actions : List Action) :
    (Transition.runAll step actions (start highWater)).Conserves :=
  (Transition.runAll_invariant step_sound actions (start_sound highWater)).conserves

end Run

end SinkOutputStream

/-- Streams that are fed and streams over a sink keep every byte in order and wake whoever waits. -/
theorem streams_conserve (highWater : Nat) :
    (∀ actions, (Transition.runAll FedInputStream.step actions
      (.start highWater)).Conserves) ∧
    ∀ actions, (Transition.runAll SinkOutputStream.step actions
      (.start highWater)).Conserves :=
  ⟨FedInputStream.Run.run_conserves highWater, SinkOutputStream.Run.run_conserves highWater⟩

/-- A disposed stream reports its end before its last byte, and a sink that fails with undefined is
called again and flushed with success. -/
theorem disposed_and_undefined :
    (∃ run, run = Transition.runAll FedInputStream.step [.source (.chunk [1]), .dispose] (.start 4) ∧
      (FedInputStream.step (.read 1) run).outcomes = run.outcomes ++ [.error .closed] ∧
      run.returned ≠ run.yielded.flatten) ∧
    (∃ run, run = Transition.runAll SinkOutputStream.step
        [.write [1], .write [2], .startJob 0, .answer 0 (some .undefined)] (.start 4) ∧
      (∃ job ∈ run.stream.jobs, job.state = .failed .undefined) ∧
      (SinkOutputStream.step (.startJob 1) run).calls = run.calls ++ [[2]]) ∧
    ∃ run, run = Transition.runAll SinkOutputStream.step
        [.write [1], .startJob 0, .answer 0 (some .undefined)] (.start 4) ∧
      (SinkOutputStream.step (.blockingFlush 0) run).outcomes = run.outcomes ++ [.ok ()] ∧
      run.stream.undrained = [[1]] :=
  ⟨⟨_, rfl, by decide, by decide⟩, ⟨_, rfl, by decide, by decide⟩, ⟨_, rfl, by decide, by decide⟩⟩

end Polyengine.Wasi.Io
