import Polyengine.Embedder.HostResourceRegistry
import Polyengine.Wasi.StreamSplice

/-!
# Standard streams

The `wasi:cli` of 0.2 over the stdio of the host and over captured buffers: the streams behind the
three channels, and the handles by which a guest reaches them. Each handle is an owning
registration, and dropping it disposes of the stream that it was registered for.
-/

set_option autoImplicit false

namespace Polyengine.Wasi.Cli

open Polyengine.Library Polyengine.Wasi.Io
open Polyengine.Embedder (HostResourceRegistry)

def STREAM_HIGH_WATER : Nat := 65536

inductive OutputChannel where
  | stdout
  | stderr
  deriving Repr, DecidableEq

inductive Channel where
  | stdin
  | output (channel : OutputChannel)
  deriving Repr, DecidableEq

def OutputChannel.object : OutputChannel → Nat
  | .stdout => 0
  | .stderr => 1

def OutputChannel.ofObject : Nat → Option OutputChannel
  | 0 => some .stdout
  | 1 => some .stderr
  | _ => none

/-- How an operation on a handle was answered: its failure, if it failed, and whether the input of
the channel had come to its end, every byte being delivered. -/
structure Answer where
  channel : Channel
  failure : Option Failure
  ended : Bool
  deriving Repr, DecidableEq

/-- An answer that reports the end of a stream is right if there was nothing more to come. -/
def Answer.Rightly (answer : Answer) : Prop :=
  answer.failure = some .closed → answer.ended = true

def failureOf {Result : Type} : Except Failure Result → Option Failure
  | .ok _ => none
  | .error failure => some failure

/-- `skip` and `blockingSkip` are reads of which the count is returned. -/
inductive InputOperation where
  | read (len : Nat)
  | blockingRead (id len : Nat)
  deriving Repr, DecidableEq

/-- `writeZeroes` is a `write`, and the blocking writes are a `write` and a `blockingFlush`. -/
inductive OutputOperation where
  | checkWrite
  | write (contents : List UInt8)
  | flush
  | blockingFlush (id : Nat)
  deriving Repr, DecidableEq

/-! ## Host stdio -/

/-- What the source of stdin and the event loop do. -/
inductive InputEvent where
  | source (event : SourceEvent)
  | sourceStopped (failure : Option Reason)
  | feedResumes
  | wake (id : Nat)
  deriving Repr, DecidableEq

/-- What a sink and the event loop do. -/
inductive OutputEvent where
  | startJob (i : Nat)
  | answer (i : Nat) (failure : Option Reason)
  | wake (id : Nat)
  deriving Repr, DecidableEq

def InputOperation.action : InputOperation → FedInputStream.Action
  | .read len => .read len
  | .blockingRead id len => .blockingRead id len

def InputEvent.action : InputEvent → FedInputStream.Action
  | .source event => .source event
  | .sourceStopped failure => .sourceStopped failure
  | .feedResumes => .feedResumes
  | .wake id => .wake id

/-- What an operation does to the stream; the two that only look do nothing. -/
def OutputOperation.action : OutputOperation → Option Io.SinkOutputStream.Action
  | .write contents => some (.write contents)
  | .blockingFlush id => some (.blockingFlush id)
  | .checkWrite | .flush => none

def OutputEvent.action : OutputEvent → Io.SinkOutputStream.Action
  | .startJob i => .startJob i
  | .answer i failure => .answer i failure
  | .wake id => .wake id

/-- `p2Stdin`, `p2Stdout` and `p2Stderr` with the registries of the two stream resources. `accepted`
has the chunks that the handles of a channel have written, `dropped` the channel of every handle
that was dropped, and `answers` every answer of an operation. -/
structure HostStdio where
  inputs : HostResourceRegistry
  outputs : HostResourceRegistry
  stdin : Option FedInputStream.Run
  output : OutputChannel → Io.SinkOutputStream.Run
  accepted : OutputChannel → List (List UInt8)
  dropped : List Channel
  answers : List Answer

namespace HostStdio

def start : HostStdio where
  inputs := .create
  outputs := .create
  stdin := none
  output _ := .start STREAM_HIGH_WATER
  accepted _ := []
  dropped := []
  answers := []

inductive Action where
  | getStdin
  | getOutput (channel : OutputChannel)
  | dropInput (rep : Nat)
  | dropOutput (rep : Nat)
  | input (rep : Nat) (operation : InputOperation)
  | output (rep : Nat) (operation : OutputOperation)
  | inputEvent (event : InputEvent)
  | outputEvent (channel : OutputChannel) (event : OutputEvent)
  deriving Repr, DecidableEq

def inputAnswers (run : FedInputStream.Run) (action : FedInputStream.Action) : List Answer :=
  ((FedInputStream.step action run).outcomes.drop run.outcomes.length).map fun outcome =>
    ⟨.stdin, failureOf outcome, run.stream.eof && decide (run.stream.buffered = 0)⟩

def flushAnswers (channel : OutputChannel) (run : Io.SinkOutputStream.Run)
    (action : Io.SinkOutputStream.Action) : List Answer :=
  ((Io.SinkOutputStream.step action run).outcomes.drop run.outcomes.length).map fun outcome =>
    ⟨.output channel, failureOf outcome, false⟩

def outputAnswers (channel : OutputChannel) (run : Io.SinkOutputStream.Run) :
    OutputOperation → List Answer
  | .checkWrite => [⟨.output channel, failureOf run.stream.checkWrite, false⟩]
  | .write contents => [⟨.output channel, failureOf (run.stream.write contents), false⟩]
  | .flush => [⟨.output channel, failureOf run.stream.checkOpen, false⟩]
  | .blockingFlush id => flushAnswers channel run (.blockingFlush id)

/-- The channel of a live output handle. -/
def channelOf (stdio : HostStdio) (rep : Nat) : Option OutputChannel :=
  match stdio.outputs.lookup rep with
  | .error _ => none
  | .ok object => OutputChannel.ofObject object

/-- The answers that an action gives; an operation on a handle that is not live traps. -/
def answered (stdio : HostStdio) : Action → List Answer
  | .input rep operation =>
      match stdio.inputs.lookup rep, stdio.stdin with
      | .ok _, some run => inputAnswers run operation.action
      | _, _ => []
  | .inputEvent event =>
      match stdio.stdin with
      | some run => inputAnswers run event.action
      | none => []
  | .output rep operation =>
      match stdio.channelOf rep with
      | some channel => outputAnswers channel (stdio.output channel) operation
      | none => []
  | .outputEvent channel event => flushAnswers channel (stdio.output channel) event.action
  | .getStdin | .getOutput _ | .dropInput _ | .dropOutput _ => []

def onOutput (stdio : HostStdio) (channel : OutputChannel) (action : Io.SinkOutputStream.Action) :
    HostStdio :=
  let run := stdio.output channel
  { stdio with
    output := Function.update stdio.output channel (Io.SinkOutputStream.step action run)
    accepted := Function.update stdio.accepted channel
      (stdio.accepted channel ++ run.accepts action) }

/-- `get-stdin` makes the stream on the first call. -/
def getStdin (stdio : HostStdio) : HostStdio :=
  match stdio.inputs.repFor (some 0) with
  | .error _ => stdio
  | .ok (_, inputs) =>
      { stdio with
        inputs
        stdin := some (stdio.stdin.getD (.start STREAM_HIGH_WATER)) }

def getOutput (stdio : HostStdio) (channel : OutputChannel) : HostStdio :=
  match stdio.outputs.repFor (some channel.object) with
  | .error _ => stdio
  | .ok (_, outputs) => { stdio with outputs }

/-- The drop of a handle of stdin runs the destructor of its registration. -/
def dropInput (stdio : HostStdio) (rep : Nat) : HostStdio :=
  let (disposes, inputs) := stdio.inputs.dtor rep
  if disposes then
    { stdio with
      inputs
      stdin := stdio.stdin.map (FedInputStream.step .dispose)
      dropped := .stdin :: stdio.dropped }
  else { stdio with inputs }

def dropOutput (stdio : HostStdio) (rep : Nat) : HostStdio :=
  let (disposes, outputs) := stdio.outputs.dtor rep
  match disposes, stdio.channelOf rep with
  | true, some channel =>
      { stdio with
        outputs
        dropped := .output channel :: stdio.dropped }.onOutput channel .dispose
  | _, _ => { stdio with outputs }

def act : Action → HostStdio → HostStdio
  | .getStdin, stdio => stdio.getStdin
  | .getOutput channel, stdio => stdio.getOutput channel
  | .dropInput rep, stdio => stdio.dropInput rep
  | .dropOutput rep, stdio => stdio.dropOutput rep
  | .input rep operation, stdio =>
      match stdio.inputs.lookup rep with
      | .ok _ =>
          { stdio with stdin := stdio.stdin.map (FedInputStream.step operation.action) }
      | .error _ => stdio
  | .output rep operation, stdio =>
      match stdio.channelOf rep, operation.action with
      | some channel, some action => stdio.onOutput channel action
      | _, _ => stdio
  | .inputEvent event, stdio =>
      { stdio with stdin := stdio.stdin.map (FedInputStream.step event.action) }
  | .outputEvent channel event, stdio =>
      stdio.onOutput channel event.action

def step (action : Action) (stdio : HostStdio) : HostStdio :=
  { act action stdio with answers := stdio.answers ++ stdio.answered action }

end HostStdio

/-! ## Captured stdio -/

def disposeInput (stream : InputStream) : InputStream := { stream with closed := true }

def disposeOutput (stream : Io.OutputStream) : Io.OutputStream := { stream with closed := true }

/-- The streams of the capture implementation: one for each `get-stdin`, and one for each output
channel, with the chunks that it has accepted. -/
structure CaptureStdio where
  stdinBuffer : List UInt8
  inputs : HostResourceRegistry
  outputs : HostResourceRegistry
  stdins : List InputStream
  output : OutputChannel → Io.OutputStream
  accepted : OutputChannel → List (List UInt8)
  dropped : List Channel
  answers : List Answer

namespace CaptureStdio

def start (stdinBuffer : List UInt8) : CaptureStdio where
  stdinBuffer
  inputs := .create
  outputs := .create
  stdins := []
  output _ := ⟨false, []⟩
  accepted _ := []
  dropped := []
  answers := []

inductive Action where
  | getStdin
  | getOutput (channel : OutputChannel)
  | dropInput (rep : Nat)
  | dropOutput (rep : Nat)
  | input (rep : Nat) (operation : InputOperation)
  | output (rep : Nat) (operation : OutputOperation)
  deriving Repr, DecidableEq

/-- The blocking read never parks. -/
def inputRead (stream : InputStream) : InputOperation → Except Failure (List UInt8) × InputStream
  | .read len => stream.read len
  | .blockingRead _ len => stream.read len

def outputFailure (stream : Io.OutputStream) : OutputOperation → Option Failure
  | .checkWrite => failureOf stream.checkWrite
  | .write contents => failureOf (stream.write contents none)
  | .flush | .blockingFlush _ => if stream.closed then some .closed else none

def channelOf (stdio : CaptureStdio) (rep : Nat) : Option OutputChannel :=
  match stdio.outputs.lookup rep with
  | .error _ => none
  | .ok object => OutputChannel.ofObject object

/-- The stream of a live handle of stdin. -/
def inputOf (stdio : CaptureStdio) (rep : Nat) : Option (Nat × InputStream) :=
  match stdio.inputs.lookup rep with
  | .error _ => none
  | .ok object => stdio.stdins[object]?.map fun stream => (object, stream)

def answered (stdio : CaptureStdio) : Action → List Answer
  | .input rep operation =>
      match stdio.inputOf rep with
      | some (_, stream) =>
          [⟨.stdin, failureOf (inputRead stream operation).1,
            decide (stream.buf.length ≤ stream.pos)⟩]
      | none => []
  | .output rep operation =>
      match stdio.channelOf rep with
      | some channel => [⟨.output channel, outputFailure (stdio.output channel) operation, false⟩]
      | none => []
  | .getStdin | .getOutput _ | .dropInput _ | .dropOutput _ => []

def getStdin (stdio : CaptureStdio) : CaptureStdio :=
  match stdio.inputs.repFor (some stdio.stdins.length) with
  | .error _ => stdio
  | .ok (_, inputs) =>
      { stdio with
        inputs
        stdins := stdio.stdins ++ [⟨stdio.stdinBuffer, 0, false⟩] }

def getOutput (stdio : CaptureStdio) (channel : OutputChannel) : CaptureStdio :=
  match stdio.outputs.repFor (some channel.object) with
  | .error _ => stdio
  | .ok (_, outputs) => { stdio with outputs }

/-- The drop of a handle of stdin disposes of a stream that no other handle reaches. -/
def dropInput (stdio : CaptureStdio) (rep : Nat) : CaptureStdio :=
  let (disposes, inputs) := stdio.inputs.dtor rep
  match disposes, stdio.inputOf rep with
  | true, some (object, stream) =>
      { stdio with
        inputs
        stdins := stdio.stdins.set object (disposeInput stream) }
  | _, _ => { stdio with inputs }

def dropOutput (stdio : CaptureStdio) (rep : Nat) : CaptureStdio :=
  let (disposes, outputs) := stdio.outputs.dtor rep
  match disposes, stdio.channelOf rep with
  | true, some channel =>
      { stdio with
        outputs
        output := Function.update stdio.output channel (disposeOutput (stdio.output channel))
        dropped := .output channel :: stdio.dropped }
  | _, _ => { stdio with outputs }

def write (stdio : CaptureStdio) (channel : OutputChannel) (contents : List UInt8) :
    CaptureStdio :=
  match (stdio.output channel).write contents none with
  | .error _ => stdio
  | .ok stream =>
      { stdio with
        output := Function.update stdio.output channel stream
        accepted := Function.update stdio.accepted channel
          (stdio.accepted channel ++ [contents]) }

def act : Action → CaptureStdio → CaptureStdio
  | .getStdin, stdio => stdio.getStdin
  | .getOutput channel, stdio => stdio.getOutput channel
  | .dropInput rep, stdio => stdio.dropInput rep
  | .dropOutput rep, stdio => stdio.dropOutput rep
  | .input rep operation, stdio =>
      match stdio.inputOf rep with
      | some (object, stream) =>
          { stdio with stdins := stdio.stdins.set object (inputRead stream operation).2 }
      | none => stdio
  | .output rep (.write contents), stdio =>
      match stdio.channelOf rep with
      | some channel => stdio.write channel contents
      | none => stdio
  | .output _ _, stdio => stdio

def step (action : Action) (stdio : CaptureStdio) : CaptureStdio :=
  { act action stdio with answers := stdio.answers ++ stdio.answered action }

end CaptureStdio

/-! ## Runs over host stdio -/

namespace HostStdio

/-- The streams are sound, and closed exactly if a handle of their channel was dropped; before the
first `get-stdin` there is no handle of stdin. -/
structure Sound (stdio : HostStdio) : Prop where
  input : ∀ run, stdio.stdin = some run →
    run.Sound ∧ (run.stream.closed = true ↔ Channel.stdin ∈ stdio.dropped)
  unopened : stdio.stdin = none →
    Channel.stdin ∉ stdio.dropped ∧ ∀ rep, stdio.inputs.byRep rep = none
  output : ∀ channel, (stdio.output channel).Sound ∧
    ((stdio.output channel).stream.closed = true ↔ Channel.output channel ∈ stdio.dropped) ∧
    stdio.accepted channel = (stdio.output channel).stream.jobs.map Job.contents

section Sound

variable {stdio : HostStdio}

theorem start_sound : start.Sound where
  input := nofun
  unopened _ := ⟨nofun, fun _ => rfl⟩
  output _ := ⟨Io.SinkOutputStream.Run.start_sound _, ⟨nofun, nofun⟩, rfl⟩

theorem Sound.onInput (sound : stdio.Sound) {action : FedInputStream.Action}
    (keeps : action ≠ .dispose) :
    Sound { stdio with stdin := stdio.stdin.map (FedInputStream.step action) } where
  input := by
    intro next stepped
    obtain ⟨run, found, rfl⟩ := Option.map_eq_some_iff.mp stepped
    obtain ⟨runSound, closed⟩ := sound.input run found
    refine ⟨FedInputStream.Run.step_sound action run runSound, ?_⟩
    rw [FedInputStream.Run.step_closed, decide_eq_false keeps, Bool.or_false]
    exact closed
  unopened none := sound.unopened (Option.map_eq_none_iff.mp none)
  output := sound.output

theorem Sound.onOutput (sound : stdio.Sound) (channel : OutputChannel)
    (action : Io.SinkOutputStream.Action) :
    Sound { stdio.onOutput channel action with
      dropped := if action = .dispose then .output channel :: stdio.dropped
        else stdio.dropped } where
  input := by
    intro run found
    obtain ⟨runSound, closed⟩ := sound.input run found
    refine ⟨runSound, closed.trans ?_⟩
    split <;> simp
  unopened none := by
    obtain ⟨notDropped, unregistered⟩ := sound.unopened none
    refine ⟨?_, unregistered⟩
    split <;> simpa using notDropped
  output := by
    intro other
    obtain ⟨runSound, closed, accepted⟩ := sound.output other
    by_cases same : other = channel
    · subst same
      obtain ⟨contents, closes⟩ := Io.SinkOutputStream.Run.step_contents action (stdio.output other)
      simp only [HostStdio.onOutput, Function.update_self]
      refine ⟨Io.SinkOutputStream.Run.step_sound action _ runSound, ?_, ?_⟩
      · rw [closes]
        by_cases disposes : action = .dispose
        · simp [disposes]
        · simpa [disposes] using closed
      · rw [contents, accepted]
    · simp only [HostStdio.onOutput, Function.update_of_ne same]
      refine ⟨runSound, closed.trans ?_, accepted⟩
      split <;> simp [same]

theorem Sound.onOutput_keeps (sound : stdio.Sound) (channel : OutputChannel)
    {action : Io.SinkOutputStream.Action} (keeps : action ≠ .dispose) :
    (stdio.onOutput channel action).Sound := by
  have kept := sound.onOutput channel action
  rw [if_neg keeps] at kept
  exact kept

theorem Sound.getStdin (sound : stdio.Sound) : stdio.getStdin.Sound where
  input := by
    intro run found
    simp only [HostStdio.getStdin, HostResourceRegistry.repFor, HostResourceRegistry.register,
      pure, Except.pure, Option.some.injEq] at found
    subst found
    cases opened : stdio.stdin with
    | none =>
        refine ⟨FedInputStream.Run.start_sound _, ?_⟩
        exact ⟨nofun, fun dropped => absurd dropped (sound.unopened opened).1⟩
    | some run => exact sound.input run opened
  unopened := nofun
  output := sound.output

theorem Sound.dropInput (sound : stdio.Sound) (rep : Nat) : (stdio.dropInput rep).Sound := by
  unfold HostStdio.dropInput HostResourceRegistry.dtor
  cases registered : stdio.inputs.byRep rep with
  | none => exact ⟨sound.input, sound.unopened, sound.output⟩
  | some entry =>
      have opened : stdio.stdin ≠ none := by
        intro none
        rw [(sound.unopened none).2 rep] at registered
        cases registered
      have unopened : stdio.stdin = none → False := opened
      by_cases owns : entry.owns = true
      · simp only [owns, if_true]
        refine ⟨?_, ?_, ?_⟩
        · intro next stepped
          obtain ⟨run, found, rfl⟩ := Option.map_eq_some_iff.mp stepped
          refine ⟨FedInputStream.Run.step_sound _ run (sound.input run found).1, ?_⟩
          rw [FedInputStream.Run.step_closed]
          simp
        · intro none
          exact (unopened (Option.map_eq_none_iff.mp none)).elim
        · intro channel
          obtain ⟨runSound, closed, accepted⟩ := sound.output channel
          exact ⟨runSound, by simpa using closed, accepted⟩
      · simp only [owns, Bool.false_eq_true, if_false]
        exact ⟨sound.input, fun none => (unopened none).elim, sound.output⟩

theorem Sound.dropOutput (sound : stdio.Sound) (rep : Nat) : (stdio.dropOutput rep).Sound := by
  unfold HostStdio.dropOutput
  simp only
  split
  · next channel _ _ =>
      have dropped := sound.onOutput channel .dispose
      exact ⟨dropped.input, dropped.unopened, dropped.output⟩
  · exact ⟨sound.input, sound.unopened, sound.output⟩

theorem step_sound (action : Action) (stdio : HostStdio) (sound : stdio.Sound) :
    (step action stdio).Sound := by
  have acted : (act action stdio).Sound := by
    cases action with
    | getStdin => exact sound.getStdin
    | getOutput channel => exact ⟨sound.input, sound.unopened, sound.output⟩
    | dropInput rep => exact sound.dropInput rep
    | dropOutput rep => exact sound.dropOutput rep
    | input rep operation =>
        simp only [act]
        split
        · exact sound.onInput (by cases operation <;> nofun)
        · exact sound
    | output rep operation =>
        simp only [act]
        split
        · next channel action _ isAction =>
            refine sound.onOutput_keeps channel ?_
            cases operation <;> cases isAction <;> nofun
        · exact sound
    | inputEvent event => exact sound.onInput (by cases event <;> nofun)
    | outputEvent channel event => exact sound.onOutput_keeps channel (by cases event <;> nofun)
  exact ⟨acted.input, acted.unopened, acted.output⟩

end Sound

/-! ### Answers -/

section Answers

variable {stdio : HostStdio}

theorem failureOf_eq_some {Result : Type} {outcome : Except Failure Result} {failure : Failure} :
    failureOf outcome = some failure ↔ outcome = .error failure := by
  cases outcome <;> simp [failureOf]

theorem mem_inputAnswers {run : FedInputStream.Run} {action : FedInputStream.Action}
    {answer : Answer} (member : answer ∈ inputAnswers run action) :
    ∃ len, answer = ⟨.stdin, failureOf (run.stream.read len).1,
      run.stream.eof && decide (run.stream.buffered = 0)⟩ := by
  unfold inputAnswers at member
  obtain quiet | ⟨len, spoke⟩ := FedInputStream.Run.outcomes_cases action run
  · rw [quiet] at member
    simp at member
  · rw [spoke] at member
    exact ⟨len, by simpa using member⟩

theorem inputAnswers_rightly {run : FedInputStream.Run} {action : FedInputStream.Action}
    {answer : Answer} (member : answer ∈ inputAnswers run action) :
    answer.channel = .stdin ∧
      (answer.Rightly ↔ (run.stream.closed = true → answer.ended = true)) := by
  obtain ⟨len, rfl⟩ := mem_inputAnswers member
  refine ⟨rfl, ?_⟩
  simp only [Answer.Rightly, failureOf_eq_some, FedInputStream.read_closed_iff]
  constructor
  · exact fun rightly closed => rightly (.inl closed)
  · rintro openly (closed | ⟨empty, _, eof⟩)
    · exact openly closed
    · simp [empty, eof]

theorem checkOpen_closed_iff (stream : Io.SinkOutputStream) :
    stream.checkOpen = .error .closed ↔ stream.closed = true := by
  unfold Io.SinkOutputStream.checkOpen
  split
  · next closed => simp [closed]
  · next opened => split <;> simp [opened]

theorem checkWrite_closed_iff (stream : Io.SinkOutputStream) :
    stream.checkWrite = .error .closed ↔ stream.closed = true := by
  rw [← checkOpen_closed_iff]
  unfold Io.SinkOutputStream.checkWrite
  cases stream.checkOpen with
  | error failure => simp only [bind, Except.bind, Except.error.injEq]
  | ok done => exact ⟨nofun, nofun⟩

theorem write_closed_iff (stream : Io.SinkOutputStream) (contents : List UInt8) :
    stream.write contents = .error .closed ↔ stream.closed = true := by
  rw [← checkOpen_closed_iff]
  unfold Io.SinkOutputStream.write
  cases stream.checkOpen with
  | error failure => simp only [bind, Except.bind, Except.error.injEq]
  | ok done =>
      refine ⟨fun failed => ?_, nofun⟩
      simp only [bind, Except.bind] at failed
      split at failed <;> cases failed

theorem flushAnswers_rightly {channel : OutputChannel} {run : Io.SinkOutputStream.Run}
    (sound : run.Sound) {action : Io.SinkOutputStream.Action} {answer : Answer}
    (member : answer ∈ flushAnswers channel run action) :
    answer.channel = .output channel ∧
      (answer.Rightly ↔ (run.stream.closed = true → answer.ended = true)) := by
  unfold flushAnswers at member
  obtain quiet | ⟨spoke, _⟩ := Io.SinkOutputStream.Run.outcomes_cases action run sound
  · rw [quiet] at member
    simp at member
  · rw [spoke] at member
    obtain rfl : answer = ⟨.output channel, failureOf run.stream.checkOpen, false⟩ := by
      simpa using member
    refine ⟨rfl, ?_⟩
    simp only [Answer.Rightly, failureOf_eq_some, checkOpen_closed_iff]

theorem outputAnswers_rightly {channel : OutputChannel} {run : Io.SinkOutputStream.Run}
    (sound : run.Sound) {operation : OutputOperation} {answer : Answer}
    (member : answer ∈ outputAnswers channel run operation) :
    answer.channel = .output channel ∧
      (answer.Rightly ↔ (run.stream.closed = true → answer.ended = true)) := by
  cases operation with
  | blockingFlush id => exact flushAnswers_rightly sound member
  | checkWrite =>
      obtain rfl : answer = _ := List.mem_singleton.mp member
      refine ⟨rfl, ?_⟩
      simp only [Answer.Rightly, failureOf_eq_some, checkWrite_closed_iff]
  | write contents =>
      obtain rfl : answer = _ := List.mem_singleton.mp member
      refine ⟨rfl, ?_⟩
      simp only [Answer.Rightly, failureOf_eq_some, write_closed_iff]
  | flush =>
      obtain rfl : answer = _ := List.mem_singleton.mp member
      refine ⟨rfl, ?_⟩
      simp only [Answer.Rightly, failureOf_eq_some, checkOpen_closed_iff]

theorem Sound.answered_rightly (sound : stdio.Sound) {action : Action} {answer : Answer}
    (member : answer ∈ stdio.answered action) :
    answer.Rightly ↔ (answer.channel ∈ stdio.dropped → answer.ended = true) := by
  have onInput {run : FedInputStream.Run} (opened : stdio.stdin = some run)
      {action : FedInputStream.Action} (given : answer ∈ inputAnswers run action) :
      answer.Rightly ↔ (answer.channel ∈ stdio.dropped → answer.ended = true) := by
    obtain ⟨channel, rightly⟩ := inputAnswers_rightly given
    rw [rightly, channel, (sound.input run opened).2]
  cases action with
  | input rep operation =>
      simp only [answered] at member
      split at member
      · next run _ opened => exact onInput opened member
      · cases member
  | inputEvent event =>
      simp only [answered] at member
      split at member
      · next run opened => exact onInput opened member
      · cases member
  | output rep operation =>
      simp only [answered] at member
      split at member
      · next channel _ =>
          obtain ⟨runSound, closed, _⟩ := sound.output channel
          obtain ⟨isChannel, rightly⟩ := outputAnswers_rightly runSound member
          rw [rightly, isChannel, closed]
      · cases member
  | outputEvent channel event =>
      obtain ⟨runSound, closed, _⟩ := sound.output channel
      obtain ⟨isChannel, rightly⟩ := flushAnswers_rightly runSound member
      rw [rightly, isChannel, closed]
  | getStdin | getOutput _ | dropInput _ | dropOutput _ => cases member

end Answers

/-- Operations on the handles of a channel are answered only while none of them has been dropped,
but for reads after the end of stdin. -/
def AnswersBeforeDrops (action : Action) (stdio : HostStdio) : Prop :=
  ∀ answer ∈ stdio.answered action, answer.channel ∈ stdio.dropped → answer.ended = true

/-- Handles do not feel the drop of another one: the end of a stream is reported only at its end;
the chunks that the handles of an output channel wrote reach the sink once each and in order, all of
them once they are drained; and the bytes of stdin come in order, those that were not delivered
being kept while no handle of stdin is dropped. -/
structure HandlesIndependent (stdio : HostStdio) : Prop where
  answers : ∀ answer ∈ stdio.answers, answer.Rightly
  sinks : ∀ channel, (stdio.output channel).calls <+: stdio.accepted channel ∧
    ((∀ job ∈ (stdio.output channel).stream.jobs, job.state = .drained) →
      (stdio.output channel).calls = stdio.accepted channel)
  delivered : ∀ run, stdio.stdin = some run → run.returned <+: run.yielded.flatten ∧
    (Channel.stdin ∉ stdio.dropped →
      run.returned ++ run.stream.buffer.flatten = run.yielded.flatten)

theorem calls_of_drained {run : Io.SinkOutputStream.Run} (sound : run.Sound)
    (drained : ∀ job ∈ run.stream.jobs, job.state = .drained) :
    run.calls = run.stream.jobs.map Job.contents := by
  obtain ⟨progress, follows⟩ := sound.follows
  rw [follows.jobs, Io.SinkOutputStream.Progress.jobs,
    Io.SinkOutputStream.Progress.started] at drained ⊢
  have notSkipped : progress.skipped = [] := by
    cases skipped : progress.skipped with
    | nil => rfl
    | cons contents rest =>
        have state := drained ⟨contents, .skipped⟩ (by simp [skipped])
        cases state
  have notWaiting : progress.waiting = [] := by
    cases waiting : progress.waiting with
    | nil => rfl
    | cons contents rest =>
        have state := drained ⟨contents, .waiting⟩ (by simp [waiting])
        cases state
  rw [follows.calls, notSkipped, notWaiting]
  cases progress.current <;> simp

theorem Sound.handlesIndependent_iff {stdio : HostStdio} (sound : stdio.Sound) :
    stdio.HandlesIndependent ↔ ∀ answer ∈ stdio.answers, answer.Rightly := by
  refine ⟨fun independent => independent.answers, fun rightly => ⟨rightly, ?_, ?_⟩⟩
  · intro channel
    obtain ⟨runSound, _, accepted⟩ := sound.output channel
    rw [accepted]
    exact ⟨runSound.conserves.calls, calls_of_drained runSound⟩
  · intro run opened
    obtain ⟨runSound, closed⟩ := sound.input run opened
    refine ⟨runSound.conserves.bytes, fun notDropped => runSound.complete ?_⟩
    rw [← closed] at notDropped
    exact Bool.eq_false_iff.mpr notDropped

theorem handlesIndependent_iff (actions : List Action) :
    (Transition.runAll step actions start).HandlesIndependent ↔
      Transition.Throughout step AnswersBeforeDrops actions start := by
  have sound := Transition.runAll_invariant step_sound actions start_sound
  rw [sound.handlesIndependent_iff]
  have appended (action : Action) (stdio : HostStdio) :
      (step action stdio).answers = stdio.answers ++ stdio.answered action := rfl
  apply @Transition.runAll_iff_throughout _ _ step AnswersBeforeDrops Sound
    (fun stdio => ∀ answer ∈ stdio.answers, answer.Rightly) step_sound
  · intro action stdio sound good
    simp only [appended, List.mem_append]
    constructor
    · intro later answer member
      exact (sound.answered_rightly member).mp (later answer (.inr member))
    · rintro before answer (member | member)
      · exact good answer member
      · exact (sound.answered_rightly member).mpr (before answer member)
  · intro action stdio _ later answer member
    exact later answer (by simp [appended, member])
  · exact start_sound
  · nofun

end HostStdio

/-! ## Runs over captured stdio -/

namespace CaptureStdio

/-- Each live handle of stdin has an open stream of its own; the output streams are closed exactly
if a handle of their channel was dropped. -/
structure Sound (stdio : CaptureStdio) : Prop where
  input : ∀ rep entry, stdio.inputs.byRep rep = some entry →
    ∃ stream, stdio.stdins[entry.object]? = some stream ∧ stream.closed = false
  own : ∀ rep rep' entry entry', stdio.inputs.byRep rep = some entry →
    stdio.inputs.byRep rep' = some entry' → entry.object = entry'.object → rep = rep'
  stdin : Channel.stdin ∉ stdio.dropped
  output : ∀ channel,
    ((stdio.output channel).closed = true ↔ Channel.output channel ∈ stdio.dropped) ∧
    (stdio.output channel).written = (stdio.accepted channel).flatten

section Sound

variable {stdio : CaptureStdio}

theorem start_sound (stdinBuffer : List UInt8) : (start stdinBuffer).Sound where
  input := nofun
  own := nofun
  stdin := nofun
  output _ := ⟨⟨nofun, nofun⟩, rfl⟩

theorem Sound.inputOf (sound : stdio.Sound) {rep object : Nat} {stream : InputStream}
    (found : stdio.inputOf rep = some (object, stream)) :
    (∃ entry, stdio.inputs.byRep rep = some entry ∧ entry.object = object) ∧
      stdio.stdins[object]? = some stream ∧ stream.closed = false := by
  unfold CaptureStdio.inputOf at found
  cases looked : stdio.inputs.lookup rep with
  | error failure =>
      rw [looked] at found
      cases found
  | ok object' =>
      rw [looked] at found
      obtain ⟨stream', isStream, same⟩ := Option.map_eq_some_iff.mp found
      cases same
      obtain ⟨entry, registered, rfl⟩ := Embedder.RegistryRun.lookup_ok looked
      obtain ⟨other, isOther, opened⟩ := sound.input rep entry registered
      rw [isStream] at isOther
      cases isOther
      exact ⟨⟨entry, registered, rfl⟩, isStream, opened⟩

theorem Sound.getStdin (sound : stdio.Sound) : stdio.getStdin.Sound := by
  simp only [CaptureStdio.getStdin, HostResourceRegistry.repFor, HostResourceRegistry.register,
    pure, Except.pure]
  have bounded (rep : Nat) (entry : Embedder.Registration)
      (registered : stdio.inputs.byRep rep = some entry) : entry.object < stdio.stdins.length := by
    obtain ⟨stream, found, _⟩ := sound.input rep entry registered
    exact (List.getElem?_eq_some_iff.mp found).1
  have registrations (rep : Nat) (entry : Embedder.Registration)
      (registered : Function.update stdio.inputs.byRep stdio.inputs.next
        (some ⟨stdio.stdins.length, true⟩) rep = some entry) :
      (rep = stdio.inputs.next ∧ entry.object = stdio.stdins.length) ∨
        stdio.inputs.byRep rep = some entry := by
    by_cases new : rep = stdio.inputs.next
    · rw [new, Function.update_self] at registered
      cases registered
      exact .inl ⟨new, rfl⟩
    · rw [Function.update_of_ne new] at registered
      exact .inr registered
  refine ⟨?_, ?_, sound.stdin, sound.output⟩
  · intro rep entry registered
    rcases registrations rep entry registered with ⟨_, isNew⟩ | before
    · rw [isNew]
      exact ⟨_, List.getElem?_concat_length, rfl⟩
    · obtain ⟨stream, found, opened⟩ := sound.input rep entry before
      refine ⟨stream, ?_, opened⟩
      rw [List.getElem?_append_left (bounded rep entry before), found]
  · intro rep rep' entry entry' registered registered' same
    rcases registrations rep entry registered with ⟨new, isNew⟩ | before
    · rcases registrations rep' entry' registered' with ⟨new', _⟩ | before'
      · exact new.trans new'.symm
      · have less := bounded rep' entry' before'
        omega
    · rcases registrations rep' entry' registered' with ⟨_, isNew⟩ | before'
      · have less := bounded rep entry before
        omega
      · exact sound.own rep rep' entry entry' before before' same

theorem Sound.setInput (sound : stdio.Sound) {object : Nat} {stream : InputStream}
    (opened : stream.closed = false) :
    Sound { stdio with stdins := stdio.stdins.set object stream } where
  input := by
    intro rep entry registered
    obtain ⟨other, found, otherOpened⟩ := sound.input rep entry registered
    by_cases same : object = entry.object
    · subst same
      have bound := (List.getElem?_eq_some_iff.mp found).1
      exact ⟨stream, by simp [bound], opened⟩
    · exact ⟨other, by simp [same, found], otherOpened⟩
  own := sound.own
  stdin := sound.stdin
  output := sound.output

theorem Sound.dropInput (sound : stdio.Sound) (rep : Nat) : (stdio.dropInput rep).Sound := by
  unfold CaptureStdio.dropInput HostResourceRegistry.dtor
  cases registered : stdio.inputs.byRep rep with
  | none => exact ⟨sound.input, sound.own, sound.stdin, sound.output⟩
  | some entry =>
      have remaining (rep' : Nat) (entry' : Embedder.Registration)
          (left : (stdio.inputs.delete rep).byRep rep' = some entry') :
          stdio.inputs.byRep rep' = some entry' ∧ rep' ≠ rep := by
        unfold HostResourceRegistry.delete at left
        by_cases same : rep' = rep
        · simp [same] at left
        · exact ⟨by simpa [same] using left, same⟩
      have own : ∀ first second entry entry',
          (stdio.inputs.delete rep).byRep first = some entry →
            (stdio.inputs.delete rep).byRep second = some entry' →
              entry.object = entry'.object → first = second :=
        fun first second entry entry' left right same =>
          sound.own first second entry entry' (remaining _ _ left).1 (remaining _ _ right).1 same
      by_cases owns : entry.owns = true
      · simp only [owns, if_true]
        split
        · next object stream _ found =>
            obtain ⟨⟨entry', registered', isObject⟩, isStream, _⟩ := sound.inputOf found
            refine ⟨?_, own, sound.stdin, sound.output⟩
            intro rep' other left
            obtain ⟨before, notRep⟩ := remaining rep' other left
            obtain ⟨otherStream, otherFound, opened⟩ := sound.input rep' other before
            have apart : object ≠ other.object := by
              intro same
              exact notRep (sound.own rep' rep other entry' before registered'
                (same.symm.trans isObject.symm))
            exact ⟨otherStream, by simp [apart, otherFound], opened⟩
        · refine ⟨?_, own, sound.stdin, sound.output⟩
          intro rep' other left
          exact sound.input rep' other (remaining rep' other left).1
      · simp only [owns, Bool.false_eq_true, if_false]
        exact ⟨sound.input, sound.own, sound.stdin, sound.output⟩

theorem Sound.dropOutput (sound : stdio.Sound) (rep : Nat) : (stdio.dropOutput rep).Sound := by
  unfold CaptureStdio.dropOutput
  simp only
  split
  · next channel _ _ =>
      refine ⟨sound.input, sound.own, by simpa using sound.stdin, ?_⟩
      intro other
      obtain ⟨closed, written⟩ := sound.output other
      by_cases same : other = channel
      · subst same
        simpa [disposeOutput] using written
      · simpa [Function.update_of_ne same, same] using And.intro closed written
  · exact ⟨sound.input, sound.own, sound.stdin, sound.output⟩

theorem Sound.write (sound : stdio.Sound) (channel : OutputChannel) (contents : List UInt8) :
    (stdio.write channel contents).Sound := by
  unfold CaptureStdio.write
  split
  · exact sound
  · next stream written =>
      refine ⟨sound.input, sound.own, sound.stdin, ?_⟩
      intro other
      obtain ⟨closed, isWritten⟩ := sound.output other
      by_cases same : other = channel
      · subst same
        unfold Io.OutputStream.write at written
        split at written
        · cases written
        · cases written
          simp only [Function.update_self]
          exact ⟨closed, by simp [isWritten]⟩
      · simp only [Function.update_of_ne same]
        exact ⟨closed, isWritten⟩

theorem read_opened {stream : InputStream} (opened : stream.closed = false) (len : Nat) :
    (stream.read len).2.closed = false := by
  unfold InputStream.read
  rw [if_neg (by simp [opened])]
  simp only
  split <;> exact opened

theorem step_sound (action : Action) (stdio : CaptureStdio) (sound : stdio.Sound) :
    (step action stdio).Sound := by
  have acted : (act action stdio).Sound := by
    cases action with
    | getStdin => exact sound.getStdin
    | getOutput channel => exact ⟨sound.input, sound.own, sound.stdin, sound.output⟩
    | dropInput rep => exact sound.dropInput rep
    | dropOutput rep => exact sound.dropOutput rep
    | input rep operation =>
        simp only [act]
        split
        · next object stream found =>
            apply sound.setInput
            cases operation <;> exact read_opened (sound.inputOf found).2.2 _
        · exact sound
    | output rep operation =>
        cases operation with
        | write contents =>
            simp only [act]
            split
            · exact sound.write _ contents
            · exact sound
        | checkWrite | flush | blockingFlush id => exact sound
  exact ⟨acted.input, acted.own, acted.stdin, acted.output⟩

theorem outputFailure_closed_iff (stream : Io.OutputStream) (operation : OutputOperation) :
    outputFailure stream operation = some .closed ↔ stream.closed = true := by
  cases closed : stream.closed <;> cases operation <;>
    simp [outputFailure, Io.OutputStream.checkWrite, Io.OutputStream.write, closed, failureOf]

theorem read_ended {stream : InputStream} (opened : stream.closed = false) {len : Nat}
    (failed : (stream.read len).1 = .error .closed) : stream.buf.length ≤ stream.pos := by
  unfold InputStream.read at failed
  rw [if_neg (by simp [opened])] at failed
  simp only at failed
  split at failed
  · next drained =>
      obtain ⟨some, none⟩ := drained
      simp only [List.length_take, List.length_drop] at none
      omega
  · cases failed

theorem Sound.answered_rightly (sound : stdio.Sound) {action : Action} {answer : Answer}
    (member : answer ∈ stdio.answered action) :
    answer.Rightly ↔ (answer.channel ∈ stdio.dropped → answer.ended = true) := by
  cases action with
  | input rep operation =>
      simp only [answered] at member
      split at member
      · next object stream found =>
          obtain rfl : answer = _ := List.mem_singleton.mp member
          have opened := (sound.inputOf found).2.2
          refine ⟨fun _ dropped => absurd dropped sound.stdin, fun _ failed => ?_⟩
          have atEnd : stream.buf.length ≤ stream.pos := by
            cases operation <;> exact read_ended opened (HostStdio.failureOf_eq_some.mp failed)
          simpa using atEnd
      · cases member
  | output rep operation =>
      simp only [answered] at member
      split at member
      · next channel _ =>
          obtain rfl : answer = _ := List.mem_singleton.mp member
          simp only [Answer.Rightly, outputFailure_closed_iff, (sound.output channel).1]
      · cases member
  | getStdin | getOutput _ | dropInput _ | dropOutput _ => cases member

end Sound

/-- Operations on the handles of an output channel come before the drops of its handles. -/
def AnswersBeforeDrops (action : Action) (stdio : CaptureStdio) : Prop :=
  ∀ answer ∈ stdio.answered action, answer.channel ∈ stdio.dropped → answer.ended = true

/-- The end of a stream is reported only at its end, and the captured bytes are those that the
handles of the channel wrote, once each and in order. -/
structure HandlesIndependent (stdio : CaptureStdio) : Prop where
  answers : ∀ answer ∈ stdio.answers, answer.Rightly
  sinks : ∀ channel, (stdio.output channel).written = (stdio.accepted channel).flatten

theorem handlesIndependent_iff (stdinBuffer : List UInt8) (actions : List Action) :
    (Transition.runAll step actions (start stdinBuffer)).HandlesIndependent ↔
      Transition.Throughout step AnswersBeforeDrops actions (start stdinBuffer) := by
  have sound := Transition.runAll_invariant step_sound actions (start_sound stdinBuffer)
  have parts : (Transition.runAll step actions (start stdinBuffer)).HandlesIndependent ↔
      ∀ answer ∈ (Transition.runAll step actions (start stdinBuffer)).answers, answer.Rightly :=
    ⟨fun independent => independent.answers,
      fun rightly => ⟨rightly, fun channel => (sound.output channel).2⟩⟩
  rw [parts]
  have appended (action : Action) (stdio : CaptureStdio) :
      (step action stdio).answers = stdio.answers ++ stdio.answered action := rfl
  apply @Transition.runAll_iff_throughout _ _ step AnswersBeforeDrops Sound
    (fun stdio => ∀ answer ∈ stdio.answers, answer.Rightly) step_sound
  · intro action stdio sound good
    simp only [appended, List.mem_append]
    constructor
    · intro later answer member
      exact (sound.answered_rightly member).mp (later answer (.inr member))
    · rintro before answer (member | member)
      · exact good answer member
      · exact (sound.answered_rightly member).mpr (before answer member)
  · intro action stdio _ later answer member
    exact later answer (by simp [appended, member])
  · exact start_sound stdinBuffer
  · nofun

end CaptureStdio

end Polyengine.Wasi.Cli
