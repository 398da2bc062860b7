import Polyengine.Library.Transition

/-!
# Shutting down a TCP connection

A connected 0.2 socket with its output stream: accepted writes wait in the promise chain of the
stream, each sink call hands its chunk to the connection piece by piece, and `shutdown` chains the
`closeWrite` of the connection behind the last sink call that has started.
-/

set_option autoImplicit false

namespace Polyengine.Wasi.TcpShutdown

open Polyengine.Library

/-- `shutdown-type`. -/
inductive ShutdownType where
  | receive
  | send
  | both
  deriving Repr, DecidableEq

def ShutdownType.sends : ShutdownType → Bool
  | .receive => false
  | .send | .both => true

def ShutdownType.receives : ShutdownType → Bool
  | .send => false
  | .receive | .both => true

/-- What the connection is asked to do and answers, in order. -/
inductive ConnEvent where
  /-- A call of `conn.write` resolved with the number of these bytes. -/
  | written (bytes : List UInt8)
  /-- A call of `conn.write` rejected. -/
  | rejected
  /-- `conn.closeWrite` was called for the shutdown of this number. -/
  | closeWrite (shutdown : Nat)
  deriving Repr, DecidableEq

/-- The sink call of a chunk: `sent` is its `at`, and `outcome` is what its promise settled with. -/
structure SinkCall where
  chunk : List UInt8
  sent : Nat
  outcome : Option Bool
  deriving Repr, DecidableEq

/-- A `shutdown` of the sending side: the sink call whose promise it waits for, if there is one, and
whether its reaction has run. `accepted` are the bytes that the stream had accepted by then. -/
structure Shutdown where
  after : Option Nat
  accepted : List UInt8
  closed : Bool
  deriving Repr, DecidableEq

inductive StreamFailure where
  | closed
  | lastOperationFailed
  | trap (message : String)
  | invalidState
  deriving Repr, DecidableEq

/-- `connected` is whether `#state` is `connected`. `done` are the chunks whose sink calls have ended
and been noticed by the stream, `running` is the sink call whose end has not been noticed, and
`waiting` are the accepted chunks whose turn has not come. `lastWrite` is the number of the sink
call that `#lastWrite` belongs to; `accepted` are all bytes that the stream has accepted. -/
structure TcpSocket02 where
  connected : Bool
  inputDisposed : Bool
  outputClosed : Bool
  highWater : Nat
  queued : Nat
  failure : Bool
  done : List (List UInt8)
  running : Option SinkCall
  waiting : List (List UInt8)
  lastWrite : Option Nat
  accepted : List UInt8
  shutdowns : List Shutdown
  conn : List ConnEvent
  deriving Repr, DecidableEq

/-- The sink call of a chunk up to its first `await`. -/
def SinkCall.start (chunk : List UInt8) : SinkCall where
  chunk := chunk
  sent := 0
  outcome := if chunk = [] then some true else none

namespace TcpSocket02

/-- A socket whose streams have just been minted. -/
def minted : TcpSocket02 where
  connected := true
  inputDisposed := false
  outputClosed := false
  highWater := 65536
  queued := 0
  failure := false
  done := []
  running := none
  waiting := []
  lastWrite := none
  accepted := []
  shutdowns := []
  conn := []

/-- `#checkOpen` of the output stream. -/
def checkOpen (socket : TcpSocket02) : Except StreamFailure Unit :=
  if socket.outputClosed then throw .closed
  else if socket.failure then throw .lastOperationFailed
  else return ()

/-- `write` of the output stream. -/
def write (socket : TcpSocket02) (contents : List UInt8) : Except StreamFailure TcpSocket02 := do
  socket.checkOpen
  if socket.highWater - socket.queued < contents.length then
    throw (.trap "wasi:io/streams.write: contents exceed the check-write permit")
  return { socket with
    queued := socket.queued + contents.length
    waiting := socket.waiting ++ [contents]
    accepted := socket.accepted ++ contents }

/-- The next callback of the chain runs once the one before it has ended; after a failure it calls
no sink. -/
def startNext (socket : TcpSocket02) : TcpSocket02 :=
  match socket.running, socket.waiting with
  | none, chunk :: rest =>
      if socket.failure then
        { socket with waiting := rest, queued := socket.queued - chunk.length }
      else
        { socket with
          waiting := rest
          running := some (.start chunk)
          lastWrite := some socket.done.length }
  | _, _ => socket

/-- The outstanding `conn.write` of the sink call resolves with a number of bytes. -/
def writeResolves (socket : TcpSocket02) (count : Nat) : TcpSocket02 :=
  match socket.running with
  | some ⟨chunk, sent, none⟩ =>
      if sent + count ≤ chunk.length then
        { socket with
          running := some {
            chunk
            sent := sent + count
            outcome := if sent + count < chunk.length then none else some true }
          conn := socket.conn ++ [.written ((chunk.drop sent).take count)] }
      else socket
  | _ => socket

/-- The outstanding `conn.write` of the sink call rejects. -/
def writeRejects (socket : TcpSocket02) : TcpSocket02 :=
  match socket.running with
  | some ⟨chunk, sent, none⟩ =>
      { socket with
        running := some { chunk, sent, outcome := some false }
        conn := socket.conn ++ [.rejected] }
  | _ => socket

/-- The callback of the chain goes on after its sink call. -/
def sinkReturns (socket : TcpSocket02) : TcpSocket02 :=
  match socket.running with
  | some ⟨chunk, _, some succeeded⟩ =>
      { socket with
        running := none
        done := socket.done ++ [chunk]
        failure := socket.failure || !succeeded
        queued := socket.queued - chunk.length }
  | _ => socket

def shutdown (socket : TcpSocket02) (shutdownType : ShutdownType) :
    Except StreamFailure TcpSocket02 := do
  if socket.connected = false then throw .invalidState
  return { socket with
    inputDisposed := socket.inputDisposed || shutdownType.receives
    shutdowns :=
      if shutdownType.sends then
        socket.shutdowns ++ [⟨socket.lastWrite, socket.accepted, false⟩]
      else socket.shutdowns }

/-- Whether the promise that a shutdown waits for has settled: that of an ended sink call has, and
without a sink call it is resolved from the start. -/
def settled (socket : TcpSocket02) : Option Nat → Bool
  | none => true
  | some call =>
      decide (call < socket.done.length) ||
        (decide (call = socket.done.length) && socket.running.any (·.outcome.isSome))

/-- The reaction that a shutdown put on the last write. -/
def runCloseWrite (socket : TcpSocket02) (shutdown : Nat) : TcpSocket02 :=
  match socket.shutdowns[shutdown]? with
  | some ⟨after, accepted, false⟩ =>
      if socket.settled after then
        { socket with
          shutdowns := socket.shutdowns.set shutdown ⟨after, accepted, true⟩
          conn := socket.conn ++ [.closeWrite shutdown] }
      else socket
  | _ => socket

/-- `[Symbol.dispose]` of the socket; the connection is destroyed, so its writes reject. -/
def dispose (socket : TcpSocket02) : TcpSocket02 :=
  { socket with connected := false, inputDisposed := true, outputClosed := true }

inductive Action where
  | write (contents : List UInt8)
  | startNext
  | writeResolves (count : Nat)
  | writeRejects
  | sinkReturns
  | shutdown (shutdownType : ShutdownType)
  | runCloseWrite (shutdown : Nat)
  | dropOutput
  | dispose
  deriving Repr, DecidableEq

/-- What an action leaves behind; a call that throws leaves the socket as it was. -/
def step : Action → TcpSocket02 → TcpSocket02
  | .write contents, socket =>
      match socket.write contents with
      | .ok next => next
      | .error _ => socket
  | .startNext, socket => socket.startNext
  | .writeResolves count, socket => socket.writeResolves count
  | .writeRejects, socket => socket.writeRejects
  | .sinkReturns, socket => socket.sinkReturns
  | .shutdown shutdownType, socket =>
      match socket.shutdown shutdownType with
      | .ok next => next
      | .error _ => socket
  | .runCloseWrite shutdown, socket => socket.runCloseWrite shutdown
  | .dropOutput, socket => { socket with outputClosed := true }
  | .dispose, socket => socket.dispose

end TcpSocket02

def writtenBytes (events : List ConnEvent) : List UInt8 :=
  events.flatMap fun event =>
    match event with
    | .written bytes => bytes
    | .rejected | .closeWrite _ => []

namespace TcpSocket02

/-- Whenever `closeWrite` was called, the bytes accepted before its shutdown had been acknowledged,
or a write had failed. -/
def FollowsAccepted (socket : TcpSocket02) : Prop :=
  ∀ i number, socket.conn[i]? = some (.closeWrite number) →
    ∃ shutdown, socket.shutdowns[number]? = some shutdown ∧
      (shutdown.accepted <+: writtenBytes (socket.conn.take i) ∨ .rejected ∈ socket.conn.take i)

/-- Every accepted byte has been given to a sink call that has started, or a write has failed. -/
def Handed (socket : TcpSocket02) : Prop :=
  socket.waiting.flatten = [] ∨ .rejected ∈ socket.conn

/-- The sending side is shut down only when nothing waits in the chain. -/
def ShutsDownHanded (socket : TcpSocket02) (action : Action) : Prop :=
  ∀ shutdownType : ShutdownType, action = .shutdown shutdownType → shutdownType.sends = true →
    socket.connected = true → socket.Handed

/-- The bytes of the running sink call, and those of them that have been acknowledged. -/
def runningChunk (socket : TcpSocket02) : List UInt8 := socket.running.elim [] (·.chunk)

def runningSent (socket : TcpSocket02) : List UInt8 :=
  socket.running.elim [] fun call => call.chunk.take call.sent

/-- What is known of a shutdown while no write has failed: its bytes have been acknowledged, or it
waits for the running sink call, which carries the last of them. -/
def Covered (socket : TcpSocket02) (shutdown : Shutdown) : Prop :=
  shutdown.accepted <+: writtenBytes socket.conn ∨
    ∃ call, socket.running = some call ∧ call.outcome = none ∧
      shutdown.after = some socket.done.length ∧
      shutdown.accepted <+: socket.done.flatten ++ call.chunk

/-- While no write has failed, the bytes go through the chain in order, and `#lastWrite` belongs to
the running sink call, or to the last one. -/
structure Intact (socket : TcpSocket02) : Prop where
  open' : socket.failure = false
  accepted : socket.accepted =
    socket.done.flatten ++ (socket.runningChunk ++ socket.waiting.flatten)
  written : writtenBytes socket.conn = socket.done.flatten ++ socket.runningSent
  ended : ∀ call, socket.running = some call → ∀ succeeded, call.outcome = some succeeded →
    succeeded = true ∧ call.sent = call.chunk.length
  latest : ∀ call, socket.running = some call → socket.lastWrite = some socket.done.length
  covered : ∀ shutdown ∈ socket.shutdowns, socket.Covered shutdown

structure Sound (socket : TcpSocket02) : Prop where
  intact : .rejected ∉ socket.conn → socket.Intact
  follows : socket.FollowsAccepted

section Events

variable {socket next : TcpSocket02}

@[simp] theorem writtenBytes_append (first second : List ConnEvent) :
    writtenBytes (first ++ second) = writtenBytes first ++ writtenBytes second :=
  List.flatMap_append

@[simp] theorem writtenBytes_written (bytes : List UInt8) :
    writtenBytes [.written bytes] = bytes := by
  simp [writtenBytes]

@[simp] theorem writtenBytes_closeWrite (number : Nat) : writtenBytes [.closeWrite number] = [] := rfl

/-- The recorded bytes of every shutdown stay what they were. -/
def KeepsShutdowns (socket next : TcpSocket02) : Prop :=
  ∀ (number : Nat) (shutdown : Shutdown), socket.shutdowns[number]? = some shutdown →
    ∃ kept, next.shutdowns[number]? = some kept ∧ kept.accepted = shutdown.accepted

theorem KeepsShutdowns.of_eq (same : next.shutdowns = socket.shutdowns) :
    KeepsShutdowns socket next := by
  intro number shutdown found
  exact ⟨shutdown, same ▸ found, rfl⟩

/-- What was so before stays so when another event is recorded; a new `closeWrite` has to be
justified. -/
theorem FollowsAccepted.record (follows : socket.FollowsAccepted)
    (kept : KeepsShutdowns socket next) (event : ConnEvent)
    (recorded : next.conn = socket.conn ++ [event])
    (justified : ∀ number, event = .closeWrite number →
      ∃ shutdown, socket.shutdowns[number]? = some shutdown ∧
        (shutdown.accepted <+: writtenBytes socket.conn ∨ .rejected ∈ socket.conn)) :
    next.FollowsAccepted := by
  intro i number found
  have old : ∃ shutdown, socket.shutdowns[number]? = some shutdown ∧
      (shutdown.accepted <+: writtenBytes (next.conn.take i) ∨ .rejected ∈ next.conn.take i) := by
    rw [recorded] at found ⊢
    by_cases before : i < socket.conn.length
    · rw [List.getElem?_append_left before] at found
      rw [List.take_append_of_le_length (Nat.le_of_lt before)]
      exact follows i number found
    · have last : i = socket.conn.length := by
        have bound := (List.getElem?_eq_some_iff.mp found).1
        rw [List.length_append, List.length_singleton] at bound
        omega
      subst last
      rw [List.getElem?_append_right (Nat.le_refl _), Nat.sub_self] at found
      rw [List.take_left]
      exact justified number (Option.some.inj found)
  obtain ⟨shutdown, present, justifies⟩ := old
  obtain ⟨shutdown', present', same⟩ := kept number shutdown present
  exact ⟨shutdown', present', same ▸ justifies⟩

theorem FollowsAccepted.quiet (follows : socket.FollowsAccepted)
    (kept : KeepsShutdowns socket next) (same : next.conn = socket.conn) :
    next.FollowsAccepted := by
  intro i number found
  rw [same] at found ⊢
  obtain ⟨shutdown, present, justifies⟩ := follows i number found
  obtain ⟨shutdown', present', same'⟩ := kept number shutdown present
  exact ⟨shutdown', present', same' ▸ justifies⟩

end Events

section Steps

variable {socket : TcpSocket02}

theorem minted_sound : minted.Sound where
  intact := fun _ =>
    { open' := rfl
      accepted := rfl
      written := rfl
      ended := nofun
      latest := nofun
      covered := nofun }
  follows := nofun

theorem checkOpen_gives :
    Fallible.Satisfies (fun _ => True) socket.checkOpen fun _ => True := by
  cases socket.checkOpen <;> trivial

theorem write_gives (socket : TcpSocket02) (contents : List UInt8) :
    Fallible.Satisfies (fun _ => True) (socket.write contents) fun next =>
      next = { socket with
        queued := socket.queued + contents.length
        waiting := socket.waiting ++ [contents]
        accepted := socket.accepted ++ contents } := by
  simp only [write, Fallible.satisfies_bind]
  apply checkOpen_gives.imp
  intro _ _
  simp

theorem write_sound (sound : socket.Sound) (contents : List UInt8) :
    (step (.write contents) socket).Sound := by
  simp only [step]
  cases result : socket.write contents with
  | error failure => exact sound
  | ok next =>
      have written := (write_gives socket contents).of_ok result
      subst written
      exact
        { intact := by
            intro unfailed
            have intact := sound.intact unfailed
            exact
              { open' := intact.open'
                accepted := by
                  have accepted := intact.accepted
                  simp only [runningChunk] at accepted ⊢
                  simp [accepted]
                written := intact.written
                ended := intact.ended
                latest := intact.latest
                covered := intact.covered }
          follows := sound.follows.quiet (.of_eq rfl) rfl }

theorem startNext_sound (sound : socket.Sound) : socket.startNext.Sound := by
  unfold startNext
  cases running : socket.running with
  | some call => exact sound
  | none =>
      cases waiting : socket.waiting with
      | nil => exact sound
      | cons chunk rest =>
          cases failed : socket.failure with
          | true =>
              refine ⟨fun unfailed => ?_, sound.follows.quiet (.of_eq rfl) rfl⟩
              have open' := (sound.intact unfailed).open'
              rw [failed] at open'
              cases open'
          | false =>
              refine ⟨fun unfailed => ?_, sound.follows.quiet (.of_eq rfl) rfl⟩
              have intact := sound.intact unfailed
              have accepted := intact.accepted
              have written := intact.written
              simp only [runningChunk, runningSent, running, waiting, Option.elim_none,
                List.nil_append, List.flatten_cons, List.append_nil] at accepted written
              exact
                { open' := rfl
                  accepted := by simpa [runningChunk, SinkCall.start] using accepted
                  written := by simpa [runningSent, SinkCall.start] using written
                  ended := by
                    rintro call ⟨⟩ succeeded ended
                    by_cases empty : chunk = []
                    · subst empty
                      cases ended
                      exact ⟨rfl, rfl⟩
                    · simp [SinkCall.start, empty] at ended
                  latest := fun _ _ => rfl
                  covered := by
                    intro shutdown member
                    obtain done | ⟨call, present, _⟩ := intact.covered shutdown member
                    · exact .inl done
                    · rw [running] at present
                      cases present }

theorem writeResolves_sound (sound : socket.Sound) (count : Nat) :
    (socket.writeResolves count).Sound := by
  unfold writeResolves
  cases running : socket.running with
  | none => exact sound
  | some call =>
      obtain ⟨chunk, sent, outcome⟩ := call
      cases outcome with
      | some succeeded => exact sound
      | none =>
          dsimp only
          split
          case isFalse => exact sound
          case isTrue fits =>
              refine ⟨fun unfailed => ?_,
                sound.follows.record (.of_eq rfl) _ rfl (fun _ isClose => by cases isClose)⟩
              have unfailed' : .rejected ∉ socket.conn := fun failed =>
                unfailed (List.mem_append_left _ failed)
              have intact := sound.intact unfailed'
              have accepted := intact.accepted
              have written := intact.written
              simp only [runningChunk, runningSent, running, Option.elim_some] at accepted written
              have moved : writtenBytes (socket.conn ++ [.written ((chunk.drop sent).take count)]) =
                  socket.done.flatten ++ chunk.take (sent + count) := by
                rw [writtenBytes_append, writtenBytes_written, written, List.append_assoc,
                  List.take_add]
              exact
                { open' := intact.open'
                  accepted := by simpa [runningChunk] using accepted
                  written := moved
                  ended := by
                    rintro call ⟨⟩ succeeded ended
                    by_cases more : sent + count < chunk.length
                    · simp [more] at ended
                    · simp only [more, if_false, Option.some.injEq] at ended
                      exact ⟨ended.symm, by simp only; omega⟩
                  latest := fun _ _ => intact.latest _ running
                  covered := by
                    intro shutdown member
                    obtain done | ⟨call, present, _, after, carried⟩ :=
                      intact.covered shutdown member
                    · apply Or.inl
                      rw [writtenBytes_append]
                      exact done.trans (List.prefix_append _ _)
                    · rw [running] at present
                      cases present
                      by_cases more : sent + count < chunk.length
                      · exact .inr ⟨_, rfl, by simp [more], after, carried⟩
                      · have all : chunk.take (sent + count) = chunk :=
                          List.take_of_length_le (by omega)
                        apply Or.inl
                        rw [moved, all]
                        exact carried }

theorem writeRejects_sound (sound : socket.Sound) : socket.writeRejects.Sound := by
  unfold writeRejects
  cases running : socket.running with
  | none => exact sound
  | some call =>
      obtain ⟨chunk, sent, outcome⟩ := call
      cases outcome with
      | some succeeded => exact sound
      | none =>
          refine ⟨fun unfailed => ?_,
            sound.follows.record (.of_eq rfl) _ rfl (fun _ isClose => by cases isClose)⟩
          exact absurd (List.mem_append_right _ (List.mem_singleton_self _)) unfailed

theorem sinkReturns_sound (sound : socket.Sound) : socket.sinkReturns.Sound := by
  unfold sinkReturns
  cases running : socket.running with
  | none => exact sound
  | some call =>
      obtain ⟨chunk, sent, outcome⟩ := call
      cases outcome with
      | none => exact sound
      | some succeeded =>
          refine ⟨fun unfailed => ?_, sound.follows.quiet (.of_eq rfl) rfl⟩
          have intact := sound.intact unfailed
          obtain ⟨rfl, whole⟩ := intact.ended _ running succeeded rfl
          have accepted := intact.accepted
          have written := intact.written
          simp only [runningChunk, runningSent, running, Option.elim_some] at accepted written whole
          rw [whole, List.take_length] at written
          exact
            { open' := by simp [intact.open']
              accepted := by simpa [runningChunk] using accepted
              written := by simpa [runningSent] using written
              ended := nofun
              latest := nofun
              covered := by
                intro shutdown member
                obtain done | ⟨call, present, pending, _⟩ := intact.covered shutdown member
                · exact .inl done
                · rw [running] at present
                  cases present
                  cases pending }

theorem shutdown_gives (socket : TcpSocket02) (shutdownType : ShutdownType) :
    Fallible.Satisfies (fun _ => True) (socket.shutdown shutdownType) fun next =>
      socket.connected = true ∧ next = { socket with
        inputDisposed := socket.inputDisposed || shutdownType.receives
        shutdowns :=
          if shutdownType.sends then
            socket.shutdowns ++ [⟨socket.lastWrite, socket.accepted, false⟩]
          else socket.shutdowns } := by
  unfold shutdown
  cases connected : socket.connected with
  | false => exact trivial
  | true => exact ⟨rfl, rfl⟩

theorem Intact.covers_shutdown (intact : socket.Intact) (handed : socket.waiting.flatten = []) :
    socket.Covered ⟨socket.lastWrite, socket.accepted, false⟩ := by
  have accepted := intact.accepted
  have written := intact.written
  rw [handed, List.append_nil] at accepted
  cases running : socket.running with
  | none =>
      simp only [runningChunk, runningSent, running, Option.elim_none] at accepted written
      exact .inl ((accepted.trans written.symm) ▸ List.prefix_rfl)
  | some call =>
      simp only [runningChunk, runningSent, running, Option.elim_some] at accepted written
      cases outcome : call.outcome with
      | none =>
          exact .inr ⟨call, running, outcome, intact.latest call running,
            by simp [accepted]⟩
      | some succeeded =>
          obtain ⟨_, whole⟩ := intact.ended call running succeeded outcome
          rw [whole, List.take_length] at written
          exact .inl ((accepted.trans written.symm) ▸ List.prefix_rfl)

theorem shutdown_sound (sound : socket.Sound) (shutdownType : ShutdownType)
    (allowed : socket.ShutsDownHanded (.shutdown shutdownType)) :
    (step (.shutdown shutdownType) socket).Sound := by
  simp only [step]
  cases result : socket.shutdown shutdownType with
  | error failure => exact sound
  | ok next =>
      obtain ⟨connected, rfl⟩ := (shutdown_gives socket shutdownType).of_ok result
      cases sends : shutdownType.sends with
      | false =>
          refine ⟨fun unfailed => ?_, sound.follows.quiet (.of_eq rfl) rfl⟩
          have intact := sound.intact unfailed
          exact ⟨intact.open', intact.accepted, intact.written, intact.ended, intact.latest,
            intact.covered⟩
      | true =>
          have kept : KeepsShutdowns socket { socket with
              inputDisposed := socket.inputDisposed || shutdownType.receives
              shutdowns := socket.shutdowns ++ [⟨socket.lastWrite, socket.accepted, false⟩] } := by
            intro number shutdown found
            have bound := (List.getElem?_eq_some_iff.mp found).1
            exact ⟨shutdown, (List.getElem?_append_left bound).trans found, rfl⟩
          refine ⟨fun unfailed => ?_, sound.follows.quiet kept rfl⟩
          have intact := sound.intact unfailed
          obtain handed | failed := allowed shutdownType rfl sends connected
          · exact
              { open' := intact.open'
                accepted := intact.accepted
                written := intact.written
                ended := intact.ended
                latest := intact.latest
                covered := by
                  intro shutdown member
                  obtain old | new := List.mem_append.mp member
                  · exact intact.covered shutdown old
                  · rw [List.mem_singleton.mp new]
                    exact intact.covers_shutdown handed }
          · exact absurd failed unfailed

theorem Covered.of_settled {shutdown : Shutdown} (covered : socket.Covered shutdown)
    (settled : socket.settled shutdown.after = true) :
    shutdown.accepted <+: writtenBytes socket.conn := by
  obtain done | ⟨call, running, pending, after, _⟩ := covered
  · exact done
  · simp [TcpSocket02.settled, after, running, pending] at settled

theorem runCloseWrite_sound (sound : socket.Sound) (number : Nat) :
    (socket.runCloseWrite number).Sound := by
  unfold runCloseWrite
  cases found : socket.shutdowns[number]? with
  | none => exact sound
  | some shutdown =>
      obtain ⟨after, accepted, closed⟩ := shutdown
      cases closed with
      | true => exact sound
      | false =>
          dsimp only
          split
          case isFalse => exact sound
          case isTrue settled =>
              have member := List.mem_of_getElem? found
              have kept : KeepsShutdowns socket { socket with
                  shutdowns := socket.shutdowns.set number ⟨after, accepted, true⟩
                  conn := socket.conn ++ [.closeWrite number] } := by
                intro other shutdown present
                by_cases same : number = other
                · subst same
                  rw [found] at present
                  cases present
                  have bound := (List.getElem?_eq_some_iff.mp found).1
                  exact ⟨_, List.getElem?_set_self bound, rfl⟩
                · exact ⟨shutdown, (List.getElem?_set_ne same).trans present, rfl⟩
              constructor
              · intro unfailed
                have unfailed' : .rejected ∉ socket.conn := fun failed =>
                  unfailed (List.mem_append_left _ failed)
                have intact := sound.intact unfailed'
                have quiet : writtenBytes (socket.conn ++ [.closeWrite number]) =
                    writtenBytes socket.conn := by simp
                exact
                  { open' := intact.open'
                    accepted := intact.accepted
                    written := quiet.trans intact.written
                    ended := intact.ended
                    latest := intact.latest
                    covered := by
                      intro shutdown member'
                      have original : ∃ before ∈ socket.shutdowns,
                          before.after = shutdown.after ∧ before.accepted = shutdown.accepted := by
                        obtain old | same := List.mem_or_eq_of_mem_set member'
                        · exact ⟨shutdown, old, rfl, rfl⟩
                        · exact ⟨_, member, by rw [same], by rw [same]⟩
                      obtain ⟨before, present, after', accepted'⟩ := original
                      have covered := intact.covered before present
                      rw [Covered, after', accepted'] at covered
                      rw [Covered, quiet]
                      exact covered }
              · apply sound.follows.record kept _ rfl
                intro number' isClose
                cases isClose
                refine ⟨_, found, ?_⟩
                by_cases failed : .rejected ∈ socket.conn
                · exact .inr failed
                · exact .inl (((sound.intact failed).covered _ member).of_settled settled)

theorem step_sound (action : Action) (sound : socket.Sound)
    (allowed : socket.ShutsDownHanded action) : (step action socket).Sound := by
  cases action with
  | write contents => exact write_sound sound contents
  | startNext => exact startNext_sound sound
  | writeResolves count => exact writeResolves_sound sound count
  | writeRejects => exact writeRejects_sound sound
  | sinkReturns => exact sinkReturns_sound sound
  | shutdown shutdownType => exact shutdown_sound sound shutdownType allowed
  | runCloseWrite number => exact runCloseWrite_sound sound number
  | dropOutput =>
      refine ⟨fun unfailed => ?_, sound.follows.quiet (.of_eq rfl) rfl⟩
      have intact := sound.intact unfailed
      exact ⟨intact.open', intact.accepted, intact.written, intact.ended, intact.latest,
        intact.covered⟩
  | dispose =>
      refine ⟨fun unfailed => ?_, sound.follows.quiet (.of_eq rfl) rfl⟩
      have intact := sound.intact unfailed
      exact ⟨intact.open', intact.accepted, intact.written, intact.ended, intact.latest,
        intact.covered⟩

/-- When nothing waits in the chain whenever the sending side is shut down, every `closeWrite`
follows all bytes accepted before its shutdown. -/
theorem closeWrite_follows_accepted (actions : List Action)
    (handed : Transition.Throughout step (fun action socket => socket.ShutsDownHanded action)
      actions minted) :
    (Transition.runAll step actions minted).FollowsAccepted := by
  have sound : (Transition.runAll step actions minted).Sound :=
    handed.invariant (fun action _ sound allowed => step_sound action sound allowed) minted_sound
  exact sound.follows

/-- A shutdown while the last write is on its way. -/
theorem closeWrite_follows_running :
    (Transition.runAll step [.write [1], .startNext, .write [], .shutdown .send,
      .writeResolves 1, .runCloseWrite 0] minted).FollowsAccepted := by
  apply closeWrite_follows_accepted
  refine ⟨nofun, nofun, nofun, ?_, nofun, nofun, trivial⟩
  intro _ _ _ _
  exact .inl rfl

/-- Two writes and a shutdown in one turn of the guest: the connection is ended while the first byte
is on its way and the second one waits. -/
theorem closeWrite_overtakes_accepted :
    ¬(Transition.runAll step [.write [1], .write [2], .shutdown .send, .startNext,
      .runCloseWrite 0] minted).FollowsAccepted := by
  intro follows
  obtain ⟨shutdown, present, covered⟩ := follows 0 0 rfl
  cases present
  revert covered
  decide

end Steps

end TcpSocket02

end Polyengine.Wasi.TcpShutdown
