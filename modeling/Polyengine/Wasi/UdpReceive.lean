import Mathlib.Algebra.GroupWithZero.Nat
import Mathlib.Data.List.Perm.Basic
import Mathlib.Data.List.Range
import Polyengine.Wasi.UdpStreams

/-!
# Receiving on a 0.3 UDP socket

A bound socket over the node datagram backend, with the calls of `receive` that guest tasks have
made. A datagram goes straight to the oldest waiting call, past the queue. Cancelling a call is the
business of the runtime, which discards its later result; the backend is not told.
-/

set_option autoImplicit false

namespace Polyengine.Wasi.Udp

open Polyengine.Library Polyengine.Wasi.Sockets

/-- A datagram as the platform hands it over. -/
abbrev Packet : Type := List UInt8 × NetAddr

def Packet.datagram (packet : Packet) : IncomingDatagram := ⟨packet.1, parseNetAddr packet.2⟩

structure LookedAt where
  call : Nat
  datagram : IncomingDatagram
  remote : Option IpSocketAddress
  deriving Repr, DecidableEq

/-- Whether the filter of a connected socket lets a datagram through. -/
def passes (remote : Option IpSocketAddress) (datagram : IncomingDatagram) : Bool :=
  remote.all fun remote => sameSocketAddress datagram.remoteAddress remote

/-- A call that has settled; the runtime has discarded the result if it was `cancelled`. -/
structure SettledCall where
  call : Nat
  result : Except SocketErrorKind IncomingDatagram
  cancelled : Bool
  deriving Repr, DecidableEq

/-- `resumed` are the calls whose `await` of the backend has been settled and not yet continued,
`returning` those that have run to their end and whose promise the runtime has not yet observed;
both are continued in order. The last three fields record the datagrams that the backend has kept,
those that calls have looked at, and the calls that are over. -/
structure UdpSocket03 where
  family : IpAddressFamily
  bound : Bool
  remote : Option IpSocketAddress
  connecting : List IpSocketAddress
  queue : List Packet
  waiters : List Nat
  failure : Option SocketErrorKind
  closed : Bool
  resumed : List (Nat × Except SocketErrorKind Packet)
  returning : List (Nat × Except SocketErrorKind IncomingDatagram)
  calls : Nat
  cancelled : List Nat
  arrived : List IncomingDatagram
  lookedAt : List LookedAt
  settled : List SettledCall
  deriving DecidableEq

namespace UdpSocket03

def bind (family : IpAddressFamily) : UdpSocket03 where
  family := family
  bound := true
  remote := none
  connecting := []
  queue := []
  waiters := []
  failure := none
  closed := false
  resumed := []
  returning := []
  calls := 0
  cancelled := []
  arrived := []
  lookedAt := []
  settled := []

/-! ## The backend -/

/-- The handler of `message`. -/
def message (socket : UdpSocket03) (packet : Packet) : UdpSocket03 :=
  match socket.waiters with
  | call :: rest =>
      { socket with
        waiters := rest
        resumed := socket.resumed ++ [(call, .ok packet)]
        arrived := socket.arrived ++ [packet.datagram] }
  | [] =>
      if socket.closed ∨ MAX_QUEUED_DATAGRAMS ≤ socket.queue.length then socket
      else
        { socket with
          queue := socket.queue ++ [packet]
          arrived := socket.arrived ++ [packet.datagram] }

def failWaiters (socket : UdpSocket03) (kind : SocketErrorKind) : UdpSocket03 :=
  { socket with
    waiters := []
    resumed := socket.resumed ++ socket.waiters.map fun call => (call, .error kind) }

/-- The handler of `error`; `kind` is what `mapPlatformError` makes of the failure. -/
def error (socket : UdpSocket03) (kind : SocketErrorKind) : UdpSocket03 :=
  { socket.failWaiters kind with failure := some kind }

/-- `receive` of the backend, awaited by a call. -/
def connReceive (socket : UdpSocket03) (call : Nat) : UdpSocket03 :=
  match socket.failure with
  | some kind => { socket with resumed := socket.resumed ++ [(call, .error kind)] }
  | none =>
      if socket.closed then
        { socket with resumed := socket.resumed ++ [(call, .error .invalidState)] }
      else
        match socket.queue with
        | packet :: rest =>
            { socket with
              queue := rest
              resumed := socket.resumed ++ [(call, .ok packet)] }
        | [] => { socket with waiters := socket.waiters ++ [call] }

def close (socket : UdpSocket03) : UdpSocket03 :=
  if socket.closed then socket
  else { socket.failWaiters .invalidState with closed := true }

/-! ## The resource -/

/-- `connect` up to the `await` of the backend. -/
def connect (socket : UdpSocket03) (remoteAddress : IpSocketAddress) : UdpSocket03 :=
  if socket.remote.isSome ∨ isValidAddressFamily socket.family remoteAddress = false ∨
      isUnspecified remoteAddress = true ∨ remoteAddress.port = 0 ∨
      (remoteAddress.kind = .ipv6 ∧ remoteAddress.scopeId ≠ 0) then socket
  else { socket with connecting := socket.connecting ++ [remoteAddress] }

/-- The end of `connect` once the backend has answered. -/
def connectReturns (socket : UdpSocket03) (index : Nat) (succeeds : Bool) : UdpSocket03 :=
  match socket.connecting[index]? with
  | none => socket
  | some remoteAddress =>
      { socket with
        connecting := socket.connecting.eraseIdx index
        remote := if succeeds then some remoteAddress else socket.remote }

/-- `disconnect`; the backend may refuse it. -/
def disconnect (socket : UdpSocket03) (succeeds : Bool) : UdpSocket03 :=
  if socket.remote.isSome ∧ socket.bound ∧ succeeds then { socket with remote := none } else socket

/-- A guest task calls `receive`, which runs up to its first `await`. -/
def receive (socket : UdpSocket03) : UdpSocket03 :=
  let called := { socket with calls := socket.calls + 1 }
  if socket.bound = false then
    { called with returning := socket.returning ++ [(socket.calls, .error .invalidState)] }
  else called.connReceive socket.calls

/-- The loop of `receive` continues with a datagram; without a backend the next turn of the loop
throws a TypeError. -/
def look (socket : UdpSocket03) (call : Nat) (packet : Packet) : UdpSocket03 :=
  let seen : UdpSocket03 :=
    { socket with lookedAt := socket.lookedAt ++ [⟨call, packet.datagram, socket.remote⟩] }
  if passes socket.remote packet.datagram then
    { seen with returning := socket.returning ++ [(call, .ok packet.datagram)] }
  else if socket.bound then seen.connReceive call
  else { seen with returning := socket.returning ++ [(call, .error .invalidArgument)] }

/-- The next call whose `await` has been settled continues. -/
def resume (socket : UdpSocket03) : UdpSocket03 :=
  match socket.resumed with
  | [] => socket
  | (call, .error kind) :: rest =>
      { socket with
        resumed := rest
        returning := socket.returning ++ [(call, .error kind)] }
  | (call, .ok packet) :: rest => look { socket with resumed := rest } call packet

/-- The runtime observes the next call that has run to its end. -/
def settle (socket : UdpSocket03) : UdpSocket03 :=
  match socket.returning with
  | [] => socket
  | (call, result) :: rest =>
      { socket with
        returning := rest
        settled := socket.settled ++ [⟨call, result, decide (call ∈ socket.cancelled)⟩] }

/-- Whether the call has been made and has not settled. -/
def Pending (socket : UdpSocket03) (call : Nat) : Prop :=
  call < socket.calls ∧ call ∉ socket.settled.map (·.call)

instance (socket : UdpSocket03) (call : Nat) : Decidable (socket.Pending call) :=
  inferInstanceAs (Decidable (_ ∧ _))

/-- The guest cancels a call that is pending; the runtime forgets it and tells nobody. -/
def cancel (socket : UdpSocket03) (call : Nat) : UdpSocket03 :=
  if socket.Pending call then { socket with cancelled := call :: socket.cancelled } else socket

def dispose (socket : UdpSocket03) : UdpSocket03 :=
  if socket.bound then { socket.close with bound := false } else socket

/-- A call or a cancellation of a guest task, an event of the platform, or the continuation of a
call that is ready. -/
inductive Action03 where
  | connect (remoteAddress : IpSocketAddress)
  | connectReturns (index : Nat) (succeeds : Bool)
  | disconnect (succeeds : Bool)
  | receive
  | cancel (call : Nat)
  | message (packet : Packet)
  | error (kind : SocketErrorKind)
  | resume
  | settle
  | dispose
  deriving Repr, DecidableEq

def step : Action03 → UdpSocket03 → UdpSocket03
  | .connect remoteAddress, socket => socket.connect remoteAddress
  | .connectReturns index succeeds, socket => socket.connectReturns index succeeds
  | .disconnect succeeds, socket => socket.disconnect succeeds
  | .receive, socket => socket.receive
  | .cancel call, socket => socket.cancel call
  | .message packet, socket => socket.message packet
  | .error kind, socket => socket.error kind
  | .resume, socket => socket.resume
  | .settle, socket => socket.settle
  | .dispose, socket => socket.dispose

theorem message_cases (socket : UdpSocket03) (packet : Packet) :
    (∃ call rest, socket.waiters = call :: rest ∧
      socket.message packet =
        { socket with
          waiters := rest
          resumed := socket.resumed ++ [(call, .ok packet)]
          arrived := socket.arrived ++ [packet.datagram] }) ∨
    socket.message packet = socket ∨
    (socket.waiters = [] ∧
      socket.message packet =
        { socket with
          queue := socket.queue ++ [packet]
          arrived := socket.arrived ++ [packet.datagram] }) := by
  unfold message
  split
  · next call rest waiting => exact .inl ⟨call, rest, waiting, rfl⟩
  · next idle =>
      split
      · exact .inr (.inl rfl)
      · exact .inr (.inr ⟨idle, rfl⟩)

theorem connReceive_cases (socket : UdpSocket03) (call : Nat) :
    (∃ kind, socket.connReceive call =
      { socket with resumed := socket.resumed ++ [(call, .error kind)] }) ∨
    (∃ packet rest, socket.failure = none ∧ socket.closed = false ∧
      socket.queue = packet :: rest ∧ socket.connReceive call =
        { socket with
          queue := rest
          resumed := socket.resumed ++ [(call, .ok packet)] }) ∨
    (socket.queue = [] ∧ socket.failure = none ∧ socket.closed = false ∧
      socket.connReceive call = { socket with waiters := socket.waiters ++ [call] }) := by
  unfold connReceive
  split
  · next kind _ => exact .inl ⟨kind, rfl⟩
  · next failed =>
      split
      · exact .inl ⟨.invalidState, rfl⟩
      · next closed =>
          split
          · next packet rest queued =>
              exact .inr (.inl ⟨packet, rest, failed, by simpa using closed, queued, rfl⟩)
          · next queued => exact .inr (.inr ⟨queued, failed, by simpa using closed, rfl⟩)

/-! ## Books -/

/-- The datagram of a call that was given one. -/
def gotten {Got : Type} : Nat × Except SocketErrorKind Got → Option (Nat × Got)
  | (call, .ok got) => some (call, got)
  | (_, .error _) => none

/-- The datagrams that calls have been given and not yet looked at. -/
def inHand (socket : UdpSocket03) : List IncomingDatagram :=
  (socket.resumed.filterMap gotten).map fun entry => entry.2.datagram

def accepted (socket : UdpSocket03) : List (Nat × IncomingDatagram) :=
  (socket.lookedAt.filter fun entry => passes entry.remote entry.datagram).map
    fun entry => (entry.call, entry.datagram)

def taken (socket : UdpSocket03) : List (Nat × IncomingDatagram) :=
  socket.settled.filterMap fun entry => gotten (entry.call, entry.result)

/-- The datagrams with which calls are about to settle. -/
def onTheWay (socket : UdpSocket03) : List (Nat × IncomingDatagram) :=
  socket.returning.filterMap gotten

/-- The calls by where they are: over, at their end, about to continue, or waiting. -/
def placed (socket : UdpSocket03) : List Nat :=
  socket.settled.map (·.call) ++ socket.returning.map (·.1) ++ socket.resumed.map (·.1) ++
    socket.waiters

/-- Every datagram and every call is in one place; the call `running` is in none. -/
structure Books (socket : UdpSocket03) (running : List Nat) : Prop where
  arrivals : socket.arrived =
    socket.lookedAt.map (·.datagram) ++ socket.inHand ++ socket.queue.map (·.datagram)
  accepts : socket.accepted = socket.taken ++ socket.onTheWay
  calls : (socket.placed ++ running).Perm (List.range socket.calls)
  idle : socket.waiters ≠ [] →
    socket.queue = [] ∧ socket.failure = none ∧ socket.closed = false

section Filter

variable {Got : Type} (before after : List (Nat × Except SocketErrorKind Got)) (call : Nat)

@[simp] theorem filterMap_gotten_ok (got : Got) :
    ((call, .ok got) :: after).filterMap gotten = (call, got) :: after.filterMap gotten := rfl

@[simp] theorem filterMap_gotten_error (kind : SocketErrorKind) :
    ((call, .error kind) :: after).filterMap gotten =
      (after.filterMap gotten : List (Nat × Got)) := rfl

theorem filterMap_gotten_failed (calls : List Nat) (kind : SocketErrorKind) :
    (calls.map fun call => ((call, .error kind) : Nat × Except SocketErrorKind Got)).filterMap
      gotten = [] := by
  induction calls with
  | nil => rfl
  | cons call rest ih => simpa using ih

end Filter

namespace Books

variable {socket : UdpSocket03} {running : List Nat}

theorem bind (family : IpAddressFamily) : Books (UdpSocket03.bind family) [] where
  arrivals := rfl
  accepts := rfl
  calls := List.Perm.refl _
  idle := nofun

theorem message (books : Books socket running) (packet : Packet) :
    Books (socket.message packet) running := by
  rcases message_cases socket packet with
    ⟨call, rest, waiting, same⟩ | same | ⟨waiting, same⟩
  · obtain ⟨empty, idle⟩ := books.idle (by rw [waiting]; nofun)
    rw [same]
    refine ⟨?_, books.accepts, ?_, fun _ => ⟨empty, idle⟩⟩
    · simp [books.arrivals, inHand, empty]
    · have calls := books.calls
      simp only [placed, waiting] at calls
      simpa [placed] using calls
  · rw [same]
    exact books
  · rw [same]
    refine ⟨?_, books.accepts, books.calls, fun some => absurd waiting some⟩
    simp [books.arrivals, inHand]

theorem failWaiters (books : Books socket running) (kind : SocketErrorKind) :
    Books (socket.failWaiters kind) running where
  arrivals := by
    simp only [UdpSocket03.failWaiters, inHand, List.filterMap_append, filterMap_gotten_failed,
      List.append_nil]
    exact books.arrivals
  accepts := books.accepts
  calls := by
    have calls := books.calls
    simp only [placed] at calls
    simpa [placed, UdpSocket03.failWaiters, Function.comp_def] using calls
  idle := nofun

theorem error (books : Books socket running) (kind : SocketErrorKind) :
    Books (socket.error kind) running :=
  have failed := books.failWaiters kind
  ⟨failed.arrivals, failed.accepts, failed.calls, nofun⟩

theorem close (books : Books socket running) : Books socket.close running := by
  unfold UdpSocket03.close
  split
  · exact books
  · have failed := books.failWaiters .invalidState
    exact ⟨failed.arrivals, failed.accepts, failed.calls, nofun⟩

theorem connReceive {call : Nat} (books : Books socket [call]) :
    Books (socket.connReceive call) [] := by
  have placed_append (result : Except SocketErrorKind Packet) (queue : List Packet) :
      ({ socket with
        queue := queue
        resumed := socket.resumed ++ [(call, result)] } : UdpSocket03).placed.Perm
        (socket.placed ++ [call]) := by
    simp only [placed, List.map_append, List.map_cons, List.map_nil, List.append_assoc]
    exact ((List.perm_append_comm.append_left _).append_left _).append_left _
  rcases connReceive_cases socket call with
    ⟨kind, same⟩ | ⟨packet, rest, _, _, queued, same⟩ | ⟨queued, failed, closed, same⟩
  · rw [same]
    refine ⟨?_, books.accepts, ?_, books.idle⟩
    · simpa [inHand] using books.arrivals
    · rw [List.append_nil]
      exact (placed_append (.error kind) socket.queue).trans books.calls
  · rw [same]
    refine ⟨?_, books.accepts, ?_, ?_⟩
    · simp [books.arrivals, inHand, queued]
    · rw [List.append_nil]
      exact (placed_append (.ok packet) rest).trans books.calls
    · intro some
      have empty := (books.idle some).1
      rw [queued] at empty
      cases empty
  · rw [same]
    refine ⟨books.arrivals, books.accepts, ?_, fun _ => ⟨queued, failed, closed⟩⟩
    have calls := books.calls
    simpa [placed] using calls

theorem ends {call : Nat} (books : Books socket [call]) (kind : SocketErrorKind) :
    Books { socket with returning := socket.returning ++ [(call, .error kind)] } [] where
  arrivals := books.arrivals
  accepts := by simpa [accepted, taken, onTheWay] using books.accepts
  calls := by
    have calls := books.calls
    simp only [placed, List.append_assoc] at calls ⊢
    simp only [List.map_append, List.map_cons, List.map_nil, List.append_assoc, List.append_nil]
    refine List.Perm.trans ?_ calls
    rw [← List.append_assoc (socket.resumed.map _)]
    have moved : ([call] ++ (socket.resumed.map (·.1) ++ socket.waiters)).Perm
        (socket.resumed.map (·.1) ++ (socket.waiters ++ [call])) := by
      rw [← List.append_assoc (socket.resumed.map _)]
      exact List.perm_append_comm
    simpa only [List.append_assoc] using (moved.append_left _).append_left _
  idle := books.idle

theorem look {call : Nat} {packet : Packet} {rest : List (Nat × Except SocketErrorKind Packet)}
    (books : Books socket []) (handed : socket.resumed = (call, .ok packet) :: rest) :
    Books (look { socket with resumed := rest } call packet) [] := by
  have arrivals := books.arrivals
  have calls := books.calls
  simp only [inHand, handed, filterMap_gotten_ok, List.map_cons] at arrivals
  simp only [placed, handed, List.map_cons] at calls
  have seen (drops : passes socket.remote packet.datagram = false) :
      Books { socket with
        resumed := rest
        lookedAt := socket.lookedAt ++ [⟨call, packet.datagram, socket.remote⟩] } [call] := by
    refine ⟨?_, ?_, ?_, books.idle⟩
    · simp [arrivals, inHand]
    · simpa [accepted, taken, onTheWay, drops] using books.accepts
    · refine List.Perm.trans ?_ calls
      simp only [placed, List.append_assoc, List.append_nil]
      refine (List.Perm.append_left _ ?_).append_left _
      rw [← List.append_assoc]
      exact List.perm_append_comm
  unfold UdpSocket03.look
  cases filtered : passes socket.remote packet.datagram with
  | false =>
      simp only [Bool.false_eq_true, if_false]
      split
      · exact (seen filtered).connReceive
      · exact (seen filtered).ends .invalidArgument
  | true =>
      simp only [if_true]
      refine ⟨?_, ?_, ?_, books.idle⟩
      · simp [arrivals, inHand]
      · have accepts := books.accepts
        simp only [accepted, taken, onTheWay] at accepts
        simp [accepted, taken, onTheWay, filtered, accepts]
      · refine List.Perm.trans (List.Perm.of_eq ?_) calls
        simp [placed]

theorem resume (books : Books socket []) : Books socket.resume [] := by
  unfold UdpSocket03.resume
  split
  · exact books
  · next call kind rest handed =>
      have running : Books { socket with resumed := rest } [call] := by
        have calls := books.calls
        simp only [placed, handed, List.map_cons] at calls
        refine ⟨?_, books.accepts, ?_, books.idle⟩
        · simpa [inHand, handed] using books.arrivals
        · refine List.Perm.trans ?_ calls
          simp only [placed, List.append_assoc, List.append_nil]
          refine (List.Perm.append_left _ ?_).append_left _
          rw [← List.append_assoc]
          exact List.perm_append_comm
      exact running.ends kind
  · next call packet rest handed => exact books.look handed

theorem settle (books : Books socket []) : Books socket.settle [] := by
  unfold UdpSocket03.settle
  split
  · exact books
  · next call result rest ended =>
      refine ⟨books.arrivals, ?_, ?_, books.idle⟩
      · have accepts := books.accepts
        simp only [accepted, taken, onTheWay, ended] at accepts
        cases result <;> simpa [accepted, taken, onTheWay, gotten] using accepts
      · refine List.Perm.trans (List.Perm.of_eq ?_) books.calls
        simp [placed, ended]

theorem receive (books : Books socket []) : Books socket.receive [] := by
  have called : Books { socket with calls := socket.calls + 1 } [socket.calls] := by
    refine ⟨books.arrivals, books.accepts, ?_, books.idle⟩
    have calls := books.calls.append_right [socket.calls]
    rw [List.range_succ]
    simpa [placed] using calls
  unfold UdpSocket03.receive
  split
  · exact called.ends .invalidState
  · exact called.connReceive

theorem step (books : Books socket []) (action : Action03) : Books (step action socket) [] := by
  cases action with
  | connect remoteAddress =>
      simp only [UdpSocket03.step, UdpSocket03.connect]
      split
      · exact books
      · exact ⟨books.arrivals, books.accepts, books.calls, books.idle⟩
  | connectReturns index succeeds =>
      simp only [UdpSocket03.step, UdpSocket03.connectReturns]
      split
      · exact books
      · exact ⟨books.arrivals, books.accepts, books.calls, books.idle⟩
  | disconnect succeeds =>
      simp only [UdpSocket03.step, UdpSocket03.disconnect]
      split
      · exact ⟨books.arrivals, books.accepts, books.calls, books.idle⟩
      · exact books
  | receive => exact books.receive
  | cancel call =>
      simp only [UdpSocket03.step, UdpSocket03.cancel]
      split
      · exact ⟨books.arrivals, books.accepts, books.calls, books.idle⟩
      · exact books
  | message packet => exact books.message packet
  | error kind => exact books.error kind
  | resume => exact books.resume
  | settle => exact books.settle
  | dispose =>
      simp only [UdpSocket03.step, UdpSocket03.dispose]
      split
      · have closed := books.close
        exact ⟨closed.arrivals, closed.accepts, closed.calls, closed.idle⟩
      · exact books

end Books

theorem Books.run {socket : UdpSocket03} (books : Books socket []) (actions : List Action03) :
    Books (Transition.runAll UdpSocket03.step actions socket) [] := by
  refine @Transition.runAll_invariant _ _ _ (fun socket => Books socket []) ?_ actions _ books
  exact fun action _ kept => kept.step action

/-! ## Cancelled calls -/

/-- No datagram goes to a call that has been cancelled before it settled. -/
def CancelledConsumeNone (socket : UdpSocket03) : Prop :=
  (∀ entry ∈ socket.settled, ∀ datagram, entry.result = .ok datagram → entry.cancelled = false) ∧
    ∀ call datagram, (call, .ok datagram) ∈ socket.returning → call ∉ socket.cancelled

/-- A call that comes to look at a datagram for the socket has not been cancelled, and no call is
cancelled once it has accepted one. -/
def LooksUncancelled (socket : UdpSocket03) : Action03 → Prop
  | .resume => ∀ call packet rest, socket.resumed = (call, .ok packet) :: rest →
      passes socket.remote packet.datagram = true → call ∉ socket.cancelled
  | .cancel call => ∀ datagram, (call, .ok datagram) ∉ socket.returning
  | _ => True

section Cancelled

variable {socket next : UdpSocket03}

theorem CancelledConsumeNone.congr (settled : next.settled = socket.settled)
    (returning : next.returning = socket.returning)
    (cancelled : next.cancelled = socket.cancelled) :
    next.CancelledConsumeNone ↔ socket.CancelledConsumeNone := by
  simp only [CancelledConsumeNone, settled, returning, cancelled]

theorem cancelledConsumeNone_ends (socket : UdpSocket03) (call : Nat) (kind : SocketErrorKind) :
    ({ socket with returning := socket.returning ++ [(call, .error kind)] } :
      UdpSocket03).CancelledConsumeNone ↔ socket.CancelledConsumeNone := by
  simp [CancelledConsumeNone]

theorem cancelledConsumeNone_connReceive (socket : UdpSocket03) (call : Nat) :
    (socket.connReceive call).CancelledConsumeNone ↔ socket.CancelledConsumeNone := by
  rcases connReceive_cases socket call with
    ⟨kind, same⟩ | ⟨packet, rest, _, _, _, same⟩ | ⟨_, _, _, same⟩
  all_goals
    rw [same]
    exact CancelledConsumeNone.congr rfl rfl rfl

theorem cancelledConsumeNone_receive (socket : UdpSocket03) :
    socket.receive.CancelledConsumeNone ↔ socket.CancelledConsumeNone := by
  unfold receive
  split
  · exact cancelledConsumeNone_ends { socket with calls := socket.calls + 1 } _ _
  · exact cancelledConsumeNone_connReceive _ _

theorem cancelledConsumeNone_message (socket : UdpSocket03) (packet : Packet) :
    (socket.message packet).CancelledConsumeNone ↔ socket.CancelledConsumeNone := by
  rcases message_cases socket packet with ⟨call, rest, _, same⟩ | same | ⟨_, same⟩
  · rw [same]
    exact CancelledConsumeNone.congr rfl rfl rfl
  · rw [same]
  · rw [same]
    exact CancelledConsumeNone.congr rfl rfl rfl

theorem cancelledConsumeNone_resume (socket : UdpSocket03) :
    socket.resume.CancelledConsumeNone ↔
      socket.CancelledConsumeNone ∧ socket.LooksUncancelled .resume := by
  unfold resume
  split
  · next none => simp [LooksUncancelled, none]
  · next call kind rest handed =>
      rw [show ({ socket with
        resumed := rest
        returning := socket.returning ++ [(call, .error kind)] } : UdpSocket03) =
          { ({ socket with resumed := rest } : UdpSocket03) with
            returning := socket.returning ++ [(call, .error kind)] } from rfl]
      rw [cancelledConsumeNone_ends { socket with resumed := rest }]
      simp [LooksUncancelled, handed, CancelledConsumeNone]
  · next call packet rest handed =>
      unfold look
      cases filtered : passes socket.remote packet.datagram with
      | false =>
          have allowed : socket.LooksUncancelled .resume := by
            intro call' packet' rest' handed' passed
            rw [handed] at handed'
            cases handed'
            rw [filtered] at passed
            cases passed
          simp only [Bool.false_eq_true, if_false, allowed, and_true]
          split
          · exact cancelledConsumeNone_connReceive _ _
          · exact cancelledConsumeNone_ends { socket with
              resumed := rest
              lookedAt := socket.lookedAt ++ [⟨call, packet.datagram, socket.remote⟩] } _ _
      | true =>
          simp only [if_true]
          constructor
          · intro kept
            refine ⟨⟨kept.1, fun other datagram member =>
              kept.2 other datagram (by simp [member])⟩, ?_⟩
            intro call' packet' rest' handed' _
            rw [handed] at handed'
            cases handed'
            exact kept.2 call packet.datagram (by simp)
          · intro ⟨kept, allowed⟩
            refine ⟨kept.1, fun other datagram member => ?_⟩
            rcases List.mem_append.mp member with member | member
            · exact kept.2 other datagram member
            · obtain ⟨rfl, _⟩ : other = call ∧ datagram = packet.datagram := by simpa using member
              exact allowed other packet rest handed filtered

theorem cancelledConsumeNone_settle (socket : UdpSocket03) :
    socket.settle.CancelledConsumeNone ↔ socket.CancelledConsumeNone := by
  unfold settle
  split
  · rfl
  · next call result rest ended =>
      simp only [CancelledConsumeNone, ended, List.mem_append, List.mem_cons, List.not_mem_nil,
        or_false]
      constructor
      · intro ⟨ended, later⟩
        refine ⟨fun entry member => ended entry (.inl member), ?_⟩
        rintro other datagram (same | member)
        · cases same
          simpa using ended _ (.inr rfl) datagram rfl
        · exact later other datagram member
      · intro ⟨ended, later⟩
        refine ⟨?_, fun other datagram member => later other datagram (.inr member)⟩
        rintro entry (member | rfl) datagram given
        · exact ended entry member datagram given
        · simp only at given
          subst given
          simpa using later call datagram (.inl rfl)

theorem cancelledConsumeNone_cancel (books : Books socket []) (call : Nat) :
    (socket.cancel call).CancelledConsumeNone ↔
      socket.CancelledConsumeNone ∧ socket.LooksUncancelled (.cancel call) := by
  have ended_pending (datagram : IncomingDatagram)
      (ended : (call, Except.ok datagram) ∈ socket.returning) : socket.Pending call := by
    have placedOnce : socket.placed.Nodup := by
      have calls := books.calls
      rw [List.append_nil] at calls
      exact calls.nodup_iff.mpr List.nodup_range
    have inReturning : call ∈ socket.returning.map (·.1) := List.mem_map_of_mem ended
    have inPlaced : call ∈ socket.placed := by simp [placed, inReturning]
    refine ⟨?_, ?_⟩
    · have inRange := (books.calls.mem_iff (a := call)).mp (by simp [inPlaced])
      exact List.mem_range.mp inRange
    · intro ended
      simp only [placed, List.append_assoc] at placedOnce
      exact (List.nodup_append.mp placedOnce).2.2 call ended call (by simp [inReturning]) rfl
  unfold cancel
  split
  · simp only [CancelledConsumeNone, LooksUncancelled, List.mem_cons, not_or]
    constructor
    · intro ⟨ended, later⟩
      refine ⟨⟨ended, fun other datagram member => (later other datagram member).2⟩, ?_⟩
      intro datagram ended
      exact (later call datagram ended).1 rfl
    · intro ⟨⟨ended, later⟩, allowed⟩
      refine ⟨ended, fun other datagram member => ⟨?_, later other datagram member⟩⟩
      rintro rfl
      exact allowed datagram member
  · next notPending =>
      refine ⟨fun kept => ⟨kept, ?_⟩, fun kept => kept.1⟩
      intro datagram ended
      exact notPending (ended_pending datagram ended)

theorem cancelledConsumeNone_step (books : Books socket []) (action : Action03) :
    (step action socket).CancelledConsumeNone ↔
      socket.CancelledConsumeNone ∧ socket.LooksUncancelled action := by
  cases action with
  | receive => exact (cancelledConsumeNone_receive socket).trans (and_iff_left trivial).symm
  | message packet =>
      exact (cancelledConsumeNone_message socket packet).trans (and_iff_left trivial).symm
  | resume => exact cancelledConsumeNone_resume socket
  | settle => exact (cancelledConsumeNone_settle socket).trans (and_iff_left trivial).symm
  | cancel call => exact cancelledConsumeNone_cancel books call
  | connect remoteAddress =>
      refine Iff.trans ?_ (and_iff_left trivial).symm
      simp only [step, connect]
      split <;> exact CancelledConsumeNone.congr rfl rfl rfl
  | connectReturns index succeeds =>
      refine Iff.trans ?_ (and_iff_left trivial).symm
      simp only [step, connectReturns]
      split <;> exact CancelledConsumeNone.congr rfl rfl rfl
  | disconnect succeeds =>
      refine Iff.trans ?_ (and_iff_left trivial).symm
      simp only [step, disconnect]
      split <;> exact CancelledConsumeNone.congr rfl rfl rfl
  | error kind =>
      refine Iff.trans ?_ (and_iff_left trivial).symm
      exact CancelledConsumeNone.congr rfl rfl rfl
  | dispose =>
      refine Iff.trans ?_ (and_iff_left trivial).symm
      simp only [step, dispose, close]
      split
      · split <;> exact CancelledConsumeNone.congr rfl rfl rfl
      · rfl

end Cancelled

/-! ## Failure and closing -/

def Down (socket : UdpSocket03) : Prop := socket.failure.isSome = true ∨ socket.closed = true

/-- How many continuations a settled `await` can still take once the backend is down. -/
def turns : Nat × Except SocketErrorKind Packet → Nat
  | (_, .ok _) => 2
  | (_, .error _) => 1

section Down

variable {socket : UdpSocket03}

theorem Books.waiters_of_down (books : Books socket []) (down : socket.Down) :
    socket.waiters = [] := by
  by_contra some
  obtain ⟨_, failed, closed⟩ := books.idle some
  rcases down with down | down
  · rw [failed] at down
    cases down
  · rw [closed] at down
    cases down

theorem connReceive_of_down (down : socket.Down) (call : Nat) :
    ∃ kind, socket.connReceive call =
      { socket with resumed := socket.resumed ++ [(call, .error kind)] } := by
  rcases connReceive_cases socket call with
    found | ⟨_, _, failed, closed, _⟩ | ⟨_, failed, closed, _⟩
  · exact found
  all_goals
    simp [Down, failed, closed] at down

theorem resume_of_down (down : socket.Down) (some : socket.resumed ≠ []) :
    socket.resume.Down ∧
      (socket.resume.resumed.map turns).sum < (socket.resumed.map turns).sum := by
  unfold resume
  split
  · next none => exact absurd none some
  · next call kind rest handed =>
      refine ⟨down, ?_⟩
      simp [handed, turns]
  · next call packet rest handed =>
      unfold look
      simp only
      split
      · refine ⟨down, ?_⟩
        simp [handed, turns]
      · split
        · obtain ⟨kind, same⟩ := @connReceive_of_down { socket with
            resumed := rest
            lookedAt := socket.lookedAt ++ [⟨call, packet.datagram, socket.remote⟩] } down call
          rw [same]
          refine ⟨down, ?_⟩
          simp [handed, turns]
          omega
        · refine ⟨down, ?_⟩
          simp [handed, turns]

theorem resumed_end (turnsLeft : Nat) (down : socket.Down)
    (bound : (socket.resumed.map turns).sum ≤ turnsLeft) :
    (Transition.runAll step (List.replicate turnsLeft .resume) socket).Down ∧
      (Transition.runAll step (List.replicate turnsLeft .resume) socket).resumed = [] := by
  induction turnsLeft generalizing socket with
  | zero =>
      refine ⟨down, ?_⟩
      cases handed : socket.resumed with
      | nil => exact handed
      | cons entry rest =>
          rw [handed] at bound
          obtain ⟨call, result⟩ := entry
          cases result <;> simp [turns] at bound
  | succ turnsLeft ih =>
      by_cases none : socket.resumed = []
      · have same : step .resume socket = socket := by simp [step, resume, none]
        simp only [List.replicate_succ, Transition.runAll, List.foldl_cons, same]
        exact ih down (by simp [none])
      · obtain ⟨stillDown, less⟩ := resume_of_down down none
        simp only [List.replicate_succ, Transition.runAll, List.foldl_cons]
        exact ih stillDown (by
          simp only [step]
          omega)

theorem returning_settle (ends : List (Nat × Except SocketErrorKind IncomingDatagram))
    (ended : socket.returning = ends) :
    (Transition.runAll step (List.replicate ends.length .settle) socket).returning = [] ∧
      (Transition.runAll step (List.replicate ends.length .settle) socket).resumed =
        socket.resumed ∧
      (Transition.runAll step (List.replicate ends.length .settle) socket).waiters =
        socket.waiters := by
  induction ends generalizing socket with
  | nil => exact ⟨ended, rfl, rfl⟩
  | cons entry rest ih =>
      obtain ⟨call, result⟩ := entry
      have settled : step .settle socket =
          { socket with
            returning := rest
            settled := socket.settled ++ [⟨call, result, decide (call ∈ socket.cancelled)⟩] } := by
        simp only [step, settle, ended]
      simp only [List.length_cons, List.replicate_succ, Transition.runAll, List.foldl_cons, settled]
      exact ih rfl

theorem Books.none_pending (books : Books socket []) (waiters : socket.waiters = [])
    (resumed : socket.resumed = []) (returning : socket.returning = []) (call : Nat) :
    ¬socket.Pending call := by
  intro ⟨made, notOver⟩
  have calls := books.calls
  simp only [placed, waiters, resumed, returning, List.map_nil, List.append_nil] at calls
  exact notOver (calls.mem_iff.mpr (List.mem_range.mpr made))

end Down

def SettlesPending (socket : UdpSocket03) : Prop :=
  ∃ turns ends, ∀ call, ¬(Transition.runAll step
    (List.replicate turns .resume ++ List.replicate ends .settle) socket).Pending call

theorem settlesPending_of_down {socket : UdpSocket03} (books : Books socket [])
    (down : socket.Down) : socket.SettlesPending := by
  obtain ⟨stillDown, resumed⟩ := resumed_end _ down le_rfl
  let continued := Transition.runAll step
    (List.replicate (socket.resumed.map turns).sum .resume) socket
  obtain ⟨returning, sameResumed, sameWaiters⟩ : _ ∧ _ = continued.resumed ∧ _ :=
    returning_settle continued.returning rfl
  refine ⟨(socket.resumed.map turns).sum, continued.returning.length, ?_⟩
  have split : Transition.runAll step
      (List.replicate (socket.resumed.map turns).sum .resume ++
        List.replicate continued.returning.length .settle) socket =
      Transition.runAll step (List.replicate continued.returning.length .settle) continued :=
    List.foldl_append
  have waiters := (books.run (List.replicate _ .resume)).waiters_of_down stillDown
  have final := books.run (List.replicate (socket.resumed.map turns).sum .resume ++
    List.replicate continued.returning.length .settle)
  rw [split] at final ⊢
  exact final.none_pending (sameWaiters.trans waiters) (sameResumed.trans resumed) returning

/-! ## Delivery -/

/-- Every datagram that the backend has kept was looked at by one call, is in the hands of one or is
queued, in the order of arrival; those that pass the filter are what calls have settled with or are
about to; each call is in one place; no datagram goes to a cancelled call; and every pending call
settles once the backend is down. -/
structure DeliversOnce (socket : UdpSocket03) : Prop where
  arrivals : socket.arrived =
    socket.lookedAt.map (·.datagram) ++ socket.inHand ++ socket.queue.map (·.datagram)
  accepts : socket.accepted = socket.taken ++ socket.onTheWay
  calls : socket.placed.Perm (List.range socket.calls)
  cancelled : socket.CancelledConsumeNone
  settles : socket.Down → socket.SettlesPending

/-- In every run over a bound socket, received datagrams are delivered once exactly if none comes to
a call that is cancelled. -/
theorem received_once (family : IpAddressFamily) (actions : List Action03) :
    (Transition.runAll step actions (bind family)).DeliversOnce ↔
      Transition.Throughout step (fun action socket => socket.LooksUncancelled action) actions
        (bind family) := by
  have decided : (Transition.runAll step actions (bind family)).CancelledConsumeNone ↔
      Transition.Throughout step (fun action socket => socket.LooksUncancelled action) actions
        (bind family) := by
    apply @Transition.runAll_iff_throughout _ _ _ _ (fun socket => Books socket [])
    · exact fun action _ books => books.step action
    · intro action socket books good
      exact (cancelledConsumeNone_step books action).trans (and_iff_right good)
    · exact fun action socket books kept => ((cancelledConsumeNone_step books action).mp kept).1
    · exact Books.bind family
    · exact ⟨nofun, nofun⟩
  have books := (Books.bind family).run actions
  rw [← decided]
  constructor
  · exact fun delivers => delivers.cancelled
  · intro uncancelled
    refine ⟨books.arrivals, books.accepts, ?_, uncancelled, settlesPending_of_down books⟩
    simpa using books.calls

/-- A cancelled call takes the next datagram, and the call behind it gets none. -/
theorem cancelled_takes_datagram :
    ¬(Transition.runAll step
      [.receive, .receive, .cancel 0, .message ([7], ⟨.ipv4, [127, 0, 0, 1], 0, 9⟩), .resume,
        .settle] (bind .ipv4)).DeliversOnce := by
  intro delivers
  have kept := delivers.cancelled.1 ⟨0, .ok ⟨[7], .ipv4 9 [127, 0, 0, 1]⟩, true⟩ (by decide)
    ⟨[7], .ipv4 9 [127, 0, 0, 1]⟩ rfl
  cases kept

end UdpSocket03

end Polyengine.Wasi.Udp
