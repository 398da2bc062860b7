import Mathlib.Logic.Function.Basic
import Polyengine.Library.Transition
import Polyengine.Wasi.SocketAddress

/-!
# A TCP socket of the 0.3 track

One socket from its creation, or from the acceptance of its connection, with the dials and listeners
that it asks the platform for, its send and receive pumps and its accept streams. An accepted
connection is handed to a socket of its own.
-/

set_option autoImplicit false

namespace Polyengine.Wasi.Tcp03

open Polyengine.Library Polyengine.Wasi.Sockets

inductive SocketState where
  | unbound
  | bound
  | connecting
  | connected
  | listening
  | closed
  deriving Repr, DecidableEq

def SocketState.text : SocketState → String
  | .unbound => "unbound"
  | .bound => "bound"
  | .connecting => "connecting"
  | .connected => "connected"
  | .listening => "listening"
  | .closed => "closed"

/-- A branded error: its kind and its message. -/
abbrev ComponentError := SocketErrorKind × String

/-- How far `listen` and the generator of its stream have come. In `parked` the generator waits for
`accept`, in `yielded` for its consumer. -/
inductive ListenPhase where
  | binding
  | failed
  | unstarted
  | parked
  | yielded
  | finished
  deriving Repr, DecidableEq

/-- The accept stream keeps the socket. -/
def ListenPhase.live : ListenPhase → Bool
  | .unstarted | .parked | .yielded => true
  | _ => false

/-- A listener of the platform; `dropped` is whether its stream was dropped while the generator waited
for `accept`. -/
structure Listener where
  phase : ListenPhase
  closed : Bool
  dropped : Bool
  deriving Repr, DecidableEq

/-- The generator of `receive`; in `reading` it waits for the connection. -/
inductive ReceivePump where
  | none
  | unstarted
  | reading (dropped : Bool)
  | yielded
  | finished
  deriving Repr, DecidableEq

def ReceivePump.live : ReceivePump → Bool
  | .unstarted | .reading _ | .yielded => true
  | _ => false

/-- How a `conn.read` ends. -/
inductive ReadOutcome where
  | chunk (empty : Bool)
  | ended
  | failed (kind : SocketErrorKind)
  deriving Repr, DecidableEq

/-- The fields of the class, whether the send pump runs, the dials with whether they have settled, the
listeners, and the connections of the platform with those handed to accepted sockets. -/
structure TcpSocket where
  family : IpAddressFamily
  state : SocketState
  conn : Option Nat
  listener : Option Nat
  localRequest : Option IpSocketAddress
  sendCalled : Bool
  receiveCalled : Bool
  refs : Int
  handleDropped : Bool
  sending : Bool
  receive : ReceivePump
  dials : Nat → Option Bool
  nextDial : Nat
  listeners : Nat → Option Listener
  nextListener : Nat
  connClosed : Nat → Bool
  nextConn : Nat
  handed : List Nat

namespace TcpSocket

/-- `TcpSocket.create`. -/
def create (family : IpAddressFamily) : TcpSocket where
  family := family
  state := .unbound
  conn := none
  listener := none
  localRequest := none
  sendCalled := false
  receiveCalled := false
  refs := 1
  handleDropped := false
  sending := false
  receive := .none
  dials := fun _ => none
  nextDial := 0
  listeners := fun _ => none
  nextListener := 0
  connClosed := fun _ => false
  nextConn := 0
  handed := []

/-- `TcpSocket.#accepted`. -/
def accepted (family : IpAddressFamily) : TcpSocket :=
  { create family with state := .connected, conn := some 0, nextConn := 1 }

def setListener (socket : TcpSocket) (number : Nat) (listener : Listener) : TcpSocket :=
  { socket with listeners := Function.update socket.listeners number (some listener) }

def closeConn (socket : TcpSocket) (conn : Nat) : TcpSocket :=
  { socket with connClosed := Function.update socket.connClosed conn true }

def closeListener (socket : TcpSocket) (number : Nat) : TcpSocket :=
  match socket.listeners number with
  | some listener => socket.setListener number { listener with closed := true }
  | none => socket

/-- The end of `#release`, when no reference is left. -/
def detach (socket : TcpSocket) : TcpSocket :=
  let unconnected :=
    match socket.conn with
    | some conn => { socket.closeConn conn with conn := none }
    | none => socket
  match socket.listener with
  | some number => { unconnected.closeListener number with listener := none }
  | none => unconnected

def release (socket : TcpSocket) : TcpSocket :=
  let released := { socket with refs := socket.refs - 1 }
  if released.refs = 0 then released.detach else released

def bind (socket : TcpSocket) (localAddress : IpSocketAddress) : Except ComponentError TcpSocket := do
  if socket.state ≠ .unbound then
    throw (.invalidState, s!"tcp-socket.bind: not bindable from the '{socket.state.text}' state")
  if isValidAddressFamily socket.family localAddress = false then
    throw (.invalidArgument,
      s!"tcp-socket.bind: address family mismatch (an {socket.family.text} socket)")
  if localAddress.kind = .ipv6 ∧ localAddress.scopeId ≠ 0 then
    throw (.notSupported,
      "tcp-socket.bind: non-zero scope-id (not expressible through node addresses)")
  return { socket with localRequest := some localAddress, state := .bound }

/-- `connect` up to the dial. -/
def connect (socket : TcpSocket) (remoteAddress : IpSocketAddress) :
    Except ComponentError TcpSocket := do
  if socket.state ≠ .unbound ∧ socket.state ≠ .bound then
    throw (.invalidState,
      s!"tcp-socket.connect: not connectable from the '{socket.state.text}' state")
  if isValidAddressFamily socket.family remoteAddress = false ∨
      isUnspecified remoteAddress = true ∨ remoteAddress.port = 0 then
    throw (.invalidArgument, s!"tcp-socket.connect: the remote address must be a specific unicast address and non-zero port in the socket's family ({socket.family.text})")
  if remoteAddress.kind = .ipv6 ∧ remoteAddress.scopeId ≠ 0 then
    throw (.notSupported,
      "tcp-socket.connect: non-zero scope-id (not expressible through node addresses)")
  return { socket with
    state := .connecting
    dials := Function.update socket.dials socket.nextDial (some false)
    nextDial := socket.nextDial + 1 }

/-- The rest of `connect`; a connection that comes too late is closed. -/
def dialSettles (socket : TcpSocket) (number : Nat) (ok : Bool) : TcpSocket :=
  match socket.dials number with
  | some false =>
      let settled := { socket with dials := Function.update socket.dials number (some true) }
      if ok = false then { settled with state := .closed }
      else
        let obtained := { settled with nextConn := socket.nextConn + 1 }
        if socket.state ≠ .connecting then obtained.closeConn socket.nextConn
        else { obtained with conn := some socket.nextConn, state := .connected }
  | _ => socket

/-- `listen` up to the end of the bind. -/
def listen (socket : TcpSocket) : Except ComponentError TcpSocket := do
  if socket.state ≠ .unbound ∧ socket.state ≠ .bound then
    throw (.invalidState,
      s!"tcp-socket.listen: not listenable from the '{socket.state.text}' state")
  return { socket.setListener socket.nextListener ⟨.binding, false, false⟩ with
    nextListener := socket.nextListener + 1 }

/-- The rest of `listen`. -/
def listenSettles (socket : TcpSocket) (number : Nat) (ok : Bool) : TcpSocket :=
  match socket.listeners number with
  | some ⟨.binding, closed, dropped⟩ =>
      if ok = false then
        { socket.setListener number ⟨.failed, true, dropped⟩ with state := .closed }
      else
        { socket.setListener number ⟨.unstarted, closed, dropped⟩ with
          listener := some number
          state := .listening
          refs := socket.refs + 1 }
  | _ => socket

/-- The consumer of the accept stream pulls. -/
def pull (socket : TcpSocket) (number : Nat) : TcpSocket :=
  match socket.listeners number with
  | some ⟨.unstarted, closed, dropped⟩ | some ⟨.yielded, closed, dropped⟩ =>
      socket.setListener number ⟨.parked, closed, dropped⟩
  | _ => socket

/-- `accept` resolves and the generator yields a socket over the connection. -/
def acceptResolves (socket : TcpSocket) (number : Nat) : TcpSocket :=
  match socket.listeners number with
  | some ⟨.parked, closed, dropped⟩ =>
      let obtained := { socket with
        nextConn := socket.nextConn + 1, handed := socket.handed ++ [socket.nextConn] }
      if dropped then (obtained.setListener number ⟨.finished, closed, dropped⟩).release
      else obtained.setListener number ⟨.yielded, closed, dropped⟩
  | _ => socket

/-- `TRANSIENT_ACCEPT_FAILURES`. -/
def transientAcceptFailure : SocketErrorKind → Bool
  | .connectionAborted | .connectionReset | .connectionRefused | .connectionBroken
  | .remoteUnreachable | .timeout => true
  | _ => false

def acceptRejects (socket : TcpSocket) (number : Nat) (kind : SocketErrorKind) : TcpSocket :=
  match socket.listeners number with
  | some ⟨.parked, closed, dropped⟩ =>
      if transientAcceptFailure kind then socket
      else (socket.setListener number ⟨.finished, closed, dropped⟩).release
  | _ => socket

/-- The accept stream is dropped. A generator that has not started ends without its `finally`; one
that waits for `accept` is cancelled. -/
def dropStream (socket : TcpSocket) (number : Nat) : TcpSocket :=
  match socket.listeners number with
  | some ⟨.unstarted, closed, dropped⟩ => socket.setListener number ⟨.finished, closed, dropped⟩
  | some ⟨.parked, _, _⟩ => socket.setListener number ⟨.parked, true, true⟩
  | some ⟨.yielded, closed, dropped⟩ =>
      (socket.setListener number ⟨.finished, closed, dropped⟩).release
  | _ => socket

/-- `send`; in another state it only drops its source. -/
def send (socket : TcpSocket) : TcpSocket :=
  if socket.state ≠ .connected ∨ socket.sendCalled = true ∨ socket.conn = none then socket
  else { socket with sendCalled := true, sending := true, refs := socket.refs + 1 }

/-- The send pump ends, at the end of its source or with a failure. -/
def sendEnds (socket : TcpSocket) : TcpSocket :=
  if socket.sending then { socket with sending := false }.release else socket

def receiveStarts (socket : TcpSocket) : TcpSocket :=
  if socket.state ≠ .connected ∨ socket.receiveCalled = true ∨ socket.conn = none then socket
  else { socket with receiveCalled := true, receive := .unstarted, refs := socket.refs + 1 }

/-- The consumer of the received stream pulls. -/
def pullReceive (socket : TcpSocket) : TcpSocket :=
  match socket.receive with
  | .unstarted | .yielded => { socket with receive := .reading false }
  | _ => socket

def readEnds (socket : TcpSocket) (outcome : ReadOutcome) : TcpSocket :=
  match socket.receive, outcome with
  | .reading _, .chunk true => socket
  | .reading false, .chunk false => { socket with receive := .yielded }
  | .reading _, _ => { socket with receive := .finished }.release
  | _, _ => socket

def dropReceive (socket : TcpSocket) : TcpSocket :=
  match socket.receive with
  | .unstarted => { socket with receive := .finished }
  | .reading _ => { socket with receive := .reading true }
  | .yielded => { socket with receive := .finished }.release
  | _ => socket

/-- `[Symbol.dispose]`. -/
def dispose (socket : TcpSocket) : TcpSocket :=
  if socket.handleDropped then socket
  else
    let dropped := { socket with handleDropped := true }
    if socket.state = .unbound ∨ socket.state = .bound ∨ socket.state = .connecting then
      { dropped with state := .closed }.release
    else dropped.release

/-- A call of the guest, or what the platform or the consumer of a stream does. -/
inductive Action where
  | bind (localAddress : IpSocketAddress)
  | connect (remoteAddress : IpSocketAddress)
  | dialSettles (number : Nat) (ok : Bool)
  | listen
  | listenSettles (number : Nat) (ok : Bool)
  | pull (number : Nat)
  | acceptResolves (number : Nat)
  | acceptRejects (number : Nat) (kind : SocketErrorKind)
  | dropStream (number : Nat)
  | send
  | sendEnds
  | receive
  | pullReceive
  | readEnds (outcome : ReadOutcome)
  | dropReceive
  | dispose
  deriving Repr, DecidableEq

/-- The socket after a call that changes nothing when it throws. -/
def unlessThrown (socket : TcpSocket) : Except ComponentError TcpSocket → TcpSocket
  | .ok next => next
  | .error _ => socket

def step : Action → TcpSocket → TcpSocket
  | .bind localAddress, socket => socket.unlessThrown (socket.bind localAddress)
  | .connect remoteAddress, socket => socket.unlessThrown (socket.connect remoteAddress)
  | .dialSettles number ok, socket => socket.dialSettles number ok
  | .listen, socket => socket.unlessThrown socket.listen
  | .listenSettles number ok, socket => socket.listenSettles number ok
  | .pull number, socket => socket.pull number
  | .acceptResolves number, socket => socket.acceptResolves number
  | .acceptRejects number kind, socket => socket.acceptRejects number kind
  | .dropStream number, socket => socket.dropStream number
  | .send, socket => socket.send
  | .sendEnds, socket => socket.sendEnds
  | .receive, socket => socket.receiveStarts
  | .pullReceive, socket => socket.pullReceive
  | .readEnds outcome, socket => socket.readEnds outcome
  | .dropReceive, socket => socket.dropReceive
  | .dispose, socket => socket.dispose

end TcpSocket

end Polyengine.Wasi.Tcp03
