import Mathlib.Logic.Function.Basic
import Polyengine.Library.Fallible
import Polyengine.Library.Transition
import Polyengine.Wasi.SocketAddress

/-!
# TCP sockets of the 0.2 track

The sockets of one host with the connections and listeners that the platform has handed out. A dial
and the bind of a listener complete later; the guest asks for them with `finish-connect` and
`finish-listen`.
-/

set_option autoImplicit false

namespace Polyengine.Wasi.Tcp02

open Polyengine.Library Polyengine.Wasi.Sockets

/-- Connections that wait in a listener past this bound are refused. -/
def MAX_QUEUED_CONNECTIONS : Nat := 64

/-- `DialState`; `socket` is the one whose `start-connect` made it. -/
structure DialState where
  socket : Nat
  done : Bool
  conn : Option Nat
  error : Option SocketErrorKind
  deriving Repr, DecidableEq

/-- A listener of the platform, and the `ListenState` over it: `bound` is how its bind ended,
`signals` counts the swaps of its wake promise, and `settled` and `error` are the fields of the
`ListenState`. -/
structure ListenState where
  bound : Option (Option SocketErrorKind)
  failure : Option SocketErrorKind
  closed : Bool
  queue : List Nat
  signals : Nat
  settled : Bool
  error : Option SocketErrorKind
  deriving Repr, DecidableEq

inductive SocketState where
  | unbound
  | bindInProgress
  | bound
  | connectInProgress
  | connected
  | listenInProgress
  | listening
  | closed
  deriving Repr, DecidableEq

def SocketState.text : SocketState → String
  | .unbound => "unbound"
  | .bindInProgress => "bind-in-progress"
  | .bound => "bound"
  | .connectInProgress => "connect-in-progress"
  | .connected => "connected"
  | .listenInProgress => "listen-in-progress"
  | .listening => "listening"
  | .closed => "closed"

/-- `dial`, `listen` and `conn` are the numbers of what they refer to. -/
structure TcpSocket02 where
  family : IpAddressFamily
  state : SocketState
  localRequest : Option IpSocketAddress
  dial : Option Nat
  listen : Option Nat
  conn : Option Nat
  deriving Repr, DecidableEq

/-- The sockets of a host, its dials and listeners, and whether each connection of the platform has
been closed. -/
structure Host where
  sockets : Nat → Option TcpSocket02
  nextSocket : Nat
  dials : Nat → Option DialState
  nextDial : Nat
  listens : Nat → Option ListenState
  nextListen : Nat
  connClosed : Nat → Bool
  nextConn : Nat

namespace ListenState

/-- A listener whose bind is under way. -/
def create : ListenState where
  bound := none
  failure := none
  closed := false
  queue := []
  signals := 0
  settled := false
  error := none

def acceptReady (listen : ListenState) : Bool :=
  !listen.queue.isEmpty || listen.failure.isSome || listen.closed

/-- `tryAccept`: the next connection, if there is one. -/
def tryAccept (listen : ListenState) :
    Except SocketErrorKind (Option Nat × ListenState) :=
  match listen.failure with
  | some kind => .error kind
  | none =>
      if listen.closed then .error .invalidState
      else
        match listen.queue with
        | [] => .ok (none, listen)
        | conn :: rest => .ok (some conn, { listen with queue := rest })

/-- The bind of the listener succeeds. -/
def comesUp (listen : ListenState) : ListenState :=
  match listen.bound with
  | none => { listen with bound := some none }
  | some _ => listen

/-- The `error` event of the listener, which also fails a bind that is under way. -/
def fails (listen : ListenState) (kind : SocketErrorKind) : ListenState :=
  { listen with
    bound := some (listen.bound.getD (some kind))
    failure := some kind
    signals := listen.signals + 1 }

/-- The reaction of `start-listen` to the end of the bind. -/
def settles (listen : ListenState) : ListenState :=
  match listen.settled, listen.bound with
  | false, some error => { listen with settled := true, error }
  | _, _ => listen

end ListenState

namespace Host

def empty : Host where
  sockets := fun _ => none
  nextSocket := 0
  dials := fun _ => none
  nextDial := 0
  listens := fun _ => none
  nextListen := 0
  connClosed := fun _ => false
  nextConn := 0

def setSocket (host : Host) (id : Nat) (socket : TcpSocket02) : Host :=
  { host with sockets := Function.update host.sockets id (some socket) }

def setDial (host : Host) (id : Nat) (dial : DialState) : Host :=
  { host with dials := Function.update host.dials id (some dial) }

def setListen (host : Host) (id : Nat) (listen : ListenState) : Host :=
  { host with listens := Function.update host.listens id (some listen) }

/-- `conn.close()`; closing again does nothing. -/
def closeConn (host : Host) (conn : Nat) : Host :=
  { host with connClosed := Function.update host.connClosed conn true }

def closeConns (host : Host) (conns : List Nat) : Host :=
  { host with connClosed := fun conn => decide (conn ∈ conns) || host.connClosed conn }

/-- `close` of a listener: it wakes whoever waits and refuses the connections in its queue. -/
def closeListen (host : Host) (id : Nat) : Host :=
  match host.listens id with
  | none => host
  | some listen =>
      if listen.closed then host
      else
        (host.setListen id
          { listen with closed := true, signals := listen.signals + 1, queue := [] }).closeConns
            listen.queue

def addSocket (host : Host) (socket : TcpSocket02) : Host :=
  { host.setSocket host.nextSocket socket with nextSocket := host.nextSocket + 1 }

/-- `createTcpSocket`. -/
def createTcpSocket (host : Host) (family : IpAddressFamily) : Host :=
  host.addSocket {
    family
    state := .unbound
    localRequest := none
    dial := none
    listen := none
    conn := none }

def validateLocal (family : IpAddressFamily) (localAddress : IpSocketAddress) (what : String) :
    Except SocketFailure Unit := do
  if isValidAddressFamily family localAddress = false then
    throw (.err02 .invalidArgument s!"{what}: address family mismatch (an {family.text} socket)")
  if localAddress.kind = .ipv6 ∧ localAddress.scopeId ≠ 0 then
    throw (.err02 .notSupported s!"{what}: non-zero scope-id")

/-- `start-bind` records the address. -/
def startBind (host : Host) (id : Nat) (socket : TcpSocket02) (localAddress : IpSocketAddress) :
    Except SocketFailure Host := do
  if socket.state ≠ .unbound then
    throw (.err02 .invalidState s!"tcp-socket.start-bind: not bindable from '{socket.state.text}'")
  validateLocal socket.family localAddress "tcp-socket.start-bind"
  return host.setSocket id
    { socket with localRequest := some localAddress, state := .bindInProgress }

def finishBind (host : Host) (id : Nat) (socket : TcpSocket02) : Except SocketFailure Host := do
  if socket.state ≠ .bindInProgress then
    throw (.err02 .notInProgress "tcp-socket.finish-bind: no bind in progress")
  return host.setSocket id { socket with state := .bound }

def startConnect (host : Host) (id : Nat) (socket : TcpSocket02) (remote : IpSocketAddress) :
    Except SocketFailure Host := do
  if socket.state ≠ .unbound ∧ socket.state ≠ .bound then
    throw (.err02 .invalidState
      s!"tcp-socket.start-connect: not connectable from '{socket.state.text}'")
  validateRemote socket.family remote "tcp-socket.start-connect"
  let dialed := host.setDial host.nextDial ⟨id, false, none, none⟩
  return { dialed.setSocket id
      { socket with dial := some host.nextDial, state := .connectInProgress } with
    nextDial := host.nextDial + 1 }

/-- The reaction of `start-connect` to the end of the dial; a connection that nobody will take is
closed. -/
def dialSettles (host : Host) (id : Nat) (error : Option SocketErrorKind) : Host :=
  match host.dials id with
  | none => host
  | some dial =>
      if dial.done then host
      else
        match error with
        | some kind => host.setDial id { dial with done := true, error := some kind }
        | none =>
            let settled :=
              { host.setDial id { dial with done := true, conn := some host.nextConn } with
                nextConn := host.nextConn + 1 }
            match host.sockets dial.socket with
            | some ⟨_, .connectInProgress, _, _, _, _⟩ => settled
            | _ => settled.closeConn host.nextConn

/-- `finish-connect`; `keepAlive` is the failure of the platform to apply the cached options. -/
def finishConnect (host : Host) (id : Nat) (socket : TcpSocket02)
    (keepAlive : Option SocketErrorKind) : Except (SocketFailure × Host) Host :=
  match socket.state, socket.dial.bind host.dials with
  | .connectInProgress, some dial =>
      if dial.done = false then
        .error (.err02 .wouldBlock "tcp-socket.finish-connect: the dial has not settled", host)
      else
        match dial.error, dial.conn with
        | none, some conn =>
            let connected := host.setSocket id
              { socket with conn := some conn, dial := none, state := .connected }
            match keepAlive with
            | none => .ok connected
            | some kind => .error (.err02 (toCode02 kind) "tcp-socket (applying keep-alive)", connected)
        | error, _ =>
            .error (.err02 (error.elim .unknown toCode02) "tcp-socket.finish-connect",
              host.setSocket id { socket with state := .closed, dial := none })
  | _, _ =>
      .error (.err02 .notInProgress "tcp-socket.finish-connect: no connect in progress", host)

def startListen (host : Host) (id : Nat) (socket : TcpSocket02) : Except SocketFailure Host := do
  if socket.state ≠ .unbound ∧ socket.state ≠ .bound then
    throw (.err02 .invalidState
      s!"tcp-socket.start-listen: not listenable from '{socket.state.text}'")
  let listened := host.setListen host.nextListen .create
  return { listened.setSocket id
      { socket with listen := some host.nextListen, state := .listenInProgress } with
    nextListen := host.nextListen + 1 }

def finishListen (host : Host) (id : Nat) (socket : TcpSocket02) :
    Except (SocketFailure × Host) Host :=
  match socket.state, socket.listen with
  | .listenInProgress, some number =>
      match host.listens number with
      | none => .error (.err02 .notInProgress "tcp-socket.finish-listen: no listen in progress", host)
      | some listen =>
          if listen.settled = false then
            .error
              (.err02 .wouldBlock "tcp-socket.finish-listen: the OS bind has not settled", host)
          else
            match listen.error with
            | some kind =>
                .error (.err02 (toCode02 kind) "tcp-socket.finish-listen",
                  (host.closeListen number).setSocket id
                    { socket with listen := none, state := .closed })
            | none => .ok (host.setSocket id { socket with state := .listening })
  | _, _ => .error (.err02 .notInProgress "tcp-socket.finish-listen: no listen in progress", host)

/-- `accept` makes a connected socket for the next connection. -/
def accept (host : Host) (socket : TcpSocket02) : Except SocketFailure Host :=
  match socket.state, socket.listen with
  | .listening, some number =>
      match host.listens number with
      | none => .error (.err02 .invalidState "tcp-socket.accept: the socket is not listening")
      | some listen =>
          match listen.tryAccept with
          | .error kind => .error (.err02 (toCode02 kind) "tcp-socket.accept")
          | .ok (none, _) =>
              .error (.err02 .wouldBlock "tcp-socket.accept: no pending connections")
          | .ok (some conn, rest) =>
              .ok ((host.setListen number rest).addSocket {
                family := socket.family
                state := .connected
                localRequest := none
                dial := none
                listen := none
                conn := some conn })
  | _, _ => .error (.err02 .invalidState "tcp-socket.accept: the socket is not listening")

/-- A connection reaches the listener, which refuses it when it is closed or full. -/
def connectionArrives (host : Host) (number : Nat) : Host :=
  match host.listens number with
  | none => host
  | some listen =>
      let obtained := { host with nextConn := host.nextConn + 1 }
      if listen.closed ∨ MAX_QUEUED_CONNECTIONS ≤ listen.queue.length then
        obtained.closeConn host.nextConn
      else
        obtained.setListen number
          { listen with queue := listen.queue ++ [host.nextConn], signals := listen.signals + 1 }

/-- `[Symbol.dispose]`. -/
def dispose (host : Host) (id : Nat) (socket : TcpSocket02) : Host :=
  let closed :=
    match socket.conn with
    | some conn => host.closeConn conn
    | none => host
  let disposed := closed.setSocket id { socket with state := .closed, conn := none, listen := none }
  match socket.listen with
  | some number => disposed.closeListen number
  | none => disposed

/-- A call of the guest on a socket, or an event of the platform. -/
inductive Action where
  | createTcpSocket (family : IpAddressFamily)
  | startBind (socket : Nat) (localAddress : IpSocketAddress)
  | finishBind (socket : Nat)
  | startConnect (socket : Nat) (remote : IpSocketAddress)
  | finishConnect (socket : Nat) (keepAlive : Option SocketErrorKind)
  | startListen (socket : Nat)
  | finishListen (socket : Nat)
  | accept (socket : Nat)
  | dispose (socket : Nat)
  | dialSettles (dial : Nat) (error : Option SocketErrorKind)
  | listenComesUp (listen : Nat)
  | listenFails (listen : Nat) (kind : SocketErrorKind)
  | listenSettles (listen : Nat)
  | connectionArrives (listen : Nat)
  deriving Repr, DecidableEq

/-- A call of the guest, which needs the socket. -/
def onSocket (host : Host) (id : Nat) (call : TcpSocket02 → Host) : Host :=
  match host.sockets id with
  | none => host
  | some socket => call socket

def onListen (host : Host) (number : Nat) (event : ListenState → ListenState) : Host :=
  match host.listens number with
  | none => host
  | some listen => host.setListen number (event listen)

/-- The host after a call that changes nothing when it throws. -/
def unlessThrown (host : Host) : Except SocketFailure Host → Host
  | .ok next => next
  | .error _ => host

/-- The host after a call that may change it before it throws. -/
def afterCall : Except (SocketFailure × Host) Host → Host
  | .ok next => next
  | .error (_, next) => next

def step : Action → Host → Host
  | .createTcpSocket family, host => host.createTcpSocket family
  | .startBind id localAddress, host =>
      host.onSocket id fun socket => host.unlessThrown (host.startBind id socket localAddress)
  | .finishBind id, host =>
      host.onSocket id fun socket => host.unlessThrown (host.finishBind id socket)
  | .startConnect id remote, host =>
      host.onSocket id fun socket => host.unlessThrown (host.startConnect id socket remote)
  | .finishConnect id keepAlive, host =>
      host.onSocket id fun socket => afterCall (host.finishConnect id socket keepAlive)
  | .startListen id, host =>
      host.onSocket id fun socket => host.unlessThrown (host.startListen id socket)
  | .finishListen id, host =>
      host.onSocket id fun socket => afterCall (host.finishListen id socket)
  | .accept id, host => host.onSocket id fun socket => host.unlessThrown (host.accept socket)
  | .dispose id, host => host.onSocket id fun socket => host.dispose id socket
  | .dialSettles dial error, host => host.dialSettles dial error
  | .listenComesUp listen, host => host.onListen listen (·.comesUp)
  | .listenFails listen kind, host => host.onListen listen (·.fails kind)
  | .listenSettles listen, host => host.onListen listen (·.settles)
  | .connectionArrives listen, host => host.connectionArrives listen

end Host

end Polyengine.Wasi.Tcp02
