import Polyengine.Library.Fallible
import Polyengine.Library.Transition
import Polyengine.Wasi.SocketAddress

/-!
# The datagram streams of a UDP socket

A bound 0.2 socket and the stream pairs it has minted, over a datagram socket of the platform. The
pair is replaced at once; the association of the platform's socket is changed by calls that complete
later or fail, and whose failures nobody looks at.
-/

set_option autoImplicit false

namespace Polyengine.Wasi.Udp

open Polyengine.Library Polyengine.Wasi.Sockets

/-- The connect state of the platform's socket. -/
inductive Association where
  | disconnected
  | connecting (remote : NetAddr)
  | connected (remote : NetAddr)
  deriving Repr, DecidableEq

namespace Association

/-- `connect` rejects while an earlier one is in force or under way. -/
def connect (association : Association) (remote : NetAddr) : Association :=
  match association with
  | .disconnected => .connecting remote
  | .connecting other => .connecting other
  | .connected other => .connected other

/-- A connect under way completes. -/
def settle (association : Association) (succeeds : Bool) : Association :=
  match association with
  | .connecting remote => if succeeds then .connected remote else .disconnected
  | other => other

/-- `disconnect` throws unless a connect is in force. -/
def disconnect : Association → Association
  | .connected _ => .disconnected
  | other => other

/-- Where `send` sends a datagram: a connected socket takes no address, any other needs one. -/
def destination (association : Association) (addr : Option NetAddr) : Option NetAddr :=
  match association, addr with
  | .connected remote, none => some remote
  | .connected _, some _ => none
  | _, addr => addr

end Association

def MAX_UDP_DATAGRAM_SIZE : Nat := 65535

def CHECK_SEND_PERMIT : Nat := 64

/-- Queued datagrams past this bound are dropped. -/
def MAX_QUEUED_DATAGRAMS : Nat := 256

structure IncomingDatagram where
  data : List UInt8
  remoteAddress : IpSocketAddress
  deriving Repr, DecidableEq

structure OutgoingDatagram where
  data : List UInt8
  remoteAddress : Option IpSocketAddress
  deriving Repr, DecidableEq

/-- `UdpStreams` with the `#failure` of the outgoing stream of the pair. -/
structure UdpStreams where
  generation : Nat
  remote : Option IpSocketAddress
  failure : Option SocketErrorCode02
  deriving Repr, DecidableEq

/-- A datagram handed to the platform: the pair's remote, its own address, and where the platform
sends it, if it does. -/
structure HandedDatagram where
  pairRemote : Option IpSocketAddress
  ownAddress : Option IpSocketAddress
  data : List UInt8
  destination : Option NetAddr
  deriving Repr, DecidableEq

structure ReturnedDatagram where
  pairRemote : Option IpSocketAddress
  datagram : IncomingDatagram
  deriving Repr, DecidableEq

/-- `pairs` are all stream pairs minted so far, in the order of their generations; `streams` is the
generation of the current one. `signals` counts the swaps of the wake promise of the platform's
socket. The last three fields record what arrived, what was handed to the
platform and what was returned to the guest. -/
structure UdpSocket02 where
  family : IpAddressFamily
  bound : Bool
  generation : Nat
  streams : Option Nat
  association : Association
  connClosed : Bool
  connFailure : Option SocketErrorCode02
  queue : List (List UInt8 × NetAddr)
  signals : Nat
  pairs : List UdpStreams
  arrived : List IncomingDatagram
  handed : List HandedDatagram
  returned : List ReturnedDatagram
  deriving Repr, DecidableEq

namespace UdpSocket02

def bind (family : IpAddressFamily) : UdpSocket02 where
  family := family
  bound := true
  generation := 0
  streams := none
  association := .disconnected
  connClosed := false
  connFailure := none
  queue := []
  signals := 0
  pairs := []
  arrived := []
  handed := []
  returned := []

def currentRemote (socket : UdpSocket02) : Option IpSocketAddress := do
  let generation ← socket.streams
  let pair ← socket.pairs.find? fun pair => pair.generation == generation
  pair.remote

def stream (socket : UdpSocket02) (remoteAddress : Option IpSocketAddress) :
    Except SocketFailure UdpSocket02 := do
  if socket.bound = false then
    throw (.err02 .invalidState "udp-socket.stream: the socket is not bound")
  match remoteAddress with
  | some remote => validateRemote socket.family remote "udp-socket.stream"
  | none => pure ()
  let wasConnected := socket.currentRemote.isSome
  return { socket with
    generation := socket.generation + 1
    streams := some (socket.generation + 1)
    pairs := socket.pairs ++ [⟨socket.generation + 1, remoteAddress, none⟩]
    association :=
      match remoteAddress with
      | some remote => socket.association.connect (toNetAddr remote)
      | none =>
          if wasConnected then socket.association.disconnect else socket.association }

/-- Whether a pair is the current one. -/
def live (socket : UdpSocket02) (generation : Nat) : Bool :=
  decide (socket.streams = some generation) && socket.bound

/-- The loop of `receive`: datagrams from elsewhere than the remote of the pair are dropped. -/
def takeDatagrams (remote : Option IpSocketAddress) :
    Nat → List (List UInt8 × NetAddr) → List IncomingDatagram × List (List UInt8 × NetAddr)
  | 0, queue => ([], queue)
  | _ + 1, [] => ([], [])
  | max + 1, (data, addr) :: rest =>
      let source := parseNetAddr addr
      if remote.any fun remote => !sameSocketAddress source remote then
        takeDatagrams remote (max + 1) rest
      else
        let (out, left) := takeDatagrams remote max rest
        (⟨data, source⟩ :: out, left)

/-- The failure of `tryReceive`. -/
def tryReceiveFailure (socket : UdpSocket02) : Option SocketErrorCode02 :=
  match socket.connFailure with
  | some code => some code
  | none => if socket.connClosed then some .invalidState else none

/-- `receive` of the incoming stream of a pair. -/
def receive (socket : UdpSocket02) (pair : UdpStreams) (maxResults : Nat) :
    Except SocketFailure (List IncomingDatagram × UdpSocket02) := do
  if socket.live pair.generation = false then
    throw (.err02 .invalidState "incoming-datagram-stream.receive: stale stream")
  if maxResults = 0 then return ([], socket)
  match socket.tryReceiveFailure with
  | some code => throw (.err02 code "incoming-datagram-stream.receive")
  | none =>
      let (out, left) := takeDatagrams pair.remote maxResults socket.queue
      return (out, { socket with
        queue := left
        returned := socket.returned ++ out.map fun datagram => ⟨pair.remote, datagram⟩ })

def clearFailure (socket : UdpSocket02) (index : Nat) : UdpSocket02 :=
  { socket with pairs := socket.pairs.modify index fun pair => { pair with failure := none } }

/-- `#checkLive` of the outgoing stream of a pair; a reported failure is forgotten. -/
def checkLive (socket : UdpSocket02) (pair : UdpStreams) (what : String) :
    Except SocketFailure Unit := do
  if socket.live pair.generation = false then
    throw (.err02 .invalidState s!"outgoing-datagram-stream.{what}: stale stream")
  match pair.failure with
  | some code =>
      throw (.err02 code s!"outgoing-datagram-stream.{what}: an earlier send failed")
  | none => pure ()

def checkSend (socket : UdpSocket02) (pair : UdpStreams) : Except SocketFailure Nat := do
  socket.checkLive pair "check-send"
  return CHECK_SEND_PERMIT

/-- The checks of `send` on one datagram. -/
def checkDatagram (family : IpAddressFamily) (connected : Option IpSocketAddress)
    (datagram : OutgoingDatagram) : Except SocketFailure Unit := do
  if MAX_UDP_DATAGRAM_SIZE < datagram.data.length then
    throw (.err02 .datagramTooLarge
      s!"outgoing-datagram-stream.send: {datagram.data.length} bytes")
  match connected, datagram.remoteAddress with
  | some connected, some remote =>
      if sameSocketAddress remote connected = false then
        throw (.err02 .invalidArgument "outgoing-datagram-stream.send: a remote-address that does not match the connected remote")
  | some _, none => pure ()
  | none, none =>
      throw (.err02 .invalidArgument
        "outgoing-datagram-stream.send: no remote-address on an unconnected stream")
  | none, some remote => validateRemote family remote "outgoing-datagram-stream.send"

def handOver (association : Association) (connected : Option IpSocketAddress)
    (datagram : OutgoingDatagram) : HandedDatagram :=
  let dest := if connected.isSome then none else datagram.remoteAddress.map toNetAddr
  ⟨connected, datagram.remoteAddress, datagram.data, association.destination dest⟩

/-- `send` of the outgoing stream of a pair. -/
def send (socket : UdpSocket02) (pair : UdpStreams) (datagrams : List OutgoingDatagram) :
    Except SocketFailure (Nat × UdpSocket02) := do
  socket.checkLive pair "send"
  if CHECK_SEND_PERMIT < datagrams.length then
    throw (.trap s!"outgoing-datagram-stream.send: {datagrams.length} datagrams exceed the check-send permit")
  datagrams.forM (checkDatagram socket.family pair.remote)
  return (datagrams.length, { socket with
    handed := socket.handed ++ datagrams.map (handOver socket.association pair.remote) })

def arrive (socket : UdpSocket02) (data : List UInt8) (source : NetAddr) : UdpSocket02 :=
  let dropped := socket.connClosed ∨ MAX_QUEUED_DATAGRAMS ≤ socket.queue.length
  { socket with
    arrived := socket.arrived ++ [⟨data, parseNetAddr source⟩]
    queue := if dropped then socket.queue else socket.queue ++ [(data, source)]
    signals := if dropped then socket.signals else socket.signals + 1 }

def dispose (socket : UdpSocket02) : UdpSocket02 :=
  { socket with
    bound := false
    streams := none
    connClosed := true
    signals := if socket.connClosed then socket.signals else socket.signals + 1 }

/-- A call of the guest on the socket or on one of the pairs it holds, or an event of the platform:
the completion of a connect, an error of the socket, a datagram, or the failure of a send. -/
inductive Action where
  | stream (remoteAddress : Option IpSocketAddress)
  | receive (pair : Nat) (maxResults : Nat)
  | checkSend (pair : Nat)
  | send (pair : Nat) (datagrams : List OutgoingDatagram)
  | connectSettles (succeeds : Bool)
  | socketFails (kind : SocketErrorKind)
  | arrive (data : List UInt8) (source : NetAddr)
  | sendFails (pair : Nat) (kind : SocketErrorKind)
  | dispose
  deriving Repr, DecidableEq

/-- What a call that throws leaves behind: an outgoing stream forgets the failure it has reported. -/
def afterFailure (socket : UdpSocket02) (index : Nat) (pair : UdpStreams) : UdpSocket02 :=
  if socket.live pair.generation ∧ pair.failure.isSome then socket.clearFailure index else socket

def step : Action → UdpSocket02 → UdpSocket02
  | .stream remoteAddress, socket =>
      match socket.stream remoteAddress with
      | .ok next => next
      | .error _ => socket
  | .receive index maxResults, socket =>
      match socket.pairs[index]? with
      | none => socket
      | some pair =>
          match socket.receive pair maxResults with
          | .ok (_, next) => next
          | .error _ => socket
  | .checkSend index, socket =>
      match socket.pairs[index]? with
      | none => socket
      | some pair =>
          match socket.checkSend pair with
          | .ok _ => socket
          | .error _ => socket.afterFailure index pair
  | .send index datagrams, socket =>
      match socket.pairs[index]? with
      | none => socket
      | some pair =>
          match socket.send pair datagrams with
          | .ok (_, next) => next
          | .error _ => socket.afterFailure index pair
  | .connectSettles succeeds, socket =>
      { socket with association := socket.association.settle succeeds }
  | .socketFails kind, socket =>
      { socket with connFailure := some (toCode02 kind), signals := socket.signals + 1 }
  | .arrive data source, socket => socket.arrive data source
  | .sendFails index kind, socket =>
      { socket with
        pairs := socket.pairs.modify index fun pair =>
          { pair with failure := some (pair.failure.getD (toCode02 kind)) } }
  | .dispose, socket => socket.dispose

end UdpSocket02

/-! ## Where datagrams go -/

/-- The platform sends the datagram to the remote of the connected pair it was sent on, or to its own
address if the pair is not connected. -/
def HandedDatagram.ReachesPeer (datagram : HandedDatagram) : Prop :=
  match datagram.pairRemote with
  | some remote =>
      ∃ addr, datagram.destination = some addr ∧ sameSocketAddress (parseNetAddr addr) remote = true
  | none => ∃ own, datagram.ownAddress = some own ∧ datagram.destination = some (toNetAddr own)

namespace UdpSocket02

def Routed (socket : UdpSocket02) : Prop := ∀ datagram ∈ socket.handed, datagram.ReachesPeer

/-- The association of the platform's socket is the one that a pair asks for. -/
def Associated (association : Association) : Option IpSocketAddress → Prop
  | some remote =>
      ∃ addr, association = .connected addr ∧ sameSocketAddress (parseNetAddr addr) remote = true
  | none => ∀ addr, association ≠ .connected addr

/-- The checks that a call of `send` has to pass. -/
def Accepts (socket : UdpSocket02) (pair : UdpStreams) (datagrams : List OutgoingDatagram) : Prop :=
  socket.live pair.generation = true ∧ pair.failure = none ∧
    datagrams.length ≤ CHECK_SEND_PERMIT ∧
    ∀ datagram ∈ datagrams, checkDatagram socket.family pair.remote datagram = .ok ()

def SendsAssociated (socket : UdpSocket02) (action : Action) : Prop :=
  ∀ index datagrams pair, action = .send index datagrams → socket.pairs[index]? = some pair →
    socket.Accepts pair datagrams → datagrams ≠ [] → Associated socket.association pair.remote

theorem forM_ok_iff {Item : Type} {check : Item → Except SocketFailure Unit} {items : List Item} :
    items.forM check = .ok () ↔ ∀ item ∈ items, check item = .ok () := by
  induction items with
  | nil => exact ⟨fun _ => nofun, fun _ => rfl⟩
  | cons item rest ih =>
      have unfolded : (item :: rest).forM check = (check item >>= fun _ => rest.forM check) := rfl
      rw [unfolded, List.forall_mem_cons, ← ih]
      cases checked : check item with
      | error failure => exact ⟨nofun, fun both => nomatch both.1⟩
      | ok value => exact ⟨fun rest => ⟨rfl, rest⟩, fun both => both.2⟩

theorem checkLive_ok_iff {socket : UdpSocket02} {pair : UdpStreams} {what : String} :
    socket.checkLive pair what = .ok () ↔
      socket.live pair.generation = true ∧ pair.failure = none := by
  unfold checkLive
  cases live : socket.live pair.generation with
  | false => exact ⟨nofun, fun both => nomatch both.1⟩
  | true =>
      cases failed : pair.failure with
      | none => exact ⟨fun _ => ⟨rfl, rfl⟩, fun _ => rfl⟩
      | some code => exact ⟨nofun, fun both => nomatch both.2⟩

theorem send_of_accepts {socket : UdpSocket02} {pair : UdpStreams}
    {datagrams : List OutgoingDatagram} (accepts : socket.Accepts pair datagrams) :
    socket.send pair datagrams = .ok (datagrams.length, { socket with
      handed := socket.handed ++ datagrams.map (handOver socket.association pair.remote) }) := by
  obtain ⟨live, unfailed, few, checked⟩ := accepts
  unfold send
  rw [checkLive_ok_iff.mpr ⟨live, unfailed⟩, forM_ok_iff.mpr checked,
    if_neg (Nat.not_lt.mpr few)]
  rfl

theorem accepts_of_send {socket next : UdpSocket02} {pair : UdpStreams}
    {datagrams : List OutgoingDatagram} {count : Nat}
    (sent : socket.send pair datagrams = .ok (count, next)) : socket.Accepts pair datagrams := by
  unfold send at sent
  obtain ⟨_, checked, sent⟩ := Fallible.bind_ok sent
  obtain ⟨live, unfailed⟩ := checkLive_ok_iff.mp checked
  by_cases many : CHECK_SEND_PERMIT < datagrams.length
  · rw [if_pos many] at sent
    cases sent
  · rw [if_neg many] at sent
    obtain ⟨_, checked, _⟩ := Fallible.bind_ok sent
    exact ⟨live, unfailed, Nat.not_lt.mp many, forM_ok_iff.mp checked⟩

/-- The socket after `stream`. -/
def streamed (socket : UdpSocket02) (remoteAddress : Option IpSocketAddress) : UdpSocket02 :=
  { socket with
    generation := socket.generation + 1
    streams := some (socket.generation + 1)
    pairs := socket.pairs ++ [⟨socket.generation + 1, remoteAddress, none⟩]
    association :=
      match remoteAddress with
      | some remote => socket.association.connect (toNetAddr remote)
      | none =>
          if socket.currentRemote.isSome then socket.association.disconnect
          else socket.association }

theorem stream_ok {socket next : UdpSocket02} {remoteAddress : Option IpSocketAddress}
    (called : socket.stream remoteAddress = .ok next) : next = socket.streamed remoteAddress := by
  unfold stream at called
  cases bound : socket.bound with
  | false =>
      rw [bound] at called
      cases called
  | true =>
      rw [bound] at called
      cases remoteAddress with
      | none =>
          cases called
          simp [streamed, bound]
      | some remote =>
          obtain ⟨_, _, called⟩ := Fallible.bind_ok called
          cases called
          simp [streamed, bound]

theorem receive_ok {socket next : UdpSocket02} {pair : UdpStreams} {maxResults : Nat}
    {out : List IncomingDatagram} (called : socket.receive pair maxResults = .ok (out, next)) :
    socket.live pair.generation = true ∧
      out = (takeDatagrams pair.remote maxResults socket.queue).1 ∧
      next = { socket with
        queue := (takeDatagrams pair.remote maxResults socket.queue).2
        returned := socket.returned ++ out.map fun datagram => ⟨pair.remote, datagram⟩ } := by
  unfold receive at called
  cases live : socket.live pair.generation with
  | false =>
      rw [live] at called
      cases called
  | true =>
      rw [live] at called
      cases maxResults with
      | zero =>
          cases called
          simp [takeDatagrams]
      | succ max =>
          cases failed : socket.tryReceiveFailure with
          | some code =>
              simp only [failed] at called
              cases called
          | none =>
              simp only [failed] at called
              cases called
              exact ⟨rfl, rfl, rfl⟩

theorem handOver_reachesPeer_iff {family : IpAddressFamily} {association : Association}
    {connected : Option IpSocketAddress} {datagram : OutgoingDatagram}
    (checked : checkDatagram family connected datagram = .ok ()) :
    (handOver association connected datagram).ReachesPeer ↔ Associated association connected := by
  cases connected with
  | some remote =>
      cases association with
      | connected addr => simp [handOver, HandedDatagram.ReachesPeer, Associated,
          Association.destination]
      | connecting addr => simp [handOver, HandedDatagram.ReachesPeer, Associated,
          Association.destination]
      | disconnected => simp [handOver, HandedDatagram.ReachesPeer, Associated,
          Association.destination]
  | none =>
      cases own : datagram.remoteAddress with
      | none =>
          unfold checkDatagram at checked
          rw [own] at checked
          by_cases large : MAX_UDP_DATAGRAM_SIZE < datagram.data.length
          · rw [if_pos large] at checked
            cases checked
          · rw [if_neg large] at checked
            cases checked
      | some address =>
          cases association with
          | connected addr => simp [handOver, HandedDatagram.ReachesPeer, Associated, own,
              Association.destination]
          | connecting addr => simp [handOver, HandedDatagram.ReachesPeer, Associated, own,
              Association.destination]
          | disconnected => simp [handOver, HandedDatagram.ReachesPeer, Associated, own,
              Association.destination]

theorem routed_append {socket : UdpSocket02} {pair : UdpStreams}
    {datagrams : List OutgoingDatagram} (accepts : socket.Accepts pair datagrams)
    (routed : socket.Routed) :
    Routed { socket with
        handed := socket.handed ++ datagrams.map (handOver socket.association pair.remote) } ↔
      (datagrams ≠ [] → Associated socket.association pair.remote) := by
  have reaches : ∀ datagram ∈ datagrams,
      ((handOver socket.association pair.remote datagram).ReachesPeer ↔
        Associated socket.association pair.remote) := fun datagram member =>
    handOver_reachesPeer_iff (accepts.2.2.2 datagram member)
  constructor
  · intro routed' nonempty
    obtain ⟨datagram, member⟩ := List.exists_mem_of_ne_nil datagrams nonempty
    apply (reaches datagram member).mp
    exact routed' _ (List.mem_append_right _ (List.mem_map_of_mem member))
  · intro associated handed member
    obtain old | new := List.mem_append.mp member
    · exact routed handed old
    · obtain ⟨datagram, included, rfl⟩ := List.mem_map.mp new
      exact (reaches datagram included).mpr (associated (List.ne_nil_of_mem included))

theorem step_send {socket : UdpSocket02} {index : Nat} {pair : UdpStreams}
    (found : socket.pairs[index]? = some pair) (datagrams : List OutgoingDatagram) :
    step (.send index datagrams) socket =
      match socket.send pair datagrams with
      | .ok (_, next) => next
      | .error _ => socket.afterFailure index pair := by
  simp only [step, found]

/-- What an action leads to. -/
inductive Steps (socket : UdpSocket02) : Action → UdpSocket02 → Prop where
  | unchanged (action : Action) : Steps socket action socket
  | streamed (remoteAddress : Option IpSocketAddress) :
      Steps socket (.stream remoteAddress) (socket.streamed remoteAddress)
  | received (index maxResults : Nat) (pair : UdpStreams) :
      Steps socket (.receive index maxResults) { socket with
        queue := (takeDatagrams pair.remote maxResults socket.queue).2
        returned := socket.returned ++
          (takeDatagrams pair.remote maxResults socket.queue).1.map fun datagram =>
            ⟨pair.remote, datagram⟩ }
  | reported (action : Action) (index : Nat) (pair : UdpStreams) :
      Steps socket action (socket.afterFailure index pair)
  | sent (index : Nat) (datagrams : List OutgoingDatagram) (pair : UdpStreams) :
      Steps socket (.send index datagrams) { socket with
        handed := socket.handed ++ datagrams.map (handOver socket.association pair.remote) }
  | connectSettled (succeeds : Bool) :
      Steps socket (.connectSettles succeeds)
        { socket with association := socket.association.settle succeeds }
  | socketFailed (kind : SocketErrorKind) :
      Steps socket (.socketFails kind)
        { socket with connFailure := some (toCode02 kind), signals := socket.signals + 1 }
  | arrived (data : List UInt8) (source : NetAddr) :
      Steps socket (.arrive data source) (socket.arrive data source)
  | sendFailed (index : Nat) (kind : SocketErrorKind) :
      Steps socket (.sendFails index kind)
        { socket with
          pairs := socket.pairs.modify index fun pair =>
            { pair with failure := some (pair.failure.getD (toCode02 kind)) } }
  | disposed : Steps socket .dispose socket.dispose

theorem steps (action : Action) (socket : UdpSocket02) :
    Steps socket action (step action socket) := by
  cases action with
  | stream remoteAddress =>
      simp only [step]
      cases called : socket.stream remoteAddress with
      | error failure => exact .unchanged _
      | ok next =>
          cases stream_ok called
          exact .streamed remoteAddress
  | receive index maxResults =>
      simp only [step]
      cases found : socket.pairs[index]? with
      | none => exact .unchanged _
      | some pair =>
          cases called : socket.receive pair maxResults with
          | error failure => simpa only [called] using .unchanged _
          | ok result =>
              obtain ⟨_, out, next⟩ := receive_ok called
              simp only [called, next, out]
              exact .received index maxResults pair
  | checkSend index =>
      simp only [step]
      cases found : socket.pairs[index]? with
      | none => exact .unchanged _
      | some pair =>
          cases called : socket.checkSend pair with
          | error failure => simpa only [called] using .reported _ index pair
          | ok result => simpa only [called] using .unchanged _
  | send index datagrams =>
      cases found : socket.pairs[index]? with
      | none => simpa only [step, found] using .unchanged _
      | some pair =>
          rw [step_send found]
          cases called : socket.send pair datagrams with
          | error failure => exact .reported _ index pair
          | ok result =>
              rw [send_of_accepts (accepts_of_send called)] at called
              cases called
              exact .sent index datagrams pair
  | connectSettles succeeds => exact .connectSettled succeeds
  | socketFails kind => exact .socketFailed kind
  | arrive data source => exact .arrived data source
  | sendFails index kind => exact .sendFailed index kind
  | dispose => exact .disposed

theorem afterFailure_handed (socket : UdpSocket02) (index : Nat) (pair : UdpStreams) :
    (socket.afterFailure index pair).handed = socket.handed := by
  unfold afterFailure
  split <;> rfl

theorem handed_step {action : Action} (socket : UdpSocket02)
    (quiet : ∀ index datagrams, action ≠ .send index datagrams) :
    (step action socket).handed = socket.handed := by
  have taken := steps action socket
  generalize step action socket = next at taken ⊢
  cases taken with
  | reported action index pair => exact afterFailure_handed socket index pair
  | sent index datagrams pair => exact absurd rfl (quiet index datagrams)
  | unchanged | streamed | received | connectSettled | socketFailed | arrived | sendFailed
  | disposed => rfl

theorem routed_step_iff (action : Action) (socket : UdpSocket02) (routed : socket.Routed) :
    (step action socket).Routed ↔ socket.SendsAssociated action := by
  by_cases sends : ∃ index datagrams, action = .send index datagrams
  · obtain ⟨index, datagrams, rfl⟩ := sends
    cases found : socket.pairs[index]? with
    | none =>
        have same : step (.send index datagrams) socket = socket := by simp only [step, found]
        rw [same]
        refine iff_of_true routed ?_
        rintro _ _ pair ⟨⟩ present
        rw [found] at present
        cases present
    | some pair =>
        by_cases accepts : socket.Accepts pair datagrams
        · rw [step_send found, send_of_accepts accepts]
          refine (routed_append accepts routed).trans ?_
          constructor
          · rintro associated _ _ _ ⟨⟩ present _ nonempty
            rw [found] at present
            cases present
            exact associated nonempty
          · intro allowed nonempty
            exact allowed index datagrams pair rfl found accepts nonempty
        · cases called : socket.send pair datagrams with
          | ok result => exact absurd (accepts_of_send called) accepts
          | error failure =>
              rw [step_send found, called]
              constructor
              · rintro _ _ _ _ ⟨⟩ present accepted
                rw [found] at present
                cases present
                exact absurd accepted accepts
              · intro _
                simpa only [Routed, afterFailure_handed] using routed
  · have quiet : ∀ index datagrams, action ≠ .send index datagrams := fun index datagrams same =>
      sends ⟨index, datagrams, same⟩
    refine iff_of_true ?_ fun index datagrams _ same => absurd same (quiet index datagrams)
    simpa only [Routed, handed_step socket quiet] using routed

theorem handed_mono (action : Action) (socket : UdpSocket02) :
    ∀ datagram ∈ socket.handed, datagram ∈ (step action socket).handed := by
  intro datagram member
  have taken := steps action socket
  generalize step action socket = next at taken ⊢
  cases taken with
  | reported action index pair =>
      rw [afterFailure_handed]
      exact member
  | sent index datagrams pair => exact List.mem_append_left _ member
  | unchanged | streamed | received | connectSettled | socketFailed | arrived | sendFailed
  | disposed => exact member

/-! ## What comes back, and which pair may be used -/

theorem takeDatagrams_spec (remote : Option IpSocketAddress) (max : Nat)
    (queue : List (List UInt8 × NetAddr)) :
    let incoming := fun item : List UInt8 × NetAddr => IncomingDatagram.mk item.1 (parseNetAddr item.2)
    let taken := takeDatagrams remote max queue
    (∀ datagram ∈ taken.1, ∀ peer, remote = some peer →
        sameSocketAddress datagram.remoteAddress peer = true) ∧
      (taken.1 ++ taken.2.map incoming).Sublist (queue.map incoming) := by
  intro incoming
  fun_induction takeDatagrams remote max queue with
  | case1 queue => exact ⟨nofun, List.Sublist.refl _⟩
  | case2 max => exact ⟨nofun, List.Sublist.refl _⟩
  | case3 max data addr rest source foreign ih =>
      obtain ⟨peers, ordered⟩ := ih
      exact ⟨peers, ordered.trans (List.sublist_cons_self _ _)⟩
  | case4 max data addr rest source own out left taken ih =>
      simp only [taken] at ih
      obtain ⟨peers, ordered⟩ := ih
      refine ⟨?_, ordered.cons_cons _⟩
      intro datagram member peer isPeer
      obtain first | later := List.mem_cons.mp member
      · subst first isPeer
        simpa using own
      · exact peers datagram later peer isPeer

/-- Everything returned on a connected pair came from its remote, and datagrams are returned in the
order in which they arrived. -/
structure ReturnsFromPeer (socket : UdpSocket02) : Prop where
  fromPeer : ∀ item ∈ socket.returned, ∀ remote, item.pairRemote = some remote →
    sameSocketAddress item.datagram.remoteAddress remote = true
  ordered : (socket.returned.map (·.datagram)).Sublist socket.arrived

/-- Every operation on a replaced pair fails with `invalid-state`. -/
def RefusesReplaced (socket : UdpSocket02) : Prop :=
  ∀ index pair, socket.pairs[index]? = some pair → index + 1 < socket.pairs.length →
    (∀ maxResults, ∃ detail, socket.receive pair maxResults = .error (.err02 .invalidState detail)) ∧
      (∃ detail, socket.checkSend pair = .error (.err02 .invalidState detail)) ∧
      ∀ datagrams, ∃ detail, socket.send pair datagrams = .error (.err02 .invalidState detail)

structure Sound (socket : UdpSocket02) : Prop where
  numbered : ∀ (index : Nat) (pair : UdpStreams), socket.pairs[index]? = some pair →
    pair.generation = index + 1
  counted : socket.generation = socket.pairs.length
  current : ∀ generation, socket.streams = some generation → generation = socket.pairs.length
  fromPeer : ∀ item ∈ socket.returned, ∀ remote, item.pairRemote = some remote →
    sameSocketAddress item.datagram.remoteAddress remote = true
  queued : (socket.returned.map (·.datagram) ++
    socket.queue.map fun item => IncomingDatagram.mk item.1 (parseNetAddr item.2)).Sublist
      socket.arrived

namespace Sound

variable {socket : UdpSocket02}

theorem bind (family : IpAddressFamily) : (bind family).Sound where
  numbered := nofun
  counted := rfl
  current := nofun
  fromPeer := nofun
  queued := List.Sublist.refl _

theorem modifyPair (sound : socket.Sound) (index : Nat) (change : UdpStreams → UdpStreams)
    (kept : ∀ pair, (change pair).generation = pair.generation) :
    Sound { socket with pairs := socket.pairs.modify index change } where
  numbered := by
    intro other pair present
    rw [List.getElem?_modify] at present
    cases found : socket.pairs[other]? with
    | none =>
        rw [found] at present
        split at present <;> cases present
    | some original =>
        rw [found] at present
        have number := sound.numbered other original found
        split at present
        · cases present
          exact (kept original).trans number
        · cases present
          exact number
  counted := sound.counted.trans (List.length_modify _ _ _).symm
  current := fun generation isCurrent =>
    (sound.current generation isCurrent).trans (List.length_modify _ _ _).symm
  fromPeer := sound.fromPeer
  queued := sound.queued

theorem afterFailure (sound : socket.Sound) (index : Nat) (pair : UdpStreams) :
    (socket.afterFailure index pair).Sound := by
  unfold UdpSocket02.afterFailure
  split
  · exact sound.modifyPair index _ fun _ => rfl
  · exact sound

theorem streamed (sound : socket.Sound) (remoteAddress : Option IpSocketAddress) :
    (socket.streamed remoteAddress).Sound where
  numbered := by
    intro index pair present
    obtain old | new := Nat.lt_or_ge index socket.pairs.length
    · exact sound.numbered index pair ((List.getElem?_append_left old).symm.trans present)
    · have last : index = socket.pairs.length := by
        have bound := (List.getElem?_eq_some_iff.mp present).1
        simp only [UdpSocket02.streamed, List.length_append, List.length_singleton] at bound
        omega
      subst last
      simp only [UdpSocket02.streamed, List.getElem?_concat_length, Option.some.injEq] at present
      subst present
      exact congrArg (· + 1) sound.counted
  counted := by simp [UdpSocket02.streamed, sound.counted]
  current := by
    rintro generation ⟨⟩
    simp [UdpSocket02.streamed, sound.counted]
  fromPeer := sound.fromPeer
  queued := sound.queued

theorem received (sound : socket.Sound) (pair : UdpStreams) (maxResults : Nat) :
    Sound { socket with
      queue := (takeDatagrams pair.remote maxResults socket.queue).2
      returned := socket.returned ++
        (takeDatagrams pair.remote maxResults socket.queue).1.map
          fun datagram => ⟨pair.remote, datagram⟩ } := by
  obtain ⟨peers, ordered⟩ := takeDatagrams_spec pair.remote maxResults socket.queue
  exact
    { numbered := sound.numbered
      counted := sound.counted
      current := sound.current
      fromPeer := by
        intro item member remote isRemote
        obtain old | new := List.mem_append.mp member
        · exact sound.fromPeer item old remote isRemote
        · obtain ⟨datagram, included, rfl⟩ := List.mem_map.mp new
          exact peers datagram included remote isRemote
      queued := by
        have appended := (List.Sublist.refl (socket.returned.map (·.datagram))).append ordered
        simp only [List.map_append, List.map_map, List.append_assoc]
        have same : ((fun item : ReturnedDatagram => item.datagram) ∘
            fun datagram => ⟨pair.remote, datagram⟩) = id := rfl
        rw [same, List.map_id]
        exact appended.trans sound.queued }

theorem arrive (sound : socket.Sound) (data : List UInt8) (source : NetAddr) :
    (socket.arrive data source).Sound where
  numbered := sound.numbered
  counted := sound.counted
  current := sound.current
  fromPeer := sound.fromPeer
  queued := by
    simp only [UdpSocket02.arrive]
    split
    · exact sound.queued.trans (List.sublist_append_left _ _)
    · rw [List.map_append, ← List.append_assoc]
      exact sound.queued.append (List.Sublist.refl _)

theorem step (sound : socket.Sound) (action : Action) : (step action socket).Sound := by
  have taken := steps action socket
  generalize UdpSocket02.step action socket = next at taken ⊢
  cases taken with
  | unchanged => exact sound
  | streamed remoteAddress => exact sound.streamed remoteAddress
  | received index maxResults pair => exact sound.received pair maxResults
  | reported action index pair => exact sound.afterFailure index pair
  | arrived data source => exact sound.arrive data source
  | sendFailed index kind => exact sound.modifyPair index _ fun _ => rfl
  | disposed => exact ⟨sound.numbered, sound.counted, nofun, sound.fromPeer, sound.queued⟩
  | sent | connectSettled | socketFailed =>
      exact ⟨sound.numbered, sound.counted, sound.current, sound.fromPeer, sound.queued⟩

theorem returnsFromPeer (sound : socket.Sound) : socket.ReturnsFromPeer where
  fromPeer := sound.fromPeer
  ordered := (List.sublist_append_left _ _).trans sound.queued

theorem refusesReplaced (sound : socket.Sound) : socket.RefusesReplaced := by
  intro index pair present replaced
  have stale : socket.live pair.generation = false := by
    unfold live
    rw [sound.numbered index pair present]
    have other : socket.streams ≠ some (index + 1) := by
      intro isCurrent
      have latest := sound.current _ isCurrent
      omega
    simp [other]
  have refused : ∀ what, socket.checkLive pair what =
      .error (.err02 .invalidState s!"outgoing-datagram-stream.{what}: stale stream") := by
    intro what
    unfold checkLive
    rw [stale]
    rfl
  refine ⟨fun maxResults => ⟨"incoming-datagram-stream.receive: stale stream", ?_⟩,
    ⟨"outgoing-datagram-stream.check-send: stale stream", ?_⟩,
    fun datagrams => ⟨"outgoing-datagram-stream.send: stale stream", ?_⟩⟩
  · unfold receive
    rw [stale]
    rfl
  · unfold checkSend
    rw [refused]
    rfl
  · unfold send
    rw [refused]
    rfl

end Sound

/-- In every run over a bound socket, datagrams go where the pair they were sent on says exactly if
they are sent while the platform's association is the one of the pair; what a connected pair returns
comes from its remote in the order of arrival, and a replaced pair refuses every operation. -/
theorem datagrams_follow_pair (family : IpAddressFamily) (actions : List Action) :
    ((Transition.runAll step actions (bind family)).Routed ↔
      Transition.Throughout step (fun action socket => socket.SendsAssociated action) actions
        (bind family)) ∧
      (Transition.runAll step actions (bind family)).ReturnsFromPeer ∧
      (Transition.runAll step actions (bind family)).RefusesReplaced := by
  have sound : (Transition.runAll step actions (bind family)).Sound :=
    Transition.runAll_invariant (fun action _ sound => sound.step action) actions
      (Sound.bind family)
  refine ⟨?_, sound.returnsFromPeer, sound.refusesReplaced⟩
  apply @Transition.runAll_iff_throughout _ _ step _ (fun _ => True) _ (fun _ _ _ => trivial)
  · intro action socket _ routed
    exact routed_step_iff action socket routed
  · intro action socket _ routed datagram member
    exact routed datagram (handed_mono action socket datagram member)
  · trivial
  · nofun

/-- A datagram sent on the pair of a second remote goes to the first one. -/
theorem reconnected_goes_to_earlier :
    ¬(Transition.runAll step
      [.stream (some (.ipv4 1 [10, 0, 0, 1])), .connectSettles true,
        .stream (some (.ipv4 1 [10, 0, 0, 2])), .send 1 [⟨[7], none⟩]] (bind .ipv4)).Routed := by
  intro routed
  have reaches := routed ⟨some (.ipv4 1 [10, 0, 0, 2]), none, [7], some ⟨.ipv4, [10, 0, 0, 1], 0, 1⟩⟩
    (by decide)
  obtain ⟨addr, isDestination, same⟩ := reaches
  cases isDestination
  revert same
  decide

end UdpSocket02

end Polyengine.Wasi.Udp
