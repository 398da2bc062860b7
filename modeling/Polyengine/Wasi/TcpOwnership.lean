import Polyengine.Library.Fallible
import Polyengine.Wasi.TcpOwnership02
import Polyengine.Wasi.TcpSocket03

/-!
# Who owns the connections and listeners of a TCP socket

The references of a 0.3 socket count its handle, its live pumps and its accept stream; what is
attached to the socket stays open while there is a reference and is closed with the last one.
-/

set_option autoImplicit false

namespace Polyengine.Wasi.Tcp03

open Polyengine.Library Polyengine.Wasi.Sockets

/-- Whether a connection is attached to the socket or belongs to an accepted socket. -/
inductive ConnHolder where
  | socket
  | accepted
  deriving Repr, DecidableEq

namespace TcpSocket

def heldConns (socket : TcpSocket) : ConnHolder → List Nat
  | .socket => socket.conn.toList
  | .accepted => socket.handed

/-- The accept stream is alive. -/
def accepting (socket : TcpSocket) : Bool :=
  (socket.listener.bind socket.listeners).any (·.phase.live)

def owners (socket : TcpSocket) : Nat :=
  (!socket.handleDropped).toNat + socket.sending.toNat + socket.receive.live.toNat +
    socket.accepting.toNat

structure Placed (socket : TcpSocket) (number : Nat) (listener : Listener) : Prop where
  fresh : number < socket.nextListener
  binding : listener.phase = .binding → listener.closed = false ∧ listener.dropped = false ∧
    (socket.state = .unbound ∨ socket.state = .bound ∨ socket.state = .closed) ∧
    ∀ dial, socket.dials dial ≠ some false
  live : listener.phase.live = true → socket.listener = some number
  attached : socket.listener = some number → listener.phase ≠ .binding ∧
    listener.phase ≠ .failed ∧ (listener.closed = true → listener.dropped = true)
  settled : listener.phase ≠ .binding → socket.listener = some number ∨ listener.closed = true

structure Core (socket : TcpSocket) : Prop where
  conn : socket.conn.isSome = true → socket.state = .connected
  listener : socket.listener.isSome = true → socket.state = .listening
  sending : socket.sending = true → socket.state = .connected
  receiving : socket.receive.live = true → socket.state = .connected
  sent : socket.sending = true → socket.sendCalled = true
  received : socket.receive.live = true → socket.receiveCalled = true
  handle : socket.state = .unbound ∨ socket.state = .bound ∨ socket.state = .connecting →
    socket.handleDropped = false
  conns : Holdings socket.heldConns (· < socket.nextConn) (socket.connClosed · = true)
  dials : ∀ dial, socket.dials dial = some false →
    dial < socket.nextDial ∧ (socket.state = .connecting ∨ socket.state = .closed)
  oneDial : ∀ dial other, socket.dials dial = some false → socket.dials other = some false →
    dial = other
  listeners : ∀ number listener, socket.listeners number = some listener →
    socket.Placed number listener
  oneBinding : ∀ number other listener listener', socket.listeners number = some listener →
    socket.listeners other = some listener' → listener.phase = .binding →
    listener'.phase = .binding → number = other
  known : ∀ number, socket.listener = some number →
    ∃ listener, socket.listeners number = some listener

/-- What the references count: the owners and `extra` more that have just gone. -/
structure Counted (socket : TcpSocket) (extra : Nat) : Prop where
  refs : socket.refs = ((socket.owners + extra : Nat) : Int)
  attached : socket.owners + extra ≠ 0 →
    (socket.state = .connected → socket.conn.isSome = true) ∧
    (socket.state = .listening → socket.listener.isSome = true)
  detached : socket.owners + extra = 0 → socket.conn = none ∧ socket.listener = none

structure Custody (socket : TcpSocket) : Prop where
  core : socket.Core
  counted : socket.Counted 0

variable {socket : TcpSocket}

theorem update_listener {number other : Nat} {listener found : Listener}
    (isFound : (socket.setListener number listener).listeners other = some found) :
    (other = number ∧ found = listener) ∨
      (other ≠ number ∧ socket.listeners other = some found) := by
  by_cases same : other = number
  · subst same
    simp only [setListener, Function.update_self] at isFound
    exact .inl ⟨rfl, (Option.some.inj isFound).symm⟩
  · simp only [setListener, Function.update_of_ne same] at isFound
    exact .inr ⟨same, isFound⟩

theorem deserted (alone : socket.owners = 0) : socket.handleDropped = true ∧
    socket.sending = false ∧ socket.receive.live = false ∧ socket.accepting = false := by
  simpa [owners, and_assoc] using alone

namespace Core

theorem no_conn (core : socket.Core) (other : socket.state ≠ .connected) : socket.conn = none :=
  Option.not_isSome_iff_eq_none.mp (mt core.conn other)

theorem no_listener (core : socket.Core) (other : socket.state ≠ .listening) :
    socket.listener = none :=
  Option.not_isSome_iff_eq_none.mp (mt core.listener other)

theorem conns_closeConn (core : socket.Core) {conn : Nat} (isConn : socket.conn = some conn) :
    Holdings (heldConns { socket.closeConn conn with conn := none }) (· < socket.nextConn)
      ((socket.closeConn conn).connClosed · = true) := by
  refine (core.conns.release .socket).congr (fun owner => ?_) (fun _ => Iff.rfl) fun other => ?_
  · cases owner <;> simp [heldConns, closeConn]
  · by_cases same : other = conn
    · simp [closeConn, heldConns, isConn, same]
    · simp [closeConn, heldConns, isConn, same]

theorem closeConn (core : socket.Core) {conn : Nat} (isConn : socket.conn = some conn) :
    Core { socket.closeConn conn with conn := none } :=
  { core with
    conn := nofun
    conns := core.conns_closeConn isConn
    listeners := fun number listener found => { core.listeners number listener found with } }

theorem closeListener (core : socket.Core) {number : Nat} {listener : Listener}
    (isListener : socket.listener = some number) (found : socket.listeners number = some listener)
    (ended : listener.phase.live = false) :
    Core { socket.setListener number { listener with closed := true } with listener := none } := by
  have placed := core.listeners number listener found
  have settled := (placed.attached isListener).1
  have listening := core.listener (by simp [isListener])
  refine { core with conns := core.conns, listener := nofun, known := nofun, listeners := ?_, oneBinding := ?_ }
  · intro other current isCurrent
    rcases update_listener isCurrent with ⟨rfl, rfl⟩ | ⟨different, old⟩
    · exact ⟨placed.fresh, fun binding => absurd binding settled, fun live => absurd live (by simp [ended]),
        nofun, fun _ => .inr rfl⟩
    · have was := core.listeners other current old
      refine { was with live := fun live => ?_, attached := nofun, settled := fun isSettled => ?_ }
      · exact absurd (Option.some.inj ((was.live live).symm.trans isListener)) different
      · refine .inr ((was.settled isSettled).resolve_left fun attached => ?_)
        exact different (Option.some.inj (attached.symm.trans isListener))
  · intro one two first second isFirst isSecond firstBinding secondBinding
    rcases update_listener isFirst with ⟨rfl, rfl⟩ | ⟨_, old⟩
    · exact absurd firstBinding settled
    · rcases update_listener isSecond with ⟨rfl, rfl⟩ | ⟨_, old'⟩
      · exact absurd secondBinding settled
      · exact core.oneBinding one two first second old old' firstBinding secondBinding

theorem detach (core : socket.Core) (alone : socket.owners = 0) :
    socket.detach.Core ∧ socket.detach.owners = 0 ∧ socket.detach.refs = socket.refs ∧
      socket.detach.conn = none ∧ socket.detach.listener = none := by
  obtain ⟨disposed, sent, received, refused⟩ := deserted alone
  rcases Option.eq_none_or_eq_some socket.conn with isConn | ⟨conn, isConn⟩
  · rcases Option.eq_none_or_eq_some socket.listener with isListener | ⟨number, isListener⟩
    · have result : socket.detach = socket := by
        simp [TcpSocket.detach, isConn, isListener]
      rw [result]
      exact ⟨core, alone, rfl, isConn, isListener⟩
    · obtain ⟨listener, found⟩ := core.known number isListener
      have ended : listener.phase.live = false := by
        simpa [accepting, isListener, found] using refused
      have result : socket.detach =
          { socket.setListener number { listener with closed := true } with listener := none } := by
        simp [TcpSocket.detach, isConn, isListener, TcpSocket.closeListener, found]
      rw [result]
      refine ⟨core.closeListener isListener found ended, ?_, rfl, isConn, rfl⟩
      simp [owners, accepting, setListener, disposed, sent, received]
  · have connected := core.conn (by simp [isConn])
    have unattached := core.no_listener (by simp [connected])
    have result : socket.detach = { socket.closeConn conn with conn := none } := by
      simp [TcpSocket.detach, isConn, unattached, TcpSocket.closeConn]
    rw [result]
    exact ⟨core.closeConn isConn, alone, rfl, rfl, unattached⟩

end Core

theorem Core.release (core : socket.Core) (counted : socket.Counted 1) : socket.release.Custody := by
  have refs : socket.refs - 1 = (socket.owners : Int) := by
    rw [counted.refs]
    omega
  have releasedCore : Core { socket with refs := socket.refs - 1 } :=
    { core with listeners := fun number listener found => { core.listeners number listener found with } }
  by_cases last : socket.owners = 0
  · have result : socket.release = ({ socket with refs := socket.refs - 1 } : TcpSocket).detach := by
      simp [TcpSocket.release, refs, last]
    rw [result]
    obtain ⟨kept, alone, sameRefs, noConn, noListener⟩ := releasedCore.detach last
    refine ⟨kept, ?_, fun owned => absurd alone owned, fun _ => ⟨noConn, noListener⟩⟩
    rw [sameRefs, alone]
    simp [refs, last]
  · have result : socket.release = { socket with refs := socket.refs - 1 } := by
      simp [TcpSocket.release, refs, last]
    rw [result]
    exact ⟨releasedCore, refs, fun _ => counted.attached (by omega), fun none => absurd none last⟩

theorem Counted.congr {next : TcpSocket} {before after : Nat} (counted : socket.Counted before)
    (owners : next.owners + after = socket.owners + before) (refs : next.refs = socket.refs)
    (state : next.state = socket.state) (conn : next.conn = socket.conn)
    (listener : next.listener = socket.listener) : next.Counted after := by
  refine ⟨?_, ?_, ?_⟩
  · rw [owners, refs, counted.refs]
  · rw [owners, state, conn, listener]
    exact counted.attached
  · rw [owners, conn, listener]
    exact counted.detached

/-- Nothing is attached in the first states and in the last. -/
structure Idle (socket : TcpSocket) : Prop where
  conn : socket.conn = none
  listener : socket.listener = none
  sending : socket.sending = false
  receiving : socket.receive.live = false

theorem Core.idle (core : socket.Core) (unconnected : socket.state ≠ .connected)
    (unlistening : socket.state ≠ .listening) : socket.Idle where
  conn := core.no_conn unconnected
  listener := core.no_listener unlistening
  sending := Bool.eq_false_iff.mpr (mt core.sending unconnected)
  receiving := Bool.eq_false_iff.mpr (mt core.receiving unconnected)

namespace Idle

variable {p : Prop} (idle : socket.Idle)

include idle

theorem no_conn (isConn : socket.conn.isSome = true) : p := by
  simp [idle.conn] at isConn

theorem no_listener (isListener : socket.listener.isSome = true) : p := by
  simp [idle.listener] at isListener

theorem no_sending (isSending : socket.sending = true) : p := by
  simp [idle.sending] at isSending

theorem no_receiving (isReceiving : socket.receive.live = true) : p := by
  simp [idle.receiving] at isReceiving

end Idle

theorem Counted.restate {next : TcpSocket} {before after : Nat} (counted : socket.Counted before)
    (owners : next.owners + after = socket.owners + before) (refs : next.refs = socket.refs)
    (conn : next.conn = none) (listener : next.listener = none)
    (unconnected : next.state ≠ .connected) (unlistening : next.state ≠ .listening) :
    next.Counted after :=
  ⟨by rw [owners, refs, counted.refs], fun _ => ⟨fun state => absurd state unconnected, fun state =>
    absurd state unlistening⟩, fun _ => ⟨conn, listener⟩⟩

/-! ## What a call that does not throw does -/

theorem bind_satisfies (localAddress : IpSocketAddress) :
    Fallible.Satisfies (fun _ => True) (socket.bind localAddress) fun next =>
      socket.state = .unbound ∧
        next = { socket with localRequest := some localAddress, state := .bound } := by
  simp +contextual only [bind, Fallible.satisfies_bind, Fallible.satisfies_ite,
    Fallible.satisfies_throw, Fallible.satisfies_pure, ne_eq, not_not, and_self, implies_true]

theorem connect_satisfies (remoteAddress : IpSocketAddress) :
    Fallible.Satisfies (fun _ => True) (socket.connect remoteAddress) fun next =>
      (socket.state = .unbound ∨ socket.state = .bound) ∧
        next = { socket with
          state := .connecting
          dials := Function.update socket.dials socket.nextDial (some false)
          nextDial := socket.nextDial + 1 } := by
  simp +contextual [connect, Classical.or_iff_not_imp_left]

theorem listen_satisfies :
    Fallible.Satisfies (fun _ => True) socket.listen fun next =>
      (socket.state = .unbound ∨ socket.state = .bound) ∧
        next = { socket.setListener socket.nextListener ⟨.binding, false, false⟩ with
          nextListener := socket.nextListener + 1 } := by
  simp +contextual [listen, Classical.or_iff_not_imp_left]

theorem Custody.unlessThrown {call : Except ComponentError TcpSocket} {post : TcpSocket → Prop}
    (custody : socket.Custody) (satisfies : Fallible.Satisfies (fun _ => True) call post)
    (kept : ∀ next, post next → next.Custody) : (socket.unlessThrown call).Custody := by
  cases call with
  | ok next => exact kept next satisfies
  | error failure => exact custody

theorem Core.relisten (core : socket.Core) {number : Nat} {listener next : Listener}
    (found : socket.listeners number = some listener) (live : listener.phase.live = true)
    (settled : next.phase ≠ .binding ∧ next.phase ≠ .failed)
    (closed : next.closed = true → next.dropped = true) :
    (socket.setListener number next).Core := by
  have placed := core.listeners number listener found
  have attached := placed.live live
  refine { core with
    conns := core.conns
    listeners := fun other current isCurrent => ?_
    oneBinding := fun one two first second isFirst isSecond firstBinding secondBinding => ?_
    known := fun other isOther => ?_ }
  · rcases update_listener isCurrent with ⟨rfl, rfl⟩ | ⟨_, old⟩
    · exact ⟨placed.fresh, fun binding => absurd binding settled.1, fun _ => attached,
        fun _ => ⟨settled.1, settled.2, closed⟩, fun _ => .inl attached⟩
    · exact { core.listeners other current old with }
  · rcases update_listener isFirst with ⟨rfl, rfl⟩ | ⟨_, old⟩
    · exact absurd firstBinding settled.1
    · rcases update_listener isSecond with ⟨rfl, rfl⟩ | ⟨_, old'⟩
      · exact absurd secondBinding settled.1
      · exact core.oneBinding one two first second old old' firstBinding secondBinding
  · by_cases same : other = number
    · exact ⟨next, by simp [setListener, same]⟩
    · obtain ⟨current, isCurrent⟩ := core.known other isOther
      exact ⟨current, by simpa [setListener, same] using isCurrent⟩

theorem Counted.relisten (counted : socket.Counted 0) {number : Nat} {listener : Listener}
    (attached : socket.listener = some number)
    (found : socket.listeners number = some listener) (live : listener.phase.live = true)
    (next : Listener) : (socket.setListener number next).Counted (!next.phase.live).toNat := by
  refine counted.congr ?_ rfl rfl rfl rfl
  have was : socket.accepting = true := by
    simp [accepting, attached, found, live]
  have now : (socket.setListener number next).accepting = next.phase.live := by
    simp [accepting, setListener, attached]
  have others : (socket.setListener number next).owners + (!next.phase.live).toNat =
      (!socket.handleDropped).toNat + socket.sending.toNat + socket.receive.live.toNat +
        next.phase.live.toNat + (!next.phase.live).toNat := by
    rw [owners, now]
    rfl
  rw [others, owners, was]
  cases next.phase.live <;> simp

namespace Custody

theorem bind (custody : socket.Custody) (localAddress : IpSocketAddress) :
    (socket.unlessThrown (socket.bind localAddress)).Custody := by
  refine custody.unlessThrown (bind_satisfies localAddress) ?_
  rintro _ ⟨unbound, rfl⟩
  have core := custody.core
  have idle := core.idle (by simp [unbound]) (by simp [unbound])
  refine ⟨{ core with
    conn := idle.no_conn
    listener := idle.no_listener
    sending := idle.no_sending
    receiving := idle.no_receiving
    handle := fun _ => core.handle (.inl unbound)
    dials := fun dial pending => absurd (core.dials dial pending).2 (by simp [unbound])
    listeners := fun number listener found => ?_ }, ?_⟩
  · have placed := core.listeners number listener found
    refine { placed with binding := fun binding => ?_ }
    obtain ⟨unclosed, undropped, _, undialed⟩ := placed.binding binding
    exact ⟨unclosed, undropped, .inr (.inl rfl), undialed⟩
  · exact custody.counted.restate rfl rfl idle.conn idle.listener (by simp) (by simp)

theorem connect (custody : socket.Custody) (remoteAddress : IpSocketAddress)
    (noBinding : ∀ number listener, socket.listeners number = some listener →
      listener.phase ≠ .binding) :
    (socket.unlessThrown (socket.connect remoteAddress)).Custody := by
  refine custody.unlessThrown (connect_satisfies remoteAddress) ?_
  rintro _ ⟨first, rfl⟩
  have core := custody.core
  have idle : socket.Idle := by
    rcases first with unbound | bound
    · exact core.idle (by simp [unbound]) (by simp [unbound])
    · exact core.idle (by simp [bound]) (by simp [bound])
  have undialed : ∀ dial, socket.dials dial ≠ some false := by
    intro dial pending
    rcases (core.dials dial pending).2 with dialing | isClosed
    · simp [dialing] at first
    · simp [isClosed] at first
  have isNew : ∀ dial, Function.update socket.dials socket.nextDial (some false) dial = some false →
      dial = socket.nextDial := by
    intro dial pending
    by_contra different
    rw [Function.update_of_ne different] at pending
    exact undialed dial pending
  refine ⟨{ core with
    conn := idle.no_conn
    listener := idle.no_listener
    sending := idle.no_sending
    receiving := idle.no_receiving
    handle := fun _ => core.handle (first.imp_right .inl)
    dials := fun dial pending => ⟨?_, .inl rfl⟩
    oneDial := fun dial other pending pending' => (isNew dial pending).trans (isNew other pending').symm
    listeners := fun number listener found => { core.listeners number listener found with
      binding := fun binding => absurd binding (noBinding number listener found) } }, ?_⟩
  · rw [isNew dial pending]
    exact Nat.lt_succ_self _
  · exact custody.counted.restate rfl rfl idle.conn idle.listener (by simp) (by simp)

theorem dialSettles (custody : socket.Custody) (number : Nat) (ok : Bool) :
    (socket.dialSettles number ok).Custody := by
  have core := custody.core
  unfold TcpSocket.dialSettles
  split
  case h_2 => exact custody
  case h_1 pending =>
    have state := (core.dials number pending).2
    have idle : socket.Idle := by
      rcases state with dialing | isClosed
      · exact core.idle (by simp [dialing]) (by simp [dialing])
      · exact core.idle (by simp [isClosed]) (by simp [isClosed])
    have noBinding : ∀ other listener, socket.listeners other = some listener →
        listener.phase ≠ .binding := fun other listener found binding =>
      ((core.listeners other listener found).binding binding).2.2.2 number pending
    have none : ∀ dial, Function.update socket.dials number (some true) dial ≠ some false := by
      intro dial
      by_cases same : dial = number
      · simp [same]
      · rw [Function.update_of_ne same]
        exact fun other => same (core.oneDial dial number other pending)
    have isNew : ¬ socket.nextConn < socket.nextConn := Nat.lt_irrefl _
    split
    case isTrue =>
      refine ⟨{ core with
        conn := idle.no_conn
        listener := idle.no_listener
        sending := idle.no_sending
        receiving := idle.no_receiving
        handle := by simp
        dials := fun dial other => absurd other (none dial)
        oneDial := fun dial _ other => absurd other (none dial)
        listeners := fun other listener found => { core.listeners other listener found with
          binding := fun binding => absurd binding (noBinding other listener found) } }, ?_⟩
      exact custody.counted.restate rfl rfl idle.conn idle.listener (by simp) (by simp)
    case isFalse =>
      split
      case isTrue late =>
        have isClosed : socket.state = .closed := state.resolve_left late
        refine ⟨{ core with
          conns := ?_
          dials := fun dial other => absurd other (none dial)
          oneDial := fun dial _ other => absurd other (none dial)
          listeners := fun other listener found => { core.listeners other listener found with
            binding := fun binding => absurd binding (noBinding other listener found) } }, ?_⟩
        · refine (core.conns.refuse isNew).congr (fun owner => by cases owner <;> rfl)
            (fun other => Nat.lt_succ_iff_lt_or_eq) fun other => ?_
          by_cases same : other = socket.nextConn
          · simp [TcpSocket.closeConn, same]
          · simp [TcpSocket.closeConn, same]
        · exact custody.counted.congr rfl rfl rfl rfl rfl
      case isFalse timely =>
        have dialing : socket.state = .connecting := not_not.mp timely
        have handle := core.handle (.inr (.inr dialing))
        refine ⟨{ core with
          conn := fun _ => rfl
          listener := idle.no_listener
          sending := fun _ => rfl
          receiving := fun _ => rfl
          handle := by simp
          conns := ?_
          dials := fun dial other => absurd other (none dial)
          oneDial := fun dial _ other => absurd other (none dial)
          listeners := fun other listener found => { core.listeners other listener found with
            binding := fun binding => absurd binding (noBinding other listener found) } }, ?_⟩
        · refine (core.conns.gain isNew .socket).congr (fun owner => ?_)
            (fun other => Nat.lt_succ_iff_lt_or_eq) fun _ => Iff.rfl
          cases owner <;> simp [heldConns, idle.conn]
        · refine ⟨custody.counted.refs, fun _ => ⟨fun _ => rfl, nofun⟩, fun alone => ?_⟩
          simp [owners, handle] at alone

theorem listen (custody : socket.Custody)
    (noBinding : ∀ number listener, socket.listeners number = some listener →
      listener.phase ≠ .binding) :
    (socket.unlessThrown socket.listen).Custody := by
  refine custody.unlessThrown listen_satisfies ?_
  rintro _ ⟨first, rfl⟩
  have core := custody.core
  have idle : socket.Idle := by
    rcases first with unbound | bound
    · exact core.idle (by simp [unbound]) (by simp [unbound])
    · exact core.idle (by simp [bound]) (by simp [bound])
  have undialed : ∀ dial, socket.dials dial ≠ some false := by
    intro dial pending
    rcases (core.dials dial pending).2 with dialing | isClosed
    · simp [dialing] at first
    · simp [isClosed] at first
  refine ⟨{ core with
    conns := core.conns
    listeners := fun number listener found => ?_
    oneBinding := fun number other listener listener' found found' binding binding' => ?_
    known := fun number isNumber => absurd isNumber (by simp [setListener, idle.listener]) }, ?_⟩
  · rcases update_listener found with ⟨rfl, rfl⟩ | ⟨_, old⟩
    · exact ⟨Nat.lt_succ_self _, fun _ => ⟨rfl, rfl, first.imp_right .inl, undialed⟩, nofun,
        fun attached => absurd attached (by simp [setListener, idle.listener]), fun no => absurd rfl no⟩
    · have placed := core.listeners number listener old
      exact { placed with fresh := Nat.lt_succ_of_lt placed.fresh }
  · rcases update_listener found with ⟨rfl, rfl⟩ | ⟨_, old⟩
    · rcases update_listener found' with ⟨rfl, rfl⟩ | ⟨_, old'⟩
      · rfl
      · exact absurd binding' (noBinding other listener' old')
    · exact absurd binding (noBinding number listener old)
  · refine custody.counted.congr ?_ rfl rfl rfl rfl
    simp [owners, accepting, setListener, idle.listener]

theorem listenSettles (custody : socket.Custody) (number : Nat) (ok : Bool) :
    (socket.listenSettles number ok).Custody := by
  have core := custody.core
  unfold TcpSocket.listenSettles
  split
  case h_2 => exact custody
  case h_1 closed dropped found =>
    have placed := core.listeners number _ found
    obtain ⟨unclosed, undropped, state, undialed⟩ := placed.binding rfl
    simp only at unclosed undropped
    subst unclosed undropped
    have idle : socket.Idle := by
      rcases state with unbound | bound | isClosed
      · exact core.idle (by simp [unbound]) (by simp [unbound])
      · exact core.idle (by simp [bound]) (by simp [bound])
      · exact core.idle (by simp [isClosed]) (by simp [isClosed])
    have unattached : ∀ other, socket.listener ≠ some other := by
      simp [idle.listener]
    -- No other listener is being bound and none has a stream.
    have others : ∀ other listener, other ≠ number → socket.listeners other = some listener →
        listener.phase ≠ .binding ∧ listener.phase.live = false ∧ listener.closed = true := by
      intro other listener different old
      have was := core.listeners other listener old
      have settled : listener.phase ≠ .binding := fun binding =>
        different (core.oneBinding other number listener _ old found binding rfl)
      exact ⟨settled, Bool.eq_false_iff.mpr fun live => unattached other (was.live live),
        (was.settled settled).resolve_left (unattached other)⟩
    split
    case isTrue =>
      refine ⟨{ core with
        conn := idle.no_conn
        listener := idle.no_listener
        sending := idle.no_sending
        receiving := idle.no_receiving
        handle := by simp
        conns := core.conns
        dials := fun dial pending => absurd pending (undialed dial)
        listeners := fun other listener isFound => ?_
        oneBinding := fun one two first second isFirst isSecond firstBinding _ => ?_
        known := fun other isOther => absurd isOther (unattached other) }, ?_⟩
      · rcases update_listener isFound with ⟨rfl, rfl⟩ | ⟨different, old⟩
        · exact ⟨placed.fresh, nofun, nofun, fun attached => absurd attached (unattached other),
            fun _ => .inr rfl⟩
        · obtain ⟨settled, _, isClosed⟩ := others other listener different old
          exact { core.listeners other listener old with
            binding := fun binding => absurd binding settled }
      · rcases update_listener isFirst with ⟨rfl, rfl⟩ | ⟨different, old⟩
        · cases firstBinding
        · exact absurd firstBinding (others one first different old).1
      · refine custody.counted.restate ?_ rfl idle.conn idle.listener (by simp) (by simp)
        simp [owners, accepting, setListener, idle.listener]
    case isFalse =>
      refine ⟨{ core with
        conn := idle.no_conn
        listener := fun _ => rfl
        sending := idle.no_sending
        receiving := idle.no_receiving
        handle := by simp
        conns := core.conns
        dials := fun dial pending => absurd pending (undialed dial)
        listeners := fun other listener isFound => ?_
        oneBinding := fun one two first second isFirst isSecond firstBinding _ => ?_
        known := fun other isOther => ?_ }, ?_⟩
      · rcases update_listener isFound with ⟨rfl, rfl⟩ | ⟨different, old⟩
        · exact ⟨placed.fresh, nofun, fun _ => rfl, fun _ => ⟨nofun, nofun, nofun⟩,
            fun _ => .inl rfl⟩
        · obtain ⟨settled, ended, isClosed⟩ := others other listener different old
          exact ⟨(core.listeners other listener old).fresh, fun binding => absurd binding settled,
            fun live => absurd live (by simp [ended]),
            fun attached => absurd (Option.some.inj attached).symm different, fun _ => .inr isClosed⟩
      · rcases update_listener isFirst with ⟨rfl, rfl⟩ | ⟨different, old⟩
        · cases firstBinding
        · exact absurd firstBinding (others one first different old).1
      · obtain rfl : number = other := Option.some.inj isOther
        exact ⟨⟨.unstarted, false, false⟩, by simp [setListener]⟩
      · have was : socket.accepting = false := by
          simp [accepting, idle.listener]
        have owners : TcpSocket.owners { socket.setListener number ⟨.unstarted, false, false⟩ with
            listener := some number, state := .listening, refs := socket.refs + 1 } =
              socket.owners + 1 := by
          rw [TcpSocket.owners, TcpSocket.owners, was]
          simp [accepting, setListener, ListenPhase.live]
        refine ⟨?_, fun _ => ⟨nofun, fun _ => rfl⟩, fun alone => absurd alone (by simp [owners])⟩
        rw [owners]
        have refs := custody.counted.refs
        simp only
        omega

theorem pull (custody : socket.Custody) (number : Nat) : (socket.pull number).Custody := by
  have core := custody.core
  unfold TcpSocket.pull
  split
  case h_1 closed dropped found =>
    have placed := core.listeners number _ found
    have attached := placed.live rfl
    exact ⟨core.relisten found rfl ⟨nofun, nofun⟩ (placed.attached attached).2.2,
      custody.counted.relisten attached found rfl ⟨.parked, closed, dropped⟩⟩
  case h_2 closed dropped found =>
    have placed := core.listeners number _ found
    have attached := placed.live rfl
    exact ⟨core.relisten found rfl ⟨nofun, nofun⟩ (placed.attached attached).2.2,
      custody.counted.relisten attached found rfl ⟨.parked, closed, dropped⟩⟩
  case h_3 => exact custody

theorem finishes (custody : socket.Custody) {number : Nat} {phase : ListenPhase}
    {closed dropped : Bool} (found : socket.listeners number = some ⟨phase, closed, dropped⟩)
    (live : phase.live = true) :
    (socket.setListener number ⟨.finished, closed, dropped⟩).release.Custody := by
  have placed := custody.core.listeners number _ found
  have attached := placed.live live
  have core : (socket.setListener number ⟨.finished, closed, dropped⟩).Core :=
    custody.core.relisten found live ⟨nofun, nofun⟩ (placed.attached attached).2.2
  exact core.release (custody.counted.relisten attached found live ⟨.finished, closed, dropped⟩)

theorem acceptResolves (custody : socket.Custody) (number : Nat) :
    (socket.acceptResolves number).Custody := by
  have core := custody.core
  unfold TcpSocket.acceptResolves
  split
  case h_2 => exact custody
  case h_1 closed dropped found =>
    have obtained : Custody { socket with
        nextConn := socket.nextConn + 1, handed := socket.handed ++ [socket.nextConn] } := by
      refine ⟨{ core with
        conns := ?_
        listeners := fun other listener old => { core.listeners other listener old with } },
        custody.counted.congr rfl rfl rfl rfl rfl⟩
      refine (core.conns.gain (Nat.lt_irrefl _) .accepted).congr (fun owner => ?_)
        (fun other => Nat.lt_succ_iff_lt_or_eq) fun _ => Iff.rfl
      cases owner <;> simp [heldConns]
    have placed := obtained.core.listeners number _ found
    have attached := placed.live rfl
    split
    case isTrue => exact obtained.finishes found rfl
    case isFalse =>
      exact ⟨obtained.core.relisten found rfl ⟨nofun, nofun⟩ (placed.attached attached).2.2,
        obtained.counted.relisten attached found rfl ⟨.yielded, closed, dropped⟩⟩

theorem acceptRejects (custody : socket.Custody) (number : Nat) (kind : SocketErrorKind) :
    (socket.acceptRejects number kind).Custody := by
  unfold TcpSocket.acceptRejects
  split
  case h_2 => exact custody
  case h_1 closed dropped found =>
    split
    · exact custody
    · exact custody.finishes found rfl

theorem dropStream (custody : socket.Custody) (number : Nat)
    (started : ∀ listener, socket.listeners number = some listener →
      listener.phase ≠ .unstarted) :
    (socket.dropStream number).Custody := by
  have core := custody.core
  unfold TcpSocket.dropStream
  split
  case h_1 closed dropped found => exact absurd rfl (started _ found)
  case h_2 closed dropped found =>
    have attached := (core.listeners number _ found).live rfl
    exact ⟨core.relisten found rfl ⟨nofun, nofun⟩ fun _ => rfl,
      custody.counted.relisten attached found rfl ⟨.parked, true, true⟩⟩
  case h_3 closed dropped found => exact custody.finishes found rfl
  case h_4 => exact custody

end Custody

theorem Core.retain {next : TcpSocket} (core : next.Core) (counted : socket.Counted 0)
    (owners : next.owners = socket.owners + 1) (refs : next.refs = socket.refs + 1)
    (connected : next.state = .connected) (conn : next.conn ≠ none) : next.Custody := by
  refine ⟨core, ?_, fun _ => ⟨fun _ => Option.isSome_iff_ne_none.mpr conn, ?_⟩, fun alone => ?_⟩
  · rw [refs, owners, counted.refs]
    rfl
  · exact fun listening => absurd (connected.symm.trans listening) nofun
  · exact absurd alone (by simp [owners])

theorem Core.receive (core : socket.Core) {pump : ReceivePump} (live : socket.receive.live = true) :
    Core { socket with receive := pump } :=
  { core with
    receiving := fun _ => core.receiving live
    received := fun _ => core.received live
    listeners := fun number listener found => { core.listeners number listener found with } }

theorem Counted.receive (counted : socket.Counted 0) {pump : ReceivePump}
    (live : socket.receive.live = true) :
    Counted { socket with receive := pump } (!pump.live).toNat := by
  refine counted.congr ?_ rfl rfl rfl rfl
  have same : accepting { socket with receive := pump } = socket.accepting := rfl
  simp only [owners, live, Bool.toNat_true, same]
  cases pump.live
  · simp only [Bool.toNat_false, Bool.not_false, Bool.toNat_true]
    omega
  · simp only [Bool.toNat_true, Bool.not_true, Bool.toNat_false]

namespace Custody

theorem send (custody : socket.Custody) : socket.send.Custody := by
  have core := custody.core
  unfold TcpSocket.send
  split
  case isTrue => exact custody
  case isFalse sends =>
    obtain ⟨connected, unsent, conn⟩ : socket.state = .connected ∧ socket.sendCalled = false ∧
        socket.conn ≠ none := by simpa using sends
    have unsending : socket.sending = false := Bool.eq_false_iff.mpr fun sending =>
      absurd (core.sent sending) (by simp [unsent])
    have sending : Core { socket with
        sendCalled := true, sending := true, refs := socket.refs + 1 } :=
      { core with
        sending := fun _ => connected
        sent := fun _ => rfl
        listeners := fun number listener found => { core.listeners number listener found with } }
    refine sending.retain custody.counted ?_ rfl connected conn
    have same : accepting { socket with
        sendCalled := true, sending := true, refs := socket.refs + 1 } = socket.accepting := rfl
    simp only [owners, same, unsending, Bool.toNat_false, Bool.toNat_true]
    omega

theorem sendEnds (custody : socket.Custody) : socket.sendEnds.Custody := by
  have core := custody.core
  unfold TcpSocket.sendEnds
  split
  case isFalse => exact custody
  case isTrue sending =>
    have ended : Core { socket with sending := false } :=
      { core with
        sending := nofun
        sent := nofun
        listeners := fun number listener found => { core.listeners number listener found with } }
    refine ended.release (custody.counted.congr ?_ rfl rfl rfl rfl)
    have same : accepting { socket with sending := false } = socket.accepting := rfl
    simp only [owners, same, sending, Bool.toNat_false, Bool.toNat_true]
    omega

theorem receiveStarts (custody : socket.Custody) : socket.receiveStarts.Custody := by
  have core := custody.core
  unfold TcpSocket.receiveStarts
  split
  case isTrue => exact custody
  case isFalse receives =>
    obtain ⟨connected, unreceived, conn⟩ : socket.state = .connected ∧
        socket.receiveCalled = false ∧ socket.conn ≠ none := by simpa using receives
    have idle : socket.receive.live = false := Bool.eq_false_iff.mpr fun live =>
      absurd (core.received live) (by simp [unreceived])
    have receiving : Core { socket with
        receiveCalled := true, receive := .unstarted, refs := socket.refs + 1 } :=
      { core with
        receiving := fun _ => connected
        received := fun _ => rfl
        listeners := fun number listener found => { core.listeners number listener found with } }
    refine receiving.retain custody.counted ?_ rfl connected conn
    have same : accepting { socket with
        receiveCalled := true, receive := .unstarted, refs := socket.refs + 1 } =
          socket.accepting := rfl
    have live : ReceivePump.unstarted.live = true := rfl
    simp only [owners, same, idle, live, Bool.toNat_false, Bool.toNat_true]
    omega

theorem receives (custody : socket.Custody) {pump : ReceivePump}
    (live : socket.receive.live = true) (goesOn : pump.live = true) :
    Custody { socket with receive := pump } := by
  have counted := @Counted.receive _ custody.counted pump live
  rw [goesOn] at counted
  exact ⟨custody.core.receive live, counted⟩

theorem receiveEnds (custody : socket.Custody) (live : socket.receive.live = true) :
    (TcpSocket.release { socket with receive := .finished }).Custody :=
  (custody.core.receive live).release (custody.counted.receive live)

theorem pullReceive (custody : socket.Custody) : socket.pullReceive.Custody := by
  unfold TcpSocket.pullReceive
  split
  case h_1 unstarted => exact custody.receives (by rw [unstarted]; rfl) rfl
  case h_2 yielded => exact custody.receives (by rw [yielded]; rfl) rfl
  case h_3 => exact custody

theorem readEnds (custody : socket.Custody) (outcome : ReadOutcome) :
    (socket.readEnds outcome).Custody := by
  unfold TcpSocket.readEnds
  split
  case h_1 => exact custody
  case h_2 reading => exact custody.receives (by rw [reading]; rfl) rfl
  case h_3 reading _ _ => exact custody.receiveEnds (by rw [reading]; rfl)
  case h_4 => exact custody

theorem dropReceive (custody : socket.Custody) (started : socket.receive ≠ .unstarted) :
    socket.dropReceive.Custody := by
  unfold TcpSocket.dropReceive
  split
  case h_1 unstarted => exact absurd unstarted started
  case h_2 reading => exact custody.receives (by rw [reading]; rfl) rfl
  case h_3 yielded => exact custody.receiveEnds (by rw [yielded]; rfl)
  case h_4 => exact custody

theorem dispose (custody : socket.Custody) : socket.dispose.Custody := by
  have core := custody.core
  unfold TcpSocket.dispose
  split
  case isTrue => exact custody
  case isFalse undropped =>
    have handle : socket.handleDropped = false := Bool.eq_false_iff.mpr undropped
    split
    case isTrue first =>
      have idle : socket.Idle := by
        rcases first with unbound | bound | dialing
        · exact core.idle (by simp [unbound]) (by simp [unbound])
        · exact core.idle (by simp [bound]) (by simp [bound])
        · exact core.idle (by simp [dialing]) (by simp [dialing])
      have dropped : Core { socket with handleDropped := true, state := .closed } :=
        { core with
          conn := idle.no_conn
          listener := idle.no_listener
          sending := idle.no_sending
          receiving := idle.no_receiving
          handle := by simp
          dials := fun dial pending => ⟨(core.dials dial pending).1, .inr rfl⟩
          listeners := fun number listener found => { core.listeners number listener found with
            binding := fun binding => by
              obtain ⟨unclosed, undropped, _, undialed⟩ :=
                (core.listeners number listener found).binding binding
              exact ⟨unclosed, undropped, .inr (.inr rfl), undialed⟩ } }
      refine dropped.release (custody.counted.restate ?_ rfl idle.conn idle.listener nofun nofun)
      have same : accepting { socket with handleDropped := true, state := .closed } =
        socket.accepting := rfl
      simp only [owners, same, handle, Bool.not_true, Bool.not_false, Bool.toNat_false,
        Bool.toNat_true]
      omega
    case isFalse used =>
      have dropped : Core { socket with handleDropped := true } :=
        { core with
          handle := fun first => absurd first used
          listeners := fun number listener found => { core.listeners number listener found with } }
      refine dropped.release (custody.counted.congr ?_ rfl rfl rfl rfl)
      have same : accepting { socket with handleDropped := true } = socket.accepting := rfl
      simp only [owners, same, handle, Bool.not_true, Bool.not_false, Bool.toNat_false,
        Bool.toNat_true]
      omega

theorem create (family : IpAddressFamily) : (TcpSocket.create family).Custody where
  core :=
    { conn := nofun, listener := nofun, sending := nofun, receiving := nofun, sent := nofun
      received := nofun
      handle := fun _ => rfl
      conns := (Holdings.nothing (fun _ => Nat.not_lt_zero _) (fun _ => Bool.false_ne_true)).congr
        (fun owner => by cases owner <;> rfl) (fun _ => Iff.rfl) fun _ => Iff.rfl
      dials := nofun, oneDial := nofun, listeners := nofun, oneBinding := nofun, known := nofun }
  counted := ⟨rfl, fun _ => ⟨nofun, nofun⟩, fun alone => absurd alone Nat.one_ne_zero⟩

theorem accepted (family : IpAddressFamily) : (TcpSocket.accepted family).Custody where
  core :=
    { conn := fun _ => rfl, listener := nofun, sending := fun _ => rfl, receiving := fun _ => rfl
      sent := nofun, received := nofun
      handle := fun _ => rfl
      conns := by
        refine ((create family).core.conns.gain (Nat.not_lt_zero 0) .socket).congr
          (fun owner => ?_) (fun other => ?_) fun _ => Iff.rfl
        · cases owner <;> rfl
        · simp [TcpSocket.create, TcpSocket.accepted]
      dials := nofun, oneDial := nofun, listeners := nofun, oneBinding := nofun, known := nofun }
  counted := ⟨rfl, fun _ => ⟨fun _ => rfl, nofun⟩, fun alone => absurd alone Nat.one_ne_zero⟩

end Custody

/-- No call begins to dial or to listen while a listener is being bound, and a stream is dropped only
after it has started. -/
def Orderly (action : Action) (socket : TcpSocket) : Prop :=
  match action with
  | .connect _ | .listen => ∀ number listener, socket.listeners number = some listener →
      listener.phase ≠ .binding
  | .dropStream number => ∀ listener, socket.listeners number = some listener →
      listener.phase ≠ .unstarted
  | .dropReceive => socket.receive ≠ .unstarted
  | _ => True

theorem Custody.step (custody : socket.Custody) {action : Action} (orderly : socket.Orderly action) :
    (socket.step action).Custody := by
  cases action with
  | bind localAddress => exact custody.bind localAddress
  | connect remoteAddress => exact custody.connect remoteAddress orderly
  | dialSettles number ok => exact custody.dialSettles number ok
  | listen => exact custody.listen orderly
  | listenSettles number ok => exact custody.listenSettles number ok
  | pull number => exact custody.pull number
  | acceptResolves number => exact custody.acceptResolves number
  | acceptRejects number kind => exact custody.acceptRejects number kind
  | dropStream number => exact custody.dropStream number orderly
  | send => exact custody.send
  | sendEnds => exact custody.sendEnds
  | receive => exact custody.receiveStarts
  | pullReceive => exact custody.pullReceive
  | readEnds outcome => exact custody.readEnds outcome
  | dropReceive => exact custody.dropReceive orderly
  | dispose => exact custody.dispose

/-- What is attached to the socket while it has owners, and what is open. `dropped` marks a listener
whose accept stream was dropped while it waited for a connection. -/
structure OwnedExactly (socket : TcpSocket) : Prop where
  single : socket.conn = none ∨ socket.listener = none
  conns : ∀ conn < socket.nextConn,
    socket.connClosed conn = false ↔ socket.conn = some conn ∨ conn ∈ socket.handed
  apart : ∀ conn, socket.conn = some conn → conn ∉ socket.handed
  listeners : ∀ number listener, socket.listeners number = some listener →
    listener.closed = false → socket.listener = some number ∨ listener.phase = .binding
  attached : ∀ number, socket.listener = some number →
    ∃ listener, socket.listeners number = some listener ∧
      (listener.closed = true → listener.dropped = true)
  owned : socket.owners ≠ 0 → (socket.state = .connected → socket.conn.isSome = true) ∧
    (socket.state = .listening → socket.listener.isSome = true)
  abandoned : socket.owners = 0 → socket.conn = none ∧ socket.listener = none

theorem Custody.ownedExactly (custody : socket.Custody) : socket.OwnedExactly where
  single := by
    by_cases connected : socket.state = .connected
    · exact .inr (custody.core.no_listener (by simp [connected]))
    · exact .inl (custody.core.no_conn connected)
  conns := by
    intro conn known
    have isOpen := custody.core.conns.open_iff known
    rw [Bool.not_eq_true] at isOpen
    rw [isOpen]
    constructor
    · rintro ⟨owner, member⟩
      cases owner with
      | socket => exact .inl (Option.mem_toList.mp member)
      | accepted => exact .inr member
    · rintro (own | handed)
      · exact ⟨.socket, Option.mem_toList.mpr own⟩
      · exact ⟨.accepted, handed⟩
  apart := fun conn own handed => absurd
    (custody.core.conns.alone .socket .accepted conn (Option.mem_toList.mpr own) handed) nofun
  listeners := by
    intro number listener found unclosed
    by_cases binding : listener.phase = .binding
    · exact .inr binding
    · refine .inl (((custody.core.listeners number listener found).settled binding).resolve_right ?_)
      simp [unclosed]
  attached := by
    intro number own
    obtain ⟨listener, found⟩ := custody.core.known number own
    exact ⟨listener, found, ((custody.core.listeners number listener found).attached own).2.2⟩
  owned := custody.counted.attached
  abandoned := custody.counted.detached

end TcpSocket

end Polyengine.Wasi.Tcp03

namespace Polyengine.Wasi.Tcp02.Host

open Polyengine.Library

/-- What is attached to the sockets, and what is open. -/
structure OwnedExactly (host : Host) : Prop where
  single : ∀ id socket, host.sockets id = some socket → socket.conn = none ∨ socket.listen = none
  conns : ∀ conn < host.nextConn,
    host.connClosed conn = false ↔ ∃ owner, conn ∈ host.heldConns owner
  apart : ∀ owner other conn, conn ∈ host.heldConns owner → conn ∈ host.heldConns other →
    owner = other
  listens : ∀ number listen, host.listens number = some listen →
    (listen.closed = false ↔ ∃ id, number ∈ host.heldListens id)
  closed : ∀ id socket, host.sockets id = some socket → socket.state = .closed →
    socket.conn = none ∧ socket.listen = none
  connected : ∀ id socket, host.sockets id = some socket → socket.state = .connected →
    socket.conn.isSome = true

theorem Custody.ownedExactly {host : Host} (custody : host.Custody) : host.OwnedExactly where
  single := by
    intro id socket present
    have shaped := custody.sockets id socket present
    by_cases connected : socket.state = .connected
    · exact .inr (shaped.none_listen (by simp [connected]) (by simp [connected]))
    · exact .inl (shaped.none_conn connected)
  conns := by
    intro conn known
    have isOpen := custody.conns.open_iff known
    rwa [Bool.not_eq_true] at isOpen
  apart := custody.conns.alone
  listens := by
    intro number listen found
    have isOpen := custody.listens.open_iff ⟨listen, found⟩
    rw [← isOpen]
    simp [listenClosed, found]
  closed := by
    intro id socket present isClosed
    have shaped := custody.sockets id socket present
    exact ⟨shaped.none_conn (by simp [isClosed]),
      shaped.none_listen (by simp [isClosed]) (by simp [isClosed])⟩
  connected := fun id socket present => (custody.sockets id socket present).conn.mpr

theorem dispose_sockets (host : Host) (id : Nat) (socket : TcpSocket02) :
    (host.dispose id socket).sockets id =
      some { socket with state := .closed, conn := none, listen := none } := by
  have closeListen : ∀ (later : Host) (number : Nat),
      (later.closeListen number).sockets = later.sockets := by
    intro later number
    unfold Host.closeListen
    split
    · rfl
    · split <;> rfl
  unfold Host.dispose
  dsimp only
  cases socket.listen with
  | none => exact setSocket_self _ _
  | some number =>
      rw [closeListen]
      exact setSocket_self _ _

theorem disposed_closed {before after : List Action} {id : Nat} {socket : TcpSocket02}
    (present : (Transition.runAll step before empty).sockets id = some socket) :
    ∃ later, (Transition.runAll step (before ++ .dispose id :: after) empty).sockets id = some later ∧
      later.state = .closed := by
  have linkedRun : ∀ (actions : List Action) (host : Host), host.Linked →
      host.Becomes (Transition.runAll step actions host) := by
    intro actions
    induction actions with
    | nil => exact fun _ linked => .refl linked
    | cons action actions ih =>
        intro host linked
        have first := Becomes.step linked action
        exact first.trans (ih _ first.linked)
  have start := linkedRun before empty Linked.empty
  have disposes := Becomes.step start.linked (.dispose id)
  have rest := linkedRun after _ disposes.linked
  have closed : ∃ next, (step (.dispose id) (Transition.runAll step before empty)).sockets id =
      some next ∧ next.state = .closed := by
    refine ⟨{ socket with state := .closed, conn := none, listen := none }, ?_, rfl⟩
    simp only [step, onSocket, present]
    exact dispose_sockets _ id socket
  obtain ⟨next, isNext, isClosed⟩ := closed
  obtain ⟨later, isLater, leads⟩ := rest.later.sockets id next isNext
  refine ⟨later, ?_, ?_⟩
  · rw [Transition.runAll, List.foldl_append]
    exact isLater
  · have becomes := leads.leads
    rw [isClosed] at becomes
    cases found : later.state <;> simp_all [SocketState.leadsTo]

end Polyengine.Wasi.Tcp02.Host

namespace Polyengine.Wasi.Tcp

open Polyengine.Library

/-- After every orderly run each connection and each listener is open exactly while it has an owner,
and a socket has at most one attached; only dropping an accept stream that waits for a connection
closes a listener before its socket is left. -/
theorem resources_ownedExactly {actions02 : List Tcp02.Host.Action}
    (orderly02 : Transition.Throughout Tcp02.Host.step Tcp02.Host.Orderly actions02 .empty)
    {start : Tcp03.TcpSocket} {family : Sockets.IpAddressFamily}
    (starts : start = .create family ∨ start = .accepted family)
    {actions03 : List Tcp03.TcpSocket.Action}
    (orderly03 : Transition.Throughout Tcp03.TcpSocket.step
      (fun action socket => socket.Orderly action) actions03 start) :
    (Transition.runAll Tcp02.Host.step actions02 .empty).OwnedExactly ∧
    (∀ before after id socket, actions02 = before ++ .dispose id :: after →
      (Transition.runAll Tcp02.Host.step before .empty).sockets id = some socket →
      ∃ later, (Transition.runAll Tcp02.Host.step actions02 .empty).sockets id = some later ∧
        later.conn = none ∧ later.listen = none) ∧
    (Transition.runAll Tcp03.TcpSocket.step actions03 start).OwnedExactly := by
  have owned02 := (Tcp02.Host.run_custody orderly02).ownedExactly
  refine ⟨owned02, ?_, ?_⟩
  · rintro before after id socket rfl present
    obtain ⟨later, isLater, isClosed⟩ := @Tcp02.Host.disposed_closed before after id socket present
    exact ⟨later, isLater, owned02.closed id later isLater isClosed⟩
  · have first : start.Custody := by
      rcases starts with rfl | rfl
      · exact .create family
      · exact .accepted family
    have custody : (Transition.runAll Tcp03.TcpSocket.step actions03 start).Custody :=
      orderly03.invariant (fun action socket custody orderly => custody.step orderly) first
    exact custody.ownedExactly

/-- Two listeners that accept and are disposed of, the second before its stream. -/
theorem resources_ownedExactly_accepts :
    (Transition.runAll Tcp02.Host.step
      [.createTcpSocket .ipv4, .startListen 0, .listenComesUp 0, .listenSettles 0, .finishListen 0,
        .connectionArrives 0, .accept 0, .dispose 0] .empty).OwnedExactly ∧
    (Transition.runAll Tcp03.TcpSocket.step
      [.listen, .listenSettles 0 true, .pull 0, .acceptResolves 0, .dispose, .dropStream 0]
      (.create .ipv4)).OwnedExactly := by
  have orderly02 : Transition.Throughout Tcp02.Host.step Tcp02.Host.Orderly
      [.createTcpSocket .ipv4, .startListen 0, .listenComesUp 0, .listenSettles 0, .finishListen 0,
        .connectionArrives 0, .accept 0, .dispose 0] .empty := by
    refine ⟨trivial, trivial, trivial, trivial, trivial, trivial, trivial, fun socket present => ?_,
      trivial⟩
    cases present
    exact nofun
  have orderly03 : Transition.Throughout Tcp03.TcpSocket.step
      (fun action socket => socket.Orderly action)
      [.listen, .listenSettles 0 true, .pull 0, .acceptResolves 0, .dispose, .dropStream 0]
      (.create .ipv4) := by
    refine ⟨nofun, trivial, trivial, trivial, trivial, fun listener found => ?_, trivial⟩
    cases found
    exact nofun
  have owned := resources_ownedExactly orderly02 (.inl rfl) orderly03
  exact ⟨owned.1, owned.2.2⟩

/-- A listener is closed under its socket when its accept stream is dropped while it waits for a
connection. -/
theorem dropStream_closes_listener :
    let socket := Transition.runAll Tcp03.TcpSocket.step
      [.listen, .listenSettles 0 true, .pull 0, .dropStream 0] (.create .ipv4)
    socket.handleDropped = false ∧ socket.listener = some 0 ∧
      socket.listeners 0 = some ⟨.parked, true, true⟩ := by
  refine ⟨rfl, rfl, rfl⟩

end Polyengine.Wasi.Tcp
