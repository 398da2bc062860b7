import Polyengine.Library.Ownership
import Polyengine.Wasi.TcpProgress

/-!
# Who owns the connections and listeners of the 0.2 track

A connection belongs to the socket it is attached to, to a settled dial that its socket can still
finish, or to the queue of a listener; a listener belongs to its socket.
-/

set_option autoImplicit false

namespace Polyengine.Wasi.Tcp02

open Polyengine.Library Polyengine.Wasi.Sockets

inductive ConnOwner where
  | socket (id : Nat)
  | dial (number : Nat)
  | listener (number : Nat)
  deriving Repr, DecidableEq

/-- Nothing has been asked of the platform yet. -/
def SocketState.idle : SocketState → Bool
  | .unbound | .bindInProgress | .bound => true
  | _ => false

/-- What is attached in which state. -/
structure TcpSocket02.Shaped (socket : TcpSocket02) : Prop where
  conn : socket.conn.isSome = true ↔ socket.state = .connected
  listen : socket.listen.isSome = true ↔
    socket.state = .listenInProgress ∨ socket.state = .listening

theorem TcpSocket02.Shaped.none_conn {socket : TcpSocket02} (shaped : socket.Shaped)
    (other : socket.state ≠ .connected) : socket.conn = none :=
  Option.not_isSome_iff_eq_none.mp (mt shaped.conn.mp other)

theorem TcpSocket02.Shaped.none_listen {socket : TcpSocket02} (shaped : socket.Shaped)
    (pending : socket.state ≠ .listenInProgress) (up : socket.state ≠ .listening) :
    socket.listen = none :=
  Option.not_isSome_iff_eq_none.mp (mt shaped.listen.mp (not_or.mpr ⟨pending, up⟩))

namespace Host

/-- The dial can still be finished. -/
def finishable (host : Host) (dial : DialState) : Bool :=
  (host.sockets dial.socket).any (·.state = .connectInProgress)

/-- The connection of a dial that its socket can still finish. -/
def dialConns (host : Host) (dial : DialState) : List Nat :=
  if host.finishable dial then dial.conn.toList else []

def heldConns (host : Host) : ConnOwner → List Nat
  | .socket id => ((host.sockets id).bind (·.conn)).toList
  | .dial number => ((host.dials number).map host.dialConns).getD []
  | .listener number => ((host.listens number).map (·.queue)).getD []

def heldListens (host : Host) (id : Nat) : List Nat :=
  ((host.sockets id).bind (·.listen)).toList

def listenClosed (host : Host) (number : Nat) : Prop :=
  ∃ listen, host.listens number = some listen ∧ listen.closed = true

/-- The dial belongs to a socket that has left its first states for it. -/
structure DialShaped (host : Host) (number : Nat) (dial : DialState) : Prop where
  fresh : number < host.nextDial
  pending : dial.done = false → dial.conn = none ∧ dial.error = none
  failed : dial.error.isSome = true → dial.conn = none
  socket : ∃ socket, host.sockets dial.socket = some socket ∧ socket.state.idle = false ∧
    (socket.state = .connectInProgress → socket.dial = some number)

theorem DialShaped.mono {host later : Host} {number : Nat} {dial : DialState}
    (shaped : host.DialShaped number dial) (sockets : later.sockets = host.sockets)
    (fresh : host.nextDial ≤ later.nextDial) : later.DialShaped number dial :=
  ⟨Nat.lt_of_lt_of_le shaped.fresh fresh, shaped.pending, shaped.failed, sockets ▸ shaped.socket⟩

def NoneSettled (host : Host) (socket : TcpSocket02) : Prop :=
  socket.state = .connectInProgress → ∀ number dial, socket.dial = some number →
    host.dials number = some dial → dial.conn = none

structure Custody (host : Host) : Prop where
  conns : Holdings host.heldConns (· < host.nextConn) (host.connClosed · = true)
  listens : Holdings host.heldListens (fun number => ∃ listen, host.listens number = some listen)
    host.listenClosed
  refused : ∀ number listen, host.listens number = some listen → listen.closed = true →
    listen.queue = []
  sockets : ∀ id socket, host.sockets id = some socket → socket.Shaped
  dials : ∀ number dial, host.dials number = some dial → host.DialShaped number dial
  dialing : ∀ id socket, host.sockets id = some socket → socket.state = .connectInProgress →
    ∀ number, socket.dial = some number →
      ∃ dial, host.dials number = some dial ∧ dial.socket = id

/-! ## What the updates change -/

section

variable {host : Host} {id : Nat} {socket next : TcpSocket02}

theorem dialConns_setSocket (present : host.sockets id = some socket) {dial : DialState}
    (samePhase : dial.socket = id → dial.conn.isSome = true →
      (next.state = .connectInProgress ↔ socket.state = .connectInProgress)) :
    (host.setSocket id next).dialConns dial = host.dialConns dial := by
  cases conn : dial.conn with
  | none => simp [dialConns, conn]
  | some c =>
      have phase : (host.setSocket id next).finishable dial = host.finishable dial := by
        by_cases same : dial.socket = id
        · have iff := samePhase same (by simp [conn])
          simp [finishable, same, present, iff]
        · simp [finishable, same]
      rw [dialConns, dialConns, phase]

theorem heldConns_congr {later : Host} (sockets : later.sockets = host.sockets)
    (dials : later.dials = host.dials) (listens : later.listens = host.listens)
    (owner : ConnOwner) : later.heldConns owner = host.heldConns owner := by
  have phases : later.dialConns = host.dialConns := by
    funext dial
    rw [dialConns, dialConns, finishable, finishable, sockets]
  cases owner with
  | socket id => rw [heldConns, heldConns, sockets]
  | dial number => rw [heldConns, heldConns, dials, phases]
  | listener number => rw [heldConns, heldConns, listens]

theorem heldConns_setSocket (present : host.sockets id = some socket)
    (samePhase : ∀ number dial, host.dials number = some dial → dial.socket = id →
      dial.conn.isSome = true →
      (next.state = .connectInProgress ↔ socket.state = .connectInProgress)) (owner : ConnOwner) :
    (host.setSocket id next).heldConns owner =
      Function.update host.heldConns (.socket id) next.conn.toList owner := by
  cases owner with
  | socket other =>
      by_cases same : other = id
      · subst same
        simp [heldConns]
      · simp [heldConns, same]
  | listener number => simp [heldConns, setSocket]
  | dial number =>
      have sameDials : (host.setSocket id next).dials number = host.dials number := rfl
      rw [Function.update_of_ne (by simp), heldConns, heldConns, sameDials]
      cases found : host.dials number with
      | none => rfl
      | some dial => exact dialConns_setSocket present (samePhase number dial found)

theorem heldConns_socket (present : host.sockets id = some socket) :
    host.heldConns (.socket id) = socket.conn.toList := by
  simp [heldConns, present]

theorem heldListens_setSocket (next : TcpSocket02) (other : Nat) :
    (host.setSocket id next).heldListens other =
      Function.update host.heldListens id next.listen.toList other := by
  by_cases same : other = id
  · subst same
    simp [heldListens]
  · simp [heldListens, same]

theorem dialShaped_setSocket {number : Nat} {dial : DialState} (shaped : host.DialShaped number dial)
    (present : host.sockets id = some socket) (active : socket.state.idle = false → next.state.idle = false)
    (sameDial : socket.state.idle = false → next.state = .connectInProgress →
      socket.state = .connectInProgress ∧ next.dial = socket.dial) :
    (host.setSocket id next).DialShaped number dial := by
  obtain ⟨other, isOther, notIdle, own⟩ := shaped.socket
  refine ⟨shaped.fresh, shaped.pending, shaped.failed, ?_⟩
  by_cases same : dial.socket = id
  · rw [same, present] at isOther
    cases isOther
    refine ⟨next, by rw [same, setSocket_self], active notIdle, fun dialing => ?_⟩
    obtain ⟨was, sameNumber⟩ := sameDial notIdle dialing
    exact sameNumber.trans (own was)
  · exact ⟨other, by rw [setSocket_of_ne _ _ same, isOther], notIdle, own⟩

theorem shaped_setSocket (shaped : ∀ other found, host.sockets other = some found → found.Shaped)
    (nextShaped : next.Shaped) :
    ∀ other found, (host.setSocket id next).sockets other = some found → found.Shaped := by
  intro other found isOther
  by_cases same : other = id
  · rw [same, setSocket_self] at isOther
    cases isOther
    exact nextShaped
  · rw [setSocket_of_ne _ _ same] at isOther
    exact shaped other found isOther

end

section

variable (host : Host) (number : Nat) (listen : ListenState)

theorem heldConns_setListen (owner : ConnOwner) : (host.setListen number listen).heldConns owner =
    Function.update host.heldConns (.listener number) listen.queue owner := by
  cases owner with
  | socket id => rw [Function.update_of_ne (by simp)]; rfl
  | dial other => rw [Function.update_of_ne (by simp)]; rfl
  | listener other =>
      by_cases same : other = number
      · subst same
        simp [heldConns]
      · simp [heldConns, same]

theorem listenClosed_setListen (other : Nat) : (host.setListen number listen).listenClosed other ↔
    (other = number ∧ listen.closed = true) ∨ (other ≠ number ∧ host.listenClosed other) := by
  by_cases same : other = number
  · subst same
    simp [listenClosed]
  · simp [listenClosed, same]

theorem present_setListen (present : ∃ old, host.listens number = some old) (other : Nat) :
    (∃ found, (host.setListen number listen).listens other = some found) ↔
      ∃ found, host.listens other = some found := by
  by_cases same : other = number
  · subst same
    simp [present]
  · simp [same]

theorem refused_setListen
    (refused : ∀ other found, host.listens other = some found → found.closed = true →
      found.queue = [])
    (own : listen.closed = true → listen.queue = []) :
    ∀ other found, (host.setListen number listen).listens other = some found →
      found.closed = true → found.queue = [] := by
  intro other found isOther
  by_cases same : other = number
  · rw [same, setListen_self] at isOther
    cases isOther
    exact own
  · rw [setListen_of_ne _ _ same] at isOther
    exact refused other found isOther

variable {host number listen}

theorem heldConns_listener (present : host.listens number = some listen) :
    host.heldConns (.listener number) = listen.queue := by
  simp [heldConns, present]

theorem closeListen_open (present : host.listens number = some listen)
    (unclosed : listen.closed = false) : host.closeListen number =
      (host.setListen number { listen with
        closed := true, signals := listen.signals + 1, queue := [] }).closeConns listen.queue := by
  rw [closeListen, present]
  simp [unclosed]

end

namespace Custody

variable {host : Host}

theorem setSocket (custody : host.Custody) {id : Nat} {socket next : TcpSocket02}
    (present : host.sockets id = some socket) (shaped : next.Shaped)
    (sameConn : next.conn = socket.conn) (sameListen : next.listen = socket.listen)
    (active : socket.state.idle = false → next.state.idle = false)
    (sameDial : next.state = .connectInProgress ↔ socket.state = .connectInProgress)
    (dial : next.dial = socket.dial) : (host.setSocket id next).Custody where
  conns := by
    refine custody.conns.congr (fun owner => ?_) (fun _ => .rfl) (fun _ => .rfl)
    rw [heldConns_setSocket present fun _ _ _ _ _ => sameDial, sameConn, ← heldConns_socket present,
      Function.update_eq_self]
  listens := by
    refine custody.listens.congr (fun other => ?_) (fun _ => .rfl) (fun _ => .rfl)
    rw [heldListens_setSocket, sameListen]
    by_cases same : other = id
    · subst same
      simp [heldListens, present]
    · simp [same]
  refused := custody.refused
  sockets := shaped_setSocket custody.sockets shaped
  dials := fun number found isDial => dialShaped_setSocket (custody.dials number found isDial) present
    active fun _ dialing => ⟨sameDial.mp dialing, dial⟩
  dialing := by
    intro other found isOther dialing number
    by_cases same : other = id
    · rw [same, setSocket_self] at isOther
      cases isOther
      rw [dial, same]
      exact custody.dialing id socket present (sameDial.mp dialing) number
    · rw [setSocket_of_ne _ _ same] at isOther
      exact custody.dialing other found isOther dialing number

theorem bare {next : TcpSocket02} (conn : next.conn = none) (listen : next.listen = none)
    (state : next.state.idle = true ∨ next.state = .connectInProgress ∨ next.state = .closed) :
    next.Shaped := by
  constructor
  · rw [conn]
    rcases state with idle | dialing | isClosed
    · cases found : next.state <;> simp_all [SocketState.idle]
    · simp [dialing]
    · simp [isClosed]
  · rw [listen]
    rcases state with idle | dialing | isClosed
    · cases found : next.state <;> simp_all [SocketState.idle]
    · simp [dialing]
    · simp [isClosed]

theorem startBind (custody : host.Custody) {id : Nat} {socket : TcpSocket02}
    (present : host.sockets id = some socket) (localAddress : IpSocketAddress) :
    (host.unlessThrown (host.startBind id socket localAddress)).Custody := by
  have shaped := custody.sockets id socket present
  unfold Host.startBind
  split
  · exact custody
  case isFalse unbound =>
      cases validateLocal socket.family localAddress "tcp-socket.start-bind" with
      | error failure => exact custody
      | ok _ =>
          have isUnbound : socket.state = .unbound := not_not.mp unbound
          have next : ({ socket with
              localRequest := some localAddress, state := .bindInProgress } : TcpSocket02).Shaped :=
            bare (shaped.none_conn (by simp [isUnbound]))
              (shaped.none_listen (by simp [isUnbound]) (by simp [isUnbound])) (.inl rfl)
          exact custody.setSocket present next rfl rfl (by simp [isUnbound, SocketState.idle])
            (by simp [isUnbound]) rfl

theorem finishBind (custody : host.Custody) {id : Nat} {socket : TcpSocket02}
    (present : host.sockets id = some socket) :
    (host.unlessThrown (host.finishBind id socket)).Custody := by
  have shaped := custody.sockets id socket present
  unfold Host.finishBind
  split
  · exact custody
  case isFalse binding =>
      have isBinding : socket.state = .bindInProgress := not_not.mp binding
      have next : ({ socket with state := .bound } : TcpSocket02).Shaped :=
        bare (shaped.none_conn (by simp [isBinding]))
          (shaped.none_listen (by simp [isBinding]) (by simp [isBinding])) (.inl rfl)
      exact custody.setSocket present next rfl rfl (by simp [isBinding, SocketState.idle])
        (by simp [isBinding]) rfl

theorem startsDial (custody : host.Custody) {id : Nat} {socket : TcpSocket02}
    (present : host.sockets id = some socket) (idle : socket.state.idle = true) :
    ({ (host.setDial host.nextDial ⟨id, false, none, none⟩).setSocket id
        { socket with dial := some host.nextDial, state := .connectInProgress } with
      nextDial := host.nextDial + 1 } : Host).Custody := by
  have shaped := custody.sockets id socket present
  have noConn : socket.conn = none := shaped.none_conn fun isConnected => by
    rw [isConnected] at idle
    cases idle
  have noListen : socket.listen = none := by
    refine shaped.none_listen (fun pending => ?_) (fun up => ?_)
    · rw [pending] at idle
      cases idle
    · rw [up] at idle
      cases idle
  have others : ∀ number dial, host.dials number = some dial →
      dial.socket ≠ id ∧ number ≠ host.nextDial := by
    intro number dial found
    have known := custody.dials number dial found
    refine ⟨fun own => ?_, Nat.ne_of_lt known.fresh⟩
    obtain ⟨other, isOther, notIdle, _⟩ := known.socket
    rw [own, present] at isOther
    cases isOther
    rw [idle] at notIdle
    cases notIdle
  refine ⟨custody.conns.congr (fun owner => ?_) (fun _ => .rfl) (fun _ => .rfl),
    custody.listens.congr (fun other => ?_) (fun _ => .rfl) (fun _ => .rfl), custody.refused,
    ?_, fun number dial found => ?_, fun other found isOther dialing number isDial => ?_⟩
  · cases owner with
    | socket other =>
        by_cases same : other = id
        · subst same
          simp [heldConns, Host.setSocket, present, noConn]
        · simp [heldConns, Host.setSocket, setDial, same]
    | listener number => rfl
    | dial number =>
        by_cases same : number = host.nextDial
        · subst same
          have absent : host.dials host.nextDial = none := by
            cases found : host.dials host.nextDial with
            | none => rfl
            | some dial => exact absurd rfl (others _ dial found).2
          simp [heldConns, Host.setSocket, setDial, absent, dialConns]
        · cases found : host.dials number with
          | none => simp [heldConns, Host.setSocket, setDial, same, found]
          | some dial =>
              have away := (others number dial found).1
              have phase : ({ (host.setDial host.nextDial ⟨id, false, none, none⟩).setSocket id
                  { socket with dial := some host.nextDial, state := .connectInProgress } with
                  nextDial := host.nextDial + 1 } : Host).finishable dial =
                    host.finishable dial := by
                simp [finishable, Host.setSocket, setDial, away]
              simp [heldConns, Host.setSocket, setDial, same, found, dialConns] at phase ⊢
              rw [phase]
  · by_cases same : other = id
    · subst same
      simp [heldListens, Host.setSocket, present, noListen]
    · simp [heldListens, Host.setSocket, setDial, same]
  · exact @shaped_setSocket (host.setDial host.nextDial ⟨id, false, none, none⟩) _ _
      custody.sockets (bare noConn noListen (.inr (.inl rfl)))
  · by_cases same : number = host.nextDial
    · subst same
      obtain rfl : (⟨id, false, none, none⟩ : DialState) = dial := by
        simpa [Host.setSocket, setDial] using found
      exact ⟨Nat.lt_succ_self _, fun _ => ⟨rfl, rfl⟩, fun _ => rfl, _, setSocket_self .., rfl,
        fun _ => rfl⟩
    · have old : host.dials number = some dial := by
        simpa [Host.setSocket, setDial, same] using found
      have known := custody.dials number dial old
      obtain ⟨other, isOther, notIdle, own⟩ := known.socket
      exact ⟨Nat.lt_succ_of_lt known.fresh, known.pending, known.failed, other,
        (setSocket_of_ne _ _ (others number dial old).1).trans isOther, notIdle, own⟩
  · by_cases same : other = id
    · subst same
      obtain rfl : _ = found := Option.some.inj ((setSocket_self ..).symm.trans isOther)
      cases isDial
      exact ⟨⟨other, false, none, none⟩, by simp [Host.setSocket, setDial], rfl⟩
    · have old : host.sockets other = some found :=
        (setSocket_of_ne _ _ same).symm.trans isOther
      obtain ⟨dial, isPresent, own⟩ := custody.dialing other found old dialing number isDial
      have known := (others number dial isPresent).2
      exact ⟨dial, by simp [Host.setSocket, setDial, known, isPresent], own⟩

theorem startConnect (custody : host.Custody) {id : Nat} {socket : TcpSocket02}
    (present : host.sockets id = some socket) (remote : IpSocketAddress) :
    (host.unlessThrown (host.startConnect id socket remote)).Custody := by
  unfold Host.startConnect
  split
  · exact custody
  case isFalse idle =>
      cases validateRemote socket.family remote "tcp-socket.start-connect" with
      | error failure => exact custody
      | ok _ =>
          refine custody.startsDial present ?_
          have isIdle : socket.state = .unbound ∨ socket.state = .bound := by
            by_contra neither
            exact idle (not_or.mp neither)
          obtain unbound | bound := isIdle
          · rw [unbound]
            rfl
          · rw [bound]
            rfl

theorem dial_of (custody : host.Custody) {id number : Nat} {socket : TcpSocket02} {dial : DialState}
    (present : host.sockets id = some socket) (dialing : socket.state = .connectInProgress)
    (isDial : socket.dial = some number) (found : host.dials number = some dial) :
    dial.socket = id ∧ host.heldConns (.dial number) = dial.conn.toList ∧
      host.heldConns (.socket id) = [] := by
  obtain ⟨dial', found', own⟩ := custody.dialing id socket present dialing number isDial
  rw [found] at found'
  cases found'
  have noConn := (custody.sockets id socket present).none_conn (by simp [dialing])
  exact ⟨own, by simp [heldConns, found, dialConns, finishable, own, present, dialing],
    by simp [heldConns, present, noConn]⟩

theorem heldConns_leaves (custody : host.Custody) {id number : Nat} {socket next : TcpSocket02}
    (present : host.sockets id = some socket) (dialing : socket.state = .connectInProgress)
    (isDial : socket.dial = some number) {conn : Nat} (left : next.conn = some conn)
    (state : next.state ≠ .connectInProgress) (owner : ConnOwner) :
    (host.setSocket id next).heldConns owner =
      Function.update (Function.update host.heldConns (.dial number) []) (.socket id) [conn]
        owner := by
  cases owner with
  | socket other =>
      by_cases same : other = id
      · subst same
        simp [heldConns, left]
      · simp [heldConns, same]
  | listener other => simp [heldConns, Host.setSocket]
  | dial other =>
      have sameDials : (host.setSocket id next).dials other = host.dials other := rfl
      rw [Function.update_of_ne (by simp)]
      by_cases same : other = number
      · subst same
        obtain ⟨dial, found, own⟩ := custody.dialing id socket present dialing other isDial
        simp [heldConns, sameDials, found, dialConns, finishable, own, state]
      · rw [Function.update_of_ne (by simpa using same), heldConns, heldConns, sameDials]
        cases found : host.dials other with
        | none => rfl
        | some dial =>
            refine dialConns_setSocket present fun own _ => ?_
            obtain ⟨socket', isSocket, _, only⟩ := (custody.dials other dial found).socket
            rw [own, present] at isSocket
            cases isSocket
            have sameNumber := only dialing
            rw [isDial] at sameNumber
            exact absurd (Option.some.inj sameNumber).symm same

theorem leaves (custody : host.Custody) {id : Nat} {socket next : TcpSocket02}
    (present : host.sockets id = some socket) (shaped : next.Shaped)
    (left : next.state.idle = false ∧ next.state ≠ .connectInProgress) :
    (∀ other found, (host.setSocket id next).sockets other = some found → found.Shaped) ∧
    (∀ number dial, (host.setSocket id next).dials number = some dial →
      (host.setSocket id next).DialShaped number dial) ∧
    (∀ other found, (host.setSocket id next).sockets other = some found →
      found.state = .connectInProgress → ∀ number, found.dial = some number →
        ∃ dial, (host.setSocket id next).dials number = some dial ∧ dial.socket = other) := by
  refine ⟨shaped_setSocket custody.sockets shaped, fun number dial found => ?_,
    fun other found isOther dialing => ?_⟩
  · exact dialShaped_setSocket (custody.dials number dial found) present (fun _ => left.1)
      fun _ dialing => absurd dialing left.2
  · by_cases same : other = id
    · rw [same, setSocket_self] at isOther
      cases isOther
      exact absurd dialing left.2
    · rw [setSocket_of_ne _ _ same] at isOther
      exact custody.dialing other found isOther dialing

theorem finishConnect (custody : host.Custody) {id : Nat} {socket : TcpSocket02}
    (present : host.sockets id = some socket) (keepAlive : Option SocketErrorKind) :
    (afterCall (host.finishConnect id socket keepAlive)).Custody := by
  have shaped := custody.sockets id socket present
  unfold Host.finishConnect
  split
  case h_2 => exact custody
  case h_1 dial dialing found =>
      obtain ⟨number, isDial, isPresent⟩ := Option.bind_eq_some_iff.mp found
      obtain ⟨own, heldDial, heldSocket⟩ := custody.dial_of present dialing isDial isPresent
      have noListen : socket.listen = none :=
        shaped.none_listen (by simp [dialing]) (by simp [dialing])
      split
      · exact custody
      · split
        case h_1 conn _ isConn =>
            have connected : (host.setSocket id
                { socket with conn := some conn, dial := none, state := .connected }).Custody := by
              obtain ⟨sockets, dials, dialings⟩ := custody.leaves present
                (⟨by simp, by simp [noListen]⟩ : ({ socket with
                  conn := some conn, dial := none, state := .connected } : TcpSocket02).Shaped)
                ⟨rfl, by simp⟩
              refine ⟨?_, ?_, custody.refused, sockets, dials, dialings⟩
              · rw [isConn] at heldDial
                refine (custody.conns.move heldDial heldSocket).congr (fun owner => ?_)
                  (fun _ => .rfl) (fun _ => .rfl)
                exact custody.heldConns_leaves present dialing isDial rfl (by simp) owner
              · refine custody.listens.congr (fun other => ?_) (fun _ => .rfl) (fun _ => .rfl)
                rw [heldListens_setSocket, noListen]
                by_cases same : other = id
                · subst same
                  simp [heldListens, present, noListen]
                · simp [same]
            split
            · exact connected
            · exact connected
        case h_2 failed =>
            have noConn : dial.conn = none := by
              cases isError : dial.error with
              | some kind =>
                  exact (custody.dials number dial isPresent).failed (by simp [isError])
              | none =>
                  cases isConn : dial.conn with
                  | none => rfl
                  | some conn => exact absurd isConn (failed conn isError)
            obtain ⟨sockets, dials, dialings⟩ := custody.leaves present
              (bare (shaped.none_conn (by simp [dialing])) noListen (.inr (.inr rfl)) :
                ({ socket with state := .closed, dial := none } : TcpSocket02).Shaped)
              ⟨rfl, by simp⟩
            change (host.setSocket id { socket with state := .closed, dial := none }).Custody
            refine ⟨custody.conns.congr (fun owner => ?_) (fun _ => .rfl) (fun _ => .rfl),
              custody.listens.congr (fun other => ?_) (fun _ => .rfl) (fun _ => .rfl),
              custody.refused, sockets, dials, dialings⟩
            · rw [heldConns_setSocket present, ← heldConns_socket present, Function.update_eq_self]
              intro other dial' found' own' hasConn
              obtain ⟨socket', isSocket, _, only⟩ := (custody.dials other dial' found').socket
              rw [own', present] at isSocket
              cases isSocket
              have sameNumber := only dialing
              rw [isDial] at sameNumber
              cases sameNumber
              rw [isPresent] at found'
              cases found'
              simp [noConn] at hasConn
            · rw [heldListens_setSocket]
              by_cases same : other = id
              · subst same
                simp [heldListens, present]
              · simp [same]

theorem startListen (custody : host.Custody) (linked : host.Linked) {id : Nat}
    {socket : TcpSocket02} (present : host.sockets id = some socket) :
    (host.unlessThrown (host.startListen id socket)).Custody := by
  have shaped := custody.sockets id socket present
  unfold Host.startListen
  split
  · exact custody
  case isFalse idle =>
      have isIdle : socket.state = .unbound ∨ socket.state = .bound := by
        by_contra neither
        exact idle (not_or.mp neither)
      have noConn : socket.conn = none := by
        obtain unbound | bound := isIdle
        · exact shaped.none_conn (by simp [unbound])
        · exact shaped.none_conn (by simp [bound])
      have noListen : socket.listen = none := by
        obtain unbound | bound := isIdle
        · exact shaped.none_listen (by simp [unbound]) (by simp [unbound])
        · exact shaped.none_listen (by simp [bound]) (by simp [bound])
      have notDialing : socket.state ≠ .connectInProgress := by
        obtain unbound | bound := isIdle
        · simp [unbound]
        · simp [bound]
      have absent : host.listens host.nextListen = none := by
        cases found : host.listens host.nextListen with
        | none => rfl
        | some listen => exact absurd (linked.fresh _ listen found) (Nat.lt_irrefl _)
      obtain ⟨sockets, dials, dialings⟩ := custody.leaves present
        (⟨by simp [noConn], by simp⟩ : ({ socket with
          listen := some host.nextListen, state := .listenInProgress } : TcpSocket02).Shaped)
        ⟨rfl, by simp⟩
      let listened := host.setListen host.nextListen .create
      let next : TcpSocket02 :=
        { socket with listen := some host.nextListen, state := .listenInProgress }
      change ({ listened.setSocket id next with nextListen := host.nextListen + 1 } : Host).Custody
      refine ⟨custody.conns.congr (fun owner => ?_) (fun _ => .rfl) (fun _ => .rfl), ?_,
        refused_setListen host host.nextListen .create custody.refused (fun _ => rfl), sockets,
        fun number dial found => (dials number dial found).mono rfl (Nat.le_refl _), dialings⟩
      · have socketPart : (listened.setSocket id next).heldConns owner =
            Function.update listened.heldConns (.socket id) next.conn.toList owner :=
          @heldConns_setSocket listened id socket next present
            (fun _ _ _ _ _ => by simp [next, notDialing]) owner
        have sameHeld : listened.heldConns = host.heldConns := by
          funext other
          have unheld : host.heldConns (.listener host.nextListen) = [] := by
            simp [heldConns, absent]
          rw [heldConns_setListen, ListenState.create, ← unheld, Function.update_eq_self]
        have own : host.heldConns (.socket id) = next.conn.toList := by
          rw [heldConns_socket present]
        refine (heldConns_congr rfl rfl rfl owner).trans (socketPart.trans ?_)
        rw [sameHeld, ← own, Function.update_eq_self]
      · have unheld : host.heldListens id = [] := by
          simp [heldListens, present, noListen]
        have new : ¬ ∃ listen, host.listens host.nextListen = some listen := by simp [absent]
        refine (custody.listens.gain new id).congr (fun other => ?_) (fun other => ?_)
          (fun other => ?_)
        · rw [unheld]
          exact heldListens_setSocket next other
        · by_cases same : other = host.nextListen
          · subst same
            simp [listened, Host.setSocket]
          · simp [listened, Host.setSocket, same]
        · refine (listenClosed_setListen host host.nextListen .create other).trans ?_
          have notClosed : ListenState.create.closed = false := rfl
          have unissued : ¬ host.listenClosed host.nextListen := by simp [listenClosed, absent]
          constructor
          · rintro (⟨_, isClosed⟩ | ⟨_, isClosed⟩)
            · exact absurd isClosed (by simp [notClosed])
            · exact isClosed
          · intro isClosed
            exact .inr ⟨fun same => unissued (same ▸ isClosed), isClosed⟩

theorem detach (custody : host.Custody) {id number : Nat} {socket next : TcpSocket02}
    (present : host.sockets id = some socket) (isListen : socket.listen = some number)
    (left : next.conn = none ∧ next.listen = none ∧ next.state = .closed) :
    ((host.setSocket id next).closeListen number).Custody := by
  have shaped := custody.sockets id socket present
  have listening := shaped.listen.mp (by simp [isListen])
  have held : host.heldListens id = [number] := by simp [heldListens, present, isListen]
  obtain ⟨listen, isPresent⟩ := custody.listens.known id number (by simp [held])
  have unclosed : listen.closed = false := by
    have notClosed := custody.listens.unclosed id number (by simp [held])
    simpa [listenClosed, isPresent] using notClosed
  have noConn : socket.conn = none := by
    obtain pending | up := listening
    · exact shaped.none_conn (by simp [pending])
    · exact shaped.none_conn (by simp [up])
  have notDialing : socket.state ≠ .connectInProgress := by
    obtain pending | up := listening
    · simp [pending]
    · simp [up]
  obtain ⟨sockets, dials, dialings⟩ := custody.leaves present (bare left.1 left.2.1 (.inr (.inr left.2.2)))
    ⟨by rw [left.2.2]; rfl, by simp [left.2.2]⟩
  let closed : ListenState := { listen with
    closed := true, signals := listen.signals + 1, queue := [] }
  have shape : (host.setSocket id next).closeListen number =
      ((host.setSocket id next).setListen number closed).closeConns listen.queue :=
    closeListen_open isPresent unclosed
  have sameHeld : (host.setSocket id next).heldConns = host.heldConns := by
    funext owner
    have own : host.heldConns (.socket id) = next.conn.toList := by
      rw [heldConns_socket present, noConn, left.1]
    rw [heldConns_setSocket present (fun _ _ _ _ _ => by simp [left.2.2, notDialing]), ← own,
      Function.update_eq_self]
  have queue : host.heldConns (.listener number) = listen.queue := heldConns_listener isPresent
  rw [shape]
  refine ⟨?_, ?_, refused_setListen _ number closed custody.refused (fun _ => rfl), sockets,
    fun other dial found => (dials other dial found).mono rfl (Nat.le_refl _), dialings⟩
  · refine (custody.conns.release (.listener number)).congr (fun owner => ?_) (fun _ => .rfl)
      (fun conn => ?_)
    · have sameOwner : (((host.setSocket id next).setListen number closed).closeConns
          listen.queue).heldConns owner =
            ((host.setSocket id next).setListen number closed).heldConns owner :=
        heldConns_congr rfl rfl rfl owner
      rw [sameOwner, heldConns_setListen, sameHeld]
    · rw [queue]
      simp only [closeConns, Bool.or_eq_true, decide_eq_true_eq]
      exact Or.comm
  · refine (custody.listens.release id).congr (fun other => ?_) (fun other => ?_) (fun other => ?_)
    · refine (heldListens_setSocket next other).trans ?_
      rw [left.2.1]
      rfl
    · exact present_setListen _ number closed ⟨listen, isPresent⟩ other
    · refine (listenClosed_setListen _ number closed other).trans ?_
      rw [held, List.mem_singleton]
      constructor
      · rintro (⟨same, _⟩ | ⟨_, isClosed⟩)
        · exact .inr same
        · exact .inl isClosed
      · rintro (isClosed | same)
        · by_cases same : other = number
          · exact .inl ⟨same, rfl⟩
          · exact .inr ⟨same, isClosed⟩
        · exact .inl ⟨same, rfl⟩

theorem closeListen_setSocket (host : Host) (number id : Nat) (next : TcpSocket02) :
    (host.closeListen number).setSocket id next = (host.setSocket id next).closeListen number := by
  have sameListens : (host.setSocket id next).listens = host.listens := rfl
  rw [closeListen, closeListen, sameListens]
  cases host.listens number with
  | none => rfl
  | some listen =>
      dsimp only
      split <;> rfl

theorem finishListen (custody : host.Custody) {id : Nat} {socket : TcpSocket02}
    (present : host.sockets id = some socket) :
    (afterCall (host.finishListen id socket)).Custody := by
  have shaped := custody.sockets id socket present
  unfold Host.finishListen
  split
  case h_2 => exact custody
  case h_1 number pending isListen =>
      have noConn : socket.conn = none := shaped.none_conn (by simp [pending])
      cases host.listens number with
      | none => exact custody
      | some listen =>
          dsimp only
          split
          · exact custody
          · split
            · rw [afterCall, closeListen_setSocket]
              exact custody.detach present isListen ⟨noConn, rfl, rfl⟩
            · exact custody.setSocket present
                (⟨by simp [noConn], by simp [isListen]⟩ :
                  ({ socket with state := .listening } : TcpSocket02).Shaped) rfl rfl
                (fun _ => rfl) (by simp [pending]) rfl

theorem dispose (custody : host.Custody) {id : Nat} {socket : TcpSocket02}
    (present : host.sockets id = some socket) (settled : host.NoneSettled socket) :
    (host.dispose id socket).Custody := by
  have shaped := custody.sockets id socket present
  let next : TcpSocket02 := { socket with state := .closed, conn := none, listen := none }
  cases isListen : socket.listen with
  | some number =>
      have listening := shaped.listen.mp (by simp [isListen])
      have noConn : socket.conn = none := by
        obtain pending | up := listening
        · exact shaped.none_conn (by simp [pending])
        · exact shaped.none_conn (by simp [up])
      simp only [Host.dispose, noConn, isListen]
      exact custody.detach present isListen ⟨rfl, rfl, rfl⟩
  | none =>
      obtain ⟨sockets, dials, dialings⟩ := custody.leaves present
        (bare rfl rfl (.inr (.inr rfl)) : next.Shaped) ⟨rfl, by simp [next]⟩
      have held : (host.setSocket id next).heldConns =
          Function.update host.heldConns (.socket id) [] := by
        funext owner
        refine heldConns_setSocket present (fun number dial found own hasConn => ?_) owner
        obtain ⟨socket', isSocket, _, only⟩ := (custody.dials number dial found).socket
        rw [own, present] at isSocket
        cases isSocket
        have notDialing : socket.state ≠ .connectInProgress := by
          intro dialing
          simp [settled dialing number dial (only dialing) found] at hasConn
        simp [next, notDialing]
      have listens : Holdings (host.setSocket id next).heldListens
          (fun number => ∃ listen, host.listens number = some listen) host.listenClosed := by
        refine custody.listens.congr (fun other => ?_) (fun _ => .rfl) (fun _ => .rfl)
        refine (heldListens_setSocket next other).trans ?_
        have own : host.heldListens id = next.listen.toList := by
          simp [heldListens, present, isListen, next]
        rw [← own, Function.update_eq_self]
      have released := custody.conns.release (.socket id)
      rw [heldConns_socket present] at released
      cases isConn : socket.conn with
      | none =>
          simp only [Host.dispose, isConn, isListen]
          change (host.setSocket id next).Custody
          refine ⟨released.congr (fun owner => by rw [← held]) (fun _ => .rfl)
            (fun conn => by simp [isConn, Host.setSocket]), listens, custody.refused, sockets, dials,
            dialings⟩
      | some conn =>
          simp only [Host.dispose, isConn, isListen]
          change ((host.closeConn conn).setSocket id next).Custody
          refine ⟨released.congr (fun owner => ?_) (fun _ => .rfl) (fun other => ?_), listens,
            custody.refused, sockets,
            fun other dial found => (dials other dial found).mono rfl (Nat.le_refl _), dialings⟩
          · rw [← held]
            exact heldConns_congr rfl rfl rfl owner
          · by_cases same : other = conn
            · subst same
              simp [Host.setSocket, closeConn, isConn]
            · simp [Host.setSocket, closeConn, isConn, same]

theorem addSocket (custody : host.Custody) (linked : host.Linked) {socket : TcpSocket02}
    (shaped : socket.Shaped) (noListen : socket.listen = none)
    (notDialing : socket.state ≠ .connectInProgress) :
    (∀ owner, (host.addSocket socket).heldConns owner =
      Function.update host.heldConns (.socket host.nextSocket) socket.conn.toList owner) ∧
    Holdings (host.addSocket socket).heldListens
      (fun number => ∃ listen, host.listens number = some listen) host.listenClosed ∧
    (∀ other found, (host.addSocket socket).sockets other = some found → found.Shaped) ∧
    (∀ number dial, host.dials number = some dial →
      (host.addSocket socket).DialShaped number dial) ∧
    (∀ other found, (host.addSocket socket).sockets other = some found →
      found.state = .connectInProgress → ∀ number, found.dial = some number →
        ∃ dial, host.dials number = some dial ∧ dial.socket = other) := by
  have known : ∀ other found, host.sockets other = some found → other ≠ host.nextSocket :=
    fun other found isOther => Nat.ne_of_lt (linked.numbered other found isOther)
  have absent : host.sockets host.nextSocket = none := by
    cases found : host.sockets host.nextSocket with
    | none => rfl
    | some other => exact absurd rfl (known _ other found)
  have away : ∀ number dial, host.dials number = some dial → dial.socket ≠ host.nextSocket := by
    intro number dial found
    obtain ⟨other, isOther, _⟩ := (custody.dials number dial found).socket
    exact known _ other isOther
  refine ⟨fun owner => ?_, custody.listens.congr (fun other => ?_) (fun _ => .rfl) (fun _ => .rfl),
    fun other found isOther => ?_, fun number dial found => ?_,
    fun other found isOther dialing number isDial => ?_⟩
  · cases owner with
    | socket other =>
        by_cases same : other = host.nextSocket
        · subst same
          simp [heldConns]
        · simp [heldConns, same]
    | listener number => rw [Function.update_of_ne (by simp)]; rfl
    | dial number =>
        have sameDials : (host.addSocket socket).dials number = host.dials number := rfl
        rw [Function.update_of_ne (by simp), heldConns, heldConns, sameDials]
        cases found : host.dials number with
        | none => rfl
        | some dial =>
            have phase : (host.addSocket socket).finishable dial = host.finishable dial := by
              rw [finishable, finishable, addSocket_of_ne _ _ (away number dial found)]
            change (host.addSocket socket).dialConns dial = host.dialConns dial
            rw [dialConns, dialConns, phase]
  · by_cases same : other = host.nextSocket
    · subst same
      simp [heldListens, noListen, absent]
    · simp [heldListens, same]
  · by_cases same : other = host.nextSocket
    · rw [same, addSocket_self] at isOther
      cases isOther
      exact shaped
    · rw [addSocket_of_ne _ _ same] at isOther
      exact custody.sockets other found isOther
  · have old := custody.dials number dial found
    obtain ⟨other, isOther, facts⟩ := old.socket
    exact ⟨old.fresh, old.pending, old.failed, other,
      (addSocket_of_ne _ _ (away number dial found)).trans isOther, facts⟩
  · by_cases same : other = host.nextSocket
    · rw [same, addSocket_self] at isOther
      cases isOther
      exact absurd dialing notDialing
    · rw [addSocket_of_ne _ _ same] at isOther
      exact custody.dialing other found isOther dialing number isDial

theorem createTcpSocket (custody : host.Custody) (linked : host.Linked) (family : IpAddressFamily) :
    (host.createTcpSocket family).Custody := by
  obtain ⟨held, listens, sockets, dials, dialings⟩ := custody.addSocket linked
    (bare rfl rfl (.inl rfl) : (⟨family, .unbound, none, none, none, none⟩ : TcpSocket02).Shaped)
    rfl (by simp)
  refine ⟨custody.conns.congr (fun owner => (held owner).trans ?_) (fun _ => .rfl) (fun _ => .rfl),
    listens, custody.refused, sockets, dials, dialings⟩
  have absent : host.sockets host.nextSocket = none := by
    cases found : host.sockets host.nextSocket with
    | none => rfl
    | some other => exact absurd (linked.numbered _ other found) (Nat.lt_irrefl _)
  have unheld : host.heldConns (.socket host.nextSocket) = [] := by simp [heldConns, absent]
  rw [Option.toList_none, ← unheld, Function.update_eq_self]

theorem onListen (custody : host.Custody) (number : Nat) {event : ListenState → ListenState}
    (queue : ∀ listen, (event listen).queue = listen.queue)
    (closed : ∀ listen, (event listen).closed = listen.closed) :
    (host.onListen number event).Custody := by
  rw [Host.onListen]
  cases found : host.listens number with
  | none => exact custody
  | some listen =>
      change (host.setListen number (event listen)).Custody
      refine ⟨custody.conns.congr (fun owner => ?_) (fun _ => .rfl) (fun _ => .rfl),
        custody.listens.congr (fun _ => rfl) (present_setListen host number _ ⟨listen, found⟩)
          (fun other => ?_),
        refused_setListen host number _ custody.refused (fun isClosed => ?_), custody.sockets,
        fun other dial isDial => (custody.dials other dial isDial).mono rfl (Nat.le_refl _),
        custody.dialing⟩
      · rw [heldConns_setListen, queue, ← heldConns_listener found, Function.update_eq_self]
      · rw [listenClosed_setListen, closed]
        by_cases same : other = number
        · subst same
          simp [listenClosed, found]
        · simp [same]
      · rw [queue]
        exact custody.refused number listen found (by rw [← closed, isClosed])

theorem tryAccept_some {listen rest : ListenState} {conn : Nat}
    (took : listen.tryAccept = .ok (some conn, rest)) : ∃ waiting,
      listen.queue = conn :: waiting ∧ rest = { listen with queue := waiting } ∧
        listen.closed = false := by
  unfold ListenState.tryAccept at took
  split at took
  · cases took
  · split at took
    · cases took
    case isFalse isOpen =>
        cases queue : listen.queue with
        | nil =>
            rw [queue] at took
            cases took
        | cons conn waiting =>
            rw [queue] at took
            cases took
            exact ⟨waiting, rfl, rfl, by simpa using isOpen⟩

theorem accept (custody : host.Custody) (linked : host.Linked) (socket : TcpSocket02) :
    (host.unlessThrown (host.accept socket)).Custody := by
  unfold Host.accept
  split
  case h_2 => exact custody
  case h_1 number _ _ =>
      cases isPresent : host.listens number with
      | none => exact custody
      | some listen =>
          dsimp only
          split
          · exact custody
          · exact custody
          case h_3 conn rest took =>
              obtain ⟨waiting, queue, rfl, unclosed⟩ := tryAccept_some took
              let accepted : TcpSocket02 := ⟨socket.family, .connected, none, none, none, some conn⟩
              obtain ⟨held, listens, sockets, dials, dialings⟩ := custody.addSocket linked
                (⟨by simp [accepted], by simp [accepted]⟩ : accepted.Shaped) rfl (by simp [accepted])
              have absent : host.sockets host.nextSocket = none := by
                cases found : host.sockets host.nextSocket with
                | none => rfl
                | some other => exact absurd (linked.numbered _ other found) (Nat.lt_irrefl _)
              have unheld : host.heldConns (.socket host.nextSocket) = [] := by
                simp [heldConns, absent]
              have first : host.heldConns (.listener number) = conn :: waiting := by
                rw [heldConns_listener isPresent, queue]
              change ((host.addSocket accepted).setListen number
                { listen with queue := waiting }).Custody
              refine ⟨(custody.conns.move first unheld).congr (fun owner => ?_) (fun _ => .rfl)
                  (fun _ => .rfl),
                listens.congr (fun _ => rfl)
                  (present_setListen (host.addSocket accepted) number _ ⟨listen, isPresent⟩)
                  (fun other => ?_),
                refused_setListen _ number _ custody.refused
                  (fun isClosed => absurd isClosed (by simp [unclosed])), sockets,
                fun other dial isDial => (dials other dial isDial).mono rfl (Nat.le_refl _), dialings⟩
              · rw [heldConns_setListen, funext held]
                exact congrFun (Function.update_comm (by simp) _ _ _) owner
              · refine (listenClosed_setListen _ number _ other).trans ?_
                by_cases same : other = number
                · subst same
                  simp [listenClosed, isPresent, unclosed]
                · rw [and_iff_right same]
                  exact ⟨fun either => either.elim (fun both => absurd both.1 same) id, .inr⟩

theorem refuses (custody : host.Custody) :
    Holdings host.heldConns (· < host.nextConn + 1)
      (Function.update host.connClosed host.nextConn true · = true) := by
  refine (custody.conns.refuse (Nat.lt_irrefl host.nextConn)).congr (fun _ => rfl)
    (fun conn => by omega) (fun conn => ?_)
  by_cases same : conn = host.nextConn
  · subst same
    simp
  · simp [same]

theorem obtains (custody : host.Custody) (owner : ConnOwner) :
    Holdings (Function.update host.heldConns owner (host.heldConns owner ++ [host.nextConn]))
      (· < host.nextConn + 1) (host.connClosed · = true) :=
  (custody.conns.gain (Nat.lt_irrefl host.nextConn) owner).congr (fun _ => rfl)
    (fun conn => by omega) (fun _ => .rfl)

theorem connectionArrives (custody : host.Custody) (number : Nat) :
    (host.connectionArrives number).Custody := by
  rw [Host.connectionArrives]
  cases found : host.listens number with
  | none => exact custody
  | some listen =>
      dsimp only
      split
      · change ({ host.closeConn host.nextConn with nextConn := host.nextConn + 1 } : Host).Custody
        refine ⟨custody.refuses.congr (fun owner => heldConns_congr rfl rfl rfl owner)
          (fun _ => .rfl) (fun _ => .rfl), custody.listens, custody.refused, custody.sockets,
          fun other dial isDial => (custody.dials other dial isDial).mono rfl (Nat.le_refl _),
          custody.dialing⟩
      case isFalse isOpen =>
        have unclosed : listen.closed = false := by
          simpa using (not_or.mp isOpen).1
        let next : ListenState := { listen with
          queue := listen.queue ++ [host.nextConn], signals := listen.signals + 1 }
        change ({ host.setListen number next with nextConn := host.nextConn + 1 } : Host).Custody
        refine ⟨(custody.obtains (.listener number)).congr (fun owner => ?_) (fun _ => .rfl)
            (fun _ => .rfl),
          custody.listens.congr (fun _ => rfl) (present_setListen host number _ ⟨listen, found⟩)
            (fun other => ?_),
          refused_setListen host number _ custody.refused
            (fun isClosed => absurd isClosed (by simp [next, unclosed])), custody.sockets,
          fun other dial isDial => (custody.dials other dial isDial).mono rfl (Nat.le_refl _),
          custody.dialing⟩
        · have sameOwner : ({ host.setListen number next with
              nextConn := host.nextConn + 1 } : Host).heldConns owner =
                (host.setListen number next).heldConns owner := heldConns_congr rfl rfl rfl owner
          rw [sameOwner, heldConns_setListen, heldConns_listener found]
        · refine (listenClosed_setListen host number next other).trans ?_
          by_cases same : other = number
          · subst same
            simp [listenClosed, found, next]
          · simp [same]

theorem settled (custody : host.Custody) {number : Nat} {dial next : DialState}
    (found : host.dials number = some dial) (sameSocket : next.socket = dial.socket)
    (done : next.done = true) (failed : next.error.isSome = true → next.conn = none) :
    (∀ owner, (host.setDial number next).heldConns owner =
      Function.update host.heldConns (.dial number) (host.dialConns next) owner) ∧
    (∀ other dial', (host.setDial number next).dials other = some dial' →
      (host.setDial number next).DialShaped other dial') ∧
    (∀ other socket, host.sockets other = some socket → socket.state = .connectInProgress →
      ∀ another, socket.dial = some another →
        ∃ dial', (host.setDial number next).dials another = some dial' ∧ dial'.socket = other) := by
  refine ⟨fun owner => ?_, fun other dial' isDial => ?_,
    fun other socket isSocket dialing another isDial => ?_⟩
  · cases owner with
    | socket id => rw [Function.update_of_ne (by simp)]; rfl
    | listener other => rw [Function.update_of_ne (by simp)]; rfl
    | dial other =>
        by_cases same : other = number
        · subst same
          simp only [heldConns, setDial_self, Function.update_self]
          rfl
        · rw [Function.update_of_ne (by simpa using same), heldConns, heldConns,
            setDial_of_ne _ _ same]
          rfl
  · by_cases same : other = number
    · subst same
      rw [setDial_self] at isDial
      cases isDial
      have old := custody.dials other dial found
      exact ⟨old.fresh, fun unsettled => by simp [done] at unsettled, failed,
        sameSocket ▸ old.socket⟩
    · rw [setDial_of_ne _ _ same] at isDial
      exact (custody.dials other dial' isDial).mono rfl (Nat.le_refl _)
  · obtain ⟨dial', isPresent, own⟩ := custody.dialing other socket isSocket dialing another isDial
    by_cases same : another = number
    · subst same
      rw [found] at isPresent
      cases isPresent
      exact ⟨next, setDial_self .., sameSocket.trans own⟩
    · exact ⟨dial', (setDial_of_ne _ _ same).trans isPresent, own⟩

theorem dialSettles (custody : host.Custody) (number : Nat) (error : Option SocketErrorKind) :
    (host.dialSettles number error).Custody := by
  rw [Host.dialSettles]
  cases found : host.dials number with
  | none => exact custody
  | some dial =>
      have shaped := custody.dials number dial found
      dsimp only
      split
      · exact custody
      case isFalse pending =>
        obtain ⟨noConn, noError⟩ := shaped.pending (by simpa using pending)
        have held : host.heldConns (.dial number) = [] := by
          simp [heldConns, found, dialConns, noConn]
        cases error with
        | some kind =>
            obtain ⟨heldNow, dials, dialings⟩ := @settled host custody number dial
              { dial with done := true, error := some kind } found rfl rfl (fun _ => noConn)
            refine ⟨custody.conns.congr (fun owner => ?_) (fun _ => .rfl) (fun _ => .rfl),
              custody.listens, custody.refused, custody.sockets, dials, dialings⟩
            refine (heldNow owner).trans ?_
            have none : host.dialConns { dial with done := true, error := some kind } = [] := by
              simp [dialConns, noConn]
            rw [none, ← held, Function.update_eq_self]
        | none =>
            let next : DialState := { dial with done := true, conn := some host.nextConn }
            obtain ⟨heldNow, dials, dialings⟩ := @settled host custody number dial next found rfl rfl
              (fun failed => by simp [next, noError] at failed)
            obtain ⟨socket, isSocket, _⟩ := shaped.socket
            have waits : host.finishable next = decide (socket.state = .connectInProgress) := by
              simp [finishable, next, isSocket]
            dsimp only
            rw [isSocket]
            split
            next dialing =>
              cases dialing
              refine ⟨(custody.obtains (.dial number)).congr (fun owner => ?_) (fun _ => .rfl)
                  (fun _ => .rfl), custody.listens, custody.refused, custody.sockets,
                fun other dial' isDial => (dials other dial' isDial).mono rfl (Nat.le_refl _),
                dialings⟩
              refine (heldConns_congr rfl rfl rfl owner).trans ((heldNow owner).trans ?_)
              rw [held, dialConns, waits]
              rfl
            next other =>
              have gone : socket.state ≠ .connectInProgress := by
                intro dialing
                obtain ⟨family, state, localRequest, isDial, listen, conn⟩ := socket
                cases dialing
                exact other family localRequest isDial listen conn rfl
              refine ⟨custody.refuses.congr (fun owner => ?_) (fun _ => .rfl) (fun _ => .rfl),
                custody.listens, custody.refused, custody.sockets,
                fun other dial' isDial => (dials other dial' isDial).mono rfl (Nat.le_refl _),
                dialings⟩
              refine (heldConns_congr rfl rfl rfl owner).trans ((heldNow owner).trans ?_)
              rw [dialConns, waits, decide_eq_false gone, ← held]
              exact congrFun (Function.update_eq_self _ _) owner

theorem onSocket (custody : host.Custody) (id : Nat) {call : TcpSocket02 → Host}
    (kept : ∀ socket, host.sockets id = some socket → (call socket).Custody) :
    (host.onSocket id call).Custody := by
  rw [Host.onSocket]
  cases present : host.sockets id with
  | none => exact custody
  | some socket => exact kept socket present

theorem empty : Host.empty.Custody where
  conns := by
    have nothing : Host.empty.heldConns = fun _ => [] := by
      funext owner
      cases owner <;> rfl
    rw [nothing]
    exact .nothing (fun conn => Nat.not_lt_zero conn) (by simp [Host.empty])
  listens := Holdings.nothing (by simp [Host.empty]) (by simp [listenClosed, Host.empty])
  refused := fun _ _ found => by cases found
  sockets := fun _ _ found => by cases found
  dials := fun _ _ found => by cases found
  dialing := fun _ _ found => by cases found

end Custody

/-- A handle is not disposed of while its dial has settled with a connection that it has not
taken. -/
def Orderly (action : Action) (host : Host) : Prop :=
  match action with
  | .dispose id => ∀ socket, host.sockets id = some socket → host.NoneSettled socket
  | _ => True

theorem Custody.step {host : Host} (custody : host.Custody) (linked : host.Linked) (action : Action)
    (orderly : Orderly action host) : (step action host).Custody := by
  cases action with
  | createTcpSocket family => exact custody.createTcpSocket linked family
  | startBind id localAddress =>
      exact custody.onSocket id fun _ present => custody.startBind present localAddress
  | finishBind id => exact custody.onSocket id fun _ present => custody.finishBind present
  | startConnect id remote =>
      exact custody.onSocket id fun _ present => custody.startConnect present remote
  | finishConnect id keepAlive =>
      exact custody.onSocket id fun _ present => custody.finishConnect present keepAlive
  | startListen id => exact custody.onSocket id fun _ present => custody.startListen linked present
  | finishListen id => exact custody.onSocket id fun _ present => custody.finishListen present
  | accept id => exact custody.onSocket id fun socket _ => custody.accept linked socket
  | dispose id =>
      exact custody.onSocket id fun socket present => custody.dispose present (orderly socket present)
  | dialSettles number error => exact custody.dialSettles number error
  | listenComesUp number =>
      refine custody.onListen number (fun listen => ?_) (fun listen => ?_)
      · unfold ListenState.comesUp
        split <;> rfl
      · unfold ListenState.comesUp
        split <;> rfl
  | listenFails number kind => exact custody.onListen number (fun _ => rfl) (fun _ => rfl)
  | listenSettles number =>
      refine custody.onListen number (fun listen => ?_) (fun listen => ?_)
      · unfold ListenState.settles
        split <;> rfl
      · unfold ListenState.settles
        split <;> rfl
  | connectionArrives number => exact custody.connectionArrives number

theorem run_custody {actions : List Action}
    (orderly : Transition.Throughout step Orderly actions empty) :
    (Transition.runAll step actions empty).Custody := by
  have kept : ∀ action (host : Host), host.Custody ∧ host.Linked → Orderly action host →
      (step action host).Custody ∧ (step action host).Linked :=
    fun action host both allowed =>
      ⟨both.1.step both.2 action allowed, (Becomes.step both.2 action).linked⟩
  exact (orderly.invariant kept ⟨Custody.empty, Linked.empty⟩).1

end Host

end Polyengine.Wasi.Tcp02
