import Polyengine.Wasi.TcpSocket02

/-!
# What the sockets of a host can still become

A socket moves through its states in one direction: once its dial or its listener is pending, a later
state has the same dial or listener or has left that phase for good. A listener only becomes ready
with a signal.
-/

set_option autoImplicit false

namespace Polyengine.Wasi.Tcp02

open Polyengine.Library Polyengine.Wasi.Sockets

def SocketState.all : List SocketState :=
  [.unbound, .bindInProgress, .bound, .connectInProgress, .connected, .listenInProgress, .listening,
    .closed]

theorem SocketState.mem_all (state : SocketState) : state ∈ all := by
  cases state <;> decide

/-- Whether a state can lead to another, or is the other. -/
def SocketState.leadsTo : SocketState → SocketState → Bool
  | _, .closed => true
  | .unbound, _ => true
  | .bindInProgress, .unbound => false
  | .bindInProgress, _ => true
  | .bound, .unbound => false
  | .bound, .bindInProgress => false
  | .bound, _ => true
  | .connectInProgress, .connectInProgress => true
  | .connectInProgress, .connected => true
  | .connected, .connected => true
  | .listenInProgress, .listenInProgress => true
  | .listenInProgress, .listening => true
  | .listening, .listening => true
  | _, _ => false

theorem SocketState.leadsTo_refl (state : SocketState) : state.leadsTo state = true := by
  cases state <;> rfl

theorem SocketState.leadsTo_closed (state : SocketState) : state.leadsTo .closed = true := by
  cases state <;> rfl

theorem SocketState.leadsTo_trans : ∀ {first second third : SocketState},
    first.leadsTo second = true → second.leadsTo third = true → first.leadsTo third = true := by
  have holds : ∀ first ∈ all, ∀ second ∈ all, ∀ third ∈ all,
      first.leadsTo second = true → second.leadsTo third = true →
        first.leadsTo third = true := by
    decide
  exact fun {first second third} =>
    holds first first.mem_all second second.mem_all third third.mem_all

theorem SocketState.leadsTo_antisymm : ∀ {first second : SocketState},
    first.leadsTo second = true → second.leadsTo first = true → first = second := by
  have holds : ∀ first ∈ all, ∀ second ∈ all,
      first.leadsTo second = true → second.leadsTo first = true → first = second := by
    decide
  exact fun {first second} => holds first first.mem_all second second.mem_all

/-- What a socket can become. -/
structure TcpSocket02.Later (socket later : TcpSocket02) : Prop where
  leads : socket.state.leadsTo later.state = true
  dial : socket.state = .connectInProgress → later.state = .connectInProgress →
    later.dial = socket.dial
  listen : socket.state = .listenInProgress ∨ socket.state = .listening →
    later.state ≠ .closed → later.listen = socket.listen

namespace TcpSocket02.Later

theorem refl (socket : TcpSocket02) : socket.Later socket :=
  ⟨socket.state.leadsTo_refl, fun _ _ => rfl, fun _ _ => rfl⟩

theorem trans {first second third : TcpSocket02} (toSecond : first.Later second)
    (toThird : second.Later third) : first.Later third where
  leads := SocketState.leadsTo_trans toSecond.leads toThird.leads
  dial := by
    intro dialing still
    have back := toThird.leads
    rw [still, ← dialing] at back
    have between : second.state = .connectInProgress :=
      dialing ▸ (SocketState.leadsTo_antisymm toSecond.leads back).symm
    exact (toThird.dial between still).trans (toSecond.dial dialing between)
  listen := by
    intro listening unclosed
    have open' : second.state ≠ .closed := by
      intro isClosed
      have ends := toThird.leads
      rw [isClosed] at ends
      exact unclosed (SocketState.leadsTo_antisymm third.state.leadsTo_closed ends)
    have between : second.state = .listenInProgress ∨ second.state = .listening := by
      have leads := toSecond.leads
      obtain pending | up := listening
      · rw [pending] at leads
        cases state : second.state with
        | listenInProgress => exact .inl rfl
        | listening => exact .inr rfl
        | closed => exact absurd state open'
        | unbound | bindInProgress | bound | connectInProgress | connected =>
            rw [state] at leads
            cases leads
      · rw [up] at leads
        cases state : second.state with
        | listening => exact .inr rfl
        | closed => exact absurd state open'
        | unbound | bindInProgress | bound | connectInProgress | connected | listenInProgress =>
            rw [state] at leads
            cases leads
    exact (toThird.listen between unclosed).trans (toSecond.listen listening open')

theorem of_idle {socket later : TcpSocket02} (leads : socket.state.leadsTo later.state = true)
    (idle : socket.state ≠ .connectInProgress ∧ socket.state ≠ .listenInProgress ∧
      socket.state ≠ .listening) : socket.Later later where
  leads := leads
  dial := fun dialing => absurd dialing idle.1
  listen := fun listening => by
    obtain pending | up := listening
    · exact absurd pending idle.2.1
    · exact absurd up idle.2.2

theorem of_closed {socket later : TcpSocket02} (isClosed : later.state = .closed) :
    socket.Later later where
  leads := isClosed ▸ socket.state.leadsTo_closed
  dial := fun _ still => by rw [isClosed] at still; cases still
  listen := fun _ unclosed => absurd isClosed unclosed

end TcpSocket02.Later

/-- What a listener can become: it settles once, and it becomes ready only with a signal. -/
structure ListenState.Later (listen later : ListenState) : Prop where
  settled : listen.settled = true → later.settled = true
  signalled : listen.signals < later.signals ∨
    (later.signals = listen.signals ∧ (later.acceptReady = true → listen.acceptReady = true))

namespace ListenState.Later

theorem refl (listen : ListenState) : listen.Later listen := ⟨id, .inr ⟨rfl, id⟩⟩

theorem trans {first second third : ListenState} (toSecond : first.Later second)
    (toThird : second.Later third) : first.Later third where
  settled := toThird.settled ∘ toSecond.settled
  signalled := by
    obtain less | ⟨same, ready⟩ := toSecond.signalled
    · obtain less' | ⟨same', _⟩ := toThird.signalled
      · exact .inl (Nat.lt_trans less less')
      · exact .inl (same' ▸ less)
    · obtain less' | ⟨same', ready'⟩ := toThird.signalled
      · exact .inl (same ▸ less')
      · exact .inr ⟨same'.trans same, ready ∘ ready'⟩

theorem comesUp (listen : ListenState) : listen.Later listen.comesUp := by
  unfold ListenState.comesUp
  split
  · exact ⟨id, .inr ⟨rfl, id⟩⟩
  · exact refl listen

theorem fails (listen : ListenState) (kind : SocketErrorKind) : listen.Later (listen.fails kind) :=
  ⟨id, .inl (Nat.lt_succ_self _)⟩

theorem settles (listen : ListenState) : listen.Later listen.settles := by
  unfold ListenState.settles
  split
  · exact ⟨fun _ => rfl, .inr ⟨rfl, id⟩⟩
  · exact refl listen

theorem tryAccept {listen rest : ListenState} {conn : Nat}
    (took : listen.tryAccept = .ok (some conn, rest)) : listen.Later rest := by
  unfold ListenState.tryAccept at took
  split at took
  · cases took
  · split at took
    · cases took
    · cases queue : listen.queue with
      | nil =>
          rw [queue] at took
          cases took
      | cons conn rest =>
          rw [queue] at took
          cases took
          refine ⟨id, .inr ⟨rfl, fun _ => ?_⟩⟩
          simp [ListenState.acceptReady, queue]

end ListenState.Later

namespace Host

section

variable (host : Host) {id other : Nat} (socket : TcpSocket02) (dial : DialState)
  (listen : ListenState)

@[simp] theorem setSocket_self : (host.setSocket id socket).sockets id = some socket :=
  Function.update_self ..

@[simp] theorem setSocket_of_ne (ne : other ≠ id) :
    (host.setSocket id socket).sockets other = host.sockets other := Function.update_of_ne ne ..

@[simp] theorem addSocket_self : (host.addSocket socket).sockets host.nextSocket = some socket :=
  Function.update_self ..

@[simp] theorem addSocket_of_ne (ne : other ≠ host.nextSocket) :
    (host.addSocket socket).sockets other = host.sockets other := Function.update_of_ne ne ..

@[simp] theorem setDial_self : (host.setDial id dial).dials id = some dial :=
  Function.update_self ..

@[simp] theorem setDial_of_ne (ne : other ≠ id) :
    (host.setDial id dial).dials other = host.dials other := Function.update_of_ne ne ..

@[simp] theorem setListen_self : (host.setListen id listen).listens id = some listen :=
  Function.update_self ..

@[simp] theorem setListen_of_ne (ne : other ≠ id) :
    (host.setListen id listen).listens other = host.listens other := Function.update_of_ne ne ..

end

structure Refers (host : Host) (socket : TcpSocket02) : Prop where
  dial : ∀ number, socket.dial = some number → ∃ dial, host.dials number = some dial
  listen : ∀ number, socket.listen = some number → ∃ listen, host.listens number = some listen ∧
    (socket.state = .listening → listen.settled = true)

structure Linked (host : Host) : Prop where
  refers : ∀ id socket, host.sockets id = some socket → host.Refers socket
  numbered : ∀ id socket, host.sockets id = some socket → id < host.nextSocket
  fresh : ∀ number listen, host.listens number = some listen → number < host.nextListen

structure Later (host later : Host) : Prop where
  sockets : ∀ id socket, host.sockets id = some socket →
    ∃ next, later.sockets id = some next ∧ socket.Later next
  dials : ∀ number dial, host.dials number = some dial → ∃ next, later.dials number = some next
  listens : ∀ number listen, host.listens number = some listen →
    ∃ next, later.listens number = some next ∧ listen.Later next

theorem Later.refl (host : Host) : host.Later host where
  sockets := fun _ socket present => ⟨socket, present, .refl socket⟩
  dials := fun _ dial present => ⟨dial, present⟩
  listens := fun _ listen present => ⟨listen, present, .refl listen⟩

theorem Later.trans {first second third : Host} (toSecond : first.Later second)
    (toThird : second.Later third) : first.Later third where
  sockets := by
    intro id socket present
    obtain ⟨next, present', later⟩ := toSecond.sockets id socket present
    obtain ⟨last, present'', later'⟩ := toThird.sockets id next present'
    exact ⟨last, present'', later.trans later'⟩
  dials := by
    intro number dial present
    obtain ⟨next, present'⟩ := toSecond.dials number dial present
    exact toThird.dials number next present'
  listens := by
    intro number listen present
    obtain ⟨next, present', later⟩ := toSecond.listens number listen present
    obtain ⟨last, present'', later'⟩ := toThird.listens number next present'
    exact ⟨last, present'', later.trans later'⟩

theorem Refers.later {host later : Host} {socket : TcpSocket02} (refers : host.Refers socket)
    (becomes : host.Later later) : later.Refers socket where
  dial := by
    intro number isDial
    obtain ⟨dial, present⟩ := refers.dial number isDial
    exact becomes.dials number dial present
  listen := by
    intro number isListen
    obtain ⟨listen, present, up⟩ := refers.listen number isListen
    obtain ⟨next, present', later⟩ := becomes.listens number listen present
    exact ⟨next, present', later.settled ∘ up⟩

structure Becomes (host later : Host) : Prop where
  linked : later.Linked
  later : host.Later later

namespace Becomes

variable {host : Host}

theorem refl (linked : host.Linked) : host.Becomes host := ⟨linked, .refl host⟩

theorem trans {first second third : Host} (toSecond : first.Becomes second)
    (toThird : second.Becomes third) : first.Becomes third :=
  ⟨toThird.linked, toSecond.later.trans toThird.later⟩

theorem setSocket (linked : host.Linked) {id : Nat} {socket next : TcpSocket02}
    (present : host.sockets id = some socket) (later : socket.Later next)
    (refers : host.Refers next) : host.Becomes (host.setSocket id next) where
  linked := by
    refine ⟨fun other found isOther => ?_, fun other found isOther => ?_, linked.fresh⟩
    · by_cases same : other = id
      · rw [same, setSocket_self] at isOther
        cases isOther
        exact ⟨refers.dial, refers.listen⟩
      · rw [setSocket_of_ne _ _ same] at isOther
        exact ⟨(linked.refers other found isOther).dial, (linked.refers other found isOther).listen⟩
    · by_cases same : other = id
      · exact same ▸ linked.numbered id socket present
      · rw [setSocket_of_ne _ _ same] at isOther
        exact linked.numbered other found isOther
  later := by
    refine ⟨fun other found isOther => ?_, fun _ dial isDial => ⟨dial, isDial⟩,
      fun _ listen isListen => ⟨listen, isListen, .refl listen⟩⟩
    by_cases same : other = id
    · subst same
      rw [present] at isOther
      cases isOther
      exact ⟨next, Function.update_self .., later⟩
    · exact ⟨found, (Function.update_of_ne same ..).trans isOther, .refl found⟩

theorem addSocket (linked : host.Linked) {socket : TcpSocket02} (refers : host.Refers socket) :
    host.Becomes (host.addSocket socket) where
  linked := by
    refine ⟨fun other found isOther => ?_, fun other found isOther => ?_, linked.fresh⟩
    · by_cases same : other = host.nextSocket
      · rw [same, addSocket_self] at isOther
        cases isOther
        exact ⟨refers.dial, refers.listen⟩
      · rw [addSocket_of_ne _ _ same] at isOther
        exact ⟨(linked.refers other found isOther).dial, (linked.refers other found isOther).listen⟩
    · by_cases same : other = host.nextSocket
      · exact same ▸ Nat.lt_succ_self _
      · rw [addSocket_of_ne _ _ same] at isOther
        exact Nat.lt_succ_of_lt (linked.numbered other found isOther)
  later := by
    refine ⟨fun other found isOther => ?_, fun _ dial isDial => ⟨dial, isDial⟩,
      fun _ listen isListen => ⟨listen, isListen, .refl listen⟩⟩
    have known := linked.numbered other found isOther
    exact ⟨found, (Function.update_of_ne (Nat.ne_of_lt known) ..).trans isOther, .refl found⟩

theorem setListen (linked : host.Linked) {number : Nat} {listen next : ListenState}
    (present : host.listens number = some listen) (later : listen.Later next) :
    host.Becomes (host.setListen number next) := by
  have becomes : host.Later (host.setListen number next) := by
    refine ⟨fun _ found isOther => ⟨found, isOther, .refl found⟩,
      fun _ dial isDial => ⟨dial, isDial⟩, fun other found isOther => ?_⟩
    by_cases same : other = number
    · subst same
      rw [present] at isOther
      cases isOther
      exact ⟨next, Function.update_self .., later⟩
    · exact ⟨found, (Function.update_of_ne same ..).trans isOther, .refl found⟩
  refine ⟨⟨fun id socket isSocket => (linked.refers id socket isSocket).later becomes,
    linked.numbered, fun other found isOther => ?_⟩, becomes⟩
  by_cases same : other = number
  · exact same ▸ linked.fresh number listen present
  · rw [setListen_of_ne _ _ same] at isOther
    exact linked.fresh other found isOther

theorem ofCounters {later : Host} (becomes : host.Becomes later) (nextDial nextConn : Nat)
    (connClosed : Nat → Bool) :
    host.Becomes { later with nextDial, connClosed, nextConn } where
  linked := by
    refine ⟨fun id socket present => ?_, becomes.linked.numbered, becomes.linked.fresh⟩
    have refers := becomes.linked.refers id socket present
    exact ⟨refers.dial, refers.listen⟩
  later := ⟨becomes.later.sockets, becomes.later.dials, becomes.later.listens⟩

theorem addListen (linked : host.Linked) (listen : ListenState) :
    host.Becomes { host.setListen host.nextListen listen with nextListen := host.nextListen + 1 } := by
  have becomes : host.Later
      { host.setListen host.nextListen listen with nextListen := host.nextListen + 1 } := by
    refine ⟨fun _ found isOther => ⟨found, isOther, .refl found⟩,
      fun _ dial isDial => ⟨dial, isDial⟩, fun other found isOther => ?_⟩
    have known := Nat.ne_of_lt (linked.fresh other found isOther)
    exact ⟨found, (setListen_of_ne host listen known).trans isOther, .refl found⟩
  refine ⟨⟨fun id socket isSocket => (linked.refers id socket isSocket).later becomes,
    linked.numbered, fun other found isOther => ?_⟩, becomes⟩
  by_cases same : other = host.nextListen
  · exact same ▸ Nat.lt_succ_self _
  · have old : host.listens other = some found := (setListen_of_ne host listen same).symm.trans isOther
    exact Nat.lt_succ_of_lt (linked.fresh other found old)

theorem setDial (linked : host.Linked) (number : Nat) (next : DialState) :
    host.Becomes (host.setDial number next) := by
  have becomes : host.Later (host.setDial number next) := by
    refine ⟨fun _ found isOther => ⟨found, isOther, .refl found⟩, fun other found isOther => ?_,
      fun _ listen isListen => ⟨listen, isListen, .refl listen⟩⟩
    by_cases same : other = number
    · exact ⟨next, same ▸ Function.update_self ..⟩
    · exact ⟨found, (Function.update_of_ne same ..).trans isOther⟩
  exact ⟨⟨fun id socket isSocket => (linked.refers id socket isSocket).later becomes,
    linked.numbered, linked.fresh⟩, becomes⟩

theorem closeListen (linked : host.Linked) (number : Nat) :
    host.Becomes (host.closeListen number) := by
  unfold Host.closeListen
  cases present : host.listens number with
  | none => exact refl linked
  | some listen =>
      dsimp only
      split
      · exact refl linked
      · have later : listen.Later
            { listen with closed := true, signals := listen.signals + 1, queue := [] } :=
          ⟨id, .inl (Nat.lt_succ_self _)⟩
        exact (setListen linked present later).ofCounters _ _ _

theorem startBind (linked : host.Linked) {id : Nat} {socket : TcpSocket02}
    (present : host.sockets id = some socket) (localAddress : IpSocketAddress) :
    host.Becomes (host.unlessThrown (host.startBind id socket localAddress)) := by
  unfold Host.startBind
  split
  · exact refl linked
  case isFalse unbound =>
      cases validateLocal socket.family localAddress "tcp-socket.start-bind" with
      | error failure => exact refl linked
      | ok _ =>
          have isUnbound : socket.state = .unbound := not_not.mp unbound
          have refers := linked.refers id socket present
          refine setSocket linked present (.of_idle ?_ ?_)
            ⟨refers.dial, fun number isListen => ?_⟩
          · rw [isUnbound]
            rfl
          · simp [isUnbound]
          · obtain ⟨listen, isPresent, _⟩ := refers.listen number isListen
            exact ⟨listen, isPresent, nofun⟩

theorem finishBind (linked : host.Linked) {id : Nat} {socket : TcpSocket02}
    (present : host.sockets id = some socket) :
    host.Becomes (host.unlessThrown (host.finishBind id socket)) := by
  unfold Host.finishBind
  split
  · exact refl linked
  case isFalse binding =>
      have isBinding : socket.state = .bindInProgress := not_not.mp binding
      have refers := linked.refers id socket present
      refine setSocket linked present (.of_idle ?_ ?_) ⟨refers.dial, fun number isListen => ?_⟩
      · rw [isBinding]
        rfl
      · simp [isBinding]
      · obtain ⟨listen, isPresent, _⟩ := refers.listen number isListen
        exact ⟨listen, isPresent, nofun⟩

theorem startConnect (linked : host.Linked) {id : Nat} {socket : TcpSocket02}
    (present : host.sockets id = some socket) (remote : IpSocketAddress) :
    host.Becomes (host.unlessThrown (host.startConnect id socket remote)) := by
  unfold Host.startConnect
  split
  · exact refl linked
  case isFalse idle =>
      cases validateRemote socket.family remote "tcp-socket.start-connect" with
      | error failure => exact refl linked
      | ok _ =>
          have isIdle : socket.state = .unbound ∨ socket.state = .bound := by
            by_contra neither
            exact idle (not_or.mp neither)
          have dialed := setDial linked host.nextDial ⟨id, false, none, none⟩
          have refers := dialed.linked.refers id socket present
          have later : socket.Later
              { socket with dial := some host.nextDial, state := .connectInProgress } := by
            apply TcpSocket02.Later.of_idle
            · obtain unbound | bound := isIdle
              · rw [unbound]
                rfl
              · rw [bound]
                rfl
            · obtain unbound | bound := isIdle
              · simp [unbound]
              · simp [bound]
          refine (dialed.trans (setSocket dialed.linked present later ⟨?_, ?_⟩)).ofCounters
            (host.nextDial + 1) host.nextConn host.connClosed
          · intro number isDial
            cases isDial
            exact ⟨_, setDial_self ..⟩
          · intro number isListen
            obtain ⟨listen, isPresent, _⟩ := refers.listen number isListen
            exact ⟨listen, isPresent, nofun⟩

theorem startListen (linked : host.Linked) {id : Nat} {socket : TcpSocket02}
    (present : host.sockets id = some socket) :
    host.Becomes (host.unlessThrown (host.startListen id socket)) := by
  unfold Host.startListen
  split
  · exact refl linked
  case isFalse idle =>
      have isIdle : socket.state = .unbound ∨ socket.state = .bound := by
        by_contra neither
        exact idle (not_or.mp neither)
      have listened := addListen linked .create
      have refers := listened.linked.refers id socket present
      have later : socket.Later
          { socket with listen := some host.nextListen, state := .listenInProgress } := by
        apply TcpSocket02.Later.of_idle
        · obtain unbound | bound := isIdle
          · rw [unbound]
            rfl
          · rw [bound]
            rfl
        · obtain unbound | bound := isIdle
          · simp [unbound]
          · simp [bound]
      refine listened.trans (setSocket listened.linked present later ⟨refers.dial, ?_⟩)
      intro number isListen
      cases isListen
      exact ⟨.create, setListen_self .., nofun⟩

theorem finishConnect (linked : host.Linked) {id : Nat} {socket : TcpSocket02}
    (present : host.sockets id = some socket) (keepAlive : Option SocketErrorKind) :
    host.Becomes (afterCall (host.finishConnect id socket keepAlive)) := by
  have refers := linked.refers id socket present
  have listens : ∀ (state : SocketState), state ≠ .listening → ∀ number,
      socket.listen = some number → ∃ listen, host.listens number = some listen ∧
        (state = .listening → listen.settled = true) := by
    intro state other number isListen
    obtain ⟨listen, isPresent, _⟩ := refers.listen number isListen
    exact ⟨listen, isPresent, fun same => absurd same other⟩
  unfold Host.finishConnect
  split
  case h_2 => exact refl linked
  case h_1 dialing _ =>
      split
      · exact refl linked
      · split
        case h_1 conn _ _ =>
            have later : socket.Later
                { socket with conn := some conn, dial := none, state := .connected } := by
              refine ⟨?_, fun _ => nofun, fun listening => ?_⟩
              · rw [dialing]
                rfl
              · rw [dialing] at listening
                obtain pending | up := listening
                · cases pending
                · cases up
            have becomes := setSocket linked present later
              ⟨nofun, listens .connected (by decide)⟩
            split
            · exact becomes
            · exact becomes
        case h_2 =>
            exact setSocket linked present (.of_closed rfl) ⟨nofun, listens .closed (by decide)⟩

theorem finishListen (linked : host.Linked) {id : Nat} {socket : TcpSocket02}
    (present : host.sockets id = some socket) :
    host.Becomes (afterCall (host.finishListen id socket)) := by
  have refers := linked.refers id socket present
  unfold Host.finishListen
  split
  case h_2 => exact refl linked
  case h_1 number pending isListen =>
      cases isPresent : host.listens number with
      | none => exact refl linked
      | some listen =>
          dsimp only
          split
          · exact refl linked
          case isFalse settled =>
              split
              · have closed := closeListen linked number
                obtain ⟨dial, _⟩ := refers.later closed.later
                have still : (host.closeListen number).sockets id = some socket := by
                  unfold Host.closeListen
                  rw [isPresent]
                  dsimp only
                  split <;> exact present
                exact closed.trans (setSocket closed.linked still (.of_closed rfl) ⟨dial, nofun⟩)
              · have later : socket.Later { socket with state := .listening } := by
                  refine ⟨?_, fun dialing => ?_, fun _ _ => rfl⟩
                  · rw [pending]
                    rfl
                  · rw [pending] at dialing
                    cases dialing
                refine setSocket linked present later ⟨refers.dial, fun other isOther => ?_⟩
                obtain rfl : number = other := Option.some.inj (isListen.symm.trans isOther)
                exact ⟨listen, isPresent, fun _ => eq_true_of_ne_false settled⟩

theorem accept (linked : host.Linked) (socket : TcpSocket02) :
    host.Becomes (host.unlessThrown (host.accept socket)) := by
  unfold Host.accept
  split
  case h_2 => exact refl linked
  case h_1 number _ _ =>
      cases isPresent : host.listens number with
      | none => exact refl linked
      | some listen =>
          dsimp only
          split
          · exact refl linked
          · exact refl linked
          case h_3 conn rest took =>
              have taken := setListen linked isPresent (.tryAccept took)
              exact taken.trans (addSocket taken.linked ⟨nofun, nofun⟩)

theorem dispose (linked : host.Linked) {id : Nat} {socket : TcpSocket02}
    (present : host.sockets id = some socket) : host.Becomes (host.dispose id socket) := by
  have refers := linked.refers id socket present
  have disposed : ∀ connClosed : Nat → Bool, host.Becomes
      ({ host with connClosed }.setSocket id
        { socket with state := .closed, conn := none, listen := none }) := by
    intro connClosed
    have becomes := setSocket linked present
      (.of_closed rfl : socket.Later { socket with state := .closed, conn := none, listen := none })
      ⟨refers.dial, by simp⟩
    exact becomes.ofCounters host.nextDial host.nextConn connClosed
  unfold Host.dispose
  dsimp only
  cases socket.conn with
  | some conn =>
      split
      · exact (disposed _).trans (closeListen (disposed _).linked _)
      · exact disposed _
  | none =>
      have closed := disposed host.connClosed
      split
      · exact closed.trans (closeListen closed.linked _)
      · exact closed

theorem dialSettles (linked : host.Linked) (number : Nat) (error : Option SocketErrorKind) :
    host.Becomes (host.dialSettles number error) := by
  unfold Host.dialSettles
  split
  · exact refl linked
  · split
    · exact refl linked
    · split
      · exact setDial linked number _
      · dsimp only
        split
        · exact (setDial linked number _).ofCounters host.nextDial _ host.connClosed
        · exact (setDial linked number _).ofCounters host.nextDial _ _

theorem connectionArrives (linked : host.Linked) (number : Nat) :
    host.Becomes (host.connectionArrives number) := by
  unfold Host.connectionArrives
  cases present : host.listens number with
  | none => exact refl linked
  | some listen =>
      dsimp only
      split
      · exact (refl linked).ofCounters host.nextDial _ _
      · have later : listen.Later
            { listen with
              queue := listen.queue ++ [host.nextConn], signals := listen.signals + 1 } :=
          ⟨id, .inl (Nat.lt_succ_self _)⟩
        exact (setListen linked present later).ofCounters host.nextDial _ host.connClosed

theorem onListen (linked : host.Linked) (number : Nat) {event : ListenState → ListenState}
    (later : ∀ listen : ListenState, listen.Later (event listen)) :
    host.Becomes (host.onListen number event) := by
  unfold Host.onListen
  cases present : host.listens number with
  | none => exact refl linked
  | some listen => exact setListen linked present (later listen)

theorem onSocket (linked : host.Linked) (id : Nat) {call : TcpSocket02 → Host}
    (becomes : ∀ socket, host.sockets id = some socket → host.Becomes (call socket)) :
    host.Becomes (host.onSocket id call) := by
  unfold Host.onSocket
  cases present : host.sockets id with
  | none => exact refl linked
  | some socket => exact becomes socket present

theorem step (linked : host.Linked) (action : Action) : host.Becomes (step action host) := by
  cases action with
  | createTcpSocket family => exact addSocket linked ⟨nofun, nofun⟩
  | startBind id localAddress =>
      exact onSocket linked id fun _ present => startBind linked present localAddress
  | finishBind id => exact onSocket linked id fun _ present => finishBind linked present
  | startConnect id remote =>
      exact onSocket linked id fun _ present => startConnect linked present remote
  | finishConnect id keepAlive =>
      exact onSocket linked id fun _ present => finishConnect linked present keepAlive
  | startListen id => exact onSocket linked id fun _ present => startListen linked present
  | finishListen id => exact onSocket linked id fun _ present => finishListen linked present
  | accept id => exact onSocket linked id fun socket _ => accept linked socket
  | dispose id => exact onSocket linked id fun _ present => dispose linked present
  | dialSettles number error => exact dialSettles linked number error
  | listenComesUp number => exact onListen linked number .comesUp
  | listenFails number kind => exact onListen linked number fun listen => .fails listen kind
  | listenSettles number => exact onListen linked number .settles
  | connectionArrives number => exact connectionArrives linked number

end Becomes

theorem Linked.empty : empty.Linked where
  refers := fun _ _ present => by cases present
  numbered := fun _ _ present => by cases present
  fresh := fun _ _ present => by cases present

end Host

end Polyengine.Wasi.Tcp02
