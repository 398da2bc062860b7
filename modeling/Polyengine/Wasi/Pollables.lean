import Polyengine.Library.Polling
import Polyengine.Wasi.TcpProgress
import Polyengine.Wasi.UdpStreams

/-!
# The pollables of the 0.2 sockets

TCP sockets, datagram streams and address lookups of the 0.2 track, the pollables that they hand out,
and the operations that a guest retries until they stop to block.
-/

set_option autoImplicit false

namespace Polyengine.Wasi.Pollables

open Polyengine.Library Polyengine.Wasi.Sockets Polyengine.Wasi.Tcp02 Polyengine.Wasi.Udp

inductive IpAddress where
  | ipv4 (address : List Nat)
  | ipv6 (address : List Nat)
  deriving Repr, DecidableEq

/-- What `resolve-addresses` finds: an address literal, no resolver, or a name to look up. -/
inductive LookupQuery where
  | literal (answers : List IpAddress)
  | noResolver
  | name
  deriving Repr, DecidableEq

/-- What the resolver comes back with: addresses, some of them perhaps not to be parsed, or a failure
with its platform code and the kind it maps to. -/
inductive ResolverAnswer where
  | answers (addresses : List (Option IpAddress))
  | failed (code : Option String) (kind : SocketErrorKind)
  deriving Repr, DecidableEq

structure ResolveAddressStream02 where
  settled : Bool
  answers : List IpAddress
  error : Option SocketErrorCode02
  deriving Repr, DecidableEq

namespace ResolveAddressStream02

def create : LookupQuery → ResolveAddressStream02
  | .literal answers => ⟨true, answers, none⟩
  | .noResolver => ⟨true, [], some .permanentResolverFailure⟩
  | .name => ⟨false, [], none⟩

def lookupError (code : Option String) (kind : SocketErrorKind) : SocketErrorCode02 :=
  if code ∈ [some "ENOTFOUND", some "EAI_NONAME", some "ENODATA"] then .nameUnresolvable
  else if code ∈ [some "EAI_AGAIN", some "ETIMEOUT", some "ETIMEDOUT"] then
    .temporaryResolverFailure
  else if code ∈ [some "EACCES", some "EPERM"] then .accessDenied
  else if toCode02 kind = .accessDenied then .accessDenied
  else .unknown

/-- The reaction to the resolver, whose promise settles once. -/
def answered (stream : ResolveAddressStream02) (answer : ResolverAnswer) :
    ResolveAddressStream02 :=
  if stream.settled then stream
  else
    match answer with
    | .answers addresses =>
        match addresses.mapM id with
        | some answers => { stream with settled := true, answers }
        | none => { stream with settled := true, error := some .unknown }
    | .failed code kind => { stream with settled := true, error := some (lookupError code kind) }

def resolveNextAddress (stream : ResolveAddressStream02) :
    Except SocketFailure (Option IpAddress × ResolveAddressStream02) :=
  if stream.settled = false then
    .error (.err02 .wouldBlock "resolve-next-address: the resolver has not answered")
  else
    match stream.error with
    | some code => .error (.err02 code "resolve-next-address: resolution failed")
    | none => .ok (stream.answers.head?, { stream with answers := stream.answers.tail })

inductive Action where
  | answered (answer : ResolverAnswer)
  | resolveNextAddress
  deriving Repr, DecidableEq

def step : Action → ResolveAddressStream02 → ResolveAddressStream02
  | .answered answer, stream => stream.answered answer
  | .resolveNextAddress, stream =>
      match stream.resolveNextAddress with
      | .ok (_, next) => next
      | .error _ => stream

end ResolveAddressStream02

/-- `receiveReady` of the platform's datagram socket. -/
def receiveReady (socket : UdpSocket02) : Bool :=
  !socket.queue.isEmpty || socket.connFailure.isSome || socket.connClosed

structure World where
  tcp : Host
  udp : List UdpSocket02
  lookups : List ResolveAddressStream02

/-- What a pollable can be obtained from; the incoming stream of a pair is named by the socket and
the number of the pair. -/
inductive Object where
  | tcp (socket : Nat)
  | datagrams (socket pair : Nat)
  | lookup (stream : Nat)
  deriving Repr, DecidableEq

/-- What the guest retries. -/
inductive Operation where
  | finishConnect
  | finishListen
  | accept
  | receive
  | resolveNextAddress
  deriving Repr, DecidableEq

namespace World

def empty : World := ⟨.empty, [], []⟩

inductive Action where
  | tcp (action : Host.Action)
  | bindUdp (family : IpAddressFamily)
  | udp (socket : Nat) (action : UdpSocket02.Action)
  | resolveAddresses (query : LookupQuery)
  | lookup (stream : Nat) (action : ResolveAddressStream02.Action)
  deriving Repr, DecidableEq

def step : Action → World → World
  | .tcp action, world => { world with tcp := Host.step action world.tcp }
  | .bindUdp family, world => { world with udp := world.udp ++ [.bind family] }
  | .udp socket action, world =>
      { world with udp := world.udp.modify socket (UdpSocket02.step action) }
  | .resolveAddresses query, world =>
      { world with lookups := world.lookups ++ [.create query] }
  | .lookup stream action, world =>
      { world with lookups := world.lookups.modify stream (ResolveAddressStream02.step action) }

def after (actions : List Action) : World := Transition.runAll step actions empty

/-- `subscribe` of a TCP socket: the pollable of the operation that is pending in this moment. -/
def subscribeTcp (socket : TcpSocket02) : Pollable World :=
  match socket.state, socket.dial, socket.listen with
  | .connectInProgress, some dial, _ => .latched fun world => (world.tcp.dials dial).any (·.done)
  | .listenInProgress, _, some listen =>
      .latched fun world => (world.tcp.listens listen).any (·.settled)
  | .listening, _, some listen =>
      .swapped (fun world => (world.tcp.listens listen).any (·.acceptReady))
        (fun world => ((world.tcp.listens listen).map (·.signals)).getD 0)
  | _, _, _ => .always

/-- `subscribe` of the incoming stream of a pair; only the socket matters. -/
def subscribeDatagrams (socket : Nat) : Pollable World :=
  .swapped (fun world => (world.udp[socket]?).any receiveReady)
    (fun world => ((world.udp[socket]?).map (·.signals)).getD 0)

def subscribeLookup (stream : Nat) : Pollable World :=
  .latched fun world => (world.lookups[stream]?).any (·.settled)

def subscribe (world : World) : Object → Option (Pollable World)
  | .tcp socket => (world.tcp.sockets socket).map subscribeTcp
  | .datagrams socket pair => do
      let bound ← world.udp[socket]?
      let _ ← bound.pairs[pair]?
      return subscribeDatagrams socket
  | .lookup stream => (world.lookups[stream]?).map fun _ => subscribeLookup stream

def pendingTcp (socket : TcpSocket02) : Option Operation :=
  match socket.state with
  | .connectInProgress => some .finishConnect
  | .listenInProgress => some .finishListen
  | .listening => some .accept
  | _ => none

/-- The operation that is pending on an object; a replaced pair receives nothing any more. -/
def pending (world : World) : Object → Option Operation
  | .tcp socket => world.tcp.sockets socket >>= pendingTcp
  | .datagrams socket pair => do
      let bound ← world.udp[socket]?
      let pair ← bound.pairs[pair]?
      if bound.live pair.generation then some .receive else none
  | .lookup stream => (world.lookups[stream]?).map fun _ => .resolveNextAddress

def isWouldBlock : SocketFailure → Bool
  | .err02 .wouldBlock _ => true
  | _ => false

/-- Whether retrying the operation answers `would-block`; a receive blocks when it returns nothing
and leaves the queue as it was. `keepAlive` is what the platform answers to the options of a
connection. -/
def wouldBlock (world : World) (keepAlive : Option SocketErrorKind) (maxResults : Nat) :
    Object → Operation → Bool
  | .tcp id, operation =>
      match world.tcp.sockets id, operation with
      | some socket, .finishConnect =>
          match world.tcp.finishConnect id socket keepAlive with
          | .error (failure, _) => isWouldBlock failure
          | .ok _ => false
      | some socket, .finishListen =>
          match world.tcp.finishListen id socket with
          | .error (failure, _) => isWouldBlock failure
          | .ok _ => false
      | some socket, .accept =>
          match world.tcp.accept socket with
          | .error failure => isWouldBlock failure
          | .ok _ => false
      | _, _ => false
  | .datagrams id index, _ =>
      match world.udp[id]? with
      | none => false
      | some socket =>
          match socket.pairs[index]? with
          | none => false
          | some pair =>
              match socket.receive pair maxResults with
              | .error failure => isWouldBlock failure
              | .ok (out, next) => decide (out = [] ∧ next.queue = socket.queue)
  | .lookup id, _ =>
      match world.lookups[id]? with
      | none => false
      | some stream =>
          match stream.resolveNextAddress with
          | .error failure => isWouldBlock failure
          | .ok _ => false

section

attribute [local simp] subscribeTcp pendingTcp isWouldBlock wouldBlock Host.finishConnect
  Host.finishListen Host.accept ListenState.tryAccept

end

end World

/-! ## What the datagrams of a socket can become -/

structure DatagramsLater (socket later : UdpSocket02) : Prop where
  pairs : ∀ (index : Nat) (pair : UdpStreams), socket.pairs[index]? = some pair →
    ∃ next, later.pairs[index]? = some next ∧ next.generation = pair.generation
  generation : socket.generation ≤ later.generation
  live : ∀ generation, generation ≤ socket.generation → later.live generation = true →
    socket.live generation = true
  signalled : socket.signals < later.signals ∨
    (later.signals = socket.signals ∧ (receiveReady later = true → receiveReady socket = true))

theorem takeDatagrams_nil (remote : Option IpSocketAddress) (max : Nat) :
    UdpSocket02.takeDatagrams remote max [] = ([], []) := by
  cases max <;> rfl

theorem takeDatagrams_shrinks (remote : Option IpSocketAddress) (max : Nat)
    (queue : List (List UInt8 × NetAddr)) :
    (UdpSocket02.takeDatagrams remote max queue).2.length ≤ queue.length := by
  fun_induction UdpSocket02.takeDatagrams remote max queue with
  | case1 => exact Nat.le_refl _
  | case2 => exact Nat.le_refl _
  | case3 max data addr rest source foreign ih => exact Nat.le_succ_of_le ih
  | case4 max data addr rest source own out left taken ih =>
      rw [taken] at ih
      exact Nat.le_succ_of_le ih

theorem takeDatagrams_progress {remote : Option IpSocketAddress} {max : Nat}
    {queue : List (List UInt8 × NetAddr)} (some : max ≠ 0) :
    ((UdpSocket02.takeDatagrams remote max queue).1 = [] ∧
      (UdpSocket02.takeDatagrams remote max queue).2 = queue) ↔ queue = [] := by
  constructor
  · intro ⟨nothing, unchanged⟩
    cases queue with
    | nil => rfl
    | cons item rest =>
        obtain ⟨max, rfl⟩ := Nat.exists_eq_succ_of_ne_zero some
        obtain ⟨data, addr⟩ := item
        unfold UdpSocket02.takeDatagrams at nothing unchanged
        dsimp only at nothing unchanged
        split at nothing
        case isTrue foreign =>
            rw [if_pos foreign] at unchanged
            have shorter := takeDatagrams_shrinks remote (max + 1) rest
            rw [unchanged] at shorter
            exact absurd shorter (Nat.not_succ_le_self _)
        case isFalse => cases nothing
  · rintro rfl
    rw [takeDatagrams_nil]
    exact ⟨rfl, rfl⟩

namespace DatagramsLater

variable {socket : UdpSocket02}

theorem refl (socket : UdpSocket02) : DatagramsLater socket socket :=
  ⟨fun _ pair present => ⟨pair, present, rfl⟩, Nat.le_refl _, fun _ _ => id, .inr ⟨rfl, id⟩⟩

theorem trans {first second third : UdpSocket02} (toSecond : DatagramsLater first second)
    (toThird : DatagramsLater second third) : DatagramsLater first third where
  pairs := by
    intro index pair present
    obtain ⟨next, present', same⟩ := toSecond.pairs index pair present
    obtain ⟨last, present'', same'⟩ := toThird.pairs index next present'
    exact ⟨last, present'', same'.trans same⟩
  generation := Nat.le_trans toSecond.generation toThird.generation
  live := by
    intro generation known live
    exact toSecond.live generation known
      (toThird.live generation (Nat.le_trans known toSecond.generation) live)
  signalled := by
    obtain less | ⟨same, ready⟩ := toSecond.signalled
    · obtain less' | ⟨same', _⟩ := toThird.signalled
      · exact .inl (Nat.lt_trans less less')
      · exact .inl (same' ▸ less)
    · obtain less' | ⟨same', ready'⟩ := toThird.signalled
      · exact .inl (same ▸ less')
      · exact .inr ⟨same'.trans same, ready ∘ ready'⟩

theorem modifyPair (socket : UdpSocket02) (index : Nat) {change : UdpStreams → UdpStreams}
    (keeps : ∀ pair, (change pair).generation = pair.generation) :
    DatagramsLater socket { socket with pairs := socket.pairs.modify index change } := by
  refine ⟨fun other pair present => ?_, Nat.le_refl _, fun _ _ => id, .inr ⟨rfl, id⟩⟩
  rw [List.getElem?_modify, present]
  by_cases same : index = other
  · exact ⟨change pair, by simp [same], keeps pair⟩
  · exact ⟨pair, by simp [same], rfl⟩

theorem afterFailure (socket : UdpSocket02) (index : Nat) (pair : UdpStreams) :
    DatagramsLater socket (socket.afterFailure index pair) := by
  unfold UdpSocket02.afterFailure
  split
  · exact modifyPair socket index fun _ => rfl
  · exact refl socket

theorem streamed (socket : UdpSocket02) (remoteAddress : Option IpSocketAddress) :
    DatagramsLater socket (socket.streamed remoteAddress) := by
  refine ⟨fun index pair present => ⟨pair, ?_, rfl⟩, Nat.le_succ _, fun generation known live => ?_,
    .inr ⟨rfl, id⟩⟩
  · have within := (List.getElem?_eq_some_iff.mp present).1
    exact (List.getElem?_append_left within).trans present
  · have replaced : generation ≠ socket.generation + 1 := Nat.ne_of_lt (Nat.lt_succ_of_le known)
    simp [UdpSocket02.live, UdpSocket02.streamed, replaced.symm] at live

theorem arrive (socket : UdpSocket02) (data : List UInt8) (source : NetAddr) :
    DatagramsLater socket (socket.arrive data source) := by
  refine ⟨fun _ pair present => ⟨pair, present, rfl⟩, Nat.le_refl _, fun _ _ => id, ?_⟩
  by_cases dropped : socket.connClosed = true ∨ MAX_QUEUED_DATAGRAMS ≤ socket.queue.length
  · exact .inr ⟨by simp [UdpSocket02.arrive, dropped], by
      simp [UdpSocket02.arrive, dropped, receiveReady]⟩
  · exact .inl (by simp [UdpSocket02.arrive, dropped])

theorem dispose (socket : UdpSocket02) : DatagramsLater socket socket.dispose := by
  refine ⟨fun _ pair present => ⟨pair, present, rfl⟩, Nat.le_refl _, fun _ _ => nofun, ?_⟩
  cases closed : socket.connClosed with
  | true => exact .inr ⟨by simp [UdpSocket02.dispose, closed], by simp [receiveReady, closed]⟩
  | false => exact .inl (by simp [UdpSocket02.dispose, closed])

theorem step (action : UdpSocket02.Action) (socket : UdpSocket02) :
    DatagramsLater socket (UdpSocket02.step action socket) := by
  have taken := UdpSocket02.steps action socket
  generalize UdpSocket02.step action socket = next at taken ⊢
  cases taken with
  | unchanged => exact refl socket
  | streamed remoteAddress => exact streamed socket remoteAddress
  | received index maxResults pair =>
      refine ⟨fun _ pair present => ⟨pair, present, rfl⟩, Nat.le_refl _, fun _ _ => id,
        .inr ⟨rfl, fun ready => ?_⟩⟩
      cases queue : socket.queue with
      | nil => simpa [receiveReady, queue, takeDatagrams_nil] using ready
      | cons item rest => simp [receiveReady, queue]
  | reported action index pair => exact afterFailure socket index pair
  | socketFailed kind =>
      exact ⟨fun _ pair present => ⟨pair, present, rfl⟩, Nat.le_refl _, fun _ _ => id,
        .inl (Nat.lt_succ_self _)⟩
  | arrived data source => exact arrive socket data source
  | sendFailed index kind => exact modifyPair socket index fun _ => rfl
  | disposed => exact dispose socket
  | sent | connectSettled =>
      exact ⟨fun _ pair present => ⟨pair, present, rfl⟩, Nat.le_refl _, fun _ _ => id,
        .inr ⟨rfl, id⟩⟩

end DatagramsLater

theorem connFailure_step {socket : UdpSocket02} (action : UdpSocket02.Action)
    (holds : socket.connFailure ≠ some .wouldBlock) :
    (UdpSocket02.step action socket).connFailure ≠ some .wouldBlock := by
  have taken := UdpSocket02.steps action socket
  generalize UdpSocket02.step action socket = next at taken ⊢
  cases taken with
  | reported action index pair =>
      unfold UdpSocket02.afterFailure
      split <;> exact holds
  | socketFailed kind =>
      intro isBlock
      exact toCode02_ne_wouldBlock kind (Option.some.inj isBlock)
  | unchanged | streamed | received | sent | connectSettled | arrived | sendFailed | disposed =>
      exact holds

theorem ResolveAddressStream02.lookupError_ne_wouldBlock (code : Option String)
    (kind : SocketErrorKind) : lookupError code kind ≠ .wouldBlock := by
  unfold lookupError
  split
  · decide
  · split
    · decide
    · split
      · decide
      · split <;> decide

theorem ResolveAddressStream02.error_step {stream : ResolveAddressStream02} (action : Action)
    (holds : stream.error ≠ some .wouldBlock) :
    (step action stream).error ≠ some .wouldBlock := by
  cases action with
  | answered answer =>
      unfold step answered
      dsimp only
      split
      · exact holds
      · cases answer with
        | answers addresses =>
            dsimp only
            split
            · exact holds
            · exact nofun
        | failed code kind =>
            intro isBlock
            exact lookupError_ne_wouldBlock code kind (Option.some.inj isBlock)
  | resolveNextAddress =>
      unfold step resolveNextAddress
      dsimp only
      split
      case h_1 taken =>
          split at taken
          · cases taken
          · split at taken
            · cases taken
            · cases taken
              exact holds
      · exact holds

section

variable {Item : Type} {items : List Item} {change : Item → Item}

theorem forall_mem_modify {property : Item → Prop} (all : ∀ item ∈ items, property item)
    (kept : ∀ item, property item → property (change item)) (index : Nat) :
    ∀ item ∈ items.modify index change, property item := by
  intro item member
  obtain ⟨other, found⟩ := List.mem_iff_getElem?.mp member
  rw [List.getElem?_modify] at found
  obtain ⟨old, present, rfl⟩ := Option.map_eq_some_iff.mp found
  have holds := all old (List.mem_of_getElem? present)
  split
  · exact kept old holds
  · exact holds

theorem modify_related {related : Item → Item → Prop} (refl : ∀ item, related item item)
    (becomes : ∀ item, related item (change item)) (index : Nat) :
    ∀ (other : Nat) (item : Item), items[other]? = some item →
      ∃ next, (items.modify index change)[other]? = some next ∧ related item next := by
  intro other item present
  refine ⟨if index = other then change item else item, ?_, ?_⟩
  · rw [List.getElem?_modify, present]
    rfl
  · split
    · exact becomes item
    · exact refl item

theorem append_related {related : Item → Item → Prop} (refl : ∀ item, related item item)
    (added : List Item) :
    ∀ (other : Nat) (item : Item), items[other]? = some item →
      ∃ next, (items ++ added)[other]? = some next ∧ related item next := by
  intro other item present
  have within := (List.getElem?_eq_some_iff.mp present).1
  exact ⟨item, (List.getElem?_append_left within).trans present, refl item⟩

end

namespace World

structure Sound (world : World) : Prop where
  tcp : world.tcp.Linked
  udp : ∀ socket ∈ world.udp, socket.Sound ∧ socket.connFailure ≠ some .wouldBlock
  lookups : ∀ stream ∈ world.lookups, stream.error ≠ some .wouldBlock

structure Later (world later : World) : Prop where
  tcp : world.tcp.Later later.tcp
  udp : ∀ (id : Nat) (socket : UdpSocket02), world.udp[id]? = some socket →
    ∃ next, later.udp[id]? = some next ∧ DatagramsLater socket next

theorem Later.refl (world : World) : world.Later world :=
  ⟨.refl _, fun _ socket present => ⟨socket, present, .refl socket⟩⟩

theorem Later.trans {first second third : World} (toSecond : first.Later second)
    (toThird : second.Later third) : first.Later third where
  tcp := toSecond.tcp.trans toThird.tcp
  udp := by
    intro id socket present
    obtain ⟨next, present', later⟩ := toSecond.udp id socket present
    obtain ⟨last, present'', later'⟩ := toThird.udp id next present'
    exact ⟨last, present'', later.trans later'⟩

theorem Sound.empty : empty.Sound :=
  ⟨.empty, List.forall_mem_nil _, List.forall_mem_nil _⟩

theorem Sound.step {world : World} (sound : world.Sound) (action : Action) :
    (step action world).Sound := by
  cases action with
  | tcp action => exact ⟨(Host.Becomes.step sound.tcp action).linked, sound.udp, sound.lookups⟩
  | bindUdp family =>
      refine ⟨sound.tcp, List.forall_mem_append.mpr ⟨sound.udp, ?_⟩, sound.lookups⟩
      exact List.forall_mem_singleton.mpr ⟨.bind family, nofun⟩
  | udp id action =>
      refine ⟨sound.tcp, forall_mem_modify sound.udp ?_ id, sound.lookups⟩
      exact fun socket ⟨holds, unblocked⟩ => ⟨holds.step action, connFailure_step action unblocked⟩
  | resolveAddresses query =>
      refine ⟨sound.tcp, sound.udp, List.forall_mem_append.mpr ⟨sound.lookups, ?_⟩⟩
      exact List.forall_mem_singleton.mpr (by cases query <;> exact nofun)
  | lookup id action =>
      refine ⟨sound.tcp, sound.udp, forall_mem_modify sound.lookups ?_ id⟩
      exact fun stream holds => stream.error_step action holds

theorem Sound.later {world : World} (sound : world.Sound) (action : Action) :
    world.Later (World.step action world) := by
  cases action with
  | tcp action =>
      exact ⟨(Host.Becomes.step sound.tcp action).later, (Later.refl world).udp⟩
  | bindUdp family => exact ⟨.refl _, append_related DatagramsLater.refl _⟩
  | udp id action =>
      exact ⟨.refl _, modify_related DatagramsLater.refl (DatagramsLater.step action) id⟩
  | resolveAddresses query => exact ⟨.refl _, (Later.refl world).udp⟩
  | lookup id action => exact ⟨.refl _, (Later.refl world).udp⟩

theorem Sound.run {world : World} (sound : world.Sound) (actions : List Action) :
    (Transition.runAll World.step actions world).Sound :=
  Transition.runAll_invariant (fun action _ holds => holds.step action) actions sound

theorem Sound.run_later {world : World} (sound : world.Sound) (actions : List Action) :
    world.Later (Transition.runAll World.step actions world) := by
  induction actions generalizing world with
  | nil => exact .refl world
  | cons action actions ih => exact (sound.later action).trans (ih (sound.step action))

/-! ## Accuracy -/

@[simp] theorem isWouldBlock_toCode02 (kind : SocketErrorKind) (detail : String) :
    isWouldBlock (.err02 (toCode02 kind) detail) = false := by
  cases kind <;> rfl

@[simp] theorem isWouldBlock_elim (error : Option SocketErrorKind) (detail : String) :
    isWouldBlock (.err02 (error.elim .unknown toCode02) detail) = false := by
  cases error with
  | none => rfl
  | some kind => exact isWouldBlock_toCode02 kind detail

theorem isWouldBlock_of_ne {code : SocketErrorCode02} (ne : code ≠ .wouldBlock)
    (detail : String) : isWouldBlock (.err02 code detail) = false := by
  cases code <;> first | rfl | exact absurd rfl ne

section

variable {now : World} {id : Nat} {socket next : TcpSocket02}

theorem finishConnect_blocks {dial : DialState} (present : now.tcp.sockets id = some socket)
    (dialing : socket.state = .connectInProgress) (isDial : socket.dial.bind now.tcp.dials = some dial)
    (keepAlive : Option SocketErrorKind) (maxResults : Nat) :
    wouldBlock now keepAlive maxResults (.tcp id) .finishConnect = !dial.done := by
  simp only [wouldBlock, present, Host.finishConnect, dialing, isDial]
  cases done : dial.done with
  | false => rfl
  | true =>
      rw [if_neg (by decide)]
      cases error : dial.error with
      | some kind => simp
      | none =>
          cases conn : dial.conn with
          | none => rfl
          | some conn =>
              cases keepAlive with
              | none => rfl
              | some kind => simp

theorem finishListen_blocks {number : Nat} {listen : ListenState}
    (present : now.tcp.sockets id = some socket) (binding : socket.state = .listenInProgress)
    (isNumber : socket.listen = some number) (isListen : now.tcp.listens number = some listen)
    (keepAlive : Option SocketErrorKind) (maxResults : Nat) :
    wouldBlock now keepAlive maxResults (.tcp id) .finishListen = !listen.settled := by
  simp only [wouldBlock, present, Host.finishListen, binding, isNumber, isListen]
  cases settled : listen.settled with
  | false => rfl
  | true =>
      rw [if_neg (by decide)]
      cases listen.error with
      | none => rfl
      | some kind => simp

theorem accept_blocks {number : Nat} {listen : ListenState}
    (present : now.tcp.sockets id = some socket) (listening : socket.state = .listening)
    (isNumber : socket.listen = some number) (isListen : now.tcp.listens number = some listen)
    (keepAlive : Option SocketErrorKind) (maxResults : Nat) :
    wouldBlock now keepAlive maxResults (.tcp id) .accept = !listen.acceptReady := by
  simp only [wouldBlock, present, Host.accept, listening, isNumber, isListen,
    ListenState.tryAccept, ListenState.acceptReady]
  cases listen.failure with
  | some kind => simp
  | none =>
      cases listen.closed with
      | true => simp [isWouldBlock, toCode02]
      | false => cases listen.queue <;> simp [isWouldBlock]

theorem state_of_pending {operation : Operation} (isPending : pendingTcp socket = some operation) :
    (operation = .finishConnect ∧ socket.state = .connectInProgress) ∨
      (operation = .finishListen ∧ socket.state = .listenInProgress) ∨
      (operation = .accept ∧ socket.state = .listening) := by
  unfold pendingTcp at isPending
  cases state : socket.state with
  | connectInProgress =>
      rw [state] at isPending
      cases isPending
      exact .inl ⟨rfl, rfl⟩
  | listenInProgress =>
      rw [state] at isPending
      cases isPending
      exact .inr (.inl ⟨rfl, rfl⟩)
  | listening =>
      rw [state] at isPending
      cases isPending
      exact .inr (.inr ⟨rfl, rfl⟩)
  | unbound | bindInProgress | bound | connected | closed =>
      rw [state] at isPending
      cases isPending

theorem tcp_accurate (refers : now.tcp.Refers next) (later : socket.Later next)
    (present : now.tcp.sockets id = some next) {operation : Operation}
    (pendingThen : pendingTcp socket = some operation)
    (pendingNow : pendingTcp next = some operation) (keepAlive : Option SocketErrorKind)
    (maxResults : Nat) :
    (subscribeTcp socket).ready now = true ↔
      wouldBlock now keepAlive maxResults (.tcp id) operation = false := by
  obtain ⟨rfl, stateThen⟩ | ⟨rfl, stateThen⟩ | ⟨rfl, stateThen⟩ := state_of_pending pendingThen
  · obtain ⟨_, stateNow⟩ | ⟨other, _⟩ | ⟨other, _⟩ := state_of_pending pendingNow
    · have same : next.dial = socket.dial := later.dial stateThen stateNow
      cases isNumber : socket.dial with
      | none =>
          simp [subscribeTcp, stateThen, isNumber, wouldBlock, present, Host.finishConnect,
            stateNow, same, isWouldBlock, Pollable.always, Pollable.latched]
      | some number =>
          obtain ⟨dial, isDial⟩ := refers.dial number (same.trans isNumber)
          have bound : next.dial.bind now.tcp.dials = some dial := by
            rw [same, isNumber]
            exact isDial
          rw [finishConnect_blocks present stateNow bound]
          simp [subscribeTcp, stateThen, isNumber, Pollable.latched, isDial]
    · cases other
    · cases other
  · obtain ⟨other, _⟩ | ⟨_, stateNow⟩ | ⟨other, _⟩ := state_of_pending pendingNow
    · cases other
    · have same : next.listen = socket.listen := later.listen (.inl stateThen) (by simp [stateNow])
      cases isNumber : socket.listen with
      | none =>
          simp [subscribeTcp, stateThen, isNumber, wouldBlock, present, Host.finishListen,
            stateNow, same, isWouldBlock, Pollable.always, Pollable.latched]
      | some number =>
          obtain ⟨listen, isListen, _⟩ := refers.listen number (same.trans isNumber)
          rw [finishListen_blocks present stateNow (same.trans isNumber) isListen]
          simp [subscribeTcp, stateThen, isNumber, Pollable.latched, isListen]
    · cases other
  · obtain ⟨other, _⟩ | ⟨other, _⟩ | ⟨_, stateNow⟩ := state_of_pending pendingNow
    · cases other
    · cases other
    · have same : next.listen = socket.listen := later.listen (.inr stateThen) (by simp [stateNow])
      cases isNumber : socket.listen with
      | none =>
          simp [subscribeTcp, stateThen, isNumber, wouldBlock, present, Host.accept,
            stateNow, same, isWouldBlock, Pollable.always, Pollable.latched]
      | some number =>
          obtain ⟨listen, isListen, _⟩ := refers.listen number (same.trans isNumber)
          rw [accept_blocks present stateNow (same.trans isNumber) isListen]
          simp [subscribeTcp, stateThen, isNumber, Pollable.swapped, isListen]

theorem tcp_stale (refers : now.tcp.Refers next) (later : socket.Later next)
    {operation : Operation} (pendingNow : pendingTcp next = some operation)
    (pendingThen : pendingTcp socket ≠ some operation) :
    (subscribeTcp socket).ready now = true := by
  have leads := later.leads
  cases stateThen : socket.state with
  | unbound | bindInProgress | bound | connected | closed =>
      simp [subscribeTcp, stateThen, Pollable.always, Pollable.latched]
  | connectInProgress =>
      rw [stateThen] at leads
      obtain ⟨rfl, stateNow⟩ | ⟨_, stateNow⟩ | ⟨_, stateNow⟩ := state_of_pending pendingNow
      · exact absurd (by rw [pendingTcp, stateThen]) pendingThen
      · rw [stateNow] at leads
        cases leads
      · rw [stateNow] at leads
        cases leads
  | listenInProgress =>
      rw [stateThen] at leads
      obtain ⟨_, stateNow⟩ | ⟨rfl, stateNow⟩ | ⟨_, stateNow⟩ := state_of_pending pendingNow
      · rw [stateNow] at leads
        cases leads
      · exact absurd (by rw [pendingTcp, stateThen]) pendingThen
      · have same : next.listen = socket.listen :=
          later.listen (.inl stateThen) (by simp [stateNow])
        cases isNumber : socket.listen with
        | none => simp [subscribeTcp, stateThen, isNumber, Pollable.always, Pollable.latched]
        | some number =>
            obtain ⟨listen, isListen, settled⟩ := refers.listen number (same.trans isNumber)
            simp [subscribeTcp, stateThen, isNumber, Pollable.latched, isListen, settled stateNow]
  | listening =>
      rw [stateThen] at leads
      obtain ⟨_, stateNow⟩ | ⟨_, stateNow⟩ | ⟨rfl, _⟩ := state_of_pending pendingNow
      · rw [stateNow] at leads
        cases leads
      · rw [stateNow] at leads
        cases leads
      · exact absurd (by rw [pendingTcp, stateThen]) pendingThen

end

theorem receive_blocks {now : World} {id index : Nat} {socket : UdpSocket02} {pair : UdpStreams}
    (present : now.udp[id]? = some socket) (isPair : socket.pairs[index]? = some pair)
    (live : socket.live pair.generation = true) (unblocked : socket.connFailure ≠ some .wouldBlock)
    (keepAlive : Option SocketErrorKind) {maxResults : Nat} (someResults : maxResults ≠ 0) :
    wouldBlock now keepAlive maxResults (.datagrams id index) .receive = !receiveReady socket := by
  simp only [wouldBlock, present, isPair, UdpSocket02.receive, live, receiveReady]
  cases failure : socket.connFailure with
  | some code =>
      have failed : socket.tryReceiveFailure = some code := by
        simp [UdpSocket02.tryReceiveFailure, failure]
      have ne : code ≠ .wouldBlock := fun same => unblocked (by rw [failure, same])
      simpa [someResults, failed, throw, throwThe, MonadExceptOf.throw] using
        isWouldBlock_of_ne ne _
  | none =>
      cases closed : socket.connClosed with
      | true =>
          have failed : socket.tryReceiveFailure = some .invalidState := by
            simp [UdpSocket02.tryReceiveFailure, failure, closed]
          simpa [someResults, failed, throw, throwThe, MonadExceptOf.throw] using
            isWouldBlock_of_ne (by decide) _
      | false =>
          have open' : socket.tryReceiveFailure = none := by
            simp [UdpSocket02.tryReceiveFailure, failure, closed]
          have progress := @takeDatagrams_progress pair.remote maxResults socket.queue someResults
          have isEmpty : decide (socket.queue = []) = socket.queue.isEmpty := by
            cases socket.queue <;> rfl
          simp [someResults, open', pure, Except.pure, progress, isEmpty]

theorem resolveNextAddress_blocks {now : World} {id : Nat} {stream : ResolveAddressStream02}
    (present : now.lookups[id]? = some stream) (unblocked : stream.error ≠ some .wouldBlock)
    (keepAlive : Option SocketErrorKind) (maxResults : Nat) :
    wouldBlock now keepAlive maxResults (.lookup id) .resolveNextAddress = !stream.settled := by
  simp only [wouldBlock, present, ResolveAddressStream02.resolveNextAddress]
  cases settled : stream.settled with
  | false => rfl
  | true =>
      cases error : stream.error with
      | none => rfl
      | some code =>
          have ne : code ≠ .wouldBlock := fun same => unblocked (by rw [error, same])
          simpa using isWouldBlock_of_ne ne _

/-! ## Waiters are woken -/

theorem listen_wakes {now : World} (sound : now.Sound) {number : Nat} {listen : ListenState}
    (present : now.tcp.listens number = some listen) :
    (Pollable.swapped (fun world : World => (world.tcp.listens number).any (·.acceptReady))
      (fun world => ((world.tcp.listens number).map (·.signals)).getD 0)).WakesFrom step now := by
  apply @Pollable.swapped_wakes World Action step
    (fun world => world.Sound ∧ ∃ listen, world.tcp.listens number = some listen)
  · rintro action world ⟨sound, listen, present⟩
    obtain ⟨next, present', _⟩ := (sound.later action).tcp.listens number listen present
    exact ⟨sound.step action, next, present'⟩
  · rintro action world ⟨sound, listen, present⟩
    obtain ⟨next, present', later⟩ := (sound.later action).tcp.listens number listen present
    simpa [present, present'] using later.signalled
  · exact ⟨sound, listen, present⟩

theorem datagrams_wake {now : World} (sound : now.Sound) {id : Nat} {socket : UdpSocket02}
    (present : now.udp[id]? = some socket) : (subscribeDatagrams id).WakesFrom step now := by
  apply @Pollable.swapped_wakes World Action step
    (fun world => world.Sound ∧ ∃ socket, world.udp[id]? = some socket)
  · rintro action world ⟨sound, socket, present⟩
    obtain ⟨next, present', _⟩ := (sound.later action).udp id socket present
    exact ⟨sound.step action, next, present'⟩
  · rintro action world ⟨sound, socket, present⟩
    obtain ⟨next, present', later⟩ := (sound.later action).udp id socket present
    simpa [present, present'] using later.signalled
  · exact ⟨sound, socket, present⟩

theorem subscribe_wakes {earlier now : World} (sound : earlier.Sound) (soundNow : now.Sound)
    (later : earlier.Later now) {object : Object} {pollable : Pollable World}
    (subscribed : earlier.subscribe object = some pollable) : pollable.WakesFrom step now := by
  cases object with
  | tcp id =>
      obtain ⟨socket, present, rfl⟩ := Option.map_eq_some_iff.mp subscribed
      have refers := sound.tcp.refers id socket present
      unfold subscribeTcp
      split
      case h_1 => exact Pollable.latched_wakes _ now
      case h_2 => exact Pollable.latched_wakes _ now
      case h_3 number _ isNumber =>
          obtain ⟨listen, isListen, _⟩ := refers.listen number isNumber
          obtain ⟨next, isNext, _⟩ := later.tcp.listens number listen isListen
          exact listen_wakes soundNow isNext
      case h_4 => exact Pollable.latched_wakes _ now
  | datagrams id index =>
      obtain ⟨socket, present, found⟩ := Option.bind_eq_some_iff.mp subscribed
      obtain ⟨pair, isPair, same⟩ := Option.bind_eq_some_iff.mp found
      cases same
      obtain ⟨next, isNext, _⟩ := later.udp id socket present
      exact datagrams_wake soundNow isNext
  | lookup id =>
      obtain ⟨stream, present, rfl⟩ := Option.map_eq_some_iff.mp subscribed
      exact Pollable.latched_wakes _ now

/-- A pollable that the guest has obtained from an object at some moment of a run. -/
def Obtained (actions : List Action) (object : Object) (earlier : World)
    (pollable : Pollable World) : Prop :=
  ∃ before rest, actions = before ++ rest ∧ earlier = after before ∧
    earlier.subscribe object = some pollable

theorem Obtained.later {actions : List Action} {object : Object} {earlier : World}
    {pollable : Pollable World} (obtained : Obtained actions object earlier pollable) :
    earlier.Sound ∧ (after actions).Sound ∧ earlier.Later (after actions) := by
  obtain ⟨before, rest, rfl, rfl, _⟩ := obtained
  have sound := Sound.empty.run before
  have continued : after (before ++ rest) = Transition.runAll step rest (after before) :=
    List.foldl_append
  rw [continued]
  exact ⟨sound, sound.run rest, sound.run_later rest⟩

theorem obtained_accurate {actions : List Action} {object : Object} {earlier : World}
    {pollable : Pollable World} (obtained : Obtained actions object earlier pollable)
    {operation : Operation} (pendingNow : (after actions).pending object = some operation)
    (pendingThen : earlier.pending object = some operation)
    (keepAlive : Option SocketErrorKind) {maxResults : Nat} (someResults : maxResults ≠ 0) :
    pollable.ready (after actions) = true ↔
      (after actions).wouldBlock keepAlive maxResults object operation = false := by
  obtain ⟨sound, soundNow, later⟩ := obtained.later
  obtain ⟨_, _, _, _, subscribed⟩ := obtained
  generalize after actions = now at *
  cases object with
  | tcp id =>
      obtain ⟨socket, present, rfl⟩ := Option.map_eq_some_iff.mp subscribed
      obtain ⟨next, isNext, becomes⟩ := later.tcp.sockets id socket present
      simp only [pending, present, isNext] at pendingThen pendingNow
      exact tcp_accurate (soundNow.tcp.refers id next isNext) becomes isNext pendingThen pendingNow
        keepAlive maxResults
  | datagrams id index =>
      obtain ⟨socket, present, found⟩ := Option.bind_eq_some_iff.mp pendingNow
      obtain ⟨pair, isPair, isLive⟩ := Option.bind_eq_some_iff.mp found
      obtain ⟨_, _, found'⟩ := Option.bind_eq_some_iff.mp subscribed
      obtain ⟨_, _, same⟩ := Option.bind_eq_some_iff.mp found'
      cases same
      split at isLive
      case isTrue live =>
          cases isLive
          have unblocked := (soundNow.udp socket (List.mem_of_getElem? present)).2
          rw [receive_blocks present isPair live unblocked keepAlive someResults]
          simp [subscribeDatagrams, Pollable.swapped, present]
      case isFalse => cases isLive
  | lookup id =>
      obtain ⟨stream, present, same⟩ := Option.map_eq_some_iff.mp pendingNow
      obtain ⟨_, _, rfl⟩ := Option.map_eq_some_iff.mp subscribed
      cases same
      have unblocked := soundNow.lookups stream (List.mem_of_getElem? present)
      rw [resolveNextAddress_blocks present unblocked keepAlive maxResults]
      simp [subscribeLookup, Pollable.latched, present]

theorem obtained_stale {actions : List Action} {object : Object} {earlier : World}
    {pollable : Pollable World} (obtained : Obtained actions object earlier pollable)
    {operation : Operation} (pendingNow : (after actions).pending object = some operation)
    (pendingThen : earlier.pending object ≠ some operation) :
    pollable.ready (after actions) = true := by
  obtain ⟨sound, soundNow, later⟩ := obtained.later
  obtain ⟨_, _, _, _, subscribed⟩ := obtained
  generalize after actions = now at *
  cases object with
  | tcp id =>
      obtain ⟨socket, present, rfl⟩ := Option.map_eq_some_iff.mp subscribed
      obtain ⟨next, isNext, becomes⟩ := later.tcp.sockets id socket present
      simp only [pending, present, isNext] at pendingThen pendingNow
      exact tcp_stale (soundNow.tcp.refers id next isNext) becomes pendingNow pendingThen
  | datagrams id index =>
      -- The pair that is current now was current when it was minted.
      exfalso
      obtain ⟨socket, present, found⟩ := Option.bind_eq_some_iff.mp subscribed
      obtain ⟨pair, isPair, _⟩ := Option.bind_eq_some_iff.mp found
      obtain ⟨next, isNext, becomes⟩ := later.udp id socket present
      obtain ⟨pair', isPair', same⟩ := becomes.pairs index pair isPair
      simp only [pending, isNext, isPair', Option.bind_eq_bind, Option.bind_some] at pendingNow
      split at pendingNow
      case isTrue live =>
          cases pendingNow
          rw [same] at live
          have known : pair.generation ≤ socket.generation := by
            have holds := (sound.udp socket (List.mem_of_getElem? present)).1
            have within := (List.getElem?_eq_some_iff.mp isPair).1
            rw [holds.numbered index pair isPair, holds.counted]
            exact within
          have liveThen := becomes.live pair.generation known live
          exact pendingThen (by simp [pending, present, isPair, liveThen])
      case isFalse => cases pendingNow
  | lookup id =>
      obtain ⟨stream, present, same⟩ := Option.map_eq_some_iff.mp pendingNow
      obtain ⟨_, present', _⟩ := Option.map_eq_some_iff.mp subscribed
      cases same
      exact absurd (by simp [pending, present']) pendingThen

/-- In every run and for every pollable obtained on the way: while the operation is pending that was
pending when it was obtained it is ready exactly if the operation does not block; before that it is
ready; whoever waits is woken when it becomes ready. `poll` returns exactly what is ready, and does
so once something is. -/
theorem pollables_accurate (actions : List Action) :
    (∀ object earlier pollable operation, Obtained actions object earlier pollable →
        (after actions).pending object = some operation →
        (earlier.pending object = some operation →
          ∀ (keepAlive : Option SocketErrorKind) (maxResults : Nat), maxResults ≠ 0 →
            (pollable.ready (after actions) = true ↔
              (after actions).wouldBlock keepAlive maxResults object operation = false)) ∧
          (earlier.pending object ≠ some operation → pollable.ready (after actions) = true)) ∧
      (∀ object earlier pollable, Obtained actions object earlier pollable →
        pollable.WakesFrom step (after actions)) ∧
      (∀ pollables indices, (Pollable.poll pollables (after actions) = .returned indices ∨
          ∃ promises, Pollable.resume pollables promises (after actions) = .returned indices) →
        Pollable.Names pollables (after actions) indices) ∧
      (∀ pollables promises later, (∀ pollable ∈ pollables, ∃ object earlier,
          Obtained actions object earlier pollable) →
        Pollable.poll pollables (after actions) = .waiting promises →
        (∃ pollable ∈ pollables, pollable.ready (after (actions ++ later)) = true) →
        ∃ indices, Pollable.resume pollables promises (after (actions ++ later)) =
          .returned indices) := by
  have wakes : ∀ object earlier pollable, Obtained actions object earlier pollable →
      pollable.WakesFrom step (after actions) := by
    intro object earlier pollable obtained
    obtain ⟨sound, soundNow, later⟩ := obtained.later
    obtain ⟨_, _, _, _, subscribed⟩ := obtained
    exact subscribe_wakes sound soundNow later subscribed
  refine ⟨?_, wakes, fun _ _ => Pollable.poll_names, ?_⟩
  · intro object earlier pollable operation obtained pendingNow
    exact ⟨fun pendingThen keepAlive _ someResults =>
        obtained_accurate obtained pendingNow pendingThen keepAlive someResults,
      obtained_stale obtained pendingNow⟩
  · intro pollables promises later fromRun parked becomes
    have continued : after (actions ++ later) = Transition.runAll step later (after actions) :=
      List.foldl_append
    rw [continued] at becomes ⊢
    have looked : Pollable.look pollables (after actions) = .waiting promises := by
      unfold Pollable.poll at parked
      split at parked
      · cases parked
      · exact parked
    refine Pollable.resume_returns looked later (fun pollable member => ?_) becomes
    obtain ⟨object, earlier, obtained⟩ := fromRun pollable member
    exact wakes object earlier pollable obtained

/-- A pollable obtained before the dial is ready while `finish-connect` blocks. -/
theorem early_pollable_ready :
    ∃ pollable, Obtained [.tcp (.createTcpSocket .ipv4),
        .tcp (.startConnect 0 (.ipv4 80 [10, 0, 0, 1]))] (.tcp 0)
        (after [.tcp (.createTcpSocket .ipv4)]) pollable ∧
      (after [.tcp (.createTcpSocket .ipv4),
        .tcp (.startConnect 0 (.ipv4 80 [10, 0, 0, 1]))]).pending (.tcp 0) =
          some .finishConnect ∧
      pollable.ready (after [.tcp (.createTcpSocket .ipv4),
        .tcp (.startConnect 0 (.ipv4 80 [10, 0, 0, 1]))]) = true ∧
      (after [.tcp (.createTcpSocket .ipv4),
        .tcp (.startConnect 0 (.ipv4 80 [10, 0, 0, 1]))]).wouldBlock none 1 (.tcp 0)
          .finishConnect = true := by
  refine ⟨.always, ⟨[.tcp (.createTcpSocket .ipv4)], _, rfl, rfl, rfl⟩, ?_, ?_, ?_⟩
  · decide
  · rfl
  · decide

end World

end Polyengine.Wasi.Pollables
