import Mathlib.Data.List.Perm.Basic
import Mathlib.Data.List.Range
import Polyengine.Library.Transition

/-!
# The listener of the platform

`nodeTcpListen`: a queue of connections and a list of accepts that wait for one, which the events of
the server and the calls of the provider change in any order.
-/

set_option autoImplicit false

namespace Polyengine.Wasi.NodeTcp

open Polyengine.Library

/-- Connections that wait past this bound are refused. -/
def MAX_QUEUED_CONNECTIONS : Nat := 64

variable {Failure : Type}

/-- What an accept is rejected with: the error of the server, or a coded one. -/
inductive Rejection (Failure : Type) where
  | failed (failure : Failure)
  | coded (code message : String)
  deriving Repr, DecidableEq

def closedRejection : Rejection Failure := .coded "ERR_SERVER_NOT_RUNNING" "listener is closed"

def closedUnderAccept : Rejection Failure :=
  .coded "ERR_SERVER_NOT_RUNNING" "listener closed under a pending accept"

/-- Who a connection was delivered to: the promise of an `accept`, or a `tryAccept`. -/
inductive Receiver where
  | accept (promise : Nat)
  | tryAccept
  deriving Repr, DecidableEq

def Receiver.promise : Receiver → Option Nat
  | .accept promise => some promise
  | .tryAccept => none

/-- Connections and the promises of `accept` are numbered in the order that they come in. `settled`
is how the bind ended, and `signals` counts the swaps of the wake promise. The last four fields
record which connection was delivered to whom, which were destroyed, which accepts were rejected,
and the wake promises that `waitAccept` has returned. -/
structure TcpListener (Failure : Type) where
  arrivals : Nat
  accepts : Nat
  queue : List Nat
  waiters : List Nat
  failure : Option Failure
  closed : Bool
  settled : Option (Except Failure Unit)
  signals : Nat
  delivered : List (Receiver × Nat)
  destroyed : List Nat
  rejected : List (Nat × Rejection Failure)
  waits : List Nat

namespace TcpListener

/-- A listener that `listen` was called on. -/
def listen : TcpListener Failure where
  arrivals := 0
  accepts := 0
  queue := []
  waiters := []
  failure := none
  closed := false
  settled := none
  signals := 0
  delivered := []
  destroyed := []
  rejected := []
  waits := []

def signal (listener : TcpListener Failure) : TcpListener Failure :=
  { listener with signals := listener.signals + 1 }

def failWaiters (listener : TcpListener Failure) (rejection : Rejection Failure) :
    TcpListener Failure :=
  { listener with
    rejected := listener.rejected ++ listener.waiters.map fun promise => (promise, rejection)
    waiters := [] }

/-- The handler of the server for a connection. -/
def connection (listener : TcpListener Failure) : TcpListener Failure :=
  let socket := listener.arrivals
  let listener := { listener with arrivals := listener.arrivals + 1 }
  match listener.waiters with
  | promise :: rest =>
      { listener with
        waiters := rest
        delivered := listener.delivered ++ [(.accept promise, socket)] }
  | [] =>
      if listener.closed || MAX_QUEUED_CONNECTIONS ≤ listener.queue.length then
        { listener with destroyed := listener.destroyed ++ [socket] }
      else { listener with queue := listener.queue ++ [socket] }.signal

/-- The first end of the bind counts. -/
def settle (listener : TcpListener Failure) (result : Except Failure Unit) : TcpListener Failure :=
  { listener with settled := listener.settled.or (some result) }

/-- The `error` event of the server. -/
def error (listener : TcpListener Failure) (failure : Failure) : TcpListener Failure :=
  let failed := { listener with failure := some failure }.settle (.error failure)
  (failed.failWaiters (.failed failure)).signal

def accept (listener : TcpListener Failure) : TcpListener Failure :=
  let promise := listener.accepts
  let listener := { listener with accepts := listener.accepts + 1 }
  match listener.failure with
  | some failure => { listener with rejected := listener.rejected ++ [(promise, .failed failure)] }
  | none =>
      if listener.closed then
        { listener with rejected := listener.rejected ++ [(promise, closedRejection)] }
      else
        match listener.queue with
        | queued :: rest =>
            { listener with
              queue := rest
              delivered := listener.delivered ++ [(.accept promise, queued)] }
        | [] => { listener with waiters := listener.waiters ++ [promise] }

/-- `tryAccept` throws, or returns the next connection, if there is one. -/
def tryAccept (listener : TcpListener Failure) :
    Except (Rejection Failure) (Option Nat) × TcpListener Failure :=
  match listener.failure with
  | some failure => (.error (.failed failure), listener)
  | none =>
      if listener.closed then (.error closedRejection, listener)
      else
        match listener.queue with
        | queued :: rest =>
            (.ok (some queued), { listener with
              queue := rest
              delivered := listener.delivered ++ [(.tryAccept, queued)] })
        | [] => (.ok none, listener)

def acceptReady (listener : TcpListener Failure) : Bool :=
  0 < listener.queue.length || listener.failure.isSome || listener.closed

/-- `waitAccept` returns the wake promise of the moment. -/
def waitAccept (listener : TcpListener Failure) : TcpListener Failure :=
  { listener with waits := listener.waits ++ [listener.signals] }

/-- The wake promise has been resolved. -/
def Woken (listener : TcpListener Failure) (promise : Nat) : Prop := promise < listener.signals

def close (listener : TcpListener Failure) : TcpListener Failure :=
  if listener.closed then listener
  else
    let closed := ({ listener with closed := true }.signal).failWaiters closedUnderAccept
    { closed with destroyed := closed.destroyed ++ closed.queue, queue := [] }

end TcpListener

/-- The events of the server, and the calls of the provider. -/
inductive Event (Failure : Type) where
  | connection
  | listening
  | error (failure : Failure)
  | accept
  | tryAccept
  | waitAccept
  | close
  deriving Repr, DecidableEq

def step : Event Failure → TcpListener Failure → TcpListener Failure
  | .connection, listener => listener.connection
  | .listening, listener => listener.settle (.ok ())
  | .error failure, listener => listener.error failure
  | .accept, listener => listener.accept
  | .tryAccept, listener => listener.tryAccept.2
  | .waitAccept, listener => listener.waitAccept
  | .close, listener => listener.close

def run (events : List (Event Failure)) : TcpListener Failure :=
  Transition.runAll step events TcpListener.listen

/-! ## What every step keeps -/

namespace TcpListener

/-- The accepts that a connection was delivered to. -/
def fulfilled (listener : TcpListener Failure) : List Nat :=
  listener.delivered.filterMap fun delivery => delivery.1.promise

end TcpListener

/-- Every connection is delivered, destroyed or queued, and every accept settled or waiting, each
once; connections are delivered in the order that they came in. -/
structure Books (listener : TcpListener Failure) : Prop where
  connections : (listener.delivered.map Prod.snd ++ listener.destroyed ++ listener.queue).Perm
    (List.range listener.arrivals)
  accepts : (listener.fulfilled ++ listener.rejected.map Prod.fst ++ listener.waiters).Perm
    (List.range listener.accepts)
  order : (listener.delivered.map Prod.snd ++ listener.queue).Pairwise (· < ·)
  alternative : listener.waiters = [] ∨ listener.queue = []
  ended : listener.failure.isSome = true ∨ listener.closed = true → listener.waiters = []
  closed : listener.closed = true → listener.queue = []

namespace Books

variable {listener : TcpListener Failure}

theorem listen : Books (TcpListener.listen : TcpListener Failure) where
  connections := .refl []
  accepts := .refl []
  order := .nil
  alternative := .inl rfl
  ended := fun _ => rfl
  closed := fun _ => rfl

theorem earlier (books : Books listener) :
    ∀ socket ∈ listener.delivered.map Prod.snd ++ listener.queue, socket < listener.arrivals := by
  intro socket member
  refine List.mem_range.mp (books.connections.subset ?_)
  obtain delivered | queued := List.mem_append.mp member
  · exact List.mem_append_left _ (List.mem_append_left _ delivered)
  · exact List.mem_append_right _ queued

theorem order_append (books : Books listener) :
    ((listener.delivered.map Prod.snd ++ listener.queue) ++ [listener.arrivals]).Pairwise
      (· < ·) := by
  refine List.pairwise_append.mpr ⟨books.order, List.pairwise_singleton _ _, ?_⟩
  intro socket member last isLast
  rw [List.mem_singleton.mp isLast]
  exact books.earlier socket member

theorem connection (books : Books listener) : Books listener.connection := by
  unfold TcpListener.connection
  simp only
  split
  case h_1 promise rest waiting =>
    have noQueue : listener.queue = [] := by
      obtain none | none := books.alternative
      · rw [waiting] at none
        cases none
      · exact none
    have open' : ¬(listener.failure.isSome = true ∨ listener.closed = true) := fun ended => by
      have none := books.ended ended
      rw [waiting] at none
      cases none
    refine ⟨?_, ?_, ?_, .inr noQueue, fun ended => absurd ended open', fun _ => noQueue⟩
    · refine List.perm_iff_count.mpr fun socket => ?_
      have counts := books.connections.count_eq socket
      simp only [List.range_succ, List.map_append, List.map_cons, List.map_nil, List.count_append]
        at counts ⊢
      omega
    · refine List.perm_iff_count.mpr fun accept => ?_
      have counts := books.accepts.count_eq accept
      rw [waiting] at counts
      simp only [TcpListener.fulfilled, Receiver.promise, List.filterMap_append,
        List.filterMap_cons, List.filterMap_nil, List.count_append, List.count_cons, List.count_nil]
        at counts ⊢
      omega
    · have order := books.order_append
      rw [noQueue] at order ⊢
      simpa using order
  case h_2 none =>
    split
    · refine ⟨?_, books.accepts, books.order, books.alternative, books.ended, books.closed⟩
      refine List.perm_iff_count.mpr fun socket => ?_
      have counts := books.connections.count_eq socket
      simp only [List.range_succ, List.count_append] at counts ⊢
      omega
    case isFalse room =>
      have notClosed : ¬listener.closed = true := fun closed => room (by rw [closed, Bool.true_or])
      refine ⟨?_, books.accepts, ?_, .inl none, books.ended, fun closed => absurd closed notClosed⟩
      · refine List.perm_iff_count.mpr fun socket => ?_
        have counts := books.connections.count_eq socket
        simp only [TcpListener.signal, List.range_succ, List.count_append] at counts ⊢
        omega
      · simpa [TcpListener.signal] using books.order_append

theorem failWaiters (books : Books listener) (rejection : Rejection Failure) :
    Books (listener.failWaiters rejection) where
  connections := books.connections
  accepts := by
    have same : (listener.waiters.map fun promise => (promise, rejection)).map Prod.fst =
        listener.waiters := by
      rw [List.map_map]
      exact List.map_id _
    have accepts := books.accepts
    simpa [TcpListener.failWaiters, TcpListener.fulfilled, same] using accepts
  order := books.order
  alternative := .inl rfl
  ended := fun _ => rfl
  closed := books.closed

theorem error (books : Books listener) (failure : Failure) : Books (listener.error failure) := by
  have kept := books.failWaiters (.failed failure)
  exact ⟨kept.connections, kept.accepts, kept.order, kept.alternative, fun _ => rfl, kept.closed⟩

theorem accept (books : Books listener) : Books listener.accept := by
  have rejected : ∀ rejection : Rejection Failure, Books { listener with
      accepts := listener.accepts + 1
      rejected := listener.rejected ++ [(listener.accepts, rejection)] } := by
    intro rejection
    refine ⟨books.connections, ?_, books.order, books.alternative, books.ended, books.closed⟩
    refine List.perm_iff_count.mpr fun accept => ?_
    have counts := books.accepts.count_eq accept
    simp only [TcpListener.fulfilled, List.range_succ, List.map_append, List.map_cons, List.map_nil,
      List.count_append] at counts ⊢
    omega
  unfold TcpListener.accept
  simp only
  split
  · exact rejected _
  case h_2 healthy =>
    split
    · exact rejected _
    case isFalse notClosed =>
      have open' : ¬(listener.failure.isSome = true ∨ listener.closed = true) := by
        rw [healthy]
        exact fun ended => ended.elim (fun failed => nomatch failed) notClosed
      split
      case h_1 queued rest first =>
        have noWaiters : listener.waiters = [] := by
          obtain none | none := books.alternative
          · exact none
          · rw [first] at none
            cases none
        refine ⟨?_, ?_, ?_, .inl noWaiters, books.ended, fun closed => absurd closed notClosed⟩
        · refine List.perm_iff_count.mpr fun socket => ?_
          have counts := books.connections.count_eq socket
          rw [first] at counts
          simp only [List.map_append, List.map_cons, List.map_nil, List.count_append,
            List.count_cons, List.count_nil] at counts ⊢
          omega
        · refine List.perm_iff_count.mpr fun accept => ?_
          have counts := books.accepts.count_eq accept
          simp only [TcpListener.fulfilled, Receiver.promise, List.range_succ,
            List.filterMap_append, List.filterMap_cons, List.filterMap_nil, List.count_append]
            at counts ⊢
          omega
        · have order := books.order
          rw [first] at order
          simpa using order
      case h_2 none =>
        refine ⟨books.connections, ?_, books.order, .inr none, fun ended => absurd ended open',
          books.closed⟩
        refine List.perm_iff_count.mpr fun accept => ?_
        have counts := books.accepts.count_eq accept
        simp only [TcpListener.fulfilled, List.range_succ, List.count_append] at counts ⊢
        omega

theorem tryAccept (books : Books listener) : Books listener.tryAccept.2 := by
  unfold TcpListener.tryAccept
  split
  · exact books
  · split
    · exact books
    case isFalse notClosed =>
      split
      case h_1 queued rest first =>
        have noWaiters : listener.waiters = [] := by
          obtain none | none := books.alternative
          · exact none
          · rw [first] at none
            cases none
        refine ⟨?_, ?_, ?_, .inl noWaiters, books.ended, fun closed => absurd closed notClosed⟩
        · refine List.perm_iff_count.mpr fun socket => ?_
          have counts := books.connections.count_eq socket
          rw [first] at counts
          simp only [List.map_append, List.map_cons, List.map_nil, List.count_append,
            List.count_cons, List.count_nil] at counts ⊢
          omega
        · have accepts := books.accepts
          simpa [TcpListener.fulfilled, Receiver.promise] using accepts
        · have order := books.order
          rw [first] at order
          simpa using order
      case h_2 => exact books

theorem close (books : Books listener) : Books listener.close := by
  unfold TcpListener.close
  split
  · exact books
  · have kept := books.failWaiters closedUnderAccept
    refine ⟨?_, kept.accepts, ?_, .inl rfl, fun _ => rfl, fun _ => rfl⟩
    · refine List.perm_iff_count.mpr fun socket => ?_
      have counts := books.connections.count_eq socket
      simp only [TcpListener.failWaiters, TcpListener.signal, List.count_append, List.count_nil]
        at counts ⊢
      omega
    · have order := List.pairwise_append.mp books.order
      simpa [TcpListener.failWaiters, TcpListener.signal] using order.1

theorem step (books : Books listener) (event : Event Failure) : Books (step event listener) := by
  cases event with
  | connection => exact books.connection
  | listening =>
      exact ⟨books.connections, books.accepts, books.order, books.alternative, books.ended,
        books.closed⟩
  | error failure => exact books.error failure
  | accept => exact books.accept
  | tryAccept => exact books.tryAccept
  | waitAccept =>
      exact ⟨books.connections, books.accepts, books.order, books.alternative, books.ended,
        books.closed⟩
  | close => exact books.close

theorem run (events : List (Event Failure)) : Books (run events) :=
  Transition.runAll_invariant (fun event _ books => books.step event) events listen

end Books

/-! ## Waking -/

/-- Wake promises that `waitAccept` has returned are of swaps up to now. -/
def Numbered (listener : TcpListener Failure) : Prop :=
  ∀ promise ∈ listener.waits, promise ≤ listener.signals

theorem step_signals (event : Event Failure) (listener : TcpListener Failure) :
    ((step event listener).signals = listener.signals + 1 ∧
        (step event listener).waits = listener.waits) ∨
      ((step event listener).signals = listener.signals ∧
        ((step event listener).acceptReady = true → listener.acceptReady = true) ∧
        ((step event listener).waits = listener.waits ∨
          (step event listener).waits = listener.waits ++ [listener.signals])) := by
  cases event with
  | connection =>
      unfold step TcpListener.connection
      simp only
      split
      · exact .inr ⟨rfl, id, .inl rfl⟩
      · split
        · exact .inr ⟨rfl, id, .inl rfl⟩
        · exact .inl ⟨rfl, rfl⟩
  | listening => exact .inr ⟨rfl, id, .inl rfl⟩
  | error failure => exact .inl ⟨rfl, rfl⟩
  | accept =>
      unfold step TcpListener.accept
      simp only
      split
      · exact .inr ⟨rfl, id, .inl rfl⟩
      · split
        · exact .inr ⟨rfl, id, .inl rfl⟩
        · split
          case h_1 queued rest first =>
            refine .inr ⟨rfl, fun _ => ?_, .inl rfl⟩
            simp [TcpListener.acceptReady, first]
          case h_2 => exact .inr ⟨rfl, id, .inl rfl⟩
  | tryAccept =>
      simp only [step, TcpListener.tryAccept]
      split
      · exact .inr ⟨rfl, id, .inl rfl⟩
      · split
        · exact .inr ⟨rfl, id, .inl rfl⟩
        · split
          case h_1 queued rest first =>
            refine .inr ⟨rfl, fun _ => ?_, .inl rfl⟩
            simp [TcpListener.acceptReady, first]
          case h_2 => exact .inr ⟨rfl, id, .inl rfl⟩
  | waitAccept => exact .inr ⟨rfl, id, .inr rfl⟩
  | close =>
      unfold step TcpListener.close
      simp only
      split
      · exact .inr ⟨rfl, id, .inl rfl⟩
      · exact .inl ⟨rfl, rfl⟩

theorem numbered_run (events : List (Event Failure)) : Numbered (run events) := by
  refine Transition.runAll_invariant (fun event listener numbered => ?_) events
    (fun _ member => absurd member List.not_mem_nil)
  intro promise member
  obtain ⟨signals, waits⟩ | ⟨signals, _, waits | waits⟩ := step_signals event listener
  · rw [waits] at member
    rw [signals]
    exact Nat.le_succ_of_le (numbered promise member)
  · rw [waits] at member
    rw [signals]
    exact numbered promise member
  · rw [waits] at member
    rw [signals]
    obtain earlier | last := List.mem_append.mp member
    · exact numbered promise earlier
    · rw [List.mem_singleton.mp last]

theorem run_append (before : List (Event Failure)) (event : Event Failure) :
    run (before ++ [event]) = step event (run before) := by
  unfold run Transition.runAll
  rw [List.foldl_append]
  rfl

theorem woken (before : List (Event Failure)) (event : Event Failure)
    (unready : (run before).acceptReady = false)
    (ready : (run (before ++ [event])).acceptReady = true) :
    ∀ promise ∈ (run before).waits, (run (before ++ [event])).Woken promise := by
  intro promise member
  rw [run_append] at ready ⊢
  have known := numbered_run before promise member
  obtain ⟨signals, _⟩ | ⟨_, kept, _⟩ := step_signals event (run before)
  · unfold TcpListener.Woken
    omega
  · rw [kept ready] at unready
    cases unready

/-! ## Connections that nobody can take -/

theorem refused_iff {listener : TcpListener Failure} (books : Books listener)
    (ended : listener.failure.isSome = true ∨ listener.closed = true) :
    listener.arrivals ∈ listener.connection.destroyed ↔
      listener.closed = true ∨ MAX_QUEUED_CONNECTIONS ≤ listener.queue.length := by
  have fresh : listener.arrivals ∉ listener.destroyed := by
    intro member
    have before := books.connections.subset
      (List.mem_append_left _ (List.mem_append_right _ member))
    exact Nat.lt_irrefl _ (List.mem_range.mp before)
  unfold TcpListener.connection
  simp only [books.ended ended]
  split
  case isTrue full => simpa using full
  case isFalse room =>
    refine ⟨fun member => absurd member fresh, fun full => absurd ?_ room⟩
    simpa using full

/-- The books are right in every state; waiters are woken; a connection that reaches a closed or
failed listener is destroyed. -/
structure Handled (events : List (Event Failure)) : Prop where
  books : ∀ before after, events = before ++ after → Books (run before)
  wakes : ∀ before event after, events = before ++ event :: after →
    (run before).acceptReady = false → (run (before ++ [event])).acceptReady = true →
      ∀ promise ∈ (run before).waits, (run (before ++ [event])).Woken promise
  refused : ∀ before after, events = before ++ .connection :: after →
    (run before).failure.isSome = true ∨ (run before).closed = true →
      (run before).arrivals ∈ (run (before ++ [.connection])).destroyed

/-- The listener handles a run exactly if no connection reaches it between an error and its close
while its queue has room. -/
theorem handled_iff (events : List (Event Failure)) :
    Handled events ↔
      ∀ before after, events = before ++ .connection :: after →
        (run before).failure.isSome = true →
          (run before).closed = true ∨ MAX_QUEUED_CONNECTIONS ≤ (run before).queue.length := by
  constructor
  · intro handled before after whole failed
    have destroyed := handled.refused before after whole (.inl failed)
    rw [run_append] at destroyed
    exact (refused_iff (.run before) (.inl failed)).mp destroyed
  · intro condition
    refine ⟨fun before _ _ => .run before, fun before event _ _ => woken before event, ?_⟩
    intro before after whole ended
    rw [run_append]
    refine (refused_iff (.run before) ended).mpr ?_
    obtain failed | closed := ended
    · exact condition before after whole failed
    · exact .inl closed

/-- After an error of the server, the connection that comes in is queued for nobody. -/
theorem connection_kept_after_error :
    ¬∀ events : List (Event String), Handled events := by
  intro all
  have condition := (all [.error "EMFILE", .connection]).refused [.error "EMFILE"] [] rfl (.inl rfl)
  exact absurd condition (by decide)

end Polyengine.Wasi.NodeTcp
