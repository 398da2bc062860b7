import Mathlib.Data.Finset.Card
import Mathlib.Data.List.Nodup
import Polyengine.Library.Reentrant

/-!
# Suspension points

`SuspensionPoint`: a parked activation of a store, which is resumed or abandoned once. Producing the
value runs code that may use any suspension point of the store again. Points, threads, waitable sets,
instances and waitables are numbers.
-/

set_option autoImplicit false

namespace Polyengine.Jspi

open Polyengine.Library

variable {Value Error : Type}

inductive Thrown (Error : Type) where
  | assertion (message : String)
  | trap (message : String)
  | other (error : Error)
  deriving Repr, DecidableEq

inductive Settlement (Value Error : Type) where
  | resolved (value : Value)
  | rejected (error : Thrown Error)
  deriving Repr, DecidableEq

/-- The counters that a built-in raises for the duration of a park. -/
inductive Counter where
  | numWaiting (wset : Nat)
  | numWaitingToEnter (inst : Nat)
  deriving Repr, DecidableEq

/-- What the built-in has to discharge however its park ends: nothing of its own, a counter, the claim on
a waitable, or the lender scope of its call. A synchronous start call releases the lenders before it
produces the results, the lower of a host import after it, and an asynchronous start call only where it
has not reported. -/
inductive Paired where
  | nothing
  | counter (counter : Counter)
  | syncWaiter (waitable : Nat)
  | syncStart
  | hostImport
  | asyncStart
  deriving Repr, DecidableEq

/-- The park has lenders from before it begins. -/
def Paired.lends : Paired → Bool
  | .syncStart | .hostImport | .asyncStart => true
  | _ => false

/-- A suspension point. `lent` and `reported` are the lender scope and the flag `produced` of the call.
The last fields record what was done with the point: how often `produce` and `onSettled` ran, what
settled the promise, whether `produce` is running, which of the two ends it has taken, and how often a
resumption was recorded. -/
structure Point (Value Error : Type) where
  owner : Option Nat
  logicalOwner : Option Nat
  explicitSuspend : Bool
  paired : Paired
  boundaryReturned : Bool
  explicitReady : Bool
  done : Bool
  finished : Bool
  lent : Bool
  reported : Bool
  produces : Nat
  hooks : Nat
  promise : List (Settlement Value Error)
  producing : Bool
  resumed : Bool
  abandoned : Bool
  recorded : Nat
  deriving Repr, DecidableEq

/-- What a built-in passes to `blockCurrentActivation`, with the threads it finds. -/
structure Park where
  owner : Option Nat
  logicalOwner : Option Nat
  explicitSuspend : Bool
  paired : Paired
  deriving Repr, DecidableEq

def Point.start (park : Park) : Point Value Error where
  owner := park.owner
  logicalOwner := park.logicalOwner
  explicitSuspend := park.explicitSuspend
  paired := park.paired
  boundaryReturned := false
  explicitReady := false
  done := false
  finished := false
  lent := park.paired.lends
  reported := false
  produces := 0
  hooks := 0
  promise := []
  producing := false
  resumed := false
  abandoned := false
  recorded := 0

def Point.waiting (point : Point Value Error) : Bool := !point.done

def Point.explicitlySuspended (point : Point Value Error) : Bool :=
  point.explicitSuspend && !point.explicitReady && !point.done

/-- The store, with `activePark` by thread, and `hasSyncWaiter` by waitable. A waitable is busy from the
start of a synchronous copy or cancellation on until its event is delivered. `others` records what
other waits have added to the counters. -/
structure Store (Value Error : Type) where
  points : Nat → Option (Point Value Error)
  next : Nat
  waiting : List Nat
  requiredSyncParks : List Nat
  pendingResumptions : Finset Nat
  activePark : Nat → Option Nat
  counters : Counter → Int
  others : Counter → Int
  hasSyncWaiter : Nat → Bool
  busy : Nat → Bool

def Store.initial : Store Value Error where
  points := fun _ => none
  next := 0
  waiting := []
  requiredSyncParks := []
  pendingResumptions := ∅
  activePark := fun _ => none
  counters := fun _ => 0
  others := fun _ => 0
  hasSyncWaiter := fun _ => false
  busy := fun _ => false

/-- The callbacks that other code is reached by. -/
inductive Callback where
  | produce
  | onSettled
  deriving Repr, DecidableEq

abbrev Program (Value Error Result : Type) :=
  Reentrant (Store Value Error) Callback (Thrown Error) Result

section

variable (id : Nat)

def change (update : Point Value Error → Point Value Error) : Program Value Error PUnit :=
  modify fun store =>
    { store with points := Function.update store.points id ((store.points id).map update) }

def adjust (counter : Counter) (amount : Int) : Program Value Error PUnit :=
  modify fun store => { store with
    counters := Function.update store.counters counter (store.counters counter + amount) }

def setSyncWaiter (waitable : Nat) (waits : Bool) : Program Value Error PUnit :=
  modify fun store => { store with
    hasSyncWaiter := Function.update store.hasSyncWaiter waitable waits }

def attempt (program : Program Value Error Unit) : Program Value Error (Option (Thrown Error)) :=
  tryCatch (do program; return none) fun error => return some error

def assert (condition : Bool) (message : String) : Program Value Error Unit :=
  if condition = true then pure () else throw (.assertion message)

/-! ## The registers of the store -/

def startWaiting : Program Value Error Unit := do
  assert (!decide (id ∈ (← get).waiting)) "thread already in the waiting list"
  modify fun store => { store with waiting := store.waiting ++ [id] }

def stopWaiting : Program Value Error Unit := do
  assert (decide (id ∈ (← get).waiting)) "thread not in the waiting list"
  modify fun store => { store with waiting := store.waiting.erase id }

def requireSyncProgress : Program Value Error PUnit :=
  modify fun store =>
    if id ∈ store.requiredSyncParks then store
    else { store with requiredSyncParks := store.requiredSyncParks ++ [id] }

def finishSyncProgress : Program Value Error PUnit :=
  modify fun store => { store with requiredSyncParks := store.requiredSyncParks.erase id }

/-- The entry of the executing activation ends, where there is one: `consumePendingIfRunning` with its
physical owner, and the other releases of an entry. -/
def consumePending (running : Option Nat) : Program Value Error PUnit :=
  modify fun store =>
    match running with
    | some owner => { store with pendingResumptions := store.pendingResumptions.erase owner }
    | none => store

def addPendingResumption (owner : Option Nat) : Program Value Error PUnit :=
  match owner with
  | none => pure ⟨⟩
  | some owner => do
      modify fun store => { store with pendingResumptions := insert owner store.pendingResumptions }
      change id fun point => { point with recorded := point.recorded + 1 }

/-! ## The point -/

/-- `#settle` and `#fail`. -/
def settle (settlement : Settlement Value Error) : Program Value Error PUnit :=
  change id fun point => { point with promise := point.promise ++ [settlement] }

/-- The hook of the built-in that parked. -/
def onSettled (point : Point Value Error) : Program Value Error Unit := do
  change id fun point => { point with hooks := point.hooks + 1 }
  match point.paired with
  | .nothing => Reentrant.invoke .onSettled
  | .counter counter => adjust counter (-1)
  | .syncWaiter waitable => setSyncWaiter waitable false
  | .syncStart | .hostImport => change id fun point => { point with lent := false }
  | .asyncStart =>
      if point.reported = false then change id fun point => { point with lent := false }

/-- `activePark` of the logical owner is cleared where it names this point. -/
def clearPark (logicalOwner : Option Nat) : Program Value Error PUnit :=
  modify fun store =>
    match logicalOwner with
    | some owner =>
        if store.activePark owner = some id then
          { store with activePark := Function.update store.activePark owner none }
        else store
    | none => store

/-- `#finish`. What the hook throws is reported and dropped. -/
def finish : Program Value Error Unit := do
  match (← get).points id with
  | some point =>
      if point.finished = false then
        change id fun point => { point with finished := true }
        clearPark id point.logicalOwner
        finishSyncProgress id
        let _ ← attempt (onSettled id point)
  | none => pure ()

/-- The `produce` of the built-in that parked. A claim is cleared before its event is taken, which may
throw. -/
def produce (event : Except (Thrown Error) Unit) (paired : Paired) : Program Value Error Unit :=
  match paired with
  | .nothing | .counter _ => Reentrant.invoke .produce
  | .syncWaiter waitable => do
      setSyncWaiter waitable false
      match event with
      | .ok () => pure ()
      | .error error => throw error
  | .syncStart => do
      change id fun point => { point with lent := false }
      Reentrant.invoke .produce
  | .hostImport => do
      Reentrant.invoke .produce
      change id fun point => { point with lent := false }
  | .asyncStart => do
      Reentrant.invoke .produce
      change id fun point => { point with reported := true }

/-- `#resumeInner`, with the activation that runs once the value has been produced. -/
def resumeInner (event : Except (Thrown Error) Unit) (value : Value) (running : Option Nat)
    (point : Point Value Error) : Program Value Error Unit := do
  change id fun point => { point with produces := point.produces + 1, producing := true }
  let thrown ← attempt (produce id event point.paired)
  change id fun point => { point with producing := false }
  consumePending running
  addPendingResumption id point.owner
  match thrown with
  | some error => settle id (.rejected error)
  | none => settle id (.resolved value)

def resume (event : Except (Thrown Error) Unit) (value : Value) (running : Option Nat) :
    Program Value Error Unit := do
  match (← get).points id with
  | some point =>
      assert (!point.done) "resume of an already-resumed suspension point"
      change id fun point => { point with done := true, resumed := true }
      stopWaiting id
      let thrown ← attempt (resumeInner id event value running point)
      finish id
      match thrown with
      | some error => throw error
      | none => pure ()
  | none => pure ()

def abandon (reason : Thrown Error) : Program Value Error Unit := do
  match (← get).points id with
  | some point =>
      if point.done = false then
        change id fun point => { point with done := true, abandoned := true }
        stopWaiting id
        settle id (.rejected reason)
        finish id
  | none => pure ()

def explicitResumeLater : Program Value Error Unit := do
  match (← get).points id with
  | some point =>
      assert point.explicitlySuspended "resume_later on a non-suspended thread"
      change id fun point => { point with explicitReady := true }
  | none => pure ()

/-- `refreshSyncRequirement`; `required` says that the park blocks a synchronous lift. -/
def refreshSyncRequirement (required : Bool) : Program Value Error Unit := do
  match (← get).points id with
  | some point =>
      if point.boundaryReturned = true ∧ point.waiting = true ∧ required = true then
        requireSyncProgress id
  | none => pure ()

/-- The microtask after the park. -/
def returned (required : Bool) : Program Value Error Unit := do
  change id fun point => { point with boundaryReturned := true }
  refreshSyncRequirement id required

end

/-! ## The built-ins -/

/-- What the built-in raises before it parks. A synchronous copy or cancellation traps on a busy
waitable. -/
def raise (paired : Paired) : Program Value Error Unit :=
  match paired with
  | .counter counter => adjust counter 1
  | .syncWaiter waitable => do
      if (← get).busy waitable = true then throw (.trap "the waitable is busy")
      modify fun store => { store with busy := Function.update store.busy waitable true }
      setSyncWaiter waitable true
  | _ => pure ()

/-- `blockCurrentActivation` under a new number, with what the built-in raises for it. -/
def block (park : Park) (running : Option Nat) : Program Value Error Unit := do
  raise park.paired
  consumePending running
  let id := (← get).next
  modify fun store => { store with
    points := Function.update store.points id (some (Point.start park))
    next := store.next + 1
    activePark :=
      match park.logicalOwner with
      | some owner => Function.update store.activePark owner (some id)
      | none => store.activePark }
  startWaiting id

def deliver (waitable : Nat) : Program Value Error Unit := do
  if (← get).hasSyncWaiter waitable = false then
    modify fun store => { store with busy := Function.update store.busy waitable false }

/-- Waits that are no suspension points raise and lower a counter. -/
def adjustOther (counter : Counter) (amount : Int) : Program Value Error Unit := do
  adjust counter amount
  modify fun store => { store with
    others := Function.update store.others counter (store.others counter + amount) }

/-- What the scheduler, the drivers and the built-ins do with the store. -/
inductive Operation (Value Error : Type) where
  | block (park : Park) (running : Option Nat)
  | resume (id : Nat) (event : Except (Thrown Error) Unit) (value : Value) (running : Option Nat)
  | abandon (id : Nat) (reason : Thrown Error)
  | explicitResumeLater (id : Nat)
  | refreshSyncRequirement (id : Nat) (required : Bool)
  | returned (id : Nat) (required : Bool)
  | finishSyncProgress (id : Nat)
  | consumePending (running : Option Nat)
  | deliver (waitable : Nat)
  | adjustOther (counter : Counter) (amount : Int)

def operations : Operation Value Error → Program Value Error Unit
  | .block park running => block park running
  | .resume id event value running => resume id event value running
  | .abandon id reason => abandon id reason
  | .explicitResumeLater id => explicitResumeLater id
  | .refreshSyncRequirement id required => refreshSyncRequirement id required
  | .returned id required => returned id required
  | .finishSyncProgress id => finishSyncProgress id
  | .consumePending running => consumePending running
  | .deliver waitable => deliver waitable
  | .adjustOther counter amount => adjustOther counter amount

end Polyengine.Jspi
