import Mathlib.Data.Finset.Card
import Polyengine.Library.Transition

/-!
# The ambient of an activation

The synchronous brackets and the engine-hop claims by which a built-in learns the thread that calls
it, with the suspension points and the resumption gate that are kept through them. Threads and tasks
are numbers.
-/

set_option autoImplicit false

namespace Polyengine.Task

open Polyengine.Library

/-- `thread.task` and `task.inst`, which never change. -/
structure Identities where
  task : Nat → Nat
  inst : Nat → Nat

def Identities.instOf (identities : Identities) (t : Nat) : Nat :=
  identities.inst (identities.task t)

/-- The fields that a `SynchronousActivation` gives its thread. -/
structure LogicalActivation where
  parent : Option Nat
  physicalOwner : Nat
  active : Bool
  deriving Repr, DecidableEq

inductive BracketKind where
  | resume
  | activation
  deriving Repr, DecidableEq

/-- An open `#resumeInternal` or `withActivation` with the two stacks that it was opened on. -/
structure Bracket where
  kind : BracketKind
  thread : Nat
  threadStack : List Nat
  entryStack : List Nat
  deriving Repr, DecidableEq

/-- What `entryStack` is while the bracket is the innermost one. -/
def Bracket.entered (bracket : Bracket) : List Nat :=
  match bracket.kind with
  | .resume => bracket.entryStack
  | .activation => bracket.thread :: bracket.entryStack

structure SuspensionPoint where
  owner : Option Nat
  logicalOwner : Option Nat
  deriving Repr, DecidableEq

/-- The assertions at the end of a bracket. -/
inductive PopFailure where
  | unrelated
  | imbalance
  deriving Repr, DecidableEq

def BracketKind.message : BracketKind → PopFailure → String
  | .resume, .unrelated => "current-thread stack contains an unrelated activation"
  | .resume, .imbalance => "current-thread stack imbalance"
  | .activation, .unrelated => "withActivation crossed an unrelated activation"
  | .activation, .imbalance => "withActivation: current-thread stack imbalance"

/-- The stacks have their innermost entry first, the claims their newest last. `waiting` are the
suspension points of the store, `brackets` the open brackets on the JavaScript stack, and
`imbalance` is the first failed assertion. -/
structure Ambient where
  threadStack : List Nat
  entryStack : List Nat
  activationClaims : List Nat
  implicitThread : Nat → Option Nat
  logicalActivation : Nat → Option LogicalActivation
  logicalDescendants : Nat → List Nat
  waiting : List SuspensionPoint
  pendingResumptions : Finset Nat
  brackets : List Bracket
  imbalance : Option String

namespace Ambient

def initial : Ambient where
  threadStack := []
  entryStack := []
  activationClaims := []
  implicitThread := fun _ => none
  logicalActivation := fun _ => none
  logicalDescendants := fun _ => []
  waiting := []
  pendingResumptions := ∅
  brackets := []
  imbalance := none

/-! ## Claims -/

def physicalOwnerOf (ambient : Ambient) (t : Nat) : Nat :=
  match ambient.logicalActivation t with
  | some activation => activation.physicalOwner
  | none => t

def resolveAmbient (ambient : Ambient) : Option Nat :=
  ambient.threadStack.head? <|> ambient.activationClaims.getLast?

/-- The evidence that an activation executes. -/
def activationOf (ambient : Ambient) : Option Nat :=
  ambient.entryStack.head? <|> ambient.activationClaims.getLast?

def claimActivationAmbient (ambient : Ambient) (t : Nat) : Ambient :=
  if ambient.activationClaims.getLast? = some t then ambient
  else { ambient with activationClaims := ambient.activationClaims.erase t ++ [t] }

def releaseActivationAmbient (identities : Identities) (ambient : Ambient) (t : Nat) : Ambient :=
  if t ∈ ambient.activationClaims then
    { ambient with activationClaims := ambient.activationClaims.erase t }
  else
    match ambient.implicitThread (identities.task t) with
    | some implicit =>
        { ambient with activationClaims := ambient.activationClaims.erase implicit }
    | none => ambient

def resolveAmbientForInstance (identities : Identities) (ambient : Ambient) (inst : Option Nat) :
    Option Nat :=
  match inst with
  | none => ambient.resolveAmbient
  | some inst =>
      match ambient.threadStack.head?.filter (fun t => identities.instOf t = inst) with
      | some top => some top
      | none => ambient.activationClaims.reverse.find? (fun t => identities.instOf t = inst)

/-- `currentThreadForInstance`; without a result it throws `PendingCapability`. -/
def currentThreadForInstance (identities : Identities) (ambient : Ambient) (inst : Option Nat) :
    Option Nat :=
  ambient.resolveAmbientForInstance identities inst <|> ambient.resolveAmbient

/-! ## The resumption gate -/

def removePendingResumption (ambient : Ambient) (t : Nat) : Ambient :=
  { ambient with pendingResumptions := ambient.pendingResumptions.erase t }

def addPendingResumption (ambient : Ambient) (owner : Option Nat) : Ambient :=
  match owner with
  | some t => { ambient with pendingResumptions := insert t ambient.pendingResumptions }
  | none => ambient

/-- While it holds, `tick` resumes no thread. -/
def hasPendingResumptions (ambient : Ambient) : Bool := 0 < ambient.pendingResumptions.card

def consumePendingIfRunning (ambient : Ambient) : Ambient :=
  match ambient.activationOf with
  | some a => ambient.removePendingResumption (ambient.physicalOwnerOf a)
  | none => ambient

def releasePendingOf (identities : Identities) (ambient : Ambient) (t : Nat) : Ambient :=
  let released := ambient.releaseActivationAmbient identities t
  let own := released.removePendingResumption (ambient.physicalOwnerOf t)
  match ambient.implicitThread (identities.task t) with
  | some implicit => own.removePendingResumption (ambient.physicalOwnerOf implicit)
  | none => own

/-! ## Logical activations -/

def popLogicalActivation (identities : Identities) (ambient : Ambient) (t : Nat) : Ambient :=
  if ambient.threadStack.head? = some t then
    { ambient with threadStack := ambient.threadStack.tail }
  else ambient.releaseActivationAmbient identities t

/-- The constructor of `SynchronousActivation`. -/
def enter (identities : Identities) (ambient : Ambient) (t : Nat) (parent : Option Nat) :
    Ambient :=
  let physical := (parent.map ambient.physicalOwnerOf).getD t
  { ambient with
    threadStack := t :: ambient.threadStack
    implicitThread := Function.update ambient.implicitThread (identities.task t) (some t)
    logicalActivation := Function.update ambient.logicalActivation t
      (some { parent, physicalOwner := physical, active := true })
    logicalDescendants :=
      if physical = t then ambient.logicalDescendants
      else Function.update ambient.logicalDescendants physical
        (ambient.logicalDescendants physical ++ [t]) }

def deactivate (ambient : Ambient) (t : Nat) (activation : LogicalActivation) : Ambient :=
  { ambient with
    logicalActivation :=
      Function.update ambient.logicalActivation t (some { activation with active := false })
    logicalDescendants := Function.update ambient.logicalDescendants activation.physicalOwner
      ((ambient.logicalDescendants activation.physicalOwner).filter (· ≠ t)) }

/-- `SynchronousActivation.finish`. -/
def finish (identities : Identities) (ambient : Ambient) (t : Nat) : Ambient :=
  match ambient.logicalActivation t with
  | some activation =>
      if activation.active then
        let popped := (ambient.deactivate t activation).popLogicalActivation identities t
        match activation.parent with
        | some parent =>
            if popped.threadStack.head? = some parent then popped
            else popped.claimActivationAmbient parent
        | none => popped
      else ambient
  | none => ambient

/-- `SynchronousActivation.abort`. -/
def abort (ambient : Ambient) (t : Nat) : Ambient :=
  match ambient.logicalActivation t with
  | some activation =>
      if activation.active then (ambient.removePendingResumption t).deactivate t activation
      else ambient
  | none => ambient

/-- One round of the loop of `abortLogicalChildren`. -/
def abortChild (identities : Identities) (ambient : Ambient) (nested : Nat) : Ambient :=
  (ambient.abort nested).releaseActivationAmbient identities nested

def abortLogicalChildren (identities : Identities) (ambient : Ambient) (t : Nat) : Ambient :=
  (ambient.logicalDescendants (ambient.physicalOwnerOf t)).foldl (abortChild identities) ambient

/-! ## Brackets -/

/-- Pop the leftovers of logical activations, then the thread of the bracket. -/
def popTo (ambient : Ambient) (t : Nat) : List Nat → List Nat × Option PopFailure
  | [] => ([], some .imbalance)
  | top :: rest =>
      if top = t then (rest, none)
      else if (ambient.logicalActivation top).isSome then ambient.popTo t rest
      else (rest, some .unrelated)

def bracketOf (ambient : Ambient) (kind : BracketKind) (t : Nat) : Bracket where
  kind := kind
  thread := t
  threadStack := ambient.threadStack
  entryStack := ambient.entryStack

def openBracket (ambient : Ambient) (kind : BracketKind) (t : Nat) : Ambient :=
  { ambient with
    threadStack := t :: ambient.threadStack
    entryStack := (ambient.bracketOf kind t).entered
    brackets := ambient.bracketOf kind t :: ambient.brackets }

/-- The `catch` of a bracket. -/
def unwind (identities : Identities) (ambient : Ambient) (bracket : Bracket) : Ambient :=
  let aborted := ambient.abortLogicalChildren identities bracket.thread
  match bracket.kind with
  | .activation => aborted
  | .resume =>
      (aborted.releaseActivationAmbient identities bracket.thread).removePendingResumption
        bracket.thread

/-- The `finally` of a bracket. -/
def leave (ambient : Ambient) (bracket : Bracket) : Ambient :=
  let (threadStack, failure) := ambient.popTo bracket.thread ambient.threadStack
  { ambient with
    threadStack
    entryStack :=
      match bracket.kind with
      | .resume => ambient.entryStack
      | .activation => ambient.entryStack.tail
    brackets := ambient.brackets.tail
    imbalance := ambient.imbalance <|> failure.map bracket.kind.message }

/-- The innermost bracket returns or throws. -/
def closeBracket (identities : Identities) (ambient : Ambient) (throws : Bool) : Ambient :=
  match ambient.brackets with
  | [] => ambient
  | bracket :: _ =>
      if throws then (ambient.unwind identities bracket).leave bracket else ambient.leave bracket

/-! ## Suspension points -/

/-- `blockCurrentActivation` for a built-in of this task. -/
def blockCurrentActivation (identities : Identities) (ambient : Ambient) (task : Nat) : Ambient :=
  let logicalOwner := ambient.resolveAmbient <|> ambient.implicitThread task
  let consumed := ambient.consumePendingIfRunning
  let released :=
    match logicalOwner with
    | some t => consumed.releaseActivationAmbient identities t
    | none => consumed
  { released with
    waiting := released.waiting ++
      [{ owner := logicalOwner.map ambient.physicalOwnerOf, logicalOwner }] }

/-- `SuspensionPoint.resume`, whether its `produce` returns or throws. -/
def resumePoint (ambient : Ambient) (index : Nat) : Ambient :=
  match ambient.waiting[index]? with
  | none => ambient
  | some point =>
      let consumed :=
        { ambient with waiting := ambient.waiting.eraseIdx index }.consumePendingIfRunning
      let claimed :=
        match consumed.resolveAmbient, point.logicalOwner with
        | none, some t => consumed.claimActivationAmbient t
        | _, _ => consumed
      claimed.addPendingResumption point.owner

/-! ## Runs -/

inductive Action where
  /-- The scheduler resumes a thread. -/
  | resume (t : Nat)
  /-- `withActivation` for this thread. -/
  | withActivation (t : Nat)
  /-- The innermost bracket returns or throws. -/
  | close (throws : Bool)
  /-- A task enters with its implicit thread. -/
  | enterImplicitThread (task t : Nat)
  /-- A nested call enters: `enter-sync-call` that is admitted at once, or a call of `realloc`. -/
  | enter (t : Nat)
  /-- The `produce` of a deferred `enter-sync-call` of this caller. -/
  | enterDeferred (t : Nat) (caller : Option Nat)
  /-- The nested call returns. -/
  | exit (t : Nat)
  /-- The nested call fails. -/
  | abandon (t : Nat)
  /-- A claim of a `Suspending` import or of a continuation sentinel. -/
  | claim (t : Nat)
  /-- The thread executes a built-in that neither blocks nor resumes a suspension point. -/
  | builtin (t : Nat)
  /-- A built-in of the task blocks the activation that calls it. -/
  | block (task : Nat)
  /-- A suspension point is resumed, by a built-in of the executing thread or by a driver. -/
  | resumePoint (index : Nat) (executing : Option Nat)
  | abandonPoint (index : Nat)
  /-- The promise that the thread waits for settles. -/
  | settle (t : Nat)
  deriving Repr, DecidableEq

def step (identities : Identities) (action : Action) (ambient : Ambient) : Ambient :=
  match action with
  | .resume t => ambient.openBracket .resume t
  | .withActivation t => ambient.openBracket .activation t
  | .close throws => ambient.closeBracket identities throws
  | .enterImplicitThread task t =>
      { ambient with implicitThread := Function.update ambient.implicitThread task (some t) }
  | .enter t => ambient.enter identities t ambient.resolveAmbient
  | .enterDeferred t caller =>
      ((ambient.enter identities t caller).popLogicalActivation identities t).claimActivationAmbient t
  | .exit t => ambient.finish identities t
  | .abandon t => (ambient.abort t).popLogicalActivation identities t
  | .claim t => ambient.claimActivationAmbient t
  | .builtin _ => ambient
  | .block task => ambient.blockCurrentActivation identities task
  | .resumePoint index _ => ambient.resumePoint index
  | .abandonPoint index => { ambient with waiting := ambient.waiting.eraseIdx index }
  | .settle t => ambient.releasePendingOf identities t

/-- What the callers keep: the thread of a nested call is a new object, and `exit-sync-call` runs in
the frame of the nested call itself, after every bracket of its thread has returned. -/
def Possible (action : Action) (ambient : Ambient) : Prop :=
  match action with
  | .enter t | .enterDeferred t _ => t ∉ ambient.threadStack ∧ ambient.logicalActivation t = none
  | .exit t | .abandon t => ∀ bracket ∈ ambient.brackets, bracket.thread ≠ t
  | _ => True

end Ambient

end Polyengine.Task
