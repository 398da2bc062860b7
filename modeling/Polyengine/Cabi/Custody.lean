import Polyengine.Cabi.HandleTable
import Polyengine.Cabi.Store

/-!
# Custody of prepared values

Host values whose ownership was acquired for a guest are cleaned up when lowering them fails. Each
acquisition remembers its cleanup and, once lowered, the slot that it was inserted into.
-/

set_option autoImplicit false

namespace Polyengine.Cabi

open Polyengine.Library

/-- What a slot of a handle table holds; objects that can be told apart carry their identity. -/
inductive HandleEntry where
  | resource (object rt rep : Nat) (own : Bool) (borrowScope : Option Nat)
  | readableEnd (shared : Nat)
  | errorContext (identity : Nat)
  | other (identity : Nat)
  deriving Repr, DecidableEq

/-- The closure of an acquisition, as the values it captures. -/
inductive Cleanup where
  | callDtor (rt rep : Nat)
  | dropShared (shared : Nat)
  deriving Repr, DecidableEq

structure Insertion where
  table : Nat
  index : Nat
  entry : HandleEntry
  tenure : Nat
  deriving Repr, DecidableEq

structure Acquisition where
  cleanup : Cleanup
  insertion : Option Insertion
  deriving Repr, DecidableEq

structure PreparedCustody where
  acquired : List Acquisition
  starts : List Nat
  insertCursor : Nat
  finished : Bool
  deriving Repr, DecidableEq

namespace PreparedCustody

def empty : PreparedCustody where
  acquired := []
  starts := []
  insertCursor := 0
  finished := false

def acquire (custody : PreparedCustody) (cleanup : Cleanup) : Except Failure PreparedCustody :=
  if custody.finished then throw (.thrown "prepared custody already finished")
  else return { custody with acquired := custody.acquired ++ [⟨cleanup, none⟩] }

def deferStart (custody : PreparedCustody) (start : Nat) : PreparedCustody :=
  { custody with starts := custody.starts ++ [start] }

def inserted (custody : PreparedCustody) (insertion : Insertion) : PreparedCustody :=
  { custody with
    acquired := custody.acquired.modify custody.insertCursor fun a =>
      { a with insertion := some insertion }
    insertCursor := custody.insertCursor + 1 }

def delivered (custody : PreparedCustody) : PreparedCustody :=
  { custody with finished := true, starts := [], acquired := [] }

end PreparedCustody

-- `rt` is the resource table of the destination; the destructor is that of its resource.
def asRep : Value → Except Failure Nat
  | .number n => if 0 ≤ n then .ok n.toNat else .error illTyped
  | _ => .error illTyped

def asShared : Value → Except Failure Nat
  | .token identity => .ok identity
  | _ => .error illTyped

mutual

def hasRawCustody : DespecializedValType → Bool
  | .own _ | .stream _ | .future _ => true
  | .list element _ => hasRawCustody element
  | .record fields => hasRawCustodyRecord fields
  | .variant cases => hasRawCustodyVariant cases
  | _ => false

def hasRawCustodyRecord : List DespecializedFieldType → Bool
  | [] => false
  | ⟨_, type⟩ :: rest => hasRawCustody type || hasRawCustodyRecord rest

def hasRawCustodyVariant : List DespecializedCaseType → Bool
  | [] => false
  | ⟨_, some type⟩ :: rest => hasRawCustody type || hasRawCustodyVariant rest
  | ⟨_, none⟩ :: rest => hasRawCustodyVariant rest

end

section Acquire

variable {State : Type} (checkpoint : Command State Failure Unit)

abbrev Acquiring (State Result : Type) : Type := Command (PreparedCustody × State) Failure Result

/-- Take custody of one leaf, unless the checkpoint stops it. -/
def acquireLeaf (cleanup : Cleanup) : Acquiring State Unit := do
  let (custody, state) ← get
  let (result, state) := checkpoint.outcome state
  set (custody, state)
  liftM result
  set (← custody.acquire cleanup, state)

/-- The element loop of `acquireRawValue`. -/
def acquireElements (acquireElement : Value → Acquiring State Unit) :
    List Value → Acquiring State Unit
  | [] => return ()
  | e :: rest => do
      acquireElement e
      acquireElements acquireElement rest

mutual

def acquireRawValue (v : Value) (d : DespecializedValType) : Acquiring State Unit :=
  if hasRawCustody d then
    match d with
    | .own rt => do acquireLeaf checkpoint (.callDtor rt (← asRep v))
    | .stream _ | .future _ => do acquireLeaf checkpoint (.dropShared (← asShared v))
    | .list element _ => do
        acquireElements (fun e => acquireRawValue e element) (← arrayLike v)
    | .record fields => acquireFields v fields
    | .variant cases =>
        match v with
        | .variant kind value => acquireCase kind value cases
        | _ => throw illTyped
    | _ => return ()
  else return ()

def acquireFields (v : Value) : List DespecializedFieldType → Acquiring State Unit
  | [] => return ()
  | ⟨label, type⟩ :: rest => do
      acquireRawValue (← propertyOf v label) type
      acquireFields v rest

/-- The payload of the first case with the label, if it has one. -/
def acquireCase (kind : String) (value : Value) :
    List DespecializedCaseType → Acquiring State Unit
  | [] => return ()
  | ⟨label, content⟩ :: rest =>
      if label == kind then
        match content with
        | some type => acquireRawValue value type
        | none => return ()
      else acquireCase kind value rest

end

/-- The loop of the transfer of `prepareRawValues`. -/
def acquireRawValues : List Value → List ValType → Acquiring State Unit
  | v :: vs, t :: ts => do
      acquireRawValue checkpoint v (despecialize t)
      acquireRawValues vs ts
  | _, _ => return ()

end Acquire

end Polyengine.Cabi
