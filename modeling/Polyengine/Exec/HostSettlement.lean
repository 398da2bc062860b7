import Mathlib.Logic.Function.Basic
import Polyengine.Library.Reentrant

/-!
# Host calls

The calls of one host function adapter: each runs the host function and hooks, which may throw or use
the adapter again, and becomes an immediate or a pending host call. Immediate ones share a reusable
carrier while it is free.
-/

set_option autoImplicit false

namespace Polyengine.Exec.HostCalls

open Polyengine.Library

variable {Value Error : Type}

/-- `HostSettlement`. -/
inductive HostSettlement (Value Error : Type) where
  | value (value : Value)
  | error (error : Error)
  deriving Repr, DecidableEq

def HostSettlement.isError : HostSettlement Value Error → Bool
  | .value _ => false
  | .error _ => true

/-- How completion is observed: by reactions on the promise, or, where `then` has thrown, by a job. -/
inductive Reaction (Error : Type) where
  | attached
  | job (error : Error)
  deriving Repr, DecidableEq

/-- A host call: none while the host function or a hook of its invocation runs. The context of a call is
its number. -/
inductive HostCall (Value Error : Type) where
  | none
  | immediate (settlement : HostSettlement Value Error) (context : Nat)
  | reusable
  | pending (context : Nat)
  deriving Repr, DecidableEq

/-- A call of the adapter. `ended` is the flag of `pendingHostCall`. `ends` and `rejects` count the
invocations of the hooks; `settles` are the completions that were passed to the observer, `finished` what
`finish` has received. `outcome` is how the call ended, and `running` says that its reaction is under
way. -/
structure Call (Value Error : Type) where
  carrier : HostCall Value Error
  ended : Bool
  discarded : Bool
  observed : Bool
  reaction : Option (Reaction Error)
  reacted : Bool
  running : Bool
  outcome : Option (HostSettlement Value Error)
  ends : Nat
  rejects : Nat
  settles : List (HostSettlement Value Error)
  read : Bool
  finished : List (HostSettlement Value Error × Option Nat)
  deriving Repr, DecidableEq

def Call.start : Call Value Error where
  carrier := .none
  ended := false
  discarded := false
  observed := false
  reaction := .none
  reacted := false
  running := false
  outcome := .none
  ends := 0
  rejects := 0
  settles := []
  read := false
  finished := []

/-- `ReusableImmediateHostCall`; no settlement stands for `{ value: undefined }`. -/
structure ReusableImmediateHostCall (Value Error : Type) where
  busy : Bool
  settlement : Option (HostSettlement Value Error)
  context : Option Nat

/-- The adapter: its carrier, and its calls by number. -/
structure Adapter (Value Error : Type) where
  reusable : ReusableImmediateHostCall Value Error
  calls : Nat → Option (Call Value Error)
  next : Nat

def Adapter.initial : Adapter Value Error where
  reusable := ⟨false, none, none⟩
  calls := fun _ => none
  next := 0

/-- Where the host's code runs. -/
inductive Hook where
  | invoke
  | instanceOf
  | thenGetter
  | adopt
  | end'
  | reject
  | observe
  | settle
  | finish
  deriving Repr, DecidableEq

abbrev Program (Value Error Result : Type) := Reentrant (Adapter Value Error) Hook Error Result

section

variable (id : Nat)

def change (update : Call Value Error → Call Value Error) : Program Value Error PUnit :=
  modify fun adapter =>
    { adapter with calls := Function.update adapter.calls id ((adapter.calls id).map update) }

def call : Program Value Error (Option (Call Value Error)) := do
  return (← get).calls id

/-- What the hook throws is preserved nowhere. -/
def ignoring (hook : Hook) : Program Value Error Unit :=
  tryCatch (Reentrant.invoke hook) fun _ => pure ()

def attempt (hook : Hook) : Program Value Error (Option Error) :=
  tryCatch (do Reentrant.invoke hook; return none) fun error => return some error

def immediateHostCall (reusable : Bool) (settlement : HostSettlement Value Error) :
    Program Value Error Unit := do
  let adapter ← get
  if reusable = true ∧ adapter.reusable.busy = false then
    modify fun adapter => { adapter with reusable := ⟨true, some settlement, some id⟩ }
    change id fun call => { call with carrier := .reusable, outcome := some settlement }
  else
    change id fun call => { call with
      carrier := .immediate settlement id
      outcome := some settlement }

def rejectHooks (error : Error) (end' : Bool) :
    Program Value Error (HostSettlement Value Error) := do
  if end' = true then
    change id fun call => { call with ends := call.ends + 1 }
    ignoring .end'
  change id fun call => { call with rejects := call.rejects + 1 }
  ignoring .reject
  return .error error

def pendingHostCall : Program Value Error Unit :=
  change id fun call => { call with carrier := .pending id }

/-- What the host function returned: its value, whether that is a native promise, and whether its
property `then` is a function. -/
structure Returned (Value : Type) where
  value : Value
  nativePromise : Bool
  thenable : Bool

/-- The steps of `invokeHostCallWith` after the host function has returned. -/
def classify (reusable thenableIsValue : Bool) (returned : Returned Value) :
    Program Value Error Unit := do
  if thenableIsValue = false then
    match ← attempt .instanceOf with
    | some error =>
        let settlement ← rejectHooks id error true
        immediateHostCall id reusable settlement
    | none =>
        if returned.nativePromise = true then pendingHostCall id
        else
          match ← attempt .thenGetter with
          | some error =>
              let settlement ← rejectHooks id error true
              immediateHostCall id reusable settlement
          | none =>
              if returned.thenable = true then
                match ← attempt .adopt with
                | some error =>
                    let settlement ← rejectHooks id error true
                    immediateHostCall id reusable settlement
                | none => pendingHostCall id
              else complete
  else complete
where
  complete : Program Value Error Unit := do
    change id fun call => { call with ends := call.ends + 1 }
    match ← attempt .end' with
    | none => immediateHostCall id reusable (.value returned.value)
    | some error =>
        let settlement ← rejectHooks id error false
        immediateHostCall id reusable settlement

/-- `invokeHostCallWith` under a new number. -/
def invokeHostCallWith (reusable thenableIsValue : Bool) (returned : Returned Value) :
    Program Value Error Unit := do
  let id := (← get).next
  modify fun adapter => { adapter with
    calls := Function.update adapter.calls id (some Call.start)
    next := adapter.next + 1 }
  match ← attempt .invoke with
  | some error =>
      let settlement ← rejectHooks id error true
      immediateHostCall id reusable settlement
  | none => classify id reusable thenableIsValue returned

/-- The function `end` of a pending call. -/
def endPending : Program Value Error Unit := do
  match ← call id with
  | some call =>
      if call.ended = false then
        change id fun call => { call with ended := true, ends := call.ends + 1 }
        Reentrant.invoke .end'
  | none => pure ()

/-- The function `rejected` of a pending call. -/
def rejected (error : Error) : Program Value Error (HostSettlement Value Error) := do
  match ← call id with
  | some call =>
      if call.ended = false then
        change id fun call => { call with ended := true }
        rejectHooks id error true
      else rejectHooks id error false
  | none => return .error error

/-- The function `fulfilled` of a pending call. -/
def fulfilled (result : Value) : Program Value Error (HostSettlement Value Error) :=
  tryCatch (do endPending id; return .value result) fun error => rejected id error

def discard : Program Value Error Unit := do
  match ← call id with
  | some call =>
      match call.carrier with
      | .pending _ =>
          change id fun call => { call with discarded := true }
          endPending id
      | _ => pure ()
  | none => pure ()

/-- `observe`, once. -/
def observe : Program Value Error Unit := do
  match ← call id with
  | some call =>
      match call.carrier, call.observed with
      | .pending _, false =>
          change id fun call => { call with observed := true }
          match ← attempt .observe with
          | none => change id fun call => { call with reaction := some .attached }
          | some error => change id fun call => { call with reaction := some (.job error) }
      | _, _ => pure ()
  | none => pure ()

def settlementOf (resolution : HostSettlement Value Error) :
    Reaction Error → Program Value Error (HostSettlement Value Error)
  | .attached =>
      match resolution with
      | .value result => fulfilled id result
      | .error error => rejected id error
  | .job error => rejected id error

/-- The promise of the call has settled, and its reaction or the job runs. -/
def react (resolution : HostSettlement Value Error) : Program Value Error Unit := do
  match ← call id with
  | some call =>
      match call.reaction, call.reacted with
      | some reaction, false =>
          change id fun call => { call with reacted := true, running := true }
          let settlement ← settlementOf id resolution reaction
          change id fun call => { call with
            running := false
            outcome := some settlement
            settles := call.settles ++ [settlement] }
          Reentrant.invoke .settle
      | _, _ => pure ()
  | none => pure ()

/-- `releaseHostCall` of a call whose carrier is the reusable one. -/
def releaseReusable : Program Value Error Unit :=
  modify fun adapter => { adapter with reusable := ⟨false, none, none⟩ }

/-- The result of a call is finished, once. -/
def finishHostCall : Program Value Error Unit := do
  let adapter ← get
  match adapter.calls id with
  | some call =>
      if call.read = false then
        match call.carrier, call.settles with
        | .immediate settlement context, _ => finish settlement (some context)
        | .reusable, _ =>
            match adapter.reusable.settlement with
            | some settlement =>
                releaseReusable
                finish settlement adapter.reusable.context
            | none => pure ()
        | .pending context, settlement :: _ => finish settlement (some context)
        | _, _ => pure ()
  | none => pure ()
where
  finish (settlement : HostSettlement Value Error) (context : Option Nat) :
      Program Value Error Unit := do
    change id fun call => { call with
      read := true
      finished := call.finished ++ [(settlement, context)] }
    Reentrant.invoke .finish

/-- An immediate call whose result will not be inspected is released instead. -/
def releaseHostCall : Program Value Error Unit := do
  match ← call id with
  | some call =>
      if call.read = false then
        match call.carrier with
        | .immediate _ _ => change id fun call => { call with read := true }
        | .reusable =>
            releaseReusable
            change id fun call => { call with read := true }
        | _ => pure ()
  | none => pure ()

end

/-- What the boundary and the host do with the adapter and its calls. -/
inductive Operation (Value Error : Type) where
  | invoke (reusable thenableIsValue : Bool) (returned : Returned Value)
  | observe (id : Nat)
  | react (id : Nat) (resolution : HostSettlement Value Error)
  | discard (id : Nat)
  | finish (id : Nat)
  | release (id : Nat)

def operations : Operation Value Error → Program Value Error Unit
  | .invoke reusable thenableIsValue returned =>
      invokeHostCallWith reusable thenableIsValue returned
  | .observe id => observe id
  | .react id resolution => react id resolution
  | .discard id => discard id
  | .finish id => finishHostCall id
  | .release id => releaseHostCall id

end Polyengine.Exec.HostCalls
