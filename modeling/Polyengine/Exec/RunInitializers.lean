import Polyengine.Exec.CorePlan

/-!
# The initializers of a plan

The executor instantiates the core modules one after another; on the way it collects which functions
can suspend, from the imports of the module that is instantiated.
-/

set_option autoImplicit false

namespace Polyengine.Exec

open Polyengine.Cabi Polyengine.Library

inductive SuspensionMode where
  | plain | jspi
  deriving Repr, DecidableEq

/-- `WireIntrinsicEntry`. -/
structure IntrinsicEntry where
  module : String
  name : String
  def' : CoreDef
  deriving Repr, DecidableEq

inductive ModuleKind where
  | embedded
  | adapter (intrinsics : List IntrinsicEntry)
  deriving Repr, DecidableEq

/-- `WireInitializer`; the extractions of functions have one constructor. -/
inductive Initializer where
  | instantiateModule (module : Nat) (componentInstance : Option Nat) (args : List CoreDef)
  | lowerImport (index import' : Nat)
  | extractItem (space : ImportKind) (runtimeInstance : Nat) (item : ExportItem)
  | extractFunction (def' : CoreDef)
  | resource (index : Nat) (dtor : Option CoreDef) (componentInstance : Nat)
  deriving Repr, DecidableEq

/-- A plan with its compiled modules, and the host functions for its imports: whether each is marked
`suspending()`. -/
structure Plan where
  modules : List (ModuleKind × CoreModule)
  trampolines : List Trampoline
  canonicalOptions : List Bool
  imports : List (Option Bool)
  initializers : List Initializer
  mode : SuspensionMode

/-- `plan.canonicalOptions[i]?.async === true`. -/
def Plan.optionsAsync (plan : Plan) (index : Nat) : Bool :=
  plan.canonicalOptions[index]?.getD false

/-- The fields of `Executor` that linking uses; a destructor is kept with its definition and with the
mode of its entry. -/
structure Executor where
  instances : List CoreInstance
  lowerings : List (Nat × Nat)
  trampolineCache : List Nat
  suspendableFuncs : List FuncAddr
  blockingFuncs : List FuncAddr
  wrapFuncs : List FuncAddr
  sawBlockingImport : Bool
  sawWrapImport : Bool
  suspendableLowerings : List Nat
  destructors : List (CoreDef × SuspensionMode)

def Executor.create : Executor where
  instances := []
  lowerings := []
  trampolineCache := []
  suspendableFuncs := []
  blockingFuncs := []
  wrapFuncs := []
  sawBlockingImport := false
  sawWrapImport := false
  suspendableLowerings := []
  destructors := []

def planError : Failure := .thrown "PlanError"

/-- The symbols of `createUnsafeIntrinsic`. -/
def unsafeIntrinsics : List String :=
  ["context-get-i32-0", "context-get-i32-1", "context-set-i32-0", "context-set-i32-1"]

section

variable (plan : Plan)

/-- `buildLoweredImport`, as far as the classification goes. -/
def buildLoweredImport (lowered : Nat) (ex : Executor) : Except Failure Executor :=
  match ex.lowerings.lookup lowered with
  | none => throw planError
  | some importIndex =>
      match plan.imports[importIndex]? with
      | some (some suspendable) =>
          if suspendable then
            return { ex with suspendableLowerings := lowered :: ex.suspendableLowerings }
          else return ex
      | _ => throw planError

def trampoline (index : Nat) (ex : Executor) : Except Failure (Importable × Executor) :=
  if index ∈ ex.trampolineCache then return (.trampoline index, ex)
  else
    match plan.trampolines[index]? with
    | none => throw planError
    | some decl => do
        let ex ←
          match decl.kind with
          | .lowerImport lowered => buildLoweredImport plan lowered ex
          | _ => pure ex
        return (.trampoline index, { ex with trampolineCache := index :: ex.trampolineCache })

def resolveCoreExport (runtimeInstance : Nat) (item : ExportItem) (ex : Executor) :
    Except Failure Importable :=
  match ex.instances[runtimeInstance]? with
  | none => throw planError
  | some core =>
      match core.exportValue runtimeInstance item.name with
      | none => throw planError
      | some value => return value

/-- `resolveCoreDef` while `declaringInstance` is being resolved. -/
def resolveCoreDef (declaringInstance : Option Nat) (ref : CoreDef) (ex : Executor) :
    Except Failure (Importable × Executor) :=
  match ref with
  | .coreExport runtimeInstance item => do
      let value ← resolveCoreExport runtimeInstance item ex
      return (value, ex)
  | .instanceFlags componentInstance => return (.flags componentInstance, ex)
  | .trampoline index => trampoline plan index ex
  | .unsafeIntrinsic symbol =>
      if symbol ∈ unsafeIntrinsics then return (.intrinsic declaringInstance symbol, ex)
      else throw planError

/-- The evidence of an imported function that other instances export. -/
def Executor.noteEvidence (value : Importable) (ex : Executor) : Executor :=
  match value with
  | .func address =>
      { ex with
        sawWrapImport := ex.sawWrapImport || decide (address ∈ ex.wrapFuncs)
        sawBlockingImport := ex.sawBlockingImport || decide (address ∈ ex.blockingFuncs) }
  | _ => ex

/-- `importValue`, for an import of the instance that is being made. -/
def importValue (declaringInstance : Option Nat) (position : Nat) (ref : CoreDef) (ex : Executor) :
    Except Failure (Importable × Executor) := do
  let (value, ex) ← resolveCoreDef plan declaringInstance ref ex
  let ex := ex.noteEvidence value
  match plan.mode, ref with
  | .jspi, .trampoline index =>
      match plan.trampolines[index]? with
      | none => return (value, ex)
      | some decl =>
          match decl.kind with
          | .lowerImport lowered =>
              if lowered ∈ ex.suspendableLowerings then
                return (.suspending ex.instances.length position index,
                  { ex with sawBlockingImport := true })
              else return (value, ex)
          | kind =>
              if trampolineCanBlock kind plan.optionsAsync then
                if trampolineNeedsSuspension kind plan.optionsAsync then
                  return (.suspending ex.instances.length position index,
                    { ex with sawBlockingImport := true })
                else
                  return (.suspending ex.instances.length position index,
                    { ex with sawWrapImport := true })
              else return (value, ex)
  | _, _ => return (value, ex)

def moduleOwner : List Initializer → Nat → Option Nat
  | [], _ => none
  | .instantiateModule _ componentInstance _ :: inits, index =>
      match index with
      | 0 => componentInstance
      | index + 1 => moduleOwner inits index
  | _ :: inits, index => moduleOwner inits index

/-- `coreDefOwner`. -/
def coreDefOwner : CoreDef → Option Nat
  | .trampoline index => plan.trampolines[index]?.bind Trampoline.componentInstance
  | .coreExport runtimeInstance _ => moduleOwner plan.initializers runtimeInstance
  | .instanceFlags _ | .unsafeIntrinsic _ => none

/-- The imports of a module that were resolved: `seenAt` and the values of the import object, and the
owners of the post-return wrappers. -/
structure Linking where
  seenAt : List ((String × String) × Importable)
  values : List Importable
  postReturnWrappers : List (Importable × Nat)

def checkManifest (manifest : Option (List IntrinsicEntry)) (position : Nat) (imp : DeclaredImport)
    (ref : CoreDef) : Except Failure Unit :=
  match manifest with
  | none => return ()
  | some entries =>
      match entries[position]? with
      | none => throw planError
      | some entry =>
          if entry.module = imp.module ∧ entry.name = imp.name ∧ entry.def' = ref then return ()
          else throw planError

def wrapPostReturn (ref : CoreDef) (value : Importable) (self : Nat) (linking : Linking) :
    Except Failure (Importable × Linking) :=
  if value.isFunction = false then throw planError
  else
    match coreDefOwner plan ref with
    | none => throw planError
    | some owner =>
        match linking.postReturnWrappers.lookup value with
        | none =>
            return (.postReturn self value,
              { linking with postReturnWrappers := (value, owner) :: linking.postReturnWrappers })
        | some prior =>
            if prior ≠ owner then throw planError else return (.postReturn self value, linking)

def Linking.add (imp : DeclaredImport) (value : Importable) (linking : Linking) :
    Except Failure Linking :=
  if ∀ prior ∈ linking.seenAt.lookup (imp.module, imp.name), prior = value then
    return { linking with
      seenAt := ((imp.module, imp.name), value) :: linking.seenAt
      values := linking.values ++ [value] }
  else throw planError

/-- The body of the loop over the declared imports; `manifest` is that of an adapter. -/
def resolveImport (declaringInstance : Option Nat) (manifest : Option (List IntrinsicEntry))
    (imp : DeclaredImport) (ref : CoreDef) (linking : Linking) (ex : Executor) :
    Except Failure (Linking × Executor) := do
  checkManifest manifest linking.values.length imp ref
  let (value, ex) ← importValue plan declaringInstance linking.values.length ref ex
  let (value, linking) ←
    if manifest.isSome ∧ imp.module = "post_return" then
      wrapPostReturn plan ref value ex.instances.length linking
    else pure (value, linking)
  let linking ← linking.add imp value
  return (linking, ex)

/-- The loop over the declared imports and the arguments of the plan. -/
def resolveImports (declaringInstance : Option Nat) (manifest : Option (List IntrinsicEntry)) :
    List (DeclaredImport × CoreDef) → Linking → Executor → Except Failure (Linking × Executor)
  | [], linking, ex => return (linking, ex)
  | (imp, ref) :: rest, linking, ex => do
      let (linking, ex) ← resolveImport plan declaringInstance manifest imp ref linking ex
      resolveImports declaringInstance manifest rest linking ex

/-- The exports of the new instance are marked with the evidence that was seen. -/
def Executor.addInstance (core : CoreInstance) (ex : Executor) : Executor :=
  let exported := core.exportedFuncs ex.instances.length
  let ex :=
    if ex.sawBlockingImport then
      { ex with
        blockingFuncs := exported ++ ex.blockingFuncs
        suspendableFuncs := exported ++ ex.suspendableFuncs }
    else if ex.sawWrapImport then
      { ex with
        wrapFuncs := exported ++ ex.wrapFuncs
        suspendableFuncs :=
          if core.owner.isSome then exported ++ ex.suspendableFuncs else ex.suspendableFuncs }
    else ex
  { ex with instances := ex.instances ++ [core] }

def manifestOf (componentInstance : Option Nat) (kind : ModuleKind) : Option (List IntrinsicEntry) :=
  match componentInstance, kind with
  | none, .adapter intrinsics => some intrinsics
  | _, _ => none

def instantiateModule (moduleIndex : Nat) (componentInstance : Option Nat) (args : List CoreDef)
    (ex : Executor) : Except Failure Executor :=
  match plan.modules[moduleIndex]? with
  | none => throw planError
  | some (kind, module) =>
      let manifest := manifestOf componentInstance kind
      if module.declared.length ≠ args.length then throw planError
      else if manifest.any (·.length ≠ module.declared.length) then throw planError
      else do
        let ex := { ex with sawBlockingImport := false, sawWrapImport := false }
        let (linking, ex) ← resolveImports plan componentInstance manifest
          (module.declared.zip args) ⟨[], [], []⟩ ex
        -- `WebAssembly.instantiate` refuses a value of another kind
        if (linking.values.zip module.declared).all fun (value, imp) => value.links imp.kind then
          return ex.addInstance { module, imports := linking.values, owner := componentInstance }
        else throw (Failure.thrown "LinkError")

def resolveFunction (ref : CoreDef) (ex : Executor) : Except Failure (Importable × Executor) := do
  let (value, ex) ← resolveCoreDef plan none ref ex
  if value.isFunction then return (value, ex) else throw planError

/-- The mode of the host entry of a destructor. -/
def Executor.dtorMode (ex : Executor) (dtor : Importable) : SuspensionMode :=
  match plan.mode, dtor with
  | .jspi, .func address => if address ∈ ex.suspendableFuncs then .jspi else .plain
  | _, _ => .plain

def runInitializer (init : Initializer) (ex : Executor) : Except Failure Executor :=
  match init with
  | .instantiateModule module componentInstance args =>
      instantiateModule plan module componentInstance args ex
  | .lowerImport index import' => return { ex with lowerings := (index, import') :: ex.lowerings }
  | .extractItem space runtimeInstance item => do
      let value ← resolveCoreExport runtimeInstance item ex
      if value.links space ∧ value.isFunction = false then return ex else throw planError
  | .extractFunction ref => do
      let (_, ex) ← resolveFunction plan ref ex
      return ex
  | .resource _ none _ => return ex
  | .resource _ (some dtor) _ => do
      let (value, ex) ← resolveFunction plan dtor ex
      return { ex with destructors := ex.destructors ++ [(dtor, ex.dtorMode plan value)] }

def runInitializersFrom : List Initializer → Executor → Except Failure Executor
  | [], ex => return ex
  | init :: inits, ex => do
      let ex ← runInitializer plan init ex
      runInitializersFrom inits ex

def runInitializers : Except Failure Executor :=
  runInitializersFrom plan plan.initializers .create

end

end Polyengine.Exec
