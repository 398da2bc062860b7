import Polyengine.Cabi.Trap

/-!
# Component plans and their core instances

The parts of a plan that say how core modules are linked, the core modules as far as the calls between
their functions go, and the classification of the trampolines that may suspend.
-/

set_option autoImplicit false

namespace Polyengine.Exec

open Polyengine.Cabi

/-! ## Plans -/

inductive ItemSpace where
  | func | table | memory | global | tag | unknown
  deriving Repr, DecidableEq

/-- `WireExportItem`. -/
structure ExportItem where
  name : String
  space : ItemSpace
  deriving Repr, DecidableEq

/-- `WireCoreDef`; instances are runtime instances, those of flags are component instances. -/
inductive CoreDef where
  | coreExport (runtimeInstance : Nat) (item : ExportItem)
  | instanceFlags (componentInstance : Nat)
  | trampoline (index : Nat)
  | unsafeIntrinsic (intrinsic : String)
  deriving Repr, DecidableEq

inductive CopyBuiltin where
  | streamRead | streamWrite | futureRead | futureWrite
  deriving Repr, DecidableEq

/-- The kinds of `WireTrampoline` that the classification tells apart, with the fields it reads. -/
inductive TrampolineKind where
  | lowerImport (lowered : Nat)
  | syncStartCall
  | asyncStartCall
  | enterSyncCall
  | waitableSetWait
  | threadYield
  | threadSuspend
  | threadSuspendThenResume
  | threadYieldThenResume
  | threadSuspendThenPromote
  | threadYieldThenPromote
  | subtaskCancel (isAsync : Bool)
  | copyCancel (builtin : CopyBuiltin) (isAsync : Bool)
  | copy (builtin : CopyBuiltin) (options : Option Nat)
  | other (kind : String)
  deriving Repr, DecidableEq

structure Trampoline where
  kind : TrampolineKind
  componentInstance : Option Nat
  deriving Repr, DecidableEq

/-- `trampolineNeedsSuspension`: a call genuinely blocks. -/
def trampolineNeedsSuspension (kind : TrampolineKind) (optionsAsync : Nat → Bool) : Bool :=
  match kind with
  | .syncStartCall | .waitableSetWait | .threadYield | .threadSuspend | .threadSuspendThenResume
  | .threadYieldThenResume | .threadSuspendThenPromote | .threadYieldThenPromote => true
  | .subtaskCancel isAsync | .copyCancel _ isAsync => !isAsync
  | .copy _ (some options) => !optionsAsync options
  | .copy _ none => true
  | .lowerImport _ | .asyncStartCall | .enterSyncCall | .other _ => false

/-- `trampolineCanBlock`: in JSPI mode the import has to be suspending. -/
def trampolineCanBlock (kind : TrampolineKind) (optionsAsync : Nat → Bool) : Bool :=
  match kind with
  | .asyncStartCall | .enterSyncCall | .subtaskCancel _ => true
  | kind => trampolineNeedsSuspension kind optionsAsync

/-! ## Core modules -/

inductive ImportKind where
  | func | table | object
  deriving Repr, DecidableEq

/-- An item of a module by its place in its index space, in which the imports come first; a memory, a
global and a tag are objects. -/
inductive Extern where
  | func (index : Nat)
  | table (index : Nat)
  | object (index : Nat)
  deriving Repr, DecidableEq

/-- A declared import of `WebAssembly.Module.imports`. -/
structure DeclaredImport where
  module : String
  name : String
  kind : ImportKind
  deriving Repr, DecidableEq

/-- What the code of a function can call: the functions of its module, and what is in a table. -/
structure Body where
  calls : List Nat
  indirect : List Nat
  deriving Repr, DecidableEq

/-- A core module; `stores` are the functions that its element segments and its code put into tables. -/
structure CoreModule where
  declared : List DeclaredImport
  functions : List Body
  stores : List (Nat × Nat)
  exports : List (String × Extern)
  deriving Repr, DecidableEq

/-! ## Core instances -/

/-- The address of a function: the place in the module of the instance that defines it, or the import
of the instance for which a JS function was made a core function. -/
inductive FuncAddr where
  | wasm (runtimeInstance function : Nat)
  | host (runtimeInstance import' : Nat)
  deriving Repr, DecidableEq

/-- The instance at which a function came into being. -/
def FuncAddr.origin : FuncAddr → Nat
  | .wasm runtimeInstance _ | .host runtimeInstance _ => runtimeInstance

/-- The address of a table or of an object: the instance that defines it and its place there. -/
structure ItemAddr where
  runtimeInstance : Nat
  index : Nat
  deriving Repr, DecidableEq

/-- The values of imports and exports; a suspending import is a new object at each import, and a
post-return wrapper is one for each adapter and function. -/
inductive Importable where
  | func (address : FuncAddr)
  | trampoline (index : Nat)
  | intrinsic (componentInstance : Option Nat) (symbol : String)
  | suspending (runtimeInstance import' trampoline : Nat)
  | postReturn (runtimeInstance : Nat) (original : Importable)
  | table (address : ItemAddr)
  | object (address : ItemAddr)
  | flags (componentInstance : Nat)
  deriving Repr, DecidableEq

/-- `typeof value === "function"`. -/
def Importable.isFunction : Importable → Bool
  | .func _ | .trampoline _ | .intrinsic _ _ | .postReturn _ _ => true
  | .suspending _ _ _ | .table _ | .object _ | .flags _ => false

/-- A value that WebAssembly accepts for an import of the kind. -/
def Importable.links : Importable → ImportKind → Bool
  | .suspending _ _ _, .func => true
  | .table _, .table => true
  | .object _, .object | .flags _, .object => true
  | value, .func => value.isFunction
  | _, _ => false

/-- A runtime instance, with the component instance that its module belongs to (none for an
adapter). -/
structure CoreInstance where
  module : CoreModule
  imports : List Importable
  owner : Option Nat
  deriving Repr, DecidableEq

namespace CoreInstance

/-- The function that a function import of instance `self` gives. -/
def importedFunc (self position : Nat) : Importable → FuncAddr
  | .func address => address
  | _ => .host self position

/-- The functions among the imports; linking has checked the kinds. -/
def importedFuncs (core : CoreInstance) (self : Nat) : List FuncAddr :=
  core.imports.zipIdx.filterMap fun (value, position) =>
    if value.links .func then some (importedFunc self position value) else none

/-- The function index space of instance `self`. -/
def funcSpace (core : CoreInstance) (self : Nat) : List FuncAddr :=
  core.importedFuncs self ++ (List.range core.module.functions.length).map (.wasm self)

def item (core : CoreInstance) (self : Nat) (kind : ImportKind) (index : Nat) : Importable :=
  let imported := core.imports.filter (·.links kind)
  match imported[index]? with
  | some value => value
  | none =>
      match kind with
      | .table => .table ⟨self, index - imported.length⟩
      | _ => .object ⟨self, index - imported.length⟩

/-- `instance.exports[name]`. -/
def exportValue (core : CoreInstance) (self : Nat) (name : String) : Option Importable :=
  match core.module.exports.lookup name with
  | none => none
  | some (.func index) => (core.funcSpace self)[index]?.map .func
  | some (.table index) => some (core.item self .table index)
  | some (.object index) => some (core.item self .object index)

/-- The functions among `Object.values(instance.exports)`. -/
def exportedFuncs (core : CoreInstance) (self : Nat) : List FuncAddr :=
  core.module.exports.filterMap fun entry =>
    match entry.2 with
    | .func index => (core.funcSpace self)[index]?
    | _ => none

end CoreInstance

end Polyengine.Exec
