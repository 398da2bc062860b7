import Mathlib.Logic.Function.Basic
import Polyengine.Bindgen.Codegen

/-!
# The declarations of generated bindings

What the generator of bindings declares for a resolved world: the value types that it meets in a
walk over the world, the classes of resources, and the interfaces of the imports and exports. A type
has an identity; names are written from it, and are only text in the file.
-/

set_option autoImplicit false

namespace Polyengine.Bindgen.Declarations

open Polyengine.Cabi Polyengine.Library

/-! ## Worlds -/

abbrev TypeId := Nat

abbrev InterfaceId := Nat

/-- `Type`. -/
inductive Ty where
  | prim (kind : PrimKind)
  | errorContext
  | id (id : TypeId)

/-- `TypeDefKind`; `type` is a name of another type, and a handle names its resource. -/
inductive TypeDefKind where
  | record (fields : List (String × Ty))
  | resource
  | handle (borrow : Bool) (resource : TypeId)
  | flags (flags : List String)
  | tuple (types : List Ty)
  | variant (cases : List (String × Option Ty))
  | enum (cases : List String)
  | option (payload : Ty)
  | result (ok err : Option Ty)
  | list (element : Ty)
  | fixedLengthList (element : Ty) (length : Nat)
  | map (key value : Ty)
  | future (payload : Option Ty)
  | stream (payload : Option Ty)
  | type (target : Ty)
  | unknown

structure TypeDef where
  name : Option String
  kind : TypeDefKind

inductive FunctionKind where
  | freestanding
  | asyncFreestanding
  | method (resource : TypeId)
  | asyncMethod (resource : TypeId)
  | static (resource : TypeId)
  | asyncStatic (resource : TypeId)
  | constructor (resource : TypeId)

structure WitFunction where
  name : String
  kind : FunctionKind
  params : List (String × Ty)
  result : Option Ty

structure PackageName where
  namespaceName : String
  name : String
  version : Option String

structure Interface where
  name : Option String
  package : Option PackageName
  types : List (String × TypeId)
  functions : List (String × WitFunction)

inductive WorldKey where
  | name (name : String)
  | interface (id : InterfaceId)

inductive WorldItem where
  | function (f : WitFunction)
  | interface (id : InterfaceId)
  | type (id : TypeId)

/-- The components that `walk_type` walks. -/
def TypeDefKind.walked : TypeDefKind → List Ty
  | .type target => [target]
  | .record fields => fields.map Prod.snd
  | .tuple types => types
  | .variant cases => cases.filterMap Prod.snd
  | .option payload => [payload]
  | .result ok err => ok.toList ++ err.toList
  | .list element | .fixedLengthList element _ => [element]
  | .map key value => [key, value]
  | _ => []

/-- The components of a type. -/
def TypeDefKind.parts : TypeDefKind → List Ty
  | .future payload | .stream payload => payload.toList
  | kind => kind.walked

/-- `method_resource`. -/
def methodResource (f : WitFunction) : Option TypeId :=
  match f.kind with
  | .method id | .asyncMethod id | .static id | .asyncStatic id | .constructor id => some id
  | .freestanding | .asyncFreestanding => none

/-- The types and interfaces that are known. No type is a component of itself, and what belongs to a
resource belongs to a declared one. -/
structure Resolve where
  types : TypeId → TypeDef
  interfaces : InterfaceId → Interface
  rank : TypeId → Nat
  descends : ∀ id part, .id part ∈ (types id).kind.parts → rank part < rank id
  owned : ∀ interface, ∀ f ∈ (interfaces interface).functions, ∀ resource,
    methodResource f.2 = some resource → (types resource).kind = .resource

structure World where
  name : String
  imports : List (WorldKey × WorldItem)
  exports : List (WorldKey × WorldItem)

/-! ## Texts -/

/-- A piece of generated text: a name is that of a WIT type. -/
inductive Token where
  | text (text : String)
  | name (ident : String) (type : TypeId)

abbrev Text := List Token

/-- `join`. -/
def joined (separator : String) (texts : List Text) : Text :=
  (texts.intersperse [.text separator]).flatten

/-- `ts_ident`. -/
def tsIdent (name : String) : String :=
  String.ofList
    ((name.toList.splitOnP fun c => c = '-' || c = '_').map Embedder.upperFirst).flatten

/-- `kebab_literal`; no character of a label is escaped. -/
def kebabLiteral (name : String) : String := "\"" ++ name ++ "\""

/-- Where a type is written: `ts_value_type`, `ts_param_type`, `ts_option_inner` and
`record_field_type`. -/
inductive Position where
  | value
  | param
  | optionInner
  | field
  deriving DecidableEq

/-- A part of what is written for a type. -/
inductive Piece where
  | text (text : String)
  | name (type : TypeId) (context : String)
  | type (position : Position) (type : Ty)
  | bail (message : String)

def payloadPieces : Option Ty → List Piece
  | some type => [.type .value type]
  | none => [.text "void"]

def armPieces (kind : String) : Option Ty → List Piece
  | some type =>
      [.text ("\x7b kind: \"" ++ kind ++ "\"; value: "), .type .value type, .text " \x7d"]
  | none => [.text ("\x7b kind: \"" ++ kind ++ "\" \x7d")]

/-- What is written for a type of a kind, which the other functions leave to `ts_value_type` where
they have no case of their own. -/
def pieces (position : Position) (id : TypeId) : TypeDefKind → List Piece
  | .type target => [.type (if position = .param then .param else .value) target]
  | .record _ | .variant _ | .enum _ | .flags _ =>
      [.name id "anonymous record/variant/enum/flags type"]
  | .tuple types =>
      .text "[" :: ((types.map (.type .value)).intersperse (.text ", ") ++ [.text "]"])
  | .list (.prim .u8) => [.text "Uint8Array"]
  | .list element | .fixedLengthList element _ => [.text "(", .type .value element, .text ")[]"]
  | .map key value =>
      [.text "[", .type .value key, .text ", ", .type .value value, .text "][]"]
  | .option payload =>
      match position with
      | .field => [.type .optionInner payload]
      | .optionInner =>
          [.text "(\x7b kind: \"some\"; value: ", .type .optionInner payload,
            .text " \x7d | \x7b kind: \"none\" \x7d)"]
      | _ => [.text "(", .type .optionInner payload, .text " | undefined)"]
  | .result ok err =>
      .text "(" :: (armPieces "ok" ok ++ .text " | " :: (armPieces "err" err ++ [.text ")"]))
  | .handle _ resource => [.name resource "resource type has no name"]
  | .future payload =>
      .text (if position = .param then "FutureSource<" else "Future<") ::
        (payloadPieces payload ++ [.text ">"])
  | .stream payload =>
      .text (if position = .param then "StreamSource<" else "Stream<") ::
        (payloadPieces payload ++ [.text ">"])
  | .resource => [.bail "bare resource used as a value type"]
  | .unknown => [.bail "unresolved type in a resolved Resolve"]

theorem TypeDefKind.walked_parts {kind : TypeDefKind} {type : Ty} (walked : type ∈ kind.walked) :
    type ∈ kind.parts := by
  cases kind with
  | future | stream => cases walked
  | _ => exact walked

theorem mem_of_mem_intersperse {Item : Type} {separator item : Item} {items : List Item}
    (member : item ∈ items.intersperse separator) : item = separator ∨ item ∈ items := by
  induction items with
  | nil => cases member
  | cons first rest ih =>
      cases rest with
      | nil => exact .inr member
      | cons second rest =>
          rw [List.intersperse_cons_cons, List.mem_cons, List.mem_cons] at member
          rcases member with rfl | rfl | member
          · exact .inr List.mem_cons_self
          · exact .inl rfl
          · exact (ih member).imp_right (List.mem_cons_of_mem first)

/-- The components that are written within the text of a type, and not behind its name. -/
def TypeDefKind.inline : TypeDefKind → List Ty
  | .record _ | .variant _ => []
  | kind => kind.parts

theorem TypeDefKind.inline_parts {kind : TypeDefKind} {type : Ty} (inline : type ∈ kind.inline) :
    type ∈ kind.parts := by
  cases kind with
  | record | variant => cases inline
  | _ => exact inline

theorem payloadPieces_type {payload : Option Ty} {inner : Position} {type : Ty} :
    .type inner type ∈ payloadPieces payload ↔ inner = .value ∧ payload = some type := by
  cases payload with
  | none => simp [payloadPieces]
  | some payload => simp [payloadPieces, eq_comm]

theorem armPieces_type {payload : Option Ty} {inner : Position} {kind : String} {type : Ty} :
    .type inner type ∈ armPieces kind payload ↔ inner = .value ∧ payload = some type := by
  cases payload with
  | none => simp [armPieces]
  | some payload => simp [armPieces, eq_comm]

theorem mem_inline_of_piece {position inner : Position} {id : TypeId} {kind : TypeDefKind}
    {type : Ty} (written : .type inner type ∈ pieces position id kind) : type ∈ kind.inline := by
  cases kind with
  | tuple types =>
      simp only [pieces, List.mem_cons, reduceCtorEq, List.mem_append, List.not_mem_nil, or_false,
        false_or] at written
      rcases mem_of_mem_intersperse written with separator | member
      · cases separator
      · obtain ⟨type', member, same⟩ := List.mem_map.mp member
        cases same
        exact member
  | result ok err =>
      simp only [pieces, List.mem_cons, reduceCtorEq, List.mem_append, List.not_mem_nil, or_false,
        false_or, armPieces_type] at written
      rcases written with ⟨_, present⟩ | ⟨_, present⟩
      · exact List.mem_append_left _ (Option.mem_toList.mpr present)
      · exact List.mem_append_right _ (Option.mem_toList.mpr present)
  | future payload | stream payload =>
      simp only [pieces, List.mem_cons, reduceCtorEq, List.mem_append, List.not_mem_nil, or_false,
        false_or, payloadPieces_type] at written
      exact Option.mem_toList.mpr written.2
  | list element =>
      unfold pieces at written
      split at written <;> simp_all [TypeDefKind.inline, TypeDefKind.parts, TypeDefKind.walked]
  | option payload =>
      cases position <;>
        simp_all [pieces, TypeDefKind.inline, TypeDefKind.parts, TypeDefKind.walked]
  | map key value =>
      simp only [pieces, List.mem_cons, reduceCtorEq, Piece.type.injEq, List.not_mem_nil, or_false,
        false_or] at written
      exact List.mem_pair.mpr (written.imp And.right And.right)
  | _ => simp_all [pieces, TypeDefKind.inline, TypeDefKind.parts, TypeDefKind.walked]

def primText : PrimKind → String
  | .bool => "boolean"
  | .u8 | .u16 | .u32 | .s8 | .s16 | .s32 | .f32 | .f64 => "number"
  | .u64 | .s64 => "bigint"
  | .char | .string => "string"

namespace Resolve

/-- How deep the definition of a type is. -/
def depth (resolve : Resolve) : Ty → Nat
  | .id id => resolve.rank id + 1
  | _ => 0

theorem depth_lt (resolve : Resolve) {id : TypeId} {part : Ty}
    (component : part ∈ (resolve.types id).kind.parts) :
    resolve.depth part < resolve.depth (.id id) := by
  cases part with
  | id part => exact Nat.succ_lt_succ (resolve.descends id part component)
  | prim | errorContext => exact Nat.succ_pos _

def nameText (resolve : Resolve) (id : TypeId) (context : String) : Except String Token :=
  match (resolve.types id).name with
  | some name => .ok (.name (tsIdent name) id)
  | none => .error context

end Resolve

variable (resolve : Resolve)

def tsText (position : Position) : Ty → Except String Text
  | .prim kind => return [.text (primText kind)]
  | .errorContext => return [.text "ErrorContext"]
  | .id id => do
      let texts ← (pieces position id (resolve.types id).kind).attach.mapM fun ⟨piece, _⟩ =>
        match piece with
        | .text text => return [.text text]
        | .name type context => return [← resolve.nameText type context]
        | .type inner type => tsText inner type
        | .bail message => throw message
      return texts.flatten
termination_by type => resolve.depth type
decreasing_by exact resolve.depth_lt (TypeDefKind.inline_parts (mem_inline_of_piece ‹_›))

/-! ## Declarations of value types -/

/-- A member of a declaration, with its type and its documentation. -/
structure Member where
  name : String
  text : Text

structure Declaration where
  ident : String
  type : TypeId
  members : List Member
  text : Text

/-- The record field as `emit_named_type` writes it. -/
def recordMember (field : String × Ty) : Except String Member := do
  let optional :=
    match field.2 with
    | .id id => match (resolve.types id).kind with
      | .option _ => true
      | _ => false
    | _ => false
  let text ← tsText resolve .field field.2
  return ⟨camelCase field.1, .text (if optional then "?: " else ": ") :: text⟩

def variantArm (case : String × Option Ty) : Except String Text :=
  let kind := "\x7b kind: " ++ kebabLiteral case.1
  match case.2 with
  | some type => do
      return .text (kind ++ "; value: ") :: ((← tsText resolve .value type) ++ [.text " \x7d"])
  | none => return [.text (kind ++ " \x7d")]

def declare (id : TypeId) : Option (Except String Declaration) :=
  match (resolve.types id).kind, (resolve.types id).name with
  | .record fields, some name => some do
      return ⟨tsIdent name, id, ← fields.mapM (recordMember resolve), []⟩
  | .variant cases, some name => some do
      return ⟨tsIdent name, id, [], joined "\n  | " (← cases.mapM (variantArm resolve))⟩
  | .enum cases, some name =>
      let arms := cases.map fun case => [.text (kebabLiteral case)]
      some (.ok ⟨tsIdent name, id, [], joined "\n  | " arms⟩)
  | .flags flags, some name =>
      some (.ok ⟨tsIdent name, id, flags.map fun flag => ⟨camelCase flag, [.text ": boolean"]⟩, []⟩)
  | _, _ => none

structure Emission where
  emitted : List TypeId
  out : List Declaration

/-- `emit_named_type`. -/
def emitNamedType (emission : Emission) (id : TypeId) : Except String Emission :=
  if id ∈ emission.emitted then return emission else
  match declare resolve id with
  | some declaration => do
      return ⟨id :: emission.emitted, emission.out ++ [← declaration]⟩
  | none =>
      match (resolve.types id).kind with
      | .resource => return { emission with emitted := id :: emission.emitted }
      | _ => return emission

/-- `walk_type`. -/
def walkType (emission : Emission) : Ty → Except String Emission
  | .id id => do
      let walked ← (resolve.types id).kind.walked.attach.foldlM
        (fun emission ⟨part, _⟩ => walkType emission part) emission
      emitNamedType resolve walked id
  | _ => return emission
termination_by type => resolve.depth type
decreasing_by exact resolve.depth_lt (TypeDefKind.walked_parts ‹_›)

/-- `walk_func_types`. -/
def walkFuncTypes (emission : Emission) (f : WitFunction) : Except String Emission :=
  (f.params.map Prod.snd ++ f.result.toList).foldlM (walkType resolve) emission

/-- `collect_and_emit_types`. -/
def collectAndEmitTypes (emission : Emission) (item : WorldKey × WorldItem) :
    Except String Emission :=
  match item.2 with
  | .function f => walkFuncTypes resolve emission f
  | .interface id => do
      let interface := resolve.interfaces id
      let named ← (interface.types.map Prod.snd).foldlM (emitNamedType resolve) emission
      (interface.functions.map Prod.snd).foldlM (walkFuncTypes resolve) named
  | .type id => emitNamedType resolve emission id

/-! ## Functions -/

inductive Side where
  | import
  | export
  deriving DecidableEq

def param (p : String × Ty) : Except String Text := do
  let text ← tsText resolve .param p.2
  return .text (camelCase p.1 ++ ": ") :: text

/-- `param_list`. -/
def paramList (params : List (String × Ty)) : Except String Text := do
  return joined ", " (← params.mapM (param resolve))

/-- The parameters of `param_list_skip_self`. -/
def skipSelf (f : WitFunction) : List (String × Ty) :=
  match f.kind with
  | .method _ | .asyncMethod _ => f.params.drop 1
  | _ => f.params

def behindNames : Ty → Option TypeDefKind
  | .id id =>
      match _named : (resolve.types id).kind with
      | .type target => behindNames target
      | kind => some kind
  | _ => none
termination_by type => resolve.depth type
decreasing_by
  refine resolve.depth_lt ?_
  rw [_named]
  exact List.mem_singleton_self target

/-- `as_top_level_future`. -/
def asTopLevelFuture (type : Ty) : Option (Option Ty) :=
  match behindNames resolve type with
  | some (.future payload) => some payload
  | _ => none

/-- `as_top_level_result`. -/
def asTopLevelResult (type : Ty) : Option (Option Ty × Option Ty) :=
  match behindNames resolve type with
  | some (.result ok err) => some (ok, err)
  | _ => none

def isAsyncKind : FunctionKind → Bool
  | .asyncFreestanding | .asyncMethod _ | .asyncStatic _ => true
  | _ => false

def payloadText (absent : String) : Option Ty → Except String Text
  | some type => tsText resolve .value type
  | none => return [.text absent]

/-- What a call returns for a result of the type. -/
def returned (side : Side) (kind : FunctionKind) (text : Text) : Text :=
  if side = .export then .text "Promise<" :: (text ++ [.text ">"])
  else if isAsyncKind kind then text ++ .text " | Promise<" :: (text ++ [.text ">"])
  else text

/-- `func_return`: the type and the documentation. -/
def funcReturn (side : Side) (f : WitFunction) : Except String (Text × Text) :=
  match f.result with
  | some type =>
      match asTopLevelFuture resolve type with
      | some payload => do
          return (.text "Future<" :: ((← payloadText resolve "void" payload) ++ [.text ">"]), [])
      | none =>
          match asTopLevelResult resolve type with
          | some (ok, err) => do
              let okText ← payloadText resolve "undefined" ok
              let errText ← payloadText resolve "undefined" err
              return (returned side f.kind okText,
                .text "@throws \x7bComponentException<" :: (errText ++ [.text ">\x7d"]))
          | none => do
              return (returned side f.kind (← tsText resolve .value type), [])
  | none =>
      match f.kind with
      | .constructor resource => do
          let name ← resolve.nameText resource "resource type has no name"
          return (if side = .export then [.text "Promise<", name, .text ">"] else [name], [])
      | kind => return (returned side kind [.text "void"], [])

def functionMember (side : Side) (name : String) (params : List (String × Ty)) (f : WitFunction) :
    Except String Member := do
  let list ← paramList resolve params
  let (returns, documentation) ← funcReturn resolve side f
  return ⟨camelCase name, documentation ++ .text "(" :: (list ++ .text "): " :: returns)⟩

/-! ## Classes of resources -/

/-- What belongs to a resource. -/
structure ResourceFns where
  side : Option Side
  ctor : Option WitFunction
  methods : List WitFunction
  statics : List WitFunction

/-- The resources in the order in which they are met, and what belongs to each. -/
structure Collected where
  order : List TypeId
  fns : TypeId → Option ResourceFns

namespace Collected

/-- `out.entry(id).or_insert_with(..)`, with what is done to the entry. -/
def update (collected : Collected) (id : TypeId) (change : ResourceFns → ResourceFns) :
    Collected where
  order := if (collected.fns id).isSome then collected.order else collected.order ++ [id]
  fns := Function.update collected.fns id
    (some (change ((collected.fns id).getD ⟨none, none, [], []⟩)))

end Collected

def ResourceFns.add (side : Side) (f : WitFunction) (fns : ResourceFns) : ResourceFns :=
  match f.kind with
  | .constructor _ => { fns with side := some side, ctor := some f }
  | .method _ | .asyncMethod _ => { fns with side := some side, methods := fns.methods ++ [f] }
  | .static _ | .asyncStatic _ => { fns with side := some side, statics := fns.statics ++ [f] }
  | _ => fns

def collectFunction (side : Side) (collected : Collected) (f : WitFunction) : Collected :=
  match methodResource f with
  | some id => collected.update id (.add side f)
  | none => collected

def collectType (side : Side) (collected : Collected) (id : TypeId) : Collected :=
  match (resolve.types id).kind with
  | .resource =>
      if (collected.fns id).isSome then collected
      else collected.update id fun fns => { fns with side := some side }
  | _ => collected

/-- `collect_resource_fns`. -/
def collectResourceFns (side : Side) (items : List (WorldKey × WorldItem)) (collected : Collected) :
    Collected :=
  items.foldl (fun collected item =>
    match item.2 with
    | .interface id =>
        let interface := resolve.interfaces id
        (interface.types.map Prod.snd).foldl (collectType resolve side)
          ((interface.functions.map Prod.snd).foldl (collectFunction side) collected)
    | _ => collected) collected

/-- `name_after_last_dot_or_bracket`. -/
def memberName (f : WitFunction) : String :=
  String.ofList (f.name.toList.reverse.takeWhile (· ≠ '.')).reverse

/-- `write_class_member`. -/
def writeClassMember (side : Side) (f : WitFunction) : Except String Member :=
  functionMember resolve side (memberName f) (skipSelf f) f

def disposers (side : Side) : List Member :=
  if side = .export then [⟨"[Symbol.dispose]", []⟩, ⟨"drop", []⟩] else [⟨"[Symbol.dispose]", []⟩]

/-- `emit_resource_class`. -/
def emitResourceClass (id : TypeId) (fns : ResourceFns) : Except String Declaration := do
  let side := fns.side.getD .export
  let name ← (resolve.types id).name.elim (.error "resource type has no name") .ok
  let ctor ← fns.ctor.toList.mapM fun f => do
    return ⟨"constructor", ← paramList resolve f.params⟩
  let methods ← fns.methods.mapM (writeClassMember resolve side)
  let statics ← fns.statics.mapM (writeClassMember resolve side)
  return ⟨tsIdent name, id, ctor ++ methods ++ statics ++ disposers side, []⟩

/-! ## Interfaces of the world -/

/-- A member of the interface of the imports or exports. -/
inductive WorldMember where
  | function (member : Member)
  | interface (name : String) (members : List Member)

/-- `qualified_interface_name`. -/
def qualifiedInterfaceName (interface : Interface) : Except String String := do
  let some name := interface.name
    | throw "anonymous interface cannot appear as a world import/export key"
  let some package := interface.package | throw "interface has no owning package"
  return package.namespaceName ++ ":" ++ package.name ++ "/" ++ name ++
    package.version.elim "" ("@" ++ ·)

def classMember (id : TypeId) : Except String Member := do
  let name ← resolve.nameText id "resource type has no name"
  return ⟨((resolve.types id).name.map tsIdent).getD "", [.text ": typeof ", name]⟩

def isResource (id : TypeId) : Bool :=
  match (resolve.types id).kind with
  | .resource => true
  | _ => false

/-- `emit_world_item`. -/
def emitWorldItem (side : Side) (item : WorldKey × WorldItem) : Except String (List WorldMember) :=
  match item with
  | (key, .function f) =>
      match key with
      | .name name => do
          return [.function (← functionMember resolve side name f.params f)]
      | .interface _ => throw "function with interface key"
  | (_, .interface id) => do
      let interface := resolve.interfaces id
      let name ← qualifiedInterfaceName interface
      let classes ← ((interface.types.map Prod.snd).filter (isResource resolve)).mapM
        (classMember resolve)
      let functions ← (interface.functions.filter fun f => (methodResource f.2).isNone).mapM
        fun f => functionMember resolve side f.1 f.2.params f.2
      return [.interface name (classes ++ functions)]
  | (_, .type _) => return []

/-! ## The file -/

def importedIdents : List String :=
  ["WirePlan", "verifyWorldDigest", "WorldDigestMismatchError", "DigestMismatch",
    "instantiateEmbedder", "resolveArtifacts", "Stream", "Future", "StreamSource", "FutureSource",
    "ErrorContext", "ComponentException", "Trap", "EmbedderInstance", "EmbedderOptions",
    "InstantiateSource"]

/-- A generated file. -/
structure File where
  world : String
  types : List Declaration
  classes : List Declaration
  imports : List WorldMember
  exports : List WorldMember

/-- `generate`. -/
def generate (world : World) : Except String File := do
  let collected := collectResourceFns resolve .export world.exports
    (collectResourceFns resolve .import world.imports ⟨[], fun _ => none⟩)
  let emission ← (world.imports ++ world.exports).foldlM (collectAndEmitTypes resolve) ⟨[], []⟩
  let classes ← collected.order.mapM fun id =>
    emitResourceClass resolve id ((collected.fns id).getD ⟨none, none, [], []⟩)
  let imports ← world.imports.mapM (emitWorldItem resolve .import)
  let exports ← world.exports.mapM (emitWorldItem resolve .export)
  return ⟨tsIdent world.name, emission.out, classes, imports.flatten, exports.flatten⟩

end Polyengine.Bindgen.Declarations
