import Polyengine.Embedder.MappingSafety

/-!
# The TypeScript types of WIT types

The value types that the generator of bindings writes for WIT types, which may name other types, and
the values that a TypeScript type admits.
-/

set_option autoImplicit false

namespace Polyengine.Bindgen

open Polyengine.Cabi Polyengine.Library Polyengine.Embedder

/-! ## Types -/

mutual

/-- A WIT type of values; `type` is a named type that stands for another. -/
inductive WitType where
  | prim (kind : PrimKind)
  | type (target : WitType)
  | record (fields : List WitField)
  | tuple (types : List WitType)
  | flags (flags : List String)
  | variant (cases : List WitCase)
  | enum (cases : List String)
  | option (payload : WitType)
  | result (ok err : Option WitType)
  | list (element : WitType)
  | fixedLengthList (element : WitType) (length : Nat)
  | map (key value : WitType)

structure WitField where
  name : String
  type : WitType

structure WitCase where
  name : String
  type : Option WitType

end

mutual

/-- The type without aliases. -/
def resolve : WitType → ValType
  | .prim kind => .prim kind
  | .type target => resolve target
  | .record fields => .record (resolveFields fields)
  | .tuple types => .tuple (resolveAll types)
  | .flags flags => .flags flags
  | .variant cases => .variant (resolveCases cases)
  | .enum cases => .enum cases
  | .option payload => .option (resolve payload)
  | .result ok err => .result (resolveOption ok) (resolveOption err)
  | .list element => .list (resolve element) none
  | .fixedLengthList element length => .list (resolve element) (some length)
  | .map key value => .map (resolve key) (resolve value)

def resolveOption : Option WitType → Option ValType
  | none => none
  | some type => some (resolve type)

def resolveAll : List WitType → List ValType
  | [] => []
  | type :: rest => resolve type :: resolveAll rest

def resolveFields : List WitField → List FieldType
  | [] => []
  | ⟨name, type⟩ :: rest => ⟨name, resolve type⟩ :: resolveFields rest

def resolveCases : List WitCase → List CaseType
  | [] => []
  | ⟨name, type⟩ :: rest => ⟨name, resolveOption type⟩ :: resolveCases rest

end

mutual

/-- A TypeScript type, with a declared type in the place of its name. -/
inductive TsType where
  | boolean
  | number
  | bigint
  | string
  | uint8Array
  | undefined
  | literal (text : String)
  | array (element : TsType)
  | tuple (elements : List TsType)
  | object (properties : List TsProperty)
  | union (types : List TsType)

structure TsProperty where
  name : String
  optional : Bool
  type : TsType

end

/-! ## The generator -/

/-- `camel_case`. -/
def camelCase (name : String) : String :=
  let out :=
    match name.toList.splitOn '-' with
    | [] => []
    | first :: rest => first ++ (rest.map upperFirst).flatten
  if out.head?.all Char.isDigit then String.ofList ('_' :: out) else String.ofList out

def tsPrim : PrimKind → TsType
  | .bool => .boolean
  | .u8 | .u16 | .u32 | .s8 | .s16 | .s32 | .f32 | .f64 => .number
  | .u64 | .s64 => .bigint
  | .char | .string => .string

/-- `{ kind }` and `{ kind; value }`. -/
def tsArm (kind : String) : Option TsType → TsType
  | none => .object [⟨"kind", false, .literal kind⟩]
  | some type => .object [⟨"kind", false, .literal kind⟩, ⟨"value", false, type⟩]

mutual

/-- `ts_value_type`, with `ts_typedef_value_type` and what `emit_named_type` declares. -/
def tsValueType : WitType → TsType
  | .prim kind => tsPrim kind
  | .type target => tsValueType target
  | .record fields => .object (tsProperties fields)
  | .tuple types => .tuple (tsValueTypes types)
  | .flags flags => .object (flags.map fun flag => ⟨camelCase flag, false, .boolean⟩)
  | .variant cases => .union (tsArms cases)
  | .enum cases => .union (cases.map .literal)
  | .option payload => .union [tsOptionInner payload, .undefined]
  | .result ok err => .union [tsArm "ok" (tsSide ok), tsArm "err" (tsSide err)]
  | .list (.prim .u8) => .uint8Array
  | .list element => .array (tsValueType element)
  | .fixedLengthList element _ => .array (tsValueType element)
  | .map key value => .array (.tuple [tsValueType key, tsValueType value])
termination_by type => (sizeOf type, 0)

/-- `ts_option_inner`. -/
def tsOptionInner : WitType → TsType
  | .option payload => .union [tsArm "some" (some (tsOptionInner payload)), tsArm "none" none]
  | type => tsValueType type
termination_by type => (sizeOf type, 1)

def tsSide : Option WitType → Option TsType
  | none => none
  | some type => some (tsValueType type)
termination_by type => (sizeOf type, 0)

def tsValueTypes : List WitType → List TsType
  | [] => []
  | type :: rest => tsValueType type :: tsValueTypes rest
termination_by types => (sizeOf types, 0)

/-- `record_field_type`: a field that is written as an option is an optional property. -/
def tsProperties : List WitField → List TsProperty
  | [] => []
  | ⟨name, .option payload⟩ :: rest =>
      ⟨camelCase name, true, tsOptionInner payload⟩ :: tsProperties rest
  | ⟨name, type⟩ :: rest => ⟨camelCase name, false, tsValueType type⟩ :: tsProperties rest
termination_by fields => (sizeOf fields, 0)

def tsArms : List WitCase → List TsType
  | [] => []
  | ⟨name, type⟩ :: rest => tsArm name (tsSide type) :: tsArms rest
termination_by cases => (sizeOf cases, 0)

end

/-! ## The values of a TypeScript type -/

/-- The value of a property, which is undefined if it is absent. -/
def read (engine : Engine) (x : Js) (name : String) : Js := (engine.get x name).getD .undefined

/-- The values of a type; an object may have other properties too. -/
inductive TsType.Admits (engine : Engine) : TsType → Js → Prop where
  | boolean (b : Bool) : Admits engine .boolean (.bool b)
  | number (d : Double) : Admits engine .number (.number d)
  | bigint (n : Int) : Admits engine .bigint (.bigint n)
  | string (units : List UInt16) : Admits engine .string (.string units)
  | uint8Array (data : List UInt8) : Admits engine .uint8Array (.bytes data)
  | undefined : Admits engine .undefined .undefined
  | literal (text : String) : Admits engine (.literal text) (.string (unitsOf text))
  | array {element : TsType} {elements : List Js} :
      (∀ x ∈ elements, Admits engine element x) → Admits engine (.array element) (.array elements)
  | tuple {types : List TsType} {elements : List Js} : elements.length = types.length →
      (∀ (index : Nat) type x, types[index]? = some type → elements[index]? = some x →
        Admits engine type x) →
      Admits engine (.tuple types) (.array elements)
  | object {properties : List TsProperty} {x : Js} : x.isObject = true →
      (∀ property ∈ properties, property.optional = false → engine.get x property.name ≠ none) →
      (∀ property ∈ properties,
        (property.optional = true → read engine x property.name ≠ .undefined) →
        Admits engine property.type (read engine x property.name)) →
      Admits engine (.object properties) x
  | union {types : List TsType} {type : TsType} {x : Js} : type ∈ types → Admits engine type x →
      Admits engine (.union types) x

/-- Two values that are the same in what the type says of them: an optional property that is absent
is undefined. -/
inductive TsType.Same (engine : Engine) : TsType → Js → Js → Prop where
  | refl (type : TsType) (x : Js) : Same engine type x x
  | array {element : TsType} {xs ys : List Js} : xs.length = ys.length →
      (∀ (index : Nat) x y, xs[index]? = some x → ys[index]? = some y → Same engine element x y) →
      Same engine (.array element) (.array xs) (.array ys)
  | tuple {types : List TsType} {xs ys : List Js} : xs.length = ys.length →
      (∀ (index : Nat) type x y, types[index]? = some type → xs[index]? = some x →
        ys[index]? = some y → Same engine type x y) →
      Same engine (.tuple types) (.array xs) (.array ys)
  | object {properties : List TsProperty} {x y : Js} : x.isObject = true → y.isObject = true →
      (∀ property ∈ properties,
        Same engine property.type (read engine x property.name) (read engine y property.name)) →
      Same engine (.object properties) x y
  | union {types : List TsType} {type : TsType} {x y : Js} : type ∈ types →
      type.Admits engine x → type.Admits engine y → Same engine type x y →
      Same engine (.union types) x y

/-! ## Agreement -/

/-- The primitive values that the adapter of a type reads in a value. -/
inductive ReadsPrim (engine : Engine) : ValType → Bool → Js → PrimKind → Js → Prop where
  | self (kind : PrimKind) (inOption : Bool) (x : Js) :
      ReadsPrim engine (.prim kind) inOption x kind x
  | within {whole part : ValType} {inWhole inPart : Bool} {x y z : Js} {kind : PrimKind} :
      (∀ fields, whole = .record fields → x.isObject = true) →
      Within engine whole inWhole x part inPart y → ReadsPrim engine part inPart y kind z →
      ReadsPrim engine whole inWhole x kind z

def FitsPrim : PrimKind → Js → Prop
  | .char, .string units => ∃ c, Utf16.scan units = [some c]
  | .bool, _ | .f32, _ | .f64, _ | .char, _ | .string, _ => True
  | kind, .number d => ∃ n, d.integer? = some n ∧ InRange kind n
  | kind, .bigint n => InRange kind n
  | _, _ => True

def Fits (engine : Engine) (type : ValType) (inOption : Bool) (x : Js) : Prop :=
  ∀ kind y, ReadsPrim engine type inOption x kind y → FitsPrim kind y

/-- The generated type of a WIT type is that of the values that the adapters give and take. -/
structure Agrees (engine : Engine) (type : WitType) : Prop where
  produced : ∀ v x, HasType (resolve type) v → toHost engine (resolve type) false v = .ok x →
    (tsValueType type).Admits engine x
  accepted : ∀ x, (tsValueType type).Admits engine x → Fits engine (resolve type) false x →
    ∃ w, prepareHostValue engine (resolve type) false x = .ok w
  distinct : ∀ x y w, (tsValueType type).Admits engine x → (tsValueType type).Admits engine y →
    Fits engine (resolve type) false x → Fits engine (resolve type) false y →
    prepareHostValue engine (resolve type) false x = .ok w →
    prepareHostValue engine (resolve type) false y = .ok w → (tsValueType type).Same engine x y

/-! ## Where they agree -/

/-- The type is a component of the other type; the flag says that it is the payload of an option. -/
inductive WitChild : WitType → Bool → WitType → Prop where
  | type (target : WitType) : WitChild target false (.type target)
  | field {fields : List WitField} {field : WitField} : field ∈ fields →
      WitChild field.type false (.record fields)
  | tuple {types : List WitType} {type : WitType} : type ∈ types →
      WitChild type false (.tuple types)
  | case {cases : List WitCase} {name : String} {type : WitType} : ⟨name, some type⟩ ∈ cases →
      WitChild type false (.variant cases)
  | option (payload : WitType) : WitChild payload true (.option payload)
  | side {ok err : Option WitType} {kind : String} {type : WitType} :
      (kind, some type) ∈ [("ok", ok), ("err", err)] → WitChild type false (.result ok err)
  | list (element : WitType) : WitChild element false (.list element)
  | fixedLengthList (element : WitType) (length : Nat) :
      WitChild element false (.fixedLengthList element length)
  | key (key value : WitType) : WitChild key false (.map key value)
  | value (key value : WitType) : WitChild value false (.map key value)

inductive WitOccurs : WitType → Bool → WitType → Bool → Prop where
  | self (type : WitType) (inOption : Bool) : WitOccurs type inOption type inOption
  | child {type part whole : WitType} {inOption inPart inWhole : Bool} :
      WitChild part inPart whole → WitOccurs type inOption part inPart →
      WitOccurs type inOption whole inWhole

/-- The type is written as an option, not as a name of one. -/
def WitType.isOption : WitType → Bool
  | .option _ => true
  | _ => false

/-- The special cases of the mapping are seen in the type as it is written: bytes in a list, and no
bytes in a list of fixed length; an option in a field, whose name no object inherits; an option in an
option. -/
def PlainHere : WitType → Bool → Prop
  | .list element, _ => resolve element = .prim .u8 → element = .prim .u8
  | .fixedLengthList element _, _ => resolve element ≠ .prim .u8
  | .record fields, _ => ∀ field ∈ fields, Embedder.isOption (resolve field.type) = true →
      field.type.isOption = true ∧ Embedder.camelCase field.name ∉ objectPrototype
  | .type target, inOption => inOption = true → Embedder.isOption (resolve target) = false
  | _, _ => True

def Plain (type : WitType) (inOption : Bool) : Prop :=
  ∀ part inPart, WitOccurs part inPart type inOption → PlainHere part inPart

/-- The name begins with a letter. -/
def IsLabel (name : String) : Prop :=
  ∃ first rest, name.toList = first :: rest ∧ first.isAlpha = true

/-- The names that become properties are labels, and no two become the same property. -/
def NamedHere : WitType → Prop
  | .record fields => (∀ field ∈ fields, IsLabel field.name) ∧
      (fields.map fun field => Embedder.camelCase field.name).Nodup
  | .flags flags => (∀ flag ∈ flags, IsLabel flag) ∧ (flags.map Embedder.camelCase).Nodup
  | _ => True

def Named (type : WitType) (inOption : Bool) : Prop :=
  ∀ part inPart, WitOccurs part inPart type inOption → NamedHere part

/-- A WIT type of data whose declarations TypeScript accepts. -/
structure Declarable (type : WitType) (inOption : Bool) : Prop where
  valid : Valid (resolve type) inOption
  named : Named type inOption

end Polyengine.Bindgen
