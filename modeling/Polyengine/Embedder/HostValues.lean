import Mathlib.Algebra.Group.Int.Defs
import Polyengine.Cabi.Types
import Polyengine.Library.Double
import Polyengine.Library.Utf16

/-!
# Host values

JavaScript values at the boundary of a component, and the two adapters between them and the internal
component values.
-/

set_option autoImplicit false

namespace Polyengine.Embedder

open Polyengine.Cabi Polyengine.Library

/-! ## Values -/

/-- JavaScript data, with the functions that plain objects inherit. -/
inductive Js where
  | undefined
  | null
  | bool (b : Bool)
  | number (d : Double)
  | bigint (n : Int)
  | string (units : List UInt16)
  | symbol (identity : Nat)
  | array (elements : List Js)
  | bytes (data : List UInt8)
  | typedArray (identity : Nat)
  | object (properties : List (String × Js))
  | function (name : String)

instance : Inhabited Js := ⟨.undefined⟩

/-- Internal component values; what a handle, a stream, a future or an error-context is carried by is
left as it is. -/
inductive ComponentValue where
  | bool (b : Bool)
  | number (d : Double)
  | bigint (n : Int)
  | string (units : List UInt16)
  | bytes (data : List UInt8)
  | array (elements : List ComponentValue)
  | record (properties : List (String × ComponentValue))
  | variant (kind : String) (value : ComponentValue)
  | null
  | carried (value : Js)

/-- The engine and the bridge: the properties of arrays and typed arrays, the numbers that strings and
objects convert to, and the adapters of the types that carry a handle. -/
structure Engine where
  exotic : Js → String → Option Js
  coerce : Js → Option Double
  liftCarried : ValType → ComponentValue → Except Failure Js
  prepareErrorContext : Js → Except Failure ComponentValue

def typeError : Failure := .thrown "TypeError"

/-- The properties of `Object.prototype` that a camel-cased label can name. -/
def objectPrototype : List String :=
  ["constructor", "hasOwnProperty", "isPrototypeOf", "propertyIsEnumerable", "toLocaleString",
    "toString", "valueOf"]

/-- The value of a property, own or inherited; none is one that is not `in` the object. -/
def Engine.get (engine : Engine) : Js → String → Option Js
  | .object properties, key =>
      match properties.lookup key with
      | some value => some value
      | none => if key ∈ objectPrototype then some (.function key) else none
  | value, key => engine.exotic value key

/-- `v !== null && typeof v === "object"`. -/
def Js.isObject : Js → Bool
  | .array _ | .bytes _ | .typedArray _ | .object _ => true
  | _ => false

/-- `Boolean(v)`. -/
def Js.truthy : Js → Bool
  | .undefined | .null => false
  | .bool b => b
  | .number d => !d.isZero && !d.isNaN
  | .bigint n => n ≠ 0
  | .string units => !units.isEmpty
  | _ => true

def unitsOf (label : String) : List UInt16 := Utf16.encode label.toList

/-! ## Names -/

def upperFirst : List Char → List Char
  | [] => []
  | first :: rest => first.toUpper :: rest

def camelCase (label : String) : String :=
  match label.toList.splitOn '-' with
  | [] => ""
  | first :: rest => String.ofList (first ++ (rest.map upperFirst).flatten)

/-- `checkNoCollisions`. -/
def checkNoCollisions (labels : List String) : Except Failure Unit :=
  if (labels.map camelCase).Nodup then return () else throw (Failure.thrown "NameCollisionError")

/-- The conversion of an element by `Uint8Array.from`. -/
def toUint8 (engine : Engine) : Js → Except Failure UInt8
  | .number d => return UInt8.ofNat (d.trunc % 256).toNat
  | .undefined | .null | .bool false => return 0
  | .bool true => return 1
  | .bigint _ | .symbol _ => throw typeError
  | v =>
      match engine.coerce v with
      | some d => return UInt8.ofNat (d.trunc % 256).toNat
      | none => throw typeError

/-! ## Internal to host -/

/-- A value that is left as it is. -/
def ComponentValue.same : ComponentValue → Js
  | .bool b => .bool b
  | .number d => .number d
  | .bigint n => .bigint n
  | .string units => .string units
  | .bytes data => .bytes data
  | .null => .null
  | .carried value => value
  | .array _ | .record _ | .variant _ _ => .object []

/-- `record[label]`, where it is there. -/
def ComponentValue.field (v : ComponentValue) (label : String) : Except Failure ComponentValue :=
  match v with
  | .record properties =>
      match properties.lookup label with
      | some value => return value
      | none => throw typeError
  | _ => throw typeError

/-- `internalTag`. -/
def internalTag : ComponentValue → Except Failure (String × ComponentValue)
  | .variant kind value => return (kind, value)
  | _ => throw typeError

def isOption : ValType → Bool
  | .option _ => true
  | _ => false

def ComponentValue.isNone : ComponentValue → Bool
  | .variant "none" _ => true
  | _ => false

/-- `{ kind }` and `{ kind, value }`. -/
def hostCase (kind : String) : Option Js → Js
  | none => .object [("kind", .string (unitsOf kind))]
  | some value => .object [("kind", .string (unitsOf kind)), ("value", value)]

/-- A `list<u8>`. -/
def bytesToHost (engine : Engine) : ComponentValue → Except Failure Js
  | .bytes data => return .bytes data
  | .array elements => do
      let data ← elements.mapM fun element => toUint8 engine element.same
      return .bytes data
  | _ => throw typeError

/-- The property of a flag. -/
def flagToHost (v : ComponentValue) (label : String) : String × Js :=
  match v.field label with
  | .ok value => (camelCase label, .bool value.same.truthy)
  | .error _ => (camelCase label, .bool false)

/-- An entry of a map, which is a tuple. -/
def entryToHost (key value : ComponentValue → Except Failure Js) (entry : ComponentValue) :
    Except Failure Js := do
  let k ← entry.field "0"
  let k ← key k
  let x ← entry.field "1"
  let x ← value x
  return .array [k, x]

section

variable (engine : Engine)

mutual

/-- `toHost`. -/
def toHost : ValType → Bool → ComponentValue → Except Failure Js
  | .prim _, _, v => return v.same
  | .list element _, _, v =>
      if (despecialize element).primKind = some .u8 then bytesToHost engine v
      else
        match v with
        | .array elements => do
            let elements ← elements.mapM (toHost element false)
            return .array elements
        | _ => throw typeError
  | .record fields, _, v => do
      checkNoCollisions (fields.map FieldType.label)
      let properties ← fieldsToHost fields v
      return .object properties
  | .tuple elements, _, v => do
      let elements ← elementsToHost 0 elements v
      return .array elements
  | .variant cases, _, v => do
      let (kind, value) ← internalTag v
      caseToHost cases kind value
  | .enum _, _, v => do
      let (kind, _) ← internalTag v
      return .string (unitsOf kind)
  | .option type, inOption, v => do
      let (kind, value) ← internalTag v
      if kind = "none" then return if inOption then hostCase "none" none else .undefined
      else do
        let payload ← toHost type true value
        return if inOption then hostCase "some" (some payload) else payload
  | .result ok error, _, v => do
      let (kind, value) ← internalTag v
      if kind = "error" then payloadToHost "err" error value else payloadToHost "ok" ok value
  | .flags labels, _, v => do
      checkNoCollisions labels
      return .object (labels.map (flagToHost v))
  | .map key value, _, v =>
      match v with
      | .array entries => do
          let entries ← entries.mapM (entryToHost (toHost key false) (toHost value false))
          return .array entries
      | _ => throw typeError
  | type, _, v => engine.liftCarried type v

def fieldsToHost : List FieldType → ComponentValue → Except Failure (List (String × Js))
  | [], _ => return []
  | ⟨label, type⟩ :: rest, v => do
      let inner ← v.field label
      let value ← toHost type false inner
      let properties ← fieldsToHost rest v
      return if isOption type ∧ inner.isNone then properties
        else (camelCase label, value) :: properties

def elementsToHost (index : Nat) : List ValType → ComponentValue → Except Failure (List Js)
  | [], _ => return []
  | type :: rest, v => do
      let inner ← v.field (toString index)
      let value ← toHost type false inner
      let values ← elementsToHost (index + 1) rest v
      return value :: values

def caseToHost : List CaseType → String → ComponentValue → Except Failure Js
  | [], _, _ => throw typeError
  | ⟨label, type⟩ :: rest, kind, value =>
      if label = kind then payloadToHost label type value else caseToHost rest kind value

def payloadToHost (kind : String) : Option ValType → ComponentValue → Except Failure Js
  | none, _ => return hostCase kind none
  | some type, value => do
      let payload ← toHost type false value
      return hostCase kind (some payload)

end

end

/-! ## Host to internal -/

/-- `hostTag`: the kind, and the value where there is one. -/
def hostTag (engine : Engine) (v : Js) : Except Failure (List UInt16 × Option Js) :=
  if v.isObject then
    match engine.get v "kind" with
    | some (.string kind) => return (kind, engine.get v "value")
    | _ => throw typeError
  else throw typeError

/-- `int`. -/
def int (v : Js) (lo hi : Int) : Except Failure ComponentValue :=
  match v with
  | .number d =>
      match d.integer? with
      | some n => if lo ≤ n ∧ n ≤ hi then return .number d else throw typeError
      | none => throw typeError
  | _ => throw typeError

/-- `big`. -/
def big (v : Js) (lo hi : Int) : Except Failure ComponentValue :=
  match v with
  | .bigint n => if lo ≤ n ∧ n ≤ hi then return .bigint n else throw typeError
  | _ => throw typeError

def preparePrim : PrimKind → Js → Except Failure ComponentValue
  | .bool, v => return .bool v.truthy
  | .u8, v => int v 0 0xff
  | .u16, v => int v 0 0xffff
  | .u32, v => int v 0 0xffffffff
  | .s8, v => int v (-0x80) 0x7f
  | .s16, v => int v (-0x8000) 0x7fff
  | .s32, v => int v (-0x80000000) 0x7fffffff
  | .u64, v => big v 0 (2 ^ 64 - 1)
  | .s64, v => big v (-2 ^ 63) (2 ^ 63 - 1)
  | .f32, .number d | .f64, .number d => return .number d
  | .char, .string units =>
      match Utf16.scan units with
      | [some _] => return .string units
      | _ => throw typeError
  | .string, .string units => return .string units
  | _, _ => throw typeError

/-- A `list<u8>`. -/
def prepareBytes (engine : Engine) : Js → Except Failure ComponentValue
  | .bytes data => return .bytes data
  | .array elements => do
      let data ← elements.mapM (toUint8 engine)
      return .bytes data
  | _ => throw typeError

/-- An entry of a map, which is a tuple. -/
def prepareEntry (key value : Js → Except Failure ComponentValue) :
    Js → Except Failure ComponentValue
  | .array [k, x] => do
      let k ← key k
      let x ← value x
      return .record [("0", k), ("1", x)]
  | _ => throw typeError

section

variable (engine : Engine)

mutual

/-- `prepareHostValue`. -/
def prepareHostValue : ValType → Bool → Js → Except Failure ComponentValue
  | .prim kind, _, v => preparePrim kind v
  | .errorContext, _, v => engine.prepareErrorContext v
  | .list element _, _, v =>
      if (despecialize element).primKind = some .u8 then prepareBytes engine v
      else
        match v with
        | .array elements => do
            let elements ← elements.mapM (prepareHostValue element false)
            return .array elements
        | _ => throw typeError
  | .record fields, _, v =>
      if v.isObject then do
        checkNoCollisions (fields.map FieldType.label)
        let properties ← prepareFields fields v
        return .record properties
      else throw typeError
  | .tuple elements, _, v =>
      match v with
      | .array values =>
          if values.length = elements.length then do
            let properties ← prepareElements 0 elements values
            return .record properties
          else throw typeError
      | _ => throw typeError
  | .variant cases, _, v => do
      let (kind, value) ← hostTag engine v
      prepareCase cases kind value
  | .enum labels, _, v =>
      match v with
      | .string units =>
          match labels.find? fun label => unitsOf label = units with
          | some label => return .variant label .null
          | none => throw typeError
      | _ => throw typeError
  | .option type, true, v => do
      let (kind, value) ← hostTag engine v
      if kind = unitsOf "none" then return .variant "none" .null
      else if kind = unitsOf "some" then
        match value with
        | some value => do
            let payload ← prepareHostValue type true value
            return .variant "some" payload
        | none => return .variant "some" .null
      else throw typeError
  | .option type, false, v =>
      match v with
      | .undefined => return .variant "none" .null
      | v => do
          let payload ← prepareHostValue type true v
          return .variant "some" payload
  | .result ok error, _, v => do
      let (kind, value) ← hostTag engine v
      if kind = unitsOf "err" then preparePayload "error" error value
      else if kind = unitsOf "ok" then preparePayload "ok" ok value
      else throw typeError
  | .flags labels, _, v =>
      if v.isObject then do
        checkNoCollisions labels
        return .record (labels.map fun label =>
          (label, .bool (((engine.get v (camelCase label)).getD .undefined).truthy)))
      else throw typeError
  | .map key value, _, v =>
      match v with
      | .array entries => do
          let entries ← entries.mapM
            (prepareEntry (prepareHostValue key false) (prepareHostValue value false))
          return .array entries
      | _ => throw typeError
  | .own _, _, v | .borrow _, _, v | .stream _, _, v | .future _, _, v => return .carried v

/-- A field of option type may be absent, the others may not. -/
def prepareFields : List FieldType → Js → Except Failure (List (String × ComponentValue))
  | [], _ => return []
  | ⟨label, type⟩ :: rest, v => do
      let source ←
        match engine.get v (camelCase label) with
        | some value => pure value
        | none => if isOption type then pure .undefined else throw typeError
      let value ← prepareHostValue type false source
      let properties ← prepareFields rest v
      return (label, value) :: properties

def prepareElements (index : Nat) :
    List ValType → List Js → Except Failure (List (String × ComponentValue))
  | type :: rest, value :: values => do
      let value ← prepareHostValue type false value
      let properties ← prepareElements (index + 1) rest values
      return (toString index, value) :: properties
  | _, _ => return []

def prepareCase : List CaseType → List UInt16 → Option Js → Except Failure ComponentValue
  | [], _, _ => throw typeError
  | ⟨label, type⟩ :: rest, kind, value =>
      if unitsOf label = kind then preparePayload label type value else prepareCase rest kind value

def preparePayload (kind : String) : Option ValType → Option Js → Except Failure ComponentValue
  | none, _ => return .variant kind .null
  | some _, none => throw typeError
  | some type, some value => do
      let payload ← prepareHostValue type false value
      return .variant kind payload

end

end

section

attribute [local simp] toHost prepareHostValue

end

end Polyengine.Embedder
