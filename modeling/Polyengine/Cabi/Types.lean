import Mathlib.Algebra.Group.Nat.Defs
import Mathlib.Data.List.Basic
import Polyengine.Cabi.Trap

/-!
# Value types

The value types of component functions, the types left after despecialization, and the raw
values that lifting produces and lowering consumes.
-/

set_option autoImplicit false

namespace Polyengine.Cabi

/-- Core wasm value types. -/
inductive CoreType where
  | i32
  | i64
  | f32
  | f64
  deriving Repr, DecidableEq

inductive StringEncoding where
  | utf8
  | utf16
  | latin1Utf16
  deriving Repr, DecidableEq

inductive PrimKind where
  | bool
  | s8
  | u8
  | s16
  | u16
  | s32
  | u32
  | s64
  | u64
  | f32
  | f64
  | char
  | string
  deriving Repr, DecidableEq

mutual

inductive ValType where
  | prim (kind : PrimKind)
  | errorContext
  | list (element : ValType) (length : Option Nat)
  | record (fields : List FieldType)
  | tuple (elements : List ValType)
  | variant (cases : List CaseType)
  | enum (labels : List String)
  | option (type : ValType)
  | result (ok error : Option ValType)
  | map (key value : ValType)
  | flags (labels : List String)
  | own (rt : Nat)
  | borrow (rt : Nat)
  | stream (element : Option ValType)
  | future (element : Option ValType)

structure FieldType where
  label : String
  type : ValType

structure CaseType where
  label : String
  type : Option ValType

end

mutual

/-- The types that remain once every type is despecialized, children included. -/
inductive DespecializedValType where
  | prim (kind : PrimKind)
  | errorContext
  | list (element : DespecializedValType) (length : Option Nat)
  | record (fields : List DespecializedFieldType)
  | variant (cases : List DespecializedCaseType)
  | flags (labels : List String)
  | own (rt : Nat)
  | borrow (rt : Nat)
  | stream (element : Option DespecializedValType)
  | future (element : Option DespecializedValType)

structure DespecializedFieldType where
  label : String
  type : DespecializedValType

structure DespecializedCaseType where
  label : String
  type : Option DespecializedValType

end

/-- The `kind` of a primitive type. -/
def DespecializedValType.primKind : DespecializedValType → Option PrimKind
  | .prim kind => some kind
  | _ => none

def tupleFields (first : Nat) : List DespecializedValType → List DespecializedFieldType
  | [] => []
  | element :: rest => ⟨toString first, element⟩ :: tupleFields (first + 1) rest

-- `despecialize` of the source stops at the outermost constructor and is applied again wherever
-- a child is visited; here the children are despecialized at once.
mutual

def despecialize : ValType → DespecializedValType
  | .prim kind => .prim kind
  | .errorContext => .errorContext
  | .list element length => .list (despecialize element) length
  | .record fields => .record (despecializeFields fields)
  | .tuple elements => .record (tupleFields 0 (despecializeAll elements))
  | .variant cases => .variant (despecializeCases cases)
  | .enum labels => .variant (labels.map fun label => ⟨label, none⟩)
  | .option type => .variant [⟨"none", none⟩, ⟨"some", some (despecialize type)⟩]
  | .result ok error =>
      .variant [⟨"ok", despecializeOption ok⟩, ⟨"error", despecializeOption error⟩]
  | .map key value => .list (.record (tupleFields 0 [despecialize key, despecialize value])) none
  | .flags labels => .flags labels
  | .own rt => .own rt
  | .borrow rt => .borrow rt
  | .stream element => .stream (despecializeOption element)
  | .future element => .future (despecializeOption element)

def despecializeOption : Option ValType → Option DespecializedValType
  | none => none
  | some type => some (despecialize type)

def despecializeAll : List ValType → List DespecializedValType
  | [] => []
  | type :: rest => despecialize type :: despecializeAll rest

def despecializeFields : List FieldType → List DespecializedFieldType
  | [] => []
  | ⟨label, type⟩ :: rest => ⟨label, despecialize type⟩ :: despecializeFields rest

def despecializeCases : List CaseType → List DespecializedCaseType
  | [] => []
  | ⟨label, type⟩ :: rest => ⟨label, despecializeOption type⟩ :: despecializeCases rest

end

/-- `discriminantSize`: the byte width of a discriminant. -/
def discriminantSize (caseCount : Nat) : Nat :=
  if caseCount ≤ 256 then 1 else if caseCount ≤ 65536 then 2 else 4

/-- The width in bytes of a flags value. -/
def flagsSize (labels : List String) : Nat :=
  if labels.length ≤ 8 then 1 else if labels.length ≤ 16 then 2 else 4

/-- Raw component values. Numbers keep the kind they came from: an integer, or a float as its bit
pattern. `token` is the shared object of an async value type. -/
inductive Value where
  | bool (b : Bool)
  | number (n : Int)
  | f32 (bits : UInt32)
  | f64 (bits : UInt64)
  | bigint (n : Int)
  | string (units : List UInt16)
  | bytes (data : List UInt8)
  | array (elements : List Value)
  | record (properties : List (String × Value))
  | variant (kind : String) (value : Value)
  | null
  | undefined
  | token (identity : Nat)
  deriving Repr

/-- Core values, tagged by the lane they travel in. -/
inductive CoreValue where
  | i32 (n : Int)
  | i64 (n : Int)
  | f32 (bits : UInt32)
  | f64 (bits : UInt64)
  deriving Repr, DecidableEq

/-- The types whose values are handles: indices into the table of an instance. -/
def DespecializedValType.isHandle : DespecializedValType → Bool
  | .errorContext | .own _ | .borrow _ | .stream _ | .future _ => true
  | _ => false

/-- The types that component validation accepts; handles occur in them only if `handles` holds. -/
inductive ValidType (handles : Prop) : DespecializedValType → Prop where
  | prim (kind : PrimKind) : ValidType handles (.prim kind)
  | list {element : DespecializedValType} {length : Option Nat} :
      ValidType handles element → (∀ n, length = some n → 0 < n ∧ n < 2 ^ 32) →
      ValidType handles (.list element length)
  | record {fields : List DespecializedFieldType} :
      fields ≠ [] → (fields.map (·.label)).Nodup →
      (∀ field ∈ fields, ValidType handles field.type) → ValidType handles (.record fields)
  | variant {cases : List DespecializedCaseType} :
      cases ≠ [] → cases.length < 2 ^ 32 → (cases.map (·.label)).Nodup →
      (∀ case ∈ cases, ∀ type, case.type = some type → ValidType handles type) →
      ValidType handles (.variant cases)
  | flags {labels : List String} :
      labels ≠ [] → labels.length ≤ 32 → labels.Nodup → ValidType handles (.flags labels)
  | handle {d : DespecializedValType} : handles → d.isHandle = true → ValidType handles d

/-- The types that component validation accepts and that carry no handle. -/
abbrev PlainType : DespecializedValType → Prop := ValidType False

/-- Reading a property of an object. -/
def property (properties : List (String × Value)) (label : String) : Value :=
  ((properties.find? fun entry => entry.1 == label).map (·.2)).getD .undefined

/-- `record[label] = value`: replaces the property or adds it as the last one. -/
def assign (properties : List (String × Value)) (label : String) (value : Value) :
    List (String × Value) :=
  if label ∈ properties.map (·.1) then
    properties.map fun entry => if entry.1 == label then (label, value) else entry
  else properties ++ [(label, value)]

/-- `Uint8Array.from`, over the elements of a `list<u8>`. -/
def bytesFrom (elements : List Value) : List UInt8 :=
  elements.map fun element =>
    match element with
    | .number n => UInt8.ofNat (n % 256).toNat
    | _ => 0

end Polyengine.Cabi
