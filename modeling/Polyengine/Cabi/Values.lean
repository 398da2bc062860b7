import Polyengine.Cabi.Lower

/-!
# Well-typed values

The raw values of a type.
-/

set_option autoImplicit false

namespace Polyengine.Cabi

open Polyengine.Library

/-- Which strings and which element counts of variable-length lists a value may contain. -/
structure Limits where
  string : List UInt16 → Prop
  list : DespecializedValType → Nat → Prop

def Limits.none : Limits where
  string := fun _ => True
  list := fun _ _ => True

/-- The width and signedness of the integer kinds carried by numbers. -/
def numberKind : PrimKind → Option (Nat × Bool)
  | .u8 => some (1, false)
  | .u16 => some (2, false)
  | .u32 => some (4, false)
  | .s8 => some (1, true)
  | .s16 => some (2, true)
  | .s32 => some (4, true)
  | _ => none

/-- The signedness of the integer kinds carried by bigints. -/
def bigintKind : PrimKind → Option Bool
  | .u64 => some false
  | .s64 => some true
  | _ => none

def Limits.Length (limits : Limits) (element : DespecializedValType) (length : Option Nat)
    (count : Nat) : Prop :=
  match length with
  | some n => count = n
  | .none => limits.list element count

inductive HasType (limits : Limits) : DespecializedValType → Value → Prop where
  | bool (b : Bool) : HasType limits (.prim .bool) (.bool b)
  | number {kind : PrimKind} {width : Nat} {signed : Bool} {n : Int} :
      numberKind kind = some (width, signed) → fitsInWidth n width signed →
      HasType limits (.prim kind) (.number n)
  | bigint {kind : PrimKind} {signed : Bool} {n : Int} :
      bigintKind kind = some signed → fitsInWidth n 8 signed →
      HasType limits (.prim kind) (.bigint n)
  | f32 (bits : UInt32) : HasType limits (.prim .f32) (.f32 bits)
  | f64 (bits : UInt64) : HasType limits (.prim .f64) (.f64 bits)
  | char (c : Char) : HasType limits (.prim .char) (.string (Utf16.encodeChar c))
  | string {units : List UInt16} :
      limits.string units → HasType limits (.prim .string) (.string units)
  | array {element : DespecializedValType} {length : Option Nat} {elements : List Value} :
      limits.Length element length elements.length → (∀ v ∈ elements, HasType limits element v) →
      HasType limits (.list element length) (.array elements)
  | bytes {length : Option Nat} {data : List UInt8} :
      limits.Length (.prim .u8) length data.length →
      HasType limits (.list (.prim .u8) length) (.bytes data)
  | record {fields : List DespecializedFieldType} {properties : List (String × Value)} :
      (∀ field ∈ fields, HasType limits field.type (property properties field.label)) →
      HasType limits (.record fields) (.record properties)
  | payload {cases : List DespecializedCaseType} {kind : String} {type : DespecializedValType}
      {value : Value} :
      ⟨kind, some type⟩ ∈ cases → HasType limits type value →
      HasType limits (.variant cases) (.variant kind value)
  | noPayload {cases : List DespecializedCaseType} {kind : String} :
      ⟨kind, none⟩ ∈ cases → HasType limits (.variant cases) (.variant kind .null)
  | flags {labels : List String} {properties : List (String × Value)} :
      (∀ label ∈ labels, ∃ b, property properties label = .bool b) →
      HasType limits (.flags labels) (.record properties)
  | own (rt : Nat) {rep : Nat} : rep < 2 ^ 32 → HasType limits (.own rt) (.number rep)
  | borrow (rt : Nat) {rep : Nat} : rep < 2 ^ 32 → HasType limits (.borrow rt) (.number rep)
  | stream (element : Option DespecializedValType) (identity : Nat) :
      HasType limits (.stream element) (.token identity)
  | future (element : Option DespecializedValType) (identity : Nat) :
      HasType limits (.future element) (.token identity)
  | errorContext (identity : Nat) : HasType limits .errorContext (.token identity)

end Polyengine.Cabi
