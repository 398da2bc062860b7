import Polyengine.Cabi.Memory

/-!
# Memory layout

Alignment, size and offsets of the despecialized types for either pointer width, with the checks
that `layoutOf` performs on the way.
-/

set_option autoImplicit false

namespace Polyengine.Cabi

open Polyengine.Library

def primAlignment (ptrType : PtrType) : PrimKind → Nat
  | .bool | .s8 | .u8 => 1
  | .s16 | .u16 => 2
  | .s32 | .u32 | .f32 | .char => 4
  | .s64 | .u64 | .f64 => 8
  | .string => ptrSize ptrType

def primSize (ptrType : PtrType) : PrimKind → Nat
  | .string => 2 * ptrSize ptrType
  | kind => primAlignment ptrType kind

mutual

def alignment (ptrType : PtrType) : DespecializedValType → Nat
  | .prim kind => primAlignment ptrType kind
  | .list element (some _) => alignment ptrType element
  | .list _ none => ptrSize ptrType
  | .record fields => alignmentRecord ptrType fields
  | .variant cases => max (discriminantSize cases.length) (maxCaseAlignment ptrType cases)
  | .flags labels => flagsSize labels
  | .errorContext | .own _ | .borrow _ | .stream _ | .future _ => 4

def alignmentRecord (ptrType : PtrType) : List DespecializedFieldType → Nat
  | [] => 1
  | ⟨_, type⟩ :: rest => max (alignment ptrType type) (alignmentRecord ptrType rest)

def maxCaseAlignment (ptrType : PtrType) : List DespecializedCaseType → Nat
  | [] => 1
  | ⟨_, some type⟩ :: rest => max (alignment ptrType type) (maxCaseAlignment ptrType rest)
  | ⟨_, none⟩ :: rest => maxCaseAlignment ptrType rest

end

/-- Where the payload of every case is stored. -/
def payloadOffset (ptrType : PtrType) (cases : List DespecializedCaseType) : Nat :=
  alignTo (discriminantSize cases.length) (maxCaseAlignment ptrType cases)

mutual

def elemSize (ptrType : PtrType) : DespecializedValType → Nat
  | .prim kind => primSize ptrType kind
  | .list element (some n) => n * elemSize ptrType element
  | .list _ none => 2 * ptrSize ptrType
  | .record fields => alignTo (fieldsEnd ptrType 0 fields) (alignmentRecord ptrType fields)
  | .variant cases =>
      alignTo (payloadOffset ptrType cases + maxCaseSize ptrType cases)
        (max (discriminantSize cases.length) (maxCaseAlignment ptrType cases))
  | .flags labels => flagsSize labels
  | .errorContext | .own _ | .borrow _ | .stream _ | .future _ => 4

/-- The running end of the fields laid out from an offset. -/
def fieldsEnd (ptrType : PtrType) (offset : Nat) : List DespecializedFieldType → Nat
  | [] => offset
  | ⟨_, type⟩ :: rest =>
      fieldsEnd ptrType (alignTo offset (alignment ptrType type) + elemSize ptrType type) rest

def maxCaseSize (ptrType : PtrType) : List DespecializedCaseType → Nat
  | [] => 0
  | ⟨_, some type⟩ :: rest => max (elemSize ptrType type) (maxCaseSize ptrType rest)
  | ⟨_, none⟩ :: rest => maxCaseSize ptrType rest

end

def fieldOffsets (ptrType : PtrType) (offset : Nat) : List DespecializedFieldType → List Nat
  | [] => []
  | field :: rest =>
      let start := alignTo offset (alignment ptrType field.type)
      start :: fieldOffsets ptrType (start + elemSize ptrType field.type) rest

structure Layout where
  d : DespecializedValType
  align : Nat
  size : Nat
  fieldOffsets : List Nat
  discSize : Nat
  payloadOffset : Nat

/-- The assertion of `mkLayout`. -/
def checkAlignment (align : Nat) : Except Failure Unit :=
  assert_ (0 < align ∧ align &&& (align - 1) = 0) "layout alignment must be a power of two"

-- `computeLayout` interleaves the arithmetic above with assertions on the type; the assertions are
-- gathered here in the order they are reached.
mutual

def checkLayout (ptrType : PtrType) : DespecializedValType → Except Failure Unit
  | .list element (some n) => do
      checkLayout ptrType element
      checkAlignment (alignment ptrType (.list element (some n)))
  | .record fields => do
      checkFieldLayouts ptrType fields
      assert_ (0 < fieldsEnd ptrType 0 fields) "empty record"
      checkAlignment (alignment ptrType (.record fields))
  | .variant cases => do
      assert_ (0 < cases.length ∧ cases.length < 2 ^ 32) "case count"
      checkCaseLayouts ptrType cases
      checkAlignment (alignment ptrType (.variant cases))
  | .flags labels => do
      assert_ (0 < labels.length ∧ labels.length ≤ 32) "flags label count"
      checkAlignment (alignment ptrType (.flags labels))
  | d => checkAlignment (alignment ptrType d)

def checkFieldLayouts (ptrType : PtrType) : List DespecializedFieldType → Except Failure Unit
  | [] => pure ()
  | ⟨_, type⟩ :: rest => do
      checkLayout ptrType type
      checkFieldLayouts ptrType rest

def checkCaseLayouts (ptrType : PtrType) : List DespecializedCaseType → Except Failure Unit
  | [] => pure ()
  | ⟨_, some type⟩ :: rest => do
      checkLayout ptrType type
      checkCaseLayouts ptrType rest
  | ⟨_, none⟩ :: rest => checkCaseLayouts ptrType rest

end

/-- `layoutOf`, which is also where the source despecializes. -/
def layoutOf (d : DespecializedValType) (ptrType : PtrType) : Except Failure Layout := do
  checkLayout ptrType d
  return {
    d
    align := alignment ptrType d
    size := elemSize ptrType d
    fieldOffsets := match d with
      | .record fields => fieldOffsets ptrType 0 fields
      | _ => []
    discSize := match d with
      | .variant cases => discriminantSize cases.length
      | _ => 0
    payloadOffset := match d with
      | .variant cases => payloadOffset ptrType cases
      | _ => 0 }

section

attribute [local simp] alignment elemSize checkLayout

end

end Polyengine.Cabi
