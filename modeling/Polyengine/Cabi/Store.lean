import Polyengine.Cabi.Load

/-!
# Storing values into linear memory

The interpreter that lowers a value into guest memory, with the bulk copies of numeric lists.
-/

set_option autoImplicit false

namespace Polyengine.Cabi

open Polyengine.Library

-- The source casts a value to the representation its type calls for; a value of another shape is
-- refused here, where the source would coerce it or throw a TypeError.
def illTyped : Failure := .assertion "value is not a raw value of its type"

/-- `Boolean(v)`. -/
def truthy : Value → Bool
  | .bool b => b
  | .number n | .bigint n => decide (n ≠ 0)
  | .f32 bits => !isNan32 bits && decide (bits &&& 0x7fffffff ≠ 0)
  | .f64 bits => !isNan64 bits && decide (bits &&& 0x7fffffffffffffff ≠ 0)
  | .string units => !units.isEmpty
  | .null | .undefined => false
  | .bytes _ | .array _ | .record _ | .variant _ _ | .token _ => true

def asString : Value → Except Failure (List UInt16)
  | .string units => .ok units
  | _ => .error illTyped

/-- The elements of an `ArrayLike`. -/
def arrayLike : Value → Except Failure (List Value)
  | .array elements => .ok elements
  | .bytes data => .ok (data.map fun byte => .number byte.toNat)
  | _ => .error illTyped

def propertyOf (v : Value) (label : String) : Except Failure Value :=
  match v with
  | .record properties => .ok (property properties label)
  | _ => .error illTyped

/-- An element of a view as bytes: integers wrap, NaNs become canonical. -/
def ArrayCtor.write : ArrayCtor → Value → Except Failure (List UInt8)
  | .int width _, .number n => .ok (LittleEndian.encode width (LittleEndian.wrap (8 * width) n))
  | .int _ _, _ => .error (.assertion "int store")
  | .big _, .bigint n => .ok (LittleEndian.encode 8 (LittleEndian.wrap 64 n))
  | .big _, _ => .error (.assertion "64-bit store requires bigint")
  | .float32, .f32 bits => .ok (LittleEndian.encode 4 (encodeFloatAsI32 bits))
  | .float64, .f64 bits => .ok (LittleEndian.encode 8 (encodeFloatAsI64 bits))
  | .float32, _ | .float64, _ => .error illTyped

/-- The bytes of the elements one after the other. -/
def concatBytes (convert : Value → Except Failure (List UInt8)) :
    List Value → Except Failure (List UInt8)
  | [] => return []
  | v :: rest => do
      let bytes ← convert v
      return bytes ++ (← concatBytes convert rest)

/-- The wrapping element assignment of the `u8` path. -/
def byteElement : Value → Except Failure (List UInt8)
  | .number n => .ok [UInt8.ofNat (LittleEndian.wrap 8 n)]
  | _ => .error (.assertion "int store")

section

variable {World : Type} (cx : LiftLowerContext World)

def tryStoreNumericList (elements : List Value) (ptr : Nat) (kind : Option PrimKind) :
    Cx World Bool := do
  let mem ← requireMemory
  if kind = some .bool then
    let _ ← bytesOf mem ptr elements.length
    modifyMemory fun mem => mem.write ptr (elements.map fun v => if truthy v then 1 else 0)
    return true
  match kind.bind arrayCtor with
  | none => return false
  | some ctor =>
      if ← viewOf cx ctor.width mem ptr elements.length then
        let bytes ← concatBytes ctor.write elements
        modifyMemory fun mem => mem.write ptr bytes
        return true
      else return false

/-- The element loop of `storeListIntoValidRange`. -/
def storeElements (storeElement : Value → Nat → Cx World Unit) (size : Nat) :
    List Value → Nat → Cx World Unit
  | [], _ => return ()
  | v :: rest, ptr => do
      storeElement v ptr
      storeElements storeElement size rest (ptr + size)

/-- `storeListIntoValidRange`; `storeElement` is `store` at the element type. -/
def storeListIntoValidRange (storeElement : Value → Nat → Cx World Unit) (v : Value) (ptr : Nat)
    (elemType : DespecializedValType) : Cx World Unit := do
  let mem ← requireMemory
  let layout ← layoutOf elemType mem.ptrType
  let elements ← arrayLike v
  if elemType.primKind = some .u8 then
    let _ ← bytesOf mem ptr elements.length
    let bytes ← concatBytes byteElement elements
    modifyMemory fun mem => mem.write ptr bytes
  else if ← tryStoreNumericList cx elements ptr elemType.primKind then return ()
  else storeElements storeElement layout.size elements ptr

def storeListIntoRange (storeElement : Value → Nat → Cx World Unit) (v : Value)
    (elemType : DespecializedValType) : Cx World (Nat × Nat) := do
  let mem ← requireMemory
  let layout ← layoutOf elemType mem.ptrType
  let elements ← arrayLike v
  let byteLength := elements.length * layout.size
  assert_ (byteLength ≤ REALLOC_I32_MAX) "internal assertion failed"
  let ptr ← cx.allocate layout.align byteLength
  checkBlock ptr layout.align byteLength
  storeListIntoValidRange cx storeElement v ptr elemType
  return (ptr, elements.length)

def storeList (storeElement : Value → Nat → Cx World Unit) (v : Value) (ptr : Nat)
    (elemType : DespecializedValType) (maybeLength : Option Nat) : Cx World Unit := do
  match maybeLength with
  | some length =>
      let elements ← arrayLike v
      assert_ (length = elements.length) "fixed-length list length mismatch"
      storeListIntoValidRange cx storeElement v ptr elemType
  | none =>
      let (start, length) ← storeListIntoRange cx storeElement v elemType
      modifyMemory fun mem => storePtr mem start ptr
      modifyMemory fun mem => storePtr mem length (ptr + mem.ptrSize)

/-- `caseIndexOf(cases).get(label)`, absent also when the label is repeated. -/
def caseIndexOf (cases : List DespecializedCaseType) (label : String) : Option Nat :=
  if (cases.filter fun case => case.label == label).length = 1 then
    cases.findIdx? fun case => case.label == label
  else none

def caseNotFound (label : String) : String := s!"variant case '{label}' not found"

def matchCase (v : Value) (cases : List DespecializedCaseType) : Except Failure (Nat × Value) :=
  match v with
  | .variant kind value =>
      match caseIndexOf cases kind with
      | some caseIndex => .ok (caseIndex, value)
      | none => .error (.assertion (caseNotFound kind))
  | _ => .error illTyped

/-- The loop of `packFlagsIntoInt` over the labels that are left. -/
def packFlags (v : Value) (i shift : Nat) : List String → Except Failure Nat
  | [] => return i
  | label :: rest => do
      let bit := if truthy (← propertyOf v label) then 1 else 0
      packFlags v ((i ||| (bit <<< (shift % 32))) % 2 ^ 32) (shift + 1) rest

def packFlagsIntoInt (v : Value) (labels : List String) : Except Failure Nat := packFlags v 0 0 labels

def storeFlags (v : Value) (ptr : Nat) (labels : List String) : Cx World Unit := do
  let i ← packFlagsIntoInt v labels
  modifyMemory fun mem => storeInt mem (.number i) ptr (flagsSize labels) false

/-- The arms of `store` for the primitive kinds. -/
def storePrim (v : Value) (ptr : Nat) : PrimKind → Cx World Unit
  | .bool => modifyMemory fun mem => storeInt mem (.number (if truthy v then 1 else 0)) ptr 1 false
  | .u8 => modifyMemory fun mem => storeInt mem v ptr 1 false
  | .u16 => modifyMemory fun mem => storeInt mem v ptr 2 false
  | .u32 => modifyMemory fun mem => storeInt mem v ptr 4 false
  | .u64 => modifyMemory fun mem => storeInt mem v ptr 8 false
  | .s8 => modifyMemory fun mem => storeInt mem v ptr 1 true
  | .s16 => modifyMemory fun mem => storeInt mem v ptr 2 true
  | .s32 => modifyMemory fun mem => storeInt mem v ptr 4 true
  | .s64 => modifyMemory fun mem => storeInt mem v ptr 8 true
  | .f32 =>
      match v with
      | .f32 bits => modifyMemory fun mem => storeInt mem (.number (encodeFloatAsI32 bits)) ptr 4 false
      | _ => throw illTyped
  | .f64 =>
      match v with
      | .f64 bits => modifyMemory fun mem => storeInt mem (.bigint (encodeFloatAsI64 bits)) ptr 8 false
      | _ => throw illTyped
  | .char => do
      let i ← charToI32 (← asString v)
      modifyMemory fun mem => storeInt mem (.number i) ptr 4 false
  | .string => do storeString cx (← asString v) ptr

def storeHandle (v : Value) (ptr : Nat) (d : DespecializedValType) : Cx World Unit := do
  let index ← cx.lowerHandle d v
  modifyMemory fun mem => storeInt mem (.number index) ptr 4 false

mutual

def store (v : Value) (ptr : Nat) (d : DespecializedValType) : Cx World Unit := do
  let mem ← requireMemory
  let layout ← layoutOf d mem.ptrType
  assert_ (ptr % layout.align = 0) "store misaligned"
  assert_ (ptr + layout.size ≤ mem.length) "store OOB"
  match d with
  | .prim kind => storePrim cx v ptr kind
  | .list element length => storeList cx (fun v ptr => store v ptr element) v ptr element length
  | .record fields => storeRecord v ptr fields layout.fieldOffsets
  | .variant cases => do
      let (caseIndex, caseValue) ← matchCase v cases
      modifyMemory fun mem => storeInt mem (.number caseIndex) ptr layout.discSize false
      storeCase caseValue (ptr + layout.payloadOffset) cases caseIndex
  | .flags labels => storeFlags v ptr labels
  | .errorContext => storeHandle cx v ptr .errorContext
  | .own rt => storeHandle cx v ptr (.own rt)
  | .borrow rt => storeHandle cx v ptr (.borrow rt)
  | .stream element => storeHandle cx v ptr (.stream element)
  | .future element => storeHandle cx v ptr (.future element)

/-- The loop of `storeRecord` over the fields that are left. -/
def storeRecord (v : Value) (ptr : Nat) :
    List DespecializedFieldType → List Nat → Cx World Unit
  | [], _ => return ()
  | ⟨label, type⟩ :: rest, offsets => do
      let value ← propertyOf v label
      store value (ptr + offsets.headD 0) type
      storeRecord v ptr rest offsets.tail

/-- The end of `storeVariant`: the payload of the selected case. -/
def storeCase (caseValue : Value) (ptr : Nat) : List DespecializedCaseType → Nat → Cx World Unit
  | [], _ => throw (Failure.assertion "case index")
  | ⟨_, none⟩ :: _, 0 => return ()
  | ⟨_, some type⟩ :: _, 0 => store caseValue ptr type
  | _ :: rest, index + 1 => storeCase caseValue ptr rest index

end

end

end Polyengine.Cabi
