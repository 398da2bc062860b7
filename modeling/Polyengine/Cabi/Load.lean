import Polyengine.Cabi.Float
import Polyengine.Cabi.Layout
import Polyengine.Cabi.Strings

/-!
# Loading values from linear memory

The interpreter that lifts a value out of guest memory, with the bulk copies of numeric lists.
-/

set_option autoImplicit false

namespace Polyengine.Cabi

open Polyengine.Library

def MAX_LIST_BYTE_LENGTH : Nat := 2 ^ 28 - 1

/-- The typed arrays of `INT_CTORS`, `BIG_CTORS` and `FLOAT_CTORS`. -/
inductive ArrayCtor where
  | int (width : Nat) (signed : Bool)
  | big (signed : Bool)
  | float32
  | float64
  deriving Repr, DecidableEq

namespace ArrayCtor

/-- `BYTES_PER_ELEMENT`. -/
def width : ArrayCtor → Nat
  | .int width _ => width
  | .big _ => 8
  | .float32 => 4
  | .float64 => 8

/-- The element of a view as the list holds it, NaNs canonical. -/
def read (bytes : List UInt8) : ArrayCtor → Value
  | .int _ false => .number (LittleEndian.decode bytes)
  | .int width true => .number (LittleEndian.toSigned (8 * width) (LittleEndian.decode bytes))
  | .big false => .bigint (LittleEndian.decode bytes)
  | .big true => .bigint (LittleEndian.toSigned 64 (LittleEndian.decode bytes))
  | .float32 => .f32 (decodeI32AsFloat (LittleEndian.decode bytes))
  | .float64 => .f64 (decodeI64AsFloat (LittleEndian.decode bytes))

end ArrayCtor

def arrayCtor : PrimKind → Option ArrayCtor
  | .s8 => some (.int 1 true)
  | .u16 => some (.int 2 false)
  | .s16 => some (.int 2 true)
  | .u32 => some (.int 4 false)
  | .s32 => some (.int 4 true)
  | .u64 => some (.big false)
  | .s64 => some (.big true)
  | .f32 => some .float32
  | .f64 => some .float64
  | .bool | .u8 | .char | .string => none

/-- `new Array(length)`. -/
def newArray (length : Nat) : Except Failure Unit :=
  if length < 2 ^ 32 then .ok () else .error (.rangeError "invalid array length")

/-- The `n` elements of `width` bytes at a pointer. -/
def elementsAt (mem : MemInst) (width : Nat) : Nat → Nat → List (List UInt8)
  | _, 0 => []
  | ptr, n + 1 => mem.bytesAt ptr width :: elementsAt mem width (ptr + width) n

section

variable {World : Type} (cx : LiftLowerContext World)

/-- `viewOf`: whether a typed array over `length` elements exists; building one out of bounds is a
`RangeError`. -/
def viewOf (width : Nat) (mem : MemInst) (ptr length : Nat) : Except Failure Bool :=
  if cx.littleEndian = false ∨ (cx.byteOffset + ptr) % width ≠ 0 then .ok false
  else if ptr + length * width ≤ mem.length then .ok true
  else .error (.rangeError "invalid typed array length")

def tryLoadNumericList (mem : MemInst) (ptr length : Nat) (kind : Option PrimKind) :
    Except Failure (Option (List Value)) := do
  if kind = some .bool then
    newArray length
    let bytes ← bytesOf mem ptr length
    return some (bytes.map fun byte => .bool (decide (byte ≠ 0)))
  match kind.bind arrayCtor with
  | none => return none
  | some ctor =>
      if ← viewOf cx ctor.width mem ptr length then
        newArray length
        return some ((elementsAt mem ctor.width ptr length).map ctor.read)
      else return none

/-- The arms of `load` for the primitive kinds. -/
def loadPrim (mem : MemInst) (ptr : Nat) : PrimKind → Except Failure Value
  | .bool => return .bool (decide ((← loadIntU mem ptr 1) ≠ 0))
  | .u8 => return .number (← loadIntU mem ptr 1)
  | .u16 => return .number (← loadIntU mem ptr 2)
  | .u32 => return .number (← loadIntU mem ptr 4)
  | .u64 => return .bigint (← loadIntU mem ptr 8)
  | .s8 => return .number (← loadIntS mem ptr 1)
  | .s16 => return .number (← loadIntS mem ptr 2)
  | .s32 => return .number (← loadIntS mem ptr 4)
  | .s64 => return .bigint (← loadIntS mem ptr 8)
  | .f32 => return .f32 (decodeI32AsFloat (← loadIntU mem ptr 4))
  | .f64 => return .f64 (decodeI64AsFloat (← loadIntU mem ptr 8))
  | .char => return .string (← convertI32ToChar (← loadIntU mem ptr 4))
  | .string => return .string (← loadString cx.stringEncoding mem ptr)

/-- The element loop of `loadListFromValidRange`. -/
def loadElements (loadElement : Nat → Cx World Value) (size : Nat) :
    Nat → Nat → Cx World (List Value)
  | _, 0 => return []
  | ptr, n + 1 => do
      let element ← loadElement ptr
      let rest ← loadElements loadElement size (ptr + size) n
      return element :: rest

/-- `loadListFromValidRange`; `loadElement` is `load` at the element type. -/
def loadListFromValidRange (loadElement : Nat → Cx World Value) (ptr length : Nat)
    (elemType : DespecializedValType) : Cx World Value := do
  let mem ← requireMemory
  let layout ← layoutOf elemType mem.ptrType
  let kind := elemType.primKind
  if kind = some .u8 then return .bytes (← bytesOf mem ptr length)
  match ← tryLoadNumericList cx mem ptr length kind with
  | some elements => return .array elements
  | none => return .array (← loadElements loadElement layout.size ptr length)

def loadListFromRange (loadElement : Nat → Cx World Value) (ptr length : Nat)
    (elemType : DespecializedValType) : Cx World Value := do
  let mem ← requireMemory
  let layout ← layoutOf elemType mem.ptrType
  trapIf (MAX_LIST_BYTE_LENGTH < length * layout.size) "list too long"
  trapIf (ptr % layout.align ≠ 0) "misaligned list pointer"
  trapIf (mem.length < ptr + length * layout.size) "list out of bounds"
  loadListFromValidRange cx loadElement ptr length elemType

def loadList (loadElement : Nat → Cx World Value) (ptr : Nat) (elemType : DespecializedValType)
    (maybeLength : Option Nat) : Cx World Value := do
  match maybeLength with
  | some length => loadListFromValidRange cx loadElement ptr length elemType
  | none =>
      let mem ← requireMemory
      let start ← loadPtr mem ptr
      let length ← loadPtr mem (ptr + mem.ptrSize)
      loadListFromRange cx loadElement start length elemType

/-- The loop of `unpackFlagsFromInt` over the labels that are left. -/
def unpackFlags (record : List (String × Value)) (v : Nat) : List String → List (String × Value)
  | [] => record
  | label :: rest => unpackFlags (assign record label (.bool (decide (v &&& 1 ≠ 0)))) (v >>> 1) rest

def unpackFlagsFromInt (i : Nat) (labels : List String) : Value := .record (unpackFlags [] i labels)

def loadFlags (mem : MemInst) (ptr : Nat) (labels : List String) : Except Failure Value := do
  return unpackFlagsFromInt (← loadIntU mem ptr (flagsSize labels)) labels

def discriminantOutOfRange (caseIndex caseCount : Nat) : String :=
  s!"discriminant {caseIndex} out of range [0..{caseCount})"

mutual

def load (ptr : Nat) (d : DespecializedValType) : Cx World Value := do
  let mem ← requireMemory
  let layout ← layoutOf d mem.ptrType
  assert_ (ptr % layout.align = 0) "load misaligned"
  assert_ (ptr + layout.size ≤ mem.length) "load OOB"
  match d with
  | .prim kind => loadPrim cx mem ptr kind
  | .list element length => loadList cx (fun ptr => load ptr element) ptr element length
  | .record fields => return .record (← loadRecord ptr fields layout.fieldOffsets [])
  | .variant cases => do
      let caseIndex ← loadIntU mem ptr layout.discSize
      trapIf (cases.length ≤ caseIndex) (discriminantOutOfRange caseIndex cases.length)
      loadCase (ptr + layout.payloadOffset) cases caseIndex
  | .flags labels => loadFlags mem ptr labels
  | .errorContext => cx.liftHandle .errorContext (← loadIntU mem ptr 4)
  | .own rt => cx.liftHandle (.own rt) (← loadIntU mem ptr 4)
  | .borrow rt => cx.liftHandle (.borrow rt) (← loadIntU mem ptr 4)
  | .stream element => cx.liftHandle (.stream element) (← loadIntU mem ptr 4)
  | .future element => cx.liftHandle (.future element) (← loadIntU mem ptr 4)

/-- The loop of `loadRecord` over the fields that are left. -/
def loadRecord (ptr : Nat) : List DespecializedFieldType → List Nat → List (String × Value) →
    Cx World (List (String × Value))
  | [], _, record => return record
  | ⟨label, type⟩ :: rest, offsets, record => do
      let value ← load (ptr + offsets.headD 0) type
      loadRecord ptr rest offsets.tail (assign record label value)

/-- The end of `loadVariant`: the payload of the case the discriminant selects. -/
def loadCase (ptr : Nat) : List DespecializedCaseType → Nat → Cx World Value
  | [], _ => throw (Failure.assertion "case index")
  | ⟨label, none⟩ :: _, 0 => return .variant label .null
  | ⟨label, some type⟩ :: _, 0 => return .variant label (← load ptr type)
  | _ :: rest, index + 1 => loadCase ptr rest index

end

end

end Polyengine.Cabi
