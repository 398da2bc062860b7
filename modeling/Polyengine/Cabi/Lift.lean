import Polyengine.Cabi.Flatten
import Polyengine.Cabi.Load

/-!
# Flat lifting

The interpreter that lifts a value out of core lanes. The payload lanes of a variant are read
through an iterator that undoes the join of the case with its siblings.
-/

set_option autoImplicit false

namespace Polyengine.Cabi

open Polyengine.Library

def CoreType.name : CoreType → String
  | .i32 => "i32"
  | .i64 => "i64"
  | .f32 => "f32"
  | .f64 => "f64"

namespace CoreValue

def Canonical : CoreType → CoreValue → Prop
  | .i32, .i32 n => 0 ≤ n ∧ n < 2 ^ 32
  | .i64, .i64 n => 0 ≤ n ∧ n < 2 ^ 64
  | .f32, .f32 _ => True
  | .f64, .f64 _ => True
  | _, _ => False

instance (t : CoreType) (x : CoreValue) : Decidable (Canonical t x) :=
  match t, x with
  | .i32, .i32 _ => inferInstanceAs (Decidable (_ ∧ _))
  | .i64, .i64 _ => inferInstanceAs (Decidable (_ ∧ _))
  | .f32, .f32 _ | .f64, .f64 _ => isTrue trivial
  | .i32, .i64 _ | .i32, .f32 _ | .i32, .f64 _ => isFalse id
  | .i64, .i32 _ | .i64, .f32 _ | .i64, .f64 _ => isFalse id
  | .f32, .i32 _ | .f32, .i64 _ | .f32, .f64 _ => isFalse id
  | .f64, .i32 _ | .f64, .i64 _ | .f64, .f32 _ => isFalse id

def integer : CoreValue → Nat
  | .i32 n | .i64 n => n.toNat
  | .f32 _ | .f64 _ => 0

def bits32 : CoreValue → UInt32
  | .f32 bits => bits
  | _ => 0

def bits64 : CoreValue → UInt64
  | .f64 bits => bits
  | _ => 0

end CoreValue

/-- The message of `CoreValueIter.next` for a value outside its lane. -/
def expectedLane : CoreType → String
  | .i32 => "expected canonical i32 lane value"
  | .i64 => "expected canonical i64 lane value"
  | .f32 | .f64 => "expected float lane value"

def laneMismatch (held want : CoreType) : String :=
  s!"lane mismatch {held.name} -> {want.name}"

/-- `wrapI64ToI32`. -/
def wrapI64ToI32 (i : Nat) : Nat := i % 2 ^ 32

/-- The conversion of the coercing iterator: a value of the joined lane as the case wants it. -/
def coerceLane (held want : CoreType) (x : CoreValue) : Except Failure CoreValue :=
  match held, want with
  | .i32, .f32 => .ok (.f32 (decodeI32AsFloat x.integer))
  | .i64, .i32 => .ok (.i32 (wrapI64ToI32 x.integer))
  | .i64, .f32 => .ok (.f32 (decodeI32AsFloat (wrapI64ToI32 x.integer)))
  | .i64, .f64 => .ok (.f64 (decodeI64AsFloat x.integer))
  | held, want => do
      assert_ (held = want) (laneMismatch held want)
      return x

/-- `CoreValueIter` over the values not taken yet, and the coercing iterators of the variants
around the current payload. -/
inductive ValueIter where
  | core (values : List CoreValue)
  | coerce (flatTypes : List CoreType) (vi : ValueIter)
  deriving Repr, DecidableEq

namespace ValueIter

def next (want : CoreType) : ValueIter → Except Failure (CoreValue × ValueIter)
  | .core [] => .error (.assertion (expectedLane want))
  | .core (v :: values) => do
      assert_ (v.Canonical want) (expectedLane want)
      return (v, .core values)
  | .coerce [] _ => .error (.assertion s!"lane mismatch undefined -> {want.name}")
  | .coerce (held :: flatTypes) vi => do
      let (x, vi) ← next held vi
      return (← coerceLane held want x, .coerce flatTypes vi)

/-- `done` of a `CoreValueIter`: every value was taken. -/
def done : ValueIter → Bool
  | .core values => values.isEmpty
  | .coerce _ _ => false

/-- The loop that takes the padding lanes. -/
def skip : List CoreType → ValueIter → Except Failure ValueIter
  | [], vi => return vi
  | held :: rest, vi => do
      let (_, vi) ← vi.next held
      skip rest vi

/-- The end of `liftFlatVariant`: the lanes the payload left are taken and dropped. -/
def finish : ValueIter → Except Failure ValueIter
  | .core values => return .core values
  | .coerce flatTypes vi => skip flatTypes vi

end ValueIter

section

attribute [local simp] coerceLane ValueIter.next ValueIter.skip ValueIter.finish

end

section

variable {World : Type} (cx : LiftLowerContext World)

def liftFlatUnsigned32 (vi : ValueIter) (width : Nat) : Except Failure (Value × ValueIter) := do
  let (i, vi) ← vi.next .i32
  assert_ (i.integer < 2 ^ 32) "internal assertion failed"
  return (.number (i.integer % 2 ^ width : Nat), vi)

def liftFlatUnsigned64 (vi : ValueIter) : Except Failure (Value × ValueIter) := do
  let (i, vi) ← vi.next .i64
  assert_ (i.integer < 2 ^ 64) "internal assertion failed"
  return (.bigint i.integer, vi)

def liftFlatSigned32 (vi : ValueIter) (width : Nat) : Except Failure (Value × ValueIter) := do
  let (i, vi) ← vi.next .i32
  assert_ (i.integer < 2 ^ 32) "internal assertion failed"
  return (.number (LittleEndian.toSigned width (i.integer % 2 ^ width)), vi)

def liftFlatSigned64 (vi : ValueIter) : Except Failure (Value × ValueIter) := do
  let (i, vi) ← vi.next .i64
  assert_ (i.integer < 2 ^ 64) "internal assertion failed"
  return (.bigint (LittleEndian.toSigned 64 i.integer), vi)

def liftFlatString (mem : MemInst) (vi : ValueIter) : Except Failure (Value × ValueIter) := do
  let (ptr, vi) ← vi.next mem.ptrType.core
  let (packedLength, vi) ← vi.next mem.ptrType.core
  return (.string (← loadStringFromRange cx.stringEncoding mem ptr.integer packedLength.integer), vi)

/-- The arms of `liftFlat` for the primitive kinds. -/
def liftFlatPrim (vi : ValueIter) : PrimKind → Cx World (Value × ValueIter)
  | .bool => do
      let (i, vi) ← vi.next .i32
      return (.bool (decide (i.integer ≠ 0)), vi)
  | .u8 => liftFlatUnsigned32 vi 8
  | .u16 => liftFlatUnsigned32 vi 16
  | .u32 => liftFlatUnsigned32 vi 32
  | .u64 => liftFlatUnsigned64 vi
  | .s8 => liftFlatSigned32 vi 8
  | .s16 => liftFlatSigned32 vi 16
  | .s32 => liftFlatSigned32 vi 32
  | .s64 => liftFlatSigned64 vi
  | .f32 => do
      let (f, vi) ← vi.next .f32
      return (.f32 (canonicalizeNan32 f.bits32), vi)
  | .f64 => do
      let (f, vi) ← vi.next .f64
      return (.f64 (canonicalizeNan64 f.bits64), vi)
  | .char => do
      let (i, vi) ← vi.next .i32
      return (.string (← convertI32ToChar i.integer), vi)
  | .string => do
      let mem ← requireMemory
      liftFlatString cx mem vi

/-- The element loop of `liftFlatList` for a fixed length. -/
def liftElements (liftElement : ValueIter → Cx World (Value × ValueIter)) :
    Nat → ValueIter → Cx World (List Value × ValueIter)
  | 0, vi => return ([], vi)
  | n + 1, vi => do
      let (element, vi) ← liftElement vi
      let (rest, vi) ← liftElements liftElement n vi
      return (element :: rest, vi)

def liftFlatList (liftElement : ValueIter → Cx World (Value × ValueIter))
    (loadElement : Nat → Cx World Value) (vi : ValueIter) (elemType : DespecializedValType)
    (maybeLength : Option Nat) : Cx World (Value × ValueIter) := do
  match maybeLength with
  | some length =>
      let (elements, vi) ← liftElements liftElement length vi
      if elemType.primKind = some .u8 then return (.bytes (bytesFrom elements), vi)
      else return (.array elements, vi)
  | none =>
      let mem ← requireMemory
      let (ptr, vi) ← vi.next mem.ptrType.core
      let (length, vi) ← vi.next mem.ptrType.core
      return (← loadListFromRange cx loadElement ptr.integer length.integer elemType, vi)

def liftFlatFlags (vi : ValueIter) (labels : List String) : Except Failure (Value × ValueIter) := do
  assert_ (0 < labels.length ∧ labels.length ≤ 32) "internal assertion failed"
  let (i, vi) ← vi.next .i32
  return (unpackFlagsFromInt i.integer labels, vi)

/-- A handle lane. -/
def liftFlatHandle (vi : ValueIter) (d : DespecializedValType) : Cx World (Value × ValueIter) := do
  let (i, vi) ← vi.next .i32
  return (← cx.liftHandle d i.integer, vi)

mutual

def liftFlat (vi : ValueIter) (d : DespecializedValType) : Cx World (Value × ValueIter) := do
  match d with
  | .prim kind => liftFlatPrim cx vi kind
  | .list element length =>
      liftFlatList cx (fun vi => liftFlat vi element) (fun ptr => load cx ptr element) vi element
        length
  | .record fields => do
      let (record, vi) ← liftFlatRecord vi fields []
      return (.record record, vi)
  | .variant cases => do
      let flatTypes ← flattenTypeIn (.variant cases)
      assert_ (flatTypes.head? = some .i32) "internal assertion failed"
      let (caseIndex, vi) ← vi.next .i32
      trapIf (cases.length ≤ caseIndex.integer)
        (discriminantOutOfRange caseIndex.integer cases.length)
      let (v, coerceIter) ← liftCase (.coerce flatTypes.tail vi) cases caseIndex.integer
      return (v, ← coerceIter.finish)
  | .flags labels => liftFlatFlags vi labels
  | .errorContext => liftFlatHandle cx vi .errorContext
  | .own rt => liftFlatHandle cx vi (.own rt)
  | .borrow rt => liftFlatHandle cx vi (.borrow rt)
  | .stream element => liftFlatHandle cx vi (.stream element)
  | .future element => liftFlatHandle cx vi (.future element)

/-- The loop of `liftFlatRecord` over the fields that are left. -/
def liftFlatRecord (vi : ValueIter) : List DespecializedFieldType → List (String × Value) →
    Cx World (List (String × Value) × ValueIter)
  | [], record => return (record, vi)
  | ⟨label, type⟩ :: rest, record => do
      let (value, vi) ← liftFlat vi type
      liftFlatRecord vi rest (assign record label value)

/-- The payload of the case that the discriminant selects. -/
def liftCase (vi : ValueIter) : List DespecializedCaseType → Nat → Cx World (Value × ValueIter)
  | [], _ => throw (Failure.assertion "case index")
  | ⟨label, none⟩ :: _, 0 => return (.variant label .null, vi)
  | ⟨label, some type⟩ :: _, 0 => do
      let (value, vi) ← liftFlat vi type
      return (.variant label value, vi)
  | _ :: rest, index + 1 => liftCase vi rest index

end

/-- `ts.map((t) => liftFlat(cx, vi, t))`. -/
def liftFlatAll (vi : ValueIter) : List DespecializedValType → Cx World (List Value × ValueIter)
  | [] => return ([], vi)
  | d :: rest => do
      let (value, vi) ← liftFlat cx vi d
      let (values, vi) ← liftFlatAll vi rest
      return (value :: values, vi)

/-- `spillTupleType`. -/
def spillTupleType (ts : List DespecializedValType) : DespecializedValType :=
  .record (tupleFields 0 ts)

/-- `Object.values` of a record whose keys are in order. -/
def objectValues : Value → List Value
  | .record properties => properties.map (·.2)
  | _ => []

def liftFlatValues (maxFlat : Nat) (vi : ValueIter) (ts : List ValType) :
    Cx World (List Value × ValueIter) := do
  let ds := ts.map despecialize
  if maxFlat < (← flatCount ds) then
    let mem ← requireMemory
    let (ptrRaw, vi) ← vi.next mem.ptrType.core
    let layout ← layoutOf (spillTupleType ds) mem.ptrType
    trapIf (ptrRaw.integer % layout.align ≠ 0) "misaligned spill pointer"
    trapIf (mem.length < ptrRaw.integer + layout.size) "spill tuple out of bounds"
    let ptr ← asIndex ptrRaw.integer
    let tuple ← load cx ptr (spillTupleType ds)
    return (objectValues tuple, vi)
  else liftFlatAll cx vi ds

end

end Polyengine.Cabi
