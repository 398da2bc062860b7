import Polyengine.Cabi.Lift
import Polyengine.Cabi.Store

/-!
# Flat lowering

The interpreter that lowers a value into core lanes. The payload lanes of a variant are converted
to the joined lanes and padded with zeros.
-/

set_option autoImplicit false

namespace Polyengine.Cabi

open Polyengine.Library

def joinLane (held want : CoreType) (fv : CoreValue) : Except Failure CoreValue :=
  match held, want with
  | .f32, .i32 => .ok (.i32 (encodeFloatAsI32 fv.bits32))
  | .i32, .i64 => .ok (.i64 fv.integer)
  | .f32, .i64 => .ok (.i64 (encodeFloatAsI32 fv.bits32))
  | .f64, .i64 => .ok (.i64 (encodeFloatAsI64 fv.bits64))
  | held, want => do
      assert_ (held = want) (laneMismatch held want)
      return fv

/-- The loop of `lowerFlatVariant` over the payload; the second result is the lanes left over. -/
def joinPayload : List CoreValue → List CoreType → List CoreType →
    Except Failure (List CoreValue × List CoreType)
  | [], _, flatTypes => return ([], flatTypes)
  | fv :: payload, held :: haveTypes, want :: flatTypes => do
      let joined ← joinLane held want fv
      let (rest, padding) ← joinPayload payload haveTypes flatTypes
      return (joined :: rest, padding)
  | _ :: _, _, _ => throw (.assertion "lane mismatch")

/-- The zero of a padding lane. -/
def CoreValue.zero : CoreType → CoreValue
  | .i32 => .i32 0
  | .i64 => .i64 0
  | .f32 => .f32 0
  | .f64 => .f64 0

def lowerFlatSigned32 (i : Int) : List CoreValue :=
  if i < 0 then [.i32 (i + 2 ^ 32)] else [.i32 i]

def lowerFlatSigned64 (i : Int) : List CoreValue :=
  if i < 0 then [.i64 (i + 2 ^ 64)] else [.i64 i]

/-- A pointer-sized number in its lane. -/
def pointerLane : PtrType → Nat → CoreValue
  | .i32, n => .i32 n
  | .i64, n => .i64 n

section

variable {World : Type} (cx : LiftLowerContext World)

def lowerFlatString (v : List UInt16) : Cx World (List CoreValue) := do
  let (ptr, packedLength) ← storeStringIntoRange cx v
  let mem ← requireMemory
  return [pointerLane mem.ptrType ptr, pointerLane mem.ptrType packedLength]

/-- The arms of `lowerFlat` for the primitive kinds. -/
def lowerFlatPrim (v : Value) : PrimKind → Cx World (List CoreValue)
  | .bool =>
      match v with
      | .bool b => return [.i32 (if b then 1 else 0)]
      | _ => throw illTyped
  | .u8 | .u16 | .u32 =>
      match v with
      | .number n => return [.i32 n]
      | _ => throw illTyped
  | .u64 =>
      match v with
      | .bigint n => return [.i64 n]
      | _ => throw illTyped
  | .s8 | .s16 | .s32 =>
      match v with
      | .number n => return lowerFlatSigned32 n
      | _ => throw illTyped
  | .s64 =>
      match v with
      | .bigint n => return lowerFlatSigned64 n
      | _ => throw illTyped
  | .f32 =>
      match v with
      | .f32 bits => return [.f32 (maybeScrambleNan32 bits)]
      | _ => throw illTyped
  | .f64 =>
      match v with
      | .f64 bits => return [.f64 (maybeScrambleNan64 bits)]
      | _ => throw illTyped
  | .char => do return [.i32 (← charToI32 (← asString v))]
  | .string => do lowerFlatString cx (← asString v)

/-- The element loop of `lowerFlatList` for a fixed length. -/
def lowerElements (lowerElement : Value → Cx World (List CoreValue)) :
    List Value → Cx World (List CoreValue)
  | [] => return []
  | v :: rest => do
      let flat ← lowerElement v
      return flat ++ (← lowerElements lowerElement rest)

def lowerFlatList (lowerElement : Value → Cx World (List CoreValue))
    (storeElement : Value → Nat → Cx World Unit) (v : Value) (elemType : DespecializedValType)
    (maybeLength : Option Nat) : Cx World (List CoreValue) := do
  match maybeLength with
  | some length =>
      let elements ← arrayLike v
      assert_ (length = elements.length) "fixed-length list length mismatch"
      lowerElements lowerElement elements
  | none =>
      let (ptr, length) ← storeListIntoRange cx storeElement v elemType
      let mem ← requireMemory
      return [pointerLane mem.ptrType ptr, pointerLane mem.ptrType length]

def lowerFlatFlags (v : Value) (labels : List String) : Except Failure (List CoreValue) := do
  assert_ (0 < labels.length ∧ labels.length ≤ 32) "internal assertion failed"
  return [.i32 (← packFlagsIntoInt v labels)]

/-- A handle lane. -/
def lowerFlatHandle (v : Value) (d : DespecializedValType) : Cx World (List CoreValue) := do
  return [.i32 (← cx.lowerHandle d v)]

mutual

def lowerFlat (v : Value) (d : DespecializedValType) : Cx World (List CoreValue) := do
  match d with
  | .prim kind => lowerFlatPrim cx v kind
  | .list element length =>
      lowerFlatList cx (fun v => lowerFlat v element) (fun v ptr => store cx v ptr element) v element
        length
  | .record fields => lowerFlatRecord v fields
  | .variant cases => do
      let (caseIndex, caseValue) ← matchCase v cases
      let flatTypes ← flattenTypeIn (.variant cases)
      assert_ (flatTypes.head? = some .i32) "internal assertion failed"
      let (payload, haveTypes) ← lowerCase caseValue cases caseIndex
      let (joined, padding) ← joinPayload payload haveTypes flatTypes.tail
      return .i32 caseIndex :: joined ++ padding.map CoreValue.zero
  | .flags labels => lowerFlatFlags v labels
  | .errorContext => lowerFlatHandle cx v .errorContext
  | .own rt => lowerFlatHandle cx v (.own rt)
  | .borrow rt => lowerFlatHandle cx v (.borrow rt)
  | .stream element => lowerFlatHandle cx v (.stream element)
  | .future element => lowerFlatHandle cx v (.future element)

/-- The loop of `lowerFlatRecord` over the fields that are left. -/
def lowerFlatRecord (v : Value) : List DespecializedFieldType → Cx World (List CoreValue)
  | [] => return []
  | ⟨label, type⟩ :: rest => do
      let value ← propertyOf v label
      let flat ← lowerFlat value type
      return flat ++ (← lowerFlatRecord v rest)

def lowerCase (caseValue : Value) :
    List DespecializedCaseType → Nat → Cx World (List CoreValue × List CoreType)
  | [], _ => throw (Failure.assertion "case index")
  | ⟨_, none⟩ :: _, 0 => return ([], [])
  | ⟨_, some type⟩ :: _, 0 => do
      let payload ← lowerFlat caseValue type
      return (payload, ← flattenTypeIn type)
  | _ :: rest, index + 1 => lowerCase caseValue rest index

end

/-- The lowering loop of `lowerFlatValues`. -/
def lowerFlatAll : List Value → List DespecializedValType → Cx World (List CoreValue)
  | [], _ => return []
  | _ :: _, [] => throw illTyped
  | v :: vs, d :: ds => do
      let flat ← lowerFlat cx v d
      return flat ++ (← lowerFlatAll vs ds)

def tupleProperties (first : Nat) : List Value → List (String × Value)
  | [] => []
  | v :: rest => (toString first, v) :: tupleProperties (first + 1) rest

/-- Where a spilled tuple goes: to the address taken from the trailing parameter or to a block that
the guest allocates, whose address is then lowered. -/
def spillDestination (ptrType : PtrType) (layout : Layout) :
    Option ValueIter → Cx World (Nat × List CoreValue × Option ValueIter)
  | none => do
      let ptr ← cx.allocate layout.align layout.size
      return (ptr, [pointerLane ptrType ptr], none)
  | some vi => do
      let (ptr, vi) ← vi.next ptrType.core
      return (← asIndex ptr.integer, [], some vi)

/-- `lowerFlatValues`; the iterator of `outParam` is returned as it is left. -/
def lowerFlatValues (maxFlat : Nat) (vs : List Value) (ts : List ValType)
    (outParam : Option ValueIter) : Cx World (List CoreValue × Option ValueIter) := do
  let ds := ts.map despecialize
  if maxFlat < (← flatCount ds) then
    let ptrType := (← requireMemory).ptrType
    let layout ← layoutOf (spillTupleType ds) ptrType
    let (ptr, flatVals, outParam) ← spillDestination cx ptrType layout outParam
    trapIf (ptr ≠ alignTo ptr layout.align) "misaligned spill pointer"
    trapIf ((← requireMemory).length < ptr + layout.size) "spill tuple out of bounds"
    store cx (.record (tupleProperties 0 vs)) ptr (spillTupleType ds)
    return (flatVals, outParam)
  else return (← lowerFlatAll cx vs ds, outParam)

end

end Polyengine.Cabi
