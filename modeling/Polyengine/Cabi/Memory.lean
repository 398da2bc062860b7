import Mathlib.Data.List.GetD
import Polyengine.Cabi.Types
import Polyengine.Library.LittleEndian

/-!
# Linear memory

A memory is its length and a byte for every address; the bytes past the length are never read.
Multi-byte accesses are little-endian and raise a host `RangeError` outside the memory.
-/

set_option autoImplicit false

namespace Polyengine.Cabi

open Polyengine.Library

/-- The address type of a memory. -/
inductive PtrType where
  | i32
  | i64
  deriving Repr, DecidableEq

def ptrSize : PtrType → Nat
  | .i32 => 4
  | .i64 => 8

/-- The core type of a pointer lane. -/
def PtrType.core : PtrType → CoreType
  | .i32 => .i32
  | .i64 => .i64

structure MemInst where
  length : Nat
  byte : Nat → UInt8
  addrType : PtrType

namespace MemInst

def ptrType (mem : MemInst) : PtrType := mem.addrType

def ptrSize (mem : MemInst) : Nat := Cabi.ptrSize mem.addrType

/-- The contents of a range of addresses. -/
def bytesAt (mem : MemInst) (ptr : Nat) : Nat → List UInt8
  | 0 => []
  | n + 1 => mem.byte ptr :: mem.bytesAt (ptr + 1) n

/-- The memory with a range of addresses replaced. -/
def setBytes (mem : MemInst) (ptr : Nat) (bytes : List UInt8) : MemInst :=
  { mem with byte := fun a =>
      if ptr ≤ a ∧ a < ptr + bytes.length then bytes.getD (a - ptr) 0 else mem.byte a }

/-- A view access of `n` bytes. -/
def read (mem : MemInst) (ptr n : Nat) : Except Failure (List UInt8) :=
  if ptr + n ≤ mem.length then .ok (mem.bytesAt ptr n)
  else .error (.rangeError "offset is outside the bounds of the view")

def write (mem : MemInst) (ptr : Nat) (bytes : List UInt8) : Except Failure MemInst :=
  if ptr + bytes.length ≤ mem.length then .ok (mem.setBytes ptr bytes)
  else .error (.rangeError "offset is outside the bounds of the view")

/-- An element assignment of a byte array, ignored past its end. -/
def setByte (mem : MemInst) (ptr : Nat) (byte : UInt8) : MemInst :=
  if ptr < mem.length then mem.setBytes ptr [byte] else mem

end MemInst

/-- `alignTo`: the least multiple of `alignment` that is not below `ptr`. -/
def alignTo (ptr alignment : Nat) : Nat := (ptr + (alignment - 1)) / alignment * alignment

def MAX_SAFE_INTEGER : Nat := 2 ^ 53 - 1

def asIndex (v : Nat) : Except Failure Nat := do
  assert_ (v ≤ MAX_SAFE_INTEGER) "index overflow"
  return v

def loadIntU (mem : MemInst) (ptr nbytes : Nat) : Except Failure Nat := do
  assert_ (ptr + nbytes ≤ mem.length) "load out of bounds"
  return LittleEndian.decode (← mem.read ptr nbytes)

def loadIntS (mem : MemInst) (ptr nbytes : Nat) : Except Failure Int := do
  assert_ (ptr + nbytes ≤ mem.length) "load out of bounds"
  return LittleEndian.toSigned (8 * nbytes) (LittleEndian.decode (← mem.read ptr nbytes))

def loadPtr (mem : MemInst) (ptr : Nat) : Except Failure Nat := loadIntU mem ptr mem.ptrSize

/-- `bigintFitsIn64` and `numberFitsInWidth`. -/
def fitsInWidth (v : Int) (nbytes : Nat) (signed : Bool) : Prop :=
  if signed then -2 ^ (8 * nbytes - 1) ≤ v ∧ v < 2 ^ (8 * nbytes - 1)
  else 0 ≤ v ∧ v < 2 ^ (8 * nbytes)

instance (v : Int) (nbytes : Nat) : (signed : Bool) → Decidable (fitsInWidth v nbytes signed)
  | true => inferInstanceAs (Decidable (_ ∧ _))
  | false => inferInstanceAs (Decidable (_ ∧ _))

/-- `storeInt`, whose 8-byte arm takes a bigint and whose other arms take an integer number. -/
def storeInt (mem : MemInst) (v : Value) (ptr nbytes : Nat) (signed : Bool) :
    Except Failure MemInst := do
  assert_ (ptr + nbytes ≤ mem.length) "store out of bounds"
  let n ← match nbytes, v with
    | 8, .bigint n => pure n
    | 8, _ => throw (Failure.assertion "64-bit store requires bigint")
    | _, .number n => pure n
    | _, _ => throw (Failure.assertion "int store")
  assert_ (fitsInWidth n nbytes signed) "int store: value out of range"
  mem.write ptr (LittleEndian.encode nbytes (LittleEndian.wrap (8 * nbytes) n))

/-- A pointer-sized number: a bigint when the width is eight. -/
def sizedNumber (nbytes : Nat) (n : Int) : Value := if nbytes = 8 then .bigint n else .number n

def storePtr (mem : MemInst) (v ptr : Nat) : Except Failure MemInst :=
  storeInt mem (sizedNumber mem.ptrSize v) ptr mem.ptrSize false

def bytesOf (mem : MemInst) (ptr len : Nat) : Except Failure (List UInt8) := do
  assert_ (ptr + len ≤ mem.length) "range OOB"
  return mem.bytesAt ptr len

def writeBytes (mem : MemInst) (ptr : Nat) (src : List UInt8) : Except Failure MemInst := do
  assert_ (ptr + src.length ≤ mem.length) "write OOB"
  mem.write ptr src

def trapIfRangeExceedsMemory (mem : MemInst) (ptr byteLength : Nat) (what : String) :
    Except Failure Unit :=
  trapIf (mem.length < ptr + byteLength) what

namespace MemInst

section Contents

variable (mem : MemInst) (ptr : Nat)

@[simp] theorem length_bytesAt (n : Nat) : (mem.bytesAt ptr n).length = n := by
  induction n generalizing ptr with
  | zero => rfl
  | succ n ih => simp only [bytesAt, List.length_cons, ih]

theorem bytesAt_add (m n : Nat) :
    mem.bytesAt ptr (m + n) = mem.bytesAt ptr m ++ mem.bytesAt (ptr + m) n := by
  induction m generalizing ptr with
  | zero => simp [bytesAt]
  | succ m ih =>
      rw [Nat.succ_add, bytesAt, ih, bytesAt, List.cons_append, Nat.add_right_comm, Nat.add_assoc]

theorem getElem_bytesAt (n i : Nat) (bound : i < (mem.bytesAt ptr n).length) :
    (mem.bytesAt ptr n)[i] = mem.byte (ptr + i) := by
  induction n generalizing ptr i with
  | zero => simp [bytesAt] at bound
  | succ n ih =>
      cases i with
      | zero => rfl
      | succ i =>
          simp only [bytesAt, List.getElem_cons_succ]
          rw [ih]
          congr 1
          omega

@[simp] theorem setBytes_length (bytes : List UInt8) :
    (mem.setBytes ptr bytes).length = mem.length := rfl

@[simp] theorem setBytes_addrType (bytes : List UInt8) :
    (mem.setBytes ptr bytes).addrType = mem.addrType := rfl

theorem setBytes_outside (bytes : List UInt8) {a : Nat}
    (outside : ¬(ptr ≤ a ∧ a < ptr + bytes.length)) :
    (mem.setBytes ptr bytes).byte a = mem.byte a := if_neg outside

theorem setBytes_inside (bytes : List UInt8) {i : Nat} (inside : i < bytes.length) :
    (mem.setBytes ptr bytes).byte (ptr + i) = bytes[i] := by
  have within : ptr ≤ ptr + i ∧ ptr + i < ptr + bytes.length := by omega
  simp only [setBytes, if_pos within, Nat.add_sub_cancel_left]
  exact List.getD_eq_getElem _ _ inside

@[simp] theorem bytesAt_setBytes (bytes : List UInt8) :
    (mem.setBytes ptr bytes).bytesAt ptr bytes.length = bytes := by
  apply List.ext_getElem
  · simp
  · intro i inBytes inside
    rw [getElem_bytesAt, setBytes_inside _ _ _ inside]

@[simp] theorem setByte_length (byte : UInt8) : (mem.setByte ptr byte).length = mem.length := by
  unfold setByte
  split <;> rfl

@[simp] theorem setByte_addrType (byte : UInt8) :
    (mem.setByte ptr byte).addrType = mem.addrType := by
  unfold setByte
  split <;> rfl

theorem setByte_outside (byte : UInt8) {a : Nat} (outside : a ≠ ptr) :
    (mem.setByte ptr byte).byte a = mem.byte a := by
  unfold setByte
  split
  · apply setBytes_outside
    intro inside
    simp only [List.length_singleton] at inside
    omega
  · rfl

theorem setByte_inside (byte : UInt8) (inside : ptr < mem.length) :
    (mem.setByte ptr byte).byte ptr = byte := by
  rw [setByte, if_pos inside]
  exact mem.setBytes_inside ptr [byte] (Nat.zero_lt_succ 0)

end Contents

theorem bytesAt_congr {mem mem' : MemInst} {ptr n : Nat}
    (agree : ∀ a, ptr ≤ a → a < ptr + n → mem'.byte a = mem.byte a) :
    mem'.bytesAt ptr n = mem.bytesAt ptr n := by
  apply List.ext_getElem
  · simp
  · intro i inside inside'
    rw [length_bytesAt] at inside
    rw [getElem_bytesAt, getElem_bytesAt]
    exact agree _ (by omega) (by omega)

end MemInst

theorem dvd_alignTo (ptr alignment : Nat) : alignment ∣ alignTo ptr alignment :=
  Nat.dvd_mul_left _ _

theorem le_alignTo {alignment : Nat} (ptr : Nat) (positive : 0 < alignment) :
    ptr ≤ alignTo ptr alignment := by
  have division := Nat.div_add_mod (ptr + (alignment - 1)) alignment
  have remainder := Nat.mod_lt (ptr + (alignment - 1)) positive
  rw [Nat.mul_comm] at division
  unfold alignTo
  omega

theorem alignTo_eq {alignment ptr : Nat} (positive : 0 < alignment) (aligned : alignment ∣ ptr) :
    alignTo ptr alignment = ptr := by
  obtain ⟨k, rfl⟩ := aligned
  have small : (alignment - 1) / alignment = 0 := Nat.div_eq_of_lt (by omega)
  rw [alignTo, Nat.mul_add_div positive, small, Nat.add_zero, Nat.mul_comm]

end Polyengine.Cabi
