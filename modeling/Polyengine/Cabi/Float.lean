import Mathlib.Algebra.Group.Nat.Defs
import Mathlib.Tactic.Basic

/-!
# Float bit patterns

Floats are their bit patterns; the canonical ABI replaces every NaN by one pattern.
-/

set_option autoImplicit false

namespace Polyengine.Cabi

def CANONICAL_FLOAT32_NAN : UInt32 := 0x7fc00000

def CANONICAL_FLOAT64_NAN : UInt64 := 0x7ff8000000000000

def isNan32 (bits : UInt32) : Bool := decide (0x7f800000 < bits &&& 0x7fffffff)

def isNan64 (bits : UInt64) : Bool := decide (0x7ff0000000000000 < bits &&& 0x7fffffffffffffff)

def canonicalizeNan32 (bits : UInt32) : UInt32 :=
  if isNan32 bits then CANONICAL_FLOAT32_NAN else bits

def canonicalizeNan64 (bits : UInt64) : UInt64 :=
  if isNan64 bits then CANONICAL_FLOAT64_NAN else bits

def maybeScrambleNan32 (bits : UInt32) : UInt32 := canonicalizeNan32 bits

def maybeScrambleNan64 (bits : UInt64) : UInt64 := canonicalizeNan64 bits

def decodeI32AsFloat (i : Nat) : UInt32 := canonicalizeNan32 (UInt32.ofNat i)

def decodeI64AsFloat (i : Nat) : UInt64 := canonicalizeNan64 (UInt64.ofNat i)

def encodeFloatAsI32 (bits : UInt32) : Nat := (canonicalizeNan32 bits).toNat

def encodeFloatAsI64 (bits : UInt64) : Nat := (canonicalizeNan64 bits).toNat

@[simp] theorem canonicalizeNan32_idem (bits : UInt32) :
    canonicalizeNan32 (canonicalizeNan32 bits) = canonicalizeNan32 bits := by
  unfold canonicalizeNan32
  cases nan : isNan32 bits with
  | false => simp [nan]
  | true =>
      simp only [if_true]
      split <;> rfl

@[simp] theorem canonicalizeNan64_idem (bits : UInt64) :
    canonicalizeNan64 (canonicalizeNan64 bits) = canonicalizeNan64 bits := by
  unfold canonicalizeNan64
  cases nan : isNan64 bits with
  | false => simp [nan]
  | true =>
      simp only [if_true]
      split <;> rfl

@[simp] theorem decodeI32AsFloat_encode (bits : UInt32) :
    decodeI32AsFloat (encodeFloatAsI32 bits) = canonicalizeNan32 bits := by
  simp [decodeI32AsFloat, encodeFloatAsI32]

@[simp] theorem decodeI64AsFloat_encode (bits : UInt64) :
    decodeI64AsFloat (encodeFloatAsI64 bits) = canonicalizeNan64 bits := by
  simp [decodeI64AsFloat, encodeFloatAsI64]

theorem encodeFloatAsI32_lt (bits : UInt32) : encodeFloatAsI32 bits < 2 ^ 32 := UInt32.toNat_lt _

theorem encodeFloatAsI64_lt (bits : UInt64) : encodeFloatAsI64 bits < 2 ^ 64 := UInt64.toNat_lt _

end Polyengine.Cabi
