import Mathlib.Algebra.Group.Nat.Defs
import Mathlib.Tactic.Basic

/-!
# Double-precision numbers

The bit patterns of binary64 and the integers that they stand for.
-/

set_option autoImplicit false

namespace Polyengine.Library

structure Double where
  bits : UInt64
  deriving Repr, DecidableEq

namespace Double

def negative (d : Double) : Bool := 2 ^ 63 ≤ d.bits.toNat

def exponent (d : Double) : Nat := d.bits.toNat / 2 ^ 52 % 2048

def fraction (d : Double) : Nat := d.bits.toNat % 2 ^ 52

def isFinite (d : Double) : Bool := d.exponent ≠ 2047

def isNaN (d : Double) : Bool := d.exponent = 2047 ∧ d.fraction ≠ 0

def isZero (d : Double) : Bool := d.exponent = 0 ∧ d.fraction = 0

/-- The magnitude in units of the last place. -/
def significand (d : Double) : Nat := if d.exponent = 0 then d.fraction else d.fraction + 2 ^ 52

/-- The integral part, which is 0 for an infinity or a NaN. -/
def trunc (d : Double) : Int :=
  let magnitude : Nat :=
    if 1075 ≤ d.exponent then d.significand * 2 ^ (d.exponent - 1075)
    else d.significand / 2 ^ (1075 - max d.exponent 1)
  if d.isFinite then if d.negative then -(magnitude : Int) else magnitude else 0

/-- The integer that the number is. -/
def integer? (d : Double) : Option Int :=
  if d.isFinite ∧ (1075 ≤ d.exponent ∨ d.significand % 2 ^ (1075 - max d.exponent 1) = 0) then
    some d.trunc
  else none

end Double

end Polyengine.Library
