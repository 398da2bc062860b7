import Mathlib.Tactic.Ring
import Mathlib.Tactic.NormNum

/-!
# Little-endian integers

Fixed-width byte strings and the natural and two's complement integers they stand for.
-/

set_option autoImplicit false

namespace Polyengine.Library.LittleEndian

/-- The low-order bytes of a number, least significant first. -/
def encode : Nat → Nat → List UInt8
  | 0, _ => []
  | width + 1, n => UInt8.ofNat n :: encode width (n / 256)

def decode : List UInt8 → Nat
  | [] => 0
  | byte :: rest => byte.toNat + 256 * decode rest

/-- The two's complement integer with the given low-order bits. -/
def toSigned (bits n : Nat) : Int := if n < 2 ^ (bits - 1) then n else (n : Int) - 2 ^ bits

/-- The bits of an integer reduced modulo a power of two. -/
def wrap (bits : Nat) (n : Int) : Nat := (n % 2 ^ bits).toNat

@[simp] theorem length_encode (width n : Nat) : (encode width n).length = width := by
  induction width generalizing n with
  | zero => rfl
  | succ width ih => simp only [encode, List.length_cons, ih]

theorem wrap_lt (bits : Nat) (n : Int) : wrap bits n < 2 ^ bits := by
  have positive : (0 : Int) < 2 ^ bits := by positivity
  have nonneg := Int.emod_nonneg n positive.ne'
  have below := Int.emod_lt_of_pos n positive
  have cast : ((2 ^ bits : Nat) : Int) = 2 ^ bits := by norm_cast
  unfold wrap
  omega

theorem wrap_of_nat {bits n : Nat} (fits : n < 2 ^ bits) : wrap bits n = n := by
  have cast : ((n : Int) % 2 ^ bits) = ((n % 2 ^ bits : Nat) : Int) := by norm_cast
  rw [wrap, cast, Int.toNat_natCast, Nat.mod_eq_of_lt fits]

end Polyengine.Library.LittleEndian
