import Polyengine.Cabi.LoadResults

/-!
# What storing leaves behind

The steps of storing: scalars, pointer pairs and lists, each with the fact that loading relies on.
-/

set_option autoImplicit false

namespace Polyengine.Cabi

open Polyengine.Library Command

section Integers

variable {mem : MemInst} {ptr nbytes : Nat} {n : Int} {signed : Bool}

theorem storeInt_number (width : nbytes = 1 ∨ nbytes = 2 ∨ nbytes = 4)
    (inside : ptr + nbytes ≤ mem.length) (fits : fitsInWidth n nbytes signed) :
    storeInt mem (.number n) ptr nbytes signed =
      .ok (mem.setBytes ptr (LittleEndian.encode nbytes (LittleEndian.wrap (8 * nbytes) n))) := by
  have room : ptr + (LittleEndian.encode nbytes (LittleEndian.wrap (8 * nbytes) n)).length ≤
      mem.length := by rwa [LittleEndian.length_encode]
  unfold storeInt
  rw [assert_ok inside]
  rcases width with rfl | rfl | rfl <;>
  · simp only [bind, Except.bind, pure, Except.pure, assert_ok fits, MemInst.write, if_pos room]

theorem storeInt_bigint (inside : ptr + 8 ≤ mem.length) (fits : fitsInWidth n 8 signed) :
    storeInt mem (.bigint n) ptr 8 signed =
      .ok (mem.setBytes ptr (LittleEndian.encode 8 (LittleEndian.wrap 64 n))) := by
  have room : ptr + (LittleEndian.encode 8 (LittleEndian.wrap 64 n)).length ≤ mem.length := by
    rwa [LittleEndian.length_encode]
  unfold storeInt
  rw [assert_ok inside]
  simp only [bind, Except.bind, pure, Except.pure, assert_ok fits, MemInst.write, if_pos room]

end Integers

end Polyengine.Cabi
