import Mathlib.Data.List.Induction
import Mathlib.Data.Nat.Bitwise
import Polyengine.Cabi.LayoutProperties
import Polyengine.Cabi.Strings

/-!
# String encodings

Each encoding of a string decodes to its well-formed version, and the optimistic prefixes that the
lowering loops write are prefixes of the final encoding.
-/

set_option autoImplicit false

namespace Polyengine.Cabi

open Polyengine.Library

theorem forall_byte {holds : UInt8 → Prop} (all : ∀ n < 256, holds (UInt8.ofNat n)) (x : UInt8) :
    holds x := by
  have here := all x.toNat x.toNat_lt
  rwa [UInt8.ofNat_toNat] at here

/-- The addresses of a range. -/
def region (ptr n : Nat) : Set Nat := { a | ptr ≤ a ∧ a < ptr + n }

/-- The bytes of code units that fit one byte each. -/
def narrow (units : List UInt16) : List UInt8 := units.map fun unit => UInt8.ofNat unit.toNat

@[simp] theorem narrow_length (units : List UInt16) : (narrow units).length = units.length :=
  List.length_map _

section Utf8

theorem utf8Encode_toByteArray (units : List UInt16) :
    (utf8Encode units).toByteArray = (Utf16.scalars units).utf8Encode := rfl

theorem decodeString_utf8 (units : List UInt16) :
    decodeString .utf8 (utf8Encode units) = .ok (Utf16.toWellFormed units) := by
  simp only [decodeString, utf8Decode, utf8Encode_toByteArray, List.utf8Decode?_utf8Encode,
    Option.map_some]
  rfl

theorem length_utf8Encode (units : List UInt16) :
    (utf8Encode units).length = ((Utf16.scalars units).map Char.utf8Size).sum := by
  rw [utf8Encode, List.length_flatMap]
  congr 1
  apply List.map_congr_left
  intro c _
  exact String.length_utf8EncodeChar c

theorem length_utf8Encode_le (units : List UInt16) :
    (utf8Encode units).length ≤ units.length * 3 := by
  rw [length_utf8Encode]
  apply Utf16.sum_scalars_le
  · intro c small
    by_contra large
    have four : c.utf8Size = 4 := by
      have most := c.utf8Size_le_four
      omega
    have above : 0xffff < c.toNat := Char.utf8Size_eq_four_iff.mp four
    omega
  · intro c
    exact c.utf8Size_le_four.trans (by omega)

theorem le_length_utf8Encode (units : List UInt16) :
    units.length ≤ (utf8Encode units).length := by
  rw [length_utf8Encode]
  apply Utf16.le_sum_scalars
  · exact fun c => c.utf8Size_pos
  · intro c large
    have four : c.utf8Size = 4 :=
      Char.utf8Size_eq_four_iff.mpr (show 0xffff < c.toNat by omega)
    omega

theorem utf8EncodeChar_ascii {unit : UInt16} (ascii : unit.toNat < 0x80) :
    String.utf8EncodeChar (Char.ofNat unit.toNat) = [UInt8.ofNat unit.toNat] := by
  have value : (Char.ofNat unit.toNat).toNat = unit.toNat :=
    Utf16.toNat_ofNat (.inl (by omega))
  have small : unit.toNat ≤ 127 := by omega
  simp [String.utf8EncodeChar, value, small]

theorem utf8Encode_append {leading : List UInt16} (ascii : ∀ unit ∈ leading, unit.toNat < 0x80)
    (rest : List UInt16) : utf8Encode (leading ++ rest) = narrow leading ++ utf8Encode rest := by
  have small : ∀ unit ∈ leading, unit.toNat < 0xD800 := by
    intro unit member
    have bound := ascii unit member
    omega
  rw [utf8Encode, Utf16.scalars_append small, List.flatMap_append, ← utf8Encode]
  congr 1
  clear small
  induction leading with
  | nil => rfl
  | cons unit leading ih =>
      rw [List.map_cons, List.flatMap_cons, utf8EncodeChar_ascii (ascii unit (by simp)),
        ih fun unit member => ascii unit (by simp [member])]
      rfl

end Utf8

section Utf16le

theorem unitsToBytes_append (leading rest : List UInt16) :
    unitsToBytes (leading ++ rest) = unitsToBytes leading ++ unitsToBytes rest :=
  List.flatMap_append

theorem unitsToBytes_cons (unit : UInt16) (rest : List UInt16) :
    unitsToBytes (unit :: rest) =
      UInt8.ofNat unit.toNat :: UInt8.ofNat (unit.toNat / 256) :: unitsToBytes rest := rfl

@[simp] theorem length_unitsToBytes (units : List UInt16) :
    (unitsToBytes units).length = 2 * units.length := by
  induction units with
  | nil => rfl
  | cons unit rest ih =>
      rw [unitsToBytes_cons, List.length_cons, List.length_cons, ih, List.length_cons]
      omega

theorem unitsOf_unitsToBytes (units : List UInt16) : unitsOf (unitsToBytes units) = some units := by
  induction units with
  | nil => rfl
  | cons unit rest ih =>
      have bound : unit.toNat < 65536 := unit.toNat_lt
      have low : (UInt8.ofNat unit.toNat).toNat = unit.toNat % 256 := by simp
      have high : (UInt8.ofNat (unit.toNat / 256)).toNat = unit.toNat / 256 := by
        rw [UInt8.toNat_ofNat']
        omega
      have whole : unit.toNat % 256 + 256 * (unit.toNat / 256) = unit.toNat := by omega
      rw [unitsToBytes_cons, unitsOf, ih, low, high, whole, Option.map_some, UInt16.ofNat_toNat]

theorem decodeString_utf16 (units : List UInt16) :
    decodeString .utf16le (encodeUtf16Le units) = .ok (Utf16.toWellFormed units) := by
  simp only [decodeString, utf16Decode, encodeUtf16Le, unitsOf_unitsToBytes, Option.bind_some,
    Utf16.toWellFormed, Utf16.decode?_encode, Option.map_some]

@[simp] theorem length_encodeUtf16Le (units : List UInt16) :
    (encodeUtf16Le units).length = 2 * units.length := by
  rw [encodeUtf16Le, length_unitsToBytes, Utf16.length_toWellFormed]

end Utf16le

section Latin1

theorem decodeString_latin1 {units : List UInt16} (latin1 : ∀ unit ∈ units, unit.toNat < 2 ^ 8) :
    decodeString .latin1 (narrow units) = .ok units := by
  have same : latin1Decode (narrow units) = units := by
    rw [latin1Decode, narrow, List.map_map]
    conv_rhs => rw [← List.map_id units]
    apply List.map_congr_left
    intro unit member
    have bound := latin1 unit member
    have value : (UInt8.ofNat unit.toNat).toNat = unit.toNat := by
      rw [UInt8.toNat_ofNat']
      exact Nat.mod_eq_of_lt bound
    simp only [Function.comp_apply, value, UInt16.ofNat_toNat, id]
  rw [decodeString, same]

theorem widened_narrow {units : List UInt16} (latin1 : ∀ unit ∈ units, unit.toNat < 2 ^ 8) :
    (narrow units).flatMap (fun byte => [byte, 0]) = unitsToBytes units := by
  induction units with
  | nil => rfl
  | cons unit rest ih =>
      have bound := latin1 unit (by simp)
      have high : unit.toNat / 256 = 0 := by omega
      have later := ih fun unit member => latin1 unit (by simp [member])
      rw [unitsToBytes_cons, high, ← later]
      rfl

theorem widen_spec (ptr : Nat) {bytes : List UInt8} {mem : MemInst}
    (inside : ptr + 2 * bytes.length ≤ mem.length) (contents : mem.bytesAt ptr bytes.length = bytes) :
    (widen ptr bytes.length mem).length = mem.length ∧
      (widen ptr bytes.length mem).addrType = mem.addrType ∧
      (∀ a, a ∉ region ptr (2 * bytes.length) →
        (widen ptr bytes.length mem).byte a = mem.byte a) ∧
      (widen ptr bytes.length mem).bytesAt ptr (2 * bytes.length) =
        bytes.flatMap fun byte => [byte, 0] := by
  induction bytes using List.reverseRecOn generalizing mem with
  | nil => exact ⟨rfl, rfl, fun _ _ => rfl, rfl⟩
  | append_singleton bytes last ih =>
      rw [List.length_append, List.length_singleton] at inside contents ⊢
      rw [MemInst.bytesAt_add] at contents
      obtain ⟨leading, lastByte⟩ := List.append_inj contents (by simp)
      have here : mem.byte (ptr + bytes.length) = last := by
        simpa [MemInst.bytesAt] using lastByte
      rw [widen, here]
      generalize first : mem.setByte (ptr + 2 * bytes.length) last = stored
      generalize second : stored.setByte (ptr + 2 * bytes.length + 1) 0 = padded
      have length : padded.length = mem.length := by
        rw [← second, ← first, MemInst.setByte_length, MemInst.setByte_length]
      have addrType : padded.addrType = mem.addrType := by
        rw [← second, ← first, MemInst.setByte_addrType, MemInst.setByte_addrType]
      have elsewhere : ∀ a, a ≠ ptr + 2 * bytes.length → a ≠ ptr + 2 * bytes.length + 1 →
          padded.byte a = mem.byte a := by
        intro a notFirst notSecond
        rw [← second, stored.setByte_outside _ _ notSecond, ← first,
          mem.setByte_outside _ _ notFirst]
      have unit : padded.bytesAt (ptr + 2 * bytes.length) 2 = [last, 0] := by
        have low : padded.byte (ptr + 2 * bytes.length) = last := by
          rw [← second, stored.setByte_outside _ _ (by omega), ← first]
          exact mem.setByte_inside _ _ (by omega)
        have high : padded.byte (ptr + 2 * bytes.length + 1) = 0 := by
          rw [← second]
          exact stored.setByte_inside _ _ (by rw [← first, MemInst.setByte_length]; omega)
        simp only [MemInst.bytesAt, low, high]
      -- the bytes still to widen lie below the unit just written
      have remaining : padded.bytesAt ptr bytes.length = bytes :=
        calc padded.bytesAt ptr bytes.length
            = mem.bytesAt ptr bytes.length :=
              MemInst.bytesAt_congr fun a _ high => elsewhere a (by omega) (by omega)
          _ = bytes := leading
      obtain ⟨length', addrType', outside', contents'⟩ := ih (by omega) remaining
      refine ⟨length'.trans length, addrType'.trans addrType, ?_, ?_⟩
      · intro a outside
        have narrower : a ∉ region ptr (2 * bytes.length) := by
          rintro ⟨low, high⟩
          exact outside ⟨low, by omega⟩
        rw [outside' a narrower]
        apply elsewhere
        · intro same
          exact outside ⟨by omega, by omega⟩
        · intro same
          exact outside ⟨by omega, by omega⟩
      · have whole : 2 * (bytes.length + 1) = 2 * bytes.length + 2 := by omega
        rw [whole, MemInst.bytesAt_add, contents', List.flatMap_append]
        congr 1
        calc (widen ptr bytes.length padded).bytesAt (ptr + 2 * bytes.length) 2
            = padded.bytesAt (ptr + 2 * bytes.length) 2 :=
              MemInst.bytesAt_congr fun a low _ => outside' a fun inside => by
                have bound := inside.2
                omega
          _ = [last, 0] := unit

end Latin1

section Tag

theorem stringRange_untagged {ptrType : PtrType} {n : Nat} (small : n < utf16Tag ptrType) :
    stringRange .latin1Utf16 ptrType n = (2, n, .latin1) := by
  have clear : n &&& utf16Tag ptrType = 0 := by
    unfold utf16Tag at small ⊢
    rw [Nat.and_two_pow, Nat.testBit_lt_two_pow small]
    exact Nat.zero_mul _
  rw [stringRange, if_neg (by simp [clear])]

theorem stringRange_tagged {ptrType : PtrType} {n : Nat} (small : n < utf16Tag ptrType) :
    stringRange .latin1Utf16 ptrType (n ||| utf16Tag ptrType) = (2, 2 * n, .utf16le) := by
  unfold utf16Tag at small
  have set : (n ||| utf16Tag ptrType) &&& utf16Tag ptrType ≠ 0 := by
    unfold utf16Tag
    rw [Nat.and_two_pow, Nat.testBit_or, Nat.testBit_two_pow_self, Bool.or_true]
    simp
  have cleared : (n ||| utf16Tag ptrType) ^^^ utf16Tag ptrType = n := by
    unfold utf16Tag
    apply Nat.eq_of_testBit_eq
    intro i
    rw [Nat.testBit_xor, Nat.testBit_or]
    by_cases top : 8 * ptrSize ptrType - 1 = i
    · subst top
      rw [Nat.testBit_two_pow_self, Nat.testBit_lt_two_pow small]
      rfl
    · rw [Nat.testBit_two_pow_of_ne top]
      simp
  rw [stringRange, if_pos set, cleared]

theorem tagged_lt {ptrType : PtrType} {n : Nat} (small : n < utf16Tag ptrType) :
    n ||| utf16Tag ptrType < 2 ^ (8 * ptrSize ptrType) := by
  have positive : 0 < 8 * ptrSize ptrType := by cases ptrType <;> decide
  have double : 2 ^ (8 * ptrSize ptrType) = 2 * utf16Tag ptrType := by
    unfold utf16Tag
    rw [← Nat.pow_succ', Nat.succ_eq_add_one, Nat.sub_add_cancel positive]
  rw [double]
  have bound : utf16Tag ptrType < 2 ^ (8 * ptrSize ptrType) := by
    rw [double]
    have pos : 0 < utf16Tag ptrType := Nat.two_pow_pos _
    omega
  rw [← double]
  exact Nat.or_lt_two_pow (by omega) bound

end Tag

end Polyengine.Cabi
