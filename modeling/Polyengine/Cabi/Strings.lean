import Polyengine.Cabi.Context
import Polyengine.Library.Utf16

/-!
# Strings and characters

Host strings are sequences of UTF-16 code units. Lifting decodes guest memory in the encoding of
the context; lowering replaces unpaired surrogates and encodes into memory that the guest
allocates.
-/

set_option autoImplicit false

namespace Polyengine.Cabi

open Polyengine.Library

def REALLOC_I32_MAX : Nat := 2 ^ 32 - 1

def REALLOC_MISALIGNED : String := "realloc return: result not aligned"

def REALLOC_OOB : String := "realloc return: beyond end of memory"

def MAX_STRING_BYTE_LENGTH : Nat := 2 ^ 28 - 1

/-- `utf16TagBig`: the high bit of a pointer-sized integer. -/
def utf16Tag (ptrType : PtrType) : Nat := 2 ^ (8 * ptrSize ptrType - 1)

def utf8Decode (bytes : List UInt8) : Option (List UInt16) :=
  bytes.toByteArray.utf8Decode?.map fun chars => Utf16.encode chars.toList

def utf8Encode (units : List UInt16) : List UInt8 :=
  (Utf16.scalars units).flatMap String.utf8EncodeChar

/-- The code units of little-endian pairs of bytes, unless a byte is left over. -/
def unitsOf : List UInt8 → Option (List UInt16)
  | [] => some []
  | [_] => none
  | low :: high :: rest => (unitsOf rest).map (UInt16.ofNat (low.toNat + 256 * high.toNat) :: ·)

def unitsToBytes (units : List UInt16) : List UInt8 :=
  units.flatMap fun unit => LittleEndian.encode 2 unit.toNat

def utf16Decode (bytes : List UInt8) : Option (List UInt16) :=
  (unitsOf bytes).bind fun units => (Utf16.decode? units).map Utf16.encode

def encodeUtf16Le (units : List UInt16) : List UInt8 := unitsToBytes (Utf16.toWellFormed units)

def latin1Decode (bytes : List UInt8) : List UInt16 := bytes.map fun byte => UInt16.ofNat byte.toNat

/-- The number of continuation bytes after a first byte and the range of the first of them. -/
def utf8Width (b : UInt8) : Option (Nat × UInt8 × UInt8) :=
  if 0xc2 ≤ b ∧ b ≤ 0xdf then some (1, 0x80, 0xbf)
  else if b = 0xe0 then some (2, 0xa0, 0xbf)
  else if 0xe1 ≤ b ∧ b ≤ 0xec then some (2, 0x80, 0xbf)
  else if b = 0xed then some (2, 0x80, 0x9f)
  else if 0xee ≤ b ∧ b ≤ 0xef then some (2, 0x80, 0xbf)
  else if b = 0xf0 then some (3, 0x90, 0xbf)
  else if 0xf1 ≤ b ∧ b ≤ 0xf3 then some (3, 0x80, 0xbf)
  else if b = 0xf4 then some (3, 0x80, 0x8f)
  else none

/-- How far a sequence of continuation bytes goes wrong, if it does. -/
def checkContinuation : Nat → UInt8 → UInt8 → List UInt8 → Option String
  | 0, _, _, _ => none
  | _ + 1, _, _, [] => some "incomplete utf-8 byte sequence"
  | n + 1, min, max, c :: rest =>
      if c < min ∨ max < c then some "invalid utf-8" else checkContinuation n 0x80 0xbf rest

-- The recursion is on a bound for the number of bytes left.
def utf8ErrorMessageFrom : Nat → List UInt8 → String
  | 0, _ => "invalid utf-8"
  | _ + 1, [] => "invalid utf-8"
  | fuel + 1, b :: rest =>
      if b < 0x80 then utf8ErrorMessageFrom fuel rest
      else
        match utf8Width b with
        | none => "invalid utf-8"
        | some (width, min, max) =>
            match checkContinuation width min max rest with
            | some message => message
            | none => utf8ErrorMessageFrom fuel (rest.drop width)

/-- `utf8ErrorMessage`: why a byte sequence is not UTF-8. -/
def utf8ErrorMessage (bytes : List UInt8) : String := utf8ErrorMessageFrom (bytes.length + 1) bytes

inductive RangeEncoding where
  | utf8
  | utf16le
  | latin1
  deriving Repr, DecidableEq

/-- The alignment, byte length and encoding of a string in memory. -/
def stringRange (stringEncoding : StringEncoding) (ptrType : PtrType) (units : Nat) :
    Nat × Nat × RangeEncoding :=
  match stringEncoding with
  | .utf8 => (1, units, .utf8)
  | .utf16 => (2, 2 * units, .utf16le)
  | .latin1Utf16 =>
      if units &&& utf16Tag ptrType ≠ 0 then (2, 2 * (units ^^^ utf16Tag ptrType), .utf16le)
      else (2, units, .latin1)

def decodeString (encoding : RangeEncoding) (bytes : List UInt8) :
    Except Failure (List UInt16) :=
  match encoding with
  | .utf8 =>
      match utf8Decode bytes with
      | some units => .ok units
      | none => .error (.trap (utf8ErrorMessage bytes))
  | .utf16le =>
      match utf16Decode bytes with
      | some units => .ok units
      | none => .error (.trap "invalid string encoding")
  | .latin1 => .ok (latin1Decode bytes)

def loadStringFromRange (stringEncoding : StringEncoding) (mem : MemInst)
    (ptr taggedCodeUnits : Nat) : Except Failure (List UInt16) := do
  let (alignment, byteLength, encoding) := stringRange stringEncoding mem.ptrType taggedCodeUnits
  trapIf (MAX_STRING_BYTE_LENGTH < byteLength) "string too long"
  trapIf (ptr % alignment ≠ 0) "misaligned string pointer"
  trapIfRangeExceedsMemory mem ptr byteLength "string pointer/length out of bounds of memory"
  decodeString encoding (← bytesOf mem ptr byteLength)

def loadString (stringEncoding : StringEncoding) (mem : MemInst) (ptr : Nat) :
    Except Failure (List UInt16) := do
  let start ← loadPtr mem ptr
  let taggedCodeUnits ← loadPtr mem (ptr + mem.ptrSize)
  loadStringFromRange stringEncoding mem start taggedCodeUnits

section Store

variable {World : Type} (cx : LiftLowerContext World)

/-- The block that `realloc` returned is aligned and inside the memory. -/
def checkBlock (ptr alignment byteLength : Nat) : Cx World Unit := do
  let mem ← requireMemory
  trapIf (ptr ≠ alignTo ptr alignment) REALLOC_MISALIGNED
  trapIf (mem.length < ptr + byteLength) REALLOC_OOB

def storeStringCopyUtf16 (src : List UInt16) : Cx World (Nat × Nat) := do
  let dstByteLength := 2 * src.length
  assert_ (dstByteLength ≤ REALLOC_I32_MAX) "internal assertion failed"
  let ptr ← cx.allocate 2 dstByteLength
  checkBlock ptr 2 dstByteLength
  let encoded := encodeUtf16Le src
  assert_ (dstByteLength = encoded.length) "internal assertion failed"
  modifyMemory fun mem => writeBytes mem ptr encoded
  return (ptr, src.length)

/-- The tail of `storeStringToUtf8` at the first code unit that is not ASCII. -/
def storeUtf8Tail (src : List UInt16) (worstCaseSize ptr i : Nat) : Cx World (Nat × Nat) := do
  assert_ (worstCaseSize ≤ REALLOC_I32_MAX) "internal assertion failed"
  let ptr ← cx.reallocate ptr src.length 1 worstCaseSize
  checkBlock ptr 1 worstCaseSize
  let encoded := utf8Encode src
  modifyMemory fun mem => writeBytes mem (ptr + i) (encoded.drop i)
  if encoded.length < worstCaseSize then
    let ptr ← cx.reallocate ptr worstCaseSize 1 encoded.length
    checkBlock ptr 1 encoded.length
    return (ptr, encoded.length)
  else return (ptr, encoded.length)

/-- The loop of `storeStringToUtf8` from code unit `i`. -/
def storeUtf8Loop (src : List UInt16) (worstCaseSize ptr : Nat) :
    Nat → List UInt16 → Cx World (Nat × Nat)
  | _, [] => return (ptr, src.length)
  | i, cu :: rest =>
      if cu.toNat < 0x80 then do
        modifyMemory fun mem => return mem.setByte (ptr + i) (UInt8.ofNat cu.toNat)
        storeUtf8Loop src worstCaseSize ptr (i + 1) rest
      else storeUtf8Tail cx src worstCaseSize ptr i

def storeStringToUtf8 (src : List UInt16) (worstCaseSize : Nat) : Cx World (Nat × Nat) := do
  assert_ (src.length ≤ REALLOC_I32_MAX) "internal assertion failed"
  let ptr ← cx.allocate 1 src.length
  checkBlock ptr 1 src.length
  storeUtf8Loop cx src worstCaseSize ptr 0 src

def storeUtf16ToUtf8 (src : List UInt16) : Cx World (Nat × Nat) :=
  storeStringToUtf8 cx src (src.length * 3)

/-- Widening in place: the bytes below `j` become code units, the last one first. -/
def widen (ptr : Nat) : Nat → MemInst → MemInst
  | 0, mem => mem
  | j + 1, mem =>
      widen ptr j ((mem.setByte (ptr + 2 * j) (mem.byte (ptr + j))).setByte (ptr + 2 * j + 1) 0)

/-- The tail of `storeStringToLatin1OrUtf16` at the first code unit above 0xFF. The well-formed
string has as many code units as the source. -/
def storeUtf16Tail (wf : List UInt16) (ptr dstByteLength : Nat) : Cx World (Nat × Nat) := do
  let worstCaseSize := 2 * wf.length
  assert_ (worstCaseSize ≤ REALLOC_I32_MAX) "internal assertion failed"
  let ptr ← cx.reallocate ptr wf.length 2 worstCaseSize
  checkBlock ptr 2 worstCaseSize
  modifyMemory fun mem => return widen ptr dstByteLength mem
  let encoded := encodeUtf16Le wf
  modifyMemory fun mem =>
    writeBytes mem (ptr + 2 * dstByteLength) (encoded.drop (2 * dstByteLength))
  let mem ← requireMemory
  let taggedCodeUnits := encoded.length / 2 ||| utf16Tag mem.ptrType
  if encoded.length < worstCaseSize then
    let ptr ← cx.reallocate ptr worstCaseSize 2 encoded.length
    checkBlock ptr 2 encoded.length
    return (ptr, taggedCodeUnits)
  else return (ptr, taggedCodeUnits)

/-- The loop of `storeStringToLatin1OrUtf16` after `dstByteLength` code units. -/
def storeLatin1Loop (wf : List UInt16) (ptr : Nat) :
    Nat → List UInt16 → Cx World (Nat × Nat)
  | dstByteLength, [] => do
      if dstByteLength < wf.length then
        let ptr ← cx.reallocate ptr wf.length 2 dstByteLength
        checkBlock ptr 2 dstByteLength
        return (ptr, dstByteLength)
      else return (ptr, dstByteLength)
  | dstByteLength, cu :: rest =>
      if cu.toNat < 2 ^ 8 then do
        modifyMemory fun mem => return mem.setByte (ptr + dstByteLength) (UInt8.ofNat cu.toNat)
        storeLatin1Loop wf ptr (dstByteLength + 1) rest
      else storeUtf16Tail cx wf ptr dstByteLength

def storeStringToLatin1OrUtf16 (src : List UInt16) : Cx World (Nat × Nat) := do
  let wf := Utf16.toWellFormed src
  assert_ (src.length ≤ REALLOC_I32_MAX) "internal assertion failed"
  let ptr ← cx.allocate 2 src.length
  checkBlock ptr 2 src.length
  storeLatin1Loop cx wf ptr 0 wf

def storeStringIntoRange (src : List UInt16) : Cx World (Nat × Nat) :=
  match cx.stringEncoding with
  | .utf8 => storeUtf16ToUtf8 cx src
  | .utf16 => storeStringCopyUtf16 cx src
  | .latin1Utf16 => storeStringToLatin1OrUtf16 cx src

def storeString (v : List UInt16) (ptr : Nat) : Cx World Unit := do
  let (start, taggedCodeUnits) ← storeStringIntoRange cx v
  modifyMemory fun mem => storeInt mem (sizedNumber mem.ptrSize start) ptr mem.ptrSize false
  modifyMemory fun mem =>
    storeInt mem (sizedNumber mem.ptrSize taggedCodeUnits) (ptr + mem.ptrSize) mem.ptrSize false

end Store

def convertI32ToChar (i : Nat) : Except Failure (List UInt16) := do
  trapIf (0x110000 ≤ i) "char out of range"
  trapIf (0xd800 ≤ i ∧ i ≤ 0xdfff) "char is a surrogate"
  return Utf16.encodeChar (Char.ofNat i)

/-- `codePointAt(0)`. -/
def codePointAtZero : List UInt16 → Option Nat
  | [] => none
  | [unit] => some unit.toNat
  | high :: low :: _ =>
      if Utf16.IsHighSurrogate high ∧ Utf16.IsLowSurrogate low then some (Utf16.codePoint high low)
      else some high.toNat

def charToI32 (c : List UInt16) : Except Failure Nat := do
  match codePointAtZero c with
  | none => throw (Failure.assertion "empty char")
  | some i =>
      assert_ (c.length = if 0xffff < i then 2 else 1) "char must be one code point"
      assert_ (i ≤ 0xd7ff ∨ (0xe000 ≤ i ∧ i ≤ 0x10ffff)) "char must be a Unicode scalar value"
      return i

end Polyengine.Cabi
