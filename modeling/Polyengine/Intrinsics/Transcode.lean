import Mathlib.Logic.Function.Basic
import Polyengine.Cabi.Strings

/-!
# String transcoders

The transcoders between the memories of two components. An adapter hands over ranges that it has checked
against the two memories, which may be one and the same.
-/

set_option autoImplicit false

namespace Polyengine.Intrinsics.Transcode

open Polyengine.Cabi Polyengine.Library

def UTF16_TAG : Nat := 0x80000000

/-- The memories of the components. -/
abbrev Memories := Nat → MemInst

/-- A transcoder that returns a value and leaves the memories changed, or fails. -/
abbrev Transcoder (Result : Type) := Memories → Except Failure (Result × Memories)

/-! ## Encoding helpers -/

/-- `decodeUtf8OrTrap`: the code units of the decoded string. -/
def decodeUtf8OrTrap (bytes : List UInt8) : Except Failure (List UInt16) :=
  match utf8Decode bytes with
  | some s => .ok s
  | none => .error (.trap "invalid utf8 encoding")

/-- `getUint16` of a view. -/
def getUint16 (bytes : List UInt8) (position : Nat) : Except Failure Nat :=
  match bytes[position]?, bytes[position + 1]? with
  | some low, some high => .ok (low.toNat + 256 * high.toNat)
  | _, _ => .error (.rangeError "offset is outside the bounds of the view")

/-- The generator of `decodeUtf16OrTrap` from unit `i`, with the units that are left: what it yields,
and the failure that it may end with. -/
def decodeUtf16From (bytes : List UInt8) (ptr : Nat) : Nat → Nat → List (Except Failure (Nat × Nat))
  | 0, _ => []
  | left + 1, i =>
      match getUint16 bytes (ptr + 2 * i) with
      | .error failure => [.error failure]
      | .ok u =>
          if u < 0xd800 ∨ 0xdfff < u then .ok (u, 1) :: decodeUtf16From bytes ptr left (i + 1)
          else
            match left with
            | 0 => [.error (.trap "invalid utf16 encoding")]
            | left + 1 =>
                if 0xdc00 ≤ u then [.error (.trap "invalid utf16 encoding")]
                else
                  match getUint16 bytes (ptr + 2 * (i + 1)) with
                  | .error failure => [.error failure]
                  | .ok lo =>
                      if lo < 0xdc00 ∨ 0xdfff < lo then [.error (.trap "invalid utf16 encoding")]
                      else
                        .ok (0x10000 + (u - 0xd800) <<< 10 + (lo - 0xdc00), 2) ::
                          decodeUtf16From bytes ptr left (i + 2)

def decodeUtf16OrTrap (bytes : List UInt8) (ptr units : Nat) : List (Except Failure (Nat × Nat)) :=
  decodeUtf16From bytes ptr units 0

def utf8Len (cp : Nat) : Nat :=
  if cp < 0x80 then 1 else if cp < 0x800 then 2 else if cp < 0x10000 then 3 else 4

/-- The element assignments of a sequence of bytes. -/
def assignBytes (dst : MemInst) (position : Nat) : List Nat → MemInst
  | [] => dst
  | byte :: rest => assignBytes (dst.setByte position (UInt8.ofNat byte)) (position + 1) rest

/-- `encodeUtf8At`, with the number of bytes written. -/
def encodeUtf8At (dst : MemInst) (position cp : Nat) : Nat × MemInst :=
  if cp < 0x80 then (1, assignBytes dst position [cp])
  else if cp < 0x800 then
    (2, assignBytes dst position [0xc0 ||| (cp >>> 6), 0x80 ||| (cp &&& 0x3f)])
  else if cp < 0x10000 then
    (3, assignBytes dst position
      [0xe0 ||| (cp >>> 12), 0x80 ||| ((cp >>> 6) &&& 0x3f), 0x80 ||| (cp &&& 0x3f)])
  else
    (4, assignBytes dst position
      [0xf0 ||| (cp >>> 18), 0x80 ||| ((cp >>> 12) &&& 0x3f), 0x80 ||| ((cp >>> 6) &&& 0x3f),
        0x80 ||| (cp &&& 0x3f)])

/-- `setUint16` of a view. -/
def setUint16 (dst : MemInst) (position value : Nat) : Except Failure MemInst :=
  dst.write position (LittleEndian.encode 2 value)

/-- `encodeUtf16At`, with the number of code units written. -/
def encodeUtf16At (dst : MemInst) (base position cp : Nat) : Except Failure (Nat × MemInst) :=
  if cp < 0x10000 then do return (1, ← setUint16 dst (base + 2 * position) cp)
  else do
    let c := cp - 0x10000
    let dst ← setUint16 dst (base + 2 * position) (0xd800 + (c >>> 10))
    return (2, ← setUint16 dst (base + 2 * (position + 1)) (0xdc00 + (c &&& 0x3ff)))

def utf8Latin1UpTo : List UInt8 → Nat
  | [] => 0
  | b :: rest =>
      if b < 0x80 then 1 + utf8Latin1UpTo rest
      else if b = 0xc2 ∨ b = 0xc3 then
        match rest with
        | next :: rest => if next < 0x80 ∨ 0xbf < next then 0 else 2 + utf8Latin1UpTo rest
        | [] => 0
      else 0

/-- `inflateLatin1Bytes`: the last byte is widened first. -/
def inflateLatin1Bytes (dst : MemInst) (dstPtr latin1Bytes : Nat) : MemInst :=
  widen dstPtr latin1Bytes dst

/-- `snapshot`, of a range inside the memory. -/
def snapshot (bytes : MemInst) (ptr len : Nat) : List UInt8 := bytes.bytesAt ptr len

def trapIfOverlap (fromMemory srcPtr srcLen toMemory dstPtr dstLen : Nat) : Except Failure Unit :=
  if fromMemory ≠ toMemory then .ok ()
  else trapIf (srcPtr < dstPtr + dstLen ∧ dstPtr < srcPtr + srcLen)
    "transcode src/dst regions overlap"

/-! ## The operations -/

section

variable (fromMemory toMemory : Nat)

/-- The loop over the code points of `utf16-to-utf8`. -/
def utf16ToUtf8Loop (dstPtr dstLen firstPass : Nat) :
    List (Except Failure (Nat × Nat)) → Nat → Nat → Nat → MemInst →
      Except Failure ((Nat × Nat) × MemInst)
  | [], _, srcRead, dstWritten, dst => .ok ((srcRead, dstWritten), dst)
  | .error failure :: _, _, _, _, _ => .error failure
  | .ok (cp, units) :: rest, consumed, srcRead, dstWritten, dst =>
      let remaining := dstLen - dstWritten
      if firstPass ≠ 0 ∧ 0x80 ≤ cp then .ok ((srcRead, dstWritten), dst)
      else if remaining < 4 ∧ remaining < utf8Len cp then .ok ((srcRead, dstWritten), dst)
      else
        let (written, dst) := encodeUtf8At dst (dstPtr + dstWritten) cp
        utf16ToUtf8Loop dstPtr dstLen firstPass rest (consumed + units) (consumed + units)
          (dstWritten + written) dst

def utf16ToUtf8 (srcPtr srcLen dstPtr dstLen firstPass : Nat) : Transcoder (Nat × Nat) :=
  fun memories => do
    let src := snapshot (memories fromMemory) srcPtr (2 * srcLen)
    let (counts, dst) ← utf16ToUtf8Loop dstPtr dstLen firstPass (decodeUtf16OrTrap src 0 srcLen) 0 0 0
      (memories toMemory)
    return (counts, Function.update memories toMemory dst)

/-- The loop over the bytes of `latin1-to-utf8`. -/
def latin1ToUtf8Loop (dstPtr dstLen : Nat) :
    List UInt8 → Nat → Nat → MemInst → (Nat × Nat) × MemInst
  | [], read, written, dst => ((read, written), dst)
  | b :: rest, read, written, dst =>
      let need := if b < 0x80 then 1 else 2
      if dstLen < written + need then ((read, written), dst)
      else
        let (count, dst) := encodeUtf8At dst (dstPtr + written) b.toNat
        latin1ToUtf8Loop dstPtr dstLen rest (read + 1) (written + count) dst

def latin1ToUtf8 (srcPtr srcLen dstPtr dstLen firstPass : Nat) : Transcoder (Nat × Nat) :=
  fun memories => do
    let src := snapshot (memories fromMemory) srcPtr srcLen
    let stop := if firstPass ≠ 0 then src.findIdx fun b => 0x80 ≤ b else srcLen
    let (counts, dst) := latin1ToUtf8Loop dstPtr dstLen (src.take stop) 0 0 (memories toMemory)
    return (counts, Function.update memories toMemory dst)

/-- Whether the code points are all below `0x100`, from what is known so far. -/
def allLatin1 : List (Except Failure (Nat × Nat)) → Bool → Except Failure Bool
  | [], all => .ok all
  | .error failure :: _, _ => .error failure
  | .ok (cp, _) :: rest, all => allLatin1 rest (if 0xff < cp then false else all)

/-- Compacting in place: the low byte of each unit, the first one first. -/
def compactInPlace (dstPtr : Nat) : Nat → Nat → MemInst → MemInst
  | 0, _, dst => dst
  | left + 1, i, dst =>
      compactInPlace dstPtr left (i + 1) (dst.setByte (dstPtr + i) (dst.byte (dstPtr + 2 * i)))

def utf16ToCompactProbablyUtf16 (srcPtr srcLen dstPtr : Nat) : Transcoder Nat :=
  fun memories => do
    let src := snapshot (memories fromMemory) srcPtr (2 * srcLen)
    let all ← allLatin1 (decodeUtf16OrTrap src 0 srcLen) true
    let dst ← (memories toMemory).write dstPtr src
    if all then
      return (srcLen, Function.update memories toMemory (compactInPlace dstPtr srcLen 0 dst))
    else return ((srcLen ||| UTF16_TAG) % 2 ^ 32, Function.update memories toMemory dst)

/-- The loop of `utf8-to-latin1` from byte `i`; a byte past the end counts as zero. -/
def utf8ToLatin1Loop (dstPtr read : Nat) : List UInt8 → Nat → Nat → MemInst → Nat × MemInst
  | [], _, written, dst => (written, dst)
  | b :: rest, i, written, dst =>
      if read ≤ i then (written, dst)
      else if b < 0x80 then
        utf8ToLatin1Loop dstPtr read rest (i + 1) (written + 1) (dst.setByte (dstPtr + written) b)
      else
        match rest with
        | [] => (written + 1, dst.setByte (dstPtr + written) ((b &&& 0x1f) <<< 6))
        | next :: rest =>
            utf8ToLatin1Loop dstPtr read rest (i + 2) (written + 1)
              (dst.setByte (dstPtr + written) (((b &&& 0x1f) <<< 6) ||| (next &&& 0x3f)))

def utf8ToLatin1 (srcPtr srcLen dstPtr : Nat) : Transcoder (Nat × Nat) :=
  fun memories => do
    let src := snapshot (memories fromMemory) srcPtr srcLen
    let read := utf8Latin1UpTo src
    let (written, dst) := utf8ToLatin1Loop dstPtr read src 0 0 (memories toMemory)
    return ((read, written), Function.update memories toMemory dst)

/-- The code units from unit `i` up to the first above `0xff`. -/
def latin1Units (src : List UInt8) : Nat → Nat → Except Failure (List Nat)
  | 0, _ => .ok []
  | left + 1, i => do
      let u ← getUint16 src (2 * i)
      if 0xff < u then return []
      else return u :: (← latin1Units src left (i + 1))

def utf16ToLatin1 (srcPtr srcLen dstPtr : Nat) : Transcoder (Nat × Nat) :=
  fun memories => do
    trapIfOverlap fromMemory srcPtr (2 * srcLen) toMemory dstPtr srcLen
    let out ← latin1Units (snapshot (memories fromMemory) srcPtr (2 * srcLen)) srcLen 0
    return ((out.length, out.length),
      Function.update memories toMemory (assignBytes (memories toMemory) dstPtr out))

/-- The writes of code units through a view. -/
def setUnits (dst : MemInst) (position : Nat) : List UInt16 → Except Failure MemInst
  | [] => .ok dst
  | unit :: rest => do setUnits (← setUint16 dst position unit.toNat) (position + 2) rest

def utf8ToCompactUtf16 (srcPtr srcLen dstPtr dstLen latin1Bytes : Nat) : Transcoder Nat :=
  fun memories => do
    let s ← decodeUtf8OrTrap (snapshot (memories fromMemory) srcPtr srcLen)
    let dst := inflateLatin1Bytes (memories toMemory) dstPtr latin1Bytes
    let capacity := (dstLen : Int) - latin1Bytes
    trapIf (capacity < s.length) "utf8-to-compact-utf16: destination capacity exceeded"
    let dst ← setUnits dst (dstPtr + 2 * latin1Bytes) s
    return (s.length + latin1Bytes, Function.update memories toMemory dst)

/-- The loop over the code points of `utf16-to-compact-utf16`. -/
def utf16ToCompactUtf16Loop (dstPtr : Nat) :
    List (Except Failure (Nat × Nat)) → Nat → MemInst → Except Failure MemInst
  | [], _, dst => .ok dst
  | .error failure :: _, _, _ => .error failure
  | .ok (cp, _) :: rest, position, dst => do
      let (units, dst) ← encodeUtf16At dst dstPtr position cp
      utf16ToCompactUtf16Loop dstPtr rest (position + units) dst

def utf16ToCompactUtf16 (srcPtr srcLen dstPtr _dstLen latin1Bytes : Nat) : Transcoder Nat :=
  fun memories => do
    let src := snapshot (memories fromMemory) srcPtr (2 * srcLen)
    let dst := inflateLatin1Bytes (memories toMemory) dstPtr latin1Bytes
    let dst ← utf16ToCompactUtf16Loop dstPtr (decodeUtf16OrTrap src 0 srcLen) latin1Bytes dst
    return (srcLen + latin1Bytes, Function.update memories toMemory dst)

end

section

attribute [local simp] decodeUtf16From encodeUtf8At encodeUtf16At utf8Latin1UpTo compactInPlace
  utf8ToLatin1Loop latin1Units setUnits utf16ToUtf8Loop latin1ToUtf8Loop allLatin1
  utf16ToCompactUtf16Loop

end

end Polyengine.Intrinsics.Transcode
