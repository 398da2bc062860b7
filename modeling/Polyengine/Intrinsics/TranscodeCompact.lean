import Polyengine.Intrinsics.TranscodeUtf8

/-!
# Transcoding to compact strings

A string is left as Latin-1 where all of it fits, and as UTF-16 otherwise, whether it was scanned twice
or the prefix already written was widened in place.
-/

set_option autoImplicit false

namespace Polyengine.Cabi.MemInst

variable {mem mem' : MemInst} {ptr : Nat} {bytes : List UInt8}

theorem eq_setBytes (length : mem'.length = mem.length) (addrType : mem'.addrType = mem.addrType)
    (outside : ∀ a, ¬(ptr ≤ a ∧ a < ptr + bytes.length) → mem'.byte a = mem.byte a)
    (contents : mem'.bytesAt ptr bytes.length = bytes) : mem' = mem.setBytes ptr bytes := by
  have same : mem'.byte = (mem.setBytes ptr bytes).byte := by
    funext a
    by_cases within : ptr ≤ a ∧ a < ptr + bytes.length
    · obtain ⟨i, rfl⟩ := Nat.exists_eq_add_of_le within.1
      have inside : i < bytes.length := by omega
      rw [setBytes_inside _ _ _ inside]
      have listed : i < (mem'.bytesAt ptr bytes.length).length := by
        rw [length_bytesAt]
        exact inside
      rw [← getElem_bytesAt mem' ptr bytes.length i listed]
      simp only [contents]
    · rw [outside a within, setBytes_outside _ _ _ within]
  obtain ⟨_, _, _⟩ := mem'
  cases length
  cases addrType
  simp only [setBytes] at same ⊢
  rw [same]

end Polyengine.Cabi.MemInst

namespace Polyengine.Intrinsics.Transcode

open Polyengine.Cabi Polyengine.Library

/-! ## Latin-1 -/

/-- The code unit of a Latin-1 byte. -/
def latin1Unit (b : UInt8) : UInt16 := UInt16.ofNat b.toNat

theorem latin1Unit_toNat (b : UInt8) : (latin1Unit b).toNat = b.toNat := by
  have bound : b.toNat < 256 := b.toNat_lt
  rw [latin1Unit, UInt16.toNat_ofNat']
  omega

theorem encode_latin1 (low : List UInt8) :
    Utf16.encode (low.map latin1Char) = low.map latin1Unit := by
  induction low with
  | nil => rfl
  | cons b rest ih =>
      have bound : b.toNat < 256 := b.toNat_lt
      have small : (latin1Char b).toNat < 0x10000 := by
        rw [latin1Char_toNat]
        omega
      have one : Utf16.encodeChar (latin1Char b) = [latin1Unit b] := by
        rw [Utf16.encodeChar_single _ small, latin1Char_toNat]
        rfl
      rw [List.map_cons, Utf16.encode, List.flatMap_cons, ← Utf16.encode, ih, one]
      rfl

theorem narrow_latin1 (low : List UInt8) : narrow (low.map latin1Unit) = low := by
  rw [narrow, List.map_map]
  conv_rhs => rw [← List.map_id low]
  apply List.map_congr_left
  intro b _
  rw [Function.comp_apply, latin1Unit_toNat, UInt8.ofNat_toNat, id]

theorem widened_latin1 (low : List UInt8) :
    low.flatMap (fun byte => [byte, 0]) = unitsToBytes (low.map latin1Unit) := by
  have small : ∀ unit ∈ low.map latin1Unit, unit.toNat < 2 ^ 8 := by
    intro unit member
    obtain ⟨b, _, rfl⟩ := List.mem_map.mp member
    rw [latin1Unit_toNat]
    exact b.toNat_lt
  have widened := widened_narrow small
  rwa [narrow_latin1] at widened

theorem split_latin1 (chars : List Char) :
    ∃ (low : List UInt8) (post : List Char), chars = low.map latin1Char ++ post ∧ ∀ c ∈ post.head?, 0xff < c.toNat := by
  induction chars with
  | nil => exact ⟨[], [], rfl, nofun⟩
  | cons c rest ih =>
      by_cases large : 0xff < c.toNat
      · refine ⟨[], c :: rest, rfl, fun other isHead => ?_⟩
        cases isHead
        exact large
      · obtain ⟨low, post, rfl, head⟩ := ih
        have byte : latin1Char (UInt8.ofNat c.toNat) = c := by
          have value : (UInt8.ofNat c.toNat).toNat = c.toNat := by
            rw [UInt8.toNat_ofNat']
            omega
          rw [latin1Char, value, Char.ofNat_toNat]
        exact ⟨UInt8.ofNat c.toNat :: low, post, by rw [List.map_cons, byte, List.cons_append], head⟩

theorem split_units (units : List UInt16) :
    ∃ (low : List UInt8) (rest : List UInt16), units = low.map latin1Unit ++ rest ∧
      ∀ u ∈ rest.head?, 0xff < u.toNat := by
  induction units with
  | nil => exact ⟨[], [], rfl, nofun⟩
  | cons u rest ih =>
      by_cases large : 0xff < u.toNat
      · refine ⟨[], u :: rest, rfl, fun other isHead => ?_⟩
        cases isHead
        exact large
      · obtain ⟨low, later, rfl, head⟩ := ih
        have byte : latin1Unit (UInt8.ofNat u.toNat) = u := by
          have value : (UInt8.ofNat u.toNat).toNat = u.toNat := by
            rw [UInt8.toNat_ofNat']
            omega
          rw [latin1Unit, value, UInt16.ofNat_toNat]
        exact ⟨UInt8.ofNat u.toNat :: low, later, by rw [List.map_cons, byte, List.cons_append], head⟩

/-! ## The Latin-1 prefix of UTF-8 -/

section

variable {b next : UInt8} {rest : List UInt8}

theorem utf8Latin1UpTo_ascii (ascii : b < 0x80) :
    utf8Latin1UpTo (b :: rest) = 1 + utf8Latin1UpTo rest := by
  rw [utf8Latin1UpTo.eq_def]
  simp only [if_pos ascii]

theorem utf8Latin1UpTo_pair (large : ¬b < 0x80) (isLead : b = 0xc2 ∨ b = 0xc3) :
    utf8Latin1UpTo (b :: next :: rest) =
      if next < 0x80 ∨ 0xbf < next then 0 else 2 + utf8Latin1UpTo rest := by
  rw [utf8Latin1UpTo.eq_def]
  simp only [if_neg large, if_pos isLead]

theorem utf8Latin1UpTo_other (large : ¬b < 0x80) (other : ¬(b = 0xc2 ∨ b = 0xc3)) :
    utf8Latin1UpTo (b :: rest) = 0 := by
  rw [utf8Latin1UpTo.eq_def]
  simp only [if_neg large, if_neg other]

end

/-- What the encoding of a Latin-1 byte is, and what the two bytes of a pair decode to. -/
theorem latin1_table : ∀ x : UInt8,
    (x < 0x80 → String.utf8EncodeChar (latin1Char x) = [x]) ∧
      (¬x < 0x80 →
        String.utf8EncodeChar (latin1Char x) =
            [(0xc0 : UInt8) ||| (x >>> 6), (0x80 : UInt8) ||| (x &&& 0x3f)] ∧
          ¬((0xc0 : UInt8) ||| (x >>> 6)) < 0x80 ∧
          (((0xc0 : UInt8) ||| (x >>> 6)) = 0xc2 ∨ ((0xc0 : UInt8) ||| (x >>> 6)) = 0xc3) ∧
          ¬(((0x80 : UInt8) ||| (x &&& 0x3f)) < 0x80 ∨ 0xbf < ((0x80 : UInt8) ||| (x &&& 0x3f))) ∧
          ((((0xc0 : UInt8) ||| (x >>> 6)) &&& 0x1f) <<< 6) |||
            (((0x80 : UInt8) ||| (x &&& 0x3f)) &&& 0x3f) = x) ∧
      (¬(x < 0x80 ∨ 0xbf < x) →
        String.utf8EncodeChar (latin1Char ((((0xc2 : UInt8) &&& 0x1f) <<< 6) ||| (x &&& 0x3f))) =
            [0xc2, x] ∧
          String.utf8EncodeChar (latin1Char ((((0xc3 : UInt8) &&& 0x1f) <<< 6) ||| (x &&& 0x3f))) =
            [0xc3, x]) :=
  forall_byte (by decide +kernel)

theorem latin1_pair (x : UInt8) (large : ¬x < 0x80) :
    ∃ b next, String.utf8EncodeChar (latin1Char x) = [b, next] ∧ ¬b < 0x80 ∧ (b = 0xc2 ∨ b = 0xc3) ∧
      ¬(next < 0x80 ∨ 0xbf < next) ∧ ((b &&& 0x1f) <<< 6) ||| (next &&& 0x3f) = x :=
  ⟨_, _, (latin1_table x).2.1 large⟩

theorem latin1_ascii (x : UInt8) : x < 0x80 → String.utf8EncodeChar (latin1Char x) = [x] :=
  (latin1_table x).1

theorem latin1_of_pair : ∀ b next : UInt8, (b = 0xc2 ∨ b = 0xc3) → ¬(next < 0x80 ∨ 0xbf < next) →
    String.utf8EncodeChar (latin1Char (((b &&& 0x1f) <<< 6) ||| (next &&& 0x3f))) = [b, next] := by
  rintro b next (rfl | rfl) continues
  · exact ((latin1_table next).2.2 continues).1
  · exact ((latin1_table next).2.2 continues).2

theorem utf8Latin1UpTo_append (low rest : List UInt8) :
    utf8Latin1UpTo (utf8 (low.map latin1Char) ++ rest) =
      (utf8 (low.map latin1Char)).length + utf8Latin1UpTo rest := by
  induction low with
  | nil => exact (Nat.zero_add _).symm
  | cons x later ih =>
      rw [List.map_cons, utf8_cons, List.append_assoc, List.length_append]
      by_cases ascii : x < 0x80
      · rw [latin1_ascii x ascii, List.singleton_append, utf8Latin1UpTo_ascii ascii, ih,
          List.length_singleton, Nat.add_assoc]
      · obtain ⟨b, next, encoded, large, isLead, continues, _⟩ := latin1_pair x ascii
        rw [encoded, List.cons_append, List.cons_append, List.nil_append,
          utf8Latin1UpTo_pair large isLead, if_neg continues, ih, ← Nat.add_assoc]
        rfl

theorem utf8Latin1UpTo_above {c : Char} (large : 0xff < c.toNat) (rest : List UInt8) :
    utf8Latin1UpTo (String.utf8EncodeChar c ++ rest) = 0 := by
  have stops : ∀ (lead : Nat) (more : List UInt8), 0xc4 ≤ lead → lead < 0x100 →
      utf8Latin1UpTo (UInt8.ofNat lead :: more) = 0 := by
    intro lead more low high
    have value : (UInt8.ofNat lead).toNat = lead := by
      rw [UInt8.toNat_ofNat']
      exact Nat.mod_eq_of_lt high
    have notAscii : ¬UInt8.ofNat lead < 0x80 := by
      rw [UInt8.lt_iff_toNat_lt, value]
      change ¬lead < 128
      omega
    have notLead : ¬(UInt8.ofNat lead = 0xc2 ∨ UInt8.ofNat lead = 0xc3) := by
      rintro (same | same)
      · have number := congrArg UInt8.toNat same
        rw [value] at number
        exact absurd number (by change ¬lead = 194; omega)
      · have number := congrArg UInt8.toNat same
        rw [value] at number
        exact absurd number (by change ¬lead = 195; omega)
    exact utf8Latin1UpTo_other notAscii notLead
  have value : c.val.toNat = c.toNat := rfl
  have valid := Utf16.toNat_valid c
  simp only [String.utf8EncodeChar, value]
  split
  · omega
  · split
    · exact stops _ _ (by omega) (by omega)
    · split
      · exact stops _ _ (by omega) (by omega)
      · exact stops _ _ (by omega) (by omega)

theorem exists_latin1 (bytes : List UInt8) :
    ∃ (low rest : List UInt8), bytes = utf8 (low.map latin1Char) ++ rest ∧
      utf8Latin1UpTo rest = 0 := by
  fun_induction utf8Latin1UpTo bytes with
  | case1 => exact ⟨[], [], rfl, rfl⟩
  | case2 b rest ascii ih =>
      obtain ⟨low, later, rfl, stopped⟩ := ih
      refine ⟨b :: low, later, ?_, stopped⟩
      rw [List.map_cons, utf8_cons, latin1_ascii b ascii]
      rfl
  | case3 b large isLead next rest lone =>
      refine ⟨[], _, rfl, ?_⟩
      rw [utf8Latin1UpTo_pair large isLead, if_pos lone]
  | case4 b large isLead next rest continues ih =>
      obtain ⟨low, later, rfl, stopped⟩ := ih
      refine ⟨(((b &&& 0x1f) <<< 6) ||| (next &&& 0x3f)) :: low, later, ?_, stopped⟩
      rw [List.map_cons, utf8_cons, latin1_of_pair b next isLead continues]
      rfl
  | case5 b large isLead =>
      refine ⟨[], _, rfl, ?_⟩
      rw [utf8Latin1UpTo.eq_def]
      simp only [if_neg large, if_pos isLead]
  | case6 b rest large other =>
      refine ⟨[], _, rfl, ?_⟩
      exact utf8Latin1UpTo_other large other

section

variable {dstPtr read i written : Nat} {dst : MemInst} {b next : UInt8} {rest : List UInt8}

theorem utf8ToLatin1Loop_done (done : read ≤ i) (bytes : List UInt8) :
    utf8ToLatin1Loop dstPtr read bytes i written dst = (written, dst) := by
  rw [utf8ToLatin1Loop.eq_def]
  cases bytes with
  | nil => rfl
  | cons b rest => exact if_pos done

theorem utf8ToLatin1Loop_ascii (more : ¬read ≤ i) (ascii : b < 0x80) :
    utf8ToLatin1Loop dstPtr read (b :: rest) i written dst =
      utf8ToLatin1Loop dstPtr read rest (i + 1) (written + 1) (dst.setByte (dstPtr + written) b) := by
  rw [utf8ToLatin1Loop.eq_def]
  simp only [if_neg more, if_pos ascii]

theorem utf8ToLatin1Loop_pair (more : ¬read ≤ i) (large : ¬b < 0x80) :
    utf8ToLatin1Loop dstPtr read (b :: next :: rest) i written dst =
      utf8ToLatin1Loop dstPtr read rest (i + 2) (written + 1)
        (dst.setByte (dstPtr + written) (((b &&& 0x1f) <<< 6) ||| (next &&& 0x3f))) := by
  rw [utf8ToLatin1Loop.eq_def]
  simp only [if_neg more, if_neg large]

end

theorem utf8ToLatin1Loop_eq {dstPtr : Nat} (low rest : List UInt8) {i written : Nat} {dst : MemInst}
    (inside : dstPtr + written + low.length ≤ dst.length) :
    utf8ToLatin1Loop dstPtr (i + (utf8 (low.map latin1Char)).length)
        (utf8 (low.map latin1Char) ++ rest) i written dst =
      (written + low.length, dst.setBytes (dstPtr + written) low) := by
  induction low generalizing i written dst with
  | nil =>
      rw [dst.setBytes_nil]
      exact utf8ToLatin1Loop_done (Nat.le_refl _) _
  | cons x later ih =>
      rw [List.length_cons] at inside
      have stored : dst.setByte (dstPtr + written) x = dst.setBytes (dstPtr + written) [x] := by
        rw [MemInst.setByte, if_pos (by omega)]
      have joined := dst.setBytes_append (dstPtr + written) [x] later
      rw [List.length_singleton] at joined
      have remaining : dstPtr + (written + 1) + later.length ≤
          (dst.setBytes (dstPtr + written) [x]).length := by
        rw [MemInst.setBytes_length]
        omega
      rw [List.map_cons, utf8_cons, List.append_assoc, List.length_append]
      by_cases ascii : x < 0x80
      · have next := @ih (i + 1) (written + 1) _ remaining
        rw [latin1_ascii x ascii, List.singleton_append, List.length_singleton,
          utf8ToLatin1Loop_ascii (by omega) ascii, stored, ← Nat.add_assoc, next, List.length_cons,
          ← Nat.add_assoc dstPtr, joined, Nat.add_assoc, Nat.add_comm 1]
        rfl
      · obtain ⟨b, second, encoded, large, _, _, same⟩ := latin1_pair x ascii
        have next := @ih (i + 2) (written + 1) _ remaining
        have two : [b, second].length = 2 := rfl
        rw [encoded, two, List.cons_append, List.cons_append, List.nil_append,
          utf8ToLatin1Loop_pair (by omega) large, same, stored, ← Nat.add_assoc, next,
          List.length_cons, ← Nat.add_assoc dstPtr, joined, Nat.add_assoc, Nat.add_comm 1]
        rfl

section

variable {memories : Memories} {fromMemory toMemory srcPtr dstPtr : Nat}

theorem utf8ToLatin1_eq {low rest : List UInt8}
    (source : Holds (memories fromMemory) srcPtr (utf8 (low.map latin1Char) ++ rest))
    (stopped : utf8Latin1UpTo rest = 0) (inside : dstPtr + low.length ≤ (memories toMemory).length) :
    utf8ToLatin1 fromMemory toMemory srcPtr (utf8 (low.map latin1Char) ++ rest).length dstPtr
        memories =
      .ok (((utf8 (low.map latin1Char)).length, low.length), wrote memories toMemory dstPtr low) := by
  have contents : snapshot (memories fromMemory) srcPtr (utf8 (low.map latin1Char) ++ rest).length =
      utf8 (low.map latin1Char) ++ rest := source.2
  have looped := @utf8ToLatin1Loop_eq dstPtr low rest 0 0 (memories toMemory) inside
  rw [Nat.zero_add, Nat.zero_add, Nat.add_zero] at looped
  simp only [utf8ToLatin1, contents, utf8Latin1UpTo_append, stopped, Nat.add_zero, looped]
  rfl

end

/-! ## The Latin-1 prefix of UTF-16 -/

theorem latin1Units_eq (low : List UInt8) {rest : List UInt16}
    (above : ∀ u ∈ rest.head?, 0xff < u.toNat) {leading : List UInt8} {i : Nat}
    (behind : leading.length = 2 * i) :
    latin1Units (leading ++ unitsToBytes (low.map latin1Unit ++ rest))
      (low.map latin1Unit ++ rest).length i = .ok (low.map UInt8.toNat) := by
  induction low generalizing leading i with
  | nil =>
      cases rest with
      | nil => rfl
      | cons u rest =>
          have large : 0xff < u.toNat := above u rfl
          rw [List.map_nil, List.nil_append, List.length_cons, latin1Units, ← behind,
            getUint16_append]
          simp only [bind, Except.bind, if_pos large]
          rfl
  | cons b later ih =>
      have bound : b.toNat < 256 := b.toNat_lt
      have small : ¬0xff < (latin1Unit b).toNat := by
        rw [latin1Unit_toNat]
        omega
      have further : leading ++ unitsToBytes (latin1Unit b :: (later.map latin1Unit ++ rest)) =
          leading ++ unitsToBytes [latin1Unit b] ++ unitsToBytes (later.map latin1Unit ++ rest) := by
        rw [List.append_assoc, ← unitsToBytes_append]
        rfl
      have longer : (leading ++ unitsToBytes [latin1Unit b]).length = 2 * (i + 1) := by
        rw [List.length_append, length_unitsToBytes, behind, List.length_singleton]
        omega
      have next := ih longer
      rw [← further] at next
      rw [List.map_cons, List.cons_append, List.length_cons, latin1Units, ← behind, getUint16_append]
      simp only [bind, Except.bind, if_neg small, next]
      rw [latin1Unit_toNat]
      rfl

section

variable {memories : Memories} {fromMemory toMemory srcPtr dstPtr : Nat}

theorem utf16ToLatin1_eq {low : List UInt8} {rest : List UInt16}
    (source : Holds (memories fromMemory) srcPtr (unitsToBytes (low.map latin1Unit ++ rest)))
    (above : ∀ u ∈ rest.head?, 0xff < u.toNat)
    (separate : Separate fromMemory srcPtr (unitsToBytes (low.map latin1Unit ++ rest)).length toMemory
      dstPtr (low.map latin1Unit ++ rest).length)
    (inside : dstPtr + low.length ≤ (memories toMemory).length) :
    utf16ToLatin1 fromMemory toMemory srcPtr (low.map latin1Unit ++ rest).length dstPtr memories =
      .ok ((low.length, low.length), wrote memories toMemory dstPtr low) := by
  have contents : snapshot (memories fromMemory) srcPtr
      (2 * (low.map latin1Unit ++ rest).length) = unitsToBytes (low.map latin1Unit ++ rest) := by
    have bytes := source.2
    rwa [length_unitsToBytes] at bytes
  have apart : trapIfOverlap fromMemory srcPtr (2 * (low.map latin1Unit ++ rest).length) toMemory
      dstPtr (low.map latin1Unit ++ rest).length = .ok () := by
    rw [length_unitsToBytes] at separate
    unfold trapIfOverlap
    obtain different | before | after := separate
    · exact if_pos different
    · split
      · rfl
      · rw [trapIf, if_neg (by omega)]
        rfl
    · split
      · rfl
      · rw [trapIf, if_neg (by omega)]
        rfl
  have units := @latin1Units_eq low rest above [] 0 rfl
  have bytes : (low.map UInt8.toNat).map UInt8.ofNat = low := by
    rw [List.map_map]
    conv_rhs => rw [← List.map_id low]
    apply List.map_congr_left
    intro b _
    rw [Function.comp_apply, UInt8.ofNat_toNat, id]
  have fits : dstPtr + (low.map UInt8.toNat).length ≤ (memories toMemory).length := by
    rw [List.length_map]
    exact inside
  rw [List.nil_append] at units
  simp only [utf16ToLatin1, contents, apart, units, bind, Except.bind, assignBytes_eq fits, bytes,
    List.length_map]
  rfl

end

/-! ## Widening, and the units that follow -/

theorem inflateLatin1Bytes_eq {dst : MemInst} {dstPtr : Nat} (low : List UInt8)
    (inside : dstPtr + 2 * low.length ≤ dst.length) :
    inflateLatin1Bytes (dst.setBytes dstPtr low) dstPtr low.length =
      dst.setBytes dstPtr (unitsToBytes (low.map latin1Unit)) := by
  obtain ⟨length, addrType, outside, contents⟩ :=
    @widen_spec dstPtr low (dst.setBytes dstPtr low) (by rw [MemInst.setBytes_length]; exact inside)
      (dst.bytesAt_setBytes dstPtr low)
  have size : (unitsToBytes (low.map latin1Unit)).length = 2 * low.length := by
    rw [length_unitsToBytes, List.length_map]
  refine @MemInst.eq_setBytes dst _ dstPtr _ length addrType ?_ ?_
  · intro a without
    rw [size] at without
    have apart : a ∉ region dstPtr (2 * low.length) := without
    rw [inflateLatin1Bytes, outside a apart]
    apply MemInst.setBytes_outside
    omega
  · rw [size, inflateLatin1Bytes, contents, widened_latin1]

theorem setUint16_eq {dst : MemInst} {position value : Nat} (small : value < 0x10000)
    (inside : position + 2 ≤ dst.length) :
    setUint16 dst position value =
      .ok (dst.setBytes position (unitsToBytes [UInt16.ofNat value])) := by
  have same : (UInt16.ofNat value).toNat = value := by
    rw [UInt16.toNat_ofNat']
    exact Nat.mod_eq_of_lt small
  have encoded : LittleEndian.encode 2 value = unitsToBytes [UInt16.ofNat value] := by
    rw [unitsToBytes, List.flatMap_cons, same]
    rfl
  rw [setUint16, MemInst.write, LittleEndian.length_encode, if_pos inside, encoded]

theorem setUnits_eq (units : List UInt16) {dst : MemInst} {position : Nat}
    (inside : position + 2 * units.length ≤ dst.length) :
    setUnits dst position units = .ok (dst.setBytes position (unitsToBytes units)) := by
  induction units generalizing dst position with
  | nil =>
      have none := dst.setBytes_nil position
      rw [setUnits, unitsToBytes, List.flatMap_nil, none]
  | cons unit rest ih =>
      rw [List.length_cons] at inside
      have first := @setUint16_eq dst position unit.toNat unit.toNat_lt (by omega)
      rw [UInt16.ofNat_toNat] at first
      have joined := dst.setBytes_append position (unitsToBytes [unit]) (unitsToBytes rest)
      rw [length_unitsToBytes, ← unitsToBytes_append] at joined
      rw [setUnits, first]
      simp only [bind, Except.bind]
      rw [ih (by rw [MemInst.setBytes_length]; omega)]
      exact congrArg Except.ok joined

theorem encodeUtf16At_eq (c : Char) {dst : MemInst} {base position : Nat}
    (inside : base + 2 * (position + (Utf16.encodeChar c).length) ≤ dst.length) :
    encodeUtf16At dst base position c.toNat =
      .ok ((Utf16.encodeChar c).length,
        dst.setBytes (base + 2 * position) (unitsToBytes (Utf16.encodeChar c))) := by
  have valid := Utf16.toNat_valid c
  unfold encodeUtf16At
  by_cases small : c.toNat < 0x10000
  · have encoded := Utf16.encodeChar_single c small
    rw [encoded, List.length_singleton] at inside
    rw [if_pos small, setUint16_eq small (by omega), encoded]
    rfl
  · have encoded : Utf16.encodeChar c = [UInt16.ofNat (0xd800 + (c.toNat - 0x10000) / 0x400),
        UInt16.ofNat (0xdc00 + (c.toNat - 0x10000) % 0x400)] := if_neg small
    have two : (Utf16.encodeChar c).length = 2 := by
      rw [encoded]
      rfl
    have high : (c.toNat - 0x10000) >>> 10 = (c.toNat - 0x10000) / 0x400 :=
      Nat.shiftRight_eq_div_pow _ _
    have low : (c.toNat - 0x10000) &&& 0x3ff = (c.toNat - 0x10000) % 0x400 :=
      Nat.and_two_pow_sub_one_eq_mod _ 10
    rw [two] at inside
    have first := @setUint16_eq dst (base + 2 * position) (0xd800 + (c.toNat - 0x10000) / 0x400)
      (by omega) (by omega)
    have second := @setUint16_eq (dst.setBytes (base + 2 * position)
      (unitsToBytes [UInt16.ofNat (0xd800 + (c.toNat - 0x10000) / 0x400)])) (base + 2 * (position + 1))
      (0xdc00 + (c.toNat - 0x10000) % 0x400) (by omega) (by rw [MemInst.setBytes_length]; omega)
    have joined := dst.setBytes_append (base + 2 * position)
      (unitsToBytes [UInt16.ofNat (0xd800 + (c.toNat - 0x10000) / 0x400)])
      (unitsToBytes [UInt16.ofNat (0xdc00 + (c.toNat - 0x10000) % 0x400)])
    rw [length_unitsToBytes, ← unitsToBytes_append] at joined
    rw [if_neg small, two, encoded]
    simp only [high, low, first, second, bind, Except.bind]
    exact congrArg (fun mem => Except.ok (2, mem)) joined

theorem utf16ToCompactUtf16Loop_eq {dstPtr : Nat} (items : List (Option Char)) {position : Nat}
    {dst : MemInst}
    (inside : dstPtr + 2 * (position +
      (Utf16.encode (items.map fun c => c.getD Utf16.replacement)).length) ≤ dst.length) :
    utf16ToCompactUtf16Loop dstPtr (events items) position dst =
      match items.mapM id with
      | none => .error (.trap "invalid utf16 encoding")
      | some chars =>
          .ok (dst.setBytes (dstPtr + 2 * position) (unitsToBytes (Utf16.encode chars))) := by
  induction items generalizing position dst with
  | nil =>
      have none := dst.setBytes_nil (dstPtr + 2 * position)
      exact congrArg Except.ok none.symm
  | cons item rest ih =>
      cases item with
      | none => rfl
      | some c =>
          have whole : (Utf16.encode ((some c :: rest).map fun c => c.getD Utf16.replacement)).length =
              (Utf16.encodeChar c).length +
                (Utf16.encode (rest.map fun c => c.getD Utf16.replacement)).length := by
            rw [List.map_cons, Utf16.encode, List.flatMap_cons, List.length_append]
            rfl
          rw [whole] at inside
          have written := @encodeUtf16At_eq c dst dstPtr position (by omega)
          have later := @ih (position + (Utf16.encodeChar c).length)
            (dst.setBytes (dstPtr + 2 * position) (unitsToBytes (Utf16.encodeChar c)))
            (by rw [MemInst.setBytes_length]; omega)
          simp only [events, utf16ToCompactUtf16Loop, written, bind, Except.bind, later]
          rw [List.mapM_cons]
          simp only [id, bind, Option.bind]
          cases rest.mapM id with
          | none => rfl
          | some chars =>
              have joined := dst.setBytes_append (dstPtr + 2 * position)
                (unitsToBytes (Utf16.encodeChar c)) (unitsToBytes (Utf16.encode chars))
              rw [length_unitsToBytes, ← unitsToBytes_append, Nat.add_assoc, ← Nat.mul_add] at joined
              exact congrArg Except.ok joined

/-! ## Decoding -/

theorem utf8Decode_utf8 (chars : List Char) : utf8Decode (utf8 chars) = some (Utf16.encode chars) := by
  have bytes : (utf8 chars).toByteArray = chars.utf8Encode := rfl
  rw [utf8Decode, bytes, List.utf8Decode?_utf8Encode, Option.map_some]

theorem utf8_of_utf8Decode {bytes : List UInt8} {s : List UInt16}
    (decodes : utf8Decode bytes = some s) : ∃ chars, bytes = utf8 chars := by
  obtain ⟨array, found, _⟩ := Option.map_eq_some_iff.mp decodes
  have valid : bytes.toByteArray.IsValidUTF8 :=
    ByteArray.isSome_utf8Decode?_iff.mp (by rw [found]; rfl)
  obtain ⟨chars, same⟩ := valid
  refine ⟨chars, ?_⟩
  have lists := congrArg (fun array : ByteArray => array.data.toList) same
  simp only [List.utf8Encode, List.toList_data_toByteArray] at lists
  exact lists

theorem scan_latin1 (low : List UInt8) (rest : List UInt16) :
    Utf16.scan (low.map latin1Unit ++ rest) = (low.map latin1Char).map some ++ Utf16.scan rest := by
  induction low with
  | nil => rfl
  | cons b later ih =>
      have bound : b.toNat < 256 := b.toNat_lt
      have value := latin1Unit_toNat b
      have notHigh : ¬Utf16.IsHighSurrogate (latin1Unit b) := by
        unfold Utf16.IsHighSurrogate
        omega
      rw [List.map_cons, List.cons_append, Utf16.scan_cons notHigh, ih,
        Utf16.single_of_lt (by omega), value]
      rfl

theorem scanned_length (units : List UInt16) :
    (Utf16.encode ((Utf16.scan units).map fun c => c.getD Utf16.replacement)).length =
      units.length := Utf16.length_toWellFormed units

/-! ## Compacting in place -/

theorem compactInPlace_spec (dstPtr : Nat) (left : Nat) {i : Nat} {dst : MemInst}
    (inside : dstPtr + i + left ≤ dst.length) :
    (compactInPlace dstPtr left i dst).length = dst.length ∧
      ∀ a, (compactInPlace dstPtr left i dst).byte a =
        if dstPtr + i ≤ a ∧ a < dstPtr + i + left then dst.byte (dstPtr + 2 * (a - dstPtr))
        else dst.byte a := by
  induction left generalizing i dst with
  | zero =>
      refine ⟨rfl, fun a => ?_⟩
      rw [if_neg (by omega)]
      rfl
  | succ left ih =>
      rw [compactInPlace]
      generalize stored : dst.setByte (dstPtr + i) (dst.byte (dstPtr + 2 * i)) = next
      have length : next.length = dst.length := by rw [← stored, MemInst.setByte_length]
      have here : next.byte (dstPtr + i) = dst.byte (dstPtr + 2 * i) := by
        rw [← stored]
        exact dst.setByte_inside _ _ (by omega)
      have elsewhere : ∀ a, a ≠ dstPtr + i → next.byte a = dst.byte a := by
        intro a other
        rw [← stored]
        exact dst.setByte_outside _ _ other
      obtain ⟨sameLength, bytes⟩ := @ih (i + 1) next (by omega)
      refine ⟨sameLength.trans length, fun a => ?_⟩
      rw [bytes a]
      by_cases later : dstPtr + (i + 1) ≤ a ∧ a < dstPtr + (i + 1) + left
      · rw [if_pos later, if_pos (by omega), elsewhere _ (by omega)]
      · rw [if_neg later]
        by_cases same : a = dstPtr + i
        · have index : dstPtr + i - dstPtr = i := by omega
          rw [same, if_pos (by omega), here, index]
        · rw [if_neg (by omega), elsewhere a same]

theorem allLatin1_eq (items : List (Option Char)) (all : Bool) :
    allLatin1 (events items) all =
      match items.mapM id with
      | none => .error (.trap "invalid utf16 encoding")
      | some chars => .ok (all && chars.all fun c => c.toNat ≤ 0xff) := by
  induction items generalizing all with
  | nil => exact congrArg Except.ok (Bool.and_true all).symm
  | cons item rest ih =>
      cases item with
      | none => rfl
      | some c =>
          rw [events, allLatin1, ih, List.mapM_cons]
          simp only [id, bind, Option.bind]
          cases rest.mapM id with
          | none => rfl
          | some chars =>
              simp only [pure, List.all_cons]
              by_cases large : 0xff < c.toNat
              · have above : ¬c.toNat ≤ 0xff := by omega
                simp only [if_pos large, decide_eq_false above, Bool.false_and, Bool.and_false]
              · have small : c.toNat ≤ 0xff := by omega
                rw [if_neg large, decide_eq_true small, Bool.true_and]

/-! ## Both calls -/

/-- What a destination is left with: Latin-1 bytes or UTF-16 code units. -/
inductive Compacted where
  | latin1 (bytes : Nat)
  | utf16 (units : Nat)
  deriving Repr, DecidableEq

section

variable (fromMemory toMemory : Nat)

/-- `utf8-to-latin1`, and `utf8-to-compact-utf16` on what it leaves unread. -/
def utf8ToCompact (srcPtr srcLen dstPtr dstLen : Nat) : Transcoder Compacted := fun memories => do
  let ((read, written), memories) ← utf8ToLatin1 fromMemory toMemory srcPtr srcLen dstPtr memories
  if read = srcLen then return (.latin1 written, memories)
  else
    let (units, memories) ← utf8ToCompactUtf16 fromMemory toMemory (srcPtr + read) (srcLen - read)
      dstPtr dstLen written memories
    return (.utf16 units, memories)

/-- `utf16-to-latin1`, and `utf16-to-compact-utf16` on what it leaves unread. -/
def utf16ToCompact (srcPtr srcLen dstPtr dstLen : Nat) : Transcoder Compacted := fun memories => do
  let ((read, written), memories) ← utf16ToLatin1 fromMemory toMemory srcPtr srcLen dstPtr memories
  if read = srcLen then return (.latin1 written, memories)
  else
    let (units, memories) ← utf16ToCompactUtf16 fromMemory toMemory (srcPtr + 2 * read) (srcLen - read)
      dstPtr dstLen written memories
    return (.utf16 units, memories)

end

def latin1Bytes (chars : List Char) : List UInt8 := chars.map fun c => UInt8.ofNat c.toNat

/-- Every character is below `U+0100`. -/
def IsLatin1 (chars : List Char) : Prop := ∀ c ∈ chars, c.toNat ≤ 0xff

instance (chars : List Char) : Decidable (IsLatin1 chars) :=
  inferInstanceAs (Decidable (∀ c ∈ chars, _))

def compact (chars : List Char) : Compacted × List UInt8 :=
  if IsLatin1 chars then (.latin1 chars.length, latin1Bytes chars)
  else (.utf16 (Utf16.encode chars).length, unitsToBytes (Utf16.encode chars))

theorem latin1Bytes_map (low : List UInt8) : latin1Bytes (low.map latin1Char) = low := by
  rw [latin1Bytes, List.map_map]
  conv_rhs => rw [← List.map_id low]
  apply List.map_congr_left
  intro b _
  rw [Function.comp_apply, latin1Char_toNat, UInt8.ofNat_toNat, id]

theorem compact_latin1 (low : List UInt8) :
    compact (low.map latin1Char) = (.latin1 low.length, low) := by
  have isLatin1 : IsLatin1 (low.map latin1Char) := by
    intro c member
    obtain ⟨b, _, rfl⟩ := List.mem_map.mp member
    have bound : b.toNat < 256 := b.toNat_lt
    rw [latin1Char_toNat]
    omega
  rw [compact, if_pos isLatin1, List.length_map, latin1Bytes_map]

theorem compact_utf16 {low : List UInt8} {post : List Char} (above : ∀ c ∈ post.head?, 0xff < c.toNat)
    (there : post ≠ []) :
    compact (low.map latin1Char ++ post) =
      (.utf16 (low.length + (Utf16.encode post).length),
        unitsToBytes (low.map latin1Unit) ++ unitsToBytes (Utf16.encode post)) := by
  have notLatin1 : ¬IsLatin1 (low.map latin1Char ++ post) := by
    intro isLatin1
    obtain ⟨c, rest, rfl⟩ := List.exists_cons_of_ne_nil there
    have small := isLatin1 c (List.mem_append_right _ List.mem_cons_self)
    have large := above c rfl
    omega
  rw [compact, if_neg notLatin1, encode_append, encode_latin1, List.length_append, List.length_map,
    unitsToBytes_append]

theorem utf8Latin1UpTo_post {post : List Char} (above : ∀ c ∈ post.head?, 0xff < c.toNat) :
    utf8Latin1UpTo (utf8 post) = 0 := by
  cases post with
  | nil => rfl
  | cons c rest =>
      rw [utf8_cons]
      exact utf8Latin1UpTo_above (above c rfl) _

theorem encode_head_above {post : List Char} (above : ∀ c ∈ post.head?, 0xff < c.toNat) :
    ∀ u ∈ (Utf16.encode post).head?, 0xff < u.toNat := by
  cases post with
  | nil => exact nofun
  | cons c rest =>
      have large := above c rfl
      intro u isHead
      rw [Utf16.encode, List.flatMap_cons] at isHead
      by_cases small : c.toNat < 0x10000
      · rw [Utf16.encodeChar_single c small] at isHead
        cases isHead
        rw [UInt16.toNat_ofNat']
        omega
      · obtain ⟨high, low, encoded, isHigh, _⟩ := Utf16.encodeChar_pair c small
        rw [encoded] at isHead
        cases isHead
        unfold Utf16.IsHighSurrogate at isHigh
        omega

section

variable {memories : Memories} {fromMemory toMemory srcPtr dstPtr dstLen : Nat}

theorem update_wrote (bytes : List UInt8) (mem : MemInst) :
    Function.update (wrote memories toMemory dstPtr bytes) toMemory mem =
      Function.update memories toMemory mem := Function.update_idem _ _ _

theorem utf8ToCompactUtf16_eq {low : List UInt8} {post : List Char}
    (source : Holds (wrote memories toMemory dstPtr low fromMemory) srcPtr (utf8 post))
    (capacity : low.length + (Utf16.encode post).length ≤ dstLen)
    (inside : dstPtr + 2 * dstLen ≤ (memories toMemory).length) :
    utf8ToCompactUtf16 fromMemory toMemory srcPtr (utf8 post).length dstPtr dstLen low.length
        (wrote memories toMemory dstPtr low) =
      .ok ((Utf16.encode post).length + low.length,
        wrote memories toMemory dstPtr
          (unitsToBytes (low.map latin1Unit) ++ unitsToBytes (Utf16.encode post))) := by
  have contents : snapshot (wrote memories toMemory dstPtr low fromMemory) srcPtr
      (utf8 post).length = utf8 post := source.2
  have here : wrote memories toMemory dstPtr low toMemory =
      (memories toMemory).setBytes dstPtr low := Function.update_self _ _ _
  have widened := @inflateLatin1Bytes_eq (memories toMemory) dstPtr low (by omega)
  have room : ¬(dstLen : Int) - low.length < (Utf16.encode post).length := by omega
  have written := @setUnits_eq (Utf16.encode post)
    ((memories toMemory).setBytes dstPtr (unitsToBytes (low.map latin1Unit)))
    (dstPtr + 2 * low.length) (by rw [MemInst.setBytes_length]; omega)
  have joined := (memories toMemory).setBytes_append dstPtr (unitsToBytes (low.map latin1Unit))
    (unitsToBytes (Utf16.encode post))
  rw [length_unitsToBytes, List.length_map] at joined
  simp only [utf8ToCompactUtf16, contents, decodeUtf8OrTrap, utf8Decode_utf8, here, widened, trapIf,
    if_neg room, written, bind, Except.bind, pure, Except.pure, joined, update_wrote]
  rfl

theorem utf8ToCompactUtf16_illFormed {bytes : List UInt8} {latin1 : Nat}
    (source : Holds (memories fromMemory) srcPtr bytes) (illFormed : utf8Decode bytes = none) :
    utf8ToCompactUtf16 fromMemory toMemory srcPtr bytes.length dstPtr dstLen latin1 memories =
      .error (.trap "invalid utf8 encoding") := by
  have contents : snapshot (memories fromMemory) srcPtr bytes.length = bytes := source.2
  simp only [utf8ToCompactUtf16, contents, decodeUtf8OrTrap, illFormed, bind, Except.bind]

theorem utf16ToCompactUtf16_eq {low : List UInt8} {rest : List UInt16}
    (source : Holds (wrote memories toMemory dstPtr low fromMemory) srcPtr (unitsToBytes rest))
    (inside : dstPtr + 2 * (low.length + rest.length) ≤ (memories toMemory).length) :
    utf16ToCompactUtf16 fromMemory toMemory srcPtr rest.length dstPtr dstLen low.length
        (wrote memories toMemory dstPtr low) =
      match Utf16.decode? rest with
      | none => .error (.trap "invalid utf16 encoding")
      | some chars =>
          .ok (rest.length + low.length,
            wrote memories toMemory dstPtr
              (unitsToBytes (low.map latin1Unit) ++ unitsToBytes (Utf16.encode chars))) := by
  have contents : snapshot (wrote memories toMemory dstPtr low fromMemory) srcPtr
      (2 * rest.length) = unitsToBytes rest := by
    have bytes := source.2
    rwa [length_unitsToBytes] at bytes
  have here : wrote memories toMemory dstPtr low toMemory =
      (memories toMemory).setBytes dstPtr low := Function.update_self _ _ _
  have widened := @inflateLatin1Bytes_eq (memories toMemory) dstPtr low (by omega)
  have looped := @utf16ToCompactUtf16Loop_eq dstPtr (Utf16.scan rest) low.length
    ((memories toMemory).setBytes dstPtr (unitsToBytes (low.map latin1Unit)))
    (by rw [MemInst.setBytes_length, scanned_length]; exact inside)
  simp only [utf16ToCompactUtf16, contents, decodeUtf16OrTrap_eq, here, widened, looped, bind,
    Except.bind, Utf16.decode?]
  cases (Utf16.scan rest).mapM id with
  | none => rfl
  | some chars =>
      have joined := (memories toMemory).setBytes_append dstPtr (unitsToBytes (low.map latin1Unit))
        (unitsToBytes (Utf16.encode chars))
      rw [length_unitsToBytes, List.length_map] at joined
      simp only [pure, Except.pure, joined, update_wrote]
      rfl

theorem utf8ToCompact_eq {chars : List Char}
    (source : Holds (memories fromMemory) srcPtr (utf8 chars))
    (separate : Separate fromMemory srcPtr (utf8 chars).length toMemory dstPtr (2 * dstLen))
    (capacity : (utf8 chars).length ≤ dstLen)
    (inside : dstPtr + 2 * dstLen ≤ (memories toMemory).length) :
    utf8ToCompact fromMemory toMemory srcPtr (utf8 chars).length dstPtr dstLen memories =
      .ok ((compact chars).1, wrote memories toMemory dstPtr (compact chars).2) := by
  obtain ⟨low, post, rfl, above⟩ := split_latin1 chars
  have lowSize : low.length ≤ (utf8 (low.map latin1Char)).length := by
    have least := le_length_utf8Encode (Utf16.encode (low.map latin1Char))
    rw [encode_latin1, List.length_map, ← encode_latin1, utf8Encode, Utf16.scalars_encode] at least
    exact least
  have postSize : (Utf16.encode post).length ≤ (utf8 post).length := by
    have least := le_length_utf8Encode (Utf16.encode post)
    rwa [utf8Encode, Utf16.scalars_encode] at least
  rw [utf8_append] at source separate capacity ⊢
  rw [List.length_append] at capacity
  have first := @utf8ToLatin1_eq memories fromMemory toMemory srcPtr dstPtr low (utf8 post) source
    (utf8Latin1UpTo_post above) (by omega)
  simp only [utf8ToCompact, first, bind, Except.bind]
  by_cases none : post = []
  · subst none
    have whole : (utf8 (low.map latin1Char)).length =
        (utf8 (low.map latin1Char) ++ utf8 []).length := by
      rw [List.length_append]
      rfl
    rw [if_pos whole, List.append_nil, compact_latin1]
    rfl
  · have there : 0 < (utf8 post).length := by
      obtain ⟨c, rest, rfl⟩ := List.exists_cons_of_ne_nil none
      have positive := c.utf8Size_pos
      rw [utf8_cons, List.length_append, length_utf8EncodeChar]
      omega
    have part : ¬(utf8 (low.map latin1Char)).length =
        (utf8 (low.map latin1Char) ++ utf8 post).length := by
      rw [List.length_append]
      omega
    have left : (utf8 (low.map latin1Char) ++ utf8 post).length -
        (utf8 (low.map latin1Char)).length = (utf8 post).length := by
      rw [List.length_append, Nat.add_sub_cancel_left]
    have remaining := (@Holds.wrote _ _ _ _ _ _ _ low source separate (by omega)).part
    rw [if_neg part, left, utf8ToCompactUtf16_eq remaining (by omega) inside,
      compact_utf16 above none, Nat.add_comm]
    rfl

theorem utf8ToCompact_illFormed {bytes : List UInt8}
    (source : Holds (memories fromMemory) srcPtr bytes)
    (separate : Separate fromMemory srcPtr bytes.length toMemory dstPtr (2 * dstLen))
    (capacity : bytes.length ≤ dstLen) (inside : dstPtr + 2 * dstLen ≤ (memories toMemory).length)
    (illFormed : utf8Decode bytes = none) :
    utf8ToCompact fromMemory toMemory srcPtr bytes.length dstPtr dstLen memories =
      .error (.trap "invalid utf8 encoding") := by
  obtain ⟨low, rest, rfl, stopped⟩ := exists_latin1 bytes
  have lowSize : low.length ≤ (utf8 (low.map latin1Char)).length := by
    have least := le_length_utf8Encode (Utf16.encode (low.map latin1Char))
    rw [encode_latin1, List.length_map, ← encode_latin1, utf8Encode, Utf16.scalars_encode] at least
    exact least
  have restIll : utf8Decode rest = none := by
    cases decodes : utf8Decode rest with
    | none => rfl
    | some s =>
        obtain ⟨post, rfl⟩ := utf8_of_utf8Decode decodes
        rw [← utf8_append, utf8Decode_utf8] at illFormed
        cases illFormed
  have there : 0 < rest.length := by
    cases rest with
    | nil => cases restIll.symm.trans (utf8Decode_utf8 [])
    | cons b rest => exact Nat.succ_pos _
  rw [List.length_append] at capacity
  have part : ¬(utf8 (low.map latin1Char)).length = (utf8 (low.map latin1Char) ++ rest).length := by
    rw [List.length_append]
    omega
  have left : (utf8 (low.map latin1Char) ++ rest).length - (utf8 (low.map latin1Char)).length =
      rest.length := by
    rw [List.length_append, Nat.add_sub_cancel_left]
  have first := @utf8ToLatin1_eq memories fromMemory toMemory srcPtr dstPtr low rest source stopped
    (by omega)
  have remaining := (@Holds.wrote _ _ _ _ _ _ _ low source separate (by omega)).part
  simp only [utf8ToCompact, first, bind, Except.bind]
  rw [if_neg part, left, utf8ToCompactUtf16_illFormed remaining restIll]

theorem utf16ToCompact_split {low : List UInt8} {rest : List UInt16}
    (source : Holds (memories fromMemory) srcPtr (unitsToBytes (low.map latin1Unit ++ rest)))
    (separate : Separate fromMemory srcPtr (unitsToBytes (low.map latin1Unit ++ rest)).length toMemory
      dstPtr (2 * dstLen))
    (capacity : (low.map latin1Unit ++ rest).length ≤ dstLen)
    (inside : dstPtr + 2 * dstLen ≤ (memories toMemory).length)
    (above : ∀ u ∈ rest.head?, 0xff < u.toNat) :
    utf16ToCompact fromMemory toMemory srcPtr (low.map latin1Unit ++ rest).length dstPtr dstLen
        memories =
      if rest = [] then .ok (.latin1 low.length, wrote memories toMemory dstPtr low)
      else
        match Utf16.decode? rest with
        | none => .error (.trap "invalid utf16 encoding")
        | some chars =>
            .ok (.utf16 (rest.length + low.length),
              wrote memories toMemory dstPtr
                (unitsToBytes (low.map latin1Unit) ++ unitsToBytes (Utf16.encode chars))) := by
  have total : (low.map latin1Unit ++ rest).length = low.length + rest.length := by
    rw [List.length_append, List.length_map]
  have smaller : Separate fromMemory srcPtr (unitsToBytes (low.map latin1Unit ++ rest)).length toMemory
      dstPtr (low.map latin1Unit ++ rest).length := by
    obtain different | before | after := separate
    · exact .inl different
    · exact .inr (.inl before)
    · exact .inr (.inr (by omega))
  have first := utf16ToLatin1_eq source above smaller (by omega)
  simp only [utf16ToCompact, first, bind, Except.bind]
  by_cases none : rest = []
  · rw [if_pos none, if_pos (by rw [total, none]; rfl)]
    rfl
  · have there : 0 < rest.length := List.length_pos_of_ne_nil none
    have left : (low.map latin1Unit ++ rest).length - low.length = rest.length := by omega
    have moved := @Holds.wrote _ _ _ _ _ _ _ low source separate (by omega)
    rw [unitsToBytes_append] at moved
    have remaining := moved.part
    rw [length_unitsToBytes, List.length_map] at remaining
    rw [if_neg none, if_neg (by omega), left, utf16ToCompactUtf16_eq remaining (by omega)]
    cases Utf16.decode? rest with
    | none => rfl
    | some chars => rfl

theorem utf16ToCompact_eq {chars : List Char}
    (source : Holds (memories fromMemory) srcPtr (unitsToBytes (Utf16.encode chars)))
    (separate : Separate fromMemory srcPtr (unitsToBytes (Utf16.encode chars)).length toMemory dstPtr
      (2 * dstLen))
    (capacity : (Utf16.encode chars).length ≤ dstLen)
    (inside : dstPtr + 2 * dstLen ≤ (memories toMemory).length) :
    utf16ToCompact fromMemory toMemory srcPtr (Utf16.encode chars).length dstPtr dstLen memories =
      .ok ((compact chars).1, wrote memories toMemory dstPtr (compact chars).2) := by
  obtain ⟨low, post, rfl, above⟩ := split_latin1 chars
  rw [encode_append, encode_latin1] at source separate capacity ⊢
  rw [utf16ToCompact_split source separate capacity inside (encode_head_above above)]
  by_cases none : post = []
  · subst none
    have empty : Utf16.encode [] = [] := rfl
    rw [if_pos empty, List.append_nil, compact_latin1]
  · have there : Utf16.encode post ≠ [] := by
      obtain ⟨c, rest, rfl⟩ := List.exists_cons_of_ne_nil none
      have positive := Utf16.encodeChar_length_pos c
      intro empty
      rw [Utf16.encode, List.flatMap_cons, List.append_eq_nil_iff] at empty
      rw [empty.1] at positive
      exact Nat.lt_irrefl 0 positive
    rw [if_neg there, Utf16.decode?_encode, compact_utf16 above none, Nat.add_comm]

theorem mapM_append (chars : List Char) (items : List (Option Char)) :
    (chars.map some ++ items).mapM id = (items.mapM id).map (chars ++ ·) := by
  induction chars with
  | nil => exact Option.map_id'.symm
  | cons c rest ih =>
      rw [List.map_cons, List.cons_append, List.mapM_cons, ih]
      cases items.mapM id with
      | none => rfl
      | some found => rfl

theorem utf16ToCompact_illFormed {units : List UInt16}
    (source : Holds (memories fromMemory) srcPtr (unitsToBytes units))
    (separate : Separate fromMemory srcPtr (unitsToBytes units).length toMemory dstPtr (2 * dstLen))
    (capacity : units.length ≤ dstLen) (inside : dstPtr + 2 * dstLen ≤ (memories toMemory).length)
    (illFormed : Utf16.decode? units = none) :
    utf16ToCompact fromMemory toMemory srcPtr units.length dstPtr dstLen memories =
      .error (.trap "invalid utf16 encoding") := by
  obtain ⟨low, rest, rfl, above⟩ := split_units units
  have restIll : Utf16.decode? rest = none := by
    rw [Utf16.decode?, scan_latin1, mapM_append] at illFormed
    exact Option.map_eq_none_iff.mp illFormed
  have there : rest ≠ [] := by
    rintro rfl
    cases restIll
  rw [utf16ToCompact_split source separate capacity inside above, if_neg there, restIll]

/-! ## One call -/

theorem units_even (low : List UInt8) (j : Nat) :
    (unitsToBytes (low.map latin1Unit))[2 * j]? = low[j]? := by
  rw [← widened_latin1]
  induction low generalizing j with
  | nil => rfl
  | cons b rest ih =>
      cases j with
      | zero => rfl
      | succ j => exact ih j

theorem compactInPlace_holds {dst : MemInst} (low : List UInt8)
    (inside : dstPtr + 2 * low.length ≤ dst.length) :
    Holds (compactInPlace dstPtr low.length 0
        (dst.setBytes dstPtr (unitsToBytes (low.map latin1Unit)))) dstPtr low ∧
      ∀ a, ¬(dstPtr ≤ a ∧ a < dstPtr + 2 * low.length) →
        (compactInPlace dstPtr low.length 0
          (dst.setBytes dstPtr (unitsToBytes (low.map latin1Unit)))).byte a = dst.byte a := by
  have size : (unitsToBytes (low.map latin1Unit)).length = 2 * low.length := by
    rw [length_unitsToBytes, List.length_map]
  obtain ⟨length, bytes⟩ := @compactInPlace_spec dstPtr low.length 0
    (dst.setBytes dstPtr (unitsToBytes (low.map latin1Unit)))
    (by rw [MemInst.setBytes_length]; omega)
  refine ⟨⟨by rw [length, MemInst.setBytes_length]; omega, ?_⟩, fun a outside => ?_⟩
  · apply List.ext_getElem
    · exact MemInst.length_bytesAt _ _ _
    · intro j inBytes inLow
      have index : dstPtr + j - dstPtr = j := by omega
      have within : 2 * j < (unitsToBytes (low.map latin1Unit)).length := by omega
      have even := units_even low j
      rw [List.getElem?_eq_getElem within, List.getElem?_eq_getElem inLow] at even
      rw [MemInst.getElem_bytesAt, bytes, if_pos (by omega), index,
        MemInst.setBytes_inside _ _ _ within]
      exact Option.some.inj even
  · rw [bytes a, if_neg (by omega)]
    apply MemInst.setBytes_outside
    omega

theorem tagged_iff {count : Nat} (small : count < 2 ^ 31) :
    count &&& UTF16_TAG = 0 ∧ (count ||| UTF16_TAG) &&& UTF16_TAG ≠ 0 ∧
      (count ||| UTF16_TAG) % 2 ^ 32 = count ||| UTF16_TAG := by
  have tag : UTF16_TAG = 2 ^ 31 := rfl
  have clear : count.testBit 31 = false := Nat.testBit_lt_two_pow small
  have whole : count ||| UTF16_TAG < 2 ^ 32 := Nat.or_lt_two_pow (by omega) (by decide)
  refine ⟨?_, ?_, Nat.mod_eq_of_lt whole⟩
  · rw [tag, Nat.and_two_pow, clear]
    rfl
  · rw [tag, Nat.and_two_pow, Nat.testBit_or, clear, Nat.testBit_two_pow_self]
    decide

theorem all_iff (chars : List Char) :
    (chars.all fun c => decide (c.toNat ≤ 0xff)) = decide (IsLatin1 chars) := by
  rw [Bool.eq_iff_iff, List.all_eq_true, decide_eq_true_iff]
  simp only [decide_eq_true_iff]
  exact Iff.rfl

theorem utf16ToCompactProbablyUtf16_eq {units : List UInt16}
    (source : Holds (memories fromMemory) srcPtr (unitsToBytes units))
    (inside : dstPtr + 2 * units.length ≤ (memories toMemory).length) :
    utf16ToCompactProbablyUtf16 fromMemory toMemory srcPtr units.length dstPtr memories =
      match Utf16.decode? units with
      | none => .error (.trap "invalid utf16 encoding")
      | some chars =>
          if IsLatin1 chars then
            .ok (units.length, Function.update memories toMemory
              (compactInPlace dstPtr units.length 0
                ((memories toMemory).setBytes dstPtr (unitsToBytes units))))
          else
            .ok ((units.length ||| UTF16_TAG) % 2 ^ 32,
              wrote memories toMemory dstPtr (unitsToBytes units)) := by
  have contents : snapshot (memories fromMemory) srcPtr (2 * units.length) = unitsToBytes units := by
    have bytes := source.2
    rwa [length_unitsToBytes] at bytes
  have copied : (memories toMemory).write dstPtr (unitsToBytes units) =
      .ok ((memories toMemory).setBytes dstPtr (unitsToBytes units)) := by
    rw [MemInst.write, length_unitsToBytes, if_pos inside]
  simp only [utf16ToCompactProbablyUtf16, contents, decodeUtf16OrTrap_eq, allLatin1_eq, bind,
    Except.bind, Utf16.decode?]
  cases (Utf16.scan units).mapM id with
  | none => rfl
  | some chars =>
      simp only [copied, all_iff, Bool.true_and, decide_eq_true_iff]
      rfl

end

structure Compacts (fromMemory toMemory : Nat) : Prop where
  /-- Both calls over UTF-8 leave the compact string and return its count. -/
  utf8 : ∀ memories srcPtr dstPtr dstLen chars,
    Holds (memories fromMemory) srcPtr (utf8 chars) →
    Separate fromMemory srcPtr (utf8 chars).length toMemory dstPtr (2 * dstLen) →
    (utf8 chars).length ≤ dstLen → dstPtr + 2 * dstLen ≤ (memories toMemory).length →
    utf8ToCompact fromMemory toMemory srcPtr (utf8 chars).length dstPtr dstLen memories =
      .ok ((compact chars).1, wrote memories toMemory dstPtr (compact chars).2)
  utf16 : ∀ memories srcPtr dstPtr dstLen chars,
    Holds (memories fromMemory) srcPtr (unitsToBytes (Utf16.encode chars)) →
    Separate fromMemory srcPtr (unitsToBytes (Utf16.encode chars)).length toMemory dstPtr
      (2 * dstLen) →
    (Utf16.encode chars).length ≤ dstLen → dstPtr + 2 * dstLen ≤ (memories toMemory).length →
    utf16ToCompact fromMemory toMemory srcPtr (Utf16.encode chars).length dstPtr dstLen memories =
      .ok ((compact chars).1, wrote memories toMemory dstPtr (compact chars).2)
  /-- One call leaves the same bytes, and a count that is tagged exactly if they are UTF-16. -/
  probably : ∀ memories srcPtr dstPtr chars,
    Holds (memories fromMemory) srcPtr (unitsToBytes (Utf16.encode chars)) →
    dstPtr + 2 * (Utf16.encode chars).length ≤ (memories toMemory).length →
    (Utf16.encode chars).length < 2 ^ 31 →
    ∃ count next,
      utf16ToCompactProbablyUtf16 fromMemory toMemory srcPtr (Utf16.encode chars).length dstPtr
        memories = .ok (count, next) ∧
      (count = (Utf16.encode chars).length ∨ count = (Utf16.encode chars).length ||| UTF16_TAG) ∧
      (count &&& UTF16_TAG ≠ 0 ↔ ∃ c ∈ chars, 0xff < c.toNat) ∧
      Holds (next toMemory) dstPtr (compact chars).2 ∧
      (∀ a, ¬(dstPtr ≤ a ∧ a < dstPtr + 2 * (Utf16.encode chars).length) →
        (next toMemory).byte a = (memories toMemory).byte a) ∧
      ∀ other, other ≠ toMemory → next other = memories other
  /-- A source that does not decode traps, whatever of it was read before. -/
  utf8IllFormed : ∀ memories srcPtr dstPtr dstLen bytes,
    Holds (memories fromMemory) srcPtr bytes →
    Separate fromMemory srcPtr bytes.length toMemory dstPtr (2 * dstLen) →
    bytes.length ≤ dstLen → dstPtr + 2 * dstLen ≤ (memories toMemory).length →
    utf8Decode bytes = none →
    utf8ToCompact fromMemory toMemory srcPtr bytes.length dstPtr dstLen memories =
      .error (.trap "invalid utf8 encoding")
  utf16IllFormed : ∀ memories srcPtr dstPtr dstLen units,
    Holds (memories fromMemory) srcPtr (unitsToBytes units) →
    Separate fromMemory srcPtr (unitsToBytes units).length toMemory dstPtr (2 * dstLen) →
    units.length ≤ dstLen → dstPtr + 2 * dstLen ≤ (memories toMemory).length →
    Utf16.decode? units = none →
    utf16ToCompact fromMemory toMemory srcPtr units.length dstPtr dstLen memories =
      .error (.trap "invalid utf16 encoding")
  probablyIllFormed : ∀ memories srcPtr dstPtr units,
    Holds (memories fromMemory) srcPtr (unitsToBytes units) →
    dstPtr + 2 * units.length ≤ (memories toMemory).length → Utf16.decode? units = none →
    utf16ToCompactProbablyUtf16 fromMemory toMemory srcPtr units.length dstPtr memories =
      .error (.trap "invalid utf16 encoding")

/-- Compact transcoding is canonical and loses nothing. -/
theorem transcode_compacts (fromMemory toMemory : Nat) : Compacts fromMemory toMemory := by
  refine ⟨?_, ?_, ?_, ?_, ?_, ?_⟩
  · intro memories srcPtr dstPtr dstLen chars source separate capacity inside
    exact utf8ToCompact_eq source separate capacity inside
  · intro memories srcPtr dstPtr dstLen chars source separate capacity inside
    exact utf16ToCompact_eq source separate capacity inside
  · intro memories srcPtr dstPtr chars source inside small
    have called := utf16ToCompactProbablyUtf16_eq source inside
    obtain ⟨untagged, tagged, fits⟩ := tagged_iff small
    rw [Utf16.decode?_encode] at called
    by_cases isLatin1 : IsLatin1 chars
    · obtain ⟨low, post, rfl, above⟩ := split_latin1 chars
      have none : post = [] := by
        cases post with
        | nil => rfl
        | cons c rest =>
            have large := above c rfl
            have within := isLatin1 c (List.mem_append_right _ List.mem_cons_self)
            omega
      subst none
      rw [List.append_nil, encode_latin1] at *
      rw [List.length_map] at *
      simp only [if_pos isLatin1] at called
      obtain ⟨holds, outside⟩ := @compactInPlace_holds dstPtr (memories toMemory) low inside
      refine ⟨_, _, called, .inl rfl, ?_, ?_, ?_, ?_⟩
      · refine ⟨fun no => absurd untagged no, fun ⟨c, member, large⟩ => ?_⟩
        have within := isLatin1 c member
        omega
      · rw [Function.update_self, compact_latin1]
        exact holds
      · rw [Function.update_self]
        exact outside
      · exact fun other different => Function.update_of_ne different _ _
    · have notSmall : ∃ c ∈ chars, 0xff < c.toNat := by
        by_contra all
        refine isLatin1 fun c member => ?_
        by_contra large
        exact all ⟨c, member, by omega⟩
      simp only [if_neg isLatin1, fits] at called
      refine ⟨_, _, called, .inr rfl, iff_of_true tagged notSmall, ?_, ?_, ?_⟩
      · rw [wrote, Function.update_self, compact, if_neg isLatin1]
        refine ⟨?_, MemInst.bytesAt_setBytes _ _ _⟩
        rw [MemInst.setBytes_length, length_unitsToBytes]
        exact inside
      · intro a outside
        rw [wrote, Function.update_self]
        apply MemInst.setBytes_outside
        rwa [length_unitsToBytes]
      · exact fun other different => Function.update_of_ne different _ _
  · intro memories srcPtr dstPtr dstLen bytes source separate capacity inside illFormed
    exact utf8ToCompact_illFormed source separate capacity inside illFormed
  · intro memories srcPtr dstPtr dstLen units source separate capacity inside illFormed
    exact utf16ToCompact_illFormed source separate capacity inside illFormed
  · intro memories srcPtr dstPtr units source inside illFormed
    rw [utf16ToCompactProbablyUtf16_eq source inside, illFormed]

end Polyengine.Intrinsics.Transcode
