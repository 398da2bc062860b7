import Polyengine.Cabi.StringProperties
import Polyengine.Intrinsics.Transcode

/-!
# Transcoding to UTF-8 in passes

A pass encodes a prefix of the source, on whole code points, and writes its encoding and nothing else.
Two passes with enough capacity for the second encode the whole.
-/

set_option autoImplicit false

namespace Polyengine.Cabi

namespace MemInst

variable (mem : MemInst) (ptr : Nat)

theorem setBytes_nil : mem.setBytes ptr [] = mem := by
  have same : (fun a => if ptr ≤ a ∧ a < ptr + ([] : List UInt8).length then
      ([] : List UInt8).getD (a - ptr) 0 else mem.byte a) = mem.byte := by
    funext a
    rw [if_neg]
    simp only [List.length_nil]
    omega
  rw [setBytes, same]

theorem setBytes_append (bytes more : List UInt8) :
    (mem.setBytes ptr bytes).setBytes (ptr + bytes.length) more = mem.setBytes ptr (bytes ++ more) := by
  have same : ((mem.setBytes ptr bytes).setBytes (ptr + bytes.length) more).byte =
      (mem.setBytes ptr (bytes ++ more)).byte := by
    funext a
    simp only [setBytes, List.length_append]
    by_cases below : ptr ≤ a ∧ a < ptr + bytes.length
    · rw [if_neg (by omega), if_pos below, if_pos (by omega),
        List.getD_append _ _ _ _ (by omega)]
    · by_cases within : ptr + bytes.length ≤ a ∧ a < ptr + bytes.length + more.length
      · rw [if_pos within, if_pos (by omega), List.getD_append_right _ _ _ _ (by omega),
          Nat.sub_add_eq]
      · rw [if_neg within, if_neg below, if_neg (by omega)]
  simp only [setBytes] at same ⊢
  rw [same]

end MemInst

end Polyengine.Cabi

namespace Polyengine.Intrinsics.Transcode

open Polyengine.Cabi Polyengine.Library

/-! ## Writing -/

def utf8 (chars : List Char) : List UInt8 := chars.flatMap String.utf8EncodeChar

theorem utf8_cons (c : Char) (rest : List Char) :
    utf8 (c :: rest) = String.utf8EncodeChar c ++ utf8 rest := List.flatMap_cons

theorem assignBytes_eq {dst : MemInst} {position : Nat} {values : List Nat}
    (inside : position + values.length ≤ dst.length) :
    assignBytes dst position values = dst.setBytes position (values.map UInt8.ofNat) := by
  induction values generalizing dst position with
  | nil => exact (dst.setBytes_nil position).symm
  | cons value rest ih =>
      rw [List.length_cons] at inside
      have first : dst.setByte position (UInt8.ofNat value) =
          dst.setBytes position [UInt8.ofNat value] := by
        rw [MemInst.setByte, if_pos (by omega)]
      have later := dst.setBytes_append position [UInt8.ofNat value] (rest.map UInt8.ofNat)
      rw [List.length_singleton] at later
      rw [assignBytes, first, ih (by rw [MemInst.setBytes_length]; omega), later]
      rfl

theorem utf8Len_eq (c : Char) : utf8Len c.toNat = c.utf8Size := by
  have one : c.utf8Size = 1 ↔ c.toNat ≤ 0x7f := Char.utf8Size_eq_one_iff
  have two : c.utf8Size = 2 ↔ 0x7f < c.toNat ∧ c.toNat ≤ 0x7ff := Char.utf8Size_eq_two_iff
  have three : c.utf8Size = 3 ↔ 0x7ff < c.toNat ∧ c.toNat ≤ 0xffff := Char.utf8Size_eq_three_iff
  have four : c.utf8Size = 4 ↔ 0xffff < c.toNat := Char.utf8Size_eq_four_iff
  unfold utf8Len
  split
  · exact (one.mpr (by omega)).symm
  · split
    · exact (two.mpr (by omega)).symm
    · split
      · exact (three.mpr (by omega)).symm
      · exact (four.mpr (by omega)).symm

theorem or_mark {mark shift x : Nat} (small : x < 2 ^ shift) :
    2 ^ shift * mark ||| x = x + 2 ^ shift * mark := by
  rw [← Nat.two_pow_add_eq_or_of_lt small, Nat.add_comm]

theorem continuation (x : Nat) : 0x80 ||| (x &&& 0x3f) = x % 64 + 0x80 := by
  have masked : x &&& 0x3f = x % 64 := Nat.and_two_pow_sub_one_eq_mod x 6
  have small : x % 64 < 2 ^ 6 := Nat.mod_lt _ (by decide)
  rw [masked]
  exact @or_mark 2 6 _ small

theorem encodeUtf8At_eq (c : Char) {dst : MemInst} {position : Nat}
    (inside : position + c.utf8Size ≤ dst.length) :
    encodeUtf8At dst position c.toNat =
      (c.utf8Size, dst.setBytes position (String.utf8EncodeChar c)) := by
  have valid : c.toNat < 0x110000 := by
    have range := Utf16.toNat_valid c
    omega
  have value : c.val.toNat = c.toNat := rfl
  rw [← utf8Len_eq] at inside ⊢
  have first : c.toNat ≤ 0x7f ↔ c.toNat < 0x80 := by omega
  have second : c.toNat ≤ 0x7ff ↔ c.toNat < 0x800 := by omega
  have third : c.toNat ≤ 0xffff ↔ c.toNat < 0x10000 := by omega
  unfold encodeUtf8At String.utf8EncodeChar
  unfold utf8Len at inside ⊢
  simp only [value, Nat.shiftRight_eq_div_pow, continuation, first, second, third]
  by_cases one : c.toNat < 0x80
  · simp only [if_pos one] at inside ⊢
    rw [assignBytes_eq inside]
    rfl
  simp only [if_neg one] at inside ⊢
  by_cases two : c.toNat < 0x800
  · have leading : 0xc0 ||| c.toNat / 2 ^ 6 = c.toNat / 2 ^ 6 + 0xc0 := @or_mark 6 5 _ (by omega)
    have same : c.toNat / 64 % 0x20 = c.toNat / 2 ^ 6 := by omega
    simp only [if_pos two] at inside ⊢
    rw [assignBytes_eq inside, same]
    simp only [List.map_cons, List.map_nil]
    rw [leading]
  simp only [if_neg two] at inside ⊢
  by_cases three : c.toNat < 0x10000
  · have leading : 0xe0 ||| c.toNat / 2 ^ 12 = c.toNat / 2 ^ 12 + 0xe0 := @or_mark 14 4 _ (by omega)
    have same : c.toNat / 4096 % 0x10 = c.toNat / 2 ^ 12 := by omega
    simp only [if_pos three] at inside ⊢
    rw [assignBytes_eq inside, same]
    simp only [List.map_cons, List.map_nil]
    rw [leading]
  simp only [if_neg three] at inside ⊢
  have leading : 0xf0 ||| c.toNat / 2 ^ 18 = c.toNat / 2 ^ 18 + 0xf0 := @or_mark 30 3 _ (by omega)
  have same : c.toNat / 262144 % 0x08 = c.toNat / 2 ^ 18 := by omega
  rw [assignBytes_eq inside, same]
  simp only [List.map_cons, List.map_nil]
  rw [leading]

/-! ## Reading UTF-16 -/

/-- What the generator yields for scanned code units, up to an unpaired surrogate. -/
def events : List (Option Char) → List (Except Failure (Nat × Nat))
  | [] => []
  | none :: _ => [.error (.trap "invalid utf16 encoding")]
  | some c :: rest => .ok (c.toNat, (Utf16.encodeChar c).length) :: events rest

theorem getUint16_append {leading : List UInt8} (unit : UInt16) (rest : List UInt16) :
    getUint16 (leading ++ unitsToBytes (unit :: rest)) leading.length = .ok unit.toNat := by
  have bound : unit.toNat < 65536 := unit.toNat_lt
  have low : (UInt8.ofNat unit.toNat).toNat = unit.toNat % 256 := by simp
  have high : (UInt8.ofNat (unit.toNat / 256)).toNat = unit.toNat / 256 := by
    rw [UInt8.toNat_ofNat']
    omega
  have first : (leading ++ unitsToBytes (unit :: rest))[leading.length]? =
      some (UInt8.ofNat unit.toNat) := by
    rw [List.getElem?_append_right (Nat.le_refl _), Nat.sub_self]
    rfl
  have second : (leading ++ unitsToBytes (unit :: rest))[leading.length + 1]? =
      some (UInt8.ofNat (unit.toNat / 256)) := by
    rw [List.getElem?_append_right (Nat.le_add_right _ 1), Nat.add_sub_cancel_left]
    rfl
  simp only [getUint16, first, second, low, high]
  congr 1
  omega

theorem single_some {unit : UInt16} (plain : unit.toNat < 0xd800 ∨ 0xdfff < unit.toNat) :
    Utf16.single unit = some (Char.ofNat unit.toNat) ∧
      (Char.ofNat unit.toNat).toNat = unit.toNat ∧
      (Utf16.encodeChar (Char.ofNat unit.toNat)).length = 1 := by
  have bound : unit.toNat < 65536 := unit.toNat_lt
  have valid : unit.toNat.isValidChar := by
    simp only [Nat.isValidChar]
    omega
  have value := Utf16.toNat_ofNat valid
  refine ⟨?_, value, ?_⟩
  · rw [Utf16.single, if_neg]
    unfold Utf16.IsHighSurrogate Utf16.IsLowSurrogate
    omega
  · rw [Utf16.encodeChar_single _ (by omega), List.length_singleton]

theorem single_none {unit : UInt16} (surrogate : ¬(unit.toNat < 0xd800 ∨ 0xdfff < unit.toNat)) :
    Utf16.single unit = none := by
  rw [Utf16.single, if_pos]
  unfold Utf16.IsHighSurrogate Utf16.IsLowSurrogate
  omega

theorem codePoint_valid {high low : UInt16} (isHigh : Utf16.IsHighSurrogate high)
    (isLow : Utf16.IsLowSurrogate low) : (Utf16.codePoint high low).isValidChar := by
  obtain ⟨highLow, highHigh⟩ := isHigh
  obtain ⟨lowLow, lowHigh⟩ := isLow
  have above : 0xdfff < Utf16.codePoint high low := by
    unfold Utf16.codePoint
    omega
  have below : Utf16.codePoint high low < 0x110000 := by
    unfold Utf16.codePoint
    omega
  exact .inr ⟨above, below⟩

theorem pair_point {high low : UInt16} (isHigh : Utf16.IsHighSurrogate high)
    (isLow : Utf16.IsLowSurrogate low) :
    (Char.ofNat (Utf16.codePoint high low)).toNat =
        0x10000 + (high.toNat - 0xd800) <<< 10 + (low.toNat - 0xdc00) := by
  have value := Utf16.toNat_ofNat (codePoint_valid isHigh isLow)
  rw [value, Nat.shiftLeft_eq]
  rfl

theorem pair_length {high low : UInt16} (isHigh : Utf16.IsHighSurrogate high)
    (isLow : Utf16.IsLowSurrogate low) :
    (Utf16.encodeChar (Char.ofNat (Utf16.codePoint high low))).length = 2 := by
  have large := Utf16.le_toNat_pair isHigh isLow
  obtain ⟨first, second, encoded, _⟩ := Utf16.encodeChar_pair _ (Nat.not_lt.mpr large)
  rw [encoded]
  rfl

theorem decodeUtf16From_eq (units : List UInt16) {leading : List UInt8} {i : Nat}
    (behind : leading.length = 2 * i) :
    decodeUtf16From (leading ++ unitsToBytes units) 0 units.length i = events (Utf16.scan units) := by
  have ahead : ∀ (unit : UInt16) (rest : List UInt16) {leading : List UInt8} {i : Nat},
      leading.length = 2 * i →
      getUint16 (leading ++ unitsToBytes (unit :: rest)) (0 + 2 * i) = .ok unit.toNat := by
    intro unit rest leading i behind
    rw [Nat.zero_add, ← behind]
    exact getUint16_append unit rest
  have further : ∀ (leading : List UInt8) (unit : UInt16) (rest : List UInt16),
      leading ++ unitsToBytes (unit :: rest) = leading ++ unitsToBytes [unit] ++ unitsToBytes rest := by
    intro leading unit rest
    rw [List.append_assoc, ← unitsToBytes_append]
    rfl
  have longer : ∀ (leading : List UInt8) (unit : UInt16) {i : Nat}, leading.length = 2 * i →
      (leading ++ unitsToBytes [unit]).length = 2 * (i + 1) := by
    intro leading unit i behind
    rw [List.length_append, length_unitsToBytes, behind, List.length_singleton]
    omega
  induction units using Utf16.scan.induct generalizing leading i with
  | case1 => rfl
  | case2 unit =>
      rw [List.length_singleton, decodeUtf16From, ahead unit [] behind]
      simp only [Utf16.scan]
      by_cases plain : unit.toNat < 0xd800 ∨ 0xdfff < unit.toNat
      · obtain ⟨isChar, value, one⟩ := single_some plain
        rw [if_pos plain, isChar, events, value, one]
        rfl
      · rw [if_neg plain, single_none plain]
        rfl
  | case3 high low rest pair ih =>
      obtain ⟨isHigh, isLow⟩ := pair
      have point := pair_point isHigh isLow
      have two := pair_length isHigh isLow
      have highRange := isHigh
      have lowRange := isLow
      unfold Utf16.IsHighSurrogate at highRange
      unfold Utf16.IsLowSurrogate at lowRange
      have second : getUint16 (leading ++ unitsToBytes (high :: low :: rest)) (0 + 2 * (i + 1)) =
          .ok low.toNat := by
        rw [further]
        exact ahead low rest (longer leading high behind)
      have later := ih (longer _ low (longer leading high behind))
      rw [← further, ← further] at later
      rw [Utf16.scan, if_pos ⟨isHigh, isLow⟩, events, point, two, List.length_cons, List.length_cons,
        decodeUtf16From, ahead high _ behind]
      simp only
      rw [if_neg (by omega), if_neg (by omega), second]
      simp only
      rw [if_neg (by omega), later]
  | case4 high low rest notPair ih =>
      have later := ih (longer leading high behind)
      rw [← further] at later
      rw [Utf16.scan, if_neg notPair, List.length_cons, decodeUtf16From, ahead high _ behind]
      simp only
      by_cases plain : high.toNat < 0xd800 ∨ 0xdfff < high.toNat
      · obtain ⟨isChar, value, one⟩ := single_some plain
        rw [if_pos plain, isChar, events, value, one, later]
      · rw [if_neg plain, single_none plain, events, List.length_cons]
        simp only
        by_cases second : 0xdc00 ≤ high.toNat
        · rw [if_pos second]
        · have lone : low.toNat < 0xdc00 ∨ 0xdfff < low.toNat := by
            unfold Utf16.IsHighSurrogate Utf16.IsLowSurrogate at notPair
            omega
          have next : getUint16 (leading ++ unitsToBytes (high :: low :: rest)) (0 + 2 * (i + 1)) =
              .ok low.toNat := by
            rw [further]
            exact ahead low rest (longer leading high behind)
          rw [if_neg second, next]
          simp only
          rw [if_pos lone]

theorem decodeUtf16OrTrap_eq (units : List UInt16) :
    decodeUtf16OrTrap (unitsToBytes units) 0 units.length = events (Utf16.scan units) :=
  @decodeUtf16From_eq units [] 0 rfl

/-! ## Passes -/

/-- The characters that a pass encodes, unless it reaches an unpaired surrogate before it stops. -/
def passed (firstPass : Nat) : Nat → List (Option Char) → Option (List Char)
  | _, [] => some []
  | _, none :: _ => none
  | capacity, some c :: rest =>
      if (firstPass ≠ 0 ∧ 0x80 ≤ c.toNat) ∨ capacity < c.utf8Size then some []
      else (passed firstPass (capacity - c.utf8Size) rest).map (c :: ·)

theorem length_utf8EncodeChar (c : Char) : (String.utf8EncodeChar c).length = c.utf8Size :=
  String.length_utf8EncodeChar c

theorem utf16ToUtf8Loop_eq {dstPtr dstLen firstPass : Nat} (items : List (Option Char))
    {consumed written : Nat} {dst : MemInst} (inside : dstPtr + dstLen ≤ dst.length)
    (room : written ≤ dstLen) :
    utf16ToUtf8Loop dstPtr dstLen firstPass (events items) consumed consumed written dst =
      match passed firstPass (dstLen - written) items with
      | none => .error (.trap "invalid utf16 encoding")
      | some chars =>
          .ok ((consumed + (Utf16.encode chars).length, written + (utf8 chars).length),
            dst.setBytes (dstPtr + written) (utf8 chars)) := by
  induction items generalizing consumed written dst with
  | nil =>
      simp only [events, utf16ToUtf8Loop, passed]
      have none := dst.setBytes_nil (dstPtr + written)
      rw [utf8, List.flatMap_nil, none]
      rfl
  | cons item rest ih =>
      cases item with
      | none => rfl
      | some c =>
          have stopped : (dst.setBytes (dstPtr + written) (utf8 [])) = dst := dst.setBytes_nil _
          have most := c.utf8Size_le_four
          simp only [events, utf16ToUtf8Loop, passed]
          by_cases bail : firstPass ≠ 0 ∧ 0x80 ≤ c.toNat
          · rw [if_pos bail, if_pos (.inl bail)]
            simp only [stopped]
            rfl
          · rw [if_neg bail, utf8Len_eq]
            by_cases full : dstLen - written < c.utf8Size
            · rw [if_pos (by omega), if_pos (.inr full)]
              simp only [stopped]
              rfl
            · have next : written + c.utf8Size ≤ dstLen := by omega
              have fits : dstPtr + written + c.utf8Size ≤ dst.length := by omega
              rw [if_neg (by omega), if_neg (by
                rintro (other | other)
                · exact bail other
                · exact full other), encodeUtf8At_eq c fits]
              simp only
              rw [ih (by rw [MemInst.setBytes_length]; exact inside) next, Nat.sub_add_eq]
              cases passed firstPass (dstLen - written - c.utf8Size) rest with
              | none => rfl
              | some chars =>
                  have joined := dst.setBytes_append (dstPtr + written) (String.utf8EncodeChar c)
                    (utf8 chars)
                  rw [length_utf8EncodeChar] at joined
                  have units : (Utf16.encode (c :: chars)).length =
                      (Utf16.encodeChar c).length + (Utf16.encode chars).length := by
                    rw [Utf16.encode, List.flatMap_cons, List.length_append]
                    rfl
                  simp only [Option.map_some, utf8_cons, List.length_append, length_utf8EncodeChar,
                    units, ← joined, Nat.add_assoc]

theorem passed_some {firstPass capacity : Nat} {chars pre : List Char}
    (isPassed : passed firstPass capacity (chars.map some) = some pre) :
    (∃ post, chars = pre ++ post) ∧ (utf8 pre).length ≤ capacity := by
  induction chars generalizing capacity pre with
  | nil =>
      cases isPassed
      exact ⟨⟨[], rfl⟩, Nat.zero_le _⟩
  | cons c rest ih =>
      rw [List.map_cons, passed] at isPassed
      split at isPassed
      case isTrue =>
        cases isPassed
        exact ⟨⟨c :: rest, rfl⟩, Nat.zero_le _⟩
      case isFalse go =>
        obtain ⟨later, isLater, rfl⟩ := Option.map_eq_some_iff.mp isPassed
        obtain ⟨⟨post, split⟩, fits⟩ := ih isLater
        refine ⟨⟨post, by rw [split, List.cons_append]⟩, ?_⟩
        rw [utf8_cons, List.length_append, length_utf8EncodeChar]
        omega

theorem passed_isSome (firstPass capacity : Nat) (chars : List Char) :
    ∃ pre, passed firstPass capacity (chars.map some) = some pre := by
  induction chars generalizing capacity with
  | nil => exact ⟨[], rfl⟩
  | cons c rest ih =>
      rw [List.map_cons, passed]
      split
      case isTrue => exact ⟨[], rfl⟩
      case isFalse =>
        obtain ⟨pre, later⟩ := ih (capacity - c.utf8Size)
        exact ⟨c :: pre, by rw [later, Option.map_some]⟩

theorem passed_append {firstPass capacity : Nat} {pre : List Char} (rest : List (Option Char))
    (ascii : firstPass ≠ 0 → ∀ c ∈ pre, c.toNat < 0x80) (fits : (utf8 pre).length ≤ capacity) :
    passed firstPass capacity (pre.map some ++ rest) =
      (passed firstPass (capacity - (utf8 pre).length) rest).map (pre ++ ·) := by
  induction pre generalizing capacity with
  | nil => exact Option.map_id'.symm
  | cons c later ih =>
      rw [utf8_cons, List.length_append, length_utf8EncodeChar] at fits ⊢
      have go : ¬((firstPass ≠ 0 ∧ 0x80 ≤ c.toNat) ∨ capacity < c.utf8Size) := by
        rintro (⟨first, large⟩ | full)
        · have small := ascii first c List.mem_cons_self
          omega
        · omega
      rw [List.map_cons, List.cons_append, passed, if_neg go,
        ih (fun first other member => ascii first other (List.mem_cons_of_mem _ member)) (by omega),
        Option.map_map, Nat.sub_add_eq]
      rfl

theorem passed_whole {capacity : Nat} {chars : List Char} (fits : (utf8 chars).length ≤ capacity) :
    passed 0 capacity (chars.map some) = some chars := by
  have whole := @passed_append 0 capacity chars [] (fun no => absurd rfl no) fits
  rw [List.append_nil, passed, Option.map_some, List.append_nil] at whole
  exact whole

/-! ## Latin-1 -/

def latin1Char (b : UInt8) : Char := Char.ofNat b.toNat

theorem latin1Char_toNat (b : UInt8) : (latin1Char b).toNat = b.toNat := by
  have bound : b.toNat < 256 := b.toNat_lt
  exact Utf16.toNat_ofNat (.inl (by omega))

theorem latin1Char_size (b : UInt8) : (latin1Char b).utf8Size = if b < 0x80 then 1 else 2 := by
  have bound : b.toNat < 256 := b.toNat_lt
  have less : b < 0x80 ↔ b.toNat < 0x80 := UInt8.lt_iff_toNat_lt
  have medium : b.toNat < 0x800 := by omega
  rw [← utf8Len_eq, utf8Len, latin1Char_toNat, if_pos medium]
  simp only [less]

theorem latin1ToUtf8Loop_eq {dstPtr dstLen : Nat} (bytes : List UInt8) {read written : Nat}
    {dst : MemInst} (inside : dstPtr + dstLen ≤ dst.length) (room : written ≤ dstLen) :
    ∃ chars, passed 0 (dstLen - written) ((bytes.map latin1Char).map some) = some chars ∧
      latin1ToUtf8Loop dstPtr dstLen bytes read written dst =
        ((read + chars.length, written + (utf8 chars).length),
          dst.setBytes (dstPtr + written) (utf8 chars)) := by
  have stopped : ∀ dst : MemInst, dst.setBytes (dstPtr + written) (utf8 []) = dst :=
    fun dst => dst.setBytes_nil _
  induction bytes generalizing read written dst with
  | nil =>
      refine ⟨[], rfl, ?_⟩
      rw [stopped]
      rfl
  | cons b rest ih =>
      simp only [latin1ToUtf8Loop, List.map_cons, passed, ← latin1Char_size]
      by_cases full : dstLen < written + (latin1Char b).utf8Size
      · refine ⟨[], ?_, ?_⟩
        · rw [if_pos (.inr (by omega))]
        · rw [if_pos full, stopped]
          rfl
      · have next : written + (latin1Char b).utf8Size ≤ dstLen := by omega
        have fits : dstPtr + written + (latin1Char b).utf8Size ≤ dst.length := by omega
        have go : ¬((0 ≠ 0 ∧ 0x80 ≤ (latin1Char b).toNat) ∨
            dstLen - written < (latin1Char b).utf8Size) := by
          rintro (⟨no, _⟩ | more)
          · exact no rfl
          · omega
        have encoded := encodeUtf8At_eq (latin1Char b) fits
        rw [latin1Char_toNat] at encoded
        obtain ⟨chars, isPassed, looped⟩ := @ih (read + 1) (written + (latin1Char b).utf8Size)
          (dst.setBytes (dstPtr + written) (String.utf8EncodeChar (latin1Char b)))
          (by rw [MemInst.setBytes_length]; exact inside) next fun dst => dst.setBytes_nil _
        refine ⟨latin1Char b :: chars, ?_, ?_⟩
        · rw [if_neg go, ← Nat.sub_add_eq, isPassed, Option.map_some]
        · have joined := dst.setBytes_append (dstPtr + written)
            (String.utf8EncodeChar (latin1Char b)) (utf8 chars)
          rw [length_utf8EncodeChar] at joined
          rw [if_neg full, encoded]
          simp only
          rw [looped, ← Nat.add_assoc, joined, utf8_cons, List.length_append,
            length_utf8EncodeChar, List.length_cons, Nat.add_assoc, Nat.add_assoc,
            Nat.add_comm 1]

theorem passed_takeWhile {firstPass : Nat} (first : firstPass ≠ 0) (capacity : Nat)
    (bytes : List UInt8) :
    passed firstPass capacity ((bytes.map latin1Char).map some) =
      passed 0 capacity
        (((bytes.take (bytes.findIdx fun b => 0x80 ≤ b)).map latin1Char).map some) := by
  induction bytes generalizing capacity with
  | nil => rfl
  | cons b rest ih =>
      have reaches : (0x80 ≤ b) ↔ 0x80 ≤ (latin1Char b).toNat := by
        rw [latin1Char_toNat]
        exact UInt8.le_iff_toNat_le
      rw [List.findIdx_cons]
      by_cases large : 0x80 ≤ b
      · have bail : (firstPass ≠ 0 ∧ 0x80 ≤ (latin1Char b).toNat) ∨
            capacity < (latin1Char b).utf8Size := .inl ⟨first, reaches.mp large⟩
        rw [List.map_cons, List.map_cons, passed, if_pos bail, decide_eq_true large]
        rfl
      · have same : ((firstPass ≠ 0 ∧ 0x80 ≤ (latin1Char b).toNat) ∨
            capacity < (latin1Char b).utf8Size) ↔
            ((0 ≠ 0 ∧ 0x80 ≤ (latin1Char b).toNat) ∨ capacity < (latin1Char b).utf8Size) := by
          rw [← reaches]
          simp only [large, and_false]
        rw [List.map_cons, List.map_cons, passed, decide_eq_false large, cond_false,
          List.take_succ_cons, List.map_cons, List.map_cons, passed, ih]
        simp only [same]

/-! ## Memories -/

/-- A memory holds bytes at an address. -/
def Holds (mem : MemInst) (ptr : Nat) (bytes : List UInt8) : Prop :=
  ptr + bytes.length ≤ mem.length ∧ mem.bytesAt ptr bytes.length = bytes

/-- The memories with bytes written, and nothing else. -/
def wrote (memories : Memories) (memory ptr : Nat) (bytes : List UInt8) : Memories :=
  Function.update memories memory ((memories memory).setBytes ptr bytes)

/-- The source and the destination share no byte. -/
def Separate (fromMemory srcPtr srcBytes toMemory dstPtr dstBytes : Nat) : Prop :=
  fromMemory ≠ toMemory ∨ srcPtr + srcBytes ≤ dstPtr ∨ dstPtr + dstBytes ≤ srcPtr

theorem Holds.part {mem : MemInst} {ptr : Nat} {bytes more : List UInt8}
    (holds : Holds mem ptr (bytes ++ more)) : Holds mem (ptr + bytes.length) more := by
  obtain ⟨inside, contents⟩ := holds
  rw [List.length_append] at inside contents
  rw [MemInst.bytesAt_add] at contents
  refine ⟨by omega, ?_⟩
  exact (List.append_inj contents (MemInst.length_bytesAt _ _ _)).2

theorem Holds.wrote {memories : Memories} {fromMemory toMemory srcPtr dstPtr dstBytes : Nat}
    {bytes written : List UInt8} (holds : Holds (memories fromMemory) srcPtr bytes)
    (separate : Separate fromMemory srcPtr bytes.length toMemory dstPtr dstBytes)
    (fits : written.length ≤ dstBytes) :
    Holds (wrote memories toMemory dstPtr written fromMemory) srcPtr bytes := by
  obtain ⟨inside, contents⟩ := holds
  unfold Transcode.wrote
  by_cases same : fromMemory = toMemory
  · subst same
    rw [Function.update_self]
    refine ⟨inside, ?_⟩
    rw [← contents, MemInst.length_bytesAt]
    apply MemInst.bytesAt_congr
    intro a low high
    apply MemInst.setBytes_outside
    obtain different | before | after := separate
    · exact absurd rfl different
    · omega
    · omega
  · rw [Function.update_of_ne same]
    exact ⟨inside, contents⟩

theorem wrote_wrote (memories : Memories) (memory ptr : Nat) (bytes more : List UInt8) :
    wrote (wrote memories memory ptr bytes) memory (ptr + bytes.length) more =
      wrote memories memory ptr (bytes ++ more) := by
  unfold wrote
  rw [Function.update_self, Function.update_idem, MemInst.setBytes_append]

theorem wrote_length (memories : Memories) (memory ptr : Nat) (bytes : List UInt8) (other : Nat) :
    (wrote memories memory ptr bytes other).length = (memories other).length := by
  unfold wrote
  by_cases same : other = memory
  · rw [same, Function.update_self, MemInst.setBytes_length]
  · rw [Function.update_of_ne same]

section

variable {memories : Memories} {fromMemory toMemory srcPtr dstPtr dstLen : Nat}

theorem utf16ToUtf8_eq {units : List UInt16} (firstPass : Nat)
    (source : Holds (memories fromMemory) srcPtr (unitsToBytes units))
    (destination : dstPtr + dstLen ≤ (memories toMemory).length) :
    utf16ToUtf8 fromMemory toMemory srcPtr units.length dstPtr dstLen firstPass memories =
      match passed firstPass dstLen (Utf16.scan units) with
      | none => .error (.trap "invalid utf16 encoding")
      | some chars =>
          .ok (((Utf16.encode chars).length, (utf8 chars).length),
            wrote memories toMemory dstPtr (utf8 chars)) := by
  have bytes : snapshot (memories fromMemory) srcPtr (2 * units.length) = unitsToBytes units := by
    have contents := source.2
    rwa [length_unitsToBytes] at contents
  simp only [utf16ToUtf8, bytes, decodeUtf16OrTrap_eq,
    utf16ToUtf8Loop_eq (Utf16.scan units) destination (Nat.zero_le _), Nat.sub_zero, Nat.zero_add,
    Nat.add_zero]
  cases passed firstPass dstLen (Utf16.scan units) with
  | none => rfl
  | some chars => rfl

theorem latin1ToUtf8_eq {bytes : List UInt8} (firstPass : Nat)
    (source : Holds (memories fromMemory) srcPtr bytes)
    (destination : dstPtr + dstLen ≤ (memories toMemory).length) :
    ∃ chars, passed firstPass dstLen ((bytes.map latin1Char).map some) = some chars ∧
      latin1ToUtf8 fromMemory toMemory srcPtr bytes.length dstPtr dstLen firstPass memories =
        .ok ((chars.length, (utf8 chars).length),
          wrote memories toMemory dstPtr (utf8 chars)) := by
  have contents : snapshot (memories fromMemory) srcPtr bytes.length = bytes := source.2
  simp only [latin1ToUtf8, contents]
  by_cases first : firstPass ≠ 0
  · rw [if_pos first, passed_takeWhile first]
    obtain ⟨chars, isPassed, looped⟩ := @latin1ToUtf8Loop_eq dstPtr dstLen
      (bytes.take (bytes.findIdx fun b => 0x80 ≤ b)) 0 0 _ destination (Nat.zero_le _)
    refine ⟨chars, isPassed, ?_⟩
    rw [looped, Nat.zero_add, Nat.zero_add, Nat.add_zero]
    rfl
  · rw [if_neg first, List.take_length, not_not.mp first]
    obtain ⟨chars, isPassed, looped⟩ :=
      @latin1ToUtf8Loop_eq dstPtr dstLen bytes 0 0 _ destination (Nat.zero_le _)
    refine ⟨chars, isPassed, ?_⟩
    rw [looped, Nat.zero_add, Nat.zero_add, Nat.add_zero]
    rfl

end

/-! ## Two passes -/

theorem utf8_append (pre post : List Char) : utf8 (pre ++ post) = utf8 pre ++ utf8 post :=
  List.flatMap_append

theorem encode_append (pre post : List Char) :
    Utf16.encode (pre ++ post) = Utf16.encode pre ++ Utf16.encode post := List.flatMap_append

theorem utf8_length_le (chars : List Char) :
    (utf8 chars).length ≤ 3 * (Utf16.encode chars).length := by
  have bound := length_utf8Encode_le (Utf16.encode chars)
  rw [utf8Encode, Utf16.scalars_encode] at bound
  rw [Nat.mul_comm]
  exact bound

theorem utf8_latin1_length_le (bytes : List UInt8) :
    (utf8 (bytes.map latin1Char)).length ≤ 2 * bytes.length := by
  induction bytes with
  | nil => exact Nat.zero_le _
  | cons b rest ih =>
      have size : (latin1Char b).utf8Size ≤ 2 := by
        rw [latin1Char_size]
        split <;> omega
      rw [List.map_cons, utf8_cons, List.length_append, length_utf8EncodeChar, List.length_cons]
      omega

structure Passes (fromMemory toMemory : Nat) : Prop where
  /-- A pass over a string writes the encoding of a prefix, which fits, and nothing else. -/
  utf16 : ∀ memories srcPtr dstPtr dstLen firstPass chars,
    Holds (memories fromMemory) srcPtr (unitsToBytes (Utf16.encode chars)) →
    dstPtr + dstLen ≤ (memories toMemory).length →
    ∃ pre post, chars = pre ++ post ∧ (utf8 pre).length ≤ dstLen ∧
      utf16ToUtf8 fromMemory toMemory srcPtr (Utf16.encode chars).length dstPtr dstLen firstPass
        memories =
        .ok (((Utf16.encode pre).length, (utf8 pre).length),
          wrote memories toMemory dstPtr (utf8 pre))
  latin1 : ∀ memories srcPtr dstPtr dstLen firstPass bytes,
    Holds (memories fromMemory) srcPtr bytes → dstPtr + dstLen ≤ (memories toMemory).length →
    ∃ pre post, bytes = pre ++ post ∧ (utf8 (pre.map latin1Char)).length ≤ dstLen ∧
      latin1ToUtf8 fromMemory toMemory srcPtr bytes.length dstPtr dstLen firstPass memories =
        .ok ((pre.length, (utf8 (pre.map latin1Char)).length),
          wrote memories toMemory dstPtr (utf8 (pre.map latin1Char)))
  /-- A second pass with enough capacity reads the rest and leaves the encoding of the whole. -/
  utf16Twice : ∀ memories srcPtr dstPtr firstLen chars,
    Holds (memories fromMemory) srcPtr (unitsToBytes (Utf16.encode chars)) →
    Separate fromMemory srcPtr (unitsToBytes (Utf16.encode chars)).length toMemory dstPtr firstLen →
    dstPtr + firstLen ≤ (memories toMemory).length →
    ∃ read written next,
      utf16ToUtf8 fromMemory toMemory srcPtr (Utf16.encode chars).length dstPtr firstLen 1
        memories = .ok ((read, written), next) ∧
      ∀ secondLen, 3 * ((Utf16.encode chars).length - read) ≤ secondLen →
        dstPtr + written + secondLen ≤ (memories toMemory).length →
        utf16ToUtf8 fromMemory toMemory (srcPtr + 2 * read) ((Utf16.encode chars).length - read)
          (dstPtr + written) secondLen 0 next =
          .ok (((Utf16.encode chars).length - read, (utf8 chars).length - written),
            wrote memories toMemory dstPtr (utf8 chars))
  latin1Twice : ∀ memories srcPtr dstPtr firstLen bytes,
    Holds (memories fromMemory) srcPtr bytes →
    Separate fromMemory srcPtr bytes.length toMemory dstPtr firstLen →
    dstPtr + firstLen ≤ (memories toMemory).length →
    ∃ read written next,
      latin1ToUtf8 fromMemory toMemory srcPtr bytes.length dstPtr firstLen 1 memories =
        .ok ((read, written), next) ∧
      ∀ secondLen, 2 * (bytes.length - read) ≤ secondLen →
        dstPtr + written + secondLen ≤ (memories toMemory).length →
        latin1ToUtf8 fromMemory toMemory (srcPtr + read) (bytes.length - read)
          (dstPtr + written) secondLen 0 next =
          .ok ((bytes.length - read, (utf8 (bytes.map latin1Char)).length - written),
            wrote memories toMemory dstPtr (utf8 (bytes.map latin1Char)))
  /-- A pass that comes to an unpaired surrogate traps. -/
  illFormed : ∀ memories srcPtr dstPtr dstLen firstPass units pre rest,
    Holds (memories fromMemory) srcPtr (unitsToBytes units) →
    dstPtr + dstLen ≤ (memories toMemory).length →
    Utf16.scan units = pre.map some ++ none :: rest →
    (firstPass ≠ 0 → ∀ c ∈ pre, c.toNat < 0x80) → (utf8 pre).length ≤ dstLen →
    utf16ToUtf8 fromMemory toMemory srcPtr units.length dstPtr dstLen firstPass memories =
      .error (.trap "invalid utf16 encoding")

/-- Whatever the capacity of the first pass, two passes encode the whole source. -/
theorem transcode_passes (fromMemory toMemory : Nat) : Passes fromMemory toMemory := by
  have utf16 : ∀ memories srcPtr dstPtr dstLen firstPass chars,
      Holds (memories fromMemory) srcPtr (unitsToBytes (Utf16.encode chars)) →
      dstPtr + dstLen ≤ (memories toMemory).length →
      ∃ pre, passed firstPass dstLen (chars.map some) = some pre ∧
        utf16ToUtf8 fromMemory toMemory srcPtr (Utf16.encode chars).length dstPtr dstLen firstPass
          memories =
          .ok (((Utf16.encode pre).length, (utf8 pre).length),
            wrote memories toMemory dstPtr (utf8 pre)) := by
    intro memories srcPtr dstPtr dstLen firstPass chars source destination
    obtain ⟨pre, isPassed⟩ := passed_isSome firstPass dstLen chars
    refine ⟨pre, isPassed, ?_⟩
    rw [utf16ToUtf8_eq firstPass source destination, Utf16.scan_encode, isPassed]
  refine ⟨?_, ?_, ?_, ?_, ?_⟩
  · intro memories srcPtr dstPtr dstLen firstPass chars source destination
    obtain ⟨pre, isPassed, result⟩ :=
      utf16 memories srcPtr dstPtr dstLen firstPass chars source destination
    obtain ⟨⟨post, split⟩, fits⟩ := passed_some isPassed
    exact ⟨pre, post, split, fits, result⟩
  · intro memories srcPtr dstPtr dstLen firstPass bytes source destination
    obtain ⟨chars, isPassed, result⟩ := latin1ToUtf8_eq firstPass source destination
    obtain ⟨⟨post, split⟩, fits⟩ := passed_some isPassed
    obtain ⟨pre, rest, rfl, rfl, rfl⟩ := List.map_eq_append_iff.mp split
    rw [List.length_map] at result
    exact ⟨pre, rest, rfl, fits, result⟩
  · intro memories srcPtr dstPtr firstLen chars source separate destination
    obtain ⟨pre, isPassed, result⟩ := utf16 memories srcPtr dstPtr firstLen 1 chars source destination
    obtain ⟨⟨post, rfl⟩, fits⟩ := passed_some isPassed
    refine ⟨_, _, _, result, fun secondLen enough inside => ?_⟩
    have moved := source.wrote separate fits
    rw [encode_append, unitsToBytes_append] at moved
    have remaining := moved.part
    rw [length_unitsToBytes] at remaining
    have left : (Utf16.encode (pre ++ post)).length - (Utf16.encode pre).length =
        (Utf16.encode post).length := by
      rw [encode_append, List.length_append, Nat.add_sub_cancel_left]
    rw [left] at enough ⊢
    have room := Nat.le_trans (utf8_length_le post) enough
    rw [utf16ToUtf8_eq 0 remaining (by rw [wrote_length]; exact inside), Utf16.scan_encode,
      passed_whole room]
    simp only
    rw [wrote_wrote, utf8_append, List.length_append, Nat.add_sub_cancel_left]
  · intro memories srcPtr dstPtr firstLen bytes source separate destination
    obtain ⟨chars, isPassed, result⟩ := latin1ToUtf8_eq 1 source destination
    obtain ⟨⟨post, split⟩, fits⟩ := passed_some isPassed
    obtain ⟨pre, rest, rfl, rfl, rfl⟩ := List.map_eq_append_iff.mp split
    refine ⟨_, _, _, result, fun secondLen enough inside => ?_⟩
    have remaining := (source.wrote separate fits).part
    rw [List.length_map] at enough ⊢
    have left : (pre ++ rest).length - pre.length = rest.length := by
      rw [List.length_append, Nat.add_sub_cancel_left]
    rw [left] at enough ⊢
    have room := Nat.le_trans (utf8_latin1_length_le rest) enough
    obtain ⟨last, lastPassed, lastResult⟩ :=
      latin1ToUtf8_eq 0 remaining (by rw [wrote_length]; exact inside)
    rw [passed_whole room] at lastPassed
    cases lastPassed
    rw [lastResult, wrote_wrote, List.map_append, utf8_append, List.length_append,
      Nat.add_sub_cancel_left, List.length_map]
  · intro memories srcPtr dstPtr dstLen firstPass units pre rest source destination scanned ascii fits
    rw [utf16ToUtf8_eq firstPass source destination, scanned, passed_append _ ascii fits]
    rfl

end Polyengine.Intrinsics.Transcode
