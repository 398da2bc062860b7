import Polyengine.Cabi.StringProperties

/-!
# Filling string blocks

How lowering a string fills the blocks it acquires. The logic of blocks says what a caller needs
of `realloc` and of host writes; whoever provides it learns that the last block holds the guest
encoding of the well-formed string and nothing else.
-/

set_option autoImplicit false

namespace Polyengine.Cabi

open Polyengine.Library Command

def stringAlignment : StringEncoding → Nat
  | .utf8 => 1
  | .utf16 => 2
  | .latin1Utf16 => 2

/-- The encoding a guest expects of a well-formed string, and its bytes. -/
def guestEncoding (stringEncoding : StringEncoding) (wf : List UInt16) :
    RangeEncoding × List UInt8 :=
  match stringEncoding with
  | .utf8 => (.utf8, utf8Encode wf)
  | .utf16 => (.utf16le, unitsToBytes wf)
  | .latin1Utf16 =>
      if wf.all fun unit => unit.toNat < 2 ^ 8 then (.latin1, narrow wf)
      else (.utf16le, unitsToBytes wf)

theorem guestEncoding_latin1 {wf : List UInt16} (latin1 : ∀ unit ∈ wf, unit.toNat < 2 ^ 8) :
    guestEncoding .latin1Utf16 wf = (.latin1, narrow wf) :=
  if_pos (by simpa using latin1)

theorem guestEncoding_wide {wf : List UInt16} (wide : ¬∀ unit ∈ wf, unit.toNat < 2 ^ 8) :
    guestEncoding .latin1Utf16 wf = (.utf16le, unitsToBytes wf) :=
  if_neg (by simpa using wide)

theorem utf8Encode_toWellFormed (src : List UInt16) :
    utf8Encode (Utf16.toWellFormed src) = utf8Encode src := by
  rw [utf8Encode, Utf16.scalars_toWellFormed, utf8Encode]

theorem decodeString_guestEncoding (stringEncoding : StringEncoding) (src : List UInt16) :
    decodeString (guestEncoding stringEncoding (Utf16.toWellFormed src)).1
      (guestEncoding stringEncoding (Utf16.toWellFormed src)).2 = .ok (Utf16.toWellFormed src) := by
  have wide : decodeString .utf16le (unitsToBytes (Utf16.toWellFormed src)) =
      .ok (Utf16.toWellFormed src) := decodeString_utf16 src
  cases stringEncoding with
  | utf8 =>
      simp only [guestEncoding, utf8Encode_toWellFormed]
      exact decodeString_utf8 src
  | utf16 => exact wide
  | latin1Utf16 =>
      by_cases latin1 : ∀ unit ∈ Utf16.toWellFormed src, unit.toNat < 2 ^ 8
      · rw [guestEncoding_latin1 latin1]
        exact decodeString_latin1 latin1
      · rw [guestEncoding_wide latin1]
        exact wide

/-- A change of memory that turns the leading bytes of a block from `bytes` into `bytes'` and
touches nothing outside the block. -/
def Rewrites (ptr capacity : Nat) (bytes bytes' : List UInt8)
    (change : MemInst → Except Failure MemInst) : Prop :=
  ∀ mem : MemInst, ptr + capacity ≤ mem.length →
    ∃ after, change mem = .ok after ∧ after.length = mem.length ∧ after.addrType = mem.addrType ∧
      (∀ a, a ∉ region ptr capacity → after.byte a = mem.byte a) ∧
      (mem.bytesAt ptr bytes.length = bytes → after.bytesAt ptr bytes'.length = bytes')

theorem Rewrites.of_eq {ptr capacity : Nat} {bytes bytes' : List UInt8}
    {change change' : MemInst → Except Failure MemInst}
    (rewrites : Rewrites ptr capacity bytes bytes' change)
    (same : ∀ mem : MemInst, ptr + capacity ≤ mem.length → change' mem = change mem) :
    Rewrites ptr capacity bytes bytes' change' := by
  intro mem room
  rw [same mem room]
  exact rewrites mem room

theorem rewrites_append {ptr capacity : Nat} {bytes more : List UInt8}
    (fits : (bytes ++ more).length ≤ capacity) :
    Rewrites ptr capacity bytes (bytes ++ more)
      (fun mem => .ok (mem.setBytes (ptr + bytes.length) more)) := by
  rw [List.length_append] at fits
  intro mem room
  refine ⟨_, rfl, rfl, rfl, ?_, ?_⟩
  · intro a outside
    apply mem.setBytes_outside
    intro inside
    exact outside ⟨by omega, by omega⟩
  · intro contents
    rw [List.length_append, MemInst.bytesAt_add, MemInst.bytesAt_setBytes]
    congr 1
    calc (mem.setBytes (ptr + bytes.length) more).bytesAt ptr bytes.length
        = mem.bytesAt ptr bytes.length :=
          MemInst.bytesAt_congr fun a _ high => mem.setBytes_outside _ _ fun inside => by omega
      _ = bytes := contents

theorem writeBytes_eq {mem : MemInst} {ptr : Nat} {bytes : List UInt8}
    (room : ptr + bytes.length ≤ mem.length) :
    writeBytes mem ptr bytes = .ok (mem.setBytes ptr bytes) := by
  simp only [writeBytes, assert_ok room, MemInst.write, if_pos room]
  rfl

theorem rewrites_writeBytes {ptr capacity at_ : Nat} {bytes more : List UInt8}
    (next : at_ = ptr + bytes.length) (fits : (bytes ++ more).length ≤ capacity) :
    Rewrites ptr capacity bytes (bytes ++ more) (fun mem => writeBytes mem at_ more) := by
  subst next
  apply (rewrites_append fits).of_eq
  intro mem room
  rw [List.length_append] at fits
  exact writeBytes_eq (by omega)

theorem rewrites_setByte {ptr capacity at_ : Nat} {bytes : List UInt8} (byte : UInt8)
    (next : at_ = ptr + bytes.length) (fits : (bytes ++ [byte]).length ≤ capacity) :
    Rewrites ptr capacity bytes (bytes ++ [byte]) (fun mem => return mem.setByte at_ byte) := by
  subst next
  apply (rewrites_append fits).of_eq
  intro mem room
  rw [List.length_append, List.length_singleton] at fits
  rw [MemInst.setByte, if_pos (by omega)]
  rfl

theorem rewrites_widen {ptr capacity : Nat} {leading : List UInt16}
    (latin1 : ∀ unit ∈ leading, unit.toNat < 2 ^ 8) (fits : 2 * leading.length ≤ capacity) :
    Rewrites ptr capacity (narrow leading) (unitsToBytes leading)
      (fun mem => return widen ptr leading.length mem) := by
  intro mem room
  -- what is outside the widened range does not depend on what the block holds
  have inside : ptr + 2 * (mem.bytesAt ptr leading.length).length ≤ mem.length := by
    rw [MemInst.length_bytesAt]
    omega
  have known : mem.bytesAt ptr (mem.bytesAt ptr leading.length).length =
      mem.bytesAt ptr leading.length := by rw [MemInst.length_bytesAt]
  obtain ⟨length, addrType, outside, widened⟩ := widen_spec ptr inside known
  rw [MemInst.length_bytesAt] at length addrType outside widened
  refine ⟨_, rfl, length, addrType, ?_, ?_⟩
  · intro a elsewhere
    apply outside
    rintro ⟨low, high⟩
    exact elsewhere ⟨low, by omega⟩
  · intro contents
    rw [narrow_length] at contents
    rw [length_unitsToBytes, widened, contents, widened_narrow latin1]

variable {World : Type}

/-- The rules by which a string block is acquired, filled and moved. A block has an alignment, a
capacity, known leading bytes and a pointer; its pointer has passed the checks. -/
structure BlockLogic (raised : Failure → CxState World → Prop) (cx : LiftLowerContext World)
    (Start : CxState World → Prop)
    (Block : Nat → Nat → List UInt8 → Nat → CxState World → Prop) : Prop where
  memory : ∀ {alignment capacity ptr : Nat} {bytes : List UInt8} {state : CxState World},
    Block alignment capacity bytes ptr state → ∃ mem, state.memory = some mem
  fits : ∀ {alignment capacity ptr : Nat} {bytes : List UInt8} {state : CxState World},
    Block alignment capacity bytes ptr state → bytes.length ≤ capacity
  allocate : ∀ {alignment capacity : Nat} {state : CxState World},
    Start state → IsAlignment alignment → capacity < 2 ^ 32 →
    Ensures raised (cx.allocate alignment capacity)
      (fun ptr next => Ensures raised (checkBlock ptr alignment capacity : Cx World Unit)
        (fun _ final => Block alignment capacity [] ptr final) next) state
  reallocate : ∀ {alignment capacity capacity' ptr : Nat} {bytes : List UInt8}
    {state : CxState World},
    Block alignment capacity bytes ptr state → IsAlignment alignment →
    bytes.length ≤ capacity' → capacity' < 2 ^ 32 →
    Ensures raised (cx.reallocate ptr capacity alignment capacity')
      (fun ptr' next => Ensures raised (checkBlock ptr' alignment capacity' : Cx World Unit)
        (fun _ final => Block alignment capacity' bytes ptr' final) next) state
  rewrite : ∀ {alignment capacity ptr : Nat} {bytes bytes' : List UInt8} {state : CxState World}
    {change : MemInst → Except Failure MemInst},
    Block alignment capacity bytes ptr state → Rewrites ptr capacity bytes bytes' change →
    bytes'.length ≤ capacity →
    Ensures raised (modifyMemory change : Cx World Unit)
      (fun _ final => Block alignment capacity bytes' ptr final) state

/-- The last block holds the guest encoding of a string exactly, and the tagged length says so. -/
structure Encoded (Block : Nat → Nat → List UInt8 → Nat → CxState World → Prop)
    (cx : LiftLowerContext World) (src : List UInt16) (result : Nat × Nat)
    (final : CxState World) : Prop where
  block : Block (stringAlignment cx.stringEncoding)
    (guestEncoding cx.stringEncoding (Utf16.toWellFormed src)).2.length
    (guestEncoding cx.stringEncoding (Utf16.toWellFormed src)).2 result.1 final
  denotes : ∀ mem : MemInst, final.memory = some mem →
    stringRange cx.stringEncoding mem.ptrType result.2 =
      (stringAlignment cx.stringEncoding,
        (guestEncoding cx.stringEncoding (Utf16.toWellFormed src)).2.length,
        (guestEncoding cx.stringEncoding (Utf16.toWellFormed src)).1)
  addressable : ∀ mem : MemInst, final.memory = some mem → result.2 < 2 ^ (8 * mem.ptrSize)

section Walks

variable {raised : Failure → CxState World → Prop} {cx : LiftLowerContext World}
  {Start : CxState World → Prop} {Block : Nat → Nat → List UInt8 → Nat → CxState World → Prop}
  {state : CxState World}

theorem utf16Tag_large (ptrType : PtrType) : 2 ^ 31 ≤ utf16Tag ptrType := by
  unfold utf16Tag
  cases ptrType <;> decide

theorem small_of_lt {n : Nat} (small : n < 2 ^ 32) (mem : MemInst) : n < 2 ^ (8 * mem.ptrSize) := by
  have width : 2 ^ 32 ≤ 2 ^ (8 * mem.ptrSize) := by
    unfold MemInst.ptrSize
    cases mem.addrType <;> decide
  omega

theorem BlockLogic.setByte (logic : BlockLogic raised cx Start Block) {alignment capacity ptr : Nat}
    {leading : List UInt16} {unit : UInt16}
    (block : Block alignment capacity (narrow leading) ptr state)
    (room : leading.length < capacity) :
    Ensures raised
      (modifyMemory fun mem => return mem.setByte (ptr + leading.length) (UInt8.ofNat unit.toNat))
      (fun _ final => Block alignment capacity (narrow (leading ++ [unit])) ptr final) state := by
  have extended : narrow (leading ++ [unit]) = narrow leading ++ [UInt8.ofNat unit.toNat] := by
    simp [narrow]
  have fits : (narrow leading ++ [UInt8.ofNat unit.toNat]).length ≤ capacity := by
    rw [List.length_append, narrow_length]
    exact room
  have here : ptr + leading.length = ptr + (narrow leading).length := by rw [narrow_length]
  rw [extended]
  exact logic.rewrite block (rewrites_setByte _ here fits) fits

section Utf16

theorem BlockLogic.storeStringCopyUtf16 (logic : BlockLogic raised cx Start Block)
    (start : Start state) (encoding : cx.stringEncoding = .utf16) {src : List UInt16}
    (short : src.length < 2 ^ 29) :
    Ensures raised (storeStringCopyUtf16 cx src) (Encoded Block cx src) state := by
  have two : IsAlignment 2 := .inr (.inl rfl)
  have bound : 2 * src.length ≤ REALLOC_I32_MAX := by
    unfold REALLOC_I32_MAX
    omega
  have guest : guestEncoding cx.stringEncoding (Utf16.toWellFormed src) =
      (.utf16le, encodeUtf16Le src) := by rw [encoding, guestEncoding, encodeUtf16Le]
  simp only [Cabi.storeStringCopyUtf16, ensures_bind, ensures_assert_ok bound]
  apply (logic.allocate start two (by omega)).imp
  intro ptr next checked
  apply checked.imp
  intro _ ready buffer
  rw [ensures_assert_ok (length_encodeUtf16Le src).symm]
  have fits : ([] ++ encodeUtf16Le src).length ≤ 2 * src.length := by
    rw [List.nil_append, length_encodeUtf16Le]
  apply (logic.rewrite buffer (rewrites_writeBytes rfl fits) fits).imp
  intro _ final filled
  rw [ensures_pure]
  constructor
  · rw [guest, encoding]
    rwa [List.nil_append, ← length_encodeUtf16Le] at filled
  · intro mem _
    rw [guest, encoding, stringRange, length_encodeUtf16Le]
    rfl
  · intro mem _
    exact small_of_lt (by omega) mem

end Utf16

section Utf8

variable {leading rest : List UInt16} {ptr : Nat}

theorem BlockLogic.storeUtf8Tail (logic : BlockLogic raised cx Start Block)
    (encoding : cx.stringEncoding = .utf8) (ascii : ∀ unit ∈ leading, unit.toNat < 0x80)
    (short : (leading ++ rest).length < 2 ^ 29)
    (buffer : Block 1 (leading ++ rest).length (narrow leading) ptr state) :
    Ensures raised
      (storeUtf8Tail cx (leading ++ rest) ((leading ++ rest).length * 3) ptr leading.length)
      (Encoded Block cx (leading ++ rest)) state := by
  have one : IsAlignment 1 := .inl rfl
  have most := length_utf8Encode_le (leading ++ rest)
  have split := utf8Encode_append ascii rest
  have known := logic.fits buffer
  generalize (leading ++ rest) = src at *
  have guest : guestEncoding cx.stringEncoding (Utf16.toWellFormed src) =
      (.utf8, utf8Encode src) := by rw [encoding, guestEncoding, utf8Encode_toWellFormed]
  generalize encodedIs : utf8Encode src = encoded at *
  have bound : src.length * 3 ≤ REALLOC_I32_MAX := by
    unfold REALLOC_I32_MAX
    omega
  have whole : narrow leading ++ encoded.drop leading.length = encoded := by
    rw [split, ← narrow_length leading, List.drop_left]
  have done : ∀ {ptr' : Nat} {final : CxState World},
      Block 1 encoded.length encoded ptr' final →
      Encoded Block cx src (ptr', encoded.length) final := by
    intro ptr' final filled
    constructor
    · rw [guest, encoding]
      exact filled
    · intro mem _
      rw [guest, encoding]
      rfl
    · intro mem _
      exact small_of_lt (by omega) mem
  simp only [Cabi.storeUtf8Tail, ensures_bind, ensures_assert_ok bound, encodedIs]
  apply (logic.reallocate buffer one (by omega) (by omega)).imp
  intro ptr' moved checked
  apply checked.imp
  intro _ roomy grown
  have fits : (narrow leading ++ encoded.drop leading.length).length ≤ src.length * 3 := by
    rwa [whole]
  apply (logic.rewrite grown (rewrites_writeBytes (by rw [narrow_length]) fits) fits).imp
  intro _ final filled
  rw [whole] at filled
  rw [ensures_ite]
  constructor
  · intro _
    rw [ensures_bind]
    apply (logic.reallocate filled one (Nat.le_refl _) (by omega)).imp
    intro ptr'' shrunk checked'
    rw [ensures_bind]
    apply checked'.imp
    intro _ last exact'
    rw [ensures_pure]
    exact done exact'
  · intro tight
    have full : src.length * 3 = encoded.length := by omega
    rw [full] at filled
    rw [ensures_pure]
    exact done filled

theorem BlockLogic.storeUtf8Loop (logic : BlockLogic raised cx Start Block)
    (encoding : cx.stringEncoding = .utf8) (ascii : ∀ unit ∈ leading, unit.toNat < 0x80)
    (short : (leading ++ rest).length < 2 ^ 29)
    (buffer : Block 1 (leading ++ rest).length (narrow leading) ptr state) :
    Ensures raised
      (storeUtf8Loop cx (leading ++ rest) ((leading ++ rest).length * 3) ptr leading.length rest)
      (Encoded Block cx (leading ++ rest)) state := by
  induction rest generalizing leading state with
  | nil =>
      rw [List.append_nil] at short buffer ⊢
      have whole : utf8Encode leading = narrow leading := by
        have split := utf8Encode_append ascii []
        simpa [utf8Encode, Utf16.scalars, Utf16.scan] using split
      have guest : guestEncoding cx.stringEncoding (Utf16.toWellFormed leading) =
          (.utf8, narrow leading) := by
        rw [encoding, guestEncoding, utf8Encode_toWellFormed, whole]
      rw [Cabi.storeUtf8Loop, ensures_pure]
      constructor
      · rw [guest, encoding, narrow_length]
        exact buffer
      · intro mem _
        rw [guest, encoding, narrow_length]
        rfl
      · intro mem _
        exact small_of_lt (by omega) mem
  | cons unit rest ih =>
      rw [Cabi.storeUtf8Loop]
      by_cases plain : unit.toNat < 0x80
      · rw [if_pos plain, ensures_bind]
        have regroup : leading ++ unit :: rest = (leading ++ [unit]) ++ rest := by simp
        apply (logic.setByte buffer (by simp)).imp
        intro _ final grown
        rw [regroup] at grown
        rw [regroup] at short ⊢
        have longer : ∀ other ∈ leading ++ [unit], other.toNat < 0x80 := by
          intro other member
          rcases List.mem_append.mp member with before | here
          · exact ascii other before
          · rw [List.mem_singleton.mp here]
            exact plain
        have count : leading.length + 1 = (leading ++ [unit]).length := by simp
        rw [count]
        exact ih longer short grown
      · rw [if_neg plain]
        exact logic.storeUtf8Tail encoding ascii short buffer

theorem BlockLogic.storeUtf16ToUtf8 (logic : BlockLogic raised cx Start Block)
    (start : Start state) (encoding : cx.stringEncoding = .utf8) {src : List UInt16}
    (short : src.length < 2 ^ 29) :
    Ensures raised (storeUtf16ToUtf8 cx src) (Encoded Block cx src) state := by
  have bound : src.length ≤ REALLOC_I32_MAX := by
    unfold REALLOC_I32_MAX
    omega
  simp only [Cabi.storeUtf16ToUtf8, storeStringToUtf8, ensures_bind, ensures_assert_ok bound]
  apply (logic.allocate start (.inl rfl) (by omega)).imp
  intro ptr next checked
  apply checked.imp
  intro _ ready buffer
  have noUnit : ∀ unit ∈ ([] : List UInt16), unit.toNat < 0x80 := by simp
  exact logic.storeUtf8Loop encoding noUnit short buffer

end Utf8

section Latin1

variable {src leading rest : List UInt16} {ptr : Nat}

/-- From the first code unit above 0xFF: the block grows, its bytes are widened in place and the
code units that are left follow them. -/
theorem BlockLogic.storeUtf16Tail (logic : BlockLogic raised cx Start Block)
    (encoding : cx.stringEncoding = .latin1Utf16) (latin1 : ∀ unit ∈ leading, unit.toNat < 2 ^ 8)
    (wellFormed : Utf16.toWellFormed src = leading ++ rest)
    (wide : ¬∀ unit ∈ leading ++ rest, unit.toNat < 2 ^ 8)
    (short : (leading ++ rest).length < 2 ^ 29)
    (buffer : Block 2 (leading ++ rest).length (narrow leading) ptr state) :
    Ensures raised (storeUtf16Tail cx (leading ++ rest) ptr leading.length)
      (Encoded Block cx src) state := by
  have two : IsAlignment 2 := .inr (.inl rfl)
  have same : encodeUtf16Le (leading ++ rest) = unitsToBytes (leading ++ rest) := by
    rw [encodeUtf16Le, ← wellFormed, Utf16.toWellFormed_toWellFormed]
  have guest : guestEncoding cx.stringEncoding (Utf16.toWellFormed src) =
      (.utf16le, unitsToBytes (leading ++ rest)) := by
    rw [encoding, wellFormed, guestEncoding_wide wide]
  have encodedIs : encodeUtf16Le (leading ++ rest) = unitsToBytes leading ++ unitsToBytes rest := by
    rw [same, unitsToBytes_append]
  have length : (leading ++ rest).length = leading.length + rest.length := List.length_append
  have bound : 2 * (leading ++ rest).length ≤ REALLOC_I32_MAX := by
    unfold REALLOC_I32_MAX
    omega
  have known : (narrow leading).length ≤ 2 * (leading ++ rest).length := by
    rw [narrow_length]
    omega
  have wideFits : 2 * leading.length ≤ 2 * (leading ++ rest).length := by omega
  have fits : (unitsToBytes leading ++ unitsToBytes rest).length ≤
      2 * (leading ++ rest).length := by
    rw [List.length_append, length_unitsToBytes, length_unitsToBytes]
    omega
  have tail : (encodeUtf16Le (leading ++ rest)).drop (2 * leading.length) = unitsToBytes rest := by
    rw [encodedIs, ← length_unitsToBytes leading, List.drop_left]
  simp only [Cabi.storeUtf16Tail, ensures_bind, ensures_assert_ok bound, tail, length_encodeUtf16Le,
    Nat.lt_irrefl, if_false]
  apply (logic.reallocate buffer two known (by omega)).imp
  intro ptr' moved checked
  apply checked.imp
  intro _ roomy grown
  apply (logic.rewrite grown (rewrites_widen latin1 wideFits) (by rwa [length_unitsToBytes])).imp
  intro _ final widened
  have next : ptr' + 2 * leading.length = ptr' + (unitsToBytes leading).length := by
    rw [length_unitsToBytes]
  apply (logic.rewrite widened (rewrites_writeBytes next fits) fits).imp
  intro _ last filled
  obtain ⟨mem, present⟩ := logic.memory filled
  have halved : 2 * (leading ++ rest).length / 2 = (leading ++ rest).length := by omega
  have tagRoom : (leading ++ rest).length < utf16Tag mem.ptrType := by
    have large := utf16Tag_large mem.ptrType
    omega
  rw [ensures_requireMemory present, halved, ensures_pure]
  constructor
  · rw [guest, encoding, length_unitsToBytes, unitsToBytes_append]
    exact filled
  · intro mem' present'
    rw [present] at present'
    cases present'
    rw [guest, encoding, stringRange_tagged tagRoom, length_unitsToBytes]
    rfl
  · intro mem' present'
    rw [present] at present'
    cases present'
    exact tagged_lt tagRoom

theorem BlockLogic.storeLatin1Loop (logic : BlockLogic raised cx Start Block)
    (encoding : cx.stringEncoding = .latin1Utf16) (latin1 : ∀ unit ∈ leading, unit.toNat < 2 ^ 8)
    (wellFormed : Utf16.toWellFormed src = leading ++ rest)
    (short : (leading ++ rest).length < 2 ^ 29)
    (buffer : Block 2 (leading ++ rest).length (narrow leading) ptr state) :
    Ensures raised (storeLatin1Loop cx (leading ++ rest) ptr leading.length rest)
      (Encoded Block cx src) state := by
  induction rest generalizing leading state with
  | nil =>
      rw [List.append_nil] at wellFormed buffer short ⊢
      have guest : guestEncoding cx.stringEncoding (Utf16.toWellFormed src) =
          (.latin1, narrow leading) := by
        rw [encoding, wellFormed, guestEncoding_latin1 latin1]
      rw [Cabi.storeLatin1Loop, if_neg (Nat.lt_irrefl _), ensures_pure]
      constructor
      · rw [guest, encoding, narrow_length]
        exact buffer
      · intro mem _
        have large := utf16Tag_large mem.ptrType
        rw [guest, encoding, stringRange_untagged (by omega), narrow_length]
        rfl
      · intro mem _
        exact small_of_lt (by omega) mem
  | cons unit rest ih =>
      rw [Cabi.storeLatin1Loop]
      by_cases plain : unit.toNat < 2 ^ 8
      · rw [if_pos plain, ensures_bind]
        have regroup : leading ++ unit :: rest = (leading ++ [unit]) ++ rest := by simp
        apply (logic.setByte buffer (by simp)).imp
        intro _ final grown
        rw [regroup] at grown
        rw [regroup] at wellFormed short ⊢
        have longer : ∀ other ∈ leading ++ [unit], other.toNat < 2 ^ 8 := by
          intro other member
          rcases List.mem_append.mp member with before | here
          · exact latin1 other before
          · rw [List.mem_singleton.mp here]
            exact plain
        have count : leading.length + 1 = (leading ++ [unit]).length := by simp
        rw [count]
        exact ih longer wellFormed short grown
      · rw [if_neg plain]
        have wide : ¬∀ other ∈ leading ++ unit :: rest, other.toNat < 2 ^ 8 :=
          fun all => plain (all unit (by simp))
        exact logic.storeUtf16Tail encoding latin1 wellFormed wide short buffer

theorem BlockLogic.storeStringToLatin1OrUtf16 (logic : BlockLogic raised cx Start Block)
    (start : Start state) (encoding : cx.stringEncoding = .latin1Utf16)
    (short : src.length < 2 ^ 29) :
    Ensures raised (storeStringToLatin1OrUtf16 cx src) (Encoded Block cx src) state := by
  have bound : src.length ≤ REALLOC_I32_MAX := by
    unfold REALLOC_I32_MAX
    omega
  simp only [Cabi.storeStringToLatin1OrUtf16, ensures_bind, ensures_assert_ok bound]
  apply (logic.allocate start (.inr (.inl rfl)) (by omega)).imp
  intro ptr next checked
  apply checked.imp
  intro _ ready buffer
  rw [← Utf16.length_toWellFormed src] at short buffer
  have noUnit : ∀ unit ∈ ([] : List UInt16), unit.toNat < 2 ^ 8 := by simp
  exact logic.storeLatin1Loop encoding noUnit rfl short buffer

end Latin1

theorem BlockLogic.storeStringIntoRange (logic : BlockLogic raised cx Start Block)
    (start : Start state) {src : List UInt16} (short : src.length < 2 ^ 29) :
    Ensures raised (storeStringIntoRange cx src) (Encoded Block cx src) state := by
  unfold Cabi.storeStringIntoRange
  cases encoding : cx.stringEncoding with
  | utf8 => exact logic.storeUtf16ToUtf8 start encoding short
  | utf16 => exact logic.storeStringCopyUtf16 start encoding short
  | latin1Utf16 => exact logic.storeStringToLatin1OrUtf16 start encoding short

end Walks

end Polyengine.Cabi
