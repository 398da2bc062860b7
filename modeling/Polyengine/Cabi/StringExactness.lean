import Polyengine.Cabi.ReallocRecord

/-!
# Exact and confined string lowering

Whatever the guest's `realloc` returns, lowering a string writes to the block most recently
returned and to nothing else, and a block that is misaligned or out of range is not written to.
When every call keeps the old contents, what is left is exactly the encoded string.
-/

set_option autoImplicit false

namespace Polyengine.Cabi

open Polyengine.Library Command

namespace ReallocCall

/-- The call returned a block that is aligned and inside the memory. -/
def Usable (call : ReallocCall) : Prop :=
  ∃ ptr mem, call.result = .ok ptr ∧ call.after = some mem ∧ call.alignment ∣ ptr ∧
    ptr + call.newByteLength ≤ mem.length

/-- The call returned a pointer that is misaligned or whose block ends outside the memory. -/
def Wild (call : ReallocCall) : Prop :=
  ∃ ptr mem, call.result = .ok ptr ∧ call.after = some mem ∧
    (call.alignment ∣ ptr → mem.length < ptr + call.newByteLength)

/-- The call returned an aligned block inside the memory that holds the old contents up to the
smaller size. -/
def Lawful (call : ReallocCall) : Prop :=
  ∃ ptr before after, call.result = .ok ptr ∧ call.before = some before ∧
    call.after = some after ∧ call.alignment ∣ ptr ∧ ptr + call.newByteLength ≤ after.length ∧
    ∀ i, i < call.oldByteLength → i < call.newByteLength →
      after.byte (ptr + i) = before.byte (call.old + i)

def block (call : ReallocCall) : Set Nat :=
  { a | call.Usable ∧ ∃ ptr, call.result = .ok ptr ∧ a ∈ region ptr call.newByteLength }

theorem Lawful.usable {call : ReallocCall} (lawful : call.Lawful) : call.Usable := by
  obtain ⟨ptr, before, after, returned, _, present, aligned, inside, _⟩ := lawful
  exact ⟨ptr, after, returned, present, aligned, inside⟩

theorem Usable.not_wild {call : ReallocCall} (usable : call.Usable) : ¬call.Wild := by
  obtain ⟨ptr, mem, returned, present, aligned, inside⟩ := usable
  rintro ⟨ptr', mem', returned', present', outside⟩
  rw [returned] at returned'
  rw [present] at present'
  cases returned'
  cases present'
  have beyond := outside aligned
  omega

end ReallocCall

/-- The memories agree outside a region. -/
inductive Untouched (written : Set Nat) : Option MemInst → Option MemInst → Prop where
  | absent : Untouched written none none
  | present {mem mem' : MemInst} (length : mem'.length = mem.length)
      (addrType : mem'.addrType = mem.addrType)
      (outside : ∀ a, a ∉ written → mem'.byte a = mem.byte a) :
      Untouched written (some mem) (some mem')

theorem Untouched.write {written : Set Nat} {memory : Option MemInst} {mem after : MemInst}
    (untouched : Untouched written memory (some mem)) (length : after.length = mem.length)
    (addrType : after.addrType = mem.addrType)
    (outside : ∀ a, a ∉ written → after.byte a = mem.byte a) :
    Untouched written memory (some after) := by
  cases untouched with
  | present length' addrType' outside' =>
      exact .present (length.trans length') (addrType.trans addrType')
        fun a elsewhere => (outside a elsewhere).trans (outside' a elsewhere)

theorem Untouched.refl (written : Set Nat) (memory : Option MemInst) :
    Untouched written memory memory := by
  cases memory with
  | none => exact .absent
  | some mem => exact .present rfl rfl fun _ _ => rfl

/-- Before the first call the host writes nothing, and after each call it writes to the block that
the call returned: the memory a call finds differs from what the call before it left in that
block's bytes alone, and so does the memory in the end. -/
def Confined (initial : Option MemInst) : List ReallocCall → Option MemInst → Prop
  | [], now => Untouched ∅ initial now
  | call :: earlier, now =>
      Confined initial earlier call.before ∧ Untouched call.block call.after now

variable {World : Type}

/-- The failure comes from the checkpoint that follows a call of `realloc`. -/
def CheckpointFailure (cx : LiftLowerContext World) (failure : Failure) : Prop :=
  ∃ check state, cx.checkpoint = some check ∧ (check.outcome state).1 = .error failure

/-- How a run that has failed leaves things: confined, with a wild pointer refused, and not for
any fault of lawful calls. -/
structure Refused (initial : Option MemInst) (cx : LiftLowerContext World) (failure : Failure)
    (final : CxState (Recorded World)) : Prop where
  confined : Confined initial final.calls final.memory
  earlier : ∀ call ∈ final.calls.tail, call.Usable
  wild : ∀ call ∈ final.calls, call.Wild →
    failure = .trap REALLOC_MISALIGNED ∨ failure = .trap REALLOC_OOB ∨ CheckpointFailure cx failure
  lawful : (∀ call ∈ final.calls, call.Lawful) → CheckpointFailure cx failure

structure Between (initial : Option MemInst) (cx : LiftLowerContext World)
    (state : CxState (Recorded World)) : Prop where
  confined : Confined initial state.calls state.memory
  usable : ∀ call ∈ state.calls, call.Usable
  mayLeave : cx.hasInstance = true → state.mayLeave = true

/-- The block that the last call returned, whose leading bytes are known when every call was
lawful. -/
structure Holding (initial : Option MemInst) (cx : LiftLowerContext World)
    (alignment capacity : Nat) (bytes : List UInt8) (ptr : Nat)
    (state : CxState (Recorded World)) : Prop extends Between initial cx state where
  newest : ∃ call earlier, state.calls = call :: earlier ∧ call.result = .ok ptr ∧
    call.alignment = alignment ∧ call.newByteLength = capacity
  present : ∃ mem, state.memory = some mem ∧ ptr + capacity ≤ mem.length ∧
    ((∀ call ∈ state.calls, call.Lawful) → mem.bytesAt ptr bytes.length = bytes)
  aligned : alignment ∣ ptr
  fits : bytes.length ≤ capacity

def Called (state next : CxState (Recorded World))
    (old oldByteLength alignment newByteLength : Nat) (result : Except Failure Nat) : Prop :=
  next.calls =
    { old, oldByteLength, alignment, newByteLength, before := state.memory, result,
      after := next.memory } :: state.calls

section Rules

variable {cx : LiftLowerContext World} {initial : Option MemInst}
  {state next : CxState (Recorded World)}
  {old oldByteLength alignment newByteLength : Nat}

/-- The checkpoint looks at the state and leaves it alone, whether it returns or fails. -/
def SilentCheckpoint (cx : LiftLowerContext World) : Prop :=
  ∀ check, cx.checkpoint = some check → ∀ state, (check.outcome state).2 = state

theorem ensures_recordRealloc (realloc : Nat → Nat → Nat → Nat → Cx World Nat) :
    Ensures (fun failure next =>
        Called state next old oldByteLength alignment newByteLength (.error failure))
      (recordRealloc realloc old oldByteLength alignment newByteLength)
      (fun ptr next => Called state next old oldByteLength alignment newByteLength (.ok ptr))
      state := by
  have ran : (recordRealloc realloc old oldByteLength alignment newByteLength).outcome state =
      (((realloc old oldByteLength alignment newByteLength).outcome state.erase).1,
        CxState.recording
          ((realloc old oldByteLength alignment newByteLength).outcome state.erase).2
          ({ old, oldByteLength, alignment, newByteLength, before := state.memory,
             result := ((realloc old oldByteLength alignment newByteLength).outcome state.erase).1,
             after := ((realloc old oldByteLength alignment newByteLength).outcome
               state.erase).2.memory } :: state.calls)) := rfl
  unfold Ensures
  rw [ran]
  cases (realloc old oldByteLength alignment newByteLength).outcome state.erase with
  | mk result next => cases result <;> rfl

theorem ensures_unrecorded (silent : SilentCheckpoint cx) {check : Cx World Unit}
    (given : cx.checkpoint = some check) :
    Ensures (fun failure next => CheckpointFailure cx failure ∧ next = state) (unrecorded check)
      (fun _ next => next = state) state := by
  have ran : (unrecorded check).outcome state =
      ((check.outcome state.erase).1,
        CxState.recording (check.outcome state.erase).2 state.calls) := rfl
  rw [silent check given] at ran
  unfold Ensures
  rw [ran]
  cases result : (check.outcome state.erase).1 with
  | error failure => exact ⟨⟨check, state.erase, given, result⟩, rfl⟩
  | ok _ => rfl

theorem ensures_reallocate {realloc : Nat → Nat → Nat → Nat → Cx World Nat}
    (provided : cx.realloc = some realloc) (silent : SilentCheckpoint cx)
    (mayLeave : cx.hasInstance = true → state.mayLeave = true) :
    Ensures (fun failure next => ∃ result,
        Called state next old oldByteLength alignment newByteLength result ∧
          ∀ ptr, result = .ok ptr → CheckpointFailure cx failure)
      (cx.recorded.reallocate old oldByteLength alignment newByteLength)
      (fun ptr next => Called state next old oldByteLength alignment newByteLength (.ok ptr) ∧
        (cx.hasInstance = true → next.mayLeave = true)) state := by
  have recorded : cx.recorded.realloc = some (recordRealloc realloc) := by
    simp only [LiftLowerContext.recorded, provided, Option.map_some]
  have hosted : cx.recorded.hasInstance = cx.hasInstance := rfl
  have checked : cx.recorded.checkpoint = cx.checkpoint.map unrecorded := rfl
  unfold LiftLowerContext.reallocate
  simp only [recorded, hosted, checked]
  cases instance_ : cx.hasInstance with
  | false =>
      simp only [Bool.false_eq_true, if_false, false_implies, and_true]
      apply (ensures_recordRealloc realloc).mono _ fun _ _ called => called
      intro failure next called
      exact ⟨_, called, fun ptr returned => nomatch returned⟩
  | true =>
      simp only [if_true, ensures_bind, ensures_get, ensures_modify,
        ensures_assert_ok (mayLeave instance_), true_implies]
      apply (ensures_recordRealloc realloc).mono
      · intro failure next called
        exact ⟨_, called, fun ptr returned => nomatch returned⟩
      · intro ptr next called
        have flagged : Called state { next with mayLeave := true } old oldByteLength alignment
            newByteLength (.ok ptr) := called
        cases given : cx.checkpoint with
        | none =>
            rw [Option.map_none, ensures_pure]
            exact ⟨flagged, rfl⟩
        | some check =>
            simp only [Option.map_some, ensures_bind]
            apply (ensures_unrecorded silent given).mono
            · rintro failure last ⟨raised, rfl⟩
              exact ⟨_, flagged, fun _ _ => raised⟩
            · rintro _ last rfl
              rw [ensures_pure]
              exact ⟨flagged, rfl⟩

theorem Called.refused {result : Except Failure Nat} {failure : Failure}
    (called : Called state next old oldByteLength alignment newByteLength result)
    (between : Between initial cx state)
    (wild : ∀ ptr mem, result = .ok ptr → next.memory = some mem →
      (alignment ∣ ptr → mem.length < ptr + newByteLength) →
      failure = .trap REALLOC_MISALIGNED ∨ failure = .trap REALLOC_OOB ∨
        CheckpointFailure cx failure)
    (lawful : ∀ ptr mem, result = .ok ptr → next.memory = some mem → alignment ∣ ptr →
      ptr + newByteLength ≤ mem.length → CheckpointFailure cx failure) :
    Refused initial cx failure next := by
  unfold Called at called
  constructor
  · rw [called]
    exact ⟨between.confined, .refl _ _⟩
  · rw [called]
    exact between.usable
  · intro call member isWild
    rw [called] at member
    cases member with
    | head =>
        obtain ⟨ptr, mem, returned, present, outside⟩ := isWild
        exact wild ptr mem returned present outside
    | tail _ older => exact absurd isWild (between.usable call older).not_wild
  · intro all
    rw [called] at all
    obtain ⟨ptr, _, mem, returned, _, present, aligned, inside, _⟩ := all _ (.head _)
    exact lawful ptr mem returned present aligned inside

theorem ensures_block {realloc : Nat → Nat → Nat → Nat → Cx World Nat}
    (provided : cx.realloc = some realloc) (silent : SilentCheckpoint cx)
    (between : Between initial cx state) (isAlignment : IsAlignment alignment) :
    Ensures (Refused initial cx)
      (cx.recorded.reallocate old oldByteLength alignment newByteLength)
      (fun ptr next => Ensures (Refused initial cx)
        (checkBlock ptr alignment newByteLength : Cx (Recorded World) Unit)
        (fun _ final => Called state final old oldByteLength alignment newByteLength (.ok ptr) ∧
          Between initial cx final ∧ alignment ∣ ptr ∧
          ∃ mem, final.memory = some mem ∧ ptr + newByteLength ≤ mem.length) next) state := by
  apply (ensures_reallocate provided silent between.mayLeave).mono
  · rintro failure next ⟨result, called, raised⟩
    apply called.refused between
    · intro ptr mem returned _ _
      exact .inr (.inr (raised ptr returned))
    · intro ptr mem returned _ _ _
      exact raised ptr returned
  · rintro ptr next ⟨called, mayLeave⟩
    cases present : next.memory with
    | none =>
        have absent : ∀ mem, next.memory ≠ some mem := by simp [present]
        simp only [checkBlock, requireMemory, ensures_bind, ensures_get, present, ensures_throw]
        apply called.refused between
        · intro _ mem _ found _
          exact absurd found (absent mem)
        · intro _ mem _ found _ _
          exact absurd found (absent mem)
    | some mem =>
        simp only [checkBlock, ensures_bind, ensures_requireMemory present,
          Command.ensures_trapIf]
        constructor
        · intro misaligned
          apply called.refused between
          · intro _ _ _ _ _
            exact .inl rfl
          · intro ptr' _ returned _ aligned _
            cases returned
            exact absurd (alignTo_eq isAlignment.pos aligned).symm misaligned
        · intro aligned
          have divides : alignment ∣ ptr := by
            rw [not_not.mp aligned]
            exact dvd_alignTo ptr alignment
          constructor
          · intro outside
            apply called.refused between
            · intro _ _ _ _ _
              exact .inr (.inl rfl)
            · intro ptr' mem' returned found _ inside
              cases returned
              rw [present] at found
              cases found
              omega
          · intro notOutside
            have inside : ptr + newByteLength ≤ mem.length := Nat.not_lt.mp notOutside
            refine ⟨called, ⟨?_, ?_, mayLeave⟩, divides, mem, present, inside⟩
            · unfold Called at called
              rw [called]
              exact ⟨between.confined, .refl _ _⟩
            · unfold Called at called
              rw [called]
              intro call member
              cases member with
              | head => exact ⟨ptr, mem, rfl, present, divides, inside⟩
              | tail _ older => exact between.usable call older

theorem holding_blockLogic {realloc : Nat → Nat → Nat → Nat → Cx World Nat}
    (provided : cx.realloc = some realloc) (silent : SilentCheckpoint cx)
    (initial : Option MemInst) :
    BlockLogic (Refused initial cx) cx.recorded (Between initial cx) (Holding initial cx) where
  memory := by
    intro _ _ _ _ _ holding
    obtain ⟨mem, present, _⟩ := holding.present
    exact ⟨mem, present⟩
  fits := fun holding => holding.fits
  allocate := by
    intro alignment capacity state between isAlignment _
    apply (ensures_block provided silent between isAlignment).imp
    intro ptr next checked
    apply checked.imp
    rintro _ final ⟨called, after, aligned, mem, present, inside⟩
    exact {
      toBetween := after
      newest := ⟨_, _, called, rfl, rfl, rfl⟩
      present := ⟨mem, present, inside, fun _ => rfl⟩
      aligned := aligned
      fits := Nat.zero_le _ }
  reallocate := by
    intro alignment capacity capacity' ptr bytes state holding isAlignment fits _
    apply (ensures_block provided silent holding.toBetween isAlignment).imp
    intro ptr' next checked
    apply checked.imp
    rintro _ final ⟨called, after, aligned, mem, present, inside⟩
    obtain ⟨old, before, _, contents⟩ := holding.present
    refine {
      toBetween := after
      newest := ⟨_, _, called, rfl, rfl, rfl⟩
      present := ⟨mem, present, inside, ?_⟩
      aligned := aligned
      fits := fits }
    intro lawful
    unfold Called at called
    rw [called] at lawful
    have known := contents fun call older => lawful call (.tail _ older)
    obtain ⟨_, before', after', returned, found, found', _, _, moved⟩ := lawful _ (.head _)
    cases returned
    rw [before] at found
    rw [present] at found'
    cases found
    cases found'
    rw [← known]
    apply List.ext_getElem
    · simp
    · intro i inAfter inBefore
      have bound : i < bytes.length := by simpa using inBefore
      rw [MemInst.getElem_bytesAt, MemInst.getElem_bytesAt]
      exact moved i (bound.trans_le holding.fits) (bound.trans_le fits)
  rewrite := by
    intro alignment capacity ptr bytes bytes' state change holding rewrites fits
    obtain ⟨mem, present, inside, contents⟩ := holding.present
    obtain ⟨call, earlier, calls, returned, _, size⟩ := holding.newest
    obtain ⟨after, changed, length, addrType, outside, rewritten⟩ := rewrites mem inside
    have usable : call.Usable := holding.usable call (by rw [calls]; exact .head _)
    rw [ensures_modifyMemory present, changed]
    have kept : CxState.calls { state with memory := some after } = state.calls := rfl
    exact {
      confined := by
        have confined := holding.confined
        rw [kept]
        rw [calls, present] at confined
        rw [calls]
        refine ⟨confined.1, confined.2.write length addrType ?_⟩
        intro a elsewhere
        apply outside
        intro within
        exact elsewhere ⟨usable, ptr, returned, by rwa [size]⟩
      usable := holding.usable
      mayLeave := holding.mayLeave
      newest := holding.newest
      present := ⟨after, rfl, by rwa [length], fun lawful => rewritten (contents lawful)⟩
      aligned := holding.aligned
      fits := fits }

end Rules

/-- The bytes at the pointer are exactly the guest encoding of the well-formed string, the tagged
length denotes exactly them, and they fill the block that was requested last. -/
structure StoredExactly (stringEncoding : StringEncoding) (src : List UInt16)
    (calls : List ReallocCall) (mem : MemInst) (ptr taggedCodeUnits : Nat) : Prop where
  aligned : stringAlignment stringEncoding ∣ ptr
  inside : ptr + (guestEncoding stringEncoding (Utf16.toWellFormed src)).2.length ≤ mem.length
  contents : mem.bytesAt ptr (guestEncoding stringEncoding (Utf16.toWellFormed src)).2.length =
    (guestEncoding stringEncoding (Utf16.toWellFormed src)).2
  denotes : stringRange stringEncoding mem.ptrType taggedCodeUnits =
    (stringAlignment stringEncoding,
      (guestEncoding stringEncoding (Utf16.toWellFormed src)).2.length,
      (guestEncoding stringEncoding (Utf16.toWellFormed src)).1)
  decodes : decodeString (guestEncoding stringEncoding (Utf16.toWellFormed src)).1
    (guestEncoding stringEncoding (Utf16.toWellFormed src)).2 = .ok (Utf16.toWellFormed src)
  requested : ∃ call, calls.head? = some call ∧ call.result = .ok ptr ∧
    call.newByteLength = (guestEncoding stringEncoding (Utf16.toWellFormed src)).2.length

/-- Lowering a string of fewer than 2^29 code units. The run with recorded calls is the run itself;
it is confined; a wild pointer ends it; and when all its calls are lawful the string is stored
exactly, unless a checkpoint stops the operation. -/
theorem storeStringIntoRange_exact {World : Type} (cx : LiftLowerContext World)
    {realloc : Nat → Nat → Nat → Nat → Cx World Nat} (provided : cx.realloc = some realloc)
    (silent : SilentCheckpoint cx) (src : List UInt16) (short : src.length < 2 ^ 29)
    (state : CxState World) (mayLeave : cx.hasInstance = true → state.mayLeave = true)
    (result : Except Failure (Nat × Nat)) (final : CxState (Recorded World))
    (ran : (storeStringIntoRange cx.recorded src).outcome (state.recording []) = (result, final)) :
    (storeStringIntoRange cx src).outcome state = (result, final.erase) ∧
      Confined state.memory final.calls final.memory ∧
      (∀ call ∈ final.calls, call.Wild → final.calls.head? = some call ∧
        ∃ failure, result = .error failure ∧
          (failure = .trap REALLOC_MISALIGNED ∨ failure = .trap REALLOC_OOB ∨
            CheckpointFailure cx failure)) ∧
      ((∀ call ∈ final.calls, call.Lawful) →
        (∃ ptr taggedCodeUnits mem, result = .ok (ptr, taggedCodeUnits) ∧
          final.memory = some mem ∧
          StoredExactly cx.stringEncoding src final.calls mem ptr taggedCodeUnits) ∨
        ∃ failure, result = .error failure ∧ CheckpointFailure cx failure) := by
  have start : Between state.memory cx (state.recording []) := by
    refine ⟨.refl _ _, ?_, mayLeave⟩
    intro call member
    cases member
  have spec := (holding_blockLogic provided silent state.memory).storeStringIntoRange start short
  have erased := erases_storeStringIntoRange cx src (state.recording [])
  rw [ran] at erased
  refine ⟨erased, ?_⟩
  cases result with
  | error failure =>
      have refused := spec.of_error ran
      refine ⟨refused.confined, ?_, fun lawful => .inr ⟨failure, rfl, refused.lawful lawful⟩⟩
      intro call member wild
      refine ⟨?_, failure, rfl, refused.wild call member wild⟩
      cases calls : final.calls with
      | nil =>
          rw [calls] at member
          cases member
      | cons newest earlier =>
          have others := refused.earlier
          rw [calls] at member others
          cases member with
          | head => rfl
          | tail _ older => exact absurd wild (others call older).not_wild
  | ok stored =>
      have encoded := spec.of_ok ran
      have holding := encoded.block
      refine ⟨holding.confined, ?_, ?_⟩
      · intro call member wild
        exact absurd wild (holding.usable call member).not_wild
      · intro lawful
        obtain ⟨mem, present, inside, contents⟩ := holding.present
        obtain ⟨call, earlier, calls, returned, _, size⟩ := holding.newest
        refine .inl ⟨stored.1, stored.2, mem, rfl, present, ?_⟩
        exact {
          aligned := holding.aligned
          inside := inside
          contents := contents lawful
          denotes := encoded.denotes mem present
          decodes := decodeString_guestEncoding cx.stringEncoding src
          requested := ⟨call, by rw [calls]; rfl, returned, size⟩ }

/-- A guest with one block, which is resized where it is. -/
def oneBlockContext : LiftLowerContext Unit where
  stringEncoding := .utf8
  realloc := some fun old _ _ _ => pure (if old = 0 then 8 else old)
  hasInstance := true
  checkpoint := none
  liftHandle := fun _ _ => throw (.trap "no handles")
  lowerHandle := fun _ _ => throw (.trap "no handles")
  littleEndian := true
  byteOffset := 0

def oneBlockState : CxState Unit where
  memory := some { length := 64, byte := fun _ => 0, addrType := .i32 }
  mayLeave := true
  world := ()

/-- The block is acquired for two ASCII units, grows to the worst case and shrinks again. -/
theorem storeStringIntoRange_exact_accented :
    ∃ mem calls, StoredExactly .utf8 [0x63, 0xE9] calls mem 8 3 ∧ calls.length = 3 := by
  obtain ⟨_, _, _, exact⟩ := storeStringIntoRange_exact oneBlockContext rfl
    (fun _ given => nomatch given) [0x63, 0xE9] (by decide) oneBlockState (fun _ => rfl) _ _ rfl
  have lawful : ∀ call ∈ (((storeStringIntoRange oneBlockContext.recorded [0x63, 0xE9]).outcome
      (oneBlockState.recording [])).2).calls, call.Lawful := by
    intro call member
    rcases member with _ | ⟨_, _ | ⟨_, _ | ⟨_, older⟩⟩⟩
    · exact ⟨8, _, _, rfl, rfl, rfl, by decide, by decide, fun _ _ _ => rfl⟩
    · exact ⟨8, _, _, rfl, rfl, rfl, by decide, by decide, fun _ _ _ => rfl⟩
    · exact ⟨8, _, _, rfl, rfl, rfl, by decide, by decide,
        fun _ bound => absurd bound (Nat.not_lt_zero _)⟩
    · cases older
  rcases exact lawful with ⟨ptr, taggedCodeUnits, mem, returned, present, stored⟩ | ⟨_, raised, _⟩
  · cases returned
    exact ⟨mem, _, stored, rfl⟩
  · cases raised

end Polyengine.Cabi
