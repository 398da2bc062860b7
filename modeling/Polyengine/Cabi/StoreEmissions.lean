import Polyengine.Cabi.LoadSafety
import Polyengine.Cabi.LowerLaw
import Polyengine.Cabi.StringProperties

/-!
# What storing emits

Storing a value emits the leaves of its handles in the order of its type, and nothing else about it
depends on the ledger: strings, numbers and bulk lists are silent.
-/

set_option autoImplicit false

namespace Polyengine.Cabi

open Polyengine.Library Command

variable {World Item : Type} {cx : LiftLowerContext World} {ledger : Ledger (CxState World) Item}
  {permitted : Failure → Prop} {leaf : DespecializedValType → Value → List Item}
  {ptrType : PtrType}

section Strings

/-- Both lanes of a lowered string or list fit. -/
def InLanes (ptrType : PtrType) (result : Nat × Nat) : Prop :=
  InPtr ptrType result.1 ∧ InPtr ptrType result.2

variable (law : LowerLaw cx ledger permitted leaf ptrType)

include law

theorem storeStringCopyUtf16_emits (src : List UInt16) :
    ledger.Emits permitted [] (storeStringCopyUtf16 cx src) (InLanes ptrType) := by
  rw [storeStringCopyUtf16]
  refine (law.assert_ (by decide)).after ?_
  intro _ short
  refine law.allocated.after ?_
  intro ptr small
  refine (law.checkBlock _ _ _).after ?_
  intro _ _
  refine (law.assert_ (by decide)).after ?_
  intro _ _
  refine (law.modifyMemory fun mem => SameShape.writeBytes mem _ _).after ?_
  intro _ _
  have bound : src.length < 2 ^ 32 := by
    unfold REALLOC_I32_MAX at short
    omega
  exact .pure ⟨.of_lt small, .of_lt bound⟩

theorem storeUtf8Tail_emits (src : List UInt16) {worstCaseSize : Nat}
    (worst : src.length * 3 ≤ worstCaseSize) (ptr i : Nat) :
    ledger.Emits permitted [] (storeUtf8Tail cx src worstCaseSize ptr i) (InLanes ptrType) := by
  rw [storeUtf8Tail]
  refine (law.assert_ (by decide)).after ?_
  intro _ short
  have encoded := length_utf8Encode_le src
  have bound : (utf8Encode src).length < 2 ^ 32 := by
    unfold REALLOC_I32_MAX at short
    omega
  refine law.allocated.after ?_
  intro ptr small
  refine (law.checkBlock _ _ _).after ?_
  intro _ _
  refine (law.modifyMemory fun mem => SameShape.writeBytes mem _ _).after ?_
  intro _ _
  apply Ledger.Emits.ite
  · intro _
    refine law.allocated.after ?_
    intro ptr small
    refine (law.checkBlock _ _ _).after ?_
    intro _ _
    exact .pure ⟨.of_lt small, .of_lt bound⟩
  · intro _
    exact .pure ⟨.of_lt small, .of_lt bound⟩

theorem setByte_emits (ptr : Nat) (byte : UInt8) :
    ledger.Emits permitted []
      (Cabi.modifyMemory fun mem => return mem.setByte ptr byte : Cx World Unit)
      fun _ => True :=
  law.modifyMemory fun mem => (SameShape.refl mem).setByte ptr byte

theorem widen_emits (ptr dstByteLength : Nat) :
    ledger.Emits permitted []
      (Cabi.modifyMemory fun mem => return widen ptr dstByteLength mem : Cx World Unit)
      fun _ => True :=
  law.modifyMemory fun mem => (SameShape.refl mem).widen ptr dstByteLength

theorem storeUtf8Loop_emits {src : List UInt16} (short : src.length < 2 ^ 32)
    {worstCaseSize ptr : Nat} (worst : src.length * 3 ≤ worstCaseSize) (small : ptr < 2 ^ 32)
    (i : Nat) (rest : List UInt16) :
    ledger.Emits permitted [] (storeUtf8Loop cx src worstCaseSize ptr i rest) (InLanes ptrType) := by
  induction rest generalizing i with
  | nil => exact .pure ⟨.of_lt small, .of_lt short⟩
  | cons cu rest ih =>
      rw [storeUtf8Loop]
      apply Ledger.Emits.ite
      · intro _
        refine (setByte_emits law _ _).after ?_
        intro _ _
        exact ih (i + 1)
      · intro _
        exact storeUtf8Tail_emits law src worst ptr i

theorem storeUtf16ToUtf8_emits (src : List UInt16) :
    ledger.Emits permitted [] (storeUtf16ToUtf8 cx src) (InLanes ptrType) := by
  rw [storeUtf16ToUtf8, storeStringToUtf8]
  refine (law.assert_ (by decide)).after ?_
  intro _ short
  refine law.allocated.after ?_
  intro ptr small
  refine (law.checkBlock _ _ _).after ?_
  intro _ _
  have bound : src.length < 2 ^ 32 := by
    unfold REALLOC_I32_MAX at short
    omega
  exact storeUtf8Loop_emits law bound (Nat.le_refl _) small 0 src

theorem storeUtf16Tail_emits (wf : List UInt16) (ptr dstByteLength : Nat) :
    ledger.Emits permitted [] (storeUtf16Tail cx wf ptr dstByteLength) (InLanes ptrType) := by
  rw [storeUtf16Tail]
  refine (law.assert_ (by decide)).after ?_
  intro _ short
  refine law.allocated.after ?_
  intro ptr small
  refine (law.checkBlock _ _ _).after ?_
  intro _ _
  refine (widen_emits law _ _).after ?_
  intro _ _
  refine (law.modifyMemory fun mem => SameShape.writeBytes mem _ _).after ?_
  intro _ _
  refine law.requireMemory.after ?_
  intro mem width
  have untagged : (encodeUtf16Le wf).length / 2 < utf16Tag mem.ptrType := by
    have half : (encodeUtf16Le wf).length / 2 = wf.length := by
      rw [length_encodeUtf16Le]
      omega
    have tag : 2 ^ 31 ≤ utf16Tag mem.ptrType := by
      cases mem.ptrType <;> decide
    unfold REALLOC_I32_MAX at short
    omega
  have tagged : InPtr ptrType ((encodeUtf16Le wf).length / 2 ||| utf16Tag mem.ptrType) := by
    rw [← width]
    exact tagged_lt untagged
  apply Ledger.Emits.ite
  · intro _
    refine law.allocated.after ?_
    intro ptr small
    refine (law.checkBlock _ _ _).after ?_
    intro _ _
    exact .pure ⟨.of_lt small, tagged⟩
  · intro _
    exact .pure ⟨.of_lt small, tagged⟩

theorem storeLatin1Loop_emits {wf : List UInt16} (short : wf.length < 2 ^ 32) {ptr : Nat}
    (small : ptr < 2 ^ 32) (dstByteLength : Nat) (rest : List UInt16)
    (parts : dstByteLength + rest.length = wf.length) :
    ledger.Emits permitted [] (storeLatin1Loop cx wf ptr dstByteLength rest) (InLanes ptrType) := by
  induction rest generalizing dstByteLength with
  | nil =>
      have bound : dstByteLength < 2 ^ 32 := by
        rw [List.length_nil] at parts
        omega
      rw [storeLatin1Loop]
      apply Ledger.Emits.ite
      · intro _
        refine law.allocated.after ?_
        intro ptr small
        refine (law.checkBlock _ _ _).after ?_
        intro _ _
        exact .pure ⟨.of_lt small, .of_lt bound⟩
      · intro _
        exact .pure ⟨.of_lt small, .of_lt bound⟩
  | cons cu rest ih =>
      rw [List.length_cons] at parts
      rw [storeLatin1Loop]
      apply Ledger.Emits.ite
      · intro _
        refine (setByte_emits law _ _).after ?_
        intro _ _
        exact ih (dstByteLength + 1) (by omega)
      · intro _
        exact storeUtf16Tail_emits law wf ptr dstByteLength

theorem storeStringToLatin1OrUtf16_emits (src : List UInt16) :
    ledger.Emits permitted [] (storeStringToLatin1OrUtf16 cx src) (InLanes ptrType) := by
  rw [storeStringToLatin1OrUtf16]
  refine (law.assert_ (by decide)).after ?_
  intro _ short
  refine law.allocated.after ?_
  intro ptr small
  refine (law.checkBlock _ _ _).after ?_
  intro _ _
  have bound : (Utf16.toWellFormed src).length < 2 ^ 32 := by
    rw [Utf16.length_toWellFormed]
    unfold REALLOC_I32_MAX at short
    omega
  exact storeLatin1Loop_emits law bound small 0 _ (Nat.zero_add _)

theorem storeStringIntoRange_emits (src : List UInt16) :
    ledger.Emits permitted [] (storeStringIntoRange cx src) (InLanes ptrType) := by
  rw [storeStringIntoRange]
  cases cx.stringEncoding with
  | utf8 => exact storeUtf16ToUtf8_emits law src
  | utf16 => exact storeStringCopyUtf16_emits law src
  | latin1Utf16 => exact storeStringToLatin1OrUtf16_emits law src

theorem storeString_emits (v : List UInt16) (ptr : Nat) :
    ledger.Emits permitted [] (storeString cx v ptr) fun _ => True := by
  rw [storeString]
  refine (storeStringIntoRange_emits law v).after ?_
  rintro ⟨start, taggedCodeUnits⟩ _
  refine (law.modifyMemory fun mem => SameShape.storeInt mem _ _ _ _).after ?_
  intro _ _
  exact law.modifyMemory fun mem => SameShape.storeInt mem _ _ _ _

end Strings


section Store

variable (law : LowerLaw cx ledger permitted leaf ptrType)

include law

theorem LowerLaw.reads {Result : Type} {computation : Except Failure Result}
    {post : Result → Prop} (satisfies : Fallible.Satisfies OffLanes computation post) :
    ledger.Emits permitted [] (liftM computation : Cx World Result) fun result =>
      computation = .ok result ∧ post result := by
  apply law.lift
  cases ran : computation with
  | error failure => exact satisfies.of_error ran
  | ok result => exact ⟨rfl, satisfies.of_ok ran⟩

theorem tryStoreNumericList_emits (elements : List Value) (ptr : Nat) (kind : Option PrimKind) :
    ledger.Emits permitted [] (tryStoreNumericList cx elements ptr kind) fun done =>
      done = true → kind.isSome = true := by
  rw [tryStoreNumericList]
  refine law.requireMemory.after ?_
  intro mem _
  apply Ledger.Emits.ite
  · intro isBool
    refine (law.lift (bytesOf_offLanes mem ptr _)).after ?_
    intro _ _
    refine (law.modifyMemory fun mem => SameShape.write mem _ _).after ?_
    intro _ _
    apply Ledger.Emits.pure
    intro _
    rw [isBool]
    rfl
  · intro _
    cases kind with
    | none =>
        apply Ledger.Emits.pure
        intro done
        cases done
    | some kind =>
        cases handled : arrayCtor kind with
        | none =>
            simp only [Option.bind_some, handled]
            exact .pure fun _ => rfl
        | some ctor =>
            simp only [Option.bind_some, handled]
            refine (law.lift (viewOf_offLanes ctor.width mem ptr _)).after ?_
            intro viewed _
            cases viewed with
            | false => exact .pure fun _ => rfl
            | true =>
                refine (law.lift (concatBytes_offLanes
                  (arrayCtorWrite_offLanes ctor) elements)).after ?_
                intro bytes _
                refine (law.modifyMemory fun mem => SameShape.write mem _ _).after ?_
                intro _ _
                exact .pure fun _ => rfl

variable {element : DespecializedValType} {storeElement : Value → Nat → Cx World Unit}

def StoreEmits (ledger : Ledger (CxState World) Item) (permitted : Failure → Prop)
    (leaf : DespecializedValType → Value → List Item) (d : DespecializedValType)
    (storeElement : Value → Nat → Cx World Unit) : Prop :=
  ∀ v ptr, ledger.Emits permitted (leavesOf leaf d v) (storeElement v ptr) fun _ => True

omit law in
theorem storeElements_emits (emits : StoreEmits ledger permitted leaf element storeElement)
    (size : Nat) (elements : List Value) (ptr : Nat) :
    ledger.Emits permitted (elements.flatMap (leavesOf leaf element))
      (storeElements storeElement size elements ptr) fun _ => True := by
  induction elements generalizing ptr with
  | nil => exact .pure trivial
  | cons v rest ih =>
      rw [storeElements, List.flatMap_cons]
      exact (emits v ptr).bind fun _ _ => ih (ptr + size)

omit law in
theorem leavesOf_primitive {kind : PrimKind} (primitive : element.primKind = some kind)
    (elements : List Value) : elements.flatMap (leavesOf leaf element) = [] := by
  rw [primKind_eq primitive, List.flatMap_eq_nil_iff]
  intro v _
  exact leavesOf_prim leaf kind v

theorem LowerLaw.layoutOf {d : DespecializedValType} (valid : ValidType True d)
    (ptrType : PtrType) :
    ledger.Emits permitted [] (liftM (Cabi.layoutOf d ptrType) : Cx World Layout) fun layout =>
      layout.size = elemSize ptrType d := by
  apply law.lift
  obtain ⟨layout, laidOut, _, _, size, _⟩ := valid.layoutOf ptrType
  rw [laidOut]
  exact size

theorem LowerLaw.arrayLike (v : Value) :
    ledger.Emits permitted [] (liftM (Cabi.arrayLike v) : Cx World (List Value)) fun elements =>
      Cabi.arrayLike v = .ok elements :=
  (law.reads (arrayLike_offLanes v)).imp fun _ listed => listed.1

theorem storeListIntoValidRange_emits (valid : ValidType True element)
    (emits : StoreEmits ledger permitted leaf element storeElement) (v : Value) (ptr : Nat)
    (length : Option Nat) :
    ledger.Emits permitted (leavesOf leaf (.list element length) v)
      (storeListIntoValidRange cx storeElement v ptr element) fun _ => True := by
  rw [storeListIntoValidRange]
  refine law.requireMemory.after ?_
  intro mem _
  refine (law.layoutOf valid mem.ptrType).after ?_
  intro layout _
  refine (law.arrayLike v).after ?_
  intro elements listed
  rw [leavesOf_list leaf listed]
  apply Ledger.Emits.ite
  · intro isByte
    rw [leavesOf_primitive isByte]
    refine (law.lift (bytesOf_offLanes mem ptr _)).after ?_
    intro _ _
    refine (law.lift (concatBytes_offLanes byteElement_offLanes elements)).after ?_
    intro bytes _
    exact law.modifyMemory fun mem => SameShape.write mem ptr bytes
  · intro _
    refine (tryStoreNumericList_emits law elements ptr element.primKind).after ?_
    intro done primitive
    apply Ledger.Emits.ite
    · intro stored
      obtain ⟨kind, isKind⟩ := Option.isSome_iff_exists.mp (primitive stored)
      rw [leavesOf_primitive isKind]
      exact .pure trivial
    · intro _
      exact storeElements_emits emits layout.size elements ptr

theorem storeListIntoRange_emits (valid : ValidType True element)
    (emits : StoreEmits ledger permitted leaf element storeElement) (v : Value)
    (length : Option Nat) :
    ledger.Emits permitted (leavesOf leaf (.list element length) v)
      (storeListIntoRange cx storeElement v element) (InLanes ptrType) := by
  rw [storeListIntoRange]
  refine law.requireMemory.after ?_
  intro mem _
  refine (law.layoutOf valid mem.ptrType).after ?_
  intro layout size
  refine (law.arrayLike v).after ?_
  intro elements listed
  refine (law.assert_ (by decide)).after ?_
  intro _ short
  refine law.allocated.after ?_
  intro ptr small
  refine (law.checkBlock _ _ _).after ?_
  intro _ _
  refine (storeListIntoValidRange_emits law valid emits v ptr length).before ?_
  intro _ _
  have positive : 0 < layout.size := by
    rw [size]
    exact (valid.soundLayout mem.ptrType).positive
  have bound : elements.length < 2 ^ 32 := by
    have least := Nat.mul_le_mul_left elements.length positive
    unfold REALLOC_I32_MAX at short
    omega
  exact .pure ⟨.of_lt small, .of_lt bound⟩

theorem storeList_emits (valid : ValidType True element)
    (emits : StoreEmits ledger permitted leaf element storeElement) (v : Value) (ptr : Nat)
    (maybeLength : Option Nat) :
    ledger.Emits permitted (leavesOf leaf (.list element maybeLength) v)
      (storeList cx storeElement v ptr element maybeLength) fun _ => True := by
  cases maybeLength with
  | some length =>
      rw [storeList]
      refine (law.arrayLike v).after ?_
      intro elements _
      refine (law.assert_ (by decide)).after ?_
      intro _ _
      exact storeListIntoValidRange_emits law valid emits v ptr (some length)
  | none =>
      rw [storeList]
      refine (storeListIntoRange_emits law valid emits v none).before ?_
      intro range _
      refine (law.modifyMemory fun mem => SameShape.storeInt mem _ _ _ _).after ?_
      intro _ _
      exact law.modifyMemory fun mem => SameShape.storeInt mem _ _ _ _

theorem storeFlags_emits (v : Value) (ptr : Nat) (labels : List String) :
    ledger.Emits permitted [] (storeFlags v ptr labels : Cx World Unit) fun _ => True := by
  rw [storeFlags]
  refine (law.lift (packFlags_offLanes v 0 0 labels)).after ?_
  intro i _
  exact law.modifyMemory fun mem => SameShape.storeInt mem _ _ _ _

theorem storePrim_emits (v : Value) (ptr : Nat) (kind : PrimKind) :
    ledger.Emits permitted [] (storePrim cx v ptr kind) fun _ => True := by
  have stored : ∀ (i : Value) (nbytes : Nat) (signed : Bool), ledger.Emits permitted []
      (modifyMemory fun mem => storeInt mem i ptr nbytes signed : Cx World Unit) fun _ => True :=
    fun i nbytes signed => law.modifyMemory fun mem => SameShape.storeInt mem i ptr nbytes signed
  have refused : ledger.Emits permitted [] (throw illTyped : Cx World Unit) fun _ => True :=
    .throw (law.own _ illTyped_offLanes) []
  cases kind with
  | f32 =>
      cases v with
      | f32 bits => exact stored _ 4 false
      | _ => exact refused
  | f64 =>
      cases v with
      | f64 bits => exact stored _ 8 false
      | _ => exact refused
  | char =>
      refine (law.lift (asString_offLanes v)).after ?_
      intro c _
      refine (law.lift (charToI32_offLanes c)).after ?_
      intro i _
      exact stored _ 4 false
  | string =>
      refine (law.lift (asString_offLanes v)).after ?_
      intro units _
      exact storeString_emits law units ptr
  | _ => exact stored _ _ _

theorem storeHandle_emits (v : Value) (ptr : Nat) {d : DespecializedValType}
    (isHandle : d.isHandle = true) :
    ledger.Emits permitted (leavesOf leaf d v) (storeHandle cx v ptr d) fun _ => True := by
  rw [storeHandle, leavesOf_handle leaf isHandle]
  refine (law.handle d v isHandle).before ?_
  intro index _
  exact law.modifyMemory fun mem => SameShape.storeInt mem _ _ _ _

theorem storeRecord_emits {fields : List DespecializedFieldType}
    (emits : ∀ field ∈ fields,
      StoreEmits ledger permitted leaf field.type fun v ptr => store cx v ptr field.type)
    (v : Value) (ptr : Nat) (offsets : List Nat) :
    ledger.Emits permitted (leavesOfFields leaf fields v) (storeRecord cx v ptr fields offsets)
      fun _ => True := by
  induction fields generalizing offsets with
  | nil =>
      rw [storeRecord, leavesOfFields]
      exact .pure trivial
  | cons first rest ih =>
      obtain ⟨label, type⟩ := first
      rw [storeRecord, leavesOfFields]
      refine (law.reads (propertyOf_offLanes v label)).after ?_
      intro value read
      rw [read.1]
      refine (emits ⟨label, type⟩ List.mem_cons_self value _).bind ?_
      intro _ _
      exact ih (fun field member => emits field (List.mem_cons_of_mem _ member)) offsets.tail

omit law in
theorem storeCase_emits {cases' : List DespecializedCaseType}
    (emits : ∀ case ∈ cases', ∀ type, case.type = some type →
      StoreEmits ledger permitted leaf type fun v ptr => store cx v ptr type)
    (kind : String) (value : Value) (ptr : Nat) {index : Nat}
    (selected : cases'.findIdx? (fun case => case.label == kind) = some index) :
    ledger.Emits permitted (leavesOfCase leaf cases' kind value)
      (storeCase cx value ptr cases' index) fun _ => True := by
  induction cases' generalizing index with
  | nil => cases selected
  | cons first rest ih =>
      obtain ⟨label, content⟩ := first
      rw [List.findIdx?_cons] at selected
      by_cases same : (label == kind) = true
      · rw [if_pos same] at selected
        cases selected
        cases content with
        | none =>
            rw [storeCase, leavesOfCase, if_pos same]
            exact .pure trivial
        | some type =>
            rw [storeCase, leavesOfCase, if_pos same]
            exact emits ⟨label, some type⟩ List.mem_cons_self type rfl value ptr
      · rw [if_neg same] at selected
        obtain ⟨later, found, rfl⟩ := Option.map_eq_some_iff.mp selected
        have rest' := ih (fun case member => emits case (List.mem_cons_of_mem _ member)) found
        cases content with
        | none =>
            rw [storeCase, leavesOfCase, if_neg same]
            exact rest'
        | some type =>
            rw [storeCase, leavesOfCase, if_neg same]
            exact rest'

theorem storeEntry_emits {d : DespecializedValType} (valid : ValidType True d) {ptr : Nat}
    {items : List Item} {body : Layout → Cx World Unit}
    (emits : ∀ layout, ledger.Emits permitted items (body layout) fun _ => True) :
    ledger.Emits permitted items (do
      let mem ← Cabi.requireMemory
      let layout ← Cabi.layoutOf d mem.ptrType
      assert_ (ptr % layout.align = 0) "store misaligned"
      assert_ (ptr + layout.size ≤ mem.length) "store OOB"
      body layout) fun _ => True := by
  refine law.requireMemory.after ?_
  intro mem _
  refine (law.layoutOf valid mem.ptrType).after ?_
  intro layout _
  refine (law.assert_ (by decide)).after ?_
  intro _ _
  refine (law.assert_ (by decide)).after ?_
  intro _ _
  exact emits layout

theorem store_emits {d : DespecializedValType} (valid : ValidType True d) :
    StoreEmits ledger permitted leaf d fun v ptr => store cx v ptr d := by
  induction valid with
  | prim kind =>
      intro v ptr
      dsimp only
      rw [store, leavesOf_prim]
      apply storeEntry_emits law (.prim kind)
      intro layout
      exact storePrim_emits law v ptr kind
  | @list element length valid bounds ih =>
      intro v ptr
      dsimp only
      rw [store]
      apply storeEntry_emits law (.list valid bounds)
      intro layout
      exact storeList_emits law valid ih v ptr length
  | @record fields nonempty distinct valid ih =>
      intro v ptr
      dsimp only
      rw [store, leavesOf]
      apply storeEntry_emits law (.record nonempty distinct valid)
      intro layout
      exact storeRecord_emits law ih v ptr layout.fieldOffsets
  | @variant cases' nonempty bound distinct valid ih =>
      intro v ptr
      dsimp only
      rw [store]
      apply storeEntry_emits law (.variant nonempty bound distinct valid)
      intro layout
      refine (law.lift (matchCase_offLanes v cases')).after ?_
      rintro ⟨caseIndex, caseValue⟩ ⟨kind, isVariant, selected⟩
      subst isVariant
      refine (law.modifyMemory fun mem => SameShape.storeInt mem _ _ _ _).after ?_
      intro _ _
      rw [leavesOf]
      exact storeCase_emits ih kind caseValue _ selected
  | @flags labels nonempty bound distinct =>
      intro v ptr
      dsimp only
      rw [store]
      have silent : leavesOf leaf (.flags labels) v = [] := by cases v <;> rw [leavesOf] <;> simp
      rw [silent]
      apply storeEntry_emits law (.flags nonempty bound distinct)
      intro layout
      exact storeFlags_emits law v ptr labels
  | @handle d admitted isHandle =>
      intro v ptr
      dsimp only
      have stored := storeHandle_emits law v ptr isHandle
      cases d with
      | errorContext | own | borrow | stream | future =>
          rw [store]
          apply storeEntry_emits law (.handle admitted isHandle)
          intro layout
          exact stored
      | _ => cases isHandle

end Store

end Polyengine.Cabi
