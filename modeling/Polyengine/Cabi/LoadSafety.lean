import Polyengine.Cabi.LayoutProperties
import Polyengine.Cabi.Load

/-!
# Loading hostile memory

Loading a type from an aligned range inside the memory returns a value or traps, whatever the bytes
are; where a handle is lifted it may also fail as lifting the handle does.
-/

set_option autoImplicit false

namespace Polyengine.Cabi

open Polyengine.Library Command

variable {World : Type}

section Access

variable {mem : MemInst} {ptr nbytes : Nat}

theorem loadIntU_eq (inside : ptr + nbytes ≤ mem.length) :
    loadIntU mem ptr nbytes = .ok (LittleEndian.decode (mem.bytesAt ptr nbytes)) := by
  unfold loadIntU
  rw [assert_ok inside, MemInst.read, if_pos inside]
  rfl

theorem loadIntS_eq (inside : ptr + nbytes ≤ mem.length) :
    loadIntS mem ptr nbytes =
      .ok (LittleEndian.toSigned (8 * nbytes) (LittleEndian.decode (mem.bytesAt ptr nbytes))) := by
  unfold loadIntS
  rw [assert_ok inside, MemInst.read, if_pos inside]
  rfl

theorem loadPtr_eq (inside : ptr + mem.ptrSize ≤ mem.length) :
    loadPtr mem ptr = .ok (LittleEndian.decode (mem.bytesAt ptr mem.ptrSize)) := loadIntU_eq inside

theorem bytesOf_eq (inside : ptr + nbytes ≤ mem.length) :
    bytesOf mem ptr nbytes = .ok (mem.bytesAt ptr nbytes) := by
  unfold bytesOf
  rw [assert_ok inside]
  rfl

end Access

/-- Anything but a trap is a fault of the runtime. -/
abbrev OnlyTraps (failure : Failure) : Prop := failure.IsTrap

theorem decodeString_safe (encoding : RangeEncoding) (bytes : List UInt8) :
    Fallible.Satisfies OnlyTraps (decodeString encoding bytes) fun _ => True := by
  unfold decodeString
  cases encoding with
  | utf8 =>
      cases utf8Decode bytes with
      | none => exact trivial
      | some units => exact trivial
  | utf16le =>
      cases utf16Decode bytes with
      | none => exact trivial
      | some units => exact trivial
  | latin1 => exact trivial

theorem loadStringFromRange_safe (stringEncoding : StringEncoding) (mem : MemInst)
    (ptr taggedCodeUnits : Nat) :
    Fallible.Satisfies OnlyTraps (loadStringFromRange stringEncoding mem ptr taggedCodeUnits)
      fun _ => True := by
  unfold loadStringFromRange
  obtain ⟨alignment, byteLength, encoding⟩ :=
    stringRange stringEncoding mem.ptrType taggedCodeUnits
  simp only [Fallible.satisfies_bind, satisfies_trapIf, trapIfRangeExceedsMemory,
    Failure.isTrap_trap, implies_true, true_and]
  intro short aligned inside
  rw [bytesOf_eq (Nat.not_lt.mp inside)]
  exact decodeString_safe encoding _

theorem convertI32ToChar_safe (i : Nat) :
    Fallible.Satisfies OnlyTraps (convertI32ToChar i) fun _ => True := by
  simp only [convertI32ToChar, Fallible.satisfies_bind, satisfies_trapIf, Failure.isTrap_trap,
    Fallible.satisfies_pure, implies_true, and_self]

section Load

variable (cx : LiftLowerContext World) {mem : MemInst} {ptr : Nat}

theorem loadPrim_safe (kind : PrimKind) (inside : ptr + primSize mem.ptrType kind ≤ mem.length) :
    Fallible.Satisfies OnlyTraps (loadPrim cx mem ptr kind) fun _ => True := by
  cases kind with
  | char =>
      have word : ptr + 4 ≤ mem.length := inside
      simp only [loadPrim, loadIntU_eq word, Fallible.satisfies_bind, Fallible.satisfies_ok]
      exact (convertI32ToChar_safe _).imp fun _ _ => trivial
  | string =>
      have pair : ptr + 2 * mem.ptrSize ≤ mem.length := inside
      have first : ptr + mem.ptrSize ≤ mem.length := by omega
      have second : ptr + mem.ptrSize + mem.ptrSize ≤ mem.length := by omega
      simp only [loadPrim, loadString, loadPtr_eq first, loadPtr_eq second,
        Fallible.satisfies_bind, Fallible.satisfies_ok]
      exact (loadStringFromRange_safe _ _ _ _).imp fun _ _ => trivial
  | bool | u8 =>
      have byte : ptr + 1 ≤ mem.length := inside
      simp only [loadPrim, loadIntU_eq byte, Fallible.satisfies_bind, Fallible.satisfies_ok,
        Fallible.satisfies_pure]
  | s8 =>
      have byte : ptr + 1 ≤ mem.length := inside
      simp only [loadPrim, loadIntS_eq byte, Fallible.satisfies_bind, Fallible.satisfies_ok,
        Fallible.satisfies_pure]
  | u16 =>
      have half : ptr + 2 ≤ mem.length := inside
      simp only [loadPrim, loadIntU_eq half, Fallible.satisfies_bind, Fallible.satisfies_ok,
        Fallible.satisfies_pure]
  | s16 =>
      have half : ptr + 2 ≤ mem.length := inside
      simp only [loadPrim, loadIntS_eq half, Fallible.satisfies_bind, Fallible.satisfies_ok,
        Fallible.satisfies_pure]
  | u32 | f32 =>
      have word : ptr + 4 ≤ mem.length := inside
      simp only [loadPrim, loadIntU_eq word, Fallible.satisfies_bind, Fallible.satisfies_ok,
        Fallible.satisfies_pure]
  | s32 =>
      have word : ptr + 4 ≤ mem.length := inside
      simp only [loadPrim, loadIntS_eq word, Fallible.satisfies_bind, Fallible.satisfies_ok,
        Fallible.satisfies_pure]
  | u64 | f64 =>
      have double : ptr + 8 ≤ mem.length := inside
      simp only [loadPrim, loadIntU_eq double, Fallible.satisfies_bind, Fallible.satisfies_ok,
        Fallible.satisfies_pure]
  | s64 =>
      have double : ptr + 8 ≤ mem.length := inside
      simp only [loadPrim, loadIntS_eq double, Fallible.satisfies_bind, Fallible.satisfies_ok,
        Fallible.satisfies_pure]

theorem primKind_eq {d : DespecializedValType} {kind : PrimKind}
    (isPrim : d.primKind = some kind) : d = .prim kind := by
  cases d with
  | prim other =>
      cases isPrim
      rfl
  | _ => cases isPrim

theorem arrayCtor_width {kind : PrimKind} {ctor : ArrayCtor} (handled : arrayCtor kind = some ctor)
    (ptrType : PtrType) : ctor.width = primSize ptrType kind := by
  cases kind <;> cases handled <;> rfl

theorem tryLoadNumericList_safe (d : DespecializedValType) {length : Nat} (small : length < 2 ^ 32)
    (inside : ptr + length * elemSize mem.ptrType d ≤ mem.length) :
    Fallible.Satisfies OnlyTraps (tryLoadNumericList cx mem ptr length d.primKind)
      fun _ => True := by
  unfold tryLoadNumericList newArray
  rw [if_pos small]
  by_cases isBool : d.primKind = some .bool
  · have bytes : ptr + length ≤ mem.length := by
      rw [primKind_eq isBool] at inside
      simpa [elemSize, primSize, primAlignment] using inside
    rw [if_pos isBool]
    simp only [bytesOf_eq bytes, Fallible.satisfies_bind, Fallible.satisfies_ok,
      Fallible.satisfies_pure]
  · rw [if_neg isBool]
    cases handled : d.primKind.bind arrayCtor with
    | none => exact trivial
    | some ctor =>
        obtain ⟨kind, isPrim, ctorOf⟩ := Option.bind_eq_some_iff.mp handled
        rw [primKind_eq isPrim, elemSize, ← arrayCtor_width ctorOf] at inside
        simp only [viewOf, if_pos inside]
        split
        · exact trivial
        · exact trivial

/-- What lifting a type relies on where it lifts a handle: the failures stay within `permitted`,
and what happens to the state, as `kept` says, leaves the memory alone. -/
structure LiftLaw (cx : LiftLowerContext World) (handles : Prop) (permitted : Failure → Prop)
    (kept : CxState World → CxState World → Prop) : Prop where
  traps : ∀ failure, failure.IsTrap → permitted failure
  refl : ∀ state, kept state state
  trans : ∀ {state middle next}, kept state middle → kept middle next → kept state next
  memory : ∀ {state next}, kept state next → next.memory = state.memory
  handle : handles → ∀ (d : DespecializedValType) (i : Nat) (state : CxState World),
    d.isHandle = true → Meets permitted (cx.liftHandle d i) (fun _ next => kept state next) state

theorem LiftLaw.plain (cx : LiftLowerContext World) :
    LiftLaw cx False OnlyTraps fun state next => next = state where
  traps := fun _ trap => trap
  refl := fun _ => rfl
  trans := fun first second => second.trans first
  memory := fun same => congrArg _ same
  handle := False.elim

variable {cx} {handles : Prop} {permitted : Failure → Prop}
  {kept : CxState World → CxState World → Prop} (law : LiftLaw cx handles permitted kept)

include law in
theorem LiftLaw.satisfies {Result : Type} {computation : Except Failure Result}
    {post : Result → Prop} (safe : Fallible.Satisfies OnlyTraps computation post) :
    Fallible.Satisfies permitted computation post :=
  safe.mono law.traps fun _ holds => holds

/-- The safety of one element load at every pointer that the list may hand out. -/
def LoadsSafely (permitted : Failure → Prop) (kept : CxState World → CxState World → Prop)
    (element : DespecializedValType) (mem : MemInst) (loadElement : Nat → Cx World Value) : Prop :=
  ∀ (ptr : Nat) (state : CxState World), state.memory = some mem →
    alignment mem.ptrType element ∣ ptr → ptr + elemSize mem.ptrType element ≤ mem.length →
    Meets permitted (loadElement ptr) (fun _ next => kept state next) state

variable {element : DespecializedValType} {loadElement : Nat → Cx World Value}
  {state : CxState World}

include law

theorem loadElements_safe (sound : SoundLayout mem.ptrType element)
    (safe : LoadsSafely permitted kept element mem loadElement) (present : state.memory = some mem)
    (aligned : alignment mem.ptrType element ∣ ptr) {length : Nat}
    (inside : ptr + length * elemSize mem.ptrType element ≤ mem.length) :
    Meets permitted (loadElements loadElement (elemSize mem.ptrType element) ptr length)
      (fun _ next => kept state next) state := by
  induction length generalizing ptr state with
  | zero => exact law.refl state
  | succ length ih =>
      rw [Nat.succ_mul] at inside
      simp only [loadElements, meets_bind]
      apply (safe ptr state present aligned (by omega)).imp
      intro value middle here
      have present' := (law.memory here).trans present
      apply (ih present' (Nat.dvd_add aligned sound.dvd) (by omega)).imp
      intro rest next later
      exact law.trans here later

theorem loadListFromValidRange_safe (valid : ValidType handles element)
    (safe : LoadsSafely permitted kept element mem loadElement) (present : state.memory = some mem)
    (aligned : alignment mem.ptrType element ∣ ptr) {length : Nat} (small : length < 2 ^ 32)
    (inside : ptr + length * elemSize mem.ptrType element ≤ mem.length) :
    Meets permitted (loadListFromValidRange cx loadElement ptr length element)
      (fun _ next => kept state next) state := by
  have sound := valid.soundLayout mem.ptrType
  obtain ⟨layout, laidOut, _, _, size, _⟩ := valid.layoutOf mem.ptrType
  have elements := loadElements_safe law sound safe present aligned inside
  have boxed : Meets permitted
      (loadElements loadElement layout.size ptr length >>= fun rest => pure (Value.array rest))
      (fun _ next => kept state next) state := by
    rw [meets_bind, size]
    exact elements.imp fun _ _ unchanged => unchanged
  have bulk := law.satisfies (tryLoadNumericList_safe cx element small inside)
  unfold loadListFromValidRange
  simp only [meets_bind, meets_requireMemory present, laidOut, meets_lift, meets_ite,
    Fallible.satisfies_ok, meets_pure]
  constructor
  · intro isByte
    have bytes : ptr + length ≤ mem.length := by
      rw [primKind_eq isByte] at inside
      simpa [elemSize, primSize, primAlignment] using inside
    rw [bytesOf_eq bytes]
    exact law.refl state
  · intro _
    apply bulk.imp
    intro result _
    cases result with
    | some values => exact law.refl state
    | none => exact boxed

theorem loadListFromRange_safe (valid : ValidType handles element)
    (safe : LoadsSafely permitted kept element mem loadElement) (present : state.memory = some mem)
    (ptr length : Nat) :
    Meets permitted (loadListFromRange cx loadElement ptr length element)
      (fun _ next => kept state next) state := by
  have positive := (valid.soundLayout mem.ptrType).positive
  obtain ⟨layout, laidOut, _, align, size, _⟩ := valid.layoutOf mem.ptrType
  have trapped : ∀ message, permitted (.trap message) := fun message => law.traps _ trivial
  unfold loadListFromRange
  simp only [meets_bind, meets_requireMemory present, laidOut, meets_lift, Command.meets_trapIf,
    Fallible.satisfies_ok, trapped, implies_true, true_and, align, size]
  intro short aligned inside
  have dvd : alignment mem.ptrType element ∣ ptr :=
    Nat.dvd_of_mod_eq_zero (not_not.mp aligned)
  have few : length < 2 ^ 32 := by
    have bound : length * 1 ≤ length * elemSize mem.ptrType element :=
      Nat.mul_le_mul_left _ positive
    unfold MAX_LIST_BYTE_LENGTH at short
    omega
  exact loadListFromValidRange_safe law valid safe present dvd few (Nat.not_lt.mp inside)

theorem loadList_safe (valid : ValidType handles element) {maybeLength : Option Nat}
    (bounds : ∀ n, maybeLength = some n → 0 < n ∧ n < 2 ^ 32)
    (safe : LoadsSafely permitted kept element mem loadElement) (present : state.memory = some mem)
    (aligned : alignment mem.ptrType (.list element maybeLength) ∣ ptr)
    (inside : ptr + elemSize mem.ptrType (.list element maybeLength) ≤ mem.length) :
    Meets permitted (loadList cx loadElement ptr element maybeLength)
      (fun _ next => kept state next) state := by
  cases maybeLength with
  | some n =>
      simp only [alignment] at aligned
      simp only [elemSize] at inside
      exact loadListFromValidRange_safe law valid safe present aligned (bounds n rfl).2 inside
  | none =>
      simp only [elemSize] at inside
      have first : ptr + mem.ptrSize ≤ mem.length := by
        unfold MemInst.ptrSize MemInst.ptrType at *
        omega
      have second : ptr + mem.ptrSize + mem.ptrSize ≤ mem.length := by
        unfold MemInst.ptrSize MemInst.ptrType at *
        omega
      simp only [loadList, meets_bind, meets_requireMemory present, meets_lift, loadPtr_eq first,
        loadPtr_eq second, Fallible.satisfies_ok]
      exact loadListFromRange_safe law valid safe present _ _

theorem loadRecord_safe {fields : List DespecializedFieldType}
    (sound : ∀ field ∈ fields, SoundLayout mem.ptrType field.type)
    (safe : ∀ field ∈ fields,
      LoadsSafely permitted kept field.type mem fun ptr => load cx ptr field.type)
    (present : state.memory = some mem)
    (aligned : ∀ field ∈ fields, alignment mem.ptrType field.type ∣ ptr) {offset : Nat}
    (inside : ptr + fieldsEnd mem.ptrType offset fields ≤ mem.length)
    (record : List (String × Value)) :
    Meets permitted (loadRecord cx ptr fields (fieldOffsets mem.ptrType offset fields) record)
      (fun _ next => kept state next) state := by
  induction fields generalizing offset record state with
  | nil =>
      simp only [loadRecord, meets_pure]
      exact law.refl state
  | cons first rest ih =>
      obtain ⟨label, type⟩ := first
      have here : SoundLayout mem.ptrType type := sound ⟨label, type⟩ (by simp)
      have later : _ ≤ fieldsEnd mem.ptrType _ rest :=
        le_fieldsEnd (alignTo offset (alignment mem.ptrType type) + elemSize mem.ptrType type)
          fun field member => sound field (by simp [member])
      simp only [fieldsEnd] at inside
      have start : alignment mem.ptrType type ∣ ptr + alignTo offset (alignment mem.ptrType type) :=
        Nat.dvd_add (aligned ⟨label, type⟩ (by simp)) (dvd_alignTo _ _)
      have loaded := safe ⟨label, type⟩ (by simp) _ state present start (by dsimp only; omega)
      simp only [fieldOffsets, loadRecord, List.headD_cons, List.tail_cons, meets_bind]
      apply loaded.imp
      intro value middle unchanged
      have present' := (law.memory unchanged).trans present
      apply (ih (fun field member => sound field (by simp [member]))
        (fun field member => safe field (by simp [member])) present'
        (fun field member => aligned field (by simp [member])) inside _).imp
      intro rest next unchanged'
      exact law.trans unchanged unchanged'

omit law in
theorem loadCase_safe {cases' : List DespecializedCaseType}
    (empty : kept state state)
    (safe : ∀ case ∈ cases', ∀ type, case.type = some type →
      Meets permitted (load cx ptr type) (fun _ next => kept state next) state)
    {index : Nat} (bound : index < cases'.length) :
    Meets permitted (loadCase cx ptr cases' index) (fun _ next => kept state next) state := by
  induction cases' generalizing index with
  | nil => simp at bound
  | cons first rest ih =>
      obtain ⟨label, content⟩ := first
      cases index with
      | succ index =>
          cases content <;> simp only [loadCase] <;>
            exact ih (fun case member => safe case (by simp [member]))
              (by simpa using bound)
      | zero =>
          cases content with
          | none =>
              simp only [loadCase, meets_pure]
              exact empty
          | some type =>
              simp only [loadCase, meets_bind, meets_pure]
              exact safe ⟨label, some type⟩ (by simp) type rfl

/-- Loading a valid type from an aligned range inside the memory fails only as lifting a handle
does or with a trap. -/
theorem load_safe {d : DespecializedValType} (valid : ValidType handles d) (mem : MemInst) :
    LoadsSafely permitted kept d mem fun ptr => load cx ptr d := by
  have trapped : ∀ message, permitted (.trap message) := fun message => law.traps _ trivial
  induction valid with
  | prim kind =>
      intro ptr state present aligned inside
      obtain ⟨layout, laidOut, _, align, size, _⟩ :=
        (@ValidType.prim handles kind).layoutOf mem.ptrType
      dsimp only
      rw [load]
      simp only [meets_bind, meets_requireMemory present, laidOut, meets_lift, Command.meets_assert,
        Fallible.satisfies_ok, align, size, Nat.mod_eq_zero_of_dvd aligned, inside]
      have loaded := law.satisfies (loadPrim_safe cx kind (by simpa only [elemSize] using inside))
      simpa using loaded.imp fun _ _ => law.refl state
  | @list element length valid bounds ih =>
      intro ptr state present aligned inside
      obtain ⟨layout, laidOut, _, align, size, _⟩ :=
        (ValidType.list valid bounds).layoutOf mem.ptrType
      dsimp only
      rw [load]
      simp only [meets_bind, meets_requireMemory present, laidOut, meets_lift, Command.meets_assert,
        Fallible.satisfies_ok, align, size, Nat.mod_eq_zero_of_dvd aligned, inside, not_true,
        false_implies, true_implies, true_and]
      exact loadList_safe law valid bounds ih present aligned inside
  | @record fields nonempty distinct valid ih =>
      intro ptr state present aligned inside
      have sound : ∀ field ∈ fields, SoundLayout mem.ptrType field.type :=
        fun field member => (valid field member).soundLayout mem.ptrType
      have overall := isAlignment_record sound
      obtain ⟨layout, laidOut, _, align, size, offsets, _⟩ :=
        (ValidType.record nonempty distinct valid).layoutOf mem.ptrType
      dsimp only
      rw [load]
      simp only [meets_bind, meets_requireMemory present, laidOut, meets_lift, Command.meets_assert,
        Fallible.satisfies_ok, align, size, Nat.mod_eq_zero_of_dvd aligned, inside, not_true,
        false_implies, true_implies, true_and, offsets fields rfl, meets_pure]
      simp only [alignment] at aligned
      simp only [elemSize] at inside
      have ending := le_alignTo (fieldsEnd mem.ptrType 0 fields) overall.pos
      apply loadRecord_safe law sound ih present
      · intro field member
        exact ((sound field member).isAlignment.dvd_of_le overall
          (alignment_le_record member)).trans aligned
      · omega
  | @variant cases' nonempty bound distinct valid ih =>
      intro ptr state present aligned inside
      have sound : ∀ case ∈ cases', ∀ type, case.type = some type →
          SoundLayout mem.ptrType type :=
        fun case member type payload => (valid case member type payload).soundLayout mem.ptrType
      have widest := isAlignment_maxCase sound
      have overall := (IsAlignment.discriminantSize cases'.length).max widest
      obtain ⟨layout, laidOut, _, align, size, _, parts⟩ :=
        (ValidType.variant nonempty bound distinct valid).layoutOf mem.ptrType
      obtain ⟨discSize, payload⟩ := parts cases' rfl
      dsimp only
      rw [load]
      simp only [meets_bind, meets_requireMemory present, laidOut, meets_lift, Command.meets_assert,
        Fallible.satisfies_ok, align, size, Nat.mod_eq_zero_of_dvd aligned, inside, not_true,
        false_implies, true_implies, true_and, discSize, payload]
      simp only [alignment] at aligned
      simp only [elemSize] at inside
      have ending := le_alignTo (payloadOffset mem.ptrType cases' + maxCaseSize mem.ptrType cases')
        overall.pos
      have discriminant := le_payloadOffset mem.ptrType widest
      rw [loadIntU_eq (by omega)]
      simp only [Fallible.satisfies_ok, Command.meets_trapIf, trapped, implies_true, true_and]
      intro selected
      apply loadCase_safe (law.refl state) _ (Nat.not_le.mp selected)
      intro case member type content
      have whole : alignment mem.ptrType type ∣
          max (discriminantSize cases'.length) (maxCaseAlignment mem.ptrType cases') :=
        (sound case member type content).isAlignment.dvd_of_le overall
          ((alignment_le_maxCase member content).trans (Nat.le_max_right _ _))
      have start : alignment mem.ptrType type ∣ payloadOffset mem.ptrType cases' :=
        ((sound case member type content).isAlignment.dvd_of_le widest
          (alignment_le_maxCase member content)).trans (dvd_alignTo _ _)
      have room : _ ≤ maxCaseSize mem.ptrType cases' := elemSize_le_maxCase member content
      exact ih case member type content _ state present
        (Nat.dvd_add (whole.trans aligned) start) (by omega)
  | @flags labels nonempty bound distinct =>
      intro ptr state present aligned inside
      obtain ⟨layout, laidOut, _, align, size, _⟩ :=
        (@ValidType.flags handles labels nonempty bound distinct).layoutOf mem.ptrType
      dsimp only
      rw [load]
      simp only [meets_bind, meets_requireMemory present, laidOut, meets_lift, Command.meets_assert,
        Fallible.satisfies_ok, align, size, Nat.mod_eq_zero_of_dvd aligned, inside, not_true,
        false_implies, true_implies, true_and]
      simp only [elemSize] at inside
      simp only [loadFlags, loadIntU_eq inside, Fallible.satisfies_bind, Fallible.satisfies_ok,
        Fallible.satisfies_pure]
      exact law.refl state
  | @handle d admitted isHandle =>
      intro ptr state present aligned inside
      obtain ⟨layout, laidOut, _, align, size, _⟩ :=
        (ValidType.handle admitted isHandle).layoutOf mem.ptrType
      have lifted := fun i => law.handle admitted d i state isHandle
      dsimp only
      cases d with
      | errorContext | own | borrow | stream | future =>
          simp only [elemSize] at inside size
          rw [load]
          simp only [meets_bind, meets_requireMemory present, laidOut, meets_lift,
            Command.meets_assert, Fallible.satisfies_ok, align, size,
            Nat.mod_eq_zero_of_dvd aligned, inside, not_true, false_implies, true_implies,
            true_and, loadIntU_eq inside]
          exact lifted _
      | _ => cases isHandle

end Load

end Polyengine.Cabi
