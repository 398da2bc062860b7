import Polyengine.Cabi.Layout

/-!
# Layout arithmetic

Every alignment is 1, 2, 4 or 8 and divides the size, so that fields, payloads and list elements
of an aligned value are aligned and inside it.
-/

set_option autoImplicit false

namespace Polyengine.Cabi

open Polyengine.Library

def IsAlignment (a : Nat) : Prop := a = 1 ∨ a = 2 ∨ a = 4 ∨ a = 8

namespace IsAlignment

variable {a b : Nat}

theorem pos (aligned : IsAlignment a) : 0 < a := by
  unfold IsAlignment at aligned
  omega

theorem max (first : IsAlignment a) (second : IsAlignment b) : IsAlignment (max a b) := by
  unfold IsAlignment at *
  omega

theorem dvd_of_le (first : IsAlignment a) (second : IsAlignment b) (le : a ≤ b) : a ∣ b := by
  rcases first with rfl | rfl | rfl | rfl <;> rcases second with rfl | rfl | rfl | rfl <;>
    omega

theorem check (aligned : IsAlignment a) : checkAlignment a = .ok () := by
  rcases aligned with rfl | rfl | rfl | rfl <;> rfl

theorem ptrSize (ptrType : PtrType) : IsAlignment (ptrSize ptrType) := by
  cases ptrType with
  | i32 => exact .inr (.inr (.inl rfl))
  | i64 => exact .inr (.inr (.inr rfl))

theorem discriminantSize (count : Nat) : IsAlignment (discriminantSize count) := by
  unfold Cabi.discriminantSize IsAlignment
  split
  · omega
  · split <;> omega

theorem flagsSize (labels : List String) : IsAlignment (flagsSize labels) := by
  unfold Cabi.flagsSize IsAlignment
  split
  · omega
  · split <;> omega

theorem prim (ptrType : PtrType) (kind : PrimKind) : IsAlignment (primAlignment ptrType kind) := by
  cases kind with
  | bool | s8 | u8 => exact .inl rfl
  | s16 | u16 => exact .inr (.inl rfl)
  | s32 | u32 | f32 | char => exact .inr (.inr (.inl rfl))
  | s64 | u64 | f64 => exact .inr (.inr (.inr rfl))
  | string => exact ptrSize ptrType

end IsAlignment

/-- What layout arithmetic promises about one type. -/
structure SoundLayout (ptrType : PtrType) (d : DespecializedValType) : Prop where
  isAlignment : IsAlignment (alignment ptrType d)
  dvd : alignment ptrType d ∣ elemSize ptrType d
  positive : 0 < elemSize ptrType d
  checked : checkLayout ptrType d = .ok ()

section Fields

variable {ptrType : PtrType}

theorem alignment_le_record {fields : List DespecializedFieldType}
    {field : DespecializedFieldType} (member : field ∈ fields) :
    alignment ptrType field.type ≤ alignmentRecord ptrType fields := by
  induction fields with
  | nil => cases member
  | cons first rest ih =>
      obtain ⟨label, type⟩ := first
      simp only [alignmentRecord]
      cases member with
      | head => exact Nat.le_max_left _ _
      | tail _ later => exact (ih later).trans (Nat.le_max_right _ _)

theorem isAlignment_record {fields : List DespecializedFieldType}
    (sound : ∀ field ∈ fields, SoundLayout ptrType field.type) :
    IsAlignment (alignmentRecord ptrType fields) := by
  induction fields with
  | nil => exact .inl rfl
  | cons first rest ih =>
      obtain ⟨label, type⟩ := first
      have here : SoundLayout ptrType type := sound ⟨label, type⟩ (by simp)
      simp only [alignmentRecord]
      exact here.isAlignment.max (ih fun field member => sound field (by simp [member]))

theorem le_fieldsEnd {fields : List DespecializedFieldType} (offset : Nat)
    (sound : ∀ field ∈ fields, SoundLayout ptrType field.type) :
    offset ≤ fieldsEnd ptrType offset fields := by
  induction fields generalizing offset with
  | nil => exact Nat.le_refl _
  | cons first rest ih =>
      obtain ⟨label, type⟩ := first
      have here : SoundLayout ptrType type := sound ⟨label, type⟩ (by simp)
      have start := le_alignTo offset here.isAlignment.pos
      have later := ih (alignTo offset (alignment ptrType type) + elemSize ptrType type)
        fun field member => sound field (by simp [member])
      simp only [fieldsEnd]
      omega

theorem fieldsEnd_pos {fields : List DespecializedFieldType} (nonempty : fields ≠ [])
    (sound : ∀ field ∈ fields, SoundLayout ptrType field.type) :
    0 < fieldsEnd ptrType 0 fields := by
  cases fields with
  | nil => exact absurd rfl nonempty
  | cons first rest =>
      obtain ⟨label, type⟩ := first
      have here : SoundLayout ptrType type := sound ⟨label, type⟩ (by simp)
      have later : _ ≤ fieldsEnd ptrType _ rest :=
        le_fieldsEnd (alignTo 0 (alignment ptrType type) + elemSize ptrType type)
          fun field member => sound field (by simp [member])
      have positive := here.positive
      simp only [fieldsEnd]
      omega

theorem checkFieldLayouts_eq {fields : List DespecializedFieldType}
    (sound : ∀ field ∈ fields, SoundLayout ptrType field.type) :
    checkFieldLayouts ptrType fields = .ok () := by
  induction fields with
  | nil => rfl
  | cons first rest ih =>
      obtain ⟨label, type⟩ := first
      have here : SoundLayout ptrType type := sound ⟨label, type⟩ (by simp)
      rw [checkFieldLayouts, here.checked]
      exact ih fun field member => sound field (by simp [member])

end Fields

section Cases

variable {ptrType : PtrType} {cases' : List DespecializedCaseType}

theorem alignment_le_maxCase {case : DespecializedCaseType} {type : DespecializedValType}
    (member : case ∈ cases') (payload : case.type = some type) :
    alignment ptrType type ≤ maxCaseAlignment ptrType cases' := by
  induction cases' with
  | nil => cases member
  | cons first rest ih =>
      obtain ⟨label, content⟩ := first
      cases member with
      | head =>
          simp only at payload
          subst payload
          simp only [maxCaseAlignment]
          exact Nat.le_max_left _ _
      | tail _ later =>
          have bound := ih later
          cases content with
          | none => simpa only [maxCaseAlignment] using bound
          | some other =>
              simp only [maxCaseAlignment]
              exact bound.trans (Nat.le_max_right _ _)

theorem elemSize_le_maxCase {case : DespecializedCaseType} {type : DespecializedValType}
    (member : case ∈ cases') (payload : case.type = some type) :
    elemSize ptrType type ≤ maxCaseSize ptrType cases' := by
  induction cases' with
  | nil => cases member
  | cons first rest ih =>
      obtain ⟨label, content⟩ := first
      cases member with
      | head =>
          simp only at payload
          subst payload
          simp only [maxCaseSize]
          exact Nat.le_max_left _ _
      | tail _ later =>
          have bound := ih later
          cases content with
          | none => simpa only [maxCaseSize] using bound
          | some other =>
              simp only [maxCaseSize]
              exact bound.trans (Nat.le_max_right _ _)

theorem isAlignment_maxCase
    (sound : ∀ case ∈ cases', ∀ type, case.type = some type → SoundLayout ptrType type) :
    IsAlignment (maxCaseAlignment ptrType cases') := by
  induction cases' with
  | nil => exact .inl rfl
  | cons first rest ih =>
      obtain ⟨label, content⟩ := first
      have later := ih fun case member => sound case (by simp [member])
      cases content with
      | none => simpa only [maxCaseAlignment] using later
      | some type =>
          have here : SoundLayout ptrType type := sound ⟨label, some type⟩ (by simp) type rfl
          simp only [maxCaseAlignment]
          exact here.isAlignment.max later

theorem checkCaseLayouts_eq
    (sound : ∀ case ∈ cases', ∀ type, case.type = some type → SoundLayout ptrType type) :
    checkCaseLayouts ptrType cases' = .ok () := by
  induction cases' with
  | nil => rfl
  | cons first rest ih =>
      obtain ⟨label, content⟩ := first
      have later := ih fun case member => sound case (by simp [member])
      cases content with
      | none => simpa only [checkCaseLayouts] using later
      | some type =>
          have here : SoundLayout ptrType type := sound ⟨label, some type⟩ (by simp) type rfl
          rw [checkCaseLayouts, here.checked]
          exact later

theorem le_payloadOffset (ptrType : PtrType)
    (aligned : IsAlignment (maxCaseAlignment ptrType cases')) :
    discriminantSize cases'.length ≤ payloadOffset ptrType cases' :=
  le_alignTo _ aligned.pos

end Cases

private theorem soundLayout_prim (ptrType : PtrType) (kind : PrimKind) :
    SoundLayout ptrType (.prim kind) where
  isAlignment := by
    simp only [alignment]
    exact .prim ptrType kind
  dvd := by
    simp only [alignment, elemSize]
    cases kind with
    | string => exact Nat.dvd_mul_left _ _
    | _ => exact Nat.dvd_refl _
  positive := by
    simp only [elemSize]
    cases ptrType <;> cases kind <;> decide
  checked := by
    rw [checkLayout]
    · simp only [alignment]
      exact (IsAlignment.prim ptrType kind).check
    all_goals simp

private theorem soundLayout_record {ptrType : PtrType} {fields : List DespecializedFieldType}
    (nonempty : fields ≠ []) (sound : ∀ field ∈ fields, SoundLayout ptrType field.type) :
    SoundLayout ptrType (.record fields) where
  isAlignment := by
    simp only [alignment]
    exact isAlignment_record sound
  dvd := by
    simp only [alignment, elemSize]
    exact dvd_alignTo _ _
  positive := by
    simp only [elemSize]
    exact (fieldsEnd_pos nonempty sound).trans_le
      (le_alignTo _ (isAlignment_record sound).pos)
  checked := by
    have accepted : (assert_ _ "empty record" : Except Failure Unit) = .ok () :=
      assert_ok (fieldsEnd_pos nonempty sound)
    rw [checkLayout, checkFieldLayouts_eq sound, accepted]
    simp only [alignment]
    exact (isAlignment_record sound).check

private theorem soundLayout_variant {ptrType : PtrType} {cases' : List DespecializedCaseType}
    (nonempty : cases' ≠ []) (bound : cases'.length < 2 ^ 32)
    (sound : ∀ case ∈ cases', ∀ type, case.type = some type → SoundLayout ptrType type) :
    SoundLayout ptrType (.variant cases') where
  isAlignment := by
    simp only [alignment]
    exact (IsAlignment.discriminantSize _).max (isAlignment_maxCase sound)
  dvd := by
    simp only [alignment, elemSize]
    exact dvd_alignTo _ _
  positive := by
    have overall := (IsAlignment.discriminantSize cases'.length).max (isAlignment_maxCase sound)
    have discriminant := (IsAlignment.discriminantSize cases'.length).pos
    have payload := le_payloadOffset ptrType (isAlignment_maxCase sound)
    have size := le_alignTo (payloadOffset ptrType cases' + maxCaseSize ptrType cases') overall.pos
    simp only [elemSize]
    omega
  checked := by
    have counted : 0 < cases'.length := List.length_pos_iff.mpr nonempty
    have overall := (IsAlignment.discriminantSize cases'.length).max (isAlignment_maxCase sound)
    have accepted : (assert_ _ "case count" : Except Failure Unit) = .ok () :=
      assert_ok (And.intro counted bound)
    rw [checkLayout, checkCaseLayouts_eq sound, accepted]
    simp only [alignment]
    exact overall.check

private theorem soundLayout_handle (ptrType : PtrType) {d : DespecializedValType}
    (isHandle : d.isHandle = true) : SoundLayout ptrType d := by
  have align : alignment ptrType d = 4 := by cases d <;> first | rfl | cases isHandle
  have size : elemSize ptrType d = 4 := by cases d <;> first | rfl | cases isHandle
  constructor
  · rw [align]
    exact .inr (.inr (.inl rfl))
  · rw [align, size]
  · rw [size]
    decide
  · have checked : checkAlignment (alignment ptrType d) = .ok () := by
      rw [align]
      rfl
    cases d with
    | errorContext | own | borrow | stream | future =>
        rw [checkLayout]
        · exact checked
        all_goals simp
    | _ => cases isHandle

theorem ValidType.soundLayout {handles : Prop} {d : DespecializedValType}
    (valid : ValidType handles d) (ptrType : PtrType) : SoundLayout ptrType d := by
  induction valid with
  | prim kind => exact soundLayout_prim ptrType kind
  | @list element length _ bounds ih =>
      cases length with
      | none =>
          constructor
          · simp only [alignment]
            exact .ptrSize ptrType
          · simp only [alignment, elemSize]
            exact Nat.dvd_mul_left _ _
          · simp only [elemSize]
            cases ptrType <;> decide
          · rw [checkLayout]
            · simp only [alignment]
              exact (IsAlignment.ptrSize ptrType).check
            all_goals simp
      | some n =>
          constructor
          · simp only [alignment]
            exact ih.isAlignment
          · simp only [alignment, elemSize]
            exact ih.dvd.mul_left n
          · simp only [elemSize]
            exact Nat.mul_pos (bounds n rfl).1 ih.positive
          · rw [checkLayout, ih.checked]
            simp only [alignment]
            exact ih.isAlignment.check
  | record nonempty _ _ ih => exact soundLayout_record nonempty ih
  | variant nonempty bound _ _ ih => exact soundLayout_variant nonempty bound ih
  | @flags labels nonempty bound _ =>
      have counted : 0 < labels.length := List.length_pos_iff.mpr nonempty
      constructor
      · simp only [alignment]
        exact .flagsSize labels
      · simp only [alignment, elemSize]
        exact Nat.dvd_refl _
      · simp only [elemSize]
        exact (IsAlignment.flagsSize labels).pos
      · have accepted : (assert_ _ "flags label count" : Except Failure Unit) = .ok () :=
          assert_ok (And.intro counted bound)
        rw [checkLayout, accepted]
        simp only [alignment]
        exact (IsAlignment.flagsSize labels).check
  | handle _ isHandle => exact soundLayout_handle ptrType isHandle

theorem ValidType.layoutOf {handles : Prop} {d : DespecializedValType} (valid : ValidType handles d)
    (ptrType : PtrType) :
    ∃ layout, layoutOf d ptrType = .ok layout ∧ layout.d = d ∧
      layout.align = alignment ptrType d ∧ layout.size = elemSize ptrType d ∧
      (∀ fields, d = .record fields → layout.fieldOffsets = fieldOffsets ptrType 0 fields) ∧
      ∀ cases', d = .variant cases' → layout.discSize = discriminantSize cases'.length ∧
        layout.payloadOffset = payloadOffset ptrType cases' := by
  unfold Cabi.layoutOf
  rw [(valid.soundLayout ptrType).checked]
  refine ⟨_, rfl, rfl, rfl, rfl, ?_, ?_⟩
  · rintro fields rfl
    rfl
  · rintro cases' rfl
    exact ⟨rfl, rfl⟩

end Polyengine.Cabi
