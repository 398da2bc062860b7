import Polyengine.Cabi.LayoutCache

/-!
# Layout soundness

Fields, payloads and elements lie inside the type they are part of, aligned and apart, wherever the
layout comes from: the cache or the reference. This holds as far as doubles are exact.
-/

set_option autoImplicit false

namespace Polyengine.Cabi

open Polyengine.Library

/-- `despecialize` as the source has it: the outermost constructor only. -/
def despecializeOnce : ValType → ValType
  | .tuple elements => .record (elements.mapIdx fun i element => ⟨toString i, element⟩)
  | .enum labels => .variant (labels.map fun label => ⟨label, none⟩)
  | .option type => .variant [⟨"none", none⟩, ⟨"some", some type⟩]
  | .result ok error => .variant [⟨"ok", ok⟩, ⟨"error", error⟩]
  | .map key value => .list (.record [⟨"0", key⟩, ⟨"1", value⟩]) none
  | t => t

theorem despecializeFields_mapIdx (elements : List ValType) (first : Nat) :
    despecializeFields (elements.mapIdx fun i element => ⟨toString (first + i), element⟩) =
      tupleFields first (despecializeAll elements) := by
  induction elements generalizing first with
  | nil => rfl
  | cons element rest ih =>
      rw [List.mapIdx_cons, despecializeFields, despecializeAll, tupleFields, ← ih (first + 1)]
      simp only [Nat.add_zero, Nat.add_assoc, Nat.add_comm 1]

theorem despecializeCases_labels (labels : List String) :
    despecializeCases (labels.map fun label => ⟨label, none⟩) =
      labels.map fun label => ⟨label, none⟩ := by
  induction labels with
  | nil => rfl
  | cons label rest ih =>
      rw [List.map_cons, despecializeCases, ih, List.map_cons, despecializeOption]

theorem despecialize_once (t : ValType) : despecialize (despecializeOnce t) = despecialize t := by
  cases t with
  | tuple elements =>
      have fields := despecializeFields_mapIdx elements 0
      simp only [Nat.zero_add] at fields
      simp only [despecializeOnce, despecialize, fields]
  | enum labels => simp only [despecializeOnce, despecialize, despecializeCases_labels]
  | option type => rfl
  | result ok error => rfl
  | map key value => rfl
  | _ => rfl

section Fields

variable {ptrType : PtrType}

theorem length_fieldOffsets (fields : List DespecializedFieldType) (offset : Nat) :
    (fieldOffsets ptrType offset fields).length = fields.length := by
  induction fields generalizing offset with
  | nil => rfl
  | cons field rest ih => rw [fieldOffsets, List.length_cons, ih, List.length_cons]

theorem le_fieldOffsets {fields : List DespecializedFieldType} {offset : Nat}
    (sound : ∀ field ∈ fields, SoundLayout ptrType field.type) {start : Nat}
    (member : start ∈ fieldOffsets ptrType offset fields) : offset ≤ start := by
  induction fields generalizing offset with
  | nil => cases member
  | cons field rest ih =>
      have here := sound field (by simp)
      have aligned := le_alignTo offset here.isAlignment.pos
      rw [fieldOffsets] at member
      cases member with
      | head => exact aligned
      | tail _ later =>
          have bound := ih (fun field member => sound field (by simp [member])) later
          omega

theorem fieldOffsets_sound {fields : List DespecializedFieldType} {offset : Nat}
    (sound : ∀ field ∈ fields, SoundLayout ptrType field.type) {i start : Nat}
    {field : DespecializedFieldType} (listed : fields[i]? = some field)
    (placed : (fieldOffsets ptrType offset fields)[i]? = some start) :
    alignment ptrType field.type ∣ start ∧
      start + elemSize ptrType field.type ≤ fieldsEnd ptrType offset fields ∧
      ∀ (j later : Nat), i < j → (fieldOffsets ptrType offset fields)[j]? = some later →
        start + elemSize ptrType field.type ≤ later := by
  induction fields generalizing offset i with
  | nil => cases listed
  | cons first rest ih =>
      have soundRest : ∀ field ∈ rest, SoundLayout ptrType field.type :=
        fun field member => sound field (by simp [member])
      obtain ⟨label, type⟩ := first
      rw [fieldOffsets] at placed ⊢
      rw [fieldsEnd]
      cases i with
      | zero =>
          cases listed
          cases placed
          refine ⟨dvd_alignTo _ _, le_fieldsEnd _ soundRest, ?_⟩
          intro j later beyond found
          cases j with
          | zero => cases beyond
          | succ j => exact le_fieldOffsets soundRest (List.mem_of_getElem? found)
      | succ i =>
          obtain ⟨aligned, inside, apart⟩ := ih soundRest listed placed
          refine ⟨aligned, inside, ?_⟩
          intro j later beyond found
          cases j with
          | zero => cases beyond
          | succ j => exact apart j later (Nat.lt_of_succ_lt_succ beyond) found

end Fields

/-- What nested loads and stores rely on. -/
structure LayoutSound (ptrType : PtrType) (t : ValType) (layout : ObjectLayout) : Prop where
  d : layout.d = despecialize t
  reference : layout.align = alignment ptrType (despecialize t) ∧
    layout.size = elemSize ptrType (despecialize t)
  despecialized : layout.align = alignment ptrType (despecialize (despecializeOnce t)) ∧
    layout.size = elemSize ptrType (despecialize (despecializeOnce t))
  power : ∃ k, layout.align = 2 ^ k
  divides : layout.align ∣ layout.size
  fields : ∀ fields, despecialize t = .record fields →
    ∃ offsets, layout.fieldOffsets = some offsets ∧ offsets.length = fields.length ∧
      ∀ (i : Nat) (field : DespecializedFieldType) (start : Nat),
        fields[i]? = some field → offsets[i]? = some start →
        alignment ptrType field.type ∣ start ∧
          start + elemSize ptrType field.type ≤ layout.size ∧
          ∀ (j later : Nat), i < j → offsets[j]? = some later →
            start + elemSize ptrType field.type ≤ later
  payload : ∀ cases, despecialize t = .variant cases →
    layout.discSize = discriminantSize cases.length ∧ layout.discSize ≤ layout.payloadOffset ∧
      ∀ case ∈ cases, ∀ type, case.type = some type →
        alignment ptrType type ∣ layout.payloadOffset ∧
          layout.payloadOffset + elemSize ptrType type ≤ layout.size
  elements : ∀ element n, despecialize t = .list element (some n) →
    layout.size = n * elemSize ptrType element ∧
      ∀ i < n, alignment ptrType element ∣ i * elemSize ptrType element ∧
        i * elemSize ptrType element + elemSize ptrType element ≤ layout.size

theorem IsAlignment.power {a : Nat} (aligned : IsAlignment a) : ∃ k, a = 2 ^ k := by
  rcases aligned with rfl | rfl | rfl | rfl
  · exact ⟨0, rfl⟩
  · exact ⟨1, rfl⟩
  · exact ⟨2, rfl⟩
  · exact ⟨3, rfl⟩

theorem exactLayout_sound {handles : Prop} {t : ValType}
    (valid : ValidType handles (despecialize t)) (ptrType : PtrType) :
    LayoutSound ptrType t (exactLayout ptrType (despecialize t)) := by
  have sound := valid.soundLayout ptrType
  refine ⟨rfl, ⟨rfl, rfl⟩, ?_, sound.isAlignment.power, sound.dvd, ?_, ?_, ?_⟩
  · rw [despecialize_once]
    exact ⟨rfl, rfl⟩
  · intro fields isRecord
    rw [isRecord] at valid ⊢
    cases valid with
    | handle _ isHandle => cases isHandle
    | record _ _ validFields =>
        have parts : ∀ field ∈ fields, SoundLayout ptrType field.type :=
          fun field member => (validFields field member).soundLayout ptrType
        refine ⟨_, rfl, length_fieldOffsets fields 0, ?_⟩
        intro i field start listed placed
        obtain ⟨aligned, inside, apart⟩ := fieldOffsets_sound parts listed placed
        have whole := le_alignTo (fieldsEnd ptrType 0 fields) (isAlignment_record parts).pos
        have size : (exactLayout ptrType (.record fields)).size =
            alignTo (fieldsEnd ptrType 0 fields) (alignmentRecord ptrType fields) := by
          simp only [exactLayout, elemSize]
        exact ⟨aligned, by omega, apart⟩
  · intro cases' isVariant
    rw [isVariant] at valid ⊢
    cases valid with
    | handle _ isHandle => cases isHandle
    | variant _ _ _ validCases =>
        have parts : ∀ case ∈ cases', ∀ type, case.type = some type → SoundLayout ptrType type :=
          fun case member type payload => (validCases case member type payload).soundLayout ptrType
        have aligned := isAlignment_maxCase parts
        refine ⟨rfl, le_payloadOffset ptrType aligned, ?_⟩
        intro case member type payload
        have size : (exactLayout ptrType (.variant cases')).size =
            alignTo (payloadOffset ptrType cases' + maxCaseSize ptrType cases')
              (max (discriminantSize cases'.length) (maxCaseAlignment ptrType cases')) := by
          simp only [exactLayout, elemSize]
        have whole := le_alignTo (payloadOffset ptrType cases' + maxCaseSize ptrType cases')
          ((IsAlignment.discriminantSize cases'.length).max aligned).pos
        have fits := @elemSize_le_maxCase ptrType _ _ _ member payload
        have divides := (parts case member type payload).isAlignment.dvd_of_le aligned
          (alignment_le_maxCase member payload)
        have start : (exactLayout ptrType (.variant cases')).payloadOffset =
            payloadOffset ptrType cases' := rfl
        constructor
        · rw [start]
          exact divides.trans (dvd_alignTo _ _)
        · rw [start, size]
          omega
  · intro element n isList
    rw [isList] at valid ⊢
    cases valid with
    | handle _ isHandle => cases isHandle
    | list validElement _ =>
        have part := validElement.soundLayout ptrType
        have size : (exactLayout ptrType (.list element (some n))).size =
            n * elemSize ptrType element := by simp only [exactLayout, elemSize]
        refine ⟨size, ?_⟩
        intro i inside
        refine ⟨part.dvd.mul_left i, ?_⟩
        rw [size, ← Nat.succ_mul]
        exact Nat.mul_le_mul_right _ inside

/-- The cache that a run of earlier requests leaves. -/
def cacheAfter (ptrType : PtrType) (earlier : List TypeObject) : LayoutCache :=
  earlier.foldl (fun cache object => ((cachedLayoutOf ptrType object).outcome cache).2) Cache.empty

theorem sound_cacheAfter {objects : Nat → TypeObject} {ptrType : PtrType}
    {earlier : List TypeObject} (known : ∀ object ∈ earlier, object.Known objects)
    {cache : LayoutCache}
    (sound : Cache.Sound (fun identity => freshLayoutOf ptrType (objects identity)) cache) :
    Cache.Sound (fun identity => freshLayoutOf ptrType (objects identity))
      (earlier.foldl (fun cache object => ((cachedLayoutOf ptrType object).outcome cache).2)
        cache) := by
  induction earlier generalizing cache with
  | nil => exact sound
  | cons object rest ih =>
      have agrees := agrees_object objects ptrType object (known object (by simp))
      exact ih (fun object member => known object (by simp [member])) (agrees.outcome sound).2

/-- The layout of a valid type whose size is at most `2 ^ 53` is sound, whatever the cache has
remembered before, and it is the layout of the reference. -/
theorem cachedLayout_sound (t : ValType) (valid : ValidType True (despecialize t))
    (ptrType : PtrType) (bounded : elemSize ptrType (despecialize t) ≤ 2 ^ 53)
    (objects : Nat → TypeObject) (object : TypeObject) (known : object.Known objects)
    (named : object.type = despecialize t) (earlier : List TypeObject)
    (knownEarlier : ∀ object ∈ earlier, object.Known objects) :
    ∃ layout, ((cachedLayoutOf ptrType object).outcome (cacheAfter ptrType earlier)).1 =
        .ok layout ∧ LayoutSound ptrType t layout := by
  have agrees := agrees_object objects ptrType object known
  have sound := sound_cacheAfter knownEarlier
    (Cache.sound_empty fun identity => freshLayoutOf ptrType (objects identity))
  refine ⟨exactLayout ptrType (despecialize t), ?_, exactLayout_sound valid ptrType⟩
  have exact' : freshLayoutOf ptrType object = .ok (exactLayout ptrType object.type) :=
    valid.exactLayout named bounded
  rw [named] at exact'
  rw [← exact']
  exact (agrees.outcome sound).1

/-- A tuple of a byte and a string, after the string's own layout was cached. -/
theorem cachedLayout_sound_pair :
    ∃ layout, ((cachedLayoutOf .i64 (.mk 1 (.record [⟨"0", .mk 2 (.prim .u8)⟩,
        ⟨"1", .mk 3 (.prim .string)⟩]))).outcome (cacheAfter .i64 [.mk 3 (.prim .string)])).1 =
        .ok layout ∧ LayoutSound .i64 (.tuple [.prim .u8, .prim .string]) layout := by
  have valid : ValidType True (despecialize (.tuple [.prim .u8, .prim .string])) := by
    refine .record (by decide) (by decide) ?_
    intro field member
    rcases member with _ | ⟨_, _ | ⟨_, beyond⟩⟩
    · exact .prim .u8
    · exact .prim .string
    · cases beyond
  apply cachedLayout_sound (.tuple [.prim .u8, .prim .string]) valid .i64 (by decide)
    fun identity => if identity = 1 then .mk 1 (.record [⟨"0", .mk 2 (.prim .u8)⟩,
      ⟨"1", .mk 3 (.prim .string)⟩])
    else if identity = 2 then .mk 2 (.prim .u8) else .mk 3 (.prim .string)
  · exact ⟨rfl, ⟨rfl, trivial⟩, ⟨rfl, trivial⟩, trivial⟩
  · rfl
  · intro object member
    rw [List.mem_singleton.mp member]
    exact ⟨rfl, trivial⟩

/-- A record of `2 ^ 60` bytes and one more. -/
def hugeRecord : ValType :=
  .record [⟨"bytes", .list (.list (.prim .u8) (some (2 ^ 30))) (some (2 ^ 30))⟩,
    ⟨"last", .prim .u8⟩]

def hugeRecordObject : TypeObject :=
  .mk 0 (.record [⟨"bytes", .mk 1 (.list (.mk 2 (.list (.mk 3 (.prim .u8)) (some (2 ^ 30))))
    (some (2 ^ 30)))⟩, ⟨"last", .mk 3 (.prim .u8)⟩])

/-- The last field begins where the record ends: one more than `2 ^ 60` is no double. -/
theorem hugeRecord_unsound :
    ValidType True (despecialize hugeRecord) ∧ hugeRecordObject.type = despecialize hugeRecord ∧
      ∃ layout, ((cachedLayoutOf .i32 hugeRecordObject).outcome Cache.empty).1 = .ok layout ∧
        ¬LayoutSound .i32 hugeRecord layout := by
  have computed : ((cachedLayoutOf .i32 hugeRecordObject).outcome Cache.empty).1.map
      (fun layout => (layout.fieldOffsets, layout.size)) = .ok (some [0, 2 ^ 60], 2 ^ 60) := by
    decide +kernel
  refine ⟨?_, rfl, ?_⟩
  · refine .record (by decide) (by decide) ?_
    intro field member
    rcases member with _ | ⟨_, _ | ⟨_, beyond⟩⟩
    · refine .list (.list (.prim .u8) ?_) ?_
      · intro n length
        cases length
        decide
      · intro n length
        cases length
        decide
    · exact .prim .u8
    · cases beyond
  · cases result : ((cachedLayoutOf .i32 hugeRecordObject).outcome Cache.empty).1 with
    | error failure =>
        rw [result] at computed
        cases computed
    | ok layout =>
        rw [result] at computed
        simp only [Except.map, Except.ok.injEq, Prod.mk.injEq] at computed
        refine ⟨layout, rfl, ?_⟩
        intro sound
        obtain ⟨offsets, given, _, placed⟩ := sound.fields _ rfl
        rw [computed.1] at given
        cases given
        have inside := (placed 1 ⟨"last", .prim .u8⟩ (2 ^ 60) rfl rfl).2.1
        rw [computed.2] at inside
        exact absurd inside (by decide)

end Polyengine.Cabi
