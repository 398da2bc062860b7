import Polyengine.Embedder.MappingConditions

/-!
# The safe mappings

Every valid type whose mapping is safe is regular, and the other way round.
-/

set_option autoImplicit false

namespace Polyengine.Embedder

open Polyengine.Cabi Polyengine.Library Fallible

/-! ## Parts of typed values -/

theorem record_hasType_part {fields : List FieldType} {values : FieldType → ComponentValue}
    (labels : (fields.map FieldType.label).Nodup)
    (typed : HasType (.record fields) (.record (fields.map fun field => (field.label, values field))))
    {field : FieldType} (member : field ∈ fields) : HasType field.type (values field) := by
  generalize sameType : ValType.record fields = type at typed
  generalize sameValue : ComponentValue.record _ = v at typed
  cases typed with
  | record pairs pairsTyped =>
      injection sameType with sameFields
      injection sameValue with sameProperties
      cases sameFields
      obtain ⟨pair, pairMember, rfl⟩ := List.mem_map.mp member
      have listed : (pair.1.label, pair.2) ∈ (pairs.map Prod.fst).map fun field =>
          (field.label, values field) := by
        rw [sameProperties]
        exact List.mem_map.mpr ⟨pair, pairMember, rfl⟩
      obtain ⟨other, otherMember, same⟩ := List.mem_map.mp listed
      obtain ⟨sameLabel, sameValue⟩ := Prod.mk.inj same
      cases List.inj_on_of_nodup_map labels otherMember member sameLabel
      rw [sameValue]
      exact pairsTyped pair pairMember
  | _ => cases sameType

theorem tuple_hasType_part {pairs : List (ValType × ComponentValue)}
    (typed : HasType (.tuple (pairs.map Prod.fst))
      (.record (pairs.zipIdx.map fun (pair, index) => (toString index, pair.2))))
    {pair : ValType × ComponentValue} (member : pair ∈ pairs) : HasType pair.1 pair.2 := by
  generalize sameType : ValType.tuple (pairs.map Prod.fst) = type at typed
  generalize sameValue : ComponentValue.record _ = v at typed
  cases typed with
  | tuple others othersTyped =>
      injection sameType with sameElements
      injection sameValue with sameProperties
      have values : ∀ list : List (ValType × ComponentValue),
          (list.zipIdx.map fun (pair, index) => (toString index, pair.2)).map Prod.snd =
            list.map Prod.snd := by
        intro list
        rw [List.map_map]
        calc list.zipIdx.map (Prod.snd ∘ fun (pair, index) => (toString index, pair.2))
          _ = (list.zipIdx.map Prod.fst).map Prod.snd := by
              rw [List.map_map]
              rfl
          _ = list.map Prod.snd := by rw [List.zipIdx_map_fst]
      have sameValues : pairs.map Prod.snd = others.map Prod.snd := by
        rw [← values pairs, ← values others, sameProperties]
      have same : pairs = others :=
        (List.zip_of_prod sameElements sameValues).trans (List.zip_of_prod rfl rfl).symm
      cases same
      exact othersTyped pair member
  | _ => cases sameType

theorem case_hasType_part {cases : List CaseType} (unique : (cases.map CaseType.label).Nodup)
    {label : String} {type : ValType} (member : ⟨label, some type⟩ ∈ cases)
    {value : ComponentValue} (typed : HasType (.variant cases) (.variant label value)) :
    HasType type value := by
  cases typed with
  | payload other typed =>
      cases List.inj_on_of_nodup_map unique other member rfl
      exact typed
  | noPayload other => cases List.inj_on_of_nodup_map unique other member rfl

theorem side_hasType_part {ok error : Option ValType} {kind : String} {type : ValType}
    (member : (kind, some type) ∈ [("ok", ok), ("error", error)]) {value : ComponentValue}
    (typed : HasType (.result ok error) (.variant kind value)) : HasType type value := by
  have unique : ([("ok", ok), ("error", error)].map Prod.fst).Nodup :=
    show ["ok", "error"].Nodup by decide
  cases typed with
  | side other typed =>
      cases List.inj_on_of_nodup_map unique other member rfl
      exact typed
  | emptySide other => cases List.inj_on_of_nodup_map unique other member rfl

theorem map_hasType_part {key value : ValType} {k z : ComponentValue}
    (typed : HasType (.map key value) (.array [.record [("0", k), ("1", z)]])) :
    HasType key k ∧ HasType value z := by
  generalize sameValue : ComponentValue.array _ = v at typed
  cases typed with
  | @map _ _ entries keys values =>
      injection sameValue with sameEntries
      cases entries with
      | nil => cases sameEntries
      | cons entry rest =>
          obtain ⟨sameEntry, _⟩ := List.cons.inj sameEntries
          cases sameEntry
          exact ⟨keys _ List.mem_cons_self, values _ List.mem_cons_self⟩

/-! ## From a type to its parts -/

section

variable {engine : Engine} {type part : ValType} {inOption inPart : Bool}

theorem entry_hasType {key value : ValType} {k z : ComponentValue} (keyTyped : HasType key k)
    (valueTyped : HasType value z) :
    HasType (.map key value) (.array [.record [("0", k), ("1", z)]]) := by
  have typed := @HasType.map key value [(k, z)]
  apply typed
  · intro entry member
    cases List.mem_singleton.mp member
    exact keyTyped
  · intro entry member
    cases List.mem_singleton.mp member
    exact valueTyped

theorem MapsSafely.returns_part (valid : Valid type inOption)
    (safe : MapsSafely engine type inOption) (isChild : Child part inPart type) :
    ∀ v, HasType part v → Returns engine part inPart v := by
  have validHere := valid.here
  have regularHere := regularHere_of_mapsSafely valid safe
  intro v typed
  cases isChild with
  | element element length =>
      obtain ⟨notBytes, rfl⟩ := regularHere
      apply array_returns_part notBytes
      apply safe.returns
      refine .array notBytes (fun _ fixed => nomatch fixed) ?_
      intro other member
      cases List.mem_singleton.mp member
      exact typed
  | @field fields field member =>
      have each : ∀ field ∈ fields, ∃ v, HasType field.type v :=
        fun field member => exists_typed _ _ (valid.child (.field member))
      obtain ⟨values, isValue, valuesTyped⟩ := @exists_values _ _
        (fun (field : FieldType) v => HasType field.type v) _ each field v typed
      obtain ⟨pairs, rfl, placed, pairsTyped⟩ := exists_pairs valuesTyped
      have returns := safe.returns _ (.record pairs pairsTyped)
      have returnsPart := record_returns_part validHere returns (placed field member)
      rw [isValue] at returnsPart
      exact returnsPart typed
  | @tuple elements part member =>
      have each : ∀ part ∈ elements, ∃ v, HasType part v :=
        fun part member => exists_typed _ _ (valid.child (.tuple member))
      obtain ⟨values, isValue, valuesTyped⟩ := exists_values each typed
      obtain ⟨pairs, rfl, placed, pairsTyped⟩ := exists_pairs valuesTyped
      have returns := safe.returns _ (.tuple pairs pairsTyped)
      have returnsPart := tuple_returns_parts returns _ (placed part member)
      rwa [isValue] at returnsPart
  | case member =>
      exact case_returns_part validHere.2 member (safe.returns _ (.payload member typed))
  | option part =>
      cases regularHere
      exact option_returns_part typed (safe.returns _ (.some typed))
  | side member => exact side_returns_part member (safe.returns _ (.side member typed))
  | key _ value =>
      obtain ⟨z, valueTyped⟩ := exists_typed _ _ (valid.child (.value part value))
      exact (map_returns_part (safe.returns _ (entry_hasType typed valueTyped))).1
  | value key _ =>
      obtain ⟨k, keyTyped⟩ := exists_typed _ _ (valid.child (.key key part))
      exact (map_returns_part (safe.returns _ (entry_hasType keyTyped typed))).2

theorem MapsSafely.exists_accepted (valid : Valid type inOption)
    (safe : MapsSafely engine type inOption) (isChild : Child part inPart type) :
    ∃ accepted : Js × ComponentValue,
      prepareHostValue engine part inPart accepted.1 = .ok accepted.2 := by
  obtain ⟨v, typed⟩ := exists_typed _ _ (valid.child isChild)
  obtain ⟨x, _, prepared⟩ := safe.returns_part valid isChild v typed
  exact ⟨(x, v), prepared⟩

/-- A host value of a part is read in one of the whole, whose internal value is typed only if that of
the part is. -/
theorem MapsSafely.embeds (valid : Valid type inOption) (safe : MapsSafely engine type inOption)
    (isChild : Child part inPart type) {x : Js} {w : ComponentValue}
    (ran : prepareHostValue engine part inPart x = .ok w)
    (isThere : inPart = true → x ≠ .undefined) :
    ∃ y u, prepareHostValue engine type inOption y = .ok u ∧ (HasType type u → HasType part w) ∧
      Within engine type inOption y part inPart x := by
  have validHere := valid.here
  have regularHere := regularHere_of_mapsSafely valid safe
  cases isChild with
  | element element length =>
      have notU8 := (primKind_u8_iff part).not.mpr regularHere.1
      refine ⟨.array [x], .array [w], ?_, ?_, .element List.mem_cons_self⟩
      · simp only [prepareHostValue, if_neg notU8, List.mapM_cons, ran]
        rfl
      · intro typed
        cases typed with
        | array _ _ elements => exact elements w List.mem_cons_self
  | @field fields field member =>
      have each : ∀ field ∈ fields, ∃ accepted : Js × ComponentValue,
          prepareHostValue engine field.type false accepted.1 = .ok accepted.2 :=
        fun field member => safe.exists_accepted valid (.field member)
      obtain ⟨values, isValue, accepted⟩ := @exists_values _ _
        (fun (field : FieldType) (accepted : Js × ComponentValue) =>
          prepareHostValue engine field.type false accepted.1 = .ok accepted.2) _ each field (x, w) ran
      have names := regularHere.1
      have found : ∀ field ∈ fields,
          engine.get (.object (fields.map fun field => (camelCase field.label, (values field).1)))
            (camelCase field.label) = some (values field).1 := by
        intro field member
        have listed : (fields.map fun field =>
            (camelCase field.label, (values field).1)).lookup (camelCase field.label) =
              some (values field).1 := by
          apply lookup_of_mem
          · rw [List.map_map]
            exact names
          · exact List.mem_map.mpr ⟨field, member, rfl⟩
        simp only [Engine.get, listed]
      have prepared : ∀ field ∈ fields, prepareField engine
          (.object (fields.map fun field => (camelCase field.label, (values field).1))) field =
            .ok (field.label, (values field).2) := by
        intro field member
        simp only [prepareField, fieldSource, found field member, pure_bind, accepted field member]
        rfl
      have noCollisions : checkNoCollisions (fields.map FieldType.label) = .ok () := by
        apply checkNoCollisions_ok
        rw [List.map_map]
        exact names
      refine ⟨.object (fields.map fun field => (camelCase field.label, (values field).1)),
        .record (fields.map fun field => (field.label, (values field).2)), ?_, ?_, ?_⟩
      · simp only [prepareHostValue, Js.isObject, if_true, noCollisions, prepareFields_eq,
          mapM_ok prepared]
        rfl
      · intro typed
        have typedPart := @record_hasType_part _ (fun field => (values field).2) validHere typed
          field member
        rwa [isValue] at typedPart
      · apply Within.field member
        rw [found field member, isValue]
  | @tuple elements part member =>
      have each : ∀ part ∈ elements, ∃ accepted : Js × ComponentValue,
          prepareHostValue engine part false accepted.1 = .ok accepted.2 :=
        fun part member => safe.exists_accepted valid (.tuple member)
      obtain ⟨values, isValue, accepted⟩ := @exists_values _ _
        (fun (part : ValType) (accepted : Js × ComponentValue) =>
          prepareHostValue engine part false accepted.1 = .ok accepted.2) _ each part (x, w) ran
      obtain ⟨pairs, rfl, placed, pairsAccepted⟩ := @exists_pairs _ _
        (fun part v => prepareHostValue engine part false (values part).1 = .ok v) _
        (fun part => (values part).2) accepted
      obtain ⟨index, found⟩ := List.getElem?_of_mem (placed part member)
      rw [isValue] at found
      refine ⟨.array (pairs.map fun pair => (values pair.1).1),
        .record (pairs.zipIdx.map fun (pair, index) => (toString index, pair.2)), ?_, ?_, ?_⟩
      · simp only [prepareHostValue, List.length_map, if_true, prepareElements_ok pairsAccepted]
        rfl
      · intro typed
        exact tuple_hasType_part typed (List.mem_of_getElem? found)
      · apply @Within.tuple _ _ _ index
        · rw [List.getElem?_map, found]
          rfl
        · rw [List.getElem?_map, found]
          simp only [Option.map_some, isValue]
  | @case cases label part member =>
      refine ⟨hostCase label (some x), .variant label w, ?_, case_hasType_part validHere.2 member,
        .case member (hostTag_hostCase label (some x))⟩
      simp only [prepareHostValue, hostTag_hostCase]
      exact (prepareCase_of_mem validHere.2 member (some x)).trans (preparePayload_some ran)
  | option part =>
      cases regularHere
      refine ⟨x, .variant "some" w, ?_, option_hasType_some, .option⟩
      rw [prepareOption_there part (isThere rfl), ran]
      rfl
  | @side ok error kind part member =>
      have typedPart := @side_hasType_part ok error kind part member w
      simp only [List.mem_cons, List.not_mem_nil, or_false, Prod.mk.injEq] at member
      rcases member with ⟨rfl, rfl⟩ | ⟨rfl, rfl⟩
      · refine ⟨hostCase "ok" (some x), .variant "ok" w, ?_, typedPart,
          .ok (hostTag_hostCase "ok" (some x))⟩
        simp only [prepareHostValue, hostTag_hostCase]
        exact preparePayload_some ran
      · refine ⟨hostCase "err" (some x), .variant "error" w, ?_, typedPart,
          .err (hostTag_hostCase "err" (some x))⟩
        simp only [prepareHostValue, hostTag_hostCase]
        exact preparePayload_some ran
  | key _ value =>
      obtain ⟨⟨y, z⟩, accepted⟩ := safe.exists_accepted valid (.value part value)
      refine ⟨.array [.array [x, y]], .array [.record [("0", w), ("1", z)]], ?_,
        fun typed => (map_hasType_part typed).1, .key List.mem_cons_self⟩
      simp only [prepareHostValue, List.mapM_cons, prepareEntry, ran, accepted]
      rfl
  | value key _ =>
      obtain ⟨⟨y, k⟩, accepted⟩ := safe.exists_accepted valid (.key key part)
      refine ⟨.array [.array [y, x]], .array [.record [("0", k), ("1", w)]], ?_,
        fun typed => (map_hasType_part typed).2, .value List.mem_cons_self⟩
      simp only [prepareHostValue, List.mapM_cons, prepareEntry, ran, accepted]
      rfl

theorem prim_of_undefined (valid : Valid type true) {w : ComponentValue}
    (ran : prepareHostValue engine type true .undefined = .ok w) : ∃ kind, type = .prim kind := by
  have validHere := valid.here
  cases type with
  | prim kind => exact ⟨kind, rfl⟩
  | errorContext | own _ | borrow _ | stream _ | future _ => exact validHere.elim
  | list element length =>
      simp only [prepareHostValue] at ran
      split at ran
      · cases ran
      · cases ran
  | _ =>
      simp only [prepareHostValue, hostTag, Js.isObject] at ran
      cases ran

theorem mapsSafely_prim (kind : PrimKind) : MapsSafely engine (.prim kind) inOption where
  returns v typed := by
    cases typed with
    | prim typed => exact prim_returns typed
  typed x w ran := by
    simp only [prepareHostValue] at ran
    exact .prim (preparePrim_typed ran)
  bytes x w _ length inPart elements reads := by
    cases reads with
    | within within _ => cases within

theorem MapsSafely.of_whole (valid : Valid type inOption) (safe : MapsSafely engine type inOption)
    (isChild : Child part inPart type) : MapsSafely engine part inPart := by
  have undefinedPart : ∀ w, inPart = true → prepareHostValue engine part inPart .undefined = .ok w →
      MapsSafely engine part inPart := by
    rintro w rfl ran
    obtain ⟨kind, rfl⟩ := prim_of_undefined (valid.child isChild) ran
    exact mapsSafely_prim kind
  refine ⟨safe.returns_part valid isChild, ?_, ?_⟩
  · intro x w ran
    by_cases undefined : inPart = true ∧ x = .undefined
    · obtain ⟨isPayload, rfl⟩ := undefined
      exact (undefinedPart w isPayload ran).typed _ w ran
    · have isThere : inPart = true → x ≠ .undefined :=
        fun isPayload same => undefined ⟨isPayload, same⟩
      obtain ⟨y, u, wholeRan, typed, _⟩ := safe.embeds valid isChild ran isThere
      exact typed (safe.typed y u wholeRan)
  · intro x w ran
    by_cases undefined : inPart = true ∧ x = .undefined
    · obtain ⟨isPayload, rfl⟩ := undefined
      exact (undefinedPart w isPayload ran).bytes _ w ran
    · have isThere : inPart = true → x ≠ .undefined :=
        fun isPayload same => undefined ⟨isPayload, same⟩
      obtain ⟨y, u, wholeRan, _, within⟩ := safe.embeds valid isChild ran isThere
      intro length inner elements reads
      exact safe.bytes y u wholeRan length inner elements (.within within reads)

theorem regular_of_mapsSafely (type : ValType) : ∀ inOption, Valid type inOption →
    MapsSafely engine type inOption → Regular type inOption := by
  induction type using child_induction with
  | step type ih =>
      intro inOption valid safe
      apply Regular.of_parts (regularHere_of_mapsSafely valid safe)
      intro part inPart isChild
      exact ih part inPart isChild inPart (valid.child isChild) (safe.of_whole valid isChild)

/-- The mapping of a valid type is a type-safe round trip exactly if the type is regular. -/
theorem mapsSafely_iff_regular (engine : Engine) (type : ValType) (valid : Valid type false) :
    MapsSafely engine type false ↔ Regular type false := by
  constructor
  · exact regular_of_mapsSafely type false valid
  · intro regular
    exact ⟨returns_of_regular type false valid regular, typed_of_regular type false valid regular,
      fun x _ _ => holdsBytes_of_regular regular x⟩

end

theorem valid_prim (kind : PrimKind) (inOption : Bool) : Valid (.prim kind) inOption := by
  have here : ValidHere (.prim kind) := trivial
  apply Valid.of_parts here
  intro part inPart isChild
  cases isChild

theorem regular_prim (kind : PrimKind) (inOption : Bool) : Regular (.prim kind) inOption := by
  have here : RegularHere (.prim kind) inOption := trivial
  apply Regular.of_parts here
  intro part inPart isChild
  cases isChild

theorem valid_option {type : ValType} (valid : Valid type true) (inOption : Bool) :
    Valid (.option type) inOption := by
  have here : ValidHere (.option type) := trivial
  apply Valid.of_parts here
  intro part inPart isChild
  cases isChild with
  | option _ => exact valid

theorem valid_field {field : FieldType} (valid : Valid field.type false) (inOption : Bool) :
    Valid (.record [field]) inOption := by
  have here : ValidHere (.record [field]) := List.nodup_singleton _
  apply Valid.of_parts here
  intro part inPart isChild
  cases isChild with
  | field member =>
      cases List.mem_singleton.mp member
      exact valid

/-- An engine without exotic properties and conversions. -/
def plainEngine : Engine where
  exotic _ _ := none
  coerce _ := none
  liftCarried _ _ := throw typeError
  prepareErrorContext _ := throw typeError

theorem mapsSafely_iff_regular_option :
    MapsSafely plainEngine (.option (.prim .u32)) false := by
  apply (mapsSafely_iff_regular plainEngine (.option (.prim .u32))
    (valid_option (valid_prim .u32 true) false)).mpr
  have here : RegularHere (.option (.prim .u32)) false := rfl
  apply Regular.of_parts here
  intro part inPart isChild
  cases isChild with
  | option _ => exact regular_prim .u32 true

/-- A field of option type, under the name of a function that every object inherits. -/
def inheritedField : ValType := .record [⟨"to-string", .option (.prim .bool)⟩]

theorem absent_field_is_some :
    Valid inheritedField false ∧
      HasType inheritedField (.record [("to-string", .variant "none" .null)]) ∧
      toHost plainEngine inheritedField false (.record [("to-string", .variant "none" .null)]) =
        .ok (.object []) ∧
      prepareHostValue plainEngine inheritedField false (.object []) =
        .ok (.record [("to-string", .variant "some" (.bool true))]) ∧
      ¬MapsSafely plainEngine inheritedField false := by
  have typed : HasType inheritedField (.record [("to-string", .variant "none" .null)]) := by
    apply HasType.record [(⟨"to-string", .option (.prim .bool)⟩, .variant "none" .null)]
    intro pair member
    cases List.mem_singleton.mp member
    exact .none
  have hosted : toHost plainEngine inheritedField false
      (.record [("to-string", .variant "none" .null)]) = .ok (.object []) := by
    simp only [inheritedField, toHost, fieldsToHost]
    rfl
  have prepared : prepareHostValue plainEngine inheritedField false (.object []) =
      .ok (.record [("to-string", .variant "some" (.bool true))]) := by
    simp only [inheritedField, prepareHostValue, prepareFields]
    rfl
  refine ⟨valid_field (valid_option (valid_prim .bool true) false) false, typed, hosted, prepared, ?_⟩
  intro safe
  obtain ⟨x, otherHosted, returned⟩ := safe.returns _ typed
  cases hosted.symm.trans otherHosted
  have same := prepared.symm.trans returned
  injection same with same
  injection same with same
  injection same with same _
  injection same with _ same
  injection same with sameKind _
  exact absurd sameKind (by decide)

end Polyengine.Embedder
