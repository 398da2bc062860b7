import Mathlib.Logic.Function.Basic
import Polyengine.Embedder.MappingSafety

/-!
# When the mapping of a type is safe

A type whose mapping is safe is regular, and so is each type in it: a value or a host value of a part
is embedded in one of the whole.
-/

set_option autoImplicit false

namespace Polyengine.Embedder

open Polyengine.Cabi Polyengine.Library Fallible

/-! ## Inhabitants -/

theorem not_hasType_null (type : ValType) : ¬HasType type .null := by
  intro typed
  cases typed with
  | @prim kind _ typed =>
      cases kind with
      | bool | f32 | f64 | string =>
          obtain ⟨_, same⟩ := typed
          cases same
      | char =>
          obtain ⟨_, _, same, _⟩ := typed
          cases same
      | u64 | s64 =>
          obtain ⟨_, same, _⟩ := typed
          cases same
      | u8 | u16 | u32 | s8 | s16 | s32 =>
          obtain ⟨_, _, same, _⟩ := typed
          cases same

theorem option_hasType_some {type : ValType} {value : ComponentValue}
    (typed : HasType (.option type) (.variant "some" value)) : HasType type value := by
  generalize same : ComponentValue.variant "some" value = v at typed
  cases typed with
  | none =>
      injection same with sameKind _
      exact absurd sameKind (by decide)
  | some typed =>
      cases same
      exact typed

theorem exists_values {Item Value : Type} {Holds : Item → Value → Prop} {items : List Item}
    (each : ∀ item ∈ items, ∃ value, Holds item value) {item : Item} {value : Value}
    (holds : Holds item value) :
    ∃ values : Item → Value, values item = value ∧ ∀ other ∈ items, Holds other (values other) := by
  classical
  have chosen : ∃ values : Item → Value, ∀ other ∈ items, Holds other (values other) := by
    have : Nonempty Value := ⟨value⟩
    choose! values found using each
    exact ⟨values, found⟩
  obtain ⟨values, found⟩ := chosen
  refine ⟨Function.update values item value, Function.update_self .., ?_⟩
  intro other member
  by_cases same : other = item
  · cases same
    rw [Function.update_self]
    exact holds
  · rw [Function.update_of_ne same]
    exact found other member

theorem exists_pairs {Item Value : Type} {Holds : Item → Value → Prop} {items : List Item}
    {values : Item → Value} (holds : ∀ item ∈ items, Holds item (values item)) :
    ∃ pairs : List (Item × Value), pairs.map Prod.fst = items ∧
      (∀ item ∈ items, (item, values item) ∈ pairs) ∧ ∀ pair ∈ pairs, Holds pair.1 pair.2 := by
  refine ⟨items.map fun item => (item, values item), ?_, ?_, ?_⟩
  · rw [List.map_map]
    exact List.map_id items
  · intro item member
    exact List.mem_map.mpr ⟨item, member, rfl⟩
  · intro pair member
    obtain ⟨item, itemMember, rfl⟩ := List.mem_map.mp member
    exact holds item itemMember

theorem exists_primType (kind : PrimKind) : ∃ v, PrimType kind v := by
  have zero : (⟨0⟩ : Double).integer? = some 0 := by decide +kernel
  cases kind with
  | bool => exact ⟨.bool false, false, rfl⟩
  | f32 | f64 => exact ⟨.number ⟨0⟩, ⟨0⟩, rfl⟩
  | string => exact ⟨.string [], [], rfl⟩
  | char => exact ⟨.string [97], [97], _, rfl, rfl⟩
  | u64 | s64 => exact ⟨.bigint 0, 0, rfl, _, _, rfl, by decide, by decide⟩
  | u8 | u16 | u32 | s8 | s16 | s32 =>
      exact ⟨.number ⟨0⟩, ⟨0⟩, 0, rfl, zero, _, _, rfl, by decide, by decide⟩

theorem exists_typed (type : ValType) : ∀ inOption, Valid type inOption → ∃ v, HasType type v := by
  induction type using child_induction with
  | step type ih =>
      intro inOption valid
      have parts : ∀ part inPart, Child part inPart type → ∃ v, HasType part v := by
        intro part inPart isChild
        exact ih part inPart isChild inPart (valid.child isChild)
      have validHere := valid.here
      cases type with
      | prim kind =>
          obtain ⟨v, typed⟩ := exists_primType kind
          exact ⟨v, .prim typed⟩
      | errorContext | own _ | borrow _ | stream _ | future _ => exact validHere.elim
      | list element length =>
          by_cases isBytes : element = .prim .u8
          · cases isBytes
            refine ⟨.bytes (List.replicate (length.getD 0) 0), .bytes ?_⟩
            rintro n rfl
            exact List.length_replicate
          · obtain ⟨v, typed⟩ := parts _ _ (.element element length)
            refine ⟨.array (List.replicate (length.getD 0) v), .array isBytes ?_ ?_⟩
            · rintro n rfl
              exact List.length_replicate
            · intro other member
              rw [List.eq_of_mem_replicate member]
              exact typed
      | record fields =>
          have each : ∀ field ∈ fields, ∃ v, HasType field.type v :=
            fun field member => parts _ _ (.field member)
          have : Nonempty ComponentValue := ⟨.null⟩
          choose! values typed using each
          obtain ⟨pairs, rfl, _, pairsTyped⟩ := exists_pairs typed
          exact ⟨_, .record pairs pairsTyped⟩
      | tuple elements =>
          have each : ∀ type ∈ elements, ∃ v, HasType type v :=
            fun type member => parts _ _ (.tuple member)
          have : Nonempty ComponentValue := ⟨.null⟩
          choose! values typed using each
          obtain ⟨pairs, rfl, _, pairsTyped⟩ := exists_pairs typed
          exact ⟨_, .tuple pairs pairsTyped⟩
      | variant cases =>
          obtain ⟨⟨label, payload⟩, member⟩ := List.exists_mem_of_ne_nil _ validHere.1
          cases payload with
          | none => exact ⟨_, .noPayload member⟩
          | some type =>
              obtain ⟨v, typed⟩ := parts _ _ (.case member)
              exact ⟨_, .payload member typed⟩
      | enum labels =>
          obtain ⟨label, member⟩ := List.exists_mem_of_ne_nil _ validHere.1
          exact ⟨_, .enum member⟩
      | option type => exact ⟨_, .none⟩
      | result ok error =>
          cases ok with
          | none => exact ⟨_, .emptySide List.mem_cons_self⟩
          | some type =>
              have member : ("ok", some type) ∈ [("ok", some type), ("error", error)] :=
                List.mem_cons_self
              obtain ⟨v, typed⟩ := parts _ _ (.side member)
              exact ⟨_, .side member typed⟩
      | flags labels =>
          have typed := HasType.flags (labels.map fun label => (label, false))
          rw [List.map_map] at typed
          simp only [Function.comp_def, List.map_id'] at typed
          exact ⟨_, typed⟩
      | map key value =>
          exact ⟨_, .map (fun _ member => absurd member List.not_mem_nil)
            (fun _ member => absurd member List.not_mem_nil)⟩

/-! ## The parts of a value that comes back -/

section

variable {engine : Engine} {inOption : Bool}

theorem array_returns_part {element : ValType} {length : Option Nat} {v : ComponentValue}
    (notBytes : element ≠ .prim .u8)
    (returns : Returns engine (.list element length) inOption (.array [v])) :
    Returns engine element false v := by
  have notU8 := (primKind_u8_iff element).not.mpr notBytes
  obtain ⟨x, hosted, prepared⟩ := returns
  simp only [toHost, if_neg notU8] at hosted
  obtain ⟨hosts, elementsHosted, hosted⟩ := bind_ok hosted
  cases hosted
  cases mapM_ok_iff.mp elementsHosted with
  | cons first rest =>
      cases rest with
      | nil =>
          simp only [prepareHostValue, if_neg notU8] at prepared
          obtain ⟨values, elementsPrepared, prepared⟩ := bind_ok prepared
          cases prepared
          cases mapM_ok_iff.mp elementsPrepared with
          | cons back _ => exact ⟨_, first, back⟩

theorem map_returns_part {key value : ValType} {k z : ComponentValue}
    (returns : Returns engine (.map key value) inOption (.array [.record [("0", k), ("1", z)]])) :
    Returns engine key false k ∧ Returns engine value false z := by
  obtain ⟨x, hosted, prepared⟩ := returns
  simp only [toHost] at hosted
  obtain ⟨hosts, entriesHosted, hosted⟩ := bind_ok hosted
  cases hosted
  cases mapM_ok_iff.mp entriesHosted with
  | cons first rest =>
      cases rest with
      | nil =>
          obtain ⟨_, found, first⟩ := bind_ok first
          cases found
          obtain ⟨hostKey, keyHosted, first⟩ := bind_ok first
          obtain ⟨_, found, first⟩ := bind_ok first
          cases found
          obtain ⟨hostValue, valueHosted, first⟩ := bind_ok first
          cases first
          simp only [prepareHostValue] at prepared
          obtain ⟨values, entriesPrepared, prepared⟩ := bind_ok prepared
          cases prepared
          cases mapM_ok_iff.mp entriesPrepared with
          | cons back _ =>
              obtain ⟨_, _, _, _, same, keyBack, valueBack, sameRecord⟩ := prepareEntry_ok back
              cases same
              cases sameRecord
              exact ⟨⟨_, keyHosted, keyBack⟩, ⟨_, valueHosted, valueBack⟩⟩

theorem payload_returns_part {kind : String} {type : ValType} {value v : ComponentValue} {x : Js}
    (hosted : payloadToHost engine kind (some type) value = .ok x)
    (back : ∀ y, x = hostCase kind (some y) → prepareHostValue engine type false y = .ok v) :
    ∃ y, toHost engine type false value = .ok y ∧ prepareHostValue engine type false y = .ok v := by
  simp only [payloadToHost] at hosted
  obtain ⟨y, payloadHosted, hosted⟩ := bind_ok hosted
  cases hosted
  exact ⟨y, payloadHosted, back y rfl⟩

theorem preparePayload_some_ok {kind : String} {type : ValType} {x : Js} {v : ComponentValue}
    (ran : preparePayload engine kind (some type) (some x) = .ok (.variant kind v)) :
    prepareHostValue engine type false x = .ok v := by
  rcases preparePayload_ok ran with ⟨none, _⟩ | ⟨part, y, payload, same, sameValue, prepared, result⟩
  · cases none
  · cases same
    cases sameValue
    cases result
    exact prepared

theorem case_returns_part {cases : List CaseType} (unique : (cases.map CaseType.label).Nodup)
    {label : String} {type : ValType} (member : ⟨label, some type⟩ ∈ cases)
    {value : ComponentValue}
    (returns : Returns engine (.variant cases) inOption (.variant label value)) :
    Returns engine type false value := by
  obtain ⟨x, hosted, prepared⟩ := returns
  simp only [toHost, internalTag] at hosted
  obtain ⟨_, same, hosted⟩ := bind_ok hosted
  cases same
  have hosted := (caseToHost_of_mem unique member value).symm.trans hosted
  apply payload_returns_part hosted
  rintro y rfl
  simp only [prepareHostValue, hostTag_hostCase] at prepared
  have prepared := (prepareCase_of_mem unique member (some y)).symm.trans prepared
  exact preparePayload_some_ok prepared

theorem side_returns_part {ok error : Option ValType} {kind : String} {type : ValType}
    (member : (kind, some type) ∈ [("ok", ok), ("error", error)]) {value : ComponentValue}
    (returns : Returns engine (.result ok error) inOption (.variant kind value)) :
    Returns engine type false value := by
  obtain ⟨x, hosted, prepared⟩ := returns
  simp only [List.mem_cons, List.not_mem_nil, or_false, Prod.mk.injEq] at member
  rcases member with ⟨rfl, rfl⟩ | ⟨rfl, rfl⟩
  · simp only [toHost, internalTag] at hosted
    obtain ⟨_, same, hosted⟩ := bind_ok hosted
    cases same
    have isOk : ¬("ok" = "error") := by decide
    rw [if_neg isOk] at hosted
    apply payload_returns_part hosted
    rintro y rfl
    simp only [prepareHostValue, hostTag_hostCase] at prepared
    exact preparePayload_some_ok prepared
  · simp only [toHost, internalTag] at hosted
    obtain ⟨_, same, hosted⟩ := bind_ok hosted
    cases same
    rw [if_pos rfl] at hosted
    apply payload_returns_part hosted
    rintro y rfl
    simp only [prepareHostValue, hostTag_hostCase] at prepared
    exact preparePayload_some_ok prepared

theorem option_returns_part {type : ValType} {value : ComponentValue} (typed : HasType type value)
    (returns : Returns engine (.option type) false (.variant "some" value)) :
    Returns engine type true value := by
  obtain ⟨x, hosted, prepared⟩ := returns
  simp only [toHost, internalTag] at hosted
  obtain ⟨_, same, hosted⟩ := bind_ok hosted
  cases same
  have isSome : ¬("some" = "none") := by decide
  rw [if_neg isSome] at hosted
  obtain ⟨y, payloadHosted, hosted⟩ := bind_ok hosted
  have same : y = x := Except.ok.inj hosted
  cases same
  refine ⟨x, payloadHosted, ?_⟩
  have isThere := toHost_ne_undefined typed payloadHosted
  have prepared := (prepareOption_there type isThere).symm.trans prepared
  obtain ⟨payload, back, prepared⟩ := bind_ok prepared
  cases prepared
  exact back

theorem elementsToHost_parts {v : ComponentValue} :
    ∀ {pairs : List (ValType × ComponentValue)} {first : Nat} {hosts : List Js},
      (∀ entry ∈ pairs.zipIdx first, v.field (toString entry.2) = .ok entry.1.2) →
      elementsToHost engine first (pairs.map Prod.fst) v = .ok hosts →
      ∀ pair ∈ pairs, ∃ y, toHost engine pair.1 false pair.2 = .ok y := by
  intro pairs
  induction pairs with
  | nil =>
      intro first hosts _ _ pair member
      cases member
  | cons first rest ih =>
      intro index hosts found hosted pair member
      rw [List.zipIdx_cons] at found
      rw [List.map_cons, elementsToHost] at hosted
      obtain ⟨inner, foundFirst, hosted⟩ := bind_ok hosted
      obtain ⟨y, firstHosted, hosted⟩ := bind_ok hosted
      obtain ⟨others, restHosted, hosted⟩ := bind_ok hosted
      cases (found _ List.mem_cons_self).symm.trans foundFirst
      cases member with
      | head => exact ⟨y, firstHosted⟩
      | tail _ member =>
          exact ih (fun entry member => found entry (List.mem_cons_of_mem _ member)) restHosted
            pair member

theorem prepareElements_parts {host : ValType × ComponentValue → Js} :
    ∀ {pairs : List (ValType × ComponentValue)} {first : Nat},
      prepareElements engine first (pairs.map Prod.fst) (pairs.map host) =
        .ok ((pairs.zipIdx first).map fun (pair, index) => (toString index, pair.2)) →
      ∀ pair ∈ pairs, prepareHostValue engine pair.1 false (host pair) = .ok pair.2 := by
  intro pairs
  induction pairs with
  | nil =>
      intro first _ pair member
      cases member
  | cons first rest ih =>
      intro index ran pair member
      rw [List.map_cons, List.map_cons, prepareElements, List.zipIdx_cons, List.map_cons] at ran
      obtain ⟨w, prepared, ran⟩ := bind_ok ran
      obtain ⟨others, restPrepared, ran⟩ := bind_ok ran
      obtain ⟨sameFirst, sameRest⟩ := List.cons.inj (Except.ok.inj ran)
      cases sameFirst
      cases sameRest
      cases member with
      | head => exact prepared
      | tail _ member => exact ih restPrepared pair member

theorem tuple_returns_parts {pairs : List (ValType × ComponentValue)}
    (returns : Returns engine (.tuple (pairs.map Prod.fst)) inOption
      (.record (pairs.zipIdx.map fun (pair, index) => (toString index, pair.2)))) :
    ∀ pair ∈ pairs, Returns engine pair.1 false pair.2 := by
  obtain ⟨x, hosted, prepared⟩ := returns
  simp only [toHost] at hosted
  obtain ⟨hosts, elementsHosted, hosted⟩ := bind_ok hosted
  cases hosted
  have parts := elementsToHost_parts (fun _ member => tuple_field member) elementsHosted
  choose! host partHosted using parts
  have inOrder := @elementsToHost_ok engine _ host pairs 0 fun entry member =>
    ⟨tuple_field member, partHosted _ (List.fst_mem_of_mem_zipIdx member)⟩
  cases elementsHosted.symm.trans inOrder
  simp only [prepareHostValue, List.length_map, if_true] at prepared
  obtain ⟨properties, elementsPrepared, prepared⟩ := bind_ok prepared
  cases prepared
  have back := prepareElements_parts elementsPrepared
  intro pair member
  exact ⟨host pair, partHosted pair member, back pair member⟩

/-! Records. -/

theorem checkNoCollisions_nodup {labels : List String}
    (ran : checkNoCollisions labels = .ok ()) : (labels.map camelCase).Nodup := by
  by_cases unique : (labels.map camelCase).Nodup
  · exact unique
  · rw [checkNoCollisions, if_neg unique] at ran
    cases ran

theorem fieldsToHost_parts {v : ComponentValue} :
    ∀ {pairs : List (FieldType × ComponentValue)} {properties : List (String × Js)},
      (∀ pair ∈ pairs, v.field pair.1.label = .ok pair.2) →
      fieldsToHost engine (pairs.map Prod.fst) v = .ok properties →
      ∀ pair ∈ pairs, ∃ y, toHost engine pair.1.type false pair.2 = .ok y := by
  intro pairs
  induction pairs with
  | nil =>
      intro properties _ _ pair member
      cases member
  | cons first rest ih =>
      intro properties found hosted pair member
      obtain ⟨⟨label, type⟩, value⟩ := first
      rw [List.map_cons, fieldsToHost] at hosted
      obtain ⟨inner, foundFirst, hosted⟩ := bind_ok hosted
      obtain ⟨y, firstHosted, hosted⟩ := bind_ok hosted
      obtain ⟨others, restHosted, hosted⟩ := bind_ok hosted
      cases (found _ List.mem_cons_self).symm.trans foundFirst
      cases member with
      | head => exact ⟨y, firstHosted⟩
      | tail _ member =>
          exact ih (fun other member => found other (List.mem_cons_of_mem _ member)) restHosted
            pair member

theorem record_returns_parts {pairs : List (FieldType × ComponentValue)}
    (labels : ((pairs.map Prod.fst).map FieldType.label).Nodup)
    (returns : Returns engine (.record (pairs.map Prod.fst)) inOption
      (.record (pairs.map fun (field, value) => (field.label, value)))) :
    (pairs.map fun pair => camelCase pair.1.label).Nodup ∧
      ∃ host : FieldType × ComponentValue → Js, ∀ pair ∈ pairs,
        toHost engine pair.1.type false pair.2 = .ok (host pair) ∧
          ∃ source, fieldSource engine (.object (pairs.filterMap (hostProperty host))) pair.1 =
              .ok source ∧
            prepareHostValue engine pair.1.type false source = .ok pair.2 := by
  obtain ⟨x, hosted, prepared⟩ := returns
  simp only [toHost] at hosted
  obtain ⟨_, checked, hosted⟩ := bind_ok hosted
  obtain ⟨properties, fieldsHosted, hosted⟩ := bind_ok hosted
  cases hosted
  have names := checkNoCollisions_nodup checked
  rw [List.map_map, List.map_map] at names
  refine ⟨names, ?_⟩
  have parts := fieldsToHost_parts (fun _ member => record_field labels member) fieldsHosted
  choose! host partHosted using parts
  have inOrder := @fieldsToHost_ok engine _ host pairs fun pair member =>
    ⟨record_field labels member, partHosted pair member⟩
  cases fieldsHosted.symm.trans inOrder
  simp only [prepareHostValue, Js.isObject, if_true, prepareFields_eq] at prepared
  obtain ⟨_, _, prepared⟩ := bind_ok prepared
  obtain ⟨results, fieldsPrepared, prepared⟩ := bind_ok prepared
  cases prepared
  have back := mapM_map_ok_iff.mp fieldsPrepared
  refine ⟨host, ?_⟩
  intro pair member
  obtain ⟨source, value, found, valuePrepared, same⟩ := prepareField_ok (back pair member)
  cases same
  exact ⟨partHosted pair member, source, found, valuePrepared⟩

theorem fieldSource_there {host : FieldType × ComponentValue → Js}
    {pairs : List (FieldType × ComponentValue)}
    (names : (pairs.map fun pair => camelCase pair.1.label).Nodup)
    {pair : FieldType × ComponentValue} (member : pair ∈ pairs) (there : ¬Omitted pair) :
    fieldSource engine (.object (pairs.filterMap (hostProperty host))) pair.1 = .ok (host pair) := by
  have found := @lookup_hostProperty host _ names _ member
  rw [hostProperty_there host there, Option.map_some] at found
  simp only [fieldSource, Engine.get, found]
  rfl

theorem fieldSource_inherited {host : FieldType × ComponentValue → Js}
    {pairs : List (FieldType × ComponentValue)}
    (names : (pairs.map fun pair => camelCase pair.1.label).Nodup)
    {pair : FieldType × ComponentValue} (member : pair ∈ pairs) (omitted : Omitted pair)
    (inherited : camelCase pair.1.label ∈ objectPrototype) :
    fieldSource engine (.object (pairs.filterMap (hostProperty host))) pair.1 =
      .ok (.function (camelCase pair.1.label)) := by
  have found := @lookup_hostProperty host _ names _ member
  rw [hostProperty_omitted host omitted, Option.map_none] at found
  simp only [fieldSource, Engine.get, found, if_pos inherited]
  rfl

theorem record_returns_part {pairs : List (FieldType × ComponentValue)}
    (labels : ((pairs.map Prod.fst).map FieldType.label).Nodup)
    (returns : Returns engine (.record (pairs.map Prod.fst)) inOption
      (.record (pairs.map fun (field, value) => (field.label, value))))
    {pair : FieldType × ComponentValue} (member : pair ∈ pairs)
    (typed : HasType pair.1.type pair.2) : Returns engine pair.1.type false pair.2 := by
  obtain ⟨names, host, parts⟩ := record_returns_parts labels returns
  obtain ⟨hosted, source, found, prepared⟩ := parts pair member
  by_cases omitted : Omitted pair
  · have isNone := isNone_typed typed omitted.1 omitted.2
    obtain ⟨⟨label, type⟩, value⟩ := pair
    cases type with
    | option type =>
        cases isNone
        exact none_returns type
    | _ => cases omitted.1
  · cases (fieldSource_there names member omitted).symm.trans found
    exact ⟨host pair, hosted, prepared⟩

theorem own_of_returns {pairs : List (FieldType × ComponentValue)}
    (labels : ((pairs.map Prod.fst).map FieldType.label).Nodup)
    (returns : Returns engine (.record (pairs.map Prod.fst)) inOption
      (.record (pairs.map fun (field, value) => (field.label, value))))
    {label : String} {type : ValType}
    (member : (⟨label, .option type⟩, .variant "none" .null) ∈ pairs) :
    camelCase label ∉ objectPrototype := by
  intro inherited
  obtain ⟨names, host, parts⟩ := record_returns_parts labels returns
  obtain ⟨_, source, found, prepared⟩ := parts _ member
  cases (fieldSource_inherited names member ⟨rfl, rfl⟩ inherited).symm.trans found
  simp only [prepareHostValue] at prepared
  obtain ⟨payload, _, prepared⟩ := bind_ok prepared
  have different : ComponentValue.variant "some" payload ≠ .variant "none" .null := by
    intro same
    injection same with sameKind _
    exact absurd sameKind (by decide)
  exact different (Except.ok.inj prepared)

/-! ## Regularity at the type -/

theorem regularHere_of_mapsSafely {type : ValType} (valid : Valid type inOption)
    (safe : MapsSafely engine type inOption) : RegularHere type inOption := by
  have validHere := valid.here
  cases type with
  | list element length =>
      have notBytes : element ≠ .prim .u8 := by
        rintro rfl
        have isBytes := (primKind_u8_iff (.prim .u8)).mpr rfl
        have ran : prepareHostValue engine (.list (.prim .u8) length) inOption (.array [.null]) =
            .ok (.bytes [0]) := by
          simp only [prepareHostValue, if_pos isBytes]
          rfl
        have held := safe.bytes _ _ ran length inOption [.null] (.self _ _ _) .null
          List.mem_cons_self
        obtain ⟨d, _, isNumber, _⟩ := held
        cases isNumber
      refine ⟨notBytes, ?_⟩
      cases length with
      | none => rfl
      | some n =>
          have ran : prepareHostValue engine (.list element (some n)) inOption (.array []) =
              .ok (.array []) := by
            simp only [prepareHostValue, if_neg ((primKind_u8_iff element).not.mpr notBytes)]
            rfl
          have positive := validHere n rfl
          cases safe.typed _ _ ran with
          | array _ fixed _ =>
              have empty := fixed n rfl
              rw [List.length_nil] at empty
              omega
  | record fields =>
      have each : ∀ field ∈ fields, ∃ v, HasType field.type v :=
        fun field member => exists_typed _ _ (valid.child (.field member))
      refine ⟨?_, ?_⟩
      · obtain ⟨v, typed⟩ := exists_typed _ _ valid
        obtain ⟨x, hosted, _⟩ := safe.returns v typed
        simp only [toHost] at hosted
        obtain ⟨_, checked, _⟩ := bind_ok hosted
        have names := checkNoCollisions_nodup checked
        rwa [List.map_map] at names
      · rintro ⟨label, type⟩ member option
        cases type with
        | option type =>
            obtain ⟨values, isNone, typed⟩ := @exists_values _ _
              (fun (field : FieldType) v => HasType field.type v) _ each ⟨label, .option type⟩ _
              (.none)
            obtain ⟨pairs, rfl, placed, pairsTyped⟩ := exists_pairs typed
            apply own_of_returns validHere (safe.returns _ (.record pairs pairsTyped))
            rw [← isNone]
            exact placed _ member
        | _ => cases option
  | flags labels =>
      obtain ⟨v, typed⟩ := exists_typed _ _ valid
      obtain ⟨x, hosted, _⟩ := safe.returns v typed
      simp only [toHost] at hosted
      obtain ⟨_, checked, _⟩ := bind_ok hosted
      exact checkNoCollisions_nodup checked
  | option type =>
      cases inOption with
      | false => rfl
      | true =>
          have ran : prepareHostValue engine (.option type) true (hostCase "some" none) =
              .ok (.variant "some" .null) := by
            simp only [prepareHostValue, hostTag_hostCase]
            rfl
          exact absurd (option_hasType_some (safe.typed _ _ ran)) (not_hasType_null type)
  | prim _ | errorContext | own _ | borrow _ | stream _ | future _ | tuple _ | variant _ | enum _
  | result _ _ | map _ _ => exact trivial

end

end Polyengine.Embedder
