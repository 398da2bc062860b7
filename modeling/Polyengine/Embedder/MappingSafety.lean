import Polyengine.Embedder.ValueMapping

/-!
# What is prepared is typed

The parts of a host value that the adapter reads, and the safety of the mapping of a type: its values
come back, and what is accepted is a value of the type that keeps the bytes it was given.
-/

set_option autoImplicit false

namespace Polyengine.Embedder

open Polyengine.Cabi Polyengine.Library Fallible

/-! ## Parts of a host value -/

/-- The adapter of the first type at the first value reads the second value at the second type. -/
inductive Within (engine : Engine) : ValType → Bool → Js → ValType → Bool → Js → Prop where
  | element {element : ValType} {length : Option Nat} {inOption : Bool} {elements : List Js} {y : Js} :
      y ∈ elements → Within engine (.list element length) inOption (.array elements) element false y
  | field {fields : List FieldType} {field : FieldType} {inOption : Bool} {x y : Js} :
      field ∈ fields → engine.get x (camelCase field.label) = some y →
      Within engine (.record fields) inOption x field.type false y
  | tuple {elements : List ValType} {values : List Js} {index : Nat} {type : ValType}
      {inOption : Bool} {y : Js} :
      elements[index]? = some type → values[index]? = some y →
      Within engine (.tuple elements) inOption (.array values) type false y
  | case {cases : List CaseType} {label : String} {type : ValType} {inOption : Bool} {x y : Js} :
      ⟨label, some type⟩ ∈ cases → hostTag engine x = .ok (unitsOf label, some y) →
      Within engine (.variant cases) inOption x type false y
  | option {type : ValType} {x : Js} : Within engine (.option type) false x type true x
  | boxed {type : ValType} {x y : Js} :
      hostTag engine x = .ok (unitsOf "some", some y) →
      Within engine (.option type) true x type true y
  | ok {type : ValType} {error : Option ValType} {inOption : Bool} {x y : Js} :
      hostTag engine x = .ok (unitsOf "ok", some y) →
      Within engine (.result (some type) error) inOption x type false y
  | err {type : ValType} {ok : Option ValType} {inOption : Bool} {x y : Js} :
      hostTag engine x = .ok (unitsOf "err", some y) →
      Within engine (.result ok (some type)) inOption x type false y
  | key {key value : ValType} {inOption : Bool} {entries : List Js} {k y : Js} :
      .array [k, y] ∈ entries → Within engine (.map key value) inOption (.array entries) key false k
  | value {key value : ValType} {inOption : Bool} {entries : List Js} {k y : Js} :
      .array [k, y] ∈ entries →
      Within engine (.map key value) inOption (.array entries) value false y

inductive Reads (engine : Engine) : ValType → Bool → Js → ValType → Bool → Js → Prop where
  | self (type : ValType) (inOption : Bool) (x : Js) : Reads engine type inOption x type inOption x
  | within {whole part type : ValType} {inWhole inPart inOption : Bool} {x y z : Js} :
      Within engine whole inWhole x part inPart y → Reads engine part inPart y type inOption z →
      Reads engine whole inWhole x type inOption z

def Js.IsByte (x : Js) : Prop :=
  ∃ d n, x = .number d ∧ d.integer? = some n ∧ 0 ≤ n ∧ n ≤ 0xff

/-- Every array given for a `list<u8>` holds bytes. -/
def HoldsBytes (engine : Engine) (type : ValType) (inOption : Bool) (x : Js) : Prop :=
  ∀ length inPart elements,
    Reads engine type inOption x (.list (.prim .u8) length) inPart (.array elements) →
    ∀ y ∈ elements, y.IsByte

structure MapsSafely (engine : Engine) (type : ValType) (inOption : Bool) : Prop where
  returns : ∀ v, HasType type v → Returns engine type inOption v
  typed : ∀ x w, prepareHostValue engine type inOption x = .ok w → HasType type w
  bytes : ∀ x w, prepareHostValue engine type inOption x = .ok w → HoldsBytes engine type inOption x

section

variable {engine : Engine} {type part : ValType} {inOption inPart : Bool}

theorem Within.child {x y : Js} (within : Within engine type inOption x part inPart y) :
    Child part inPart type := by
  cases within with
  | element _ => exact .element _ _
  | field member _ => exact .field member
  | tuple found _ => exact .tuple (List.mem_of_getElem? found)
  | case member _ => exact .case member
  | option => exact .option _
  | boxed _ => exact .option _
  | ok _ => exact .side List.mem_cons_self
  | err _ => exact .side (List.mem_cons_of_mem _ List.mem_cons_self)
  | key _ => exact .key _ _
  | value _ => exact .value _ _

theorem Reads.occurs {x y : Js} (reads : Reads engine type inOption x part inPart y) :
    Occurs part inPart type inOption := by
  induction reads with
  | self type inOption _ => exact .self type inOption
  | within within _ ih => exact .child within.child ih

theorem holdsBytes_of_regular (regular : Regular type inOption) (x : Js) :
    HoldsBytes engine type inOption x := by
  intro length inPart elements reads
  have here : RegularHere (.list (.prim .u8) length) inPart :=
    regular _ _ reads.occurs
  exact absurd rfl here.1

/-! ## Typed results -/

theorem preparePayload_ok {kind : String} {type : Option ValType} {value : Option Js}
    {w : ComponentValue} (ran : preparePayload engine kind type value = .ok w) :
    type = none ∧ w = .variant kind .null ∨
      ∃ part x payload, type = some part ∧ value = some x ∧
        prepareHostValue engine part false x = .ok payload ∧ w = .variant kind payload := by
  cases type with
  | none =>
      simp only [preparePayload] at ran
      cases ran
      exact .inl ⟨rfl, rfl⟩
  | some part =>
      cases value with
      | none =>
          simp only [preparePayload] at ran
          cases ran
      | some x =>
          simp only [preparePayload] at ran
          obtain ⟨payload, prepared, ran⟩ := bind_ok ran
          cases ran
          exact .inr ⟨part, x, payload, rfl, rfl, prepared, rfl⟩

theorem prepareCase_ok {cases : List CaseType} {kind : List UInt16} {value : Option Js}
    {w : ComponentValue} (ran : prepareCase engine cases kind value = .ok w) :
    ∃ label type, ⟨label, type⟩ ∈ cases ∧ preparePayload engine label type value = .ok w := by
  induction cases with
  | nil =>
      simp only [prepareCase] at ran
      cases ran
  | cons first rest ih =>
      obtain ⟨label, type⟩ := first
      simp only [prepareCase] at ran
      by_cases same : unitsOf label = kind
      · rw [if_pos same] at ran
        exact ⟨label, type, List.mem_cons_self, ran⟩
      · rw [if_neg same] at ran
        obtain ⟨label, type, member, ran⟩ := ih ran
        exact ⟨label, type, List.mem_cons_of_mem _ member, ran⟩

theorem prepareField_ok {x : Js} {field : FieldType} {property : String × ComponentValue}
    (ran : prepareField engine x field = .ok property) :
    ∃ source value, fieldSource engine x field = .ok source ∧
      prepareHostValue engine field.type false source = .ok value ∧
      property = (field.label, value) := by
  obtain ⟨source, found, ran⟩ := bind_ok ran
  obtain ⟨value, prepared, ran⟩ := bind_ok ran
  cases ran
  exact ⟨source, value, found, prepared, rfl⟩

theorem record_typed {fields : List FieldType} {properties : List (String × ComponentValue)}
    (holds : List.Forall₂ (fun (field : FieldType) property =>
      ∃ value, property = (field.label, value) ∧ HasType field.type value) fields properties) :
    HasType (.record fields) (.record properties) := by
  have pairs : ∃ pairs : List (FieldType × ComponentValue), pairs.map Prod.fst = fields ∧
      pairs.map (fun pair => (pair.1.label, pair.2)) = properties ∧
      ∀ pair ∈ pairs, HasType pair.1.type pair.2 := by
    induction holds with
    | nil => exact ⟨[], rfl, rfl, fun _ member => absurd member List.not_mem_nil⟩
    | @cons field _ _ _ first _ ih =>
        obtain ⟨value, rfl, typed⟩ := first
        obtain ⟨pairs, rfl, rfl, rest⟩ := ih
        exact ⟨(field, value) :: pairs, rfl, rfl, List.forall_mem_cons.mpr ⟨typed, rest⟩⟩
  obtain ⟨pairs, rfl, rfl, typed⟩ := pairs
  exact .record pairs typed

theorem prepareElements_typed {types : List ValType}
    (safe : ∀ type ∈ types, ∀ x w, prepareHostValue engine type false x = .ok w → HasType type w) :
    ∀ {values : List Js} {first : Nat} {properties : List (String × ComponentValue)},
      values.length = types.length → prepareElements engine first types values = .ok properties →
      ∃ pairs : List (ValType × ComponentValue), pairs.map Prod.fst = types ∧
        properties = ((pairs.zipIdx first).map fun (pair, index) => (toString index, pair.2)) ∧
        ∀ pair ∈ pairs, HasType pair.1 pair.2 := by
  induction types with
  | nil =>
      intro values first properties _ ran
      simp only [prepareElements] at ran
      cases ran
      exact ⟨[], rfl, rfl, fun _ member => absurd member List.not_mem_nil⟩
  | cons type types ih =>
      intro values first properties count ran
      cases values with
      | nil => cases count
      | cons value values =>
          simp only [prepareElements] at ran
          obtain ⟨w, prepared, ran⟩ := bind_ok ran
          obtain ⟨rest, restRan, ran⟩ := bind_ok ran
          cases ran
          have typed := safe type List.mem_cons_self value w prepared
          obtain ⟨pairs, rfl, rfl, others⟩ := ih
            (fun other member => safe other (List.mem_cons_of_mem _ member))
            (Nat.succ.inj count) restRan
          refine ⟨(type, w) :: pairs, rfl, ?_, List.forall_mem_cons.mpr ⟨typed, others⟩⟩
          rw [List.zipIdx_cons]
          rfl

theorem prepareEntry_ok {key value : Js → Except Failure ComponentValue} {x : Js}
    {w : ComponentValue} (ran : prepareEntry key value x = .ok w) :
    ∃ k y preparedKey preparedValue, x = .array [k, y] ∧ key k = .ok preparedKey ∧
      value y = .ok preparedValue ∧ w = .record [("0", preparedKey), ("1", preparedValue)] := by
  simp only [prepareEntry] at ran
  split at ran
  · obtain ⟨preparedKey, keyRan, ran⟩ := bind_ok ran
    obtain ⟨preparedValue, valueRan, ran⟩ := bind_ok ran
    cases ran
    exact ⟨_, _, preparedKey, preparedValue, rfl, keyRan, valueRan, rfl⟩
  · cases ran

theorem map_typed {key value : ValType} {entries : List Js} {results : List ComponentValue}
    (keys : ∀ x w, prepareHostValue engine key false x = .ok w → HasType key w)
    (values : ∀ x w, prepareHostValue engine value false x = .ok w → HasType value w)
    (ran : List.Forall₂ (fun x w => prepareEntry (prepareHostValue engine key false)
      (prepareHostValue engine value false) x = .ok w) entries results) :
    HasType (.map key value) (.array results) := by
  have pairs : ∃ pairs : List (ComponentValue × ComponentValue),
      results = (pairs.map fun pair => .record [("0", pair.1), ("1", pair.2)]) ∧
      (∀ entry ∈ pairs, HasType key entry.1) ∧ ∀ entry ∈ pairs, HasType value entry.2 := by
    induction ran with
    | nil =>
        exact ⟨[], rfl, fun _ member => absurd member List.not_mem_nil,
          fun _ member => absurd member List.not_mem_nil⟩
    | cons first _ ih =>
        obtain ⟨k, y, w, z, rfl, keyRan, valueRan, rfl⟩ := prepareEntry_ok first
        obtain ⟨pairs, rfl, typedKeys, typedValues⟩ := ih
        exact ⟨(w, z) :: pairs, rfl, List.forall_mem_cons.mpr ⟨keys k w keyRan, typedKeys⟩,
          List.forall_mem_cons.mpr ⟨values y z valueRan, typedValues⟩⟩
  obtain ⟨pairs, rfl, typedKeys, typedValues⟩ := pairs
  exact .map typedKeys typedValues

theorem typed_of_regular (type : ValType) : ∀ inOption, Valid type inOption →
    Regular type inOption → ∀ x w, prepareHostValue engine type inOption x = .ok w →
      HasType type w := by
  induction type using child_induction with
  | step type ih =>
      intro inOption valid regular x w ran
      have parts : ∀ part inPart, Child part inPart type → ∀ x w,
          prepareHostValue engine part inPart x = .ok w → HasType part w := by
        intro part inPart isChild
        exact ih part inPart isChild inPart (valid.child isChild) (regular.child isChild)
      have validHere := valid.here
      have regularHere := regular.here
      cases type with
      | prim kind =>
          simp only [prepareHostValue] at ran
          exact .prim (preparePrim_typed ran)
      | errorContext | own _ | borrow _ | stream _ | future _ => exact validHere.elim
      | list element length =>
          obtain ⟨notBytes, rfl⟩ := regularHere
          simp only [prepareHostValue, if_neg ((primKind_u8_iff element).not.mpr notBytes)] at ran
          split at ran
          · obtain ⟨elements, prepared, ran⟩ := bind_ok ran
            cases ran
            refine .array notBytes (fun _ fixed => by cases fixed) ?_
            intro v member
            obtain ⟨source, _, converted⟩ := exists_of_mapM_ok prepared member
            exact parts _ _ (.element element none) _ _ converted
          · cases ran
      | record fields =>
          simp only [prepareHostValue, prepareFields_eq] at ran
          split at ran
          · obtain ⟨_, _, ran⟩ := bind_ok ran
            obtain ⟨properties, prepared, ran⟩ := bind_ok ran
            cases ran
            apply record_typed
            apply forall₂_of_mapM_ok prepared
            intro field member property ran
            obtain ⟨source, value, _, prepared, rfl⟩ := prepareField_ok ran
            exact ⟨value, rfl, parts _ _ (.field member) source value prepared⟩
          · cases ran
      | tuple elements =>
          simp only [prepareHostValue] at ran
          split at ran
          · split at ran
            · obtain ⟨properties, prepared, ran⟩ := bind_ok ran
              cases ran
              obtain ⟨pairs, rfl, rfl, typed⟩ := prepareElements_typed
                (fun part member => parts part false (.tuple member)) ‹_› prepared
              exact .tuple pairs typed
            · cases ran
          · cases ran
      | variant cases =>
          simp only [prepareHostValue] at ran
          obtain ⟨⟨kind, value⟩, _, ran⟩ := bind_ok ran
          obtain ⟨label, type, member, ran⟩ := prepareCase_ok ran
          rcases preparePayload_ok ran with ⟨rfl, rfl⟩ | ⟨part, x, payload, rfl, _, prepared, rfl⟩
          · exact .noPayload member
          · exact .payload member (parts _ _ (.case member) x payload prepared)
      | enum labels =>
          simp only [prepareHostValue] at ran
          split at ran
          · split at ran
            · cases ran
              exact .enum (List.mem_of_find?_eq_some ‹_›)
            · cases ran
          · cases ran
      | option type =>
          cases regularHere
          by_cases undefined : x = .undefined
          · cases undefined
            simp only [prepareHostValue] at ran
            cases ran
            exact .none
          · have ran := (prepareOption_there type undefined).symm.trans ran
            obtain ⟨payload, prepared, ran⟩ := bind_ok ran
            cases ran
            exact .some (parts _ _ (.option type) x payload prepared)
      | result ok error =>
          simp only [prepareHostValue] at ran
          obtain ⟨⟨kind, value⟩, _, ran⟩ := bind_ok ran
          split at ran
          · rcases preparePayload_ok ran with ⟨rfl, rfl⟩ | ⟨part, x, payload, rfl, _, prepared, rfl⟩
            · exact .emptySide (List.mem_cons_of_mem _ List.mem_cons_self)
            · have member : ("error", some part) ∈ [("ok", ok), ("error", some part)] :=
                List.mem_cons_of_mem _ List.mem_cons_self
              exact .side member (parts _ _ (.side member) x payload prepared)
          · split at ran
            · rcases preparePayload_ok ran with
                ⟨rfl, rfl⟩ | ⟨part, x, payload, rfl, _, prepared, rfl⟩
              · exact .emptySide List.mem_cons_self
              · have member : ("ok", some part) ∈ [("ok", some part), ("error", error)] :=
                  List.mem_cons_self
                exact .side member (parts _ _ (.side member) x payload prepared)
            · cases ran
      | flags labels =>
          simp only [prepareHostValue] at ran
          split at ran
          · obtain ⟨_, _, ran⟩ := bind_ok ran
            cases ran
            have typed := HasType.flags (labels.map fun label =>
              (label, ((engine.get x (camelCase label)).getD .undefined).truthy))
            rw [List.map_map, List.map_map] at typed
            simpa only [Function.comp_def, List.map_id'] using typed
          · cases ran
      | map key value =>
          simp only [prepareHostValue] at ran
          split at ran
          · obtain ⟨entries, prepared, ran⟩ := bind_ok ran
            cases ran
            exact map_typed (parts _ _ (.key key value)) (parts _ _ (.value key value))
              (mapM_ok_iff.mp prepared)
          · cases ran

end

end Polyengine.Embedder
