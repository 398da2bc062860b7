import Polyengine.Bindgen.Codegen
import Polyengine.Embedder.MappingConditions

/-!
# The generated types fit the adapters

Where a WIT type is plain, the adapters give values of its generated type and take them.
-/

set_option autoImplicit false

namespace Polyengine.Bindgen

open Polyengine.Cabi Polyengine.Library Polyengine.Embedder Fallible

/-! ## The lists of the generator -/

theorem resolveAll_eq (types : List WitType) : resolveAll types = types.map resolve := by
  induction types with
  | nil => rfl
  | cons type types ih => rw [resolveAll, ih, List.map_cons]

theorem resolveOption_eq (type : Option WitType) : resolveOption type = type.map resolve := by
  cases type with
  | none => rfl
  | some type => rfl

theorem resolveFields_eq (fields : List WitField) :
    resolveFields fields = fields.map fun field => ⟨field.name, resolve field.type⟩ := by
  induction fields with
  | nil => rfl
  | cons field fields ih =>
      obtain ⟨name, type⟩ := field
      rw [resolveFields, ih, List.map_cons]

theorem resolveCases_eq (cases : List WitCase) :
    resolveCases cases = cases.map fun case => ⟨case.name, case.type.map resolve⟩ := by
  induction cases with
  | nil => rfl
  | cons case cases ih =>
      obtain ⟨name, type⟩ := case
      rw [resolveCases, ih, List.map_cons, resolveOption_eq]

theorem tsSide_eq (type : Option WitType) : tsSide type = type.map tsValueType := by
  cases type with
  | none => simp only [tsSide, Option.map_none]
  | some type => simp only [tsSide, Option.map_some]

theorem tsValueTypes_eq (types : List WitType) : tsValueTypes types = types.map tsValueType := by
  induction types with
  | nil => simp only [tsValueTypes, List.map_nil]
  | cons type types ih => simp only [tsValueTypes, ih, List.map_cons]

theorem tsArms_eq (cases : List WitCase) :
    tsArms cases = cases.map fun case => tsArm case.name (case.type.map tsValueType) := by
  induction cases with
  | nil => simp only [tsArms, List.map_nil]
  | cons case cases ih =>
      obtain ⟨name, type⟩ := case
      simp only [tsArms, ih, tsSide_eq, List.map_cons]

def tsProperty (field : WitField) : TsProperty where
  name := camelCase field.name
  optional := field.type.isOption
  type :=
    match field.type with
    | .option payload => tsOptionInner payload
    | type => tsValueType type

theorem tsProperties_eq (fields : List WitField) : tsProperties fields = fields.map tsProperty := by
  induction fields with
  | nil => simp only [tsProperties, List.map_nil]
  | cons field fields ih =>
      obtain ⟨name, type⟩ := field
      cases type <;> simp only [tsProperties, ih, List.map_cons, tsProperty, WitType.isOption]

theorem camelCase_label {name : String} (label : IsLabel name) :
    camelCase name = Embedder.camelCase name := by
  obtain ⟨first, rest, spelled, letter⟩ := label
  have notDash : (first == '-') = false := by
    rw [beq_eq_false_iff_ne]
    rintro rfl
    cases letter
  have notDigit : first.isDigit = false := by
    delta Char.isAlpha Char.isUpper Char.isLower at letter
    simp only [Bool.or_eq_true, Bool.and_eq_true, decide_eq_true_eq, Char.isDigit,
      Bool.and_eq_false_iff, decide_eq_false_iff_not, UInt32.le_iff_toNat_le, ge_iff_le] at letter ⊢
    have digits : 'A'.val.toNat = 65 ∧ 'a'.val.toNat = 97 ∧ '9'.val.toNat = 57 := by decide
    omega
  obtain ⟨head, tail, split⟩ := List.exists_cons_of_ne_nil (List.splitOnP_ne_nil (· == '-') rest)
  have parts : name.toList.splitOn '-' = (first :: head) :: tail := by
    rw [spelled, List.splitOn, List.splitOnP_cons_eq_if_modifyHead, if_neg (by simp [notDash]),
      split, List.modifyHead_cons]
  simp only [camelCase, Embedder.camelCase, parts, List.cons_append, List.head?_cons,
    Option.all_some, notDigit, Bool.false_eq_true, if_false]

/-! ## The values of the types -/

section

variable {engine : Engine}

theorem admits_array {element : TsType} {x : Js} :
    (TsType.array element).Admits engine x ↔
      ∃ elements, x = .array elements ∧ ∀ y ∈ elements, element.Admits engine y := by
  constructor
  · intro admits
    cases admits with
    | array each => exact ⟨_, rfl, each⟩
  · rintro ⟨elements, rfl, each⟩
    exact .array each

theorem admits_tuple {types : List TsType} {x : Js} :
    (TsType.tuple types).Admits engine x ↔
      ∃ elements, x = .array elements ∧
        List.Forall₂ (fun type y => type.Admits engine y) types elements := by
  constructor
  · intro admits
    cases admits with
    | tuple count each =>
        refine ⟨_, rfl, List.forall₂_iff_get.mpr ⟨count.symm, fun index left right => ?_⟩⟩
        exact each index _ _ (List.getElem?_eq_getElem left) (List.getElem?_eq_getElem right)
  · rintro ⟨elements, rfl, each⟩
    obtain ⟨count, each⟩ := List.forall₂_iff_get.mp each
    refine .tuple count.symm fun index type y isType isValue => ?_
    obtain ⟨left, rfl⟩ := List.getElem?_eq_some_iff.mp isType
    obtain ⟨right, rfl⟩ := List.getElem?_eq_some_iff.mp isValue
    exact each index left right

theorem admits_union {types : List TsType} {x : Js} :
    (TsType.union types).Admits engine x ↔ ∃ type ∈ types, type.Admits engine x := by
  constructor
  · intro admits
    cases admits with
    | union member admits => exact ⟨_, member, admits⟩
  · rintro ⟨type, member, admits⟩
    exact .union member admits

theorem read_some {x y : Js} {name : String} (found : engine.get x name = some y) :
    read engine x name = y := by
  rw [read, found, Option.getD_some]

theorem admits_literal {text : String} {x : Js} :
    (TsType.literal text).Admits engine x ↔ x = .string (unitsOf text) := by
  constructor
  · intro admits
    cases admits
    rfl
  · rintro rfl
    exact .literal text

def Provides (engine : Engine) (x : Js) (property : TsProperty) : Prop :=
  (property.optional = false → engine.get x property.name ≠ none) ∧
    ((property.optional = true → read engine x property.name ≠ .undefined) →
      property.type.Admits engine (read engine x property.name))

theorem admits_object {properties : List TsProperty} {x : Js} :
    (TsType.object properties).Admits engine x ↔
      x.isObject = true ∧ ∀ property ∈ properties, Provides engine x property := by
  constructor
  · intro admits
    cases admits with
    | object isObject there each =>
        exact ⟨isObject, fun property member => ⟨there property member, each property member⟩⟩
  · rintro ⟨isObject, provides⟩
    exact .object isObject (fun property member => (provides property member).1)
      fun property member => (provides property member).2

theorem provides_required {name : String} {type : TsType} {x : Js} :
    Provides engine x ⟨name, false, type⟩ ↔
      ∃ y, engine.get x name = some y ∧ type.Admits engine y := by
  constructor
  · rintro ⟨there, admits⟩
    obtain ⟨y, found⟩ := Option.ne_none_iff_exists'.mp (there rfl)
    have admits := admits nofun
    simp only [read_some found] at admits
    exact ⟨y, found, admits⟩
  · rintro ⟨y, found, admits⟩
    refine ⟨fun _ => ?_, fun _ => ?_⟩
    · simp [found]
    · simpa only [read_some found] using admits

theorem hostTag_ok_iff {x : Js} {kind : List UInt16} {value : Option Js} :
    hostTag engine x = .ok (kind, value) ↔ x.isObject = true ∧
      engine.get x "kind" = some (.string kind) ∧ engine.get x "value" = value := by
  unfold hostTag
  constructor
  · intro ran
    split at ran
    case isFalse => cases ran
    case isTrue isObject =>
      split at ran
      case h_1 found =>
        cases ran
        exact ⟨isObject, found, rfl⟩
      case h_2 => cases ran
  · rintro ⟨isObject, found, rfl⟩
    simp only [isObject, if_true, found]
    rfl

theorem admits_arm {kind : String} {payload : Option TsType} {x : Js} :
    (tsArm kind payload).Admits engine x ↔ ∃ value, hostTag engine x = .ok (unitsOf kind, value) ∧
      ∀ type, payload = some type → ∃ y, value = some y ∧ type.Admits engine y := by
  have tagged : Provides engine x ⟨"kind", false, .literal kind⟩ ↔
      engine.get x "kind" = some (.string (unitsOf kind)) := by
    rw [provides_required]
    constructor
    · rintro ⟨y, found, admits⟩
      rw [found, admits_literal.mp admits]
    · intro found
      exact ⟨_, found, .literal kind⟩
  cases payload with
  | none =>
      simp only [tsArm, admits_object, List.forall_mem_singleton, tagged, hostTag_ok_iff]
      constructor
      · rintro ⟨isObject, found⟩
        exact ⟨_, ⟨isObject, found, rfl⟩, nofun⟩
      · rintro ⟨value, ⟨isObject, found, _⟩, _⟩
        exact ⟨isObject, found⟩
  | some type =>
      simp only [tsArm, admits_object, List.forall_mem_cons, tagged, hostTag_ok_iff,
        provides_required]
      constructor
      · rintro ⟨isObject, found, ⟨y, isValue, admits⟩, _⟩
        refine ⟨some y, ⟨isObject, found, isValue⟩, fun other same => ?_⟩
        cases same
        exact ⟨y, rfl, admits⟩
      · rintro ⟨value, ⟨isObject, found, isValue⟩, payload⟩
        obtain ⟨y, rfl, admits⟩ := payload type rfl
        exact ⟨isObject, found, ⟨y, isValue, admits⟩, fun _ member => absurd member List.not_mem_nil⟩

theorem same_arm {kind : String} {type : TsType} {x y a b : Js}
    (isX : hostTag engine x = .ok (unitsOf kind, some a))
    (isY : hostTag engine y = .ok (unitsOf kind, some b)) :
    (tsArm kind (some type)).Same engine x y ↔ x = y ∨ type.Same engine a b := by
  obtain ⟨objectX, kindX, valueX⟩ := hostTag_ok_iff.mp isX
  obtain ⟨objectY, kindY, valueY⟩ := hostTag_ok_iff.mp isY
  constructor
  · intro same
    cases same with
    | refl _ _ => exact .inl rfl
    | object _ _ each =>
        have payload := each ⟨"value", false, type⟩ (by simp)
        simp only [read_some valueX, read_some valueY] at payload
        exact .inr payload
  · rintro (rfl | same)
    · exact .refl _ _
    · refine .object objectX objectY ?_
      simp only [List.forall_mem_cons, read_some kindX, read_some kindY, read_some valueX,
        read_some valueY]
      exact ⟨.refl _ _, same, fun _ member => absurd member List.not_mem_nil⟩

theorem same_emptyArm {kind : String} {x y : Js} {a b : Option Js}
    (isX : hostTag engine x = .ok (unitsOf kind, a))
    (isY : hostTag engine y = .ok (unitsOf kind, b)) : (tsArm kind none).Same engine x y := by
  obtain ⟨objectX, kindX, _⟩ := hostTag_ok_iff.mp isX
  obtain ⟨objectY, kindY, _⟩ := hostTag_ok_iff.mp isY
  refine .object objectX objectY ?_
  simp only [List.forall_mem_singleton, read_some kindX, read_some kindY]
  exact .refl _ _

/-! ## What the adapters read -/

theorem Fits.within {whole part : ValType} {inWhole inPart : Bool} {x y : Js}
    (fits : Fits engine whole inWhole x)
    (isObject : ∀ fields, whole = .record fields → x.isObject = true)
    (within : Within engine whole inWhole x part inPart y) : Fits engine part inPart y :=
  fun kind z reads => fits kind z (.within isObject within reads)

theorem fitsPrim_undefined (kind : PrimKind) : FitsPrim kind .undefined := by
  cases kind <;> trivial

theorem fits_undefined (type : ValType) (inOption : Bool) : Fits engine type inOption .undefined := by
  intro kind z reads
  generalize isUndefined : Js.undefined = x at reads
  induction reads with
  | self kind _ _ => exact isUndefined ▸ fitsPrim_undefined kind
  | within isObject within _ ih =>
      cases within with
      | field _ _ =>
          have object := isObject _ rfl
          rw [← isUndefined] at object
          cases object
      | option => exact ih isUndefined
      | case _ tagged =>
          rw [← isUndefined] at tagged
          cases tagged
      | boxed tagged =>
          rw [← isUndefined] at tagged
          cases tagged
      | ok tagged =>
          rw [← isUndefined] at tagged
          cases tagged
      | err tagged =>
          rw [← isUndefined] at tagged
          cases tagged
      | _ => cases isUndefined

/-- A value that is handed to the adapter of a type under the generated type; undefined never is the
payload of an option. -/
structure Given (engine : Engine) (generated : TsType) (type : ValType) (inOption : Bool)
    (x : Js) : Prop where
  admits : generated.Admits engine x
  fits : Fits engine type inOption x
  there : inOption = true → x ≠ .undefined

structure AgreesAt (engine : Engine) (generated : TsType) (type : ValType)
    (inOption : Bool) : Prop where
  produced : ∀ v x, HasType type v → toHost engine type inOption v = .ok x →
    generated.Admits engine x
  accepted : ∀ x, Given engine generated type inOption x →
    ∃ w, prepareHostValue engine type inOption x = .ok w
  distinct : ∀ x y w, Given engine generated type inOption x →
    Given engine generated type inOption y → prepareHostValue engine type inOption x = .ok w →
    prepareHostValue engine type inOption y = .ok w → generated.Same engine x y

variable {inOption : Bool}

/-! ## Primitive types and lists -/

theorem prim_given {kind : PrimKind} {x : Js} (admits : (tsPrim kind).Admits engine x)
    (fits : FitsPrim kind x) : ∃ v, PrimType kind v ∧ x = v.same := by
  cases kind with
  | bool =>
      cases admits with
      | boolean b => exact ⟨.bool b, ⟨b, rfl⟩, rfl⟩
  | f32 | f64 =>
      cases admits with
      | number d => exact ⟨.number d, ⟨d, rfl⟩, rfl⟩
  | string =>
      cases admits with
      | string units => exact ⟨.string units, ⟨units, rfl⟩, rfl⟩
  | char =>
      cases admits with
      | string units =>
          obtain ⟨c, scanned⟩ := fits
          exact ⟨.string units, ⟨units, c, rfl, scanned⟩, rfl⟩
  | u64 | s64 =>
      cases admits with
      | bigint n => exact ⟨.bigint n, ⟨n, rfl, fits⟩, rfl⟩
  | u8 | u16 | u32 | s8 | s16 | s32 =>
      cases admits with
      | number d =>
          obtain ⟨n, integer, inRange⟩ := fits
          exact ⟨.number d, ⟨d, n, rfl, integer, inRange⟩, rfl⟩

theorem prim_admits {kind : PrimKind} {v : ComponentValue} (typed : PrimType kind v) :
    (tsPrim kind).Admits engine v.same := by
  cases kind with
  | bool =>
      obtain ⟨b, rfl⟩ := typed
      exact .boolean b
  | f32 | f64 =>
      obtain ⟨d, rfl⟩ := typed
      exact .number d
  | string =>
      obtain ⟨units, rfl⟩ := typed
      exact .string units
  | char =>
      obtain ⟨units, _, rfl, _⟩ := typed
      exact .string units
  | u64 | s64 =>
      obtain ⟨n, rfl, _⟩ := typed
      exact .bigint n
  | u8 | u16 | u32 | s8 | s16 | s32 =>
      obtain ⟨d, _, rfl, _⟩ := typed
      exact .number d

theorem prim_agrees (kind : PrimKind) : AgreesAt engine (tsPrim kind) (.prim kind) inOption where
  produced := by
    intro v x typed hosted
    cases typed with
    | prim typed =>
        simp only [toHost] at hosted
        cases hosted
        exact prim_admits typed
  accepted := by
    intro x given
    obtain ⟨v, typed, rfl⟩ := prim_given given.admits (given.fits kind x (.self kind inOption x))
    simp only [prepareHostValue]
    exact ⟨v, preparePrim_same typed⟩
  distinct := by
    intro x y w givenX givenY preparedX preparedY
    obtain ⟨v, typed, rfl⟩ := prim_given givenX.admits (givenX.fits kind x (.self kind inOption x))
    obtain ⟨u, typed', rfl⟩ := prim_given givenY.admits (givenY.fits kind y (.self kind inOption y))
    simp only [prepareHostValue, preparePrim_same typed] at preparedX
    simp only [prepareHostValue, preparePrim_same typed'] at preparedY
    cases preparedX
    cases preparedY
    exact .refl _ _

theorem ok_bind {Result Next : Type} (result : Result)
    (continuation : Result → Except Failure Next) :
    (Except.ok result >>= continuation) = continuation result := rfl

theorem mapM_accepts {First Second : Type} {convert : First → Except Failure Second}
    {sources : List First} (converts : ∀ source ∈ sources, ∃ result, convert source = .ok result) :
    ∃ results, sources.mapM convert = .ok results := by
  induction sources with
  | nil => exact ⟨[], rfl⟩
  | cons source sources ih =>
      obtain ⟨first, converted⟩ := converts source List.mem_cons_self
      obtain ⟨rest, ran⟩ := ih fun other member => converts other (List.mem_cons_of_mem _ member)
      refine ⟨first :: rest, ?_⟩
      rw [List.mapM_cons, converted, ran]
      rfl

theorem mapM_same {First Second : Type} {convert : First → Except Failure Second}
    {left right : List First} {results : List Second} (leftRan : left.mapM convert = .ok results)
    (rightRan : right.mapM convert = .ok results) :
    left.length = right.length ∧ ∀ (index : Nat) a b, left[index]? = some a →
      right[index]? = some b → ∃ result, convert a = .ok result ∧ convert b = .ok result := by
  obtain ⟨leftCount, leftEach⟩ := List.forall₂_iff_get.mp (mapM_ok_iff.mp leftRan)
  obtain ⟨rightCount, rightEach⟩ := List.forall₂_iff_get.mp (mapM_ok_iff.mp rightRan)
  refine ⟨leftCount.trans rightCount.symm, fun index a b isLeft isRight => ?_⟩
  obtain ⟨leftBound, rfl⟩ := List.getElem?_eq_some_iff.mp isLeft
  obtain ⟨rightBound, rfl⟩ := List.getElem?_eq_some_iff.mp isRight
  exact ⟨_, leftEach index leftBound (leftCount ▸ leftBound),
    rightEach index rightBound (rightCount ▸ rightBound)⟩

theorem bytes_agrees (length : Option Nat) :
    AgreesAt engine .uint8Array (.list (.prim .u8) length) inOption := by
  have isBytes := (primKind_u8_iff (.prim .u8)).mpr rfl
  have prepared : ∀ data, prepareHostValue engine (.list (.prim .u8) length) inOption (.bytes data) =
      .ok (.bytes data) := by
    intro data
    simp only [prepareHostValue, if_pos isBytes]
    rfl
  refine ⟨?_, ?_, ?_⟩
  · intro v x typed hosted
    cases typed with
    | bytes _ =>
        simp only [toHost, if_pos isBytes] at hosted
        cases hosted
        exact .uint8Array _
    | array notBytes _ _ => exact absurd rfl notBytes
  · intro x given
    cases given.admits with
    | uint8Array data => exact ⟨.bytes data, prepared data⟩
  · intro x y w givenX givenY preparedX preparedY
    cases givenX.admits with
    | uint8Array data =>
        cases givenY.admits with
        | uint8Array other =>
            cases (prepared data).symm.trans preparedX
            cases (prepared other).symm.trans preparedY
            exact .refl _ _

theorem array_agrees {generated : TsType} {element : ValType} (length : Option Nat)
    (notBytes : element ≠ .prim .u8) (agrees : AgreesAt engine generated element false) :
    AgreesAt engine (.array generated) (.list element length) inOption := by
  have notU8 := (primKind_u8_iff element).not.mpr notBytes
  have part : ∀ elements, Given engine (.array generated) (.list element length) inOption
      (.array elements) → ∀ x ∈ elements, Given engine generated element false x := by
    intro elements given x member
    obtain ⟨_, same, each⟩ := admits_array.mp given.admits
    cases same
    exact ⟨each x member, given.fits.within nofun (.element member), nofun⟩
  refine ⟨?_, ?_, ?_⟩
  · intro v x typed hosted
    cases typed with
    | bytes _ => exact absurd rfl notBytes
    | array _ _ elementsTyped =>
        simp only [toHost, if_neg notU8] at hosted
        obtain ⟨hosts, elementsHosted, hosted⟩ := bind_ok hosted
        cases hosted
        refine .array fun x member => ?_
        obtain ⟨source, sourceMember, sourceHosted⟩ := exists_of_mapM_ok elementsHosted member
        exact agrees.produced source x (elementsTyped source sourceMember) sourceHosted
  · intro x given
    obtain ⟨elements, rfl, _⟩ := admits_array.mp given.admits
    obtain ⟨results, ran⟩ := mapM_accepts fun y member =>
      agrees.accepted y (part elements given y member)
    refine ⟨.array results, ?_⟩
    simp only [prepareHostValue, if_neg notU8, ran]
    rfl
  · intro x y w givenX givenY preparedX preparedY
    obtain ⟨xs, rfl, _⟩ := admits_array.mp givenX.admits
    obtain ⟨ys, rfl, _⟩ := admits_array.mp givenY.admits
    simp only [prepareHostValue, if_neg notU8] at preparedX preparedY
    obtain ⟨results, ranX, preparedX⟩ := bind_ok preparedX
    obtain ⟨others, ranY, preparedY⟩ := bind_ok preparedY
    cases preparedX
    cases preparedY
    obtain ⟨count, each⟩ := mapM_same ranX ranY
    refine .array count fun index a b isA isB => ?_
    obtain ⟨result, ranA, ranB⟩ := each index a b isA isB
    exact agrees.distinct a b result (part xs givenX a (List.mem_of_getElem? isA))
      (part ys givenY b (List.mem_of_getElem? isB)) ranA ranB

theorem map_agrees {keyType valueType : TsType} {key value : ValType}
    (keys : AgreesAt engine keyType key false) (values : AgreesAt engine valueType value false) :
    AgreesAt engine (.array (.tuple [keyType, valueType])) (.map key value) inOption := by
  have part : ∀ entries, Given engine (.array (.tuple [keyType, valueType])) (.map key value)
      inOption (.array entries) → ∀ x ∈ entries, ∃ k y, x = .array [k, y] ∧
        Given engine keyType key false k ∧ Given engine valueType value false y := by
    intro entries given x member
    obtain ⟨_, same, each⟩ := admits_array.mp given.admits
    cases same
    obtain ⟨elements, rfl, both⟩ := admits_tuple.mp (each x member)
    cases both with
    | cons admitsKey rest =>
        cases rest with
        | cons admitsValue none =>
            cases none
            exact ⟨_, _, rfl, ⟨admitsKey, given.fits.within (by simp) (.key member), by simp⟩,
              ⟨admitsValue, given.fits.within (by simp) (.value member), by simp⟩⟩
  refine ⟨?_, ?_, ?_⟩
  · intro v x typed hosted
    cases typed with
    | map keysTyped valuesTyped =>
        simp only [toHost] at hosted
        obtain ⟨hosts, entriesHosted, hosted⟩ := bind_ok hosted
        cases hosted
        refine .array fun x member => ?_
        obtain ⟨source, sourceMember, sourceHosted⟩ := exists_of_mapM_ok entriesHosted member
        obtain ⟨entry, entryMember, rfl⟩ := List.mem_map.mp sourceMember
        obtain ⟨_, found, sourceHosted⟩ := bind_ok sourceHosted
        cases found
        obtain ⟨hostKey, keyHosted, sourceHosted⟩ := bind_ok sourceHosted
        obtain ⟨_, found, sourceHosted⟩ := bind_ok sourceHosted
        cases found
        obtain ⟨hostValue, valueHosted, sourceHosted⟩ := bind_ok sourceHosted
        cases sourceHosted
        exact admits_tuple.mpr ⟨_, rfl,
          .cons (keys.produced _ _ (keysTyped entry entryMember) keyHosted)
            (.cons (values.produced _ _ (valuesTyped entry entryMember) valueHosted) .nil)⟩
  · intro x given
    obtain ⟨entries, rfl, _⟩ := admits_array.mp given.admits
    have each : ∀ y ∈ entries, ∃ result, prepareEntry (prepareHostValue engine key false)
        (prepareHostValue engine value false) y = .ok result := by
      intro y member
      obtain ⟨k, z, rfl, givenKey, givenValue⟩ := part entries given y member
      obtain ⟨preparedKey, keyRan⟩ := keys.accepted k givenKey
      obtain ⟨preparedValue, valueRan⟩ := values.accepted z givenValue
      refine ⟨.record [("0", preparedKey), ("1", preparedValue)], ?_⟩
      simp only [prepareEntry, keyRan, valueRan]
      rfl
    obtain ⟨results, ran⟩ := mapM_accepts each
    refine ⟨.array results, ?_⟩
    simp only [prepareHostValue, ran]
    rfl
  · intro x y w givenX givenY preparedX preparedY
    obtain ⟨xs, rfl, _⟩ := admits_array.mp givenX.admits
    obtain ⟨ys, rfl, _⟩ := admits_array.mp givenY.admits
    simp only [prepareHostValue] at preparedX preparedY
    obtain ⟨results, ranX, preparedX⟩ := bind_ok preparedX
    obtain ⟨others, ranY, preparedY⟩ := bind_ok preparedY
    cases preparedX
    cases preparedY
    obtain ⟨count, each⟩ := mapM_same ranX ranY
    refine .array count fun index a b isA isB => ?_
    obtain ⟨result, ranA, ranB⟩ := each index a b isA isB
    obtain ⟨k, z, rfl, givenKey, givenValue⟩ := part xs givenX a (List.mem_of_getElem? isA)
    obtain ⟨k', z', rfl, givenKey', givenValue'⟩ := part ys givenY b (List.mem_of_getElem? isB)
    obtain ⟨_, _, preparedKey, preparedValue, same, keyRan, valueRan, rfl⟩ := prepareEntry_ok ranA
    cases same
    obtain ⟨_, _, _, _, same, keyRan', valueRan', sameResult⟩ := prepareEntry_ok ranB
    cases same
    cases sameResult
    refine .tuple rfl fun place type c d isType isC isD => ?_
    cases place with
    | zero =>
        cases isType
        cases isC
        cases isD
        exact keys.distinct _ _ preparedKey givenKey givenKey' keyRan keyRan'
    | succ place =>
        cases place with
        | zero =>
            cases isType
            cases isC
            cases isD
            exact values.distinct _ _ preparedValue givenValue givenValue' valueRan valueRan'
        | succ => cases isType

/-! ## Tuples and records -/

theorem prepareElements_accepts {types : List ValType} {values : List Js}
    (accepts : List.Forall₂ (fun type x => ∃ w, prepareHostValue engine type false x = .ok w)
      types values) :
    ∀ first, ∃ properties, prepareElements engine first types values = .ok properties := by
  induction accepts with
  | nil => exact fun first => ⟨[], by simp only [prepareElements]; rfl⟩
  | cons accepted _ ih =>
      intro first
      obtain ⟨w, ran⟩ := accepted
      obtain ⟨rest, restRan⟩ := ih (first + 1)
      refine ⟨(toString first, w) :: rest, ?_⟩
      simp only [prepareElements, ran, restRan]
      rfl

theorem prepareElements_same {types : List ValType} :
    ∀ {xs ys : List Js} {first : Nat} {properties : List (String × ComponentValue)},
      xs.length = types.length → ys.length = types.length →
      prepareElements engine first types xs = .ok properties →
      prepareElements engine first types ys = .ok properties →
      ∀ (index : Nat) type x y, types[index]? = some type → xs[index]? = some x →
        ys[index]? = some y → ∃ w, prepareHostValue engine type false x = .ok w ∧
          prepareHostValue engine type false y = .ok w := by
  induction types with
  | nil =>
      intro xs ys first properties _ _ _ _ index type x y isType
      cases isType
  | cons type types ih =>
      intro xs ys first properties countX countY ranX ranY index other x y isType isX isY
      cases xs with
      | nil => cases countX
      | cons a xs =>
          cases ys with
          | nil => cases countY
          | cons b ys =>
              simp only [prepareElements] at ranX ranY
              obtain ⟨w, preparedA, ranX⟩ := bind_ok ranX
              obtain ⟨rest, restRan, ranX⟩ := bind_ok ranX
              cases ranX
              obtain ⟨u, preparedB, ranY⟩ := bind_ok ranY
              obtain ⟨others, othersRan, ranY⟩ := bind_ok ranY
              cases ranY
              cases index with
              | zero =>
                  cases isType
                  cases isX
                  cases isY
                  exact ⟨_, preparedA, preparedB⟩
              | succ index =>
                  exact ih (Nat.succ.inj countX) (Nat.succ.inj countY) restRan othersRan index
                    other x y isType isX isY

theorem tuple_agrees {types : List WitType}
    (agrees : ∀ type ∈ types, AgreesAt engine (tsValueType type) (resolve type) false) :
    AgreesAt engine (.tuple (types.map tsValueType)) (.tuple (types.map resolve)) inOption := by
  have part : ∀ elements, Given engine (.tuple (types.map tsValueType)) (.tuple (types.map resolve))
      inOption (.array elements) → elements.length = types.length ∧
        ∀ (index : Nat) type x, types[index]? = some type → elements[index]? = some x →
          Given engine (tsValueType type) (resolve type) false x := by
    intro elements given
    cases given.admits with
    | tuple count each =>
        refine ⟨by simpa using count, fun index type x isType isX => ?_⟩
        have isGenerated : (types.map tsValueType)[index]? = some (tsValueType type) := by
          rw [List.getElem?_map, isType, Option.map_some]
        have isResolved : (types.map resolve)[index]? = some (resolve type) := by
          rw [List.getElem?_map, isType, Option.map_some]
        exact ⟨each index _ x isGenerated isX, given.fits.within nofun (.tuple isResolved isX), nofun⟩
  refine ⟨?_, ?_, ?_⟩
  · intro v x typed hosted
    generalize sameType : ValType.tuple (types.map resolve) = type at typed
    cases typed with
    | tuple pairs pairsTyped =>
        injection sameType with sameTypes
        simp only [toHost, sameTypes] at hosted
        obtain ⟨hosts, elementsHosted, hosted⟩ := bind_ok hosted
        cases hosted
        have parts := elementsToHost_parts (fun _ member => tuple_field member) elementsHosted
        choose! host partHosted using parts
        have inOrder := @elementsToHost_ok engine _ host pairs 0 fun entry member =>
          ⟨tuple_field member, partHosted _ (List.fst_mem_of_mem_zipIdx member)⟩
        cases elementsHosted.symm.trans inOrder
        have count := congrArg List.length sameTypes
        simp only [List.length_map] at count
        refine .tuple (by simp [count]) fun index generated x isGenerated isX => ?_
        rw [List.getElem?_map, Option.map_eq_some_iff] at isGenerated isX
        obtain ⟨type, isType, rfl⟩ := isGenerated
        obtain ⟨pair, isPair, rfl⟩ := isX
        have sameType : resolve type = pair.1 := by
          have place := congrArg (fun list : List ValType => list[index]?) sameTypes
          simpa only [List.getElem?_map, isType, isPair, Option.map_some, Option.some.injEq]
            using place
        have member := List.mem_of_getElem? isPair
        have typed := pairsTyped pair member
        have hosted := partHosted pair member
        rw [← sameType] at typed hosted
        exact (agrees type (List.mem_of_getElem? isType)).produced _ _ typed hosted
    | _ => cases sameType
  · intro x given
    obtain ⟨elements, rfl, _⟩ := admits_tuple.mp given.admits
    obtain ⟨count, each⟩ := part elements given
    have accepts : List.Forall₂ (fun type x => ∃ w, prepareHostValue engine type false x = .ok w)
        (types.map resolve) elements := by
      rw [List.forall₂_map_left_iff, List.forall₂_iff_get]
      refine ⟨count.symm, fun index left right => ?_⟩
      exact (agrees _ (List.getElem_mem left)).accepted _ (each index _ _
        (List.getElem?_eq_getElem left) (List.getElem?_eq_getElem right))
    obtain ⟨properties, ran⟩ := prepareElements_accepts accepts 0
    refine ⟨.record properties, ?_⟩
    simp only [prepareHostValue, List.length_map, count, if_true, ran]
    rfl
  · intro x y w givenX givenY preparedX preparedY
    obtain ⟨xs, rfl, _⟩ := admits_tuple.mp givenX.admits
    obtain ⟨ys, rfl, _⟩ := admits_tuple.mp givenY.admits
    obtain ⟨countX, eachX⟩ := part xs givenX
    obtain ⟨countY, eachY⟩ := part ys givenY
    simp only [prepareHostValue, List.length_map, countX, countY, if_true] at preparedX preparedY
    obtain ⟨properties, ranX, preparedX⟩ := bind_ok preparedX
    obtain ⟨others, ranY, preparedY⟩ := bind_ok preparedY
    cases preparedX
    cases preparedY
    refine .tuple (countX.trans countY.symm) fun index generated a b isGenerated isA isB => ?_
    rw [List.getElem?_map, Option.map_eq_some_iff] at isGenerated
    obtain ⟨type, isType, rfl⟩ := isGenerated
    have isResolved : (types.map resolve)[index]? = some (resolve type) := by
      rw [List.getElem?_map, isType, Option.map_some]
    obtain ⟨w, ranA, ranB⟩ := prepareElements_same (by simpa using countX) (by simpa using countY)
      ranX ranY index _ a b isResolved isA isB
    exact (agrees type (List.mem_of_getElem? isType)).distinct a b w
      (eachX index type a isType isA) (eachY index type b isType isB) ranA ranB

theorem provides_field {field : WitField} {x : Js} :
    Provides engine x (tsProperty field) ↔
      (field.type.isOption = false → engine.get x (camelCase field.name) ≠ none) ∧
        (tsValueType field.type).Admits engine (read engine x (camelCase field.name)) := by
  obtain ⟨name, type⟩ := field
  refine and_congr_right fun there => ?_
  cases type with
  | option payload =>
      simp only [tsProperty, WitType.isOption, tsValueType, admits_union, List.mem_cons,
        List.not_mem_nil, or_false, exists_eq_or_imp, exists_eq_left]
      constructor
      · intro admits
        by_cases absent : read engine x (camelCase name) = .undefined
        · rw [absent]
          exact .inr .undefined
        · exact .inl (admits fun _ => absent)
      · rintro (admits | absent) there
        · exact admits
        · have undefined : read engine x (camelCase name) = .undefined := by
            generalize read engine x (camelCase name) = y at absent
            cases absent
            rfl
          exact absurd undefined (there trivial)
  | _ =>
      simp only [tsProperty, WitType.isOption]
      exact ⟨fun admits => admits (by simp), fun admits _ => admits⟩

theorem same_field {field : WitField} {x y : Js}
    (same : (tsValueType field.type).Same engine x y) : (tsProperty field).type.Same engine x y := by
  obtain ⟨name, type⟩ := field
  cases type with
  | option payload =>
      simp only [tsValueType] at same
      cases same with
      | refl _ _ => exact .refl _ _
      | union member admitsX admitsY same =>
          simp only [List.mem_cons, List.not_mem_nil, or_false] at member
          rcases member with rfl | rfl
          · exact same
          · cases admitsX
            cases admitsY
            exact .refl _ _
  | _ => exact same

theorem mapM_agree {First Second : Type} {left right : First → Except Failure Second}
    {sources : List First} : ∀ {results : List Second}, sources.mapM left = .ok results →
      sources.mapM right = .ok results →
      ∀ source ∈ sources, ∃ result, left source = .ok result ∧ right source = .ok result := by
  induction sources with
  | nil =>
      intro results _ _ source member
      cases member
  | cons first rest ih =>
      intro results leftRan rightRan source member
      rw [List.mapM_cons] at leftRan rightRan
      obtain ⟨a, leftFirst, leftRan⟩ := bind_ok leftRan
      obtain ⟨as, leftRest, leftRan⟩ := bind_ok leftRan
      cases leftRan
      obtain ⟨b, rightFirst, rightRan⟩ := bind_ok rightRan
      obtain ⟨bs, rightRest, rightRan⟩ := bind_ok rightRan
      cases rightRan
      cases member with
      | head => exact ⟨a, leftFirst, rightFirst⟩
      | tail _ member => exact ih leftRest rightRest source member

def resolveField (field : WitField) : FieldType := ⟨field.name, resolve field.type⟩

theorem record_part {fields : List WitField} (labels : ∀ field ∈ fields, IsLabel field.name)
    {x : Js} (given : Given engine (.object (fields.map tsProperty))
      (.record (fields.map resolveField)) inOption x) {field : WitField} (member : field ∈ fields) :
    fieldSource engine x (resolveField field) =
        .ok (read engine x (Embedder.camelCase field.name)) ∧
      Given engine (tsValueType field.type) (resolve field.type) false
        (read engine x (Embedder.camelCase field.name)) := by
  obtain ⟨isObject, provides⟩ := admits_object.mp given.admits
  obtain ⟨there, admits⟩ := provides_field.mp (provides _ (List.mem_map_of_mem member))
  rw [camelCase_label (labels field member)] at there admits
  cases found : engine.get x (Embedder.camelCase field.name) with
  | some y =>
      have isRead := read_some found
      rw [isRead] at admits ⊢
      refine ⟨by simp only [fieldSource, resolveField, found]; rfl, admits, ?_, by simp⟩
      have within := @Within.field engine (fields.map resolveField) (resolveField field) inOption x y
        (List.mem_map_of_mem member) found
      exact given.fits.within (fun _ _ => isObject) within
  | none =>
      have undefined : read engine x (Embedder.camelCase field.name) = .undefined := by
        rw [read, found, Option.getD_none]
      have written : field.type.isOption = true := by
        by_contra required
        exact there (Bool.eq_false_iff.mpr required) found
      have option : Embedder.isOption (resolve field.type) = true := by
        cases type : field.type with
        | option payload => rfl
        | _ => rw [type] at written; cases written
      rw [undefined] at admits ⊢
      exact ⟨by simp only [fieldSource, resolveField, found, option, if_true]; rfl, admits,
        fits_undefined _ _, by simp⟩

theorem toHost_none {type : ValType} (option : Embedder.isOption type = true) :
    toHost engine type false (.variant "none" .null) = .ok .undefined := by
  cases type with
  | option type =>
      simp only [toHost, internalTag]
      rfl
  | _ => cases option

theorem record_agrees {fields : List WitField} (labels : ∀ field ∈ fields, IsLabel field.name)
    (unique : (fields.map WitField.name).Nodup)
    (names : (fields.map fun field => Embedder.camelCase field.name).Nodup)
    (plain : ∀ field ∈ fields, Embedder.isOption (resolve field.type) = true →
      field.type.isOption = true ∧ Embedder.camelCase field.name ∉ objectPrototype)
    (agrees : ∀ field ∈ fields, AgreesAt engine (tsValueType field.type) (resolve field.type) false) :
    AgreesAt engine (.object (fields.map tsProperty)) (.record (fields.map resolveField))
      inOption := by
  have noCollisions : checkNoCollisions ((fields.map resolveField).map FieldType.label) = .ok () := by
    apply checkNoCollisions_ok
    rw [List.map_map, List.map_map]
    exact names
  refine ⟨?_, ?_, ?_⟩
  · intro v x typed hosted
    generalize sameType : ValType.record (fields.map resolveField) = type at typed
    cases typed with
    | record pairs pairsTyped =>
        injection sameType with sameFields
        simp only [toHost, sameFields] at hosted
        obtain ⟨_, _, hosted⟩ := bind_ok hosted
        obtain ⟨properties, fieldsHosted, hosted⟩ := bind_ok hosted
        cases hosted
        have pairLabels : ((pairs.map Prod.fst).map FieldType.label).Nodup := by
          rw [← sameFields, List.map_map]
          exact unique
        have pairNames : (pairs.map fun pair => Embedder.camelCase pair.1.label).Nodup := by
          have mapped : (pairs.map fun pair => Embedder.camelCase pair.1.label) =
              (pairs.map Prod.fst).map fun field => Embedder.camelCase field.label := by
            rw [List.map_map]
            rfl
          rw [mapped, ← sameFields, List.map_map]
          exact names
        have parts := fieldsToHost_parts (fun _ member => record_field pairLabels member) fieldsHosted
        choose! host partHosted using parts
        have inOrder := @fieldsToHost_ok engine _ host pairs fun pair member =>
          ⟨record_field pairLabels member, partHosted pair member⟩
        cases fieldsHosted.symm.trans inOrder
        refine admits_object.mpr ⟨rfl, fun property propertyMember => ?_⟩
        obtain ⟨field, member, rfl⟩ := List.mem_map.mp propertyMember
        obtain ⟨pair, pairMember, isField⟩ : ∃ pair ∈ pairs, pair.1 = resolveField field := by
          have listed : resolveField field ∈ pairs.map Prod.fst :=
            sameFields ▸ List.mem_map_of_mem member
          exact List.mem_map.mp listed
        have found := @lookup_hostProperty host pairs pairNames pair pairMember
        have typed := pairsTyped pair pairMember
        have hosted := partHosted pair pairMember
        have admits := (agrees field member).produced pair.2 (host pair)
        rw [provides_field, camelCase_label (labels field member)]
        obtain ⟨pairField, value⟩ := pair
        simp only at isField
        subst isField
        by_cases omitted : Omitted (resolveField field, value)
        · obtain ⟨written, own⟩ := plain field member omitted.1
          have absent : engine.get (.object (pairs.filterMap (hostProperty host)))
              (Embedder.camelCase field.name) = none := by
            rw [hostProperty_omitted host omitted, Option.map_none] at found
            simp only [Engine.get]
            rw [show Embedder.camelCase field.name =
              Embedder.camelCase (resolveField field).label from rfl, found]
            exact if_neg own
          have isNone := isNone_typed typed omitted.1 omitted.2
          subst isNone
          have undefined := @toHost_none engine _ omitted.1
          have isRead : read engine (.object (pairs.filterMap (hostProperty host)))
              (Embedder.camelCase field.name) = .undefined := by
            rw [read, absent, Option.getD_none]
          refine ⟨fun required => absurd written (by simp [required]), ?_⟩
          rw [isRead]
          exact (agrees field member).produced _ _ typed undefined
        · have there : engine.get (.object (pairs.filterMap (hostProperty host)))
              (Embedder.camelCase field.name) = some (host (resolveField field, value)) := by
            rw [hostProperty_there host omitted, Option.map_some] at found
            simp only [Engine.get]
            rw [show Embedder.camelCase field.name =
              Embedder.camelCase (resolveField field).label from rfl, found]
          rw [read_some there]
          exact ⟨fun _ => by simp [there], admits typed hosted⟩
    | _ => cases sameType
  · intro x given
    obtain ⟨isObject, _⟩ := admits_object.mp given.admits
    have each : ∀ field ∈ fields.map resolveField, ∃ property,
        prepareField engine x field = .ok property := by
      intro resolved resolvedMember
      obtain ⟨field, member, rfl⟩ := List.mem_map.mp resolvedMember
      obtain ⟨source, part⟩ := record_part labels given member
      obtain ⟨w, ran⟩ := (agrees field member).accepted _ part
      refine ⟨(field.name, w), ?_⟩
      rw [prepareField, source]
      change (prepareHostValue engine (resolve field.type) false _ >>= _) = _
      rw [ran]
      rfl
    obtain ⟨properties, ran⟩ := mapM_accepts each
    refine ⟨.record properties, ?_⟩
    simp only [prepareHostValue, isObject, if_true, noCollisions, prepareFields_eq, ran]
    rfl
  · intro x y w givenX givenY preparedX preparedY
    obtain ⟨objectX, _⟩ := admits_object.mp givenX.admits
    obtain ⟨objectY, _⟩ := admits_object.mp givenY.admits
    simp only [prepareHostValue, objectX, objectY, if_true, noCollisions, prepareFields_eq]
      at preparedX preparedY
    obtain ⟨_, _, preparedX⟩ := bind_ok preparedX
    obtain ⟨properties, ranX, preparedX⟩ := bind_ok preparedX
    obtain ⟨_, _, preparedY⟩ := bind_ok preparedY
    obtain ⟨others, ranY, preparedY⟩ := bind_ok preparedY
    cases preparedX
    cases preparedY
    refine .object objectX objectY fun property propertyMember => ?_
    obtain ⟨field, member, rfl⟩ := List.mem_map.mp propertyMember
    obtain ⟨sourceX, partX⟩ := record_part labels givenX member
    obtain ⟨sourceY, partY⟩ := record_part labels givenY member
    obtain ⟨result, fieldX, fieldY⟩ := mapM_agree ranX ranY _ (List.mem_map_of_mem member)
    obtain ⟨_, w, found, ranA, rfl⟩ := prepareField_ok fieldX
    cases sourceX.symm.trans found
    obtain ⟨_, u, found, ranB, same⟩ := prepareField_ok fieldY
    cases sourceY.symm.trans found
    cases same
    have same := (agrees field member).distinct _ _ w partX partY ranA ranB
    apply same_field
    simpa only [tsProperty, camelCase_label (labels field member)] using same

/-! ## Variants -/

structure GivenArm (engine : Engine) (kind : String) (payload : Option WitType) (x : Js)
    (value : Option Js) : Prop where
  tagged : hostTag engine x = .ok (unitsOf kind, value)
  payload : ∀ type, payload = some type → ∃ y, value = some y ∧
    Given engine (tsValueType type) (resolve type) false y

theorem GivenArm.admits {kind : String} {payload : Option WitType} {x : Js} {value : Option Js}
    (given : GivenArm engine kind payload x value) :
    (tsArm kind (payload.map tsValueType)).Admits engine x := by
  refine admits_arm.mpr ⟨value, given.tagged, fun generated isGenerated => ?_⟩
  obtain ⟨type, isType, rfl⟩ := Option.map_eq_some_iff.mp isGenerated
  obtain ⟨y, isValue, part⟩ := given.payload type isType
  exact ⟨y, isValue, part.admits⟩

theorem GivenArm.accepted {label kind : String} {payload : Option WitType} {x : Js}
    {value : Option Js} (given : GivenArm engine kind payload x value)
    (agrees : ∀ type, payload = some type → AgreesAt engine (tsValueType type) (resolve type) false) :
    ∃ w, preparePayload engine label (payload.map resolve) value = .ok w := by
  cases payload with
  | none => exact ⟨_, preparePayload_none label value⟩
  | some type =>
      obtain ⟨y, rfl, part⟩ := given.payload type rfl
      obtain ⟨w, ran⟩ := (agrees type rfl).accepted y part
      exact ⟨_, preparePayload_some ran⟩

theorem preparePayload_kind {kind : String} {type : Option ValType} {value : Option Js}
    {w : ComponentValue} (ran : preparePayload engine kind type value = .ok w) :
    ∃ payload, w = .variant kind payload := by
  rcases preparePayload_ok ran with ⟨_, rfl⟩ | ⟨_, _, payload, _, _, _, rfl⟩
  · exact ⟨.null, rfl⟩
  · exact ⟨payload, rfl⟩

theorem GivenArm.distinct {label kind : String} {payload : Option WitType} {x y : Js}
    {valueX valueY : Option Js} {w : ComponentValue}
    (givenX : GivenArm engine kind payload x valueX) (givenY : GivenArm engine kind payload y valueY)
    (agrees : ∀ type, payload = some type → AgreesAt engine (tsValueType type) (resolve type) false)
    (ranX : preparePayload engine label (payload.map resolve) valueX = .ok w)
    (ranY : preparePayload engine label (payload.map resolve) valueY = .ok w) :
    (tsArm kind (payload.map tsValueType)).Same engine x y := by
  cases payload with
  | none => exact same_emptyArm givenX.tagged givenY.tagged
  | some type =>
      obtain ⟨a, rfl, partA⟩ := givenX.payload type rfl
      obtain ⟨b, rfl, partB⟩ := givenY.payload type rfl
      have agrees := agrees type rfl
      obtain ⟨u, ranA⟩ := agrees.accepted a partA
      obtain ⟨z, ranB⟩ := agrees.accepted b partB
      cases (preparePayload_some ranA).symm.trans ranX
      have same := (preparePayload_some ranB).symm.trans ranY
      injection same with same
      injection same with _ same
      subst same
      exact (same_arm givenX.tagged givenY.tagged).mpr (.inr (agrees.distinct a b _ partA partB ranA ranB))

theorem payload_admits {kind : String} {payload : Option WitType} {value : ComponentValue} {x : Js}
    (typed : ∀ type, payload = some type → HasType (resolve type) value)
    (agrees : ∀ type, payload = some type → AgreesAt engine (tsValueType type) (resolve type) false)
    (hosted : payloadToHost engine kind (payload.map resolve) value = .ok x) :
    (tsArm kind (payload.map tsValueType)).Admits engine x := by
  cases payload with
  | none =>
      cases (payloadToHost_none kind value).symm.trans hosted
      exact admits_arm.mpr ⟨none, hostTag_hostCase kind none, nofun⟩
  | some type =>
      simp only [Option.map_some, payloadToHost] at hosted
      obtain ⟨y, payloadHosted, hosted⟩ := bind_ok hosted
      cases hosted
      refine admits_arm.mpr ⟨some y, hostTag_hostCase kind (some y), fun other same => ?_⟩
      cases same
      exact ⟨y, rfl, (agrees type rfl).produced value y (typed type rfl) payloadHosted⟩

def resolveCase (case : WitCase) : CaseType := ⟨case.name, case.type.map resolve⟩

def tsCase (case : WitCase) : TsType := tsArm case.name (case.type.map tsValueType)

theorem variant_given {cases : List WitCase} (unique : (cases.map WitCase.name).Nodup) {x : Js}
    (given : Given engine (.union (cases.map tsCase)) (.variant (cases.map resolveCase)) inOption x) :
    ∃ case ∈ cases, ∃ value, GivenArm engine case.name case.type x value ∧
      prepareHostValue engine (.variant (cases.map resolveCase)) inOption x =
        preparePayload engine case.name (case.type.map resolve) value := by
  obtain ⟨arm, listed, admits⟩ := admits_union.mp given.admits
  obtain ⟨case, member, rfl⟩ := List.mem_map.mp listed
  obtain ⟨value, tagged, payload⟩ := admits_arm.mp admits
  have resolvedMember : resolveCase case ∈ cases.map resolveCase := List.mem_map_of_mem member
  refine ⟨case, member, value, ⟨tagged, fun type isType => ?_⟩, ?_⟩
  · obtain ⟨y, rfl, admitsPayload⟩ := payload (tsValueType type) (by rw [isType, Option.map_some])
    have listed : ⟨case.name, some (resolve type)⟩ ∈ cases.map resolveCase := by
      simpa only [resolveCase, isType, Option.map_some] using resolvedMember
    exact ⟨y, rfl, admitsPayload, given.fits.within nofun (.case listed tagged), nofun⟩
  · have labels : ((cases.map resolveCase).map CaseType.label).Nodup := by
      rw [List.map_map]
      exact unique
    simp only [prepareHostValue, tagged]
    exact prepareCase_of_mem labels resolvedMember value

theorem variant_agrees {cases : List WitCase} (unique : (cases.map WitCase.name).Nodup)
    (agrees : ∀ case ∈ cases, ∀ type, case.type = some type →
      AgreesAt engine (tsValueType type) (resolve type) false) :
    AgreesAt engine (.union (cases.map tsCase)) (.variant (cases.map resolveCase)) inOption := by
  have labels : ((cases.map resolveCase).map CaseType.label).Nodup := by
    rw [List.map_map]
    exact unique
  refine ⟨?_, ?_, ?_⟩
  · intro v x typed hosted
    have produced : ∀ (case : WitCase) (value : ComponentValue), case ∈ cases →
        (∀ type, case.type = some type → HasType (resolve type) value) →
        toHost engine (.variant (cases.map resolveCase)) inOption (.variant case.name value) = .ok x →
        (TsType.union (cases.map tsCase)).Admits engine x := by
      intro case value member typed hosted
      simp only [toHost, internalTag] at hosted
      obtain ⟨_, same, hosted⟩ := bind_ok hosted
      cases same
      have resolvedMember : resolveCase case ∈ cases.map resolveCase := List.mem_map_of_mem member
      have hosted := (caseToHost_of_mem labels resolvedMember value).symm.trans hosted
      exact admits_union.mpr ⟨tsCase case, List.mem_map_of_mem member,
        payload_admits typed (agrees case member) hosted⟩
    cases typed with
    | @payload _ kind type value listed typed =>
        obtain ⟨case, member, same⟩ := List.mem_map.mp listed
        obtain ⟨rfl, isType⟩ := CaseType.mk.inj same
        refine produced case _ member (fun other isOther => ?_) hosted
        rw [isOther, Option.map_some] at isType
        cases isType
        exact typed
    | @noPayload _ kind listed =>
        obtain ⟨case, member, same⟩ := List.mem_map.mp listed
        obtain ⟨rfl, isType⟩ := CaseType.mk.inj same
        refine produced case _ member (fun other isOther => ?_) hosted
        rw [isOther, Option.map_some] at isType
        cases isType
  · intro x given
    obtain ⟨case, member, value, arm, ran⟩ := variant_given unique given
    rw [ran]
    exact arm.accepted (agrees case member)
  · intro x y w givenX givenY preparedX preparedY
    obtain ⟨case, member, valueX, armX, ranX⟩ := variant_given unique givenX
    obtain ⟨other, otherMember, valueY, armY, ranY⟩ := variant_given unique givenY
    rw [ranX] at preparedX
    rw [ranY] at preparedY
    obtain ⟨payload, rfl⟩ := preparePayload_kind preparedX
    obtain ⟨_, same⟩ := preparePayload_kind preparedY
    injection same with sameName _
    cases List.inj_on_of_nodup_map unique member otherMember sameName
    have same := armX.distinct armY (agrees case member) preparedX preparedY
    exact .union (List.mem_map_of_mem member) armX.admits armY.admits same

theorem enum_agrees {labels : List String} :
    AgreesAt engine (.union (labels.map .literal)) (.enum labels) inOption := by
  have given : ∀ x, (TsType.union (labels.map .literal)).Admits engine x →
      ∃ label ∈ labels, x = .string (Embedder.unitsOf label) ∧
        prepareHostValue engine (.enum labels) inOption x = .ok (.variant label .null) := by
    intro x admits
    obtain ⟨literal, listed, admits⟩ := admits_union.mp admits
    obtain ⟨label, member, rfl⟩ := List.mem_map.mp listed
    obtain rfl := admits_literal.mp admits
    have found : labels.find? (fun other => Embedder.unitsOf other = Embedder.unitsOf label) = some label := by
      cases isFound : labels.find? (fun other => Embedder.unitsOf other = Embedder.unitsOf label) with
      | none =>
          have never := List.find?_eq_none.mp isFound label member
          simp at never
      | some other =>
          have same := List.find?_some isFound
          simp only [unitsOf_inj, decide_eq_true_eq] at same
          rw [same]
    refine ⟨label, member, rfl, ?_⟩
    simp only [prepareHostValue, found]
    rfl
  refine ⟨?_, ?_, ?_⟩
  · intro v x typed hosted
    cases typed with
    | enum member =>
        simp only [toHost, internalTag] at hosted
        obtain ⟨_, same, hosted⟩ := bind_ok hosted
        cases same
        cases hosted
        exact .union (List.mem_map_of_mem member) (.literal _)
  · intro x isGiven
    obtain ⟨label, _, _, ran⟩ := given x isGiven.admits
    exact ⟨_, ran⟩
  · intro x y w givenX givenY preparedX preparedY
    obtain ⟨label, _, rfl, ranX⟩ := given x givenX.admits
    obtain ⟨other, _, rfl, ranY⟩ := given y givenY.admits
    cases ranX.symm.trans preparedX
    cases ranY.symm.trans preparedY
    exact .refl _ _

/-! ## Options and results -/

theorem toHost_some {type : ValType} {value : ComponentValue} {x : Js}
    (hosted : toHost engine (.option type) false (.variant "some" value) = .ok x) :
    toHost engine type true value = .ok x := by
  simp only [toHost, internalTag] at hosted
  obtain ⟨_, same, hosted⟩ := bind_ok hosted
  cases same
  have isSome : ¬("some" = "none") := by decide
  rw [if_neg isSome] at hosted
  obtain ⟨payload, payloadHosted, hosted⟩ := bind_ok hosted
  rw [payloadHosted]
  exact hosted

theorem option_agrees {inner : TsType} {type : ValType} (agrees : AgreesAt engine inner type true) :
    AgreesAt engine (.union [inner, .undefined]) (.option type) false := by
  have part : ∀ x, x ≠ .undefined → Given engine (.union [inner, .undefined]) (.option type) false x →
      Given engine inner type true x := by
    intro x there given
    obtain ⟨_, member, admits⟩ := admits_union.mp given.admits
    simp only [List.mem_cons, List.not_mem_nil, or_false] at member
    rcases member with rfl | rfl
    · exact ⟨admits, given.fits.within nofun .option, fun _ => there⟩
    · cases admits
      exact absurd rfl there
  refine ⟨?_, ?_, ?_⟩
  · intro v x typed hosted
    cases typed with
    | none =>
        cases (@toHost_none engine (.option type) rfl).symm.trans hosted
        exact admits_union.mpr ⟨_, List.mem_cons_of_mem _ List.mem_cons_self, .undefined⟩
    | some typed =>
        exact admits_union.mpr ⟨inner, List.mem_cons_self, agrees.produced _ x typed (toHost_some hosted)⟩
  · intro x given
    by_cases there : x = .undefined
    · subst there
      exact ⟨.variant "none" .null, by simp only [prepareHostValue]; rfl⟩
    · obtain ⟨w, ran⟩ := agrees.accepted x (part x there given)
      refine ⟨.variant "some" w, ?_⟩
      rw [prepareOption_there type there, ran]
      rfl
  · intro x y w givenX givenY preparedX preparedY
    have some : ∀ z, z ≠ .undefined → prepareHostValue engine (.option type) false z = .ok w →
        ∃ payload, prepareHostValue engine type true z = .ok payload ∧ w = .variant "some" payload := by
      intro z there ran
      obtain ⟨payload, payloadRan, ran⟩ := bind_ok ((prepareOption_there type there).symm.trans ran)
      cases ran
      exact ⟨payload, payloadRan, rfl⟩
    have none : prepareHostValue engine (.option type) false .undefined = .ok (.variant "none" .null) := by
      simp only [prepareHostValue]
      rfl
    by_cases thereX : x = .undefined
    · subst thereX
      cases none.symm.trans preparedX
      by_cases thereY : y = .undefined
      · subst thereY
        exact .refl _ _
      · obtain ⟨payload, _, same⟩ := some y thereY preparedY
        injection same with same _
        exact absurd same (by decide)
    · obtain ⟨payload, ranX, rfl⟩ := some x thereX preparedX
      by_cases thereY : y = .undefined
      · subst thereY
        have same := none.symm.trans preparedY
        injection same with same
        injection same with same _
        exact absurd same (by decide)
      · obtain ⟨_, ranY, same⟩ := some y thereY preparedY
        cases same
        have givenX := part x thereX givenX
        have givenY := part y thereY givenY
        exact .union List.mem_cons_self givenX.admits givenY.admits
          (agrees.distinct x y payload givenX givenY ranX ranY)

theorem prepareOption_some {type : ValType} {x y : Js}
    (tagged : hostTag engine x = .ok (Embedder.unitsOf "some", some y)) :
    prepareHostValue engine (.option type) true x =
      prepareHostValue engine type true y >>= fun payload => .ok (.variant "some" payload) := by
  have isSome : ¬(Embedder.unitsOf "some" = Embedder.unitsOf "none") := by
    rw [unitsOf_inj]
    decide
  simp only [prepareHostValue, tagged, ok_bind, isSome, if_false, if_true]
  rfl

theorem boxed_agrees {inner : TsType} {type : ValType} (agrees : AgreesAt engine inner type true)
    (there : ¬inner.Admits engine .undefined) :
    AgreesAt engine (.union [tsArm "some" (some inner), tsArm "none" none]) (.option type) true := by
  have prepared : ∀ x, Given engine (.union [tsArm "some" (some inner), tsArm "none" none])
      (.option type) true x →
      (∃ y, hostTag engine x = .ok (Embedder.unitsOf "some", some y) ∧
        Given engine inner type true y ∧
        prepareHostValue engine (.option type) true x =
          prepareHostValue engine type true y >>= fun payload => .ok (.variant "some" payload)) ∨
      (∃ value, hostTag engine x = .ok (Embedder.unitsOf "none", value) ∧
        prepareHostValue engine (.option type) true x = .ok (.variant "none" .null)) := by
    intro x given
    obtain ⟨_, member, admits⟩ := admits_union.mp given.admits
    simp only [List.mem_cons, List.not_mem_nil, or_false] at member
    rcases member with rfl | rfl
    · obtain ⟨value, tagged, payload⟩ := admits_arm.mp admits
      obtain ⟨y, rfl, admitsPayload⟩ := payload inner rfl
      refine .inl ⟨y, tagged, ⟨admitsPayload, given.fits.within (by simp) (.boxed tagged), ?_⟩, ?_⟩
      · rintro _ rfl
        exact there admitsPayload
      · exact prepareOption_some tagged
    · obtain ⟨value, tagged, _⟩ := admits_arm.mp admits
      refine .inr ⟨value, tagged, ?_⟩
      simp only [prepareHostValue, tagged]
      rfl
  refine ⟨?_, ?_, ?_⟩
  · intro v x typed hosted
    cases typed with
    | none =>
        simp only [toHost, internalTag] at hosted
        obtain ⟨_, same, hosted⟩ := bind_ok hosted
        cases same
        cases hosted
        exact admits_union.mpr ⟨_, List.mem_cons_of_mem _ List.mem_cons_self,
          admits_arm.mpr ⟨none, hostTag_hostCase "none" none, by simp⟩⟩
    | some typed =>
        simp only [toHost, internalTag] at hosted
        obtain ⟨_, same, hosted⟩ := bind_ok hosted
        cases same
        have isSome : ¬("some" = "none") := by decide
        rw [if_neg isSome] at hosted
        obtain ⟨y, payloadHosted, hosted⟩ := bind_ok hosted
        cases hosted
        refine admits_union.mpr ⟨_, List.mem_cons_self,
          admits_arm.mpr ⟨some y, hostTag_hostCase "some" (some y), fun other same => ?_⟩⟩
        cases same
        exact ⟨y, rfl, agrees.produced _ y typed payloadHosted⟩
  · intro x given
    rcases prepared x given with ⟨y, _, part, ran⟩ | ⟨_, _, ran⟩
    · obtain ⟨w, payloadRan⟩ := agrees.accepted y part
      exact ⟨.variant "some" w, by rw [ran, payloadRan]; rfl⟩
    · exact ⟨_, ran⟩
  · intro x y w givenX givenY preparedX preparedY
    rcases prepared x givenX with ⟨a, tagX, partX, ranX⟩ | ⟨_, tagX, ranX⟩
    · obtain ⟨payload, payloadX, same⟩ := bind_ok (ranX.symm.trans preparedX)
      cases same
      rcases prepared y givenY with ⟨b, tagY, partY, ranY⟩ | ⟨_, tagY, ranY⟩
      · obtain ⟨_, payloadY, same⟩ := bind_ok (ranY.symm.trans preparedY)
        cases same
        have same := agrees.distinct a b payload partX partY payloadX payloadY
        have armSame := (same_arm tagX tagY).mpr (.inr same)
        refine .union List.mem_cons_self (admits_arm.mpr ⟨some a, tagX, ?_⟩)
          (admits_arm.mpr ⟨some b, tagY, ?_⟩) armSame
        · intro other same
          cases same
          exact ⟨a, rfl, partX.admits⟩
        · intro other same
          cases same
          exact ⟨b, rfl, partY.admits⟩
      · have same := ranY.symm.trans preparedY
        injection same with same
        injection same with same _
        exact absurd same (by decide)
    · cases ranX.symm.trans preparedX
      rcases prepared y givenY with ⟨b, tagY, partY, ranY⟩ | ⟨_, tagY, ranY⟩
      · obtain ⟨_, _, same⟩ := bind_ok (ranY.symm.trans preparedY)
        injection same with same
        injection same with same _
        exact absurd same (by decide)
      · exact .union (List.mem_cons_of_mem _ List.mem_cons_self)
          (admits_arm.mpr ⟨_, tagX, by simp⟩) (admits_arm.mpr ⟨_, tagY, by simp⟩)
          (same_emptyArm tagX tagY)

theorem result_agrees {ok err : Option WitType}
    (agreesOk : ∀ type, ok = some type → AgreesAt engine (tsValueType type) (resolve type) false)
    (agreesErr : ∀ type, err = some type → AgreesAt engine (tsValueType type) (resolve type) false) :
    AgreesAt engine (.union [tsArm "ok" (ok.map tsValueType), tsArm "err" (err.map tsValueType)])
      (.result (ok.map resolve) (err.map resolve)) inOption := by
  have notErr : ¬(Embedder.unitsOf "ok" = Embedder.unitsOf "err") := by
    rw [unitsOf_inj]
    decide
  have prepared : ∀ x, Given engine
      (.union [tsArm "ok" (ok.map tsValueType), tsArm "err" (err.map tsValueType)])
      (.result (ok.map resolve) (err.map resolve)) inOption x →
      (∃ value, GivenArm engine "ok" ok x value ∧
        prepareHostValue engine (.result (ok.map resolve) (err.map resolve)) inOption x =
          preparePayload engine "ok" (ok.map resolve) value) ∨
      (∃ value, GivenArm engine "err" err x value ∧
        prepareHostValue engine (.result (ok.map resolve) (err.map resolve)) inOption x =
          preparePayload engine "error" (err.map resolve) value) := by
    intro x given
    have fits := given.fits
    obtain ⟨_, member, admits⟩ := admits_union.mp given.admits
    simp only [List.mem_cons, List.not_mem_nil, or_false] at member
    rcases member with rfl | rfl
    · obtain ⟨value, tagged, payload⟩ := admits_arm.mp admits
      refine .inl ⟨value, ⟨tagged, fun type isType => ?_⟩, ?_⟩
      · subst isType
        obtain ⟨y, rfl, admitsPayload⟩ := payload _ rfl
        exact ⟨y, rfl, admitsPayload, fits.within nofun (.ok tagged), nofun⟩
      · simp only [prepareHostValue, tagged, ok_bind, notErr, if_false, if_true]
    · obtain ⟨value, tagged, payload⟩ := admits_arm.mp admits
      refine .inr ⟨value, ⟨tagged, fun type isType => ?_⟩, ?_⟩
      · subst isType
        obtain ⟨y, rfl, admitsPayload⟩ := payload _ rfl
        exact ⟨y, rfl, admitsPayload, fits.within nofun (.err tagged), nofun⟩
      · simp only [prepareHostValue, tagged, ok_bind, if_true]
  refine ⟨?_, ?_, ?_⟩
  · intro v x isTyped hosted
    have produced : ∀ (label kind : String) (payload : Option WitType) (value : ComponentValue),
        (label = "ok" ∧ kind = "ok" ∧ payload = ok ∨ label = "error" ∧ kind = "err" ∧ payload = err) →
        (∀ type, payload = some type → HasType (resolve type) value) →
        toHost engine (.result (ok.map resolve) (err.map resolve)) inOption (.variant label value) =
          .ok x →
        (TsType.union
          [tsArm "ok" (ok.map tsValueType), tsArm "err" (err.map tsValueType)]).Admits engine x := by
      intro label kind payload value side typed hosted
      simp only [toHost, internalTag] at hosted
      obtain ⟨_, same, hosted⟩ := bind_ok hosted
      cases same
      rcases side with ⟨rfl, rfl, rfl⟩ | ⟨rfl, rfl, rfl⟩
      · have isOk : ¬("ok" = "error") := by decide
        rw [if_neg isOk] at hosted
        exact admits_union.mpr
          ⟨_, List.mem_cons_self, payload_admits typed agreesOk hosted⟩
      · rw [if_pos rfl] at hosted
        exact admits_union.mpr ⟨_, List.mem_cons_of_mem _ List.mem_cons_self,
          payload_admits typed agreesErr hosted⟩
    cases isTyped with
    | side listed typed =>
        simp only [List.mem_cons, List.not_mem_nil, or_false, Prod.mk.injEq] at listed
        rcases listed with ⟨rfl, isType⟩ | ⟨rfl, isType⟩
        · refine produced "ok" "ok" ok _ (.inl ⟨rfl, rfl, rfl⟩) (fun type same => ?_) hosted
          rw [same] at isType
          cases isType
          exact typed
        · refine produced "error" "err" err _ (.inr ⟨rfl, rfl, rfl⟩) (fun type same => ?_) hosted
          rw [same] at isType
          cases isType
          exact typed
    | emptySide listed =>
        simp only [List.mem_cons, List.not_mem_nil, or_false, Prod.mk.injEq] at listed
        rcases listed with ⟨rfl, isType⟩ | ⟨rfl, isType⟩
        · refine produced "ok" "ok" ok _ (.inl ⟨rfl, rfl, rfl⟩) (fun type same => ?_) hosted
          rw [same] at isType
          cases isType
        · refine produced "error" "err" err _ (.inr ⟨rfl, rfl, rfl⟩) (fun type same => ?_) hosted
          rw [same] at isType
          cases isType
  · intro x given
    rcases prepared x given with ⟨value, arm, ran⟩ | ⟨value, arm, ran⟩
    · rw [ran]
      exact arm.accepted agreesOk
    · rw [ran]
      exact arm.accepted agreesErr
  · intro x y w givenX givenY preparedX preparedY
    rcases prepared x givenX with ⟨valueX, armX, ranX⟩ | ⟨valueX, armX, ranX⟩
    · rw [ranX] at preparedX
      obtain ⟨payload, rfl⟩ := preparePayload_kind preparedX
      rcases prepared y givenY with ⟨valueY, armY, ranY⟩ | ⟨valueY, armY, ranY⟩
      · rw [ranY] at preparedY
        exact .union List.mem_cons_self armX.admits armY.admits
          (armX.distinct armY agreesOk preparedX preparedY)
      · rw [ranY] at preparedY
        obtain ⟨_, same⟩ := preparePayload_kind preparedY
        injection same with same _
        exact absurd same (by decide)
    · rw [ranX] at preparedX
      obtain ⟨payload, rfl⟩ := preparePayload_kind preparedX
      rcases prepared y givenY with ⟨valueY, armY, ranY⟩ | ⟨valueY, armY, ranY⟩
      · rw [ranY] at preparedY
        obtain ⟨_, same⟩ := preparePayload_kind preparedY
        injection same with same _
        exact absurd same (by decide)
      · rw [ranY] at preparedY
        exact .union (List.mem_cons_of_mem _ List.mem_cons_self) armX.admits armY.admits
          (armX.distinct armY agreesErr preparedX preparedY)

/-! ## Flags -/

theorem flags_agrees {flags : List String} (labels : ∀ flag ∈ flags, IsLabel flag)
    (names : (flags.map Embedder.camelCase).Nodup) :
    AgreesAt engine (.object (flags.map fun flag => ⟨camelCase flag, false, .boolean⟩))
      (.flags flags) inOption := by
  have noCollisions := checkNoCollisions_ok names
  have given : ∀ x, Given engine (.object (flags.map fun flag => ⟨camelCase flag, false, .boolean⟩))
      (.flags flags) inOption x → x.isObject = true ∧
        ∀ flag ∈ flags, ∃ b, engine.get x (Embedder.camelCase flag) = some (.bool b) := by
    intro x given
    obtain ⟨isObject, provides⟩ := admits_object.mp given.admits
    refine ⟨isObject, fun flag member => ?_⟩
    obtain ⟨y, found, admits⟩ := provides_required.mp (provides _ (List.mem_map_of_mem member))
    rw [camelCase_label (labels flag member)] at found
    cases admits with
    | boolean b => exact ⟨b, found⟩
  refine ⟨?_, ?_, ?_⟩
  · intro v x _ hosted
    simp only [toHost] at hosted
    obtain ⟨_, _, hosted⟩ := bind_ok hosted
    cases hosted
    have property : ∀ flag, ∃ b, flagToHost v flag = (Embedder.camelCase flag, .bool b) := by
      intro flag
      unfold flagToHost
      split
      · exact ⟨_, rfl⟩
      · exact ⟨false, rfl⟩
    have propertyNames : (flags.map (flagToHost v)).map Prod.fst = flags.map Embedder.camelCase := by
      rw [List.map_map]
      refine List.map_congr_left fun flag _ => ?_
      obtain ⟨b, same⟩ := property flag
      rw [Function.comp_apply, same]
    refine admits_object.mpr ⟨rfl, fun listed listedMember => ?_⟩
    obtain ⟨flag, member, rfl⟩ := List.mem_map.mp listedMember
    obtain ⟨b, same⟩ := property flag
    have found : (flags.map (flagToHost v)).lookup (Embedder.camelCase flag) = some (.bool b) := by
      refine lookup_of_mem (propertyNames ▸ names) ?_
      rw [← same]
      exact List.mem_map_of_mem member
    rw [provides_required, camelCase_label (labels flag member)]
    exact ⟨.bool b, by simp only [Engine.get, found], .boolean b⟩
  · intro x isGiven
    obtain ⟨isObject, _⟩ := given x isGiven
    simp only [prepareHostValue, isObject, if_true, noCollisions]
    exact ⟨_, rfl⟩
  · intro x y w givenX givenY preparedX preparedY
    obtain ⟨objectX, eachX⟩ := given x givenX
    obtain ⟨objectY, eachY⟩ := given y givenY
    simp only [prepareHostValue, objectX, objectY, if_true, noCollisions] at preparedX preparedY
    have same := preparedX.trans preparedY.symm
    refine .object objectX objectY fun property listed => ?_
    obtain ⟨flag, member, rfl⟩ := List.mem_map.mp listed
    obtain ⟨b, foundX⟩ := eachX flag member
    obtain ⟨c, foundY⟩ := eachY flag member
    injection same with same
    injection same with same
    have place := List.map_inj_left.mp same flag member
    simp only [foundX, foundY, Option.getD_some, Js.truthy, Prod.mk.injEq, true_and] at place
    injection place with place
    subst place
    simp only [camelCase_label (labels flag member), read_some foundX, read_some foundY]
    exact .refl _ _

/-! ## Every plain type -/

theorem toHost_inOption {type : ValType} (other : Embedder.isOption type = false)
    (v : ComponentValue) : toHost engine type true v = toHost engine type false v := by
  cases type with
  | option _ => cases other
  | _ => simp only [toHost]

theorem prepareHostValue_inOption {type : ValType} (other : Embedder.isOption type = false) (x : Js) :
    prepareHostValue engine type true x = prepareHostValue engine type false x := by
  cases type with
  | option _ => cases other
  | _ => simp only [prepareHostValue]

theorem fits_inOption {type : ValType} (other : Embedder.isOption type = false) {x : Js}
    {first second : Bool} (fits : Fits engine type first x) : Fits engine type second x := by
  intro kind y reads
  cases reads with
  | self kind _ _ => exact fits kind x (.self kind first x)
  | within isObject within reads =>
      refine fits kind y (.within isObject ?_ reads)
      cases within with
      | element member => exact .element member
      | field member found => exact .field member found
      | tuple isType isValue => exact .tuple isType isValue
      | case member tagged => exact .case member tagged
      | option | boxed _ => cases other
      | ok tagged => exact .ok tagged
      | err tagged => exact .err tagged
      | key member => exact .key member
      | value member => exact .value member

theorem AgreesAt.payload {generated : TsType} {type : ValType}
    (agrees : AgreesAt engine generated type false) (other : Embedder.isOption type = false) :
    AgreesAt engine generated type true := by
  have part : ∀ x, Given engine generated type true x → Given engine generated type false x :=
    fun x given => ⟨given.admits, fits_inOption other given.fits, nofun⟩
  refine ⟨fun v x typed hosted => ?_, fun x given => ?_, fun x y w givenX givenY ranX ranY => ?_⟩
  · rw [toHost_inOption other] at hosted
    exact agrees.produced v x typed hosted
  · rw [prepareHostValue_inOption other]
    exact agrees.accepted x (part x given)
  · rw [prepareHostValue_inOption other] at ranX ranY
    exact agrees.distinct x y w (part x givenX) (part y givenY) ranX ranY

end

section

variable {type part : WitType} {inOption inPart : Bool}

theorem Plain.here (plain : Plain type inOption) : PlainHere type inOption :=
  plain type inOption (.self type inOption)

theorem Plain.child (plain : Plain type inOption) (isChild : WitChild part inPart type) :
    Plain part inPart :=
  fun inner inInner occurs => plain inner inInner (.child isChild occurs)

theorem Named.here (named : Named type inOption) : NamedHere type :=
  named type inOption (.self type inOption)

theorem Named.child (named : Named type inOption) (isChild : WitChild part inPart type) :
    Named part inPart :=
  fun inner inInner occurs => named inner inInner (.child isChild occurs)

theorem WitChild.sizeOf_lt (isChild : WitChild part inPart type) : sizeOf part < sizeOf type := by
  cases isChild with
  | type _ | option _ | list _ | fixedLengthList _ _ | key _ _ | value _ _ =>
      simp only [WitType.type.sizeOf_spec, WitType.option.sizeOf_spec, WitType.list.sizeOf_spec,
        WitType.fixedLengthList.sizeOf_spec, WitType.map.sizeOf_spec]
      omega
  | @field fields entry member =>
      have smaller := List.sizeOf_lt_of_mem member
      obtain ⟨name, fieldType⟩ := entry
      simp only [WitType.record.sizeOf_spec, WitField.mk.sizeOf_spec] at smaller ⊢
      omega
  | tuple member =>
      have smaller := List.sizeOf_lt_of_mem member
      simp only [WitType.tuple.sizeOf_spec]
      omega
  | case member =>
      have smaller := List.sizeOf_lt_of_mem member
      simp only [WitType.variant.sizeOf_spec, WitCase.mk.sizeOf_spec, Option.some.sizeOf_spec]
        at smaller ⊢
      omega
  | side member =>
      simp only [List.mem_cons, List.not_mem_nil, or_false, Prod.mk.injEq] at member
      rcases member with ⟨_, rfl⟩ | ⟨_, rfl⟩
      all_goals
        simp only [WitType.result.sizeOf_spec, Option.some.sizeOf_spec]
        omega

theorem witChild_induction {motive : WitType → Prop}
    (step : ∀ type, (∀ part inPart, WitChild part inPart type → motive part) → motive type)
    (type : WitType) : motive type :=
  step type fun part _ isChild =>
    have := isChild.sizeOf_lt
    witChild_induction step part
termination_by sizeOf type

theorem WitChild.resolved (isChild : WitChild part inPart type)
    (noAlias : ∀ target, type ≠ .type target) : Child (resolve part) inPart (resolve type) := by
  cases isChild with
  | type => exact absurd rfl (noAlias part)
  | field member =>
      rw [resolve, resolveFields_eq]
      exact @Child.field _ (resolveField _) (List.mem_map_of_mem member)
  | tuple member =>
      rw [resolve, resolveAll_eq]
      exact .tuple (List.mem_map_of_mem member)
  | @case cases name _ member =>
      rw [resolve, resolveCases_eq]
      exact @Child.case _ name _ (List.mem_map.mpr ⟨_, member, rfl⟩)
  | option _ => exact .option _
  | @side ok err kind _ member =>
      rw [resolve, resolveOption_eq, resolveOption_eq]
      simp only [List.mem_cons, List.not_mem_nil, or_false, Prod.mk.injEq] at member
      rcases member with ⟨_, rfl⟩ | ⟨_, rfl⟩
      · exact .side List.mem_cons_self
      · exact .side (List.mem_cons_of_mem _ List.mem_cons_self)
  | list _ => exact .element _ _
  | fixedLengthList _ _ => exact .element _ _
  | key _ _ => exact .key _ _
  | value _ _ => exact .value _ _

theorem valid_inOption {resolved : ValType} {first : Bool} (valid : Valid resolved first)
    (second : Bool) : Valid resolved second :=
  Valid.of_parts valid.here fun _ _ isChild => valid.child isChild

theorem Declarable.child (declarable : Declarable type inOption)
    (isChild : WitChild part inPart type) : Declarable part inPart := by
  refine ⟨?_, declarable.named.child isChild⟩
  by_cases named : ∃ target, type = .type target
  · obtain ⟨target, rfl⟩ := named
    cases isChild with
    | type => exact valid_inOption declarable.valid false
  · exact declarable.valid.child (isChild.resolved fun target same => named ⟨target, same⟩)

theorem tsValueType_list {element : WitType} (notByte : element ≠ .prim .u8) :
    tsValueType (.list element) = .array (tsValueType element) := by
  rw [tsValueType]
  exact notByte

theorem tsOptionInner_other {type : WitType} (other : type.isOption = false) :
    tsOptionInner type = tsValueType type := by
  cases type with
  | option _ => cases other
  | _ => simp only [tsOptionInner]

theorem arm_not_undefined {engine : Engine} {kind : String} {payload : Option TsType} :
    ¬(tsArm kind payload).Admits engine .undefined := by
  intro admits
  obtain ⟨_, tagged, _⟩ := admits_arm.mp admits
  cases tagged

theorem not_admits_undefined {engine : Engine} (type : WitType)
    (other : Embedder.isOption (resolve type) = false) :
    ¬(tsValueType type).Admits engine .undefined := by
  induction type using witChild_induction with
  | step type ih =>
      intro admits
      cases type with
      | type target =>
          simp only [tsValueType] at admits
          exact ih target false (.type target) other admits
      | option _ => cases other
      | prim kind =>
          simp only [tsValueType] at admits
          cases kind <;> cases admits
      | list element =>
          by_cases byte : element = .prim .u8
          · subst byte
            simp only [tsValueType] at admits
            cases admits
          · rw [tsValueType_list byte] at admits
            cases admits
      | fixedLengthList _ _ | map _ _ | tuple _ =>
          simp only [tsValueType] at admits
          cases admits
      | record fields | flags _ =>
          simp only [tsValueType] at admits
          cases (admits_object.mp admits).1
      | variant cases =>
          simp only [tsValueType, tsArms_eq] at admits
          obtain ⟨arm, listed, admits⟩ := admits_union.mp admits
          obtain ⟨case, _, rfl⟩ := List.mem_map.mp listed
          exact arm_not_undefined admits
      | enum labels =>
          simp only [tsValueType] at admits
          obtain ⟨literal, listed, admits⟩ := admits_union.mp admits
          obtain ⟨label, _, rfl⟩ := List.mem_map.mp listed
          cases admits
      | result ok err =>
          simp only [tsValueType] at admits
          obtain ⟨arm, listed, admits⟩ := admits_union.mp admits
          simp only [List.mem_cons, List.not_mem_nil, or_false] at listed
          rcases listed with rfl | rfl
          · exact arm_not_undefined admits
          · exact arm_not_undefined admits

def tsAt (type : WitType) (inOption : Bool) : TsType :=
  if inOption then tsOptionInner type else tsValueType type

theorem payload_not_undefined {engine : Engine} {type : WitType} (plain : Plain type true) :
    ¬(tsOptionInner type).Admits engine .undefined := by
  by_cases written : type.isOption = true
  · cases type with
    | option payload =>
        simp only [tsOptionInner]
        intro admits
        obtain ⟨arm, listed, admits⟩ := admits_union.mp admits
        simp only [List.mem_cons, List.not_mem_nil, or_false] at listed
        rcases listed with rfl | rfl
        · exact arm_not_undefined admits
        · exact arm_not_undefined admits
    | _ => cases written
  · rw [tsOptionInner_other (Bool.eq_false_iff.mpr written)]
    apply not_admits_undefined
    cases type with
    | type target => exact plain.here rfl
    | option _ => exact absurd rfl written
    | _ => rfl

theorem agreesAt_of_plain (engine : Engine) (type : WitType) : ∀ inOption,
    Declarable type inOption → Plain type inOption →
      AgreesAt engine (tsAt type inOption) (resolve type) inOption := by
  induction type using witChild_induction with
  | step type ih =>
      intro inOption declarable plain
      have parts : ∀ part inPart, WitChild part inPart type →
          AgreesAt engine (tsAt part inPart) (resolve part) inPart := fun part inPart isChild =>
        ih part inPart isChild inPart (declarable.child isChild) (plain.child isChild)
      have validHere := declarable.valid.here
      have namedHere := declarable.named.here
      have plainHere := plain.here
      -- The flag matters only to an option and to a name of one.
      by_cases written : type.isOption = true
      · cases type with
        | option payload =>
            have agrees : AgreesAt engine (tsOptionInner payload) (resolve payload) true :=
              parts payload true (.option payload)
            cases inOption with
            | false =>
                simp only [tsAt, Bool.false_eq_true, if_false, tsValueType]
                exact option_agrees agrees
            | true =>
                simp only [tsAt, if_true, tsOptionInner]
                exact boxed_agrees agrees (payload_not_undefined (plain.child (.option payload)))
        | _ => cases written
      · have value : AgreesAt engine (tsValueType type) (resolve type) false := by
          cases type with
          | prim kind =>
              simp only [tsValueType, resolve]
              exact prim_agrees kind
          | type target =>
              simp only [tsValueType, resolve]
              exact parts target false (.type target)
          | record fields =>
              simp only [tsValueType, resolve, tsProperties_eq, resolveFields_eq] at validHere ⊢
              have unique : (fields.map WitField.name).Nodup := by
                simp only [ValidHere, List.map_map] at validHere
                exact validHere
              exact record_agrees namedHere.1 unique namedHere.2 plainHere
                fun field member => parts field.type false (.field member)
          | tuple types =>
              simp only [tsValueType, resolve, tsValueTypes_eq, resolveAll_eq]
              exact tuple_agrees fun type member => parts type false (.tuple member)
          | flags flags =>
              simp only [tsValueType, resolve]
              exact flags_agrees namedHere.1 namedHere.2
          | variant cases =>
              simp only [tsValueType, resolve, tsArms_eq, resolveCases_eq] at validHere ⊢
              have unique : (cases.map WitCase.name).Nodup := by
                have labels := validHere.2
                rwa [List.map_map] at labels
              refine variant_agrees unique fun case member payload isPayload => ?_
              obtain ⟨name, type⟩ := case
              cases isPayload
              exact parts payload false (.case member)
          | enum labels =>
              simp only [tsValueType, resolve]
              exact enum_agrees
          | option payload => exact absurd rfl written
          | result ok err =>
              simp only [tsValueType, resolve, tsSide_eq, resolveOption_eq]
              refine result_agrees (fun type isOk => ?_) fun type isErr => ?_
              · exact parts type false (.side (by rw [isOk]; exact .head _))
              · exact parts type false (.side (by rw [isErr]; exact .tail _ (.head _)))
          | list element =>
              by_cases byte : resolve element = .prim .u8
              · cases plainHere byte
                simp only [tsValueType, resolve]
                exact bytes_agrees none
              · have notByte : element ≠ .prim .u8 := by
                  rintro rfl
                  exact byte rfl
                rw [tsValueType_list notByte, resolve]
                exact array_agrees none byte (parts element false (.list element))
          | fixedLengthList element length =>
              simp only [tsValueType, resolve]
              exact array_agrees (some length) plainHere
                (parts element false (.fixedLengthList element length))
          | map key value =>
              simp only [tsValueType, resolve]
              exact map_agrees (parts key false (.key key value))
                (parts value false (.value key value))
        cases inOption with
        | false => exact value
        | true =>
            simp only [tsAt, if_true, tsOptionInner_other (Bool.eq_false_iff.mpr written)]
            apply value.payload
            cases type with
            | type target => exact plainHere rfl
            | option _ => exact absurd rfl written
            | _ => rfl

end

end Polyengine.Bindgen
