import Polyengine.Cabi.Lower
import Polyengine.Cabi.TypeEquality

/-!
# Renaming the tables of types

Layout, flattening and the four interpreters commute with arbitrary maps of the tables that `own`
and `borrow` name: a table is only ever handed to the conversion of a handle.
-/

set_option autoImplicit false

namespace Polyengine.Cabi

open Polyengine.Library

namespace DespecializedValType

variable (rename : Nat → Nat)

mutual

def mapTables : DespecializedValType → DespecializedValType
  | .prim kind => .prim kind
  | .errorContext => .errorContext
  | .list element length => .list element.mapTables length
  | .record fields => .record (mapFieldTables fields)
  | .variant cases => .variant (mapCaseTables cases)
  | .flags labels => .flags labels
  | .own rt => .own (rename rt)
  | .borrow rt => .borrow (rename rt)
  | .stream element => .stream (mapOptionTables element)
  | .future element => .future (mapOptionTables element)

def mapOptionTables : Option DespecializedValType → Option DespecializedValType
  | none => none
  | some type => some type.mapTables

def mapFieldTables : List DespecializedFieldType → List DespecializedFieldType
  | [] => []
  | ⟨label, type⟩ :: rest => ⟨label, type.mapTables⟩ :: mapFieldTables rest

def mapCaseTables : List DespecializedCaseType → List DespecializedCaseType
  | [] => []
  | ⟨label, type⟩ :: rest => ⟨label, mapOptionTables type⟩ :: mapCaseTables rest

end

mutual

theorem mapTables_mapTables (rename' : Nat → Nat) (d : DespecializedValType) :
    (d.mapTables rename).mapTables rename' = d.mapTables (rename' ∘ rename) := by
  cases d with
  | list element length => simp only [mapTables, mapTables_mapTables rename' element]
  | record fields => simp only [mapTables, mapFieldTables_mapFieldTables rename' fields]
  | variant cases' => simp only [mapTables, mapCaseTables_mapCaseTables rename' cases']
  | stream element => simp only [mapTables, mapOptionTables_mapOptionTables rename' element]
  | future element => simp only [mapTables, mapOptionTables_mapOptionTables rename' element]
  | _ => rfl

theorem mapOptionTables_mapOptionTables (rename' : Nat → Nat)
    (type : Option DespecializedValType) :
    mapOptionTables rename' (mapOptionTables rename type) =
      mapOptionTables (rename' ∘ rename) type := by
  cases type with
  | none => rfl
  | some type => simp only [mapOptionTables, mapTables_mapTables rename' type]

theorem mapFieldTables_mapFieldTables (rename' : Nat → Nat)
    (fields : List DespecializedFieldType) :
    mapFieldTables rename' (mapFieldTables rename fields) =
      mapFieldTables (rename' ∘ rename) fields := by
  cases fields with
  | nil => rfl
  | cons field rest =>
      obtain ⟨label, type⟩ := field
      simp only [mapFieldTables, mapTables_mapTables rename' type,
        mapFieldTables_mapFieldTables rename' rest]

theorem mapCaseTables_mapCaseTables (rename' : Nat → Nat) (cases' : List DespecializedCaseType) :
    mapCaseTables rename' (mapCaseTables rename cases') =
      mapCaseTables (rename' ∘ rename) cases' := by
  cases cases' with
  | nil => rfl
  | cons case rest =>
      obtain ⟨label, type⟩ := case
      simp only [mapCaseTables, mapOptionTables_mapOptionTables rename' type,
        mapCaseTables_mapCaseTables rename' rest]

end

@[simp] theorem length_mapCaseTables (cases' : List DespecializedCaseType) :
    (mapCaseTables rename cases').length = cases'.length := by
  induction cases' with
  | nil => rfl
  | cons case rest ih =>
      obtain ⟨label, type⟩ := case
      simp only [mapCaseTables, List.length_cons, ih]

@[simp] theorem primKind_mapTables (d : DespecializedValType) :
    (d.mapTables rename).primKind = d.primKind := by
  cases d <;> rfl

end DespecializedValType

open DespecializedValType

/-! ## Despecialization -/

section Despecialize

variable (rename : Nat → Nat)

theorem mapFieldTables_tupleFields (first : Nat) (elements : List DespecializedValType) :
    mapFieldTables rename (tupleFields first elements) =
      tupleFields first (elements.map (·.mapTables rename)) := by
  induction elements generalizing first with
  | nil => rfl
  | cons element rest ih => simp only [tupleFields, mapFieldTables, ih, List.map_cons]

theorem mapCaseTables_enum (labels : List String) :
    mapCaseTables rename (labels.map fun label => ⟨label, none⟩) =
      labels.map fun label => ⟨label, none⟩ := by
  induction labels with
  | nil => rfl
  | cons label rest ih => simp only [List.map_cons, mapCaseTables, mapOptionTables, ih]

mutual

theorem despecialize_mapTables (type : ValType) :
    despecialize (Cabi.mapTables rename type) = (despecialize type).mapTables rename := by
  cases type with
  | prim kind => rfl
  | errorContext => rfl
  | list element length =>
      simp only [Cabi.mapTables, despecialize, DespecializedValType.mapTables,
        despecialize_mapTables element]
  | record fields =>
      simp only [Cabi.mapTables, despecialize, DespecializedValType.mapTables,
        despecializeFields_mapTables fields]
  | tuple elements =>
      simp only [Cabi.mapTables, despecialize, DespecializedValType.mapTables,
        despecializeAll_mapTables elements, mapFieldTables_tupleFields]
  | variant cases' =>
      simp only [Cabi.mapTables, despecialize, DespecializedValType.mapTables,
        despecializeCases_mapTables cases']
  | enum labels =>
      simp only [Cabi.mapTables, despecialize, DespecializedValType.mapTables, mapCaseTables_enum]
  | option type =>
      simp only [Cabi.mapTables, despecialize, DespecializedValType.mapTables, mapCaseTables,
        mapOptionTables, despecialize_mapTables type]
  | result ok error =>
      simp only [Cabi.mapTables, despecialize, DespecializedValType.mapTables, mapCaseTables,
        despecializeOption_mapTables ok, despecializeOption_mapTables error]
  | map key value =>
      simp only [Cabi.mapTables, despecialize, DespecializedValType.mapTables,
        mapFieldTables_tupleFields, List.map_cons, List.map_nil, despecialize_mapTables key,
        despecialize_mapTables value]
  | flags labels => rfl
  | own rt => rfl
  | borrow rt => rfl
  | stream element =>
      simp only [Cabi.mapTables, despecialize, DespecializedValType.mapTables,
        despecializeOption_mapTables element]
  | future element =>
      simp only [Cabi.mapTables, despecialize, DespecializedValType.mapTables,
        despecializeOption_mapTables element]

theorem despecializeOption_mapTables (type : Option ValType) :
    despecializeOption (mapTablesOption rename type) =
      mapOptionTables rename (despecializeOption type) := by
  cases type with
  | none => rfl
  | some type =>
      simp only [mapTablesOption, despecializeOption, mapOptionTables, despecialize_mapTables type]

theorem despecializeAll_mapTables (types : List ValType) :
    despecializeAll (mapTablesAll rename types) =
      (despecializeAll types).map (·.mapTables rename) := by
  cases types with
  | nil => rfl
  | cons type rest =>
      simp only [mapTablesAll, despecializeAll, List.map_cons, despecialize_mapTables type,
        despecializeAll_mapTables rest]

theorem despecializeFields_mapTables (fields : List FieldType) :
    despecializeFields (mapTablesFields rename fields) =
      mapFieldTables rename (despecializeFields fields) := by
  cases fields with
  | nil => rfl
  | cons field rest =>
      obtain ⟨label, type⟩ := field
      simp only [mapTablesFields, despecializeFields, mapFieldTables, despecialize_mapTables type,
        despecializeFields_mapTables rest]

theorem despecializeCases_mapTables (cases' : List CaseType) :
    despecializeCases (mapTablesCases rename cases') =
      mapCaseTables rename (despecializeCases cases') := by
  cases cases' with
  | nil => rfl
  | cons case rest =>
      obtain ⟨label, type⟩ := case
      simp only [mapTablesCases, despecializeCases, mapCaseTables,
        despecializeOption_mapTables type, despecializeCases_mapTables rest]

end

end Despecialize

/-! ## Layout -/

section Layout

variable (rename : Nat → Nat) (ptrType : PtrType)

mutual

@[simp] theorem alignment_mapTables (d : DespecializedValType) :
    alignment ptrType (d.mapTables rename) = alignment ptrType d := by
  cases d with
  | list element length =>
      cases length with
      | none => simp only [DespecializedValType.mapTables, alignment]
      | some n => simp only [DespecializedValType.mapTables, alignment, alignment_mapTables element]
  | record fields =>
      simp only [DespecializedValType.mapTables, alignment, alignmentRecord_mapTables fields]
  | variant cases' =>
      simp only [DespecializedValType.mapTables, alignment, length_mapCaseTables,
        maxCaseAlignment_mapTables cases']
  | _ => simp only [DespecializedValType.mapTables, alignment]

theorem alignmentRecord_mapTables (fields : List DespecializedFieldType) :
    alignmentRecord ptrType (mapFieldTables rename fields) = alignmentRecord ptrType fields := by
  cases fields with
  | nil => rfl
  | cons field rest =>
      obtain ⟨label, type⟩ := field
      simp only [mapFieldTables, alignmentRecord, alignment_mapTables type,
        alignmentRecord_mapTables rest]

theorem maxCaseAlignment_mapTables (cases' : List DespecializedCaseType) :
    maxCaseAlignment ptrType (mapCaseTables rename cases') = maxCaseAlignment ptrType cases' := by
  cases cases' with
  | nil => rfl
  | cons case rest =>
      obtain ⟨label, type⟩ := case
      cases type with
      | none =>
          simp only [mapCaseTables, mapOptionTables, maxCaseAlignment,
            maxCaseAlignment_mapTables rest]
      | some type =>
          simp only [mapCaseTables, mapOptionTables, maxCaseAlignment, alignment_mapTables type,
            maxCaseAlignment_mapTables rest]

end

@[simp] theorem payloadOffset_mapTables (cases' : List DespecializedCaseType) :
    payloadOffset ptrType (mapCaseTables rename cases') = payloadOffset ptrType cases' := by
  simp only [payloadOffset, length_mapCaseTables, maxCaseAlignment_mapTables]

mutual

@[simp] theorem elemSize_mapTables (d : DespecializedValType) :
    elemSize ptrType (d.mapTables rename) = elemSize ptrType d := by
  cases d with
  | list element length =>
      cases length with
      | none => simp only [DespecializedValType.mapTables, elemSize]
      | some n => simp only [DespecializedValType.mapTables, elemSize, elemSize_mapTables element]
  | record fields =>
      simp only [DespecializedValType.mapTables, elemSize, fieldsEnd_mapTables fields,
        alignmentRecord_mapTables]
  | variant cases' =>
      simp only [DespecializedValType.mapTables, elemSize, length_mapCaseTables,
        payloadOffset_mapTables, maxCaseAlignment_mapTables, maxCaseSize_mapTables cases']
  | _ => simp only [DespecializedValType.mapTables, elemSize]

theorem fieldsEnd_mapTables (fields : List DespecializedFieldType) (offset : Nat) :
    fieldsEnd ptrType offset (mapFieldTables rename fields) = fieldsEnd ptrType offset fields := by
  cases fields with
  | nil => rfl
  | cons field rest =>
      obtain ⟨label, type⟩ := field
      simp only [mapFieldTables, fieldsEnd, alignment_mapTables, elemSize_mapTables type,
        fieldsEnd_mapTables rest]

theorem maxCaseSize_mapTables (cases' : List DespecializedCaseType) :
    maxCaseSize ptrType (mapCaseTables rename cases') = maxCaseSize ptrType cases' := by
  cases cases' with
  | nil => rfl
  | cons case rest =>
      obtain ⟨label, type⟩ := case
      cases type with
      | none => simp only [mapCaseTables, mapOptionTables, maxCaseSize, maxCaseSize_mapTables rest]
      | some type =>
          simp only [mapCaseTables, mapOptionTables, maxCaseSize, elemSize_mapTables type,
            maxCaseSize_mapTables rest]

end

theorem fieldOffsets_mapTables (offset : Nat) (fields : List DespecializedFieldType) :
    fieldOffsets ptrType offset (mapFieldTables rename fields) =
      fieldOffsets ptrType offset fields := by
  induction fields generalizing offset with
  | nil => rfl
  | cons field rest ih =>
      obtain ⟨label, type⟩ := field
      simp only [mapFieldTables, fieldOffsets, alignment_mapTables, elemSize_mapTables, ih]

mutual

theorem checkLayout_mapTables (d : DespecializedValType) :
    checkLayout ptrType (d.mapTables rename) = checkLayout ptrType d := by
  cases d with
  | list element length =>
      cases length with
      | none => simp only [DespecializedValType.mapTables, checkLayout, alignment]
      | some n =>
          simp only [DespecializedValType.mapTables, checkLayout, alignment, alignment_mapTables,
            checkLayout_mapTables element]
  | record fields =>
      simp only [DespecializedValType.mapTables, checkLayout, alignment, fieldsEnd_mapTables,
        alignmentRecord_mapTables, checkFieldLayouts_mapTables fields]
  | variant cases' =>
      simp only [DespecializedValType.mapTables, checkLayout, alignment, length_mapCaseTables,
        maxCaseAlignment_mapTables, checkCaseLayouts_mapTables cases']
  | _ => simp only [DespecializedValType.mapTables, checkLayout, alignment]

theorem checkFieldLayouts_mapTables (fields : List DespecializedFieldType) :
    checkFieldLayouts ptrType (mapFieldTables rename fields) =
      checkFieldLayouts ptrType fields := by
  cases fields with
  | nil => rfl
  | cons field rest =>
      obtain ⟨label, type⟩ := field
      simp only [mapFieldTables, checkFieldLayouts, checkLayout_mapTables type,
        checkFieldLayouts_mapTables rest]

theorem checkCaseLayouts_mapTables (cases' : List DespecializedCaseType) :
    checkCaseLayouts ptrType (mapCaseTables rename cases') = checkCaseLayouts ptrType cases' := by
  cases cases' with
  | nil => rfl
  | cons case rest =>
      obtain ⟨label, type⟩ := case
      cases type with
      | none =>
          simp only [mapCaseTables, mapOptionTables, checkCaseLayouts,
            checkCaseLayouts_mapTables rest]
      | some type =>
          simp only [mapCaseTables, mapOptionTables, checkCaseLayouts, checkLayout_mapTables type,
            checkCaseLayouts_mapTables rest]

end

theorem layoutOf_mapTables (d : DespecializedValType) :
    layoutOf (d.mapTables rename) ptrType =
      (layoutOf d ptrType).map fun layout => { layout with d := d.mapTables rename } := by
  unfold layoutOf
  rw [checkLayout_mapTables, alignment_mapTables, elemSize_mapTables]
  cases checkLayout ptrType d with
  | error failure => rfl
  | ok _ =>
      cases d with
      | record fields =>
          simp only [DespecializedValType.mapTables, fieldOffsets_mapTables]
          rfl
      | variant cases' =>
          simp only [DespecializedValType.mapTables, length_mapCaseTables,
            payloadOffset_mapTables]
          rfl
      | _ => rfl

end Layout

/-! ## Flattening -/

section Flatten

variable (rename : Nat → Nat) (ptrType : PtrType) (memory : Option MemInst)

mutual

theorem flattenType_mapTables (d : DespecializedValType) :
    flattenType ptrType (d.mapTables rename) = flattenType ptrType d := by
  cases d with
  | list element length =>
      cases length with
      | none => simp only [DespecializedValType.mapTables, flattenType]
      | some n =>
          simp only [DespecializedValType.mapTables, flattenType, flattenType_mapTables element]
  | record fields =>
      simp only [DespecializedValType.mapTables, flattenType, flattenRecord_mapTables fields]
  | variant cases' =>
      simp only [DespecializedValType.mapTables, flattenType, flattenCases_mapTables cases']
  | _ => simp only [DespecializedValType.mapTables, flattenType]

theorem flattenRecord_mapTables (fields : List DespecializedFieldType) :
    flattenRecord ptrType (mapFieldTables rename fields) = flattenRecord ptrType fields := by
  cases fields with
  | nil => rfl
  | cons field rest =>
      obtain ⟨label, type⟩ := field
      simp only [mapFieldTables, flattenRecord, flattenType_mapTables type,
        flattenRecord_mapTables rest]

theorem flattenCases_mapTables (cases' : List DespecializedCaseType) (flat : List CoreType) :
    flattenCases ptrType flat (mapCaseTables rename cases') = flattenCases ptrType flat cases' := by
  cases cases' with
  | nil => rfl
  | cons case rest =>
      obtain ⟨label, type⟩ := case
      cases type with
      | none =>
          simp only [mapCaseTables, mapOptionTables, flattenCases, flattenCases_mapTables rest]
      | some type =>
          simp only [mapCaseTables, mapOptionTables, flattenCases, flattenType_mapTables type,
            flattenCases_mapTables rest]

end

mutual

theorem checkFlatten_mapTables (d : DespecializedValType) :
    checkFlatten memory (d.mapTables rename) = checkFlatten memory d := by
  cases d with
  | prim kind => rfl
  | list element length =>
      cases length with
      | none => simp only [DespecializedValType.mapTables, checkFlatten]
      | some n =>
          simp only [DespecializedValType.mapTables, checkFlatten, checkFlatten_mapTables element]
  | record fields =>
      simp only [DespecializedValType.mapTables, checkFlatten, checkFlattenRecord_mapTables fields]
  | variant cases' =>
      simp only [DespecializedValType.mapTables, checkFlatten, length_mapCaseTables,
        checkFlattenCases_mapTables cases']
  | _ => simp only [DespecializedValType.mapTables, checkFlatten]

theorem checkFlattenRecord_mapTables (fields : List DespecializedFieldType) :
    checkFlattenRecord memory (mapFieldTables rename fields) =
      checkFlattenRecord memory fields := by
  cases fields with
  | nil => rfl
  | cons field rest =>
      obtain ⟨label, type⟩ := field
      simp only [mapFieldTables, checkFlattenRecord, checkFlatten_mapTables type,
        checkFlattenRecord_mapTables rest]

theorem checkFlattenCases_mapTables (cases' : List DespecializedCaseType) :
    checkFlattenCases memory (mapCaseTables rename cases') = checkFlattenCases memory cases' := by
  cases cases' with
  | nil => rfl
  | cons case rest =>
      obtain ⟨label, type⟩ := case
      cases type with
      | none =>
          simp only [mapCaseTables, mapOptionTables, checkFlattenCases,
            checkFlattenCases_mapTables rest]
      | some type =>
          simp only [mapCaseTables, mapOptionTables, checkFlattenCases,
            checkFlatten_mapTables type, checkFlattenCases_mapTables rest]

end

theorem flattenTypeIn_mapTables {World : Type} (d : DespecializedValType) :
    (flattenTypeIn (d.mapTables rename) : Cx World (List CoreType)) = flattenTypeIn d := by
  simp only [flattenTypeIn, checkFlatten_mapTables, flattenType_mapTables]

end Flatten

/-! ## Values -/

/-- The context that converts a handle as the given one does under its renamed table. -/
def LiftLowerContext.renaming {World : Type} (cx : LiftLowerContext World) (rename : Nat → Nat) :
    LiftLowerContext World :=
  { cx with
    liftHandle := fun d => cx.liftHandle (d.mapTables rename)
    lowerHandle := fun d => cx.lowerHandle (d.mapTables rename) }

section Values

variable {World : Type} (cx : LiftLowerContext World) (rename : Nat → Nat)

theorem bind_layoutOf_mapTables {Result : Type} (d : DespecializedValType) (ptrType : PtrType)
    (continuation : Layout → Cx World Result)
    (ignores : ∀ layout, continuation { layout with d := d.mapTables rename } =
      continuation layout) :
    ((liftM (layoutOf (d.mapTables rename) ptrType) : Cx World Layout) >>= continuation) =
      (liftM (layoutOf d ptrType) : Cx World Layout) >>= continuation := by
  rw [layoutOf_mapTables]
  cases layoutOf d ptrType with
  | error failure => rfl
  | ok layout => exact ignores layout

theorem loadListFromValidRange_mapTables (loadElement : Nat → Cx World Value) (ptr length : Nat)
    (d : DespecializedValType) :
    loadListFromValidRange cx loadElement ptr length (d.mapTables rename) =
      loadListFromValidRange (cx.renaming rename) loadElement ptr length d := by
  simp only [loadListFromValidRange, primKind_mapTables]
  congr 1
  funext mem
  rw [bind_layoutOf_mapTables]
  · rfl
  · intro layout
    rfl

theorem loadListFromRange_mapTables (loadElement : Nat → Cx World Value) (ptr length : Nat)
    (d : DespecializedValType) :
    loadListFromRange cx loadElement ptr length (d.mapTables rename) =
      loadListFromRange (cx.renaming rename) loadElement ptr length d := by
  simp only [loadListFromRange, loadListFromValidRange_mapTables]
  congr 1
  funext mem
  exact bind_layoutOf_mapTables rename d mem.ptrType _ fun _ => rfl

theorem loadList_mapTables (loadElement : Nat → Cx World Value) (ptr : Nat)
    (d : DespecializedValType) (maybeLength : Option Nat) :
    loadList cx loadElement ptr (d.mapTables rename) maybeLength =
      loadList (cx.renaming rename) loadElement ptr d maybeLength := by
  simp only [loadList, loadListFromValidRange_mapTables, loadListFromRange_mapTables]

mutual

theorem load_mapTables (ptr : Nat) (d : DespecializedValType) :
    load cx ptr (d.mapTables rename) = load (cx.renaming rename) ptr d := by
  rw [load, load]
  congr 1
  funext mem
  rw [bind_layoutOf_mapTables]
  · congr 1
    funext layout
    congr 1
    funext _
    congr 1
    funext _
    cases d with
    | list element length =>
        simp only [DespecializedValType.mapTables, load_mapTables _ element, loadList_mapTables]
    | record fields =>
        simp only [DespecializedValType.mapTables, loadRecord_mapTables ptr fields]
    | variant cases' =>
        simp only [DespecializedValType.mapTables, length_mapCaseTables,
          loadCase_mapTables _ cases']
    | _ => rfl
  · intro layout
    rfl

theorem loadRecord_mapTables (ptr : Nat) (fields : List DespecializedFieldType)
    (offsets : List Nat) (record : List (String × Value)) :
    loadRecord cx ptr (mapFieldTables rename fields) offsets record =
      loadRecord (cx.renaming rename) ptr fields offsets record := by
  cases fields with
  | nil => rfl
  | cons field rest =>
      obtain ⟨label, type⟩ := field
      simp only [mapFieldTables, loadRecord, load_mapTables _ type, loadRecord_mapTables ptr rest]

theorem loadCase_mapTables (ptr : Nat) (cases' : List DespecializedCaseType) (caseIndex : Nat) :
    loadCase cx ptr (mapCaseTables rename cases') caseIndex =
      loadCase (cx.renaming rename) ptr cases' caseIndex := by
  cases cases' with
  | nil => rfl
  | cons case rest =>
      obtain ⟨label, type⟩ := case
      cases caseIndex with
      | zero =>
          cases type with
          | none => rfl
          | some type =>
              simp only [mapCaseTables, mapOptionTables, loadCase, load_mapTables ptr type]
      | succ index =>
          simp only [mapCaseTables, loadCase, loadCase_mapTables ptr rest]

end

theorem storeUtf8Loop_renaming (src : List UInt16) (worstCaseSize ptr i : Nat)
    (rest : List UInt16) :
    storeUtf8Loop (cx.renaming rename) src worstCaseSize ptr i rest =
      storeUtf8Loop cx src worstCaseSize ptr i rest := by
  induction rest generalizing i with
  | nil => rfl
  | cons unit rest ih =>
      simp only [storeUtf8Loop, ih]
      rfl

theorem storeLatin1Loop_renaming (wf : List UInt16) (ptr dstByteLength : Nat)
    (rest : List UInt16) :
    storeLatin1Loop (cx.renaming rename) wf ptr dstByteLength rest =
      storeLatin1Loop cx wf ptr dstByteLength rest := by
  induction rest generalizing dstByteLength with
  | nil => rfl
  | cons unit rest ih =>
      simp only [storeLatin1Loop, ih]
      rfl

theorem storeStringIntoRange_renaming (src : List UInt16) :
    storeStringIntoRange (cx.renaming rename) src = storeStringIntoRange cx src := by
  simp only [storeStringIntoRange, storeUtf16ToUtf8, storeStringToUtf8,
    storeStringToLatin1OrUtf16, storeUtf8Loop_renaming, storeLatin1Loop_renaming]
  rfl

theorem storePrim_renaming (v : Value) (ptr : Nat) (kind : PrimKind) :
    storePrim (cx.renaming rename) v ptr kind = storePrim cx v ptr kind := by
  cases kind with
  | string => simp only [storePrim, storeString, storeStringIntoRange_renaming]
  | _ => rfl

theorem lowerFlatPrim_renaming (v : Value) (kind : PrimKind) :
    lowerFlatPrim (cx.renaming rename) v kind = lowerFlatPrim cx v kind := by
  cases kind with
  | string => simp only [lowerFlatPrim, lowerFlatString, storeStringIntoRange_renaming]
  | _ => rfl

theorem caseIndexOf_mapTables (cases' : List DespecializedCaseType) (label : String) :
    caseIndexOf (mapCaseTables rename cases') label = caseIndexOf cases' label := by
  have counted : ((mapCaseTables rename cases').filter fun case => case.label == label).length =
      (cases'.filter fun case => case.label == label).length := by
    induction cases' with
    | nil => rfl
    | cons case rest ih =>
        obtain ⟨other, type⟩ := case
        by_cases same : other = label <;> simp [mapCaseTables, same, ih]
  have found : ((mapCaseTables rename cases').findIdx? fun case => case.label == label) =
      cases'.findIdx? fun case => case.label == label := by
    clear counted
    induction cases' with
    | nil => rfl
    | cons case rest ih =>
        obtain ⟨other, type⟩ := case
        simp only [mapCaseTables, List.findIdx?_cons, ih]
  rw [caseIndexOf, caseIndexOf, counted, found]

theorem matchCase_mapTables (v : Value) (cases' : List DespecializedCaseType) :
    matchCase v (mapCaseTables rename cases') = matchCase v cases' := by
  cases v with
  | variant kind value => simp only [matchCase, caseIndexOf_mapTables]
  | _ => rfl

theorem storeListIntoValidRange_mapTables (storeElement : Value → Nat → Cx World Unit) (v : Value)
    (ptr : Nat) (d : DespecializedValType) :
    storeListIntoValidRange cx storeElement v ptr (d.mapTables rename) =
      storeListIntoValidRange (cx.renaming rename) storeElement v ptr d := by
  simp only [storeListIntoValidRange, primKind_mapTables]
  congr 1
  funext mem
  exact bind_layoutOf_mapTables rename d mem.ptrType _ fun _ => rfl

theorem storeListIntoRange_mapTables (storeElement : Value → Nat → Cx World Unit) (v : Value)
    (d : DespecializedValType) :
    storeListIntoRange cx storeElement v (d.mapTables rename) =
      storeListIntoRange (cx.renaming rename) storeElement v d := by
  simp only [storeListIntoRange, storeListIntoValidRange_mapTables]
  congr 1
  funext mem
  exact bind_layoutOf_mapTables rename d mem.ptrType _ fun _ => rfl

theorem storeList_mapTables (storeElement : Value → Nat → Cx World Unit) (v : Value) (ptr : Nat)
    (d : DespecializedValType) (maybeLength : Option Nat) :
    storeList cx storeElement v ptr (d.mapTables rename) maybeLength =
      storeList (cx.renaming rename) storeElement v ptr d maybeLength := by
  simp only [storeList, storeListIntoValidRange_mapTables, storeListIntoRange_mapTables]

mutual

theorem store_mapTables (v : Value) (ptr : Nat) (d : DespecializedValType) :
    store cx v ptr (d.mapTables rename) = store (cx.renaming rename) v ptr d := by
  rw [store, store]
  congr 1
  funext mem
  rw [bind_layoutOf_mapTables]
  · congr 1
    funext layout
    congr 1
    funext _
    congr 1
    funext _
    cases d with
    | prim kind => exact (storePrim_renaming cx rename v ptr kind).symm
    | list element length =>
        simp only [DespecializedValType.mapTables, store_mapTables _ _ element,
          storeList_mapTables]
    | record fields =>
        simp only [DespecializedValType.mapTables, storeRecord_mapTables v ptr fields]
    | variant cases' =>
        simp only [DespecializedValType.mapTables, matchCase_mapTables,
          storeCase_mapTables _ _ cases']
    | _ => rfl
  · intro layout
    rfl

theorem storeRecord_mapTables (v : Value) (ptr : Nat) (fields : List DespecializedFieldType)
    (offsets : List Nat) :
    storeRecord cx v ptr (mapFieldTables rename fields) offsets =
      storeRecord (cx.renaming rename) v ptr fields offsets := by
  cases fields with
  | nil => rfl
  | cons field rest =>
      obtain ⟨label, type⟩ := field
      simp only [mapFieldTables, storeRecord, store_mapTables _ _ type,
        storeRecord_mapTables v ptr rest]

theorem storeCase_mapTables (caseValue : Value) (ptr : Nat) (cases' : List DespecializedCaseType)
    (caseIndex : Nat) :
    storeCase cx caseValue ptr (mapCaseTables rename cases') caseIndex =
      storeCase (cx.renaming rename) caseValue ptr cases' caseIndex := by
  cases cases' with
  | nil => rfl
  | cons case rest =>
      obtain ⟨label, type⟩ := case
      cases caseIndex with
      | zero =>
          cases type with
          | none => rfl
          | some type =>
              simp only [mapCaseTables, mapOptionTables, storeCase,
                store_mapTables caseValue ptr type]
      | succ index => simp only [mapCaseTables, storeCase, storeCase_mapTables caseValue ptr rest]

end

theorem liftFlatList_mapTables (liftElement : ValueIter → Cx World (Value × ValueIter))
    (loadElement : Nat → Cx World Value) (vi : ValueIter) (d : DespecializedValType)
    (maybeLength : Option Nat) :
    liftFlatList cx liftElement loadElement vi (d.mapTables rename) maybeLength =
      liftFlatList (cx.renaming rename) liftElement loadElement vi d maybeLength := by
  simp only [liftFlatList, primKind_mapTables, loadListFromRange_mapTables]

mutual

theorem liftFlat_mapTables (vi : ValueIter) (d : DespecializedValType) :
    liftFlat cx vi (d.mapTables rename) = liftFlat (cx.renaming rename) vi d := by
  cases d with
  | list element length =>
      simp only [DespecializedValType.mapTables, liftFlat, liftFlat_mapTables _ element,
        load_mapTables, liftFlatList_mapTables]
  | record fields =>
      simp only [DespecializedValType.mapTables, liftFlat, liftFlatRecord_mapTables _ fields]
  | variant cases' =>
      have lanes : (flattenTypeIn (.variant (mapCaseTables rename cases')) :
          Cx World (List CoreType)) = flattenTypeIn (.variant cases') :=
        flattenTypeIn_mapTables rename (.variant cases')
      simp only [DespecializedValType.mapTables, liftFlat, lanes, length_mapCaseTables,
        liftCase_mapTables _ cases']
  | _ => simp only [DespecializedValType.mapTables, liftFlat] <;> rfl

theorem liftFlatRecord_mapTables (vi : ValueIter) (fields : List DespecializedFieldType)
    (record : List (String × Value)) :
    liftFlatRecord cx vi (mapFieldTables rename fields) record =
      liftFlatRecord (cx.renaming rename) vi fields record := by
  cases fields with
  | nil => rfl
  | cons field rest =>
      obtain ⟨label, type⟩ := field
      simp only [mapFieldTables, liftFlatRecord, liftFlat_mapTables _ type,
        liftFlatRecord_mapTables _ rest]

theorem liftCase_mapTables (vi : ValueIter) (cases' : List DespecializedCaseType)
    (caseIndex : Nat) :
    liftCase cx vi (mapCaseTables rename cases') caseIndex =
      liftCase (cx.renaming rename) vi cases' caseIndex := by
  cases cases' with
  | nil => rfl
  | cons case rest =>
      obtain ⟨label, type⟩ := case
      cases caseIndex with
      | zero =>
          cases type with
          | none => rfl
          | some type =>
              simp only [mapCaseTables, mapOptionTables, liftCase, liftFlat_mapTables vi type]
      | succ index => simp only [mapCaseTables, liftCase, liftCase_mapTables vi rest]

end

theorem lowerFlatList_mapTables (lowerElement : Value → Cx World (List CoreValue))
    (storeElement : Value → Nat → Cx World Unit) (v : Value) (d : DespecializedValType)
    (maybeLength : Option Nat) :
    lowerFlatList cx lowerElement storeElement v (d.mapTables rename) maybeLength =
      lowerFlatList (cx.renaming rename) lowerElement storeElement v d maybeLength := by
  simp only [lowerFlatList, storeListIntoRange_mapTables]

mutual

theorem lowerFlat_mapTables (v : Value) (d : DespecializedValType) :
    lowerFlat cx v (d.mapTables rename) = lowerFlat (cx.renaming rename) v d := by
  cases d with
  | prim kind =>
      simp only [DespecializedValType.mapTables, lowerFlat, lowerFlatPrim_renaming]
  | list element length =>
      simp only [DespecializedValType.mapTables, lowerFlat, lowerFlat_mapTables _ element,
        store_mapTables, lowerFlatList_mapTables]
  | record fields =>
      simp only [DespecializedValType.mapTables, lowerFlat, lowerFlatRecord_mapTables v fields]
  | variant cases' =>
      have lanes : (flattenTypeIn (.variant (mapCaseTables rename cases')) :
          Cx World (List CoreType)) = flattenTypeIn (.variant cases') :=
        flattenTypeIn_mapTables rename (.variant cases')
      simp only [DespecializedValType.mapTables, lowerFlat, lanes, matchCase_mapTables,
        lowerCase_mapTables _ cases']
  | _ => simp only [DespecializedValType.mapTables, lowerFlat] <;> rfl

theorem lowerFlatRecord_mapTables (v : Value) (fields : List DespecializedFieldType) :
    lowerFlatRecord cx v (mapFieldTables rename fields) =
      lowerFlatRecord (cx.renaming rename) v fields := by
  cases fields with
  | nil => rfl
  | cons field rest =>
      obtain ⟨label, type⟩ := field
      simp only [mapFieldTables, lowerFlatRecord, lowerFlat_mapTables _ type,
        lowerFlatRecord_mapTables v rest]

theorem lowerCase_mapTables (caseValue : Value) (cases' : List DespecializedCaseType)
    (caseIndex : Nat) :
    lowerCase cx caseValue (mapCaseTables rename cases') caseIndex =
      lowerCase (cx.renaming rename) caseValue cases' caseIndex := by
  cases cases' with
  | nil => rfl
  | cons case rest =>
      obtain ⟨label, type⟩ := case
      cases caseIndex with
      | zero =>
          cases type with
          | none => rfl
          | some type =>
              simp only [mapCaseTables, mapOptionTables, lowerCase,
                lowerFlat_mapTables caseValue type, flattenTypeIn_mapTables]
      | succ index => simp only [mapCaseTables, lowerCase, lowerCase_mapTables caseValue rest]

end

end Values

end Polyengine.Cabi
