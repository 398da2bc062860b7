import Mathlib.Data.Nat.Pairing
import Polyengine.Cabi.TableMaps

/-!
# Interchangeable types

Types that are compared equal are one shape with its tables named in two ways, so that either can
stand for the other wherever a table is not looked at beyond what it is compared by.
-/

set_option autoImplicit false

namespace Polyengine.Cabi

open Polyengine.Library DespecializedValType

section Shape

/-- The second table of a pair, where the two are compared equal. -/
def secondTable (key : Nat → Nat) (pair : Nat) : Nat :=
  if key pair.unpair.1 = key pair.unpair.2 then pair.unpair.2 else pair.unpair.1

theorem key_secondTable (key : Nat → Nat) (pair : Nat) :
    key (secondTable key pair) = key pair.unpair.1 := by
  unfold secondTable
  split
  · next same => exact same.symm
  · rfl

theorem secondTable_pair {key : Nat → Nat} {rt rt' : Nat} (same : key rt = key rt') :
    secondTable key (Nat.pair rt rt') = rt' := by
  simp [secondTable, same]

/-- `shape` becomes `a` under the first tables of its pairs and `b` under the second ones. -/
def Pairs {Type' : Type} (map : (Nat → Nat) → Type' → Type') (key : Nat → Nat)
    (a b shape : Type') : Prop :=
  map (fun pair => pair.unpair.1) shape = a ∧ map (secondTable key) shape = b

variable {key : Nat → Nat}

mutual

theorem exists_shape (a b : DespecializedValType) (same : a.mapTables key = b.mapTables key) :
    ∃ shape, Pairs DespecializedValType.mapTables key a b shape := by
  cases a with
  | prim kind =>
      cases b <;> simp only [DespecializedValType.mapTables, reduceCtorEq] at same
      exact ⟨.prim kind, rfl, same⟩
  | errorContext =>
      cases b <;> simp only [DespecializedValType.mapTables, reduceCtorEq] at same
      exact ⟨.errorContext, rfl, rfl⟩
  | list element length =>
      cases b <;> simp only [DespecializedValType.mapTables, reduceCtorEq, list.injEq] at same
      case list element' length' =>
        obtain ⟨shape, first, second⟩ := exists_shape element element' same.1
        refine ⟨.list shape length, ?_, ?_⟩
        · rw [DespecializedValType.mapTables, first]
        · rw [DespecializedValType.mapTables, second, same.2]
  | record fields =>
      cases b <;> simp only [DespecializedValType.mapTables, reduceCtorEq, record.injEq] at same
      case record fields' =>
        obtain ⟨shape, first, second⟩ := exists_fieldShape fields fields' same
        refine ⟨.record shape, ?_, ?_⟩
        · rw [DespecializedValType.mapTables, first]
        · rw [DespecializedValType.mapTables, second]
  | variant cases' =>
      cases b <;> simp only [DespecializedValType.mapTables, reduceCtorEq, variant.injEq] at same
      case variant cases'' =>
        obtain ⟨shape, first, second⟩ := exists_caseShape cases' cases'' same
        refine ⟨.variant shape, ?_, ?_⟩
        · rw [DespecializedValType.mapTables, first]
        · rw [DespecializedValType.mapTables, second]
  | flags labels =>
      cases b <;> simp only [DespecializedValType.mapTables, reduceCtorEq] at same
      exact ⟨.flags labels, rfl, same⟩
  | own rt =>
      cases b <;> simp only [DespecializedValType.mapTables, reduceCtorEq, own.injEq] at same
      case own rt' =>
        refine ⟨.own (Nat.pair rt rt'), ?_, ?_⟩
        · simp [DespecializedValType.mapTables]
        · rw [DespecializedValType.mapTables, secondTable_pair same]
  | borrow rt =>
      cases b <;> simp only [DespecializedValType.mapTables, reduceCtorEq, borrow.injEq] at same
      case borrow rt' =>
        refine ⟨.borrow (Nat.pair rt rt'), ?_, ?_⟩
        · simp [DespecializedValType.mapTables]
        · rw [DespecializedValType.mapTables, secondTable_pair same]
  | stream element =>
      cases b <;> simp only [DespecializedValType.mapTables, reduceCtorEq, stream.injEq] at same
      case stream element' =>
        obtain ⟨shape, first, second⟩ := exists_optionShape element element' same
        refine ⟨.stream shape, ?_, ?_⟩
        · rw [DespecializedValType.mapTables, first]
        · rw [DespecializedValType.mapTables, second]
  | future element =>
      cases b <;> simp only [DespecializedValType.mapTables, reduceCtorEq, future.injEq] at same
      case future element' =>
        obtain ⟨shape, first, second⟩ := exists_optionShape element element' same
        refine ⟨.future shape, ?_, ?_⟩
        · rw [DespecializedValType.mapTables, first]
        · rw [DespecializedValType.mapTables, second]
termination_by structural a

theorem exists_optionShape (a b : Option DespecializedValType)
    (same : mapOptionTables key a = mapOptionTables key b) :
    ∃ shape, Pairs mapOptionTables key a b shape := by
  cases a with
  | none =>
      cases b with
      | none => exact ⟨none, rfl, rfl⟩
      | some type' => cases same
  | some type =>
      cases b with
      | none => cases same
      | some type' =>
          simp only [mapOptionTables, Option.some.injEq] at same
          obtain ⟨shape, first, second⟩ := exists_shape type type' same
          refine ⟨some shape, ?_, ?_⟩
          · rw [mapOptionTables, first]
          · rw [mapOptionTables, second]
termination_by structural a

theorem exists_fieldShape (a b : List DespecializedFieldType)
    (same : mapFieldTables key a = mapFieldTables key b) :
    ∃ shape, Pairs mapFieldTables key a b shape := by
  cases a with
  | nil =>
      cases b with
      | nil => exact ⟨[], rfl, rfl⟩
      | cons field' rest' =>
          obtain ⟨label', type'⟩ := field'
          simp [mapFieldTables] at same
  | cons field rest =>
      obtain ⟨label, type⟩ := field
      cases b with
      | nil => simp [mapFieldTables] at same
      | cons field' rest' =>
          obtain ⟨label', type'⟩ := field'
          simp only [mapFieldTables, List.cons.injEq, DespecializedFieldType.mk.injEq] at same
          obtain ⟨⟨sameLabel, sameType⟩, sameRest⟩ := same
          obtain ⟨shape, first, second⟩ := exists_shape type type' sameType
          obtain ⟨restShape, firstRest, secondRest⟩ := exists_fieldShape rest rest' sameRest
          refine ⟨⟨label, shape⟩ :: restShape, ?_, ?_⟩
          · rw [mapFieldTables, first, firstRest]
          · rw [mapFieldTables, second, secondRest, sameLabel]
termination_by structural a

theorem exists_caseShape (a b : List DespecializedCaseType)
    (same : mapCaseTables key a = mapCaseTables key b) :
    ∃ shape, Pairs mapCaseTables key a b shape := by
  cases a with
  | nil =>
      cases b with
      | nil => exact ⟨[], rfl, rfl⟩
      | cons case' rest' =>
          obtain ⟨label', type'⟩ := case'
          simp [mapCaseTables] at same
  | cons case rest =>
      obtain ⟨label, type⟩ := case
      cases b with
      | nil => simp [mapCaseTables] at same
      | cons case' rest' =>
          obtain ⟨label', type'⟩ := case'
          simp only [mapCaseTables, List.cons.injEq, DespecializedCaseType.mk.injEq] at same
          obtain ⟨⟨sameLabel, sameType⟩, sameRest⟩ := same
          obtain ⟨shape, first, second⟩ := exists_optionShape type type' sameType
          obtain ⟨restShape, firstRest, secondRest⟩ := exists_caseShape rest rest' sameRest
          refine ⟨⟨label, shape⟩ :: restShape, ?_, ?_⟩
          · rw [mapCaseTables, first, firstRest]
          · rw [mapCaseTables, second, secondRest, sameLabel]
termination_by structural a

end

end Shape

/-! ## Interchange -/

/-- `a` in the one context does what `b` does in the other, for every value and every memory. -/
structure SameBehaviour {World : Type} (cx cx' : LiftLowerContext World)
    (a b : DespecializedValType) : Prop where
  load (ptr : Nat) : load cx ptr a = load cx' ptr b
  store (v : Value) (ptr : Nat) : store cx v ptr a = store cx' v ptr b
  liftFlat (vi : ValueIter) : liftFlat cx vi a = liftFlat cx' vi b
  lowerFlat (v : Value) : lowerFlat cx v a = lowerFlat cx' v b
  /-- What a stream copies out of the buffer of its writer. -/
  loadList (ptr length : Nat) :
    loadListFromValidRange cx (fun ptr => Cabi.load cx ptr a) ptr length a =
      loadListFromValidRange cx' (fun ptr => Cabi.load cx' ptr b) ptr length b
  /-- What a stream copies into the buffer of its reader. -/
  storeList (v : Value) (ptr : Nat) :
    storeListIntoValidRange cx (fun v ptr => Cabi.store cx v ptr a) v ptr a =
      storeListIntoValidRange cx' (fun v ptr => Cabi.store cx' v ptr b) v ptr b

theorem sameBehaviour_mapTables {World : Type} (cx : LiftLowerContext World)
    (rename : Nat → Nat) (d : DespecializedValType) :
    SameBehaviour cx (cx.renaming rename) (d.mapTables rename) d where
  load ptr := load_mapTables cx rename ptr d
  store v ptr := store_mapTables cx rename v ptr d
  liftFlat vi := liftFlat_mapTables cx rename vi d
  lowerFlat v := lowerFlat_mapTables cx rename v d
  loadList ptr length := by
    rw [loadListFromValidRange_mapTables]
    simp only [load_mapTables]
  storeList v ptr := by
    rw [storeListIntoValidRange_mapTables]
    simp only [store_mapTables]

theorem SameBehaviour.trans_symm {World : Type} {cx cx' cx'' : LiftLowerContext World}
    {a b shape : DespecializedValType} (first : SameBehaviour cx cx'' a shape)
    (second : SameBehaviour cx' cx'' b shape) : SameBehaviour cx cx' a b where
  load ptr := (first.load ptr).trans (second.load ptr).symm
  store v ptr := (first.store v ptr).trans (second.store v ptr).symm
  liftFlat vi := (first.liftFlat vi).trans (second.liftFlat vi).symm
  lowerFlat v := (first.lowerFlat v).trans (second.lowerFlat v).symm
  loadList ptr length := (first.loadList ptr length).trans (second.loadList ptr length).symm
  storeList v ptr := (first.storeList v ptr).trans (second.storeList v ptr).symm

/-- Contexts that see of a table only what it is compared by. -/
def ConvertsByKey (key : Nat → Nat) {World : Type} (cx : LiftLowerContext World) : Prop :=
  ∀ d d' : DespecializedValType, d.mapTables key = d'.mapTables key →
    cx.liftHandle d = cx.liftHandle d' ∧ cx.lowerHandle d = cx.lowerHandle d'

/-- Two types of which either can stand for the other, but for the tables that they name. -/
structure Interchangeable (key : Nat → Nat) (a b : DespecializedValType) : Prop where
  layout (ptrType : PtrType) :
    layoutOf b ptrType = (layoutOf a ptrType).map fun layout => { layout with d := b }
  lanes (ptrType : PtrType) : flattenType ptrType a = flattenType ptrType b
  laneChecks (memory : Option MemInst) : checkFlatten memory a = checkFlatten memory b
  /-- In every context both types run one program; where it converts a handle it names a table of
  `a` for the one and a table of `b`, compared equal, for the other. -/
  program : ∃ (shape : DespecializedValType) (tableOfA tableOfB : Nat → Nat),
    (∀ table, key (tableOfA table) = key (tableOfB table)) ∧
      ∀ {World : Type} (cx : LiftLowerContext World),
        SameBehaviour cx (cx.renaming tableOfA) a shape ∧
          SameBehaviour cx (cx.renaming tableOfB) b shape
  /-- In a context that does not tell tables compared equal apart they do the same. -/
  sameBehaviour {World : Type} (cx : LiftLowerContext World) :
    ConvertsByKey key cx → SameBehaviour cx cx a b

theorem interchangeable_of_mapTables {key : Nat → Nat} {a b : DespecializedValType}
    (same : a.mapTables key = b.mapTables key) : Interchangeable key a b := by
  obtain ⟨shape, rfl, rfl⟩ := exists_shape a b same
  refine ⟨?_, ?_, ?_, ?_, ?_⟩
  · intro ptrType
    rw [layoutOf_mapTables, layoutOf_mapTables]
    cases layoutOf shape ptrType <;> rfl
  · intro ptrType
    rw [flattenType_mapTables, flattenType_mapTables]
  · intro memory
    rw [checkFlatten_mapTables, checkFlatten_mapTables]
  · exact ⟨shape, _, _, fun table => (key_secondTable key table).symm,
      fun cx => ⟨sameBehaviour_mapTables cx _ shape, sameBehaviour_mapTables cx _ shape⟩⟩
  · intro World cx byKey
    have sameContext : cx.renaming (fun pair => pair.unpair.1) =
        cx.renaming (secondTable key) := by
      have sameKey : (key ∘ fun pair : Nat => pair.unpair.1) = key ∘ secondTable key :=
        funext fun pair => (key_secondTable key pair).symm
      have alike (d : DespecializedValType) := byKey (d.mapTables fun pair => pair.unpair.1)
        (d.mapTables (secondTable key)) (by simp only [mapTables_mapTables, sameKey])
      unfold LiftLowerContext.renaming
      congr 1
      · exact funext fun d => (alike d).1
      · exact funext fun d => (alike d).2
    have second := sameBehaviour_mapTables cx (secondTable key) shape
    rw [← sameContext] at second
    exact (sameBehaviour_mapTables cx _ shape).trans_symm second

/-- Equal types are interchangeable, whatever their tables are compared by. -/
theorem equalTypes_interchangeable (resource : Nat → Nat) (identity : ResourceIdentity) :
    Equivalence (fun a b : Option ValType => valTypeEqualOption resource identity a b = true) ∧
      Equivalence (fun a b : ValType => valTypeEqual resource identity a b = true) ∧
        ∀ a b : ValType, valTypeEqual resource identity a b = true →
          Interchangeable (identity.key resource) (despecialize a) (despecialize b) := by
  refine ⟨valTypeEqualOption_equivalence resource identity,
    valTypeEqual_equivalence resource identity, ?_⟩
  intro a b equal
  have same := (valTypeEqual_iff resource identity a b).mp equal
  apply interchangeable_of_mapTables
  rw [← despecialize_mapTables, ← despecialize_mapTables, same]

theorem equalTypes_interchangeable_handles :
    Interchangeable (ResourceIdentity.underlying.key fun _ => 0)
      (despecialize (.tuple [.own 1, .borrow 1, .option (.prim .string)]))
      (despecialize (.tuple [.own 2, .borrow 3, .option (.prim .string)])) :=
  (equalTypes_interchangeable (fun _ => 0) .underlying).2.2 _ _
    (by simp [valTypeEqual, everyElement, ResourceIdentity.key])

end Polyengine.Cabi
