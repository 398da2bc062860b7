import Polyengine.Cabi.Lanes
import Polyengine.Cabi.LoadSafety

/-!
# Lifting hostile lanes

Lifting a type from canonical lanes returns a value or traps and takes exactly the lanes of the type,
whatever the guest memory holds; where a handle is lifted it may also fail as lifting the handle
does.
-/

set_option autoImplicit false

namespace Polyengine.Cabi

open Polyengine.Library Command

variable {World : Type} (cx : LiftLowerContext World)

def LiftsSafely (permitted : Failure → Prop) (kept : CxState World → CxState World → Prop)
    (d : DespecializedValType) (memory : Option MemInst)
    (lift : ValueIter → Cx World (Value × ValueIter)) : Prop :=
  ∀ (vi final : ValueIter) (xs : List CoreValue) (state : CxState World),
    state.memory = memory → vi.Yields (flattenType (lanePtrType memory) d) xs final →
    Meets permitted (lift vi) (fun result next => result.2 = final ∧ kept state next) state

theorem CoreValue.Canonical.integer_lt_i32 {x : CoreValue} (canonical : x.Canonical .i32) :
    x.integer < 2 ^ 32 := by
  cases x with
  | i32 n =>
      obtain ⟨low, high⟩ := canonical
      simp only [CoreValue.integer]
      omega
  | _ => exact canonical.elim

theorem CoreValue.Canonical.integer_lt_i64 {x : CoreValue} (canonical : x.Canonical .i64) :
    x.integer < 2 ^ 64 := by
  cases x with
  | i64 n =>
      obtain ⟨low, high⟩ := canonical
      simp only [CoreValue.integer]
      omega
  | _ => exact canonical.elim

theorem ValueIter.Yields.single {vi final : ValueIter} {lane : CoreType} {xs : List CoreValue}
    (yields : vi.Yields [lane] xs final) :
    ∃ x, xs = [x] ∧ vi.next lane = .ok (x, final) ∧ x.Canonical lane := by
  cases yields with
  | cons taken canonical later =>
      cases later
      exact ⟨_, rfl, taken, canonical⟩

theorem ValueIter.Yields.pair {vi final : ValueIter} {lane lane' : CoreType} {xs : List CoreValue}
    (yields : vi.Yields [lane, lane'] xs final) :
    ∃ x y middle, xs = [x, y] ∧ vi.next lane = .ok (x, middle) ∧ x.Canonical lane ∧
      middle.next lane' = .ok (y, final) ∧ y.Canonical lane' := by
  cases yields with
  | cons taken canonical later =>
      obtain ⟨y, rfl, taken', canonical'⟩ := later.single
      exact ⟨_, y, _, rfl, taken, canonical, taken', canonical'⟩

section Safety

variable {cx} {handles : Prop} {permitted : Failure → Prop}
  {kept : CxState World → CxState World → Prop} (law : LiftLaw cx handles permitted kept)
  {memory : Option MemInst} {state : CxState World}

omit law in
theorem exists_memory {message : String}
    (checked : (assert_ (memory.isSome = true) message : Except Failure Unit) = .ok ()) :
    ∃ mem, memory = some mem := by
  rw [assert_eq_ok] at checked
  exact Option.isSome_iff_exists.mp checked

include law

theorem liftFlatPrim_safe (kind : PrimKind) (checked : checkFlatten memory (.prim kind) = .ok ()) :
    LiftsSafely permitted kept (.prim kind) memory fun vi => liftFlatPrim cx vi kind := by
  intro vi final xs state present yields
  rw [flattenType] at yields
  cases kind with
  | string =>
      obtain ⟨mem, rfl⟩ := exists_memory checked
      obtain ⟨ptr, length, middle, _, takenPtr, _, takenLength, _⟩ := yields.pair
      simp only [lanePtrType] at takenPtr takenLength
      simp only [liftFlatPrim, liftFlatString, meets_bind, meets_requireMemory present, meets_lift,
        takenPtr, takenLength, Fallible.satisfies_bind, Fallible.satisfies_ok,
        Fallible.satisfies_pure]
      exact (law.satisfies (loadStringFromRange_safe _ _ _ _)).imp fun _ _ =>
        ⟨trivial, law.refl state⟩
  | char =>
      obtain ⟨x, _, taken, _⟩ := yields.single
      simp only [liftFlatPrim, meets_bind, meets_lift, taken, Fallible.satisfies_ok, meets_pure]
      exact (law.satisfies (convertI32ToChar_safe _)).imp fun _ _ => ⟨trivial, law.refl state⟩
  | bool | f32 | f64 =>
      obtain ⟨x, _, taken, _⟩ := yields.single
      simp only [liftFlatPrim, meets_bind, meets_lift, taken, Fallible.satisfies_ok, meets_pure,
        true_and]
      exact law.refl state
  | u8 | u16 | u32 =>
      obtain ⟨x, _, taken, canonical⟩ := yields.single
      simp only [liftFlatPrim, liftFlatUnsigned32, meets_lift, taken, Fallible.satisfies_bind,
        Fallible.satisfies_ok, satisfies_assert, Fallible.satisfies_pure,
        canonical.integer_lt_i32, not_true, false_implies, true_implies, true_and]
      exact law.refl state
  | s8 | s16 | s32 =>
      obtain ⟨x, _, taken, canonical⟩ := yields.single
      simp only [liftFlatPrim, liftFlatSigned32, meets_lift, taken, Fallible.satisfies_bind,
        Fallible.satisfies_ok, satisfies_assert, Fallible.satisfies_pure,
        canonical.integer_lt_i32, not_true, false_implies, true_implies, true_and]
      exact law.refl state
  | u64 =>
      obtain ⟨x, _, taken, canonical⟩ := yields.single
      simp only [liftFlatPrim, liftFlatUnsigned64, meets_lift, taken, Fallible.satisfies_bind,
        Fallible.satisfies_ok, satisfies_assert, Fallible.satisfies_pure,
        canonical.integer_lt_i64, not_true, false_implies, true_implies, true_and]
      exact law.refl state
  | s64 =>
      obtain ⟨x, _, taken, canonical⟩ := yields.single
      simp only [liftFlatPrim, liftFlatSigned64, meets_lift, taken, Fallible.satisfies_bind,
        Fallible.satisfies_ok, satisfies_assert, Fallible.satisfies_pure,
        canonical.integer_lt_i64, not_true, false_implies, true_implies, true_and]
      exact law.refl state

theorem liftElements_safe {element : DespecializedValType}
    {liftElement : ValueIter → Cx World (Value × ValueIter)}
    (safe : LiftsSafely permitted kept element memory liftElement)
    (present : state.memory = memory) {n : Nat} {vi final : ValueIter} {xs : List CoreValue}
    (yields : vi.Yields (List.replicate n (flattenType (lanePtrType memory) element)).flatten xs
      final) :
    Meets permitted (liftElements liftElement n vi)
      (fun result next => result.2 = final ∧ kept state next) state := by
  induction n generalizing vi xs state with
  | zero =>
      cases yields
      exact ⟨rfl, law.refl state⟩
  | succ n ih =>
      rw [List.replicate_succ, List.flatten_cons] at yields
      obtain ⟨middle, first, second, _, here, later⟩ := yields.split
      simp only [liftElements, meets_bind]
      apply (safe vi middle first state present here).imp
      rintro ⟨value, after⟩ next ⟨rfl, unchanged⟩
      apply (ih ((law.memory unchanged).trans present) later).imp
      rintro ⟨rest, after⟩ next ⟨rfl, unchanged'⟩
      exact ⟨rfl, law.trans unchanged unchanged'⟩

theorem liftFlatList_safe {element : DespecializedValType} (valid : ValidType handles element)
    {liftElement : ValueIter → Cx World (Value × ValueIter)}
    {maybeLength : Option Nat}
    (safe : ∀ n, maybeLength = some n → LiftsSafely permitted kept element memory liftElement)
    (checked : checkFlatten memory (.list element maybeLength) = .ok ()) :
    LiftsSafely permitted kept (.list element maybeLength) memory fun vi =>
      liftFlatList cx liftElement (fun ptr => load cx ptr element) vi element maybeLength := by
  intro vi final xs state present yields
  cases maybeLength with
  | some n =>
      rw [flattenType] at yields
      simp only [liftFlatList, meets_bind]
      apply (liftElements_safe law (safe n rfl) present yields).imp
      rintro ⟨elements, after⟩ next ⟨rfl, unchanged⟩
      simp only [meets_ite, meets_pure, true_and]
      exact ⟨fun _ => unchanged, fun _ => unchanged⟩
  | none =>
      obtain ⟨mem, rfl⟩ := exists_memory checked
      rw [flattenType] at yields
      obtain ⟨ptr, length, middle, _, takenPtr, _, takenLength, _⟩ := yields.pair
      simp only [lanePtrType] at takenPtr takenLength
      simp only [liftFlatList, meets_bind, meets_requireMemory present, meets_lift, takenPtr,
        takenLength, Fallible.satisfies_ok]
      apply (loadListFromRange_safe law valid (load_safe law valid mem) present _ _).imp
      intro value next unchanged
      exact ⟨rfl, unchanged⟩

theorem liftFlatRecord_safe {fields : List DespecializedFieldType}
    (safe : ∀ field ∈ fields,
      LiftsSafely permitted kept field.type memory fun vi => liftFlat cx vi field.type)
    (present : state.memory = memory) {vi final : ValueIter} {xs : List CoreValue}
    (yields : vi.Yields (flattenRecord (lanePtrType memory) fields) xs final)
    (record : List (String × Value)) :
    Meets permitted (liftFlatRecord cx vi fields record)
      (fun result next => result.2 = final ∧ kept state next) state := by
  induction fields generalizing vi xs record state with
  | nil =>
      rw [flattenRecord] at yields
      cases yields
      simp only [liftFlatRecord, meets_pure, true_and]
      exact law.refl state
  | cons first rest ih =>
      obtain ⟨label, type⟩ := first
      rw [flattenRecord] at yields
      obtain ⟨middle, here, there, _, now, later⟩ := yields.split
      simp only [liftFlatRecord, meets_bind]
      apply (safe ⟨label, type⟩ (by simp) vi middle here state present now).imp
      rintro ⟨value, after⟩ next ⟨rfl, unchanged⟩
      apply (ih (fun field member => safe field (by simp [member]))
        ((law.memory unchanged).trans present) later _).imp
      rintro ⟨rest, after⟩ next ⟨rfl, unchanged'⟩
      exact ⟨rfl, law.trans unchanged unchanged'⟩

omit law in
theorem liftCase_safe {cases' : List DespecializedCaseType} {vi : ValueIter}
    {post : Value × ValueIter → CxState World → Prop}
    (empty : ∀ case ∈ cases', case.type = none → post (.variant case.label .null, vi) state)
    (payload : ∀ case ∈ cases', ∀ type, case.type = some type →
      Meets permitted (liftFlat cx vi type)
        (fun result next => post (.variant case.label result.1, result.2) next) state)
    {index : Nat} (bound : index < cases'.length) :
    Meets permitted (liftCase cx vi cases' index) post state := by
  induction cases' generalizing index with
  | nil => simp at bound
  | cons first rest ih =>
      obtain ⟨label, content⟩ := first
      cases index with
      | succ index =>
          have later := ih (fun case member => empty case (by simp [member]))
            (fun case member => payload case (by simp [member]))
            (Nat.lt_of_succ_lt_succ bound)
          cases content <;> simpa only [liftCase] using later
      | zero =>
          cases content with
          | none =>
              simp only [liftCase, meets_pure]
              exact empty ⟨label, none⟩ (by simp) rfl
          | some type =>
              simp only [liftCase, meets_bind, meets_pure]
              exact payload ⟨label, some type⟩ (by simp) type rfl

theorem liftFlat_safe {d : DespecializedValType} (valid : ValidType handles d)
    (checked : checkFlatten memory d = .ok ()) :
    LiftsSafely permitted kept d memory fun vi => liftFlat cx vi d := by
  have trapped : ∀ message, permitted (.trap message) := fun message => law.traps _ trivial
  induction valid with
  | prim kind =>
      intro vi final xs state present yields
      dsimp only
      rw [liftFlat]
      exact liftFlatPrim_safe law kind checked vi final xs state present yields
  | @list element length valid bounds ih =>
      intro vi final xs state present yields
      dsimp only
      rw [liftFlat]
      have safe : ∀ n, length = some n → LiftsSafely permitted kept element memory fun vi =>
          liftFlat cx vi element := by
        intro n fixed
        subst fixed
        exact ih (by simpa only [checkFlatten] using checked)
      exact liftFlatList_safe law valid safe checked vi final xs state present yields
  | @record fields nonempty distinct valid ih =>
      intro vi final xs state present yields
      dsimp only
      rw [flattenType] at yields
      rw [liftFlat]
      simp only [meets_bind]
      rw [checkFlatten] at checked
      apply (liftFlatRecord_safe law (fun field member =>
        ih field member (checkFlatten_field checked member)) present yields []).imp
      rintro ⟨record, after⟩ next ⟨rfl, unchanged⟩
      exact ⟨rfl, unchanged⟩
  | @variant cases' nonempty bound distinct valid ih =>
      intro vi final xs state present yields
      dsimp only
      have payloads := checkFlattenCases_of_variant checked
      rw [flattenType] at yields
      cases yields with
      | @cons _ middle _ _ caseIndex _ ys taken canonical later =>
          rw [liftFlat]
          simp only [flattenTypeIn, meets_bind, meets_get, present, meets_lift, checked,
            Fallible.satisfies_ok, meets_pure, flattenType, List.head?_cons,
            List.tail_cons, Command.meets_assert, taken, Command.meets_trapIf, trapped,
            implies_true, true_and, not_true, false_implies, true_implies]
          intro selected
          apply liftCase_safe _ _ (Nat.not_le.mp selected)
          · intro case member content
            simp only [ValueIter.finish, later.skip, Fallible.satisfies_ok, true_and]
            exact law.refl state
          · intro case member type content
            obtain ⟨leading, padding, split, widens⟩ :=
              flattenCases_covers (lanePtrType memory) [] member content
            rw [split] at later ⊢
            obtain ⟨inner, front, back, _, before, after⟩ := later.split
            obtain ⟨payload, coerced⟩ := before.coerceLanes widens
            apply (ih case member type content (checkFlatten_case payloads member content) _ _
              payload state present (ValueIter.yields_coerce coerced before)).imp
            rintro ⟨value, rest⟩ next ⟨rfl, unchanged⟩
            simp only [ValueIter.finish, after.skip, Fallible.satisfies_ok, true_and]
            exact unchanged
  | @flags labels nonempty bound distinct =>
      intro vi final xs state present yields
      dsimp only
      have counted : 0 < labels.length := List.length_pos_iff.mpr nonempty
      rw [flattenType] at yields
      obtain ⟨x, _, taken, _⟩ := yields.single
      rw [liftFlat]
      simp only [liftFlatFlags, meets_lift, Fallible.satisfies_bind, satisfies_assert, counted,
        bound, taken, Fallible.satisfies_ok, Fallible.satisfies_pure, and_self, not_true,
        false_implies, true_implies, true_and]
      exact law.refl state
  | @handle d admitted isHandle =>
      intro vi final xs state present yields
      have lifted := fun i => law.handle admitted d i state isHandle
      dsimp only
      cases d with
      | errorContext | own | borrow | stream | future =>
          rw [flattenType] at yields
          obtain ⟨x, _, taken, _⟩ := yields.single
          rw [liftFlat]
          simp only [liftFlatHandle, meets_bind, meets_lift, taken, Fallible.satisfies_ok,
            meets_pure]
          exact (lifted _).imp fun _ _ unchanged => ⟨trivial, unchanged⟩
      | _ => cases isHandle

end Safety

theorem toString_injective {m n : Nat} (same : toString m = toString n) : m = n := by
  have digits : Nat.toDigits 10 m = Nat.toDigits 10 n := by
    rw [← Nat.toList_repr, ← Nat.toList_repr]
    exact congrArg String.toList same
  rw [← @Nat.ofDigitChars_ten_toDigits m, digits, Nat.ofDigitChars_ten_toDigits]

theorem mem_tupleFields {first : Nat} {elements : List DespecializedValType}
    {field : DespecializedFieldType} (member : field ∈ tupleFields first elements) :
    field.type ∈ elements ∧ ∃ position, first ≤ position ∧ field.label = toString position := by
  induction elements generalizing first with
  | nil => cases member
  | cons element rest ih =>
      rw [tupleFields] at member
      cases member with
      | head => exact ⟨by simp, first, Nat.le_refl _, rfl⟩
      | tail _ later =>
          obtain ⟨inside, position, bound, label⟩ := ih later
          exact ⟨by simp [inside], position, by omega, label⟩

theorem tupleFields_nodup (first : Nat) (elements : List DespecializedValType) :
    ((tupleFields first elements).map (·.label)).Nodup := by
  induction elements generalizing first with
  | nil => exact .nil
  | cons element rest ih =>
      rw [tupleFields, List.map_cons, List.nodup_cons]
      refine ⟨?_, ih (first + 1)⟩
      intro repeated
      obtain ⟨field, member, label⟩ := List.mem_map.mp repeated
      obtain ⟨_, position, bound, named⟩ := mem_tupleFields member
      have same := toString_injective (named.symm.trans label)
      omega

theorem ValidType.spillTuple {handles : Prop} {ds : List DespecializedValType} (nonempty : ds ≠ [])
    (valid : ∀ d ∈ ds, ValidType handles d) : ValidType handles (spillTupleType ds) := by
  refine .record ?_ (tupleFields_nodup 0 ds) ?_
  · cases ds with
    | nil => exact absurd rfl nonempty
    | cons d rest =>
        rw [tupleFields]
        exact List.cons_ne_nil _ _
  · intro field member
    exact valid _ (mem_tupleFields member).1

theorem meets_flattenTypes {permitted : Failure → Prop} {ds : List DespecializedValType}
    {memory : Option MemInst} (checked : ∀ d ∈ ds, checkFlatten memory d = .ok ())
    {state : CxState World} (present : state.memory = memory)
    (post : List CoreType → CxState World → Prop) :
    Meets permitted (flattenTypes ds) post state ↔
      post (ds.flatMap (flattenType (lanePtrType memory))) state := by
  induction ds generalizing post with
  | nil => simp only [flattenTypes, meets_pure, List.flatMap_nil]
  | cons d rest ih =>
      simp only [flattenTypes, flattenTypeIn, meets_bind, meets_get, present, meets_lift,
        checked d (by simp), Fallible.satisfies_ok, meets_pure, List.flatMap_cons]
      exact ih (fun d member => checked d (by simp [member])) _

/-- The core lanes that `liftFlatValues` reads: those of the types, or the spill pointer. -/
def liftedLanes (ptrType : PtrType) (maxFlat : Nat) (ts : List ValType) : List CoreType :=
  let lanes := (ts.map despecialize).flatMap (flattenType ptrType)
  if maxFlat < lanes.length then [ptrType.core] else lanes

section Values

variable {cx} {handles : Prop} {permitted : Failure → Prop}
  {kept : CxState World → CxState World → Prop} (law : LiftLaw cx handles permitted kept)
  {memory : Option MemInst} {state : CxState World}

include law

theorem liftFlatAll_safe {ds : List DespecializedValType} (valid : ∀ d ∈ ds, ValidType handles d)
    (checked : ∀ d ∈ ds, checkFlatten memory d = .ok ()) (present : state.memory = memory)
    {vi final : ValueIter} {xs : List CoreValue}
    (yields : vi.Yields (ds.flatMap (flattenType (lanePtrType memory))) xs final) :
    Meets permitted (liftFlatAll cx vi ds) (fun result next => result.2 = final ∧ kept state next)
      state := by
  induction ds generalizing vi xs state with
  | nil =>
      cases yields
      exact ⟨rfl, law.refl state⟩
  | cons d rest ih =>
      rw [List.flatMap_cons] at yields
      obtain ⟨middle, here, there, _, now, later⟩ := yields.split
      simp only [liftFlatAll, meets_bind]
      apply (liftFlat_safe law (valid d (by simp)) (checked d (by simp)) vi middle here state
        present now).imp
      rintro ⟨value, after⟩ next ⟨rfl, unchanged⟩
      apply (ih (fun d member => valid d (by simp [member]))
        (fun d member => checked d (by simp [member])) ((law.memory unchanged).trans present)
        later).imp
      rintro ⟨values, after⟩ next ⟨rfl, unchanged'⟩
      exact ⟨rfl, law.trans unchanged unchanged'⟩

theorem liftFlatValues_safe {ts : List ValType}
    (valid : ∀ t ∈ ts, ValidType handles (despecialize t))
    (checked : ∀ t ∈ ts, checkFlatten memory (despecialize t) = .ok ()) {maxFlat : Nat}
    (spillable : maxFlat < ((ts.map despecialize).flatMap
      (flattenType (lanePtrType memory))).length → memory.isSome = true)
    (addressable : ∀ mem, memory = some mem →
      mem.length ≤ MAX_SAFE_INTEGER ∨ permitted (.assertion "index overflow"))
    (present : state.memory = memory) {vi final : ValueIter} {xs : List CoreValue}
    (yields : vi.Yields (liftedLanes (lanePtrType memory) maxFlat ts) xs final) :
    Meets permitted (liftFlatValues cx maxFlat vi ts)
      (fun result next => result.2 = final ∧ kept state next) state := by
  have trapped : ∀ message, permitted (.trap message) := fun message => law.traps _ trivial
  have validAll : ∀ d ∈ ts.map despecialize, ValidType handles d := by
    intro d member
    obtain ⟨t, inside, rfl⟩ := List.mem_map.mp member
    exact valid t inside
  have checkedAll : ∀ d ∈ ts.map despecialize, checkFlatten memory d = .ok () := by
    intro d member
    obtain ⟨t, inside, rfl⟩ := List.mem_map.mp member
    exact checked t inside
  simp only [liftFlatValues, flatCount, meets_bind, meets_flattenTypes checkedAll present,
    meets_pure, meets_ite]
  constructor
  · intro spilled
    obtain ⟨mem, rfl⟩ := Option.isSome_iff_exists.mp (spillable spilled)
    have nonempty : ts.map despecialize ≠ [] := by
      intro empty
      simp [empty] at spilled
    have spill := ValidType.spillTuple nonempty validAll
    obtain ⟨layout, laidOut, _, align, size, _⟩ := spill.layoutOf mem.ptrType
    rw [liftedLanes, if_pos spilled] at yields
    obtain ⟨ptr, _, taken, _⟩ := yields.single
    simp only [lanePtrType] at taken
    simp only [meets_requireMemory present, meets_lift, taken, laidOut, Fallible.satisfies_ok,
      Command.meets_trapIf, trapped, implies_true, true_and, align, size]
    intro aligned inside
    simp only [asIndex, Fallible.satisfies_bind, satisfies_assert, Fallible.satisfies_pure]
    constructor
    · intro beyond
      cases addressable mem rfl with
      | inl bound => exact absurd (by omega) beyond
      | inr allowed => exact allowed
    intro _
    apply (load_safe law spill mem _ state present
      (Nat.dvd_of_mod_eq_zero (not_not.mp aligned)) (Nat.not_lt.mp inside)).imp
    intro tuple next unchanged
    exact unchanged
  · intro direct
    rw [liftedLanes, if_neg direct] at yields
    exact liftFlatAll_safe law validAll checkedAll present yields

end Values

def memoryOnly : LiftLowerContext Unit where
  stringEncoding := .utf8
  realloc := none
  hasInstance := false
  checkpoint := none
  liftHandle := fun _ _ => throw (Failure.trap "unknown handle index")
  lowerHandle := fun _ _ => throw (Failure.trap "table full")
  littleEndian := true
  byteOffset := 0

end Polyengine.Cabi
