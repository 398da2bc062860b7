import Polyengine.Cabi.Context

/-!
# Flattening

The core lanes of a despecialized type. The lanes of a variant are those of its cases joined
position by position, behind the discriminant.
-/

set_option autoImplicit false

namespace Polyengine.Cabi

open Polyengine.Library

def MAX_FLAT_PARAMS : Nat := 16

def MAX_FLAT_ASYNC_PARAMS : Nat := 4

def MAX_FLAT_RESULTS : Nat := 1

def join (a b : CoreType) : CoreType :=
  if a = b then a
  else if (a = .i32 ∧ b = .f32) ∨ (a = .f32 ∧ b = .i32) then .i32
  else .i64

/-- One case of `flattenVariant`: its lanes joined into the lanes of the earlier cases. -/
def joinLanes : List CoreType → List CoreType → List CoreType
  | flat, [] => flat
  | [], lanes => lanes
  | a :: flat, b :: lanes => join a b :: joinLanes flat lanes

def flattenPrim (ptrType : PtrType) : PrimKind → List CoreType
  | .bool | .u8 | .u16 | .u32 | .s8 | .s16 | .s32 | .char => [.i32]
  | .s64 | .u64 => [.i64]
  | .f32 => [.f32]
  | .f64 => [.f64]
  | .string => [ptrType.core, ptrType.core]

mutual

def flattenType (ptrType : PtrType) : DespecializedValType → List CoreType
  | .prim kind => flattenPrim ptrType kind
  | .list element (some n) => (List.replicate n (flattenType ptrType element)).flatten
  | .list _ none => [ptrType.core, ptrType.core]
  | .record fields => flattenRecord ptrType fields
  | .variant cases => .i32 :: flattenCases ptrType [] cases
  | .flags _ | .errorContext | .own _ | .borrow _ | .stream _ | .future _ => [.i32]

def flattenRecord (ptrType : PtrType) : List DespecializedFieldType → List CoreType
  | [] => []
  | ⟨_, type⟩ :: rest => flattenType ptrType type ++ flattenRecord ptrType rest

/-- The loop of `flattenVariant` over the cases that are left. -/
def flattenCases (ptrType : PtrType) (flat : List CoreType) :
    List DespecializedCaseType → List CoreType
  | [] => flat
  | ⟨_, some type⟩ :: rest =>
      flattenCases ptrType (joinLanes flat (flattenType ptrType type)) rest
  | ⟨_, none⟩ :: rest => flattenCases ptrType flat rest

end

/-- `flattenVariant`; every discriminant type flattens to `i32`. -/
def flattenVariant (ptrType : PtrType) (cases : List DespecializedCaseType) : List CoreType :=
  .i32 :: flattenCases ptrType [] cases

-- What `flattenType` asserts on the way: a memory for pointers, and a number of cases that has a
-- discriminant type.
mutual

def checkFlatten (memory : Option MemInst) : DespecializedValType → Except Failure Unit
  | .prim .string => assert_ memory.isSome "canonical option `memory` required"
  | .list _ none => assert_ memory.isSome "canonical option `memory` required"
  | .list element (some _) => checkFlatten memory element
  | .record fields => checkFlattenRecord memory fields
  | .variant cases => do
      checkFlattenCases memory cases
      assert_ (0 < cases.length ∧ cases.length < 2 ^ 32) "case count"
  | _ => pure ()

def checkFlattenRecord (memory : Option MemInst) :
    List DespecializedFieldType → Except Failure Unit
  | [] => pure ()
  | ⟨_, type⟩ :: rest => do
      checkFlatten memory type
      checkFlattenRecord memory rest

def checkFlattenCases (memory : Option MemInst) :
    List DespecializedCaseType → Except Failure Unit
  | [] => pure ()
  | ⟨_, some type⟩ :: rest => do
      checkFlatten memory type
      checkFlattenCases memory rest
  | ⟨_, none⟩ :: rest => checkFlattenCases memory rest

end

section

attribute [local simp] join joinLanes flattenType flattenCases checkFlatten

end

/-- The pointer type that flattening assumes; without a memory it is never looked at. -/
def lanePtrType (memory : Option MemInst) : PtrType :=
  match memory with
  | none => .i32
  | some mem => mem.ptrType

section

variable {World : Type}

/-- `flattenType` against the options of a context. -/
def flattenTypeIn (d : DespecializedValType) : Cx World (List CoreType) := do
  let memory := (← get).memory
  checkFlatten memory d
  return flattenType (lanePtrType memory) d

/-- `flattenTypes`, whose length is `flatCount`. -/
def flattenTypes : List DespecializedValType → Cx World (List CoreType)
  | [] => return []
  | d :: rest => do
      let lanes ← flattenTypeIn d
      return lanes ++ (← flattenTypes rest)

def flatCount (ts : List DespecializedValType) : Cx World Nat := do
  return (← flattenTypes ts).length

/-- The counts that `flatCountCacheByPtrType` keeps for one list of types. -/
abbrev FlatCounts : Type := PtrType → Option Nat

/-- `flatCount` with its cache, which calls without a memory neither read nor fill. -/
def flatCountCached (counts : FlatCounts) (ts : List DespecializedValType) :
    Cx World (Nat × FlatCounts) := do
  match (← get).memory with
  | none => return (← flatCount ts, counts)
  | some mem =>
      match counts mem.ptrType with
      | some count => return (count, counts)
      | none =>
          let count ← flatCount ts
          return (count, Function.update counts mem.ptrType (some count))

structure FuncType where
  params : List ValType
  results : List ValType

structure CoreFuncType where
  params : List CoreType
  results : List CoreType
  deriving Repr, DecidableEq

inductive FlattenContext where
  | lift
  | lower
  deriving Repr, DecidableEq

/-- The lanes themselves, or a pointer when there are more than the limit. -/
def spillAbove (limit : Nat) (flat : List CoreType) : Cx World (List CoreType) := do
  if limit < flat.length then return [(← requireMemory).ptrType.core] else return flat

def flattenFunctype (async callback : Bool) (ft : FuncType) (context : FlattenContext) :
    Cx World CoreFuncType := do
  let flatParams ← flattenTypes (ft.params.map despecialize)
  let flatResults ← flattenTypes (ft.results.map despecialize)
  if async = false then
    let flatParams ← spillAbove MAX_FLAT_PARAMS flatParams
    if MAX_FLAT_RESULTS < flatResults.length then
      match context with
      | .lift => return { params := flatParams, results := [(← requireMemory).ptrType.core] }
      | .lower =>
          return { params := flatParams ++ [(← requireMemory).ptrType.core], results := [] }
    else return { params := flatParams, results := flatResults }
  else
    match context with
    | .lift =>
        let flatParams ← spillAbove MAX_FLAT_PARAMS flatParams
        return { params := flatParams, results := if callback then [.i32] else [] }
    | .lower =>
        let flatParams ← spillAbove MAX_FLAT_ASYNC_PARAMS flatParams
        if 0 < flatResults.length then
          return { params := flatParams ++ [(← requireMemory).ptrType.core], results := [.i32] }
        else return { params := flatParams, results := [.i32] }

end

theorem flattenType_variant (ptrType : PtrType) (cases' : List DespecializedCaseType) :
    flattenType ptrType (.variant cases') = flattenVariant ptrType cases' := by
  rw [flattenType, flattenVariant]

theorem checkFlattenRecord_eq {memory : Option MemInst} {fields : List DespecializedFieldType}
    (checked : ∀ field ∈ fields, checkFlatten memory field.type = .ok ()) :
    checkFlattenRecord memory fields = .ok () := by
  induction fields with
  | nil => rfl
  | cons first rest ih =>
      obtain ⟨label, type⟩ := first
      rw [checkFlattenRecord, checked ⟨label, type⟩ (by simp)]
      exact ih fun field member => checked field (by simp [member])

theorem checkFlattenCases_eq {memory : Option MemInst} {cases' : List DespecializedCaseType}
    (checked : ∀ case ∈ cases', ∀ type, case.type = some type → checkFlatten memory type = .ok ()) :
    checkFlattenCases memory cases' = .ok () := by
  induction cases' with
  | nil => rfl
  | cons first rest ih =>
      obtain ⟨label, content⟩ := first
      have later := ih fun case member => checked case (by simp [member])
      cases content with
      | none => simpa only [checkFlattenCases] using later
      | some type =>
          rw [checkFlattenCases, checked ⟨label, some type⟩ (by simp) type rfl]
          exact later

theorem checkFlatten_field {memory : Option MemInst} {fields : List DespecializedFieldType}
    (checked : checkFlattenRecord memory fields = .ok ()) {field : DespecializedFieldType}
    (member : field ∈ fields) : checkFlatten memory field.type = .ok () := by
  induction fields with
  | nil => cases member
  | cons first rest ih =>
      obtain ⟨label, type⟩ := first
      rw [checkFlattenRecord] at checked
      cases here : checkFlatten memory type with
      | error failure =>
          rw [here] at checked
          cases checked
      | ok _ =>
          rw [here] at checked
          cases member with
          | head => exact here
          | tail _ later => exact ih checked later

theorem checkFlatten_case {memory : Option MemInst} {cases' : List DespecializedCaseType}
    (checked : checkFlattenCases memory cases' = .ok ()) {case : DespecializedCaseType}
    (member : case ∈ cases') {type : DespecializedValType} (payload : case.type = some type) :
    checkFlatten memory type = .ok () := by
  induction cases' with
  | nil => cases member
  | cons first rest ih =>
      obtain ⟨label, content⟩ := first
      cases content with
      | none =>
          rw [checkFlattenCases] at checked
          cases member with
          | head => cases payload
          | tail _ later => exact ih checked later
      | some other =>
          rw [checkFlattenCases] at checked
          cases here : checkFlatten memory other with
          | error failure =>
              rw [here] at checked
              cases checked
          | ok _ =>
              rw [here] at checked
              cases member with
              | head =>
                  cases payload
                  exact here
              | tail _ later => exact ih checked later

theorem checkFlattenCases_of_variant {memory : Option MemInst}
    {cases' : List DespecializedCaseType}
    (checked : checkFlatten memory (.variant cases') = .ok ()) :
    checkFlattenCases memory cases' = .ok () := by
  rw [Cabi.checkFlatten] at checked
  cases here : checkFlattenCases memory cases' with
  | error failure =>
      rw [here] at checked
      cases checked
  | ok _ => rfl

theorem ValidType.checkFlatten {handles : Prop} {d : DespecializedValType}
    (valid : ValidType handles d) (mem : MemInst) : checkFlatten (some mem) d = .ok () := by
  induction valid with
  | prim kind => cases kind <;> rfl
  | @list element length _ _ ih =>
      cases length with
      | none => rfl
      | some n => simpa only [Cabi.checkFlatten] using ih
  | record _ _ _ ih =>
      rw [Cabi.checkFlatten]
      exact checkFlattenRecord_eq ih
  | @variant cases' nonempty bound _ _ ih =>
      have counted : 0 < cases'.length := List.length_pos_iff.mpr nonempty
      rw [Cabi.checkFlatten, checkFlattenCases_eq ih]
      exact assert_ok ⟨counted, bound⟩
  | flags _ _ _ => rfl
  | @handle d _ isHandle => cases d <;> first | rfl | cases isHandle

end Polyengine.Cabi
