import Mathlib.Data.List.Nodup
import Polyengine.Cabi.LiftSafety
import Polyengine.Cabi.StoreEmissions

/-!
# What flat lowering emits

Lowering values emits their leaves in the order of the types, flat or spilled, and values of their
types become canonical values of the lanes that flattening computes.
-/

set_option autoImplicit false

namespace Polyengine.Cabi

open Polyengine.Library Command

section Lanes

theorem joinLane_canonical {held want : CoreType} (widens : Widens want held) {fv : CoreValue}
    (canonical : fv.Canonical held) :
    ∃ joined, joinLane held want fv = .ok joined ∧ joined.Canonical want := by
  have bits32 : ∀ bits : UInt32, (encodeFloatAsI32 bits : Int) < 2 ^ 32 := by
    intro bits
    exact_mod_cast encodeFloatAsI32_lt bits
  have bits64 : ∀ bits : UInt64, (encodeFloatAsI64 bits : Int) < 2 ^ 64 := by
    intro bits
    exact_mod_cast encodeFloatAsI64_lt bits
  cases widens with
  | inl same =>
      subst same
      cases want <;> exact ⟨fv, rfl, canonical⟩
  | inr wider =>
      cases wider with
      | inl float =>
          obtain ⟨rfl, rfl⟩ := float
          exact ⟨_, rfl, Int.natCast_nonneg _, bits32 _⟩
      | inr wide =>
          subst wide
          cases held with
          | i32 =>
              have small := canonical.integer_lt_i32
              refine ⟨_, rfl, Int.natCast_nonneg _, ?_⟩
              have wider : fv.integer < 2 ^ 64 := small.trans (by decide)
              exact_mod_cast wider
          | i64 => exact ⟨fv, rfl, canonical⟩
          | f32 =>
              refine ⟨_, rfl, Int.natCast_nonneg _, ?_⟩
              exact (bits32 _).trans (by decide)
          | f64 => exact ⟨_, rfl, Int.natCast_nonneg _, bits64 _⟩

theorem joinPayload_canonical {leading held : List CoreType}
    (widens : List.Forall₂ Widens leading held) (padding : List CoreType) {payload : List CoreValue}
    (canonical : List.Forall₂ CoreValue.Canonical held payload) :
    ∃ joined, joinPayload payload held (leading ++ padding) = .ok (joined, padding) ∧
      List.Forall₂ CoreValue.Canonical leading joined := by
  induction widens generalizing payload with
  | nil =>
      cases canonical
      exact ⟨[], rfl, .nil⟩
  | cons wider _ ih =>
      cases canonical with
      | cons here later =>
          obtain ⟨first, converted, canonical'⟩ := joinLane_canonical wider here
          obtain ⟨rest, joined, canonicals⟩ := ih later
          refine ⟨first :: rest, ?_, .cons canonical' canonicals⟩
          simp only [List.cons_append, joinPayload, converted, joined]
          rfl

theorem zero_canonical (lane : CoreType) : (CoreValue.zero lane).Canonical lane := by
  cases lane with
  | i32 | i64 => exact ⟨Int.le_refl 0, by decide⟩
  | f32 | f64 => trivial

theorem zeros_canonical (padding : List CoreType) :
    List.Forall₂ CoreValue.Canonical padding (padding.map CoreValue.zero) := by
  induction padding with
  | nil => exact .nil
  | cons lane rest ih => exact .cons (zero_canonical lane) ih

theorem pointerLane_canonical {ptrType : PtrType} {n : Nat} (fits : InPtr ptrType n) :
    (pointerLane ptrType n).Canonical ptrType.core := by
  cases ptrType with
  | i32 => exact ⟨Int.natCast_nonneg n, by exact_mod_cast fits⟩
  | i64 => exact ⟨Int.natCast_nonneg n, by exact_mod_cast fits⟩

theorem lowerFlatSigned32_canonical {i : Int} {width : Nat} (narrow : width = 1 ∨ width = 2 ∨ width = 4)
    (fits : fitsInWidth i width true) :
    List.Forall₂ CoreValue.Canonical [.i32] (lowerFlatSigned32 i) := by
  have bounds : -2 ^ 31 ≤ i ∧ i < 2 ^ 31 := by
    simp only [fitsInWidth, if_true] at fits
    rcases narrow with rfl | rfl | rfl <;> norm_num at fits ⊢ <;> omega
  rw [lowerFlatSigned32]
  split
  · exact .cons ⟨by omega, by omega⟩ .nil
  · exact .cons ⟨by omega, by omega⟩ .nil

theorem lowerFlatSigned64_canonical {i : Int} (fits : fitsInWidth i 8 true) :
    List.Forall₂ CoreValue.Canonical [.i64] (lowerFlatSigned64 i) := by
  simp only [fitsInWidth, if_true] at fits
  rw [lowerFlatSigned64]
  split
  · exact .cons ⟨by omega, by omega⟩ .nil
  · exact .cons ⟨by omega, by omega⟩ .nil

end Lanes

section Typed

variable {limits : Limits}

theorem number_canonical {kind : PrimKind} {width : Nat} {signed : Bool} {n : Int}
    (numeric : numberKind kind = some (width, signed)) (unsigned : signed = false)
    (fits : fitsInWidth n width signed) : (CoreValue.i32 n).Canonical .i32 := by
  subst unsigned
  have bounds : 0 ≤ n ∧ n < 2 ^ (8 * width) := fits
  have wide : (2 : Int) ^ (8 * width) ≤ 2 ^ 32 := by
    cases kind <;> cases numeric <;> decide
  exact ⟨bounds.1, bounds.2.trans_le wide⟩

theorem packFlags_lt {v : Value} {labels : List String} {i shift final : Nat}
    (packed : packFlags v i shift labels = .ok final) (small : i < 2 ^ 32) : final < 2 ^ 32 := by
  induction labels generalizing i shift with
  | nil =>
      cases packed
      exact small
  | cons label rest ih =>
      rw [packFlags] at packed
      cases read : propertyOf v label with
      | error failure =>
          rw [read] at packed
          cases packed
      | ok value =>
          rw [read] at packed
          exact ih packed (Nat.mod_lt _ (by decide))

theorem HasType.field {fields : List DespecializedFieldType} {v : Value}
    (has : HasType limits (.record fields) v) {field : DespecializedFieldType}
    (member : field ∈ fields) {value : Value} (read : propertyOf v field.label = .ok value) :
    HasType limits field.type value := by
  cases has with
  | record holds =>
      cases read
      exact holds field member

theorem HasType.element {element : DespecializedValType} {length : Option Nat} {v : Value}
    (has : HasType limits (.list element length) v) {elements : List Value}
    (listed : arrayLike v = .ok elements) {e : Value} (member : e ∈ elements) :
    HasType limits element e := by
  cases has with
  | array _ holds =>
      cases listed
      exact holds e member
  | bytes _ =>
      cases listed
      obtain ⟨byte, _, rfl⟩ := List.mem_map.mp member
      have isByte : numberKind .u8 = some (1, false) := rfl
      have bound : (byte.toNat : Int) < 256 := by exact_mod_cast byte.toNat_lt
      exact .number isByte ⟨Int.natCast_nonneg _, bound⟩

theorem HasType.casePayload {cases' : List DespecializedCaseType}
    (distinct : (cases'.map (·.label)).Nodup) {kind : String} {value : Value}
    (has : HasType limits (.variant cases') (.variant kind value)) {case : DespecializedCaseType}
    (member : case ∈ cases') (label : case.label = kind) {type : DespecializedValType}
    (payload : case.type = some type) : HasType limits type value := by
  have unique := List.inj_on_of_nodup_map distinct
  cases has with
  | payload other holds =>
      have same := unique member other label
      subst same
      cases payload
      exact holds
  | noPayload other =>
      have same := unique member other label
      subst same
      cases payload

end Typed

section Flat

variable {World Item : Type} {cx : LiftLowerContext World} {ledger : Ledger (CxState World) Item}
  {permitted : Failure → Prop} {leaf : DespecializedValType → Value → List Item}
  {ptrType : PtrType} (law : LowerLaw cx ledger permitted leaf ptrType)
  {typed : Prop} (loose : ¬typed → ∀ failure, permitted failure)

include law

theorem LowerLaw.pointerLanes {result : Nat × Nat} (lanes : InLanes ptrType result) :
    ledger.Emits permitted [] (do
      let mem ← Cabi.requireMemory
      return [pointerLane mem.ptrType result.1, pointerLane mem.ptrType result.2] :
        Cx World (List CoreValue))
      (List.Forall₂ CoreValue.Canonical [ptrType.core, ptrType.core]) := by
  refine law.requireMemory.after ?_
  intro mem width
  subst width
  exact .pure (.cons (pointerLane_canonical lanes.1) (.cons (pointerLane_canonical lanes.2) .nil))

theorem lowerFlatString_emits (v : List UInt16) :
    ledger.Emits permitted [] (lowerFlatString cx v)
      (List.Forall₂ CoreValue.Canonical [ptrType.core, ptrType.core]) := by
  rw [lowerFlatString]
  refine (storeStringIntoRange_emits law v).after ?_
  intro result lanes
  exact law.pointerLanes lanes

theorem lowerFlatPrim_emits {v : Value} {kind : PrimKind} (has : typed → HasType .none (.prim kind) v) :
    ledger.Emits permitted [] (lowerFlatPrim cx v kind) fun lanes =>
      typed → List.Forall₂ CoreValue.Canonical (flattenPrim ptrType kind) lanes := by
  have refused : ledger.Emits permitted [] (throw illTyped : Cx World (List CoreValue))
      fun lanes => typed → List.Forall₂ CoreValue.Canonical (flattenPrim ptrType kind) lanes :=
    .throw (law.own _ illTyped_offLanes) []
  cases kind with
  | bool =>
      cases v with
      | bool b =>
          apply Ledger.Emits.pure
          intro _
          refine .cons ?_ .nil
          cases b <;> decide
      | _ => exact refused
  | u8 | u16 | u32 =>
      cases v with
      | number n =>
          apply Ledger.Emits.pure
          intro isTyped
          cases has isTyped with
          | @number _ width signed _ numeric fits =>
              have unsigned : signed = false := by
                cases numeric
                rfl
              exact .cons (number_canonical numeric unsigned fits) .nil
      | _ => exact refused
  | u64 =>
      cases v with
      | bigint n =>
          apply Ledger.Emits.pure
          intro isTyped
          cases has isTyped with
          | bigint numeric fits =>
              cases numeric
              exact .cons fits .nil
      | _ => exact refused
  | s8 | s16 | s32 =>
      cases v with
      | number n =>
          apply Ledger.Emits.pure
          intro isTyped
          cases has isTyped with
          | number numeric fits =>
              cases numeric
              exact lowerFlatSigned32_canonical (by decide) fits
      | _ => exact refused
  | s64 =>
      cases v with
      | bigint n =>
          apply Ledger.Emits.pure
          intro isTyped
          cases has isTyped with
          | bigint numeric fits =>
              cases numeric
              exact lowerFlatSigned64_canonical fits
      | _ => exact refused
  | f32 =>
      cases v with
      | f32 bits => exact .pure fun _ => .cons trivial .nil
      | _ => exact refused
  | f64 =>
      cases v with
      | f64 bits => exact .pure fun _ => .cons trivial .nil
      | _ => exact refused
  | char =>
      refine (law.lift (asString_offLanes v)).after ?_
      intro c _
      refine (law.lift (charToI32_offLanes c)).after ?_
      intro i small
      apply Ledger.Emits.pure
      intro _
      exact .cons ⟨Int.natCast_nonneg i, by exact_mod_cast small⟩ .nil
  | string =>
      refine (law.lift (asString_offLanes v)).after ?_
      intro units _
      exact (lowerFlatString_emits law units).imp fun _ canonical _ => canonical

def LowersFlat (ledger : Ledger (CxState World) Item) (permitted : Failure → Prop)
    (leaf : DespecializedValType → Value → List Item) (ptrType : PtrType) (typed : Prop)
    (d : DespecializedValType) (lowerElement : Value → Cx World (List CoreValue)) : Prop :=
  ∀ v, (typed → HasType .none d v) →
    ledger.Emits permitted (leavesOf leaf d v) (lowerElement v) fun lanes =>
      typed → List.Forall₂ CoreValue.Canonical (flattenType ptrType d) lanes

variable {element : DespecializedValType} {lowerElement : Value → Cx World (List CoreValue)}
  {storeElement : Value → Nat → Cx World Unit}

omit law in
theorem lowerElements_emits
    (lowers : LowersFlat ledger permitted leaf ptrType typed element lowerElement)
    {elements : List Value} (has : typed → ∀ e ∈ elements, HasType .none element e) :
    ledger.Emits permitted (elements.flatMap (leavesOf leaf element))
      (lowerElements lowerElement elements) fun lanes =>
        typed → List.Forall₂ CoreValue.Canonical
          (List.replicate elements.length (flattenType ptrType element)).flatten lanes := by
  induction elements with
  | nil => exact .pure fun _ => .nil
  | cons e rest ih =>
      rw [lowerElements, List.flatMap_cons]
      refine (lowers e fun isTyped => has isTyped e List.mem_cons_self).bind ?_
      intro flat here
      refine (ih fun isTyped e member => has isTyped e (List.mem_cons_of_mem _ member)).before ?_
      intro lanes later
      apply Ledger.Emits.pure
      intro isTyped
      rw [List.length_cons, List.replicate_succ, List.flatten_cons]
      exact List.rel_append (here isTyped) (later isTyped)

theorem lowerFlatList_emits (valid : ValidType True element)
    (lowers : LowersFlat ledger permitted leaf ptrType typed element lowerElement)
    (emits : StoreEmits ledger permitted leaf element storeElement) (maybeLength : Option Nat) :
    LowersFlat ledger permitted leaf ptrType typed (.list element maybeLength)
      fun v => lowerFlatList cx lowerElement storeElement v element maybeLength := by
  intro v has
  cases maybeLength with
  | some length =>
      dsimp only
      rw [lowerFlatList]
      refine (law.arrayLike v).after ?_
      intro elements listed
      refine (law.assert_ (by decide)).after ?_
      intro _ counted
      rw [leavesOf_list leaf listed, flattenType, counted]
      exact lowerElements_emits lowers fun isTyped e member => (has isTyped).element listed member
  | none =>
      dsimp only
      rw [lowerFlatList, flattenType]
      refine (storeListIntoRange_emits law valid emits v none).before ?_
      intro result lanes
      exact (law.pointerLanes lanes).imp fun _ canonical _ => canonical

theorem lowerFlatRecord_emits {fields : List DespecializedFieldType}
    (lowers : ∀ field ∈ fields, LowersFlat ledger permitted leaf ptrType typed field.type
      fun v => lowerFlat cx v field.type) {v : Value}
    (has : typed → ∀ field ∈ fields, ∀ value, propertyOf v field.label = .ok value →
      HasType .none field.type value) :
    ledger.Emits permitted (leavesOfFields leaf fields v) (lowerFlatRecord cx v fields) fun lanes =>
      typed → List.Forall₂ CoreValue.Canonical (flattenRecord ptrType fields) lanes := by
  induction fields with
  | nil =>
      rw [lowerFlatRecord, leavesOfFields, flattenRecord]
      exact .pure fun _ => .nil
  | cons first rest ih =>
      obtain ⟨label, type⟩ := first
      rw [lowerFlatRecord, leavesOfFields, flattenRecord]
      refine (law.reads (propertyOf_offLanes v label)).after ?_
      intro value read
      have fieldTyped := fun isTyped => has isTyped ⟨label, type⟩ List.mem_cons_self value read.1
      rw [read.1]
      refine (lowers ⟨label, type⟩ List.mem_cons_self value fieldTyped).bind ?_
      intro flat here
      have remaining := ih (fun field member => lowers field (List.mem_cons_of_mem _ member))
        fun isTyped field member => has isTyped field (List.mem_cons_of_mem _ member)
      refine remaining.before ?_
      intro lanes later
      exact .pure fun isTyped => List.rel_append (here isTyped) (later isTyped)

omit law in
theorem checkFlattenRecord_offLanes {memory : Option MemInst}
    {fields : List DespecializedFieldType}
    (checked : ∀ field ∈ fields,
      Fallible.Satisfies OffLanes (checkFlatten memory field.type) fun _ => True) :
    Fallible.Satisfies OffLanes (checkFlattenRecord memory fields) fun _ => True := by
  induction fields with
  | nil => trivial
  | cons first rest ih =>
      obtain ⟨label, type⟩ := first
      simp only [checkFlattenRecord, Fallible.satisfies_bind]
      apply (checked ⟨label, type⟩ List.mem_cons_self).imp
      intro _ _
      exact ih fun field member => checked field (List.mem_cons_of_mem _ member)

omit law in
theorem checkFlattenCases_offLanes {memory : Option MemInst}
    {cases' : List DespecializedCaseType}
    (checked : ∀ case ∈ cases', ∀ type, case.type = some type →
      Fallible.Satisfies OffLanes (checkFlatten memory type) fun _ => True) :
    Fallible.Satisfies OffLanes (checkFlattenCases memory cases') fun _ => True := by
  induction cases' with
  | nil => trivial
  | cons first rest ih =>
      obtain ⟨label, content⟩ := first
      have later := ih fun case member => checked case (List.mem_cons_of_mem _ member)
      cases content with
      | none => simpa only [checkFlattenCases] using later
      | some type =>
          simp only [checkFlattenCases, Fallible.satisfies_bind]
          apply (checked ⟨label, some type⟩ List.mem_cons_self type rfl).imp
          intro _ _
          exact later

omit law in
theorem ValidType.checkFlatten_offLanes {handles : Prop} {d : DespecializedValType}
    (valid : ValidType handles d) (memory : Option MemInst) :
    Fallible.Satisfies OffLanes (Cabi.checkFlatten memory d) fun _ => True := by
  have asserted : ∀ {condition : Prop} [Decidable condition] {message : String},
      message ∉ laneMessages →
      Fallible.Satisfies OffLanes (assert_ condition message) fun _ => True := by
    intro condition _ message absent
    rw [satisfies_assert]
    exact ⟨fun _ => .assertion absent, fun _ => trivial⟩
  induction valid with
  | prim kind =>
      cases kind with
      | string => exact asserted (by decide)
      | _ => trivial
  | @list element length _ _ ih =>
      cases length with
      | none => exact asserted (by decide)
      | some n => simpa only [Cabi.checkFlatten] using ih
  | record _ _ _ ih =>
      rw [Cabi.checkFlatten]
      exact checkFlattenRecord_offLanes ih
  | variant _ _ _ _ ih =>
      simp only [Cabi.checkFlatten, Fallible.satisfies_bind]
      apply (checkFlattenCases_offLanes ih).imp
      intro _ _
      exact asserted (by decide)
  | flags _ _ _ => trivial
  | @handle d _ isHandle =>
      cases d with
      | errorContext | own | borrow | stream | future => trivial
      | _ => cases isHandle

theorem LowerLaw.flattenTypeIn {d : DespecializedValType} (valid : ValidType True d) :
    ledger.Emits permitted [] (Cabi.flattenTypeIn d : Cx World (List CoreType)) fun lanes =>
      lanes = flattenType ptrType d := by
  rw [Cabi.flattenTypeIn]
  apply Ledger.Emits.get.after
  intro state running
  refine (law.lift (valid.checkFlatten_offLanes state.memory)).after ?_
  intro _ _
  rw [law.ptrType state running]
  exact .pure rfl

omit law in
/-- The lanes that `lowerCase` returns: none, or those of a payload type of the variant. -/
def PayloadLanes (ptrType : PtrType) (cases' : List DespecializedCaseType)
    (payload : List CoreValue × List CoreType) : Prop :=
  payload = ([], []) ∨
    ∃ case ∈ cases', ∃ type, case.type = some type ∧ payload.2 = flattenType ptrType type

omit law in
theorem PayloadLanes.tail {ptrType : PtrType} {first : DespecializedCaseType}
    {rest : List DespecializedCaseType} {payload : List CoreValue × List CoreType}
    (lanes : PayloadLanes ptrType rest payload) : PayloadLanes ptrType (first :: rest) payload := by
  cases lanes with
  | inl none => exact .inl none
  | inr some =>
      obtain ⟨case, member, described⟩ := some
      exact .inr ⟨case, List.mem_cons_of_mem _ member, described⟩

theorem lowerCase_emits {cases' : List DespecializedCaseType}
    (valid : ∀ case ∈ cases', ∀ type, case.type = some type → ValidType True type)
    (lowers : ∀ case ∈ cases', ∀ type, case.type = some type →
      LowersFlat ledger permitted leaf ptrType typed type fun v => lowerFlat cx v type)
    {kind : String} {value : Value}
    (has : typed → ∀ case ∈ cases', case.label = kind → ∀ type, case.type = some type →
      HasType .none type value) {index : Nat}
    (selected : cases'.findIdx? (fun case => case.label == kind) = some index) :
    ledger.Emits permitted (leavesOfCase leaf cases' kind value)
      (lowerCase cx value cases' index) fun payload =>
        PayloadLanes ptrType cases' payload ∧
          (typed → List.Forall₂ CoreValue.Canonical payload.2 payload.1) := by
  induction cases' generalizing index with
  | nil => cases selected
  | cons first rest ih =>
      obtain ⟨label, content⟩ := first
      rw [List.findIdx?_cons] at selected
      by_cases same : (label == kind) = true
      · rw [if_pos same] at selected
        cases selected
        cases content with
        | none =>
            rw [lowerCase, leavesOfCase, if_pos same]
            exact .pure ⟨.inl rfl, fun _ => .nil⟩
        | some type =>
            rw [lowerCase, leavesOfCase, if_pos same]
            have here : ⟨label, some type⟩ ∈ DespecializedCaseType.mk label (some type) :: rest :=
              List.mem_cons_self
            refine (lowers _ here type rfl value fun isTyped =>
              has isTyped _ here (eq_of_beq same) type rfl).before ?_
            intro payload canonical
            refine (law.flattenTypeIn (valid _ here type rfl)).after ?_
            intro lanes flattened
            subst flattened
            exact .pure ⟨.inr ⟨_, here, type, rfl, rfl⟩, canonical⟩
      · rw [if_neg same] at selected
        obtain ⟨later, found, rfl⟩ := Option.map_eq_some_iff.mp selected
        have remaining := ih (fun case member => valid case (List.mem_cons_of_mem _ member))
          (fun case member => lowers case (List.mem_cons_of_mem _ member))
          (fun isTyped case member => has isTyped case (List.mem_cons_of_mem _ member)) found
        cases content with
        | none =>
            rw [lowerCase, leavesOfCase, if_neg same]
            exact remaining.imp fun _ lanes => ⟨lanes.1.tail, lanes.2⟩
        | some type =>
            rw [lowerCase, leavesOfCase, if_neg same]
            exact remaining.imp fun _ lanes => ⟨lanes.1.tail, lanes.2⟩

include loose

omit law in
theorem joinVariant_emits {cases' : List DespecializedCaseType} {caseIndex : Nat}
    (small : caseIndex < 2 ^ 32) {payload : List CoreValue × List CoreType}
    (lanes : PayloadLanes ptrType cases' payload)
    (canonical : typed → List.Forall₂ CoreValue.Canonical payload.2 payload.1) :
    ledger.Emits permitted [] (do
      let (joined, padding) ← joinPayload payload.1 payload.2 (flattenCases ptrType [] cases')
      return .i32 caseIndex :: joined ++ padding.map CoreValue.zero : Cx World (List CoreValue))
      fun lanes => typed →
        List.Forall₂ CoreValue.Canonical (flattenType ptrType (.variant cases')) lanes := by
  have discriminant : (CoreValue.i32 caseIndex).Canonical .i32 :=
    ⟨Int.natCast_nonneg _, by exact_mod_cast small⟩
  by_cases isTyped : typed
  · have covered : Covers (flattenCases ptrType [] cases') payload.2 := by
      cases lanes with
      | inl none =>
          rw [none]
          exact ⟨[], _, rfl, .nil⟩
      | inr some =>
          obtain ⟨case, member, type, content, flattened⟩ := some
          rw [flattened]
          exact flattenCases_covers ptrType [] member content
    obtain ⟨leading, padding, split, widens⟩ := covered
    obtain ⟨joined, converted, canonicals⟩ :=
      joinPayload_canonical widens padding (canonical isTyped)
    rw [split, converted]
    apply Ledger.Emits.pure
    intro _
    rw [flattenType_variant, flattenVariant, split]
    exact .cons discriminant (List.rel_append canonicals (zeros_canonical padding))
  · have anything : Fallible.Satisfies permitted
        (joinPayload payload.1 payload.2 (flattenCases ptrType [] cases')) fun _ => True := by
      rw [Fallible.satisfies_iff]
      exact ⟨fun _ _ => trivial, fun failure _ => loose isTyped failure⟩
    refine (Ledger.Emits.lift anything).after ?_
    intro _ _
    exact .pure fun holds => absurd holds isTyped

theorem lowerFlat_emits {d : DespecializedValType} (valid : ValidType True d) :
    LowersFlat ledger permitted leaf ptrType typed d fun v => lowerFlat cx v d := by
  induction valid with
  | prim kind =>
      intro v has
      dsimp only
      rw [lowerFlat, leavesOf_prim, flattenType]
      exact lowerFlatPrim_emits law has
  | @list element length valid bounds ih =>
      intro v has
      dsimp only
      rw [lowerFlat]
      exact lowerFlatList_emits law valid ih (store_emits law valid) length v has
  | @record fields nonempty distinct valid ih =>
      intro v has
      dsimp only
      rw [lowerFlat, leavesOf, flattenType]
      exact lowerFlatRecord_emits law ih fun isTyped field member value read =>
        (has isTyped).field member read
  | @variant cases' nonempty bound distinct valid ih =>
      intro v has
      dsimp only
      rw [lowerFlat]
      refine (law.lift (matchCase_offLanes v cases')).after ?_
      rintro ⟨caseIndex, caseValue⟩ ⟨kind, isVariant, selected⟩
      subst isVariant
      refine (law.flattenTypeIn (.variant nonempty bound distinct valid)).after ?_
      intro flatTypes flattened
      subst flattened
      refine (law.assert_ (by decide)).after ?_
      intro _ _
      rw [leavesOf]
      refine (lowerCase_emits law valid ih (fun isTyped case member label type payload =>
        (has isTyped).casePayload distinct member label payload) selected).before ?_
      rintro payload ⟨lanes, canonical⟩
      have inside : caseIndex < cases'.length :=
        (List.findIdx?_eq_some_iff_findIdx_eq.mp selected).1
      rw [flattenType_variant, flattenVariant, List.tail_cons]
      exact joinVariant_emits loose (inside.trans bound) lanes canonical
  | @flags labels nonempty bound distinct =>
      intro v has
      have silent : leavesOf leaf (.flags labels) v = [] := by cases v <;> rw [leavesOf] <;> simp
      dsimp only
      rw [lowerFlat, silent, flattenType]
      apply law.lift
      simp only [lowerFlatFlags, Fallible.satisfies_bind, satisfies_assert]
      constructor
      · intro _
        exact .assertion (by decide)
      · intro _
        cases packed : packFlagsIntoInt v labels with
        | error failure => exact (packFlags_offLanes v 0 0 labels).of_error packed
        | ok i =>
            have small := packFlags_lt packed (by decide)
            intro _
            exact .cons ⟨Int.natCast_nonneg i, by exact_mod_cast small⟩ .nil
  | @handle d admitted isHandle =>
      intro v has
      have lowered := law.handle d v isHandle
      rw [leavesOf_handle leaf isHandle]
      cases d with
      | errorContext | own | borrow | stream | future =>
          dsimp only
          rw [lowerFlat, lowerFlatHandle, flattenType]
          refine lowered.before ?_
          intro index small
          apply Ledger.Emits.pure
          intro isTyped
          have bound := small (has isTyped)
          exact .cons ⟨Int.natCast_nonneg _, by exact_mod_cast bound⟩ .nil
      | _ => cases isHandle

omit loose in
theorem LowerLaw.flattenTypes {ds : List DespecializedValType}
    (valid : ∀ d ∈ ds, ValidType True d) :
    ledger.Emits permitted [] (Cabi.flattenTypes ds : Cx World (List CoreType)) fun lanes =>
      lanes = ds.flatMap (flattenType ptrType) := by
  induction ds with
  | nil => exact .pure rfl
  | cons d rest ih =>
      rw [Cabi.flattenTypes, List.flatMap_cons]
      refine (law.flattenTypeIn (valid d List.mem_cons_self)).after ?_
      intro lanes here
      refine (ih fun d member => valid d (List.mem_cons_of_mem _ member)).after ?_
      intro later there
      rw [here, there]
      exact .pure rfl

omit law loose in
def leavesOfAll (leaf : DespecializedValType → Value → List Item) :
    List DespecializedValType → List Value → List Item
  | d :: ds, v :: vs => leavesOf leaf d v ++ leavesOfAll leaf ds vs
  | _, _ => []

theorem lowerFlatAll_emits {ds : List DespecializedValType} (valid : ∀ d ∈ ds, ValidType True d)
    {vs : List Value} (same : vs.length = ds.length)
    (has : typed → List.Forall₂ (HasType .none) ds vs) :
    ledger.Emits permitted (leavesOfAll leaf ds vs) (lowerFlatAll cx vs ds) fun lanes =>
      typed → List.Forall₂ CoreValue.Canonical (ds.flatMap (flattenType ptrType)) lanes := by
  induction ds generalizing vs with
  | nil =>
      cases vs with
      | nil => exact .pure fun _ => .nil
      | cons v vs => cases same
  | cons d ds ih =>
      cases vs with
      | nil => cases same
      | cons v vs =>
          have head : typed → HasType .none d v := by
            intro isTyped
            cases has isTyped with
            | cons here _ => exact here
          have tail : typed → List.Forall₂ (HasType .none) ds vs := by
            intro isTyped
            cases has isTyped with
            | cons _ later => exact later
          rw [lowerFlatAll, leavesOfAll, List.flatMap_cons]
          refine (lowerFlat_emits law loose (valid d List.mem_cons_self) v head).bind ?_
          intro flat here
          have remaining := ih (fun d member => valid d (List.mem_cons_of_mem _ member))
            (Nat.succ.inj same) tail
          refine remaining.before ?_
          intro lanes later
          exact .pure fun isTyped => List.rel_append (here isTyped) (later isTyped)

end Flat

section Spill

theorem property_tupleProperties (first : Nat) {vs : List Value} {i : Nat} (inside : i < vs.length) :
    property (tupleProperties first vs) (toString (first + i)) = vs[i] := by
  induction vs generalizing first i with
  | nil => cases inside
  | cons v rest ih =>
      cases i with
      | zero => simp [property, tupleProperties]
      | succ i =>
          have later := ih (first + 1) (Nat.lt_of_succ_lt_succ inside)
          have distinct : (toString first == toString (first + (i + 1))) = false := by
            rw [beq_eq_false_iff_ne]
            intro same
            have equal := toString_injective same
            omega
          rw [Nat.add_right_comm, Nat.add_assoc] at later
          simp only [property, tupleProperties, List.find?_cons, distinct, List.getElem_cons_succ]
          exact later

variable {Item : Type} (leaf : DespecializedValType → Value → List Item)

theorem leavesOf_tupleFields {first : Nat} {ds : List DespecializedValType} {vs : List Value}
    {properties : List (String × Value)} (same : vs.length = ds.length)
    (held : ∀ i (inside : i < vs.length), property properties (toString (first + i)) = vs[i]) :
    leavesOfFields leaf (tupleFields first ds) (.record properties) = leavesOfAll leaf ds vs := by
  induction ds generalizing first vs with
  | nil =>
      cases vs with
      | nil => rw [tupleFields, leavesOfFields, leavesOfAll]; simp
      | cons v vs => cases same
  | cons d ds ih =>
      cases vs with
      | nil => cases same
      | cons v vs =>
          have here : property properties (toString first) = v := held 0 (Nat.zero_lt_succ _)
          have there := @ih (first + 1) vs (Nat.succ.inj same) fun i inside => by
            have shifted := held (i + 1) (Nat.succ_lt_succ inside)
            rw [List.getElem_cons_succ] at shifted
            rw [← shifted]
            congr 2
            omega
          rw [tupleFields, leavesOfFields, leavesOfAll, there]
          simp only [propertyOf, here]

theorem leavesOf_spillTuple {ds : List DespecializedValType} {vs : List Value}
    (same : vs.length = ds.length) :
    leavesOf leaf (spillTupleType ds) (.record (tupleProperties 0 vs)) = leavesOfAll leaf ds vs := by
  rw [spillTupleType, leavesOf]
  apply leavesOf_tupleFields leaf same
  intro i inside
  exact property_tupleProperties 0 inside

end Spill

/-- What is left of a spilled tuple: the lane of its pointer, or the iterator behind the pointer. -/
def SpilledLanes (ptrType : PtrType) (outParam : Option ValueIter)
    (result : List CoreValue × Option ValueIter) : Prop :=
  match outParam with
  | none => List.Forall₂ CoreValue.Canonical [ptrType.core] result.1 ∧ result.2 = none
  | some vi =>
      result.1 = [] ∧ ∃ ptr rest, vi.next ptrType.core = .ok (ptr, rest) ∧ result.2 = some rest

def LoweredLanes (ptrType : PtrType) (maxFlat : Nat) (ts : List ValType)
    (outParam : Option ValueIter) (result : List CoreValue × Option ValueIter) : Prop :=
  let flat := (ts.map despecialize).flatMap (flattenType ptrType)
  if maxFlat < flat.length then SpilledLanes ptrType outParam result
  else List.Forall₂ CoreValue.Canonical flat result.1 ∧ result.2 = outParam

section Values

variable {World Item : Type} {cx : LiftLowerContext World} {ledger : Ledger (CxState World) Item}
  {permitted : Failure → Prop} {leaf : DespecializedValType → Value → List Item}
  {ptrType : PtrType} (law : LowerLaw cx ledger permitted leaf ptrType)
  {typed : Prop} (loose : ¬typed → ∀ failure, permitted failure)

include law

theorem spillDestination_emits {layout : Layout} {outParam : Option ValueIter}
    (taken : ∀ vi, outParam = some vi →
      Fallible.Satisfies permitted (vi.next ptrType.core) fun _ => True) :
    ledger.Emits permitted [] (spillDestination cx ptrType layout outParam) fun result =>
      SpilledLanes ptrType outParam result.2 := by
  cases outParam with
  | none =>
      rw [spillDestination]
      refine law.allocated.after ?_
      intro ptr small
      exact .pure ⟨.cons (pointerLane_canonical (.of_lt small)) .nil, rfl⟩
  | some vi =>
      have available : Fallible.Satisfies permitted (vi.next ptrType.core) fun result =>
          vi.next ptrType.core = .ok result := by
        rw [Fallible.satisfies_iff]
        exact ⟨fun _ taken => taken, fun _ failed => (taken vi rfl).of_error failed⟩
      have indexed : ∀ n, Fallible.Satisfies OffLanes (asIndex n) fun _ => True := by
        intro n
        simp only [asIndex, Fallible.satisfies_bind, satisfies_assert]
        exact ⟨fun _ => .assertion (by decide), fun _ => trivial⟩
      rw [spillDestination]
      refine (Ledger.Emits.lift available).after ?_
      rintro ⟨ptr, rest⟩ next
      refine (law.lift (indexed ptr.integer)).after ?_
      intro index _
      exact .pure ⟨rfl, ptr, rest, next, rfl⟩

include loose

/-- Lowering a list of values emits their leaves in the order of the types, whether the lanes are
returned or a tuple is spilled. -/
theorem lowerFlatValues_emits {ts : List ValType}
    (valid : ∀ t ∈ ts, ValidType True (despecialize t)) {vs : List Value}
    (same : vs.length = ts.length)
    (has : typed → List.Forall₂ (HasType .none) (ts.map despecialize) vs) (maxFlat : Nat)
    {outParam : Option ValueIter}
    (taken : maxFlat < ((ts.map despecialize).flatMap (flattenType ptrType)).length →
      ∀ vi, outParam = some vi →
        Fallible.Satisfies permitted (vi.next ptrType.core) fun _ => True) :
    ledger.Emits permitted (leavesOfAll leaf (ts.map despecialize) vs)
      (lowerFlatValues cx maxFlat vs ts outParam) fun result =>
        typed → LoweredLanes ptrType maxFlat ts outParam result := by
  have validAll : ∀ d ∈ ts.map despecialize, ValidType True d := by
    intro d member
    obtain ⟨t, inside, rfl⟩ := List.mem_map.mp member
    exact valid t inside
  have sameAll : vs.length = (ts.map despecialize).length := by rw [same, List.length_map]
  have counted : ledger.Emits permitted [] (flatCount (ts.map despecialize) : Cx World Nat)
      fun count => count = ((ts.map despecialize).flatMap (flattenType ptrType)).length := by
    rw [flatCount]
    refine (law.flattenTypes validAll).after ?_
    intro lanes flattened
    rw [flattened]
    exact .pure rfl
  rw [lowerFlatValues]
  refine counted.after ?_
  intro count counts
  subst counts
  apply Ledger.Emits.ite
  · intro spilled
    have nonempty : ts.map despecialize ≠ [] := by
      intro empty
      simp [empty] at spilled
    have spill := ValidType.spillTuple nonempty validAll
    refine law.requireMemory.after ?_
    intro mem width
    rw [← leavesOf_spillTuple leaf sameAll]
    refine (law.layoutOf spill _).after ?_
    intro layout _
    have pointer : mem.ptrType = ptrType := width
    rw [pointer]
    refine (spillDestination_emits law (taken spilled)).after ?_
    rintro ⟨ptr, flatVals, outParam'⟩ destination
    refine law.trapIf.after ?_
    intro _ _
    refine law.requireMemory.after ?_
    intro mem' _
    refine law.trapIf.after ?_
    intro _ _
    refine (store_emits law spill _ ptr).before ?_
    intro _ _
    apply Ledger.Emits.pure
    intro _
    rw [LoweredLanes, if_pos spilled]
    exact destination
  · intro direct
    refine (lowerFlatAll_emits law loose validAll sameAll has).before ?_
    intro lanes canonical
    apply Ledger.Emits.pure
    intro isTyped
    rw [LoweredLanes, if_neg direct]
    exact ⟨canonical isTyped, rfl⟩

end Values

end Polyengine.Cabi
