import Polyengine.Cabi.LoadSafety
import Polyengine.Cabi.Values

/-!
# What loading returns

The value that loading composes from the values of the parts. The bulk copies agree with the
element loop.
-/

set_option autoImplicit false

namespace Polyengine.Cabi

open Polyengine.Library Command

variable {World : Type}

/-- Loading from the memory returns the value and changes nothing. -/
def Loads (cx : LiftLowerContext World) (d : DespecializedValType) (ptr : Nat) (v : Value)
    (mem : MemInst) : Prop :=
  ∀ state : CxState World, state.memory = some mem → Reads (load cx ptr d) v state

def ElementsLoad (cx : LiftLowerContext World) (element : DespecializedValType) (mem : MemInst) :
    List Value → Nat → Prop
  | [], _ => True
  | v :: rest, ptr =>
      Loads cx element ptr v mem ∧
        ElementsLoad cx element mem rest (ptr + elemSize mem.ptrType element)

variable {cx : LiftLowerContext World} {mem : MemInst} {ptr : Nat}

section Prelude

variable {d : DespecializedValType} (plain : PlainType d)
  (aligned : alignment mem.ptrType d ∣ ptr) (inside : ptr + elemSize mem.ptrType d ≤ mem.length)

include plain aligned inside

theorem loads_prim {kind : PrimKind} {v : Value} (isPrim : d = .prim kind)
    (loaded : loadPrim cx mem ptr kind = .ok v) : Loads cx d ptr v mem := by
  intro state present
  obtain ⟨layout, laidOut, _, align, size, _⟩ := plain.layoutOf mem.ptrType
  rw [reads_iff]
  subst isPrim
  rw [load]
  simp only [meets_bind, meets_requireMemory present, laidOut, meets_lift, Command.meets_assert,
    Fallible.satisfies_ok, align, size, Nat.mod_eq_zero_of_dvd aligned, inside, not_true,
    false_implies, true_implies, loaded, and_self]

theorem loadPrim_of_loads {kind : PrimKind} {v : Value} (isPrim : d = .prim kind)
    (loads : Loads cx d ptr v mem) {state : CxState World} (present : state.memory = some mem) :
    loadPrim cx mem ptr kind = .ok v := by
  have reads := loads state present
  obtain ⟨layout, laidOut, _, align, size, _⟩ := plain.layoutOf mem.ptrType
  rw [reads_iff] at reads
  subst isPrim
  rw [load] at reads
  simp only [meets_bind, meets_requireMemory present, laidOut, meets_lift, Command.meets_assert,
    Fallible.satisfies_ok, align, size, Nat.mod_eq_zero_of_dvd aligned, inside, not_true,
    false_implies, true_implies, true_and, and_true] at reads
  cases loaded : loadPrim cx mem ptr kind with
  | error failure => simp [loaded] at reads
  | ok value =>
      simp only [loaded, Fallible.satisfies_ok] at reads
      rw [reads]

end Prelude

theorem loadPrim_view {kind : PrimKind} {ctor : ArrayCtor} (handled : arrayCtor kind = some ctor)
    (inside : ptr + ctor.width ≤ mem.length) :
    loadPrim cx mem ptr kind = .ok (ctor.read (mem.bytesAt ptr ctor.width)) := by
  have unsigned := loadIntU_eq inside
  have signed := loadIntS_eq inside
  cases kind with
  | u16 | u32 | u64 | f32 | f64 =>
      cases handled
      simp only [ArrayCtor.width] at unsigned
      simp only [loadPrim, unsigned]
      rfl
  | s8 | s16 | s32 | s64 =>
      cases handled
      simp only [ArrayCtor.width] at signed
      simp only [loadPrim, signed]
      rfl
  | bool | u8 | char | string => cases handled

section Elements

variable {element : DespecializedValType} {state : CxState World}

theorem loadElements_reads {values : List Value} (present : state.memory = some mem)
    (loads : ElementsLoad cx element mem values ptr) :
    Reads (loadElements (fun ptr => load cx ptr element) (elemSize mem.ptrType element) ptr
      values.length) values state := by
  induction values generalizing ptr with
  | nil => exact reads_pure _ _
  | cons v rest ih =>
      obtain ⟨here, later⟩ := loads
      rw [List.length_cons, loadElements]
      exact (here state present).bind ((ih later).bind (reads_pure _ _))

theorem elementsAt_of_loads {kind : PrimKind} {ctor : ArrayCtor}
    (handled : arrayCtor kind = some ctor) {values : List Value}
    (present : state.memory = some mem)
    (aligned : alignment mem.ptrType (.prim kind) ∣ ptr)
    (inside : ptr + values.length * elemSize mem.ptrType (.prim kind) ≤ mem.length)
    (loads : ElementsLoad cx (.prim kind) mem values ptr) :
    (elementsAt mem ctor.width ptr values.length).map ctor.read = values := by
  have plain : PlainType (.prim kind) := .prim kind
  have width : ctor.width = elemSize mem.ptrType (.prim kind) := by
    rw [elemSize]
    exact arrayCtor_width handled mem.ptrType
  induction values generalizing ptr with
  | nil => rfl
  | cons v rest ih =>
      obtain ⟨here, later⟩ := loads
      rw [List.length_cons, Nat.succ_mul] at inside
      have loaded := loadPrim_of_loads plain aligned (by omega) rfl here present
      rw [loadPrim_view handled (by omega)] at loaded
      cases loaded
      rw [List.length_cons, elementsAt, List.map_cons, width] at *
      rw [ih ((Nat.dvd_add aligned (plain.soundLayout mem.ptrType).dvd)) (by omega) later]

theorem boolsAt_of_loads {values : List Value} (present : state.memory = some mem)
    (inside : ptr + values.length ≤ mem.length)
    (loads : ElementsLoad cx (.prim .bool) mem values ptr) :
    (mem.bytesAt ptr values.length).map (fun byte => Value.bool (decide (byte ≠ 0))) = values := by
  induction values generalizing ptr with
  | nil => rfl
  | cons v rest ih =>
      obtain ⟨here, later⟩ := loads
      rw [List.length_cons] at inside
      have aligned : alignment mem.ptrType (.prim .bool) ∣ ptr := Nat.one_dvd ptr
      have size : elemSize mem.ptrType (.prim .bool) = 1 := rfl
      have loaded := loadPrim_of_loads (.prim .bool) aligned (by omega) rfl here present
      have byte : loadIntU mem ptr 1 = .ok (mem.byte ptr).toNat := by
        rw [loadIntU_eq (by omega)]
        simp [MemInst.bytesAt, LittleEndian.decode]
      have same : v = .bool (decide (mem.byte ptr ≠ 0)) := by
        simp only [loadPrim, byte] at loaded
        cases loaded
        congr 2
        rw [Ne, Ne, ← UInt8.toNat_inj]
        rfl
      rw [size] at later
      rw [List.length_cons, MemInst.bytesAt, List.map_cons, ih (by omega) later, ← same]

theorem loadListFromValidRange_reads (plain : PlainType element)
    (notBytes : element.primKind ≠ some .u8) {values : List Value}
    (present : state.memory = some mem) (aligned : alignment mem.ptrType element ∣ ptr)
    (small : values.length < 2 ^ 32)
    (inside : ptr + values.length * elemSize mem.ptrType element ≤ mem.length)
    (loads : ElementsLoad cx element mem values ptr) :
    Reads (loadListFromValidRange cx (fun ptr => load cx ptr element) ptr values.length element)
      (.array values) state := by
  obtain ⟨layout, laidOut, _, _, size, _⟩ := plain.layoutOf mem.ptrType
  have loop := loadElements_reads present loads
  rw [← size] at loop
  have boxed : Meets (fun _ => False)
      (do
        let elements ← loadElements (fun ptr => load cx ptr element) layout.size ptr values.length
        pure (Value.array elements))
      (fun result next => result = .array values ∧ next = state) state :=
    reads_iff.mp (loop.bind (reads_pure _ _))
  rw [reads_iff]
  unfold loadListFromValidRange tryLoadNumericList newArray
  simp only [meets_bind, meets_requireMemory present, laidOut, meets_lift, meets_ite,
    Fallible.satisfies_ok, meets_pure, notBytes, false_implies, true_implies, not_false_eq_true,
    true_and, if_pos small]
  by_cases isBool : element.primKind = some .bool
  · have isPrim := primKind_eq isBool
    subst isPrim
    have size : elemSize mem.ptrType (.prim .bool) = 1 := rfl
    have room : ptr + values.length ≤ mem.length := by simpa only [size, Nat.mul_one] using inside
    simp only [isBool, if_true, bytesOf_eq room, Fallible.satisfies_bind, Fallible.satisfies_ok,
      Fallible.satisfies_pure, meets_pure, boolsAt_of_loads present room loads, and_self]
  · rw [if_neg isBool]
    cases handled : element.primKind.bind arrayCtor with
    | none => exact boxed
    | some ctor =>
        obtain ⟨kind, isPrim, ctorOf⟩ := Option.bind_eq_some_iff.mp handled
        have same := primKind_eq isPrim
        subst same
        have room := inside
        rw [elemSize, ← arrayCtor_width ctorOf mem.ptrType] at room
        have bulk := elementsAt_of_loads ctorOf present aligned inside loads
        simp only [viewOf, if_pos room, bulk]
        split
        · exact boxed
        · exact ⟨rfl, rfl⟩

theorem loadBytes_reads {n : Nat} {data : List UInt8} (present : state.memory = some mem)
    (inside : ptr + n ≤ mem.length) (contents : mem.bytesAt ptr n = data)
    (loadElement : Nat → Cx World Value) :
    Reads (loadListFromValidRange cx loadElement ptr n (.prim .u8)) (.bytes data) state := by
  obtain ⟨layout, laidOut, _⟩ := (@ValidType.prim False .u8).layoutOf mem.ptrType
  rw [reads_iff]
  unfold loadListFromValidRange
  simp only [meets_bind, meets_requireMemory present, laidOut, meets_lift, meets_ite,
    Fallible.satisfies_ok, meets_pure, DespecializedValType.primKind, true_implies, not_true,
    false_implies, and_true, bytesOf_eq inside, contents]

end Elements

end Polyengine.Cabi
