import Polyengine.Cabi.StoreProperties

/-!
# The bulk list paths

A list of booleans or numbers is copied as bytes, through a typed array, or one element at a time,
depending on the element kind, the platform and the alignment of the memory's backing buffer. The
three ways leave the same memory and return the same elements.
-/

set_option autoImplicit false

namespace Polyengine.Cabi

open Polyengine.Library Command

/-- The element kinds that some bulk path handles. -/
def PrimKind.Numeric (kind : PrimKind) : Prop :=
  kind = .bool ∨ kind = .u8 ∨ ∃ ctor, arrayCtor kind = some ctor

def elementBytes (kind : PrimKind) (v : Value) : List UInt8 :=
  match kind, v with
  | .bool, v => [if truthy v then 1 else 0]
  | .u8, .number n => [UInt8.ofNat (LittleEndian.wrap 8 n)]
  | kind, v =>
      match arrayCtor kind with
      | some ctor =>
          match ctor.write v with
          | .ok bytes => bytes
          | .error _ => []
      | none => []

variable {World : Type} {cx : LiftLowerContext World} {mem : MemInst} {ptr : Nat} {kind : PrimKind}

section Elements

variable {v : Value}

theorem arrayCtor_write {ctor : ArrayCtor} (handled : arrayCtor kind = some ctor)
    (typed : HasType Limits.none (.prim kind) v) : ctor.write v = .ok (elementBytes kind v) := by
  cases typed with
  | bool b => cases handled
  | number isNumber fits => cases kind <;> cases isNumber <;> cases handled <;> rfl
  | bigint isBigint fits => cases kind <;> cases isBigint <;> cases handled <;> rfl
  | f32 bits => cases handled; rfl
  | f64 bits => cases handled; rfl
  | char c => cases handled
  | string units => cases handled

theorem byteElement_eq (typed : HasType Limits.none (.prim .u8) v) :
    byteElement v = .ok (elementBytes .u8 v) := by
  cases typed with
  | number isNumber fits => rfl
  | bigint isBigint fits => cases isBigint

theorem length_elementBytes (numeric : kind.Numeric) (typed : HasType Limits.none (.prim kind) v)
    (ptrType : PtrType) : (elementBytes kind v).length = elemSize ptrType (.prim kind) := by
  rw [elemSize]
  cases typed with
  | bool b => rfl
  | number isNumber fits => cases kind <;> cases isNumber <;> rfl
  | bigint isBigint fits => cases kind <;> cases isBigint <;> rfl
  | f32 bits => rfl
  | f64 bits => rfl
  | char c =>
      obtain isBool | isByte | ⟨ctor, handled⟩ := numeric
      · cases isBool
      · cases isByte
      · cases handled
  | string units =>
      obtain isBool | isByte | ⟨ctor, handled⟩ := numeric
      · cases isBool
      · cases isByte
      · cases handled

end Elements

section Stores

/-- The command succeeds and replaces the bytes at a pointer. -/
def Stores (command : Cx World Unit) (bytes : List UInt8) (mem : MemInst) (ptr : Nat) : Prop :=
  ∀ state : CxState World, state.memory = some mem →
    command.outcome state = (.ok (), { state with memory := some (mem.setBytes ptr bytes) })

theorem stores_iff {command : Cx World Unit} {bytes : List UInt8} :
    Stores command bytes mem ptr ↔ ∀ state : CxState World, state.memory = some mem →
      Meets (fun _ => False) command
        (fun _ next => next = { state with memory := some (mem.setBytes ptr bytes) }) state := by
  apply forall₂_congr
  intro state present
  unfold Meets Ensures
  cases command.outcome state with
  | mk result next => cases result <;> simp

variable (cx ptr) in
theorem storePrim_number {width : Nat} {signed : Bool} {n : Int}
    (isNumber : numberKind kind = some (width, signed)) :
    (width = 1 ∨ width = 2 ∨ width = 4) ∧ primSize mem.ptrType kind = width ∧
      storePrim cx (.number n) ptr kind =
        modifyMemory (fun mem => storeInt mem (.number n) ptr width signed) ∧
      elementBytes kind (.number n) =
        LittleEndian.encode width (LittleEndian.wrap (8 * width) n) := by
  cases kind <;> cases isNumber <;> exact ⟨by decide, rfl, rfl, rfl⟩

variable (cx ptr) in
theorem storePrim_bigint {signed : Bool} {n : Int} (isBigint : bigintKind kind = some signed) :
    primSize mem.ptrType kind = 8 ∧
      storePrim cx (.bigint n) ptr kind =
        modifyMemory (fun mem => storeInt mem (.bigint n) ptr 8 signed) ∧
      elementBytes kind (.bigint n) = LittleEndian.encode 8 (LittleEndian.wrap 64 n) := by
  cases kind <;> cases isBigint <;> exact ⟨rfl, rfl, rfl⟩

variable (cx) in
theorem storePrim_stores {v : Value} (numeric : kind.Numeric)
    (typed : HasType Limits.none (.prim kind) v)
    (inside : ptr + elemSize mem.ptrType (.prim kind) ≤ mem.length) :
    Stores (storePrim cx v ptr kind) (elementBytes kind v) mem ptr := by
  rw [stores_iff]
  intro state present
  cases typed with
  | bool b =>
      have fits : fitsInWidth (if truthy (.bool b) then 1 else 0) 1 false := by
        cases b <;> decide
      rw [storePrim, meets_modifyMemory present, storeInt_number (.inl rfl) inside fits]
      cases b <;> rfl
  | number isNumber fits =>
      obtain ⟨width, size, stored, bytes⟩ := storePrim_number cx ptr isNumber
      rw [elemSize, size] at inside
      rw [stored, meets_modifyMemory present, storeInt_number width inside fits, bytes]
      rfl
  | bigint isBigint fits =>
      obtain ⟨size, stored, bytes⟩ := storePrim_bigint cx ptr isBigint
      rw [elemSize, size] at inside
      rw [stored, meets_modifyMemory present, storeInt_bigint inside fits, bytes]
      rfl
  | f32 bits =>
      have fits : fitsInWidth (encodeFloatAsI32 bits) 4 false := by
        have small := encodeFloatAsI32_lt bits
        simp only [fitsInWidth, Bool.false_eq_true, if_false]
        omega
      have wrapped : LittleEndian.wrap (8 * 4) (encodeFloatAsI32 bits) = encodeFloatAsI32 bits :=
        LittleEndian.wrap_of_nat (encodeFloatAsI32_lt bits)
      simp only [storePrim]
      rw [meets_modifyMemory present, storeInt_number (.inr (.inr rfl)) inside fits, wrapped]
      rfl
  | f64 bits =>
      have fits : fitsInWidth (encodeFloatAsI64 bits) 8 false := by
        have small := encodeFloatAsI64_lt bits
        simp only [fitsInWidth, Bool.false_eq_true, if_false]
        omega
      have wrapped : LittleEndian.wrap 64 (encodeFloatAsI64 bits) = encodeFloatAsI64 bits :=
        LittleEndian.wrap_of_nat (encodeFloatAsI64_lt bits)
      simp only [storePrim]
      rw [meets_modifyMemory present, storeInt_bigint inside fits, wrapped]
      rfl
  | char c =>
      obtain isBool | isByte | ⟨ctor, handled⟩ := numeric
      · cases isBool
      · cases isByte
      · cases handled
  | string units =>
      obtain isBool | isByte | ⟨ctor, handled⟩ := numeric
      · cases isBool
      · cases isByte
      · cases handled

variable (cx) in
theorem store_stores {v : Value} (numeric : kind.Numeric)
    (typed : HasType Limits.none (.prim kind) v)
    (aligned : alignment mem.ptrType (.prim kind) ∣ ptr)
    (inside : ptr + elemSize mem.ptrType (.prim kind) ≤ mem.length) :
    Stores (store cx v ptr (.prim kind)) (elementBytes kind v) mem ptr := by
  have plain : PlainType (.prim kind) := .prim kind
  obtain ⟨layout, laidOut, _, align, size, _⟩ := plain.layoutOf mem.ptrType
  have stored := stores_iff.mp (storePrim_stores cx numeric typed inside)
  rw [stores_iff]
  intro state present
  rw [store]
  simp only [meets_bind, meets_requireMemory present, laidOut, meets_lift, Command.meets_assert,
    Fallible.satisfies_ok, align, size, Nat.mod_eq_zero_of_dvd aligned, inside, not_true,
    false_implies, true_implies, true_and]
  exact stored state present

theorem setBytes_append (mem : MemInst) (ptr : Nat) (first second : List UInt8) :
    (mem.setBytes ptr first).setBytes (ptr + first.length) second =
      mem.setBytes ptr (first ++ second) := by
  unfold MemInst.setBytes
  simp only [MemInst.mk.injEq, true_and, and_true]
  funext a
  rw [List.length_append]
  by_cases inSecond : ptr + first.length ≤ a ∧ a < ptr + first.length + second.length
  · have inBoth : ptr ≤ a ∧ a < ptr + (first.length + second.length) := by omega
    have index : a - ptr - first.length = a - (ptr + first.length) := by omega
    rw [if_pos inSecond, if_pos inBoth, List.getD_append_right _ _ _ _ (by omega), index]
  · rw [if_neg inSecond]
    by_cases inFirst : ptr ≤ a ∧ a < ptr + first.length
    · have inBoth : ptr ≤ a ∧ a < ptr + (first.length + second.length) := by omega
      rw [if_pos inFirst, if_pos inBoth, List.getD_append _ _ _ _ (by omega)]
    · have outside : ¬(ptr ≤ a ∧ a < ptr + (first.length + second.length)) := by omega
      rw [if_neg inFirst, if_neg outside]

structure NumericList (kind : PrimKind) (elements : List Value) : Prop where
  numeric : kind.Numeric
  typed : ∀ v ∈ elements, HasType Limits.none (.prim kind) v

namespace NumericList

variable {elements rest : List Value} {v : Value}

theorem head (list : NumericList kind (v :: rest)) : HasType Limits.none (.prim kind) v :=
  list.typed v (List.mem_cons_self ..)

theorem tail (list : NumericList kind (v :: rest)) : NumericList kind rest where
  numeric := list.numeric
  typed := fun other member => list.typed other (List.mem_cons_of_mem _ member)

theorem length_flatMap (list : NumericList kind elements) (ptrType : PtrType) :
    (elements.flatMap (elementBytes kind)).length =
      elements.length * elemSize ptrType (.prim kind) := by
  induction elements with
  | nil => simp
  | cons v rest ih =>
      rw [List.flatMap_cons, List.length_append, ih list.tail, List.length_cons, Nat.succ_mul,
        length_elementBytes list.numeric list.head ptrType, Nat.add_comm]

end NumericList

variable (cx) in
theorem storeElements_stores {elements : List Value} (list : NumericList kind elements)
    (aligned : alignment mem.ptrType (.prim kind) ∣ ptr)
    (inside : ptr + elements.length * elemSize mem.ptrType (.prim kind) ≤ mem.length) :
    Stores (storeElements (fun v ptr => store cx v ptr (.prim kind))
      (elemSize mem.ptrType (.prim kind)) elements ptr)
      (elements.flatMap (elementBytes kind)) mem ptr := by
  have plain : PlainType (.prim kind) := .prim kind
  induction elements generalizing mem ptr with
  | nil =>
      intro state present
      have same : mem.setBytes ptr [] = mem := by
        have empty : ∀ a, ¬(ptr ≤ a ∧ a < ptr + 0) := by omega
        simp only [MemInst.setBytes, List.length_nil, empty, if_false]
      rw [List.flatMap_nil, same, ← present]
      rfl
  | cons v rest ih =>
      intro state present
      rw [List.length_cons, Nat.succ_mul] at inside
      have size := length_elementBytes list.numeric list.head mem.ptrType
      have shape : (mem.setBytes ptr (elementBytes kind v)).ptrType = mem.ptrType := rfl
      have here := store_stores cx list.numeric list.head aligned (by omega) state present
      have tail : Stores (storeElements (fun v ptr => store cx v ptr (.prim kind))
          (elemSize mem.ptrType (.prim kind)) rest (ptr + elemSize mem.ptrType (.prim kind)))
          (rest.flatMap (elementBytes kind)) (mem.setBytes ptr (elementBytes kind v))
          (ptr + elemSize mem.ptrType (.prim kind)) :=
        ih list.tail (Nat.dvd_add aligned (plain.soundLayout mem.ptrType).dvd)
          (by rw [MemInst.setBytes_length, shape]; omega)
      have later := tail { state with memory := some (mem.setBytes ptr (elementBytes kind v)) } rfl
      rw [← size, setBytes_append] at later
      rw [storeElements, outcome_bind, here, List.flatMap_cons, ← size]
      exact later

theorem concatBytes_eq {convert : Value → Except Failure (List UInt8)} {elements : List Value}
    (converts : ∀ v ∈ elements, convert v = .ok (elementBytes kind v)) :
    concatBytes convert elements = .ok (elements.flatMap (elementBytes kind)) := by
  induction elements with
  | nil => rfl
  | cons v rest ih =>
      have here := converts v (List.mem_cons_self ..)
      have later := ih fun other member => converts other (List.mem_cons_of_mem _ member)
      rw [concatBytes, here, later]
      rfl

section Lists

variable {elements : List Value}

variable (cx) in
theorem tryStoreNumericList_stores (list : NumericList kind elements) (notBytes : kind ≠ .u8)
    (inside : ptr + elements.length * elemSize mem.ptrType (.prim kind) ≤ mem.length)
    {state : CxState World} (present : state.memory = some mem) :
    Meets (fun _ => False) (tryStoreNumericList cx elements ptr (some kind))
      (fun accepted next =>
        if accepted then
          next = { state with
            memory := some (mem.setBytes ptr (elements.flatMap (elementBytes kind))) }
        else next = state) state := by
  have written : mem.write ptr (elements.flatMap (elementBytes kind)) =
      .ok (mem.setBytes ptr (elements.flatMap (elementBytes kind))) := by
    rw [MemInst.write, list.length_flatMap mem.ptrType, if_pos inside]
  obtain rfl | rfl | ⟨ctor, handled⟩ := list.numeric
  · have bytes : (elements.map fun v => if truthy v then (1 : UInt8) else 0) =
        elements.flatMap (elementBytes .bool) := List.map_eq_flatMap
    have room : ptr + elements.length ≤ mem.length := by
      rwa [show elemSize mem.ptrType (.prim .bool) = 1 from rfl, Nat.mul_one] at inside
    simp only [tryStoreNumericList, meets_bind, meets_requireMemory present, meets_lift,
      bytesOf_eq room, Fallible.satisfies_ok, meets_modifyMemory present, bytes, written,
      meets_pure, if_true]
  · exact absurd rfl notBytes
  · have isNumber : some kind ≠ some .bool := by
      rintro isBool
      cases isBool
      cases handled
    have encoded : concatBytes ctor.write elements = .ok (elements.flatMap (elementBytes kind)) :=
      concatBytes_eq fun v member => arrayCtor_write handled (list.typed v member)
    have room := inside
    rw [elemSize, ← arrayCtor_width handled mem.ptrType] at room
    simp only [tryStoreNumericList, meets_bind, meets_requireMemory present, meets_ite, meets_lift,
      isNumber, Option.bind_some, handled, viewOf, if_pos room]
    split
    · simp
    · simp [encoded, meets_modifyMemory present, written]

variable (cx) in
theorem storeListIntoValidRange_stores {v : Value} (isList : arrayLike v = .ok elements)
    (list : NumericList kind elements) (aligned : alignment mem.ptrType (.prim kind) ∣ ptr)
    (inside : ptr + elements.length * elemSize mem.ptrType (.prim kind) ≤ mem.length) :
    Stores (storeListIntoValidRange cx (fun v ptr => store cx v ptr (.prim kind)) v ptr
      (.prim kind)) (elements.flatMap (elementBytes kind)) mem ptr := by
  have plain : PlainType (.prim kind) := .prim kind
  obtain ⟨layout, laidOut, _, _, size, _⟩ := plain.layoutOf mem.ptrType
  have loop := stores_iff.mp (storeElements_stores cx list aligned inside)
  rw [stores_iff]
  intro state present
  simp only [storeListIntoValidRange, meets_bind, meets_requireMemory present, laidOut, meets_lift,
    Fallible.satisfies_ok, isList, DespecializedValType.primKind]
  apply (meets_ite _ _ _ _ _).mpr
  constructor
  · intro isByte
    cases isByte
    have room : ptr + elements.length ≤ mem.length := by
      rwa [show elemSize mem.ptrType (.prim .u8) = 1 from rfl, Nat.mul_one] at inside
    have encoded : concatBytes byteElement elements = .ok (elements.flatMap (elementBytes .u8)) :=
      concatBytes_eq fun v member => byteElement_eq (list.typed v member)
    have written : mem.write ptr (elements.flatMap (elementBytes .u8)) =
        .ok (mem.setBytes ptr (elements.flatMap (elementBytes .u8))) := by
      rw [MemInst.write, list.length_flatMap mem.ptrType, if_pos inside]
    simp only [meets_bind, meets_lift, bytesOf_eq room, Fallible.satisfies_ok, encoded,
      meets_modifyMemory present, written]
  · intro notBytes
    have bulk := tryStoreNumericList_stores cx list
      (fun isByte => notBytes (congrArg some isByte)) inside present
    rw [meets_bind]
    apply bulk.imp
    intro accepted next outcome
    cases accepted with
    | true => exact outcome
    | false =>
        -- The bulk copy was declined and left the memory alone.
        have same : next = state := outcome
        subst same
        rw [size]
        exact loop next present

end Lists

end Stores

section Loads

theorem exists_elementsLoad (cx : LiftLowerContext World) (numeric : kind.Numeric) {length : Nat}
    (aligned : alignment mem.ptrType (.prim kind) ∣ ptr)
    (inside : ptr + length * elemSize mem.ptrType (.prim kind) ≤ mem.length) :
    ∃ values : List Value,
      values.length = length ∧ ElementsLoad cx (.prim kind) mem values ptr := by
  have plain : PlainType (.prim kind) := .prim kind
  induction length generalizing ptr with
  | zero => exact ⟨[], rfl, trivial⟩
  | succ length ih =>
      rw [Nat.succ_mul] at inside
      obtain ⟨rest, count, later⟩ := ih
        (Nat.dvd_add aligned (plain.soundLayout mem.ptrType).dvd) (by omega)
      have here : ∃ v, loadPrim cx mem ptr kind = .ok v := by
        obtain rfl | rfl | ⟨ctor, handled⟩ := numeric
        · have room : ptr + 1 ≤ mem.length :=
            Nat.le_trans (Nat.add_le_add_left (Nat.le_add_left ..) _) inside
          simp only [loadPrim, loadIntU_eq room]
          exact ⟨_, rfl⟩
        · have room : ptr + 1 ≤ mem.length :=
            Nat.le_trans (Nat.add_le_add_left (Nat.le_add_left ..) _) inside
          simp only [loadPrim, loadIntU_eq room]
          exact ⟨_, rfl⟩
        · have width := arrayCtor_width handled mem.ptrType
          rw [elemSize] at inside
          exact ⟨_, loadPrim_view handled (by omega)⟩
      obtain ⟨v, loaded⟩ := here
      exact ⟨v :: rest, congrArg (· + 1) count,
        loads_prim plain aligned (by omega) rfl loaded, later⟩

theorem bytes_of_loads {values : List Value}
    (inside : ptr + values.length ≤ mem.length)
    (loads : ElementsLoad cx (.prim .u8) mem values ptr) {state : CxState World}
    (present : state.memory = some mem) :
    (mem.bytesAt ptr values.length).map (fun byte => Value.number byte.toNat) = values := by
  induction values generalizing ptr with
  | nil => rfl
  | cons v rest ih =>
      obtain ⟨here, later⟩ := loads
      rw [List.length_cons] at inside
      have size : elemSize mem.ptrType (.prim .u8) = 1 := rfl
      have loaded := loadPrim_of_loads (.prim .u8) (Nat.one_dvd ptr) (by omega) rfl here present
      have byte : loadIntU mem ptr 1 = .ok (mem.byte ptr).toNat := by
        rw [loadIntU_eq (by omega)]
        simp [MemInst.bytesAt, LittleEndian.decode]
      have same : v = .number (mem.byte ptr).toNat := by
        simp only [loadPrim, byte] at loaded
        cases loaded
        rfl
      rw [size] at later
      rw [List.length_cons, MemInst.bytesAt, List.map_cons, ih (by omega) later, ← same]

theorem loadListFromValidRange_numeric {values : List Value} {state : CxState World}
    (present : state.memory = some mem) (aligned : alignment mem.ptrType (.prim kind) ∣ ptr)
    (small : values.length < 2 ^ 32)
    (inside : ptr + values.length * elemSize mem.ptrType (.prim kind) ≤ mem.length)
    (loads : ElementsLoad cx (.prim kind) mem values ptr) :
    ∃ v, Reads (loadListFromValidRange cx (fun ptr => load cx ptr (.prim kind)) ptr values.length
        (.prim kind)) v state ∧ arrayLike v = .ok values := by
  have plain : PlainType (.prim kind) := .prim kind
  by_cases isByte : kind = .u8
  · subst isByte
    have room : ptr + values.length ≤ mem.length := by
      rwa [show elemSize mem.ptrType (.prim .u8) = 1 from rfl, Nat.mul_one] at inside
    exact ⟨_, loadBytes_reads present room rfl _, congrArg _ (bytes_of_loads room loads present)⟩
  · have notBytes : (DespecializedValType.prim kind).primKind ≠ some .u8 := by
      intro isByte'
      exact isByte (Option.some.inj isByte')
    exact ⟨_, loadListFromValidRange_reads plain notBytes present aligned small inside loads, rfl⟩

end Loads

section Loops

theorem storeElements_eq_forM (storeElement : Value → Nat → Cx World Unit) (size ptr start : Nat)
    (elements : List Value) :
    storeElements storeElement size elements (ptr + start * size) =
      (elements.zipIdx start).forM fun (v, i) => storeElement v (ptr + i * size) := by
  induction elements generalizing start with
  | nil => rfl
  | cons v rest ih =>
      rw [storeElements, Nat.add_assoc, ← Nat.succ_mul, ih, List.zipIdx_cons]
      rfl

theorem loadElements_eq_mapM (loadElement : Nat → Cx World Value) (size ptr start length : Nat) :
    loadElements loadElement size (ptr + start * size) length =
      (List.range' start length).mapM fun i => loadElement (ptr + i * size) := by
  induction length generalizing start with
  | zero => rfl
  | succ length ih =>
      rw [loadElements, Nat.add_assoc, ← Nat.succ_mul, ih, List.range'_succ, List.mapM_cons]

end Loops

/-- The bulk paths agree with the element loop, whatever view of the memory exists: storing leaves
the memory that storing each element at its place leaves, in which nothing outside the list has
changed, and loading returns the elements that loading each of them returns. An array holds fewer
than 2^32 elements. -/
theorem bulkLists_agree (cx : LiftLowerContext World) (numeric : kind.Numeric)
    (state : CxState World) (present : state.memory = some mem)
    (aligned : alignment mem.ptrType (.prim kind) ∣ ptr) :
    (∀ (v : Value) (elements : List Value), arrayLike v = .ok elements →
      (∀ element ∈ elements, HasType Limits.none (.prim kind) element) →
      ptr + elements.length * elemSize mem.ptrType (.prim kind) ≤ mem.length →
      ∃ mem' : MemInst,
        (storeListIntoValidRange cx (fun v ptr => store cx v ptr (.prim kind)) v ptr
            (.prim kind)).outcome state =
          (.ok (), { state with memory := some mem' }) ∧
        Command.outcome (elements.zipIdx.forM fun (element, i) =>
            store cx element (ptr + i * elemSize mem.ptrType (.prim kind)) (.prim kind)) state =
          (.ok (), { state with memory := some mem' }) ∧
        mem'.length = mem.length ∧
        ∀ a, ¬(ptr ≤ a ∧ a < ptr + elements.length * elemSize mem.ptrType (.prim kind)) →
          mem'.byte a = mem.byte a) ∧
    (∀ length, length < 2 ^ 32 →
      ptr + length * elemSize mem.ptrType (.prim kind) ≤ mem.length →
      ∃ (v : Value) (elements : List Value),
        Reads (loadListFromValidRange cx (fun ptr => load cx ptr (.prim kind)) ptr length
          (.prim kind)) v state ∧
        Reads ((List.range' 0 length).mapM fun i =>
          load cx (ptr + i * elemSize mem.ptrType (.prim kind)) (.prim kind)) elements state ∧
        arrayLike v = .ok elements) := by
  constructor
  · intro v elements isList typed inside
    have list : NumericList kind elements := ⟨numeric, typed⟩
    have bulk := storeListIntoValidRange_stores cx isList list aligned inside state present
    have loop := storeElements_stores cx list aligned inside state present
    have positions := storeElements_eq_forM (fun v ptr => store cx v ptr (.prim kind))
      (elemSize mem.ptrType (.prim kind)) ptr 0 elements
    rw [Nat.zero_mul, Nat.add_zero] at positions
    rw [positions] at loop
    refine ⟨mem.setBytes ptr (elements.flatMap (elementBytes kind)), bulk, loop, rfl, ?_⟩
    intro a outside
    rw [← list.length_flatMap mem.ptrType] at outside
    exact MemInst.setBytes_outside mem ptr _ outside
  · intro length small inside
    obtain ⟨values, count, loads⟩ := exists_elementsLoad cx numeric aligned inside
    subst count
    obtain ⟨v, bulk, isList⟩ := loadListFromValidRange_numeric present aligned small inside loads
    have loop := loadElements_reads present loads
    have positions := loadElements_eq_mapM (fun ptr => load cx ptr (.prim kind))
      (elemSize mem.ptrType (.prim kind)) ptr 0 values.length
    rw [Nat.zero_mul, Nat.add_zero] at positions
    rw [positions] at loop
    exact ⟨v, values, bulk, loop, isList⟩

/-- A list of `u16` in a memory whose backing buffer is misaligned. -/
theorem bulkLists_agree_misaligned :
    let mem : MemInst := ⟨8, fun _ => 0, .i32⟩
    let cx : LiftLowerContext Unit :=
      ⟨.utf8, none, false, none, fun _ _ => pure .null, fun _ _ => pure 0, true, 1⟩
    ∃ mem' : MemInst,
      (storeListIntoValidRange cx (fun v ptr => store cx v ptr (.prim .u16))
          (.array [.number 1, .number 65535]) 2 (.prim .u16)).outcome ⟨some mem, true, ()⟩ =
        (.ok (), ⟨some mem', true, ()⟩) ∧
      ∀ a, ¬(2 ≤ a ∧ a < 6) → mem'.byte a = 0 := by
  intro mem cx
  have agree := (@bulkLists_agree Unit mem 2 .u16 cx
    (.inr (.inr ⟨_, rfl⟩)) ⟨some mem, true, ()⟩ rfl ⟨1, rfl⟩).1
    (.array [.number 1, .number 65535]) _ rfl
    (by
      intro element member
      have range : ∀ n : Int, element = .number n → 0 ≤ n ∧ n < 65536 →
          HasType Limits.none (.prim .u16) element := by
        rintro n rfl fits
        exact .number rfl fits
      simp only [List.mem_cons, List.not_mem_nil, or_false] at member
      obtain isFirst | isSecond := member
      · exact range 1 isFirst (by decide)
      · exact range 65535 isSecond (by decide))
    (by decide)
  obtain ⟨mem', bulk, _, _, outside⟩ := agree
  exact ⟨mem', bulk, outside⟩

end Polyengine.Cabi
