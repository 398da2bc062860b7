import Polyengine.Cabi.Handles
import Polyengine.Cabi.Values
import Polyengine.Library.Emission

/-!
# The law of lowering

The leaves of a value in the order of its type, and what lowering a value relies on to emit them:
writes and allocations are silent, and a handle emits its own leaves.
-/

set_option autoImplicit false

namespace Polyengine.Cabi

open Polyengine.Library Command

/-- The messages with which the lanes of a signature and the values lowered into them disagree. -/
def laneMessages : List String :=
  "lane mismatch" :: [CoreType.i32, .i64, .f32, .f64].flatMap fun held =>
    [expectedLane held, s!"lane mismatch undefined -> {held.name}"] ++
      [CoreType.i32, .i64, .f32, .f64].map (laneMismatch held)

def OffLanes (failure : Failure) : Prop :=
  ∀ message, failure = .assertion message → message ∉ laneMessages

theorem OffLanes.assertion {message : String} (absent : message ∉ laneMessages) :
    OffLanes (.assertion message) := by
  intro other same
  cases same
  exact absent

theorem OffLanes.trap (message : String) : OffLanes (.trap message) := by
  intro other same
  cases same

theorem OffLanes.rangeError (message : String) : OffLanes (.rangeError message) := by
  intro other same
  cases same

theorem OffLanes.thrown (value : String) : OffLanes (.thrown value) := by
  intro other same
  cases same

theorem OffLanes.of_isTrap {failure : Failure} (trapped : failure.IsTrap) : OffLanes failure := by
  cases failure with
  | trap message => exact .trap message
  | _ => cases trapped

theorem OffLanes.caseNotFound (label : String) : OffLanes (.assertion (caseNotFound label)) := by
  apply OffLanes.assertion
  intro member
  have first : (Cabi.caseNotFound label).toList.head? = some 'v' := by
    have text : Cabi.caseNotFound label = "variant case '" ++ label ++ "' not found" := rfl
    simp [text, String.toList_append]
  have other : ∀ message ∈ laneMessages, message.toList.head? ≠ some 'v' := by decide
  exact other _ member first

/-- Two memories that differ in their bytes alone. -/
def SameShape (mem mem' : MemInst) : Prop :=
  mem'.length = mem.length ∧ mem'.addrType = mem.addrType

namespace SameShape

variable {mem mem' : MemInst}

theorem refl (mem : MemInst) : SameShape mem mem := ⟨rfl, rfl⟩

theorem setByte (shape : SameShape mem mem') (ptr : Nat) (byte : UInt8) :
    SameShape mem (mem'.setByte ptr byte) := by
  constructor
  · rw [MemInst.setByte_length]
    exact shape.1
  · rw [MemInst.setByte_addrType]
    exact shape.2

theorem write (mem : MemInst) (ptr : Nat) (bytes : List UInt8) :
    Fallible.Satisfies OffLanes (mem.write ptr bytes) (SameShape mem) := by
  rw [MemInst.write, Fallible.satisfies_ite]
  constructor
  · intro _
    exact ⟨rfl, rfl⟩
  · intro _
    exact .rangeError _

theorem writeBytes (mem : MemInst) (ptr : Nat) (bytes : List UInt8) :
    Fallible.Satisfies OffLanes (writeBytes mem ptr bytes) (SameShape mem) := by
  rw [Cabi.writeBytes]
  simp only [Fallible.satisfies_bind, satisfies_assert]
  constructor
  · intro _
    exact .assertion (by decide)
  · intro _
    exact write mem ptr bytes

theorem storeInt (mem : MemInst) (v : Value) (ptr nbytes : Nat) (signed : Bool) :
    Fallible.Satisfies OffLanes (storeInt mem v ptr nbytes signed) (SameShape mem) := by
  rw [Cabi.storeInt]
  simp only [Fallible.satisfies_bind, satisfies_assert]
  constructor
  · intro _
    exact .assertion (by decide)
  · intro _
    have stored : ∀ n : Int, Fallible.Satisfies OffLanes (do
        let n ← (pure n : Except Failure Int)
        assert_ (fitsInWidth n nbytes signed) "int store: value out of range"
        mem.write ptr (LittleEndian.encode nbytes (LittleEndian.wrap (8 * nbytes) n)))
        (SameShape mem) := by
      intro n
      simp only [Fallible.satisfies_bind, Fallible.satisfies_pure, satisfies_assert]
      constructor
      · intro _
        exact .assertion (by decide)
      · intro _
        exact write mem ptr _
    split
    · exact stored _
    · exact .assertion (by decide)
    · exact stored _
    · exact .assertion (by decide)

theorem widen (ptr n : Nat) (shape : SameShape mem mem') : SameShape mem (widen ptr n mem') := by
  induction n generalizing mem' with
  | zero => exact shape
  | succ n ih => exact ih ((shape.setByte _ _).setByte _ _)

end SameShape

section Leaves

variable {Item : Type} (leaf : DespecializedValType → Value → List Item)

mutual

def leavesOf : DespecializedValType → Value → List Item
  | .list element _, v =>
      match arrayLike v with
      | .ok elements => elements.flatMap (leavesOf element)
      | .error _ => []
  | .record fields, v => leavesOfFields fields v
  | .variant cases, .variant kind value => leavesOfCase cases kind value
  | .own rt, v => leaf (.own rt) v
  | .borrow rt, v => leaf (.borrow rt) v
  | .stream element, v => leaf (.stream element) v
  | .future element, v => leaf (.future element) v
  | .errorContext, v => leaf .errorContext v
  | _, _ => []

def leavesOfFields : List DespecializedFieldType → Value → List Item
  | [], _ => []
  | ⟨label, type⟩ :: rest, v =>
      (match propertyOf v label with
        | .ok value => leavesOf type value
        | .error _ => []) ++ leavesOfFields rest v

def leavesOfCase : List DespecializedCaseType → String → Value → List Item
  | [], _, _ => []
  | ⟨label, some type⟩ :: rest, kind, value =>
      if label == kind then leavesOf type value else leavesOfCase rest kind value
  | ⟨label, none⟩ :: rest, kind, value =>
      if label == kind then [] else leavesOfCase rest kind value

end

theorem leavesOf_handle {d : DespecializedValType} (isHandle : d.isHandle = true) (v : Value) :
    leavesOf leaf d v = leaf d v := by
  cases d with
  | errorContext | own | borrow | stream | future => rw [leavesOf]
  | _ => cases isHandle

theorem leavesOf_list {element : DespecializedValType} {v : Value} {elements : List Value}
    (listed : arrayLike v = .ok elements) (length : Option Nat) :
    leavesOf leaf (.list element length) v = elements.flatMap (leavesOf leaf element) := by
  rw [leavesOf, listed]

theorem leavesOf_prim (kind : PrimKind) (v : Value) : leavesOf leaf (.prim kind) v = [] := by
  cases v <;> rw [leavesOf] <;> simp

end Leaves

variable {World Item : Type} {cx : LiftLowerContext World} {ledger : Ledger (CxState World) Item}
  {permitted : Failure → Prop} {leaf : DespecializedValType → Value → List Item}
  {ptrType : PtrType}

/-- What lowering relies on: memory writes are silent, the guest's `realloc` is silent and returns
a 32-bit address, and lowering a handle emits its leaves and returns an index. -/
structure LowerLaw (cx : LiftLowerContext World) (ledger : Ledger (CxState World) Item)
    (permitted : Failure → Prop) (leaf : DespecializedValType → Value → List Item)
    (ptrType : PtrType) : Prop where
  own : ∀ failure, OffLanes failure → permitted failure
  ptrType : ∀ state, ledger.holds state → lanePtrType state.memory = ptrType
  write : ∀ (state : CxState World) (mem mem' : MemInst), ledger.holds state →
    state.memory = some mem → SameShape mem mem' →
    ledger.holds { state with memory := some mem' } ∧
      ledger.records [] state { state with memory := some mem' }
  reallocate : ∀ old oldByteLength alignment newByteLength, ledger.Emits permitted []
    (cx.reallocate old oldByteLength alignment newByteLength) fun ptr => ptr < 2 ^ 32
  handle : ∀ (d : DespecializedValType) (v : Value), d.isHandle = true →
    ledger.Emits permitted (leaf d v) (cx.lowerHandle d v) fun i =>
      HasType .none d v → i < 2 ^ 32

/-- A number that fits a pointer lane. -/
def InPtr (ptrType : PtrType) (n : Nat) : Prop := n < 2 ^ (8 * Cabi.ptrSize ptrType)

theorem InPtr.of_lt {ptrType : PtrType} {n : Nat} (small : n < 2 ^ 32) : InPtr ptrType n := by
  unfold InPtr
  cases ptrType with
  | i32 => exact small
  | i64 =>
      have larger : (2 : Nat) ^ 32 ≤ 2 ^ (8 * Cabi.ptrSize .i64) := by decide
      omega

namespace LowerLaw

variable (law : LowerLaw cx ledger permitted leaf ptrType)

include law

theorem asserts {message : String} (absent : message ∉ laneMessages) :
    permitted (.assertion message) := law.own _ (.assertion absent)

theorem traps (message : String) : permitted (.trap message) := law.own _ (.trap message)

theorem assert_ {condition : Prop} [Decidable condition] {message : String}
    (absent : message ∉ laneMessages) :
    ledger.Emits permitted [] (Cabi.assert_ condition message : Cx World Unit)
      fun _ => condition := by
  rw [Cabi.assert_]
  apply Ledger.Emits.ite
  · intro holds
    exact .pure holds
  · intro _
    exact .throw (law.asserts absent) []

theorem trapIf {condition : Prop} [Decidable condition] {message : String} :
    ledger.Emits permitted [] (Cabi.trapIf condition message : Cx World Unit)
      fun _ => ¬condition := by
  rw [Cabi.trapIf]
  apply Ledger.Emits.ite
  · intro _
    exact .throw (law.traps message) []
  · intro fails
    exact .pure fails

theorem requireMemory :
    ledger.Emits permitted [] (Cabi.requireMemory : Cx World MemInst) fun mem =>
      mem.addrType = ptrType := by
  rw [Cabi.requireMemory]
  apply Ledger.Emits.get.after
  intro state running
  have width := law.ptrType state running
  cases present : state.memory with
  | none => exact .throw (law.asserts (by decide)) []
  | some mem =>
      rw [present] at width
      exact .pure width

theorem lift {Result : Type} {computation : Except Failure Result} {post : Result → Prop}
    (satisfies : Fallible.Satisfies OffLanes computation post) :
    ledger.Emits permitted [] (liftM computation : Cx World Result) post :=
  .lift (satisfies.mono law.own fun _ established => established)

theorem modifyMemory {change : MemInst → Except Failure MemInst}
    (changes : ∀ mem, Fallible.Satisfies OffLanes (change mem) (SameShape mem)) :
    ledger.Emits permitted [] (Cabi.modifyMemory change : Cx World Unit) fun _ => True := by
  intro state running
  cases present : state.memory with
  | none =>
      simp only [Cabi.modifyMemory, Cabi.requireMemory, ensures_bind, ensures_get, present,
        ensures_throw]
      exact ⟨law.asserts (by decide), [], List.nil_prefix, ledger.refl state⟩
  | some mem =>
      simp only [Cabi.modifyMemory, Cabi.requireMemory, ensures_bind, ensures_get, present,
        ensures_pure, ensures_lift, ensures_modify]
      refine (changes mem).mono ?_ ?_
      · intro failure allowed
        exact ⟨law.own failure allowed, [], List.nil_prefix, ledger.refl state⟩
      · intro mem' shape
        obtain ⟨running', recorded⟩ := law.write state mem mem' running present shape
        exact ⟨trivial, running', recorded⟩

theorem allocated {old oldByteLength alignment newByteLength : Nat} :
    ledger.Emits permitted [] (cx.reallocate old oldByteLength alignment newByteLength)
      fun ptr => ptr < 2 ^ 32 :=
  law.reallocate old oldByteLength alignment newByteLength

theorem checkBlock (ptr alignment byteLength : Nat) :
    ledger.Emits permitted [] (Cabi.checkBlock ptr alignment byteLength : Cx World Unit)
      fun _ => True := by
  rw [Cabi.checkBlock]
  refine law.requireMemory.after ?_
  intro mem _
  refine law.trapIf.after ?_
  intro _ _
  exact law.trapIf.imp fun _ _ => trivial

end LowerLaw

section Conversions

theorem illTyped_offLanes : OffLanes illTyped := .assertion (by decide)

theorem asString_offLanes (v : Value) : Fallible.Satisfies OffLanes (asString v) fun _ => True := by
  cases v with
  | string units => trivial
  | _ => exact illTyped_offLanes

theorem arrayLike_offLanes (v : Value) :
    Fallible.Satisfies OffLanes (arrayLike v) fun _ => True := by
  cases v with
  | array elements => trivial
  | bytes data => trivial
  | _ => exact illTyped_offLanes

theorem propertyOf_offLanes (v : Value) (label : String) :
    Fallible.Satisfies OffLanes (propertyOf v label) fun _ => True := by
  cases v with
  | record properties => trivial
  | _ => exact illTyped_offLanes

theorem arrayCtorWrite_offLanes (ctor : ArrayCtor) (v : Value) :
    Fallible.Satisfies OffLanes (ctor.write v) fun _ => True := by
  cases ctor with
  | int width signed =>
      cases v with
      | number n => trivial
      | _ => exact .assertion (by decide)
  | big signed =>
      cases v with
      | bigint n => trivial
      | _ => exact .assertion (by decide)
  | float32 =>
      cases v with
      | f32 bits => trivial
      | _ => exact illTyped_offLanes
  | float64 =>
      cases v with
      | f64 bits => trivial
      | _ => exact illTyped_offLanes

theorem byteElement_offLanes (v : Value) :
    Fallible.Satisfies OffLanes (byteElement v) fun _ => True := by
  cases v with
  | number n => trivial
  | _ => exact .assertion (by decide)

theorem concatBytes_offLanes {convert : Value → Except Failure (List UInt8)}
    (converts : ∀ v, Fallible.Satisfies OffLanes (convert v) fun _ => True)
    (elements : List Value) :
    Fallible.Satisfies OffLanes (concatBytes convert elements) fun _ => True := by
  induction elements with
  | nil => trivial
  | cons v rest ih =>
      simp only [concatBytes, Fallible.satisfies_bind]
      apply (converts v).imp
      intro bytes _
      exact ih.imp fun _ _ => trivial

theorem bytesOf_offLanes (mem : MemInst) (ptr len : Nat) :
    Fallible.Satisfies OffLanes (bytesOf mem ptr len) fun _ => True := by
  simp only [bytesOf, Fallible.satisfies_bind, satisfies_assert]
  constructor
  · intro _
    exact .assertion (by decide)
  · intro _
    trivial

theorem viewOf_offLanes (width : Nat) (mem : MemInst) (ptr length : Nat) :
    Fallible.Satisfies OffLanes (viewOf cx width mem ptr length) fun _ => True := by
  rw [viewOf]
  split
  · trivial
  · split
    · trivial
    · exact .rangeError _

theorem packFlags_offLanes (v : Value) (i shift : Nat) (labels : List String) :
    Fallible.Satisfies OffLanes (packFlags v i shift labels) fun _ => True := by
  induction labels generalizing i shift with
  | nil => trivial
  | cons label rest ih =>
      simp only [packFlags, Fallible.satisfies_bind]
      apply (propertyOf_offLanes v label).imp
      intro value _
      exact ih _ _

theorem charToI32_offLanes (c : List UInt16) :
    Fallible.Satisfies OffLanes (charToI32 c) fun i => i < 2 ^ 32 := by
  rw [charToI32]
  cases codePointAtZero c with
  | none => exact .assertion (by decide)
  | some i =>
      simp only [Fallible.satisfies_bind, satisfies_assert, Fallible.satisfies_pure]
      constructor
      · intro _
        exact .assertion (by decide)
      · intro _
        constructor
        · intro _
          exact .assertion (by decide)
        · intro scalar
          omega

theorem matchCase_offLanes (v : Value) (cases' : List DespecializedCaseType) :
    Fallible.Satisfies OffLanes (matchCase v cases') fun selected =>
      ∃ kind, v = .variant kind selected.2 ∧
        cases'.findIdx? (fun case => case.label == kind) = some selected.1 := by
  cases v with
  | variant kind value =>
      rw [matchCase]
      cases found : caseIndexOf cases' kind with
      | none => exact .caseNotFound kind
      | some caseIndex =>
          rw [caseIndexOf] at found
          split at found
          · exact ⟨kind, rfl, found⟩
          · cases found
  | _ => exact illTyped_offLanes

end Conversions

end Polyengine.Cabi
