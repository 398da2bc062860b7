import Polyengine.Cabi.LayoutProperties
import Polyengine.Library.Memo
import Polyengine.Library.Rounding

/-!
# Cached layouts

Layouts as the runtime computes them: in double-precision numbers, by one loop for the offsets, one
for the alignment and one for the size, and through a cache that is keyed on the identity of the
type object.
-/

set_option autoImplicit false

namespace Polyengine.Cabi

open Polyengine.Library Rounding

mutual

inductive TypeObject where
  | mk (identity : Nat) (node : TypeNode)

inductive TypeNode where
  | prim (kind : PrimKind)
  | errorContext
  | list (element : TypeObject) (length : Option Nat)
  | record (fields : List FieldObject)
  | variant (cases : List CaseObject)
  | flags (labels : List String)
  | own (rt : Nat)
  | borrow (rt : Nat)
  | stream (element : Option DespecializedValType)
  | future (element : Option DespecializedValType)

structure FieldObject where
  label : String
  type : TypeObject

structure CaseObject where
  label : String
  type : Option TypeObject

end

mutual

def TypeObject.type : TypeObject → DespecializedValType
  | .mk _ node => node.type

def TypeNode.type : TypeNode → DespecializedValType
  | .prim kind => .prim kind
  | .errorContext => .errorContext
  | .list element length => .list element.type length
  | .record fields => .record (fieldTypes fields)
  | .variant cases => .variant (caseTypes cases)
  | .flags labels => .flags labels
  | .own rt => .own rt
  | .borrow rt => .borrow rt
  | .stream element => .stream element
  | .future element => .future element

def fieldTypes : List FieldObject → List DespecializedFieldType
  | [] => []
  | ⟨label, object⟩ :: rest => ⟨label, object.type⟩ :: fieldTypes rest

def caseTypes : List CaseObject → List DespecializedCaseType
  | [] => []
  | ⟨label, some object⟩ :: rest => ⟨label, some object.type⟩ :: caseTypes rest
  | ⟨label, none⟩ :: rest => ⟨label, none⟩ :: caseTypes rest

end

/-- `Layout`, with `null` for the offsets of what is no record. -/
structure ObjectLayout where
  d : DespecializedValType
  align : Nat
  size : Nat
  fieldOffsets : Option (List Nat)
  discSize : Nat
  payloadOffset : Nat

section Compute

variable {Monadic : Type → Type} [Monad Monadic] [MonadExceptOf Failure Monadic]

def mkLayout (layout : ObjectLayout) : Monadic ObjectLayout := do
  assert_ (0 < layout.align ∧ layout.align &&& (layout.align - 1) = 0)
    "layout alignment must be a power of two"
  return layout

/-- The layout of a type without parts. -/
def plainLayout (d : DespecializedValType) (align size : Nat) : Monadic ObjectLayout :=
  mkLayout { d, align, size, fieldOffsets := none, discSize := 0, payloadOffset := 0 }

-- Sums and products are rounded to doubles. `alignTo` is exact on doubles, since its alignments are
-- powers of two.
variable (memo : Nat → Monadic ObjectLayout → Monadic ObjectLayout) (ptrType : PtrType)

mutual

/-- `layoutOf`, whose cache is `memo`. -/
def objectLayout : TypeObject → Monadic ObjectLayout
  | .mk identity node => memo identity (computeLayout node)

def computeLayout : TypeNode → Monadic ObjectLayout
  | .prim kind => plainLayout (.prim kind) (primAlignment ptrType kind) (primSize ptrType kind)
  | .errorContext => plainLayout .errorContext 4 4
  | .list element none =>
      plainLayout (.list element.type none) (ptrSize ptrType) (2 * ptrSize ptrType)
  | .list element (some n) => do
      let align := (← objectLayout element).align
      let size := nearestDouble (n * (← objectLayout element).size)
      plainLayout (.list element.type (some n)) align size
  | .record fields => do
      let offsets ← offsetsLoop 0 fields
      let align ← alignmentLoop fields
      let s ← sizeLoop 0 fields
      assert_ (0 < s) "empty record"
      let size := alignTo s (← alignmentLoop fields)
      mkLayout {
        d := .record (fieldTypes fields)
        align
        size
        fieldOffsets := some offsets
        discSize := 0
        payloadOffset := 0 }
  | .variant cases => do
      assert_ (0 < cases.length ∧ cases.length < 2 ^ 32) "case count"
      let discSize := discriminantSize cases.length
      let align := max discSize (← maxCaseAlignmentLoop cases)
      let start := alignTo discSize (← maxCaseAlignmentLoop cases)
      let s := nearestDouble (start + (← maxCaseSizeLoop cases))
      let size := alignTo s (max discSize (← maxCaseAlignmentLoop cases))
      let payloadOffset := alignTo discSize (← maxCaseAlignmentLoop cases)
      mkLayout {
        d := .variant (caseTypes cases)
        align
        size
        fieldOffsets := none
        discSize
        payloadOffset }
  | .flags labels => do
      assert_ (0 < labels.length ∧ labels.length ≤ 32) "flags label count"
      plainLayout (.flags labels) (flagsSize labels) (flagsSize labels)
  | .own rt => plainLayout (.own rt) 4 4
  | .borrow rt => plainLayout (.borrow rt) 4 4
  | .stream element => plainLayout (.stream element) 4 4
  | .future element => plainLayout (.future element) 4 4

/-- The loop of `recordLayout`. -/
def offsetsLoop (p : Nat) : List FieldObject → Monadic (List Nat)
  | [] => return []
  | ⟨_, object⟩ :: rest => do
      let offset := alignTo p (← objectLayout object).align
      let later ← offsetsLoop (nearestDouble (offset + (← objectLayout object).size)) rest
      return offset :: later

/-- The loop of `alignmentRecord`. -/
def alignmentLoop : List FieldObject → Monadic Nat
  | [] => return 1
  | ⟨_, object⟩ :: rest => do
      let align := (← objectLayout object).align
      return max align (← alignmentLoop rest)

/-- The loop of `elemSizeRecord`. -/
def sizeLoop (s : Nat) : List FieldObject → Monadic Nat
  | [] => return s
  | ⟨_, object⟩ :: rest => do
      let s := alignTo s (← objectLayout object).align
      sizeLoop (nearestDouble (s + (← objectLayout object).size)) rest

/-- The loop of `maxCaseAlignment`. -/
def maxCaseAlignmentLoop : List CaseObject → Monadic Nat
  | [] => return 1
  | ⟨_, some object⟩ :: rest => do
      let align := (← objectLayout object).align
      return max align (← maxCaseAlignmentLoop rest)
  | ⟨_, none⟩ :: rest => maxCaseAlignmentLoop rest

/-- The loop of `elemSizeVariant`. -/
def maxCaseSizeLoop : List CaseObject → Monadic Nat
  | [] => return 0
  | ⟨_, some object⟩ :: rest => do
      let size := (← objectLayout object).size
      return max size (← maxCaseSizeLoop rest)
  | ⟨_, none⟩ :: rest => maxCaseSizeLoop rest

end

end Compute

/-- The layouts of one pointer width by the identity of the type. -/
abbrev LayoutCache : Type := Cache Nat ObjectLayout

def cachedLayoutOf (ptrType : PtrType) (object : TypeObject) :
    Command LayoutCache Failure ObjectLayout :=
  objectLayout Cache.remember ptrType object

/-- The layout computed without a cache. -/
def freshLayoutOf (ptrType : PtrType) (object : TypeObject) : Except Failure ObjectLayout :=
  objectLayout (fun _ compute => compute) ptrType object

section Transparency

variable (objects : Nat → TypeObject)

mutual

def TypeObject.Known : TypeObject → Prop
  | .mk identity node => objects identity = .mk identity node ∧ node.Known

def TypeNode.Known : TypeNode → Prop
  | .list element _ => element.Known
  | .record fields => KnownFields fields
  | .variant cases => KnownCases cases
  | _ => True

def KnownFields : List FieldObject → Prop
  | [] => True
  | ⟨_, object⟩ :: rest => object.Known ∧ KnownFields rest

def KnownCases : List CaseObject → Prop
  | [] => True
  | ⟨_, some object⟩ :: rest => object.Known ∧ KnownCases rest
  | ⟨_, none⟩ :: rest => KnownCases rest

end

variable (ptrType : PtrType)

/-- The commands that go through the cache agree with the layouts computed without it. -/
abbrev AgreesFresh {Result : Type} (command : Command LayoutCache Failure Result)
    (outcome : Except Failure Result) : Prop :=
  Cache.Agrees (fun identity => freshLayoutOf ptrType (objects identity)) command outcome

theorem agrees_assert (condition : Prop) [Decidable condition] (message : String) :
    AgreesFresh objects ptrType (assert_ condition message) (assert_ condition message) :=
  .ite (.pure ()) (.throw _)

theorem agrees_mkLayout (layout : ObjectLayout) :
    AgreesFresh objects ptrType (mkLayout layout) (mkLayout layout) :=
  (agrees_assert objects ptrType _ _).bind fun _ => .pure layout

mutual

theorem agrees_object (object : TypeObject) (known : object.Known objects) :
    AgreesFresh objects ptrType (cachedLayoutOf ptrType object) (freshLayoutOf ptrType object) := by
  cases object with
  | mk identity node =>
      have computes := agrees_node node known.2
      have named : freshLayoutOf ptrType (objects identity) =
          computeLayout (fun _ compute => compute) ptrType node := by
        rw [known.1, freshLayoutOf, objectLayout]
      rw [cachedLayoutOf, freshLayoutOf, objectLayout, objectLayout, ← named]
      rw [← named] at computes
      exact Cache.Agrees.remember computes

theorem agrees_node (node : TypeNode) (known : node.Known objects) :
    AgreesFresh objects ptrType (computeLayout Cache.remember ptrType node)
      (computeLayout (fun _ compute => compute) ptrType node) := by
  cases node with
  | prim kind => exact agrees_mkLayout objects ptrType _
  | errorContext => exact agrees_mkLayout objects ptrType _
  | list element length =>
      cases length with
      | none => exact agrees_mkLayout objects ptrType _
      | some n =>
          have part := agrees_object element known
          exact part.bind fun _ => part.bind fun _ => agrees_mkLayout objects ptrType _
  | record fields =>
      have known' : KnownFields objects fields := known
      have aligns := agrees_alignmentLoop fields known'
      apply (agrees_offsetsLoop 0 fields known').bind
      intro offsets
      apply aligns.bind
      intro align
      apply (agrees_sizeLoop 0 fields known').bind
      intro s
      apply (agrees_assert objects ptrType _ _).bind
      intro _
      apply aligns.bind
      intro align'
      exact agrees_mkLayout objects ptrType _
  | variant cases' =>
      have known' : KnownCases objects cases' := known
      have aligns := agrees_maxCaseAlignmentLoop cases' known'
      apply (agrees_assert objects ptrType _ _).bind
      intro _
      apply aligns.bind
      intro align
      apply aligns.bind
      intro start
      apply (agrees_maxCaseSizeLoop cases' known').bind
      intro size
      apply aligns.bind
      intro align'
      apply aligns.bind
      intro align''
      exact agrees_mkLayout objects ptrType _
  | flags labels =>
      exact (agrees_assert objects ptrType _ _).bind fun _ => agrees_mkLayout objects ptrType _
  | own rt => exact agrees_mkLayout objects ptrType _
  | borrow rt => exact agrees_mkLayout objects ptrType _
  | stream element => exact agrees_mkLayout objects ptrType _
  | future element => exact agrees_mkLayout objects ptrType _

theorem agrees_offsetsLoop (p : Nat) (fields : List FieldObject) (known : KnownFields objects fields) :
    AgreesFresh objects ptrType (offsetsLoop Cache.remember ptrType p fields)
      (offsetsLoop (fun _ compute => compute) ptrType p fields) := by
  match fields, known with
  | [], _ => exact .pure []
  | ⟨_, object⟩ :: rest, known =>
      have part := agrees_object object known.1
      apply part.bind
      intro layout
      apply part.bind
      intro layout'
      apply (agrees_offsetsLoop _ rest known.2).bind
      intro later
      exact .pure _

theorem agrees_alignmentLoop (fields : List FieldObject) (known : KnownFields objects fields) :
    AgreesFresh objects ptrType (alignmentLoop Cache.remember ptrType fields)
      (alignmentLoop (fun _ compute => compute) ptrType fields) := by
  match fields, known with
  | [], _ => exact .pure 1
  | ⟨_, object⟩ :: rest, known =>
      apply (agrees_object object known.1).bind
      intro layout
      apply (agrees_alignmentLoop rest known.2).bind
      intro later
      exact .pure _

theorem agrees_sizeLoop (s : Nat) (fields : List FieldObject) (known : KnownFields objects fields) :
    AgreesFresh objects ptrType (sizeLoop Cache.remember ptrType s fields)
      (sizeLoop (fun _ compute => compute) ptrType s fields) := by
  match fields, known with
  | [], _ => exact .pure s
  | ⟨_, object⟩ :: rest, known =>
      have part := agrees_object object known.1
      apply part.bind
      intro layout
      apply part.bind
      intro layout'
      exact agrees_sizeLoop _ rest known.2

theorem agrees_maxCaseAlignmentLoop (cases' : List CaseObject) (known : KnownCases objects cases') :
    AgreesFresh objects ptrType (maxCaseAlignmentLoop Cache.remember ptrType cases')
      (maxCaseAlignmentLoop (fun _ compute => compute) ptrType cases') := by
  match cases', known with
  | [], _ => exact .pure 1
  | ⟨_, some object⟩ :: rest, known =>
      apply (agrees_object object known.1).bind
      intro layout
      apply (agrees_maxCaseAlignmentLoop rest known.2).bind
      intro later
      exact .pure _
  | ⟨_, none⟩ :: rest, known => exact agrees_maxCaseAlignmentLoop rest known

theorem agrees_maxCaseSizeLoop (cases' : List CaseObject) (known : KnownCases objects cases') :
    AgreesFresh objects ptrType (maxCaseSizeLoop Cache.remember ptrType cases')
      (maxCaseSizeLoop (fun _ compute => compute) ptrType cases') := by
  match cases', known with
  | [], _ => exact .pure 0
  | ⟨_, some object⟩ :: rest, known =>
      apply (agrees_object object known.1).bind
      intro layout
      apply (agrees_maxCaseSizeLoop rest known.2).bind
      intro later
      exact .pure _
  | ⟨_, none⟩ :: rest, known => exact agrees_maxCaseSizeLoop rest known

end

end Transparency

/-- The layout of the reference, in exact integers. -/
def exactLayout (ptrType : PtrType) (d : DespecializedValType) : ObjectLayout where
  d := d
  align := alignment ptrType d
  size := elemSize ptrType d
  fieldOffsets := match d with
    | .record fields => some (fieldOffsets ptrType 0 fields)
    | _ => none
  discSize := match d with
    | .variant cases => discriminantSize cases.length
    | _ => 0
  payloadOffset := match d with
    | .variant cases => payloadOffset ptrType cases
    | _ => 0

section Exactness

variable {ptrType : PtrType}

theorem mkLayout_ok {layout : ObjectLayout} (aligned : IsAlignment layout.align) :
    (mkLayout layout : Except Failure ObjectLayout) = .ok layout := by
  have power : 0 < layout.align ∧ layout.align &&& (layout.align - 1) = 0 := by
    rcases aligned with align | align | align | align <;>
      rw [align] <;> decide
  rw [mkLayout, assert_ok power]
  rfl

def Exact (ptrType : PtrType) (object : TypeObject) : Prop :=
  freshLayoutOf ptrType object = .ok (exactLayout ptrType object.type)

theorem Exact.eq {object : TypeObject} (exact' : Exact ptrType object) :
    objectLayout (fun _ compute => compute) ptrType object =
      (.ok (exactLayout ptrType object.type) : Except Failure ObjectLayout) := exact'

section Fields

variable {fields : List FieldObject}

theorem offsetsLoop_exact (parts : ∀ field ∈ fields, Exact ptrType field.type)
    (sound : ∀ field ∈ fieldTypes fields, SoundLayout ptrType field.type) {p : Nat}
    (bounded : fieldsEnd ptrType p (fieldTypes fields) ≤ 2 ^ 53) :
    offsetsLoop (fun _ compute => compute) ptrType p fields =
      (.ok (fieldOffsets ptrType p (fieldTypes fields)) : Except Failure (List Nat)) := by
  induction fields generalizing p with
  | nil => rfl
  | cons field rest ih =>
      obtain ⟨label, object⟩ := field
      have here : Exact ptrType object := parts ⟨label, object⟩ (by simp)
      have later : ∀ field ∈ fieldTypes rest, SoundLayout ptrType field.type :=
        fun field member => sound field (by simp [fieldTypes, member])
      rw [fieldTypes, fieldsEnd] at bounded
      have small := (le_fieldsEnd _ later).trans bounded
      rw [offsetsLoop, here.eq]
      change (do
        let later ← offsetsLoop _ ptrType (nearestDouble
          (alignTo p (alignment ptrType object.type) + elemSize ptrType object.type)) rest
        return alignTo p (alignment ptrType object.type) :: later : Except Failure (List Nat)) = _
      rw [nearestDouble_of_le small,
        ih (fun field member => parts field (by simp [member])) later bounded]
      rfl

theorem alignmentLoop_exact (parts : ∀ field ∈ fields, Exact ptrType field.type) :
    alignmentLoop (fun _ compute => compute) ptrType fields =
      (.ok (alignmentRecord ptrType (fieldTypes fields)) : Except Failure Nat) := by
  induction fields with
  | nil => rfl
  | cons field rest ih =>
      obtain ⟨label, object⟩ := field
      have here : Exact ptrType object := parts ⟨label, object⟩ (by simp)
      rw [alignmentLoop, here.eq, ih fun field member => parts field (by simp [member])]
      rfl

theorem sizeLoop_exact (parts : ∀ field ∈ fields, Exact ptrType field.type)
    (sound : ∀ field ∈ fieldTypes fields, SoundLayout ptrType field.type) {s : Nat}
    (bounded : fieldsEnd ptrType s (fieldTypes fields) ≤ 2 ^ 53) :
    sizeLoop (fun _ compute => compute) ptrType s fields =
      (.ok (fieldsEnd ptrType s (fieldTypes fields)) : Except Failure Nat) := by
  induction fields generalizing s with
  | nil => rfl
  | cons field rest ih =>
      obtain ⟨label, object⟩ := field
      have here : Exact ptrType object := parts ⟨label, object⟩ (by simp)
      have later : ∀ field ∈ fieldTypes rest, SoundLayout ptrType field.type :=
        fun field member => sound field (by simp [fieldTypes, member])
      rw [fieldTypes, fieldsEnd] at bounded
      have small := (le_fieldsEnd _ later).trans bounded
      rw [sizeLoop, here.eq, fieldTypes, fieldsEnd]
      change sizeLoop _ ptrType (nearestDouble
        (alignTo s (alignment ptrType object.type) + elemSize ptrType object.type)) rest = _
      rw [nearestDouble_of_le small]
      exact ih (fun field member => parts field (by simp [member])) later bounded

end Fields

section Cases

variable {cases' : List CaseObject}

theorem maxCaseAlignmentLoop_exact
    (parts : ∀ case ∈ cases', ∀ object, case.type = some object → Exact ptrType object) :
    maxCaseAlignmentLoop (fun _ compute => compute) ptrType cases' =
      (.ok (maxCaseAlignment ptrType (caseTypes cases')) : Except Failure Nat) := by
  induction cases' with
  | nil => rfl
  | cons case rest ih =>
      obtain ⟨label, content⟩ := case
      have later := ih fun case member => parts case (by simp [member])
      cases content with
      | none => exact later
      | some object =>
          have here : Exact ptrType object := parts ⟨label, some object⟩ (by simp) object rfl
          rw [maxCaseAlignmentLoop, here.eq, later]
          rfl

theorem maxCaseSizeLoop_exact
    (parts : ∀ case ∈ cases', ∀ object, case.type = some object → Exact ptrType object) :
    maxCaseSizeLoop (fun _ compute => compute) ptrType cases' =
      (.ok (maxCaseSize ptrType (caseTypes cases')) : Except Failure Nat) := by
  induction cases' with
  | nil => rfl
  | cons case rest ih =>
      obtain ⟨label, content⟩ := case
      have later := ih fun case member => parts case (by simp [member])
      cases content with
      | none => exact later
      | some object =>
          have here : Exact ptrType object := parts ⟨label, some object⟩ (by simp) object rfl
          rw [maxCaseSizeLoop, here.eq, later]
          rfl

theorem length_caseTypes : (caseTypes cases').length = cases'.length := by
  induction cases' with
  | nil => rfl
  | cons case rest ih =>
      obtain ⟨label, content⟩ := case
      cases content with
      | none => simp only [caseTypes, List.length_cons, ih]
      | some object => simp only [caseTypes, List.length_cons, ih]

theorem mem_fieldTypes {fields : List FieldObject} {field : FieldObject} (member : field ∈ fields) :
    ⟨field.label, field.type.type⟩ ∈ fieldTypes fields := by
  induction fields with
  | nil => cases member
  | cons first rest ih =>
      obtain ⟨label, object⟩ := first
      rw [fieldTypes]
      cases member with
      | head => exact .head _
      | tail _ later => exact .tail _ (ih later)

theorem mem_caseTypes {case : CaseObject} {object : TypeObject} (member : case ∈ cases')
    (payload : case.type = some object) : ⟨case.label, some object.type⟩ ∈ caseTypes cases' := by
  induction cases' with
  | nil => cases member
  | cons first rest ih =>
      cases member with
      | head =>
          obtain ⟨label, content⟩ := case
          cases payload
          exact .head _
      | tail _ later =>
          obtain ⟨label, content⟩ := first
          cases content with
          | none => exact .tail _ (ih later)
          | some other => exact .tail _ (ih later)

end Cases

theorem elemSize_le_fieldsEnd {fields : List DespecializedFieldType} {offset : Nat}
    (sound : ∀ field ∈ fields, SoundLayout ptrType field.type) {field : DespecializedFieldType}
    (member : field ∈ fields) :
    elemSize ptrType field.type ≤ fieldsEnd ptrType offset fields := by
  induction fields generalizing offset with
  | nil => cases member
  | cons first rest ih =>
      obtain ⟨label, type⟩ := first
      have later : ∀ field ∈ rest, SoundLayout ptrType field.type :=
        fun field member => sound field (by simp [member])
      rw [fieldsEnd]
      cases member with
      | head =>
          have bound := le_fieldsEnd (alignTo offset (alignment ptrType type) + elemSize ptrType type)
            later
          exact (Nat.le_add_left _ _).trans bound
      | tail _ rest => exact ih later rest

theorem exact_list {identity n : Nat} {element : TypeObject} (part : Exact ptrType element)
    (aligned : IsAlignment (alignment ptrType element.type))
    (bounded : n * elemSize ptrType element.type ≤ 2 ^ 53) :
    Exact ptrType (.mk identity (.list element (some n))) := by
  have built : plainLayout (.list element.type (some n)) (alignment ptrType element.type)
      (n * elemSize ptrType element.type) =
      (.ok (exactLayout ptrType (.list element.type (some n))) : Except Failure ObjectLayout) := by
    rw [plainLayout, mkLayout_ok aligned]
    simp only [exactLayout, alignment, elemSize]
  unfold Exact freshLayoutOf
  rw [objectLayout, computeLayout, part.eq]
  change (plainLayout _ _ (nearestDouble (n * elemSize ptrType element.type)) :
    Except Failure ObjectLayout) = _
  rw [nearestDouble_of_le bounded]
  exact built

theorem exact_record {identity : Nat} {fields : List FieldObject} (nonempty : fieldTypes fields ≠ [])
    (parts : ∀ field ∈ fields, Exact ptrType field.type)
    (sound : ∀ field ∈ fieldTypes fields, SoundLayout ptrType field.type)
    (bounded : fieldsEnd ptrType 0 (fieldTypes fields) ≤ 2 ^ 53) :
    Exact ptrType (.mk identity (.record fields)) := by
  have aligned := isAlignment_record sound
  have positive : 0 < fieldsEnd ptrType 0 (fieldTypes fields) := fieldsEnd_pos nonempty sound
  have accepted : (assert_ (0 < fieldsEnd ptrType 0 (fieldTypes fields)) "empty record" :
      Except Failure Unit) = .ok () := assert_ok positive
  unfold Exact freshLayoutOf
  rw [objectLayout, computeLayout, offsetsLoop_exact parts sound bounded,
    alignmentLoop_exact parts, sizeLoop_exact parts sound bounded]
  simp only [bind, Except.bind, accepted]
  rw [mkLayout_ok aligned]
  simp only [exactLayout, TypeObject.type, TypeNode.type, alignment, elemSize]

theorem exact_variant {identity : Nat} {cases' : List CaseObject} (nonempty : 0 < cases'.length)
    (count : cases'.length < 2 ^ 32)
    (parts : ∀ case ∈ cases', ∀ object, case.type = some object → Exact ptrType object)
    (sound : ∀ case ∈ caseTypes cases', ∀ type, case.type = some type → SoundLayout ptrType type)
    (bounded : payloadOffset ptrType (caseTypes cases') + maxCaseSize ptrType (caseTypes cases') ≤
      2 ^ 53) :
    Exact ptrType (.mk identity (.variant cases')) := by
  have aligned := (IsAlignment.discriminantSize cases'.length).max (isAlignment_maxCase sound)
  have accepted : (assert_ (0 < cases'.length ∧ cases'.length < 2 ^ 32) "case count" :
      Except Failure Unit) = .ok () := assert_ok ⟨nonempty, count⟩
  have start : alignTo (discriminantSize cases'.length)
      (maxCaseAlignment ptrType (caseTypes cases')) = payloadOffset ptrType (caseTypes cases') := by
    rw [payloadOffset, length_caseTypes]
  unfold Exact freshLayoutOf
  rw [objectLayout, computeLayout, accepted, maxCaseAlignmentLoop_exact parts,
    maxCaseSizeLoop_exact parts]
  simp only [bind, Except.bind, start, nearestDouble_of_le bounded]
  rw [mkLayout_ok aligned]
  simp only [exactLayout, TypeObject.type, TypeNode.type, alignment, elemSize, length_caseTypes]

theorem ValidType.exactLayout {handles : Prop} {d : DespecializedValType}
    (valid : ValidType handles d) {object : TypeObject} (named : object.type = d)
    (bounded : elemSize ptrType d ≤ 2 ^ 53) : Exact ptrType object := by
  induction valid generalizing object with
  | prim kind =>
      obtain ⟨identity, node⟩ := object
      cases node <;> cases named
      exact mkLayout_ok (.prim ptrType kind)
  | @list element length validElement bounds ih =>
      obtain ⟨identity, node⟩ := object
      cases node <;> cases named
      rename_i part
      cases length with
      | none => exact mkLayout_ok (.ptrSize ptrType)
      | some n =>
          rw [elemSize] at bounded
          have smaller : elemSize ptrType part.type ≤ n * elemSize ptrType part.type :=
            Nat.le_mul_of_pos_left _ (bounds n rfl).1
          exact exact_list (ih rfl (smaller.trans bounded))
            (validElement.soundLayout ptrType).isAlignment bounded
  | record nonempty distinct validFields ih =>
      obtain ⟨identity, node⟩ := object
      cases node <;> cases named
      rename_i fields
      have sound : ∀ field ∈ fieldTypes fields, SoundLayout ptrType field.type :=
        fun field member => (validFields field member).soundLayout ptrType
      rw [elemSize] at bounded
      have ends := (le_alignTo (fieldsEnd ptrType 0 (fieldTypes fields))
        (isAlignment_record sound).pos).trans bounded
      apply exact_record nonempty _ sound ends
      intro field member
      have listed := mem_fieldTypes member
      exact ih _ listed rfl ((elemSize_le_fieldsEnd sound listed).trans ends)
  | variant nonempty count distinct validCases ih =>
      obtain ⟨identity, node⟩ := object
      cases node <;> cases named
      rename_i cases'
      have sound : ∀ case ∈ caseTypes cases', ∀ type, case.type = some type →
          SoundLayout ptrType type :=
        fun case member type payload => (validCases case member type payload).soundLayout ptrType
      have aligned := (IsAlignment.discriminantSize (caseTypes cases').length).max
        (isAlignment_maxCase sound)
      rw [elemSize] at bounded
      have ends := (le_alignTo (payloadOffset ptrType (caseTypes cases') +
        maxCaseSize ptrType (caseTypes cases')) aligned.pos).trans bounded
      have positive : 0 < (caseTypes cases').length := List.length_pos_iff.mpr nonempty
      rw [length_caseTypes] at positive count
      apply exact_variant positive count _ sound ends
      intro case member object payload
      have listed := mem_caseTypes member payload
      have smaller := @elemSize_le_maxCase ptrType _ _ _ listed rfl
      exact ih _ listed _ rfl rfl (by omega)
  | @flags labels nonempty bound _ =>
      obtain ⟨identity, node⟩ := object
      cases node <;> cases named
      have accepted : (assert_ (0 < labels.length ∧ labels.length ≤ 32) "flags label count" :
          Except Failure Unit) = .ok () := assert_ok ⟨List.length_pos_iff.mpr nonempty, bound⟩
      unfold Exact freshLayoutOf
      rw [objectLayout, computeLayout, accepted]
      exact mkLayout_ok (.flagsSize labels)
  | handle _ isHandle =>
      obtain ⟨identity, node⟩ := object
      cases node <;> cases named <;> first
        | exact mkLayout_ok (.inr (.inr (.inl rfl)))
        | cases isHandle

end Exactness

end Polyengine.Cabi
