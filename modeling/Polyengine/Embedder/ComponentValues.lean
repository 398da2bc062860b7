import Mathlib.Algebra.Group.Int.Defs
import Polyengine.Embedder.HostValues

/-!
# Well-typed component values

The internal values of a type, the types that occur in a type, and the spellings and shapes of types on
which the two adapters are not inverse to each other.
-/

set_option autoImplicit false

namespace Polyengine.Embedder

open Polyengine.Cabi Polyengine.Library

/-! ## Values of a type -/

def intRange : PrimKind → Option (Int × Int)
  | .u8 => some (0, 0xff)
  | .u16 => some (0, 0xffff)
  | .u32 => some (0, 0xffffffff)
  | .s8 => some (-0x80, 0x7f)
  | .s16 => some (-0x8000, 0x7fff)
  | .s32 => some (-0x80000000, 0x7fffffff)
  | .u64 => some (0, 2 ^ 64 - 1)
  | .s64 => some (-2 ^ 63, 2 ^ 63 - 1)
  | .bool | .f32 | .f64 | .char | .string => none

def InRange (kind : PrimKind) (n : Int) : Prop :=
  ∃ lo hi, intRange kind = some (lo, hi) ∧ lo ≤ n ∧ n ≤ hi

def PrimType (kind : PrimKind) (v : ComponentValue) : Prop :=
  match kind with
  | .bool => ∃ b, v = .bool b
  | .f32 | .f64 => ∃ d, v = .number d
  | .string => ∃ units, v = .string units
  | .char => ∃ units c, v = .string units ∧ Utf16.scan units = [some c]
  | .u64 | .s64 => ∃ n, v = .bigint n ∧ InRange kind n
  | .u8 | .u16 | .u32 | .s8 | .s16 | .s32 =>
      ∃ d n, v = .number d ∧ d.integer? = some n ∧ InRange kind n

def FixedLength (length : Option Nat) (count : Nat) : Prop := ∀ n, length = some n → count = n

inductive HasType : ValType → ComponentValue → Prop where
  | prim {kind : PrimKind} {v : ComponentValue} : PrimType kind v → HasType (.prim kind) v
  | bytes {length : Option Nat} {data : List UInt8} :
      FixedLength length data.length → HasType (.list (.prim .u8) length) (.bytes data)
  | array {element : ValType} {length : Option Nat} {elements : List ComponentValue} :
      element ≠ .prim .u8 → FixedLength length elements.length →
      (∀ v ∈ elements, HasType element v) → HasType (.list element length) (.array elements)
  | record (pairs : List (FieldType × ComponentValue)) :
      (∀ pair ∈ pairs, HasType pair.1.type pair.2) →
      HasType (.record (pairs.map Prod.fst))
        (.record (pairs.map fun (field, value) => (field.label, value)))
  | tuple (pairs : List (ValType × ComponentValue)) :
      (∀ pair ∈ pairs, HasType pair.1 pair.2) →
      HasType (.tuple (pairs.map Prod.fst))
        (.record (pairs.zipIdx.map fun (pair, index) => (toString index, pair.2)))
  | payload {cases : List CaseType} {kind : String} {type : ValType} {value : ComponentValue} :
      ⟨kind, some type⟩ ∈ cases → HasType type value →
      HasType (.variant cases) (.variant kind value)
  | noPayload {cases : List CaseType} {kind : String} :
      ⟨kind, none⟩ ∈ cases → HasType (.variant cases) (.variant kind .null)
  | enum {labels : List String} {label : String} :
      label ∈ labels → HasType (.enum labels) (.variant label .null)
  | none {type : ValType} : HasType (.option type) (.variant "none" .null)
  | some {type : ValType} {value : ComponentValue} :
      HasType type value → HasType (.option type) (.variant "some" value)
  | side {ok error : Option ValType} {kind : String} {type : ValType} {value : ComponentValue} :
      (kind, some type) ∈ [("ok", ok), ("error", error)] → HasType type value →
      HasType (.result ok error) (.variant kind value)
  | emptySide {ok error : Option ValType} {kind : String} :
      (kind, .none) ∈ [("ok", ok), ("error", error)] →
      HasType (.result ok error) (.variant kind .null)
  | flags (pairs : List (String × Bool)) :
      HasType (.flags (pairs.map Prod.fst))
        (.record (pairs.map fun (label, b) => (label, .bool b)))
  | map {key value : ValType} {entries : List (ComponentValue × ComponentValue)} :
      (∀ entry ∈ entries, HasType key entry.1) → (∀ entry ∈ entries, HasType value entry.2) →
      HasType (.map key value)
        (.array (entries.map fun (k, x) => .record [("0", k), ("1", x)]))

/-! ## Types in a type -/

/-- `type` is a component of the other type; the flag says that it is the payload of an option. -/
inductive Child : ValType → Bool → ValType → Prop where
  | element (element : ValType) (length : Option Nat) : Child element false (.list element length)
  | field {fields : List FieldType} {field : FieldType} :
      field ∈ fields → Child field.type false (.record fields)
  | tuple {elements : List ValType} {type : ValType} :
      type ∈ elements → Child type false (.tuple elements)
  | case {cases : List CaseType} {label : String} {type : ValType} :
      ⟨label, some type⟩ ∈ cases → Child type false (.variant cases)
  | option (type : ValType) : Child type true (.option type)
  | side {ok error : Option ValType} {kind : String} {type : ValType} :
      (kind, some type) ∈ [("ok", ok), ("error", error)] → Child type false (.result ok error)
  | key (key value : ValType) : Child key false (.map key value)
  | value (key value : ValType) : Child value false (.map key value)

inductive Occurs : ValType → Bool → ValType → Bool → Prop where
  | self (type : ValType) (inOption : Bool) : Occurs type inOption type inOption
  | child {type part whole : ValType} {inOption inPart inWhole : Bool} :
      Child part inPart whole → Occurs type inOption part inPart →
      Occurs type inOption whole inWhole

/-- A type of data that component validation accepts. -/
def ValidHere : ValType → Prop
  | .list _ length => ∀ n, length = some n → 0 < n
  | .record fields => (fields.map FieldType.label).Nodup
  | .variant cases => cases ≠ [] ∧ (cases.map CaseType.label).Nodup
  | .enum labels => labels ≠ [] ∧ labels.Nodup
  | .flags labels => labels.Nodup
  | .own _ | .borrow _ | .stream _ | .future _ | .errorContext => False
  | _ => True

def Valid (type : ValType) (inOption : Bool) : Prop :=
  ∀ part inPart, Occurs part inPart type inOption → ValidHere part

/-- Where the adapters are inverse and keep the type: the names of a record or of flags differ, an option
is not the name of an inherited property and not in an option, and a list has neither a fixed length nor
bytes as its elements. -/
def RegularHere : ValType → Bool → Prop
  | .list element length, _ => element ≠ .prim .u8 ∧ length = none
  | .record fields, _ =>
      (fields.map (camelCase ∘ FieldType.label)).Nodup ∧
        ∀ field ∈ fields, isOption field.type = true → camelCase field.label ∉ objectPrototype
  | .flags labels, _ => (labels.map camelCase).Nodup
  | .option _, inOption => inOption = false
  | _, _ => True

def Regular (type : ValType) (inOption : Bool) : Prop :=
  ∀ part inPart, Occurs part inPart type inOption → RegularHere part inPart

section

variable {type part : ValType} {inOption inPart : Bool}

theorem Valid.here (valid : Valid type inOption) : ValidHere type :=
  valid type inOption (.self type inOption)

theorem Valid.child (valid : Valid type inOption) (isChild : Child part inPart type) :
    Valid part inPart := by
  intro inner inInner occurs
  exact valid inner inInner (.child isChild occurs)

theorem Regular.here (regular : Regular type inOption) : RegularHere type inOption :=
  regular type inOption (.self type inOption)

theorem Regular.child (regular : Regular type inOption) (isChild : Child part inPart type) :
    Regular part inPart := by
  intro inner inInner occurs
  exact regular inner inInner (.child isChild occurs)

theorem Valid.of_parts (here : ValidHere type)
    (parts : ∀ part inPart, Child part inPart type → Valid part inPart) : Valid type inOption := by
  intro inner inInner occurs
  cases occurs with
  | self _ => exact here
  | child isChild occurs => exact parts _ _ isChild inner inInner occurs

theorem Regular.of_parts (here : RegularHere type inOption)
    (parts : ∀ part inPart, Child part inPart type → Regular part inPart) :
    Regular type inOption := by
  intro inner inInner occurs
  cases occurs with
  | self _ => exact here
  | child isChild occurs => exact parts _ _ isChild inner inInner occurs

theorem Child.sizeOf_lt (isChild : Child part inPart type) : sizeOf part < sizeOf type := by
  cases isChild with
  | element _ _ =>
      simp only [ValType.list.sizeOf_spec]
      omega
  | @field fields entry member =>
      have smaller := List.sizeOf_lt_of_mem member
      obtain ⟨label, fieldType⟩ := entry
      simp only [ValType.record.sizeOf_spec, FieldType.mk.sizeOf_spec] at smaller ⊢
      omega
  | tuple member =>
      have smaller := List.sizeOf_lt_of_mem member
      simp only [ValType.tuple.sizeOf_spec]
      omega
  | case member =>
      have smaller := List.sizeOf_lt_of_mem member
      simp only [ValType.variant.sizeOf_spec, CaseType.mk.sizeOf_spec, Option.some.sizeOf_spec]
        at smaller ⊢
      omega
  | option _ =>
      simp only [ValType.option.sizeOf_spec]
      omega
  | side member =>
      simp only [List.mem_cons, List.not_mem_nil, or_false, Prod.mk.injEq] at member
      rcases member with ⟨_, rfl⟩ | ⟨_, rfl⟩
      all_goals
        simp only [ValType.result.sizeOf_spec, Option.some.sizeOf_spec]
        omega
  | key _ _ =>
      simp only [ValType.map.sizeOf_spec]
      omega
  | value _ _ =>
      simp only [ValType.map.sizeOf_spec]
      omega

theorem child_induction {motive : ValType → Prop}
    (step : ∀ type, (∀ part inPart, Child part inPart type → motive part) → motive type)
    (type : ValType) : motive type :=
  step type fun part _ isChild =>
    have := isChild.sizeOf_lt
    child_induction step part
termination_by sizeOf type

end

end Polyengine.Embedder
