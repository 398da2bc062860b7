import Polyengine.Cabi.Types
import Mathlib.Data.List.Forall2

/-!
# Equality of value types

Structural equality on the surface syntax, with the tables of resources compared either by
themselves or by the resources they are for.
-/

set_option autoImplicit false

namespace Polyengine.Cabi

/-- The `identity` argument; `localTable` is the default `"local"`. -/
inductive ResourceIdentity where
  | localTable
  | underlying
  deriving Repr, DecidableEq

/-- What the tables of `own` and `borrow` are compared by; `resource` is `rt.resource`. -/
def ResourceIdentity.key (resource : Nat → Nat) : ResourceIdentity → Nat → Nat
  | .localTable, rt => rt
  | .underlying, rt => resource rt

-- The source begins with `a === b`, which `valTypeEqual_refl` makes redundant.
section Equal

variable (resource : Nat → Nat) (identity : ResourceIdentity)

mutual

def valTypeEqual : ValType → ValType → Bool
  | .prim kind, .prim kind' => kind == kind'
  | .errorContext, .errorContext => true
  | .list element length, .list element' length' =>
      length == length' && valTypeEqual element element'
  | .record fields, .record fields' =>
      fields.length == fields'.length && everyField fields fields'
  | .tuple elements, .tuple elements' =>
      elements.length == elements'.length && everyElement elements elements'
  | .variant cases, .variant cases' =>
      cases.length == cases'.length && everyCase cases cases'
  | .enum labels, .enum labels' => labels == labels'
  | .option type, .option type' => valTypeEqual type type'
  | .result ok error, .result ok' error' =>
      ok.isSome == ok'.isSome && error.isSome == error'.isSome && valTypeEqualOption ok ok' &&
        valTypeEqualOption error error'
  | .map key value, .map key' value' => valTypeEqual key key' && valTypeEqual value value'
  | .flags labels, .flags labels' => labels == labels'
  | .own rt, .own rt' => identity.key resource rt == identity.key resource rt'
  | .borrow rt, .borrow rt' => identity.key resource rt == identity.key resource rt'
  | .stream element, .stream element' => valTypeEqualOption element element'
  | .future element, .future element' => valTypeEqualOption element element'
  | _, _ => false

/-- Two types that may be `null`. -/
def valTypeEqualOption : Option ValType → Option ValType → Bool
  | none, none => true
  | some type, some type' => valTypeEqual type type'
  | _, _ => false

/-- The loops compare the elements of lists of one length. -/
def everyElement : List ValType → List ValType → Bool
  | [], [] => true
  | type :: rest, type' :: rest' => valTypeEqual type type' && everyElement rest rest'
  | _, _ => false

def everyField : List FieldType → List FieldType → Bool
  | [], [] => true
  | ⟨label, type⟩ :: rest, ⟨label', type'⟩ :: rest' =>
      label == label' && valTypeEqual type type' && everyField rest rest'
  | _, _ => false

def everyCase : List CaseType → List CaseType → Bool
  | [], [] => true
  | ⟨label, type⟩ :: rest, ⟨label', type'⟩ :: rest' =>
      label == label' && valTypeEqualOption type type' && everyCase rest rest'
  | _, _ => false

end

/-- `valTypesEqual`, which compares tables by themselves. -/
def valTypesEqual (a b : List ValType) : Bool :=
  a.length == b.length && everyElement resource .localTable a b

end Equal

theorem sameLength_of_map {Source Image : Type} {map : List Source → List Image}
    (keeps : ∀ list, (map list).length = list.length) (a b : List Source) (same : map a = map b) :
    a.length = b.length := by
  rw [← keeps a, ← keeps b, same]

/-! ## Renaming the tables -/

section MapTables

variable (rename : Nat → Nat)

mutual

def mapTables : ValType → ValType
  | .prim kind => .prim kind
  | .errorContext => .errorContext
  | .list element length => .list (mapTables element) length
  | .record fields => .record (mapTablesFields fields)
  | .tuple elements => .tuple (mapTablesAll elements)
  | .variant cases => .variant (mapTablesCases cases)
  | .enum labels => .enum labels
  | .option type => .option (mapTables type)
  | .result ok error => .result (mapTablesOption ok) (mapTablesOption error)
  | .map key value => .map (mapTables key) (mapTables value)
  | .flags labels => .flags labels
  | .own rt => .own (rename rt)
  | .borrow rt => .borrow (rename rt)
  | .stream element => .stream (mapTablesOption element)
  | .future element => .future (mapTablesOption element)

def mapTablesOption : Option ValType → Option ValType
  | none => none
  | some type => some (mapTables type)

def mapTablesAll : List ValType → List ValType
  | [] => []
  | type :: rest => mapTables type :: mapTablesAll rest

def mapTablesFields : List FieldType → List FieldType
  | [] => []
  | ⟨label, type⟩ :: rest => ⟨label, mapTables type⟩ :: mapTablesFields rest

def mapTablesCases : List CaseType → List CaseType
  | [] => []
  | ⟨label, type⟩ :: rest => ⟨label, mapTablesOption type⟩ :: mapTablesCases rest

end

@[simp] theorem length_mapTablesAll (types : List ValType) :
    (mapTablesAll rename types).length = types.length := by
  induction types with
  | nil => rfl
  | cons type rest ih => simp only [mapTablesAll, List.length_cons, ih]

@[simp] theorem length_mapTablesFields (fields : List FieldType) :
    (mapTablesFields rename fields).length = fields.length := by
  induction fields with
  | nil => rfl
  | cons field rest ih =>
      obtain ⟨label, type⟩ := field
      simp only [mapTablesFields, List.length_cons, ih]

@[simp] theorem length_mapTablesCases (cases' : List CaseType) :
    (mapTablesCases rename cases').length = cases'.length := by
  induction cases' with
  | nil => rfl
  | cons case rest ih =>
      obtain ⟨label, type⟩ := case
      simp only [mapTablesCases, List.length_cons, ih]

@[simp] theorem isSome_mapTablesOption (type : Option ValType) :
    (mapTablesOption rename type).isSome = type.isSome := by
  cases type <;> rfl

end MapTables

section Characterization

variable (resource : Nat → Nat) (identity : ResourceIdentity)

mutual

theorem valTypeEqual_iff (a b : ValType) :
    valTypeEqual resource identity a b = true ↔
      mapTables (identity.key resource) a = mapTables (identity.key resource) b := by
  cases a with
  | prim kind => cases b <;> simp [valTypeEqual, mapTables]
  | errorContext => cases b <;> simp [valTypeEqual, mapTables]
  | list element length =>
      cases b with
      | list element' length' =>
          simp [valTypeEqual, mapTables, valTypeEqual_iff element element', and_comm]
      | _ => simp [valTypeEqual, mapTables]
  | record fields =>
      cases b with
      | record fields' =>
          simpa [valTypeEqual, mapTables, everyField_iff fields fields'] using
            sameLength_of_map (length_mapTablesFields (identity.key resource)) fields fields'
      | _ => simp [valTypeEqual, mapTables]
  | tuple elements =>
      cases b with
      | tuple elements' =>
          simpa [valTypeEqual, mapTables, everyElement_iff elements elements'] using
            sameLength_of_map (length_mapTablesAll (identity.key resource)) elements elements'
      | _ => simp [valTypeEqual, mapTables]
  | variant cases' =>
      cases b with
      | variant cases'' =>
          simpa [valTypeEqual, mapTables, everyCase_iff cases' cases''] using
            sameLength_of_map (length_mapTablesCases (identity.key resource)) cases' cases''
      | _ => simp [valTypeEqual, mapTables]
  | enum labels => cases b <;> simp [valTypeEqual, mapTables]
  | option type =>
      cases b with
      | option type' => simp [valTypeEqual, mapTables, valTypeEqual_iff type type']
      | _ => simp [valTypeEqual, mapTables]
  | result ok error =>
      cases b with
      | result ok' error' =>
          have presence (x y : Option ValType) :
              mapTablesOption (identity.key resource) x =
                mapTablesOption (identity.key resource) y → x.isSome = y.isSome := by
            intro same
            rw [← isSome_mapTablesOption (identity.key resource) x, same, isSome_mapTablesOption]
          simp only [valTypeEqual, mapTables, Bool.and_eq_true, beq_iff_eq,
            valTypeEqualOption_iff ok ok', valTypeEqualOption_iff error error',
            ValType.result.injEq]
          exact ⟨fun equal => ⟨equal.1.2, equal.2⟩,
            fun same => ⟨⟨⟨presence ok ok' same.1, presence error error' same.2⟩, same.1⟩, same.2⟩⟩
      | _ => simp [valTypeEqual, mapTables]
  | map key value =>
      cases b with
      | map key' value' =>
          simp [valTypeEqual, mapTables, valTypeEqual_iff key key', valTypeEqual_iff value value']
      | _ => simp [valTypeEqual, mapTables]
  | flags labels => cases b <;> simp [valTypeEqual, mapTables]
  | own rt => cases b <;> simp [valTypeEqual, mapTables]
  | borrow rt => cases b <;> simp [valTypeEqual, mapTables]
  | stream element =>
      cases b with
      | stream element' => simp [valTypeEqual, mapTables, valTypeEqualOption_iff element element']
      | _ => simp [valTypeEqual, mapTables]
  | future element =>
      cases b with
      | future element' => simp [valTypeEqual, mapTables, valTypeEqualOption_iff element element']
      | _ => simp [valTypeEqual, mapTables]

theorem valTypeEqualOption_iff (a b : Option ValType) :
    valTypeEqualOption resource identity a b = true ↔
      mapTablesOption (identity.key resource) a = mapTablesOption (identity.key resource) b := by
  cases a with
  | none => cases b <;> simp [valTypeEqualOption, mapTablesOption]
  | some type =>
      cases b with
      | none => simp [valTypeEqualOption, mapTablesOption]
      | some type' => simp [valTypeEqualOption, mapTablesOption, valTypeEqual_iff type type']

theorem everyElement_iff (a b : List ValType) :
    everyElement resource identity a b = true ↔
      mapTablesAll (identity.key resource) a = mapTablesAll (identity.key resource) b := by
  cases a with
  | nil => cases b <;> simp [everyElement, mapTablesAll]
  | cons type rest =>
      cases b with
      | nil => simp [everyElement, mapTablesAll]
      | cons type' rest' =>
          simp [everyElement, mapTablesAll, valTypeEqual_iff type type',
            everyElement_iff rest rest']

theorem everyField_iff (a b : List FieldType) :
    everyField resource identity a b = true ↔
      mapTablesFields (identity.key resource) a = mapTablesFields (identity.key resource) b := by
  cases a with
  | nil =>
      cases b with
      | nil => simp [everyField, mapTablesFields]
      | cons field' rest' =>
          obtain ⟨label', type'⟩ := field'
          simp [everyField, mapTablesFields]
  | cons field rest =>
      obtain ⟨label, type⟩ := field
      cases b with
      | nil => simp [everyField, mapTablesFields]
      | cons field' rest' =>
          obtain ⟨label', type'⟩ := field'
          simp [everyField, mapTablesFields, valTypeEqual_iff type type', everyField_iff rest rest']

theorem everyCase_iff (a b : List CaseType) :
    everyCase resource identity a b = true ↔
      mapTablesCases (identity.key resource) a = mapTablesCases (identity.key resource) b := by
  cases a with
  | nil =>
      cases b with
      | nil => simp [everyCase, mapTablesCases]
      | cons case' rest' =>
          obtain ⟨label', type'⟩ := case'
          simp [everyCase, mapTablesCases]
  | cons case rest =>
      obtain ⟨label, type⟩ := case
      cases b with
      | nil => simp [everyCase, mapTablesCases]
      | cons case' rest' =>
          obtain ⟨label', type'⟩ := case'
          simp [everyCase, mapTablesCases, valTypeEqualOption_iff type type',
            everyCase_iff rest rest']

end

theorem valTypeEqual_equivalence :
    Equivalence fun a b : ValType => valTypeEqual resource identity a b = true := by
  simp only [valTypeEqual_iff]
  exact InvImage.equivalence _ (mapTables (identity.key resource)) eq_equivalence

theorem valTypeEqualOption_equivalence :
    Equivalence fun a b : Option ValType => valTypeEqualOption resource identity a b = true := by
  simp only [valTypeEqualOption_iff]
  exact InvImage.equivalence _ (mapTablesOption (identity.key resource)) eq_equivalence

theorem valTypesEqual_equivalence :
    Equivalence fun a b : List ValType => valTypesEqual resource a b = true := by
  have meaning (a b : List ValType) : valTypesEqual resource a b = true ↔
      mapTablesAll (ResourceIdentity.localTable.key resource) a =
        mapTablesAll (ResourceIdentity.localTable.key resource) b := by
    simpa [valTypesEqual, everyElement_iff] using
      sameLength_of_map (length_mapTablesAll (ResourceIdentity.localTable.key resource)) a b
  simp only [meaning]
  exact InvImage.equivalence _ (mapTablesAll _) eq_equivalence

end Characterization

end Polyengine.Cabi
