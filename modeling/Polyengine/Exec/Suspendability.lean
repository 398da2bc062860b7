import Polyengine.Exec.RunInitializers

/-!
# Which functions can suspend

The call chains of a graph of core instances, the evidence that the imports of an instance give, and
that the executor marks the exports of the instances with evidence.
-/

set_option autoImplicit false

namespace Polyengine.Exec

open Polyengine.Cabi Polyengine.Library

/-! ## Call chains -/

/-- The two kinds of evidence: a call that genuinely blocks, and any suspending import. -/
inductive Tier where
  | blocking | wrap
  deriving Repr, DecidableEq

def Plan.suspends (plan : Plan) (index : Nat) : Tier → Prop
  | .wrap => True
  | .blocking =>
      match plan.trampolines[index]?.map Trampoline.kind with
      | some (.lowerImport _) => True
      | some kind => trampolineNeedsSuspension kind plan.optionsAsync = true
      | none => False

/-- The core function that is called through a value. -/
def Importable.callee : Importable → Option FuncAddr
  | .func address => some address
  | .postReturn _ original => original.callee
  | _ => none

section

variable (plan : Plan) (instances : List CoreInstance)

def Stored (table : Importable) (address : FuncAddr) : Prop :=
  ∃ (i : Nat) (core : CoreInstance) (slot : Nat × Nat), instances[i]? = some core ∧ slot ∈ core.module.stores ∧
    core.item i .table slot.1 = table ∧ (core.funcSpace i)[slot.2]? = some address

/-- Some call chain from the function reaches an import that suspends; of the calls through tables only
those of the instances in `tables` count. -/
inductive Reaches (tables : Nat → Prop) (tier : Tier) : FuncAddr → Prop where
  | suspending {i p self position index : Nat} {core : CoreInstance}
      (made : instances[i]? = some core)
      (imported : core.imports[p]? = some (.suspending self position index))
      (suspends : plan.suspends index tier) : Reaches tables tier (.host i p)
  | wrapper {i p : Nat} {core : CoreInstance} {value : Importable} {callee : FuncAddr}
      (made : instances[i]? = some core) (imported : core.imports[p]? = some value)
      (calls : value.callee = some callee) (reaches : Reaches tables tier callee) :
      Reaches tables tier (.host i p)
  | call {i k index : Nat} {core : CoreInstance} {body : Body} {callee : FuncAddr}
      (made : instances[i]? = some core) (defined : core.module.functions[k]? = some body)
      (calls : index ∈ body.calls) (resolved : (core.funcSpace i)[index]? = some callee)
      (reaches : Reaches tables tier callee) : Reaches tables tier (.wasm i k)
  | indirect {i k index : Nat} {core : CoreInstance} {body : Body} {callee : FuncAddr}
      (made : instances[i]? = some core) (defined : core.module.functions[k]? = some body)
      (counts : tables i) (calls : index ∈ body.indirect)
      (stored : Stored instances (core.item i .table index) callee)
      (reaches : Reaches tables tier callee) : Reaches tables tier (.wasm i k)

inductive HasEvidence (tier : Tier) : Nat → Prop where
  | suspending {i self position index : Nat} {core : CoreInstance}
      (made : instances[i]? = some core)
      (imported : .suspending self position index ∈ core.imports)
      (suspends : plan.suspends index tier) : HasEvidence tier i
  | imported {i j : Nat} {core exporter : CoreInstance} {value : Importable} {address : FuncAddr}
      (made : instances[i]? = some core) (imported : value ∈ core.imports)
      (calls : value.callee = some address) (earlier : j < i)
      (exporting : instances[j]? = some exporter) (exported : address ∈ exporter.exportedFuncs j)
      (evidence : HasEvidence tier j) : HasEvidence tier i

end

def Linked (instances : List CoreInstance) : Prop :=
  ∀ (i : Nat) (core : CoreInstance) (value : Importable) (address : FuncAddr),
    instances[i]? = some core → value ∈ core.imports →
    value.callee = some address →
    ∃ (j : Nat) (exporter : CoreInstance), j < i ∧ instances[j]? = some exporter ∧ address ∈ exporter.exportedFuncs j

section

variable {plan : Plan} {instances : List CoreInstance} {tier : Tier}

theorem CoreInstance.exportedFuncs_subset {core : CoreInstance} {self : Nat} {address : FuncAddr}
    (exported : address ∈ core.exportedFuncs self) : address ∈ core.funcSpace self := by
  obtain ⟨⟨name, item⟩, _, found⟩ := List.mem_filterMap.mp exported
  cases item with
  | func index => exact List.mem_of_getElem? found
  | table index | object index => cases found

theorem CoreInstance.of_mem_funcSpace {core : CoreInstance} {self : Nat} {address : FuncAddr}
    (held : address ∈ core.funcSpace self) :
    address.origin = self ∨ .func address ∈ core.imports := by
  rcases List.mem_append.mp held with imported | own
  · obtain ⟨⟨value, position⟩, member, found⟩ := List.mem_filterMap.mp imported
    have isImport : value ∈ core.imports := List.fst_mem_of_mem_zipIdx member
    by_cases isFunc : value.links .func
    · simp only [isFunc, if_true, Option.some.injEq] at found
      cases value with
      | func imported =>
          cases found
          exact Or.inr isImport
      | _ =>
          cases found
          exact Or.inl rfl
    · simp only [isFunc] at found
      cases found
  · obtain ⟨k, _, rfl⟩ := List.mem_map.mp own
    exact Or.inl rfl

theorem evidence_of_holder (linked : Linked instances) {address : FuncAddr}
    (own : HasEvidence plan instances tier address.origin) (i : Nat) :
    ∀ core, instances[i]? = some core → address ∈ core.funcSpace i →
      HasEvidence plan instances tier i := by
  induction i using Nat.strongRecOn with
  | ind i ih =>
      intro core made held
      rcases CoreInstance.of_mem_funcSpace held with origin | imported
      · rw [← origin]
        exact own
      · obtain ⟨j, exporter, earlier, exporting, exported⟩ :=
          linked i core _ address made imported rfl
        have evidence : HasEvidence plan instances tier j :=
          ih j earlier exporter exporting (CoreInstance.exportedFuncs_subset exported)
        exact .imported made imported rfl earlier exporting exported evidence

/-- A chain whose table calls are made by instances with evidence starts at an instance with
evidence. -/
theorem Reaches.evidence (linked : Linked instances) {address : FuncAddr}
    (reaches : Reaches plan instances (HasEvidence plan instances tier) tier address) :
    HasEvidence plan instances tier address.origin := by
  induction reaches with
  | suspending made imported suspends =>
      exact .suspending made (List.mem_of_getElem? imported) suspends
  | wrapper made imported calls _ ih =>
      have member := List.mem_of_getElem? imported
      obtain ⟨j, exporter, earlier, exporting, exported⟩ := linked _ _ _ _ made member calls
      have evidence : HasEvidence plan instances tier j :=
        evidence_of_holder linked ih j exporter exporting
          (CoreInstance.exportedFuncs_subset exported)
      exact .imported made member calls earlier exporting exported evidence
  | call made _ _ resolved _ ih =>
      exact evidence_of_holder linked ih _ _ made (List.mem_of_getElem? resolved)
  | indirect _ _ counts _ _ _ _ => exact counts

theorem evidence_append {core : CoreInstance} {i : Nat}
    (evidence : HasEvidence plan (instances ++ [core]) tier i) (old : i < instances.length) :
    HasEvidence plan instances tier i := by
  induction evidence with
  | suspending made imported suspends =>
      rw [List.getElem?_append_left old] at made
      exact .suspending made imported suspends
  | imported made imported calls earlier exporting exported _ ih =>
      rw [List.getElem?_append_left old] at made
      rw [List.getElem?_append_left (Nat.lt_trans earlier old)] at exporting
      exact .imported made imported calls earlier exporting exported
        (ih (Nat.lt_trans earlier old))

end

end Polyengine.Exec
