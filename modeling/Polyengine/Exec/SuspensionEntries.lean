import Polyengine.Exec.SuspendableFuncs

/-!
# Entries that can suspend

The ways in which JS code enters core functions, the mode of each, and that an entry into a function
that can suspend is a promising one where the classification decides.
-/

set_option autoImplicit false

namespace Polyengine.Exec

open Polyengine.Cabi Polyengine.Library

inductive Entry where
  | liftedExport (core : FuncAddr)
  | liftedCallback (callback : FuncAddr)
  | threadFunction (start : FuncAddr)
  | factCallee (callee : FuncAddr)
  | factCallback (callee callback : FuncAddr)
  | syncEntry (core : FuncAddr)
  | guestDtor (dtor : FuncAddr)
  | realloc (core : FuncAddr)
  | postReturn (core : FuncAddr)
  deriving Repr, DecidableEq

/-- `calleeCanBlock`. -/
def Executor.calleeCanBlock (ex : Executor) (callee : FuncAddr) : Bool :=
  decide (callee ∈ ex.suspendableFuncs)

/-- The mode in which `enterWasm` makes the entry. -/
def Executor.entryMode (ex : Executor) (plan : Plan) : Entry → SuspensionMode
  | .liftedExport _ | .liftedCallback _ | .threadFunction _ => plan.mode
  | .factCallee callee | .factCallback callee _ =>
      if ex.calleeCanBlock callee then plan.mode else .plain
  | .syncEntry _ | .guestDtor _ | .realloc _ | .postReturn _ => .plain

/-- The function whose classification decides about the entry; the others are plain in any case. -/
def Entry.classifiedBy : Entry → Option FuncAddr
  | .liftedExport core | .liftedCallback core | .threadFunction core => some core
  | .factCallee callee | .factCallback callee _ => some callee
  | .syncEntry _ | .guestDtor _ | .realloc _ | .postReturn _ => none

/-- An exported function from which a call chain reaches a suspending import is suspendable, and it is
entered as one; table calls count where they are made by an instance whose imports lead to such an
import. -/
theorem suspendable_entered {plan : Plan} {ex : Executor} {i : Nat} {core : CoreInstance}
    {item : ExportItem} {address : FuncAddr} {tier : Tier} (jspi : plan.mode = .jspi)
    (ran : runInitializers plan = .ok ex) (made : ex.instances[i]? = some core)
    (exported : core.exportValue i item.name = some (.func address))
    (promotes : core.Promotes tier)
    (reaches : Reaches plan ex.instances (HasEvidence plan ex.instances tier) tier address) :
    address ∈ ex.suspendableFuncs ∧
      (∀ entry : Entry, entry.classifiedBy = some address → ex.entryMode plan entry = .jspi) ∧
      ∀ mode, (.coreExport i item, mode) ∈ ex.destructors → mode = .jspi := by
  have classified : Classified plan ex :=
    (runInitializersFrom_classified jspi plan.initializers .create (.create plan)).of_ok ran
  have member : address ∈ core.exportedFuncs i := by
    rcases CoreInstance.exportValue_cases exported with ⟨_, same, member⟩ | ⟨uncalled, _⟩
    · cases same
      exact member
    · cases uncalled
  have evidence : HasEvidence plan ex.instances tier i :=
    evidence_of_holder classified.linked (reaches.evidence classified.linked) i core made
      (CoreInstance.exportedFuncs_subset member)
  have suspendable : address ∈ ex.suspendableFuncs :=
    (classified.marked i core tier made evidence address member).2 promotes
  refine ⟨suspendable, ?_, ?_⟩
  · intro entry decides
    cases entry with
    | liftedExport _ | liftedCallback _ | threadFunction _ => exact jspi
    | factCallee callee | factCallback callee _ =>
        cases decides
        simp [Executor.entryMode, Executor.calleeCanBlock, suspendable, jspi]
    | syncEntry _ | guestDtor _ | realloc _ | postReturn _ => cases decides
  · intro mode recorded
    exact (classified.destructors _ recorded i item rfl).2 core address tier made exported evidence
      promotes

/-- A guest module that calls a blocking built-in itself. -/
def directPlan : Plan where
  modules :=
    [(.embedded, {
        declared := [⟨"$root", "[waitable-set-wait]", .func⟩]
        functions := [⟨[0], []⟩]
        stores := []
        exports := [("run", .func 1)] })]
  trampolines := [⟨.waitableSetWait, some 0⟩]
  canonicalOptions := []
  imports := []
  initializers := [.instantiateModule 0 (some 0) [.trampoline 0]]
  mode := .jspi

theorem suspendable_entered_direct :
    ∃ ex, runInitializers directPlan = .ok ex ∧ .wasm 0 0 ∈ ex.suspendableFuncs ∧
      ex.entryMode directPlan (.factCallee (.wasm 0 0)) = .jspi := by
  refine ⟨_, rfl, ?_⟩
  obtain ⟨suspendable, entered, _⟩ :=
    @suspendable_entered directPlan _ 0 _ ⟨"run", .func⟩ (.wasm 0 0) .blocking rfl rfl rfl rfl
      (Or.inl rfl) (by
        apply Reaches.call rfl rfl (List.mem_singleton_self 0) rfl
        apply Reaches.suspending rfl rfl
        exact rfl)
  exact ⟨suspendable, entered _ rfl⟩

/-- A module that calls a blocking built-in through the table of a shim, which a fixup module fills. -/
def shimPlan : Plan where
  modules :=
    [(.embedded, {
        declared := []
        functions := [⟨[], [0]⟩]
        stores := []
        exports := [("0", .func 0), ("$imports", .table 0)] }),
      (.embedded, {
        declared := [⟨"$root", "[waitable-set-wait]", .func⟩]
        functions := [⟨[0], []⟩]
        stores := []
        exports := [("run", .func 1)] }),
      (.embedded, {
        declared := [⟨"", "$imports", .table⟩, ⟨"", "0", .func⟩]
        functions := []
        stores := [(0, 0)]
        exports := [] })]
  trampolines := [⟨.waitableSetWait, some 0⟩]
  canonicalOptions := []
  imports := []
  initializers :=
    [.instantiateModule 0 (some 0) [],
      .instantiateModule 1 (some 0) [.coreExport 0 ⟨"0", .func⟩],
      .instantiateModule 2 (some 0) [.coreExport 0 ⟨"$imports", .table⟩, .trampoline 0]]
  mode := .jspi

/-- The shim hides the built-in: the module is entered plainly and reaches a suspending import. The
synchronous entry of an export and a destructor that a guest starts are plain for any function. -/
theorem plain_entries_suspend :
    (∃ ex, runInitializers shimPlan = .ok ex ∧
      Reaches shimPlan ex.instances (fun _ => True) .blocking (.wasm 1 0) ∧
      .wasm 1 0 ∉ ex.suspendableFuncs ∧
      ex.entryMode shimPlan (.factCallee (.wasm 1 0)) = .plain) ∧
    ∃ ex, runInitializers directPlan = .ok ex ∧
      Reaches directPlan ex.instances (fun _ => True) .blocking (.wasm 0 0) ∧
      ex.entryMode directPlan (.syncEntry (.wasm 0 0)) = .plain ∧
      ex.entryMode directPlan (.guestDtor (.wasm 0 0)) = .plain := by
  constructor
  · refine ⟨_, rfl, ?_, by decide, by decide⟩
    apply Reaches.call rfl rfl (List.mem_singleton_self 0) rfl
    apply Reaches.indirect rfl rfl trivial (List.mem_singleton_self 0)
    · exact ⟨2, _, (0, 0), rfl, List.mem_singleton_self _, rfl, rfl⟩
    · apply Reaches.suspending rfl rfl
      exact rfl
  · refine ⟨_, rfl, ?_, rfl, rfl⟩
    apply Reaches.call rfl rfl (List.mem_singleton_self 0) rfl
    apply Reaches.suspending rfl rfl
    exact rfl

end Polyengine.Exec
