import Polyengine.Exec.Suspendability

/-!
# The suspendable functions of an executor

Resolving the imports of a module sees the evidence of each, and the new instance is marked with what
was seen; so after the initializers every function that can suspend is treated as one that does.
-/

set_option autoImplicit false

namespace Polyengine.Exec

open Polyengine.Cabi Polyengine.Library

/-- What holds of the results, whatever the failures are. -/
abbrev Yields {Result : Type} (computation : Except Failure Result) (post : Result → Prop) : Prop :=
  Fallible.Satisfies (fun _ => True) computation post

namespace Executor

def saw (ex : Executor) : Tier → Prop
  | .blocking => ex.sawBlockingImport = true
  | .wrap => ex.sawBlockingImport = true ∨ ex.sawWrapImport = true

def marks (ex : Executor) (address : FuncAddr) : Tier → Prop
  | .blocking => address ∈ ex.blockingFuncs
  | .wrap => address ∈ ex.blockingFuncs ∨ address ∈ ex.wrapFuncs

/-- Resolving an import keeps the instances and the marks, and no evidence is forgotten. -/
structure Keeps (before after : Executor) : Prop where
  instances : after.instances = before.instances
  blockingFuncs : after.blockingFuncs = before.blockingFuncs
  wrapFuncs : after.wrapFuncs = before.wrapFuncs
  suspendableFuncs : after.suspendableFuncs = before.suspendableFuncs
  destructors : after.destructors = before.destructors
  saw : ∀ tier, before.saw tier → after.saw tier

theorem Keeps.refl (ex : Executor) : ex.Keeps ex :=
  ⟨rfl, rfl, rfl, rfl, rfl, fun _ seen => seen⟩

theorem Keeps.trans {first second third : Executor} (left : first.Keeps second)
    (right : second.Keeps third) : first.Keeps third where
  instances := right.instances.trans left.instances
  blockingFuncs := right.blockingFuncs.trans left.blockingFuncs
  wrapFuncs := right.wrapFuncs.trans left.wrapFuncs
  suspendableFuncs := right.suspendableFuncs.trans left.suspendableFuncs
  destructors := right.destructors.trans left.destructors
  saw := by
    intro tier seen
    exact right.saw tier (left.saw tier seen)

theorem Keeps.marks {before after : Executor} (keeps : before.Keeps after) (address : FuncAddr)
    (tier : Tier) : after.marks address tier ↔ before.marks address tier := by
  cases tier with
  | blocking => simp only [Executor.marks, keeps.blockingFuncs]
  | wrap => simp only [Executor.marks, keeps.blockingFuncs, keeps.wrapFuncs]

def Exports (ex : Executor) (address : FuncAddr) : Prop :=
  ∃ (j : Nat) (exporter : CoreInstance), ex.instances[j]? = some exporter ∧ address ∈ exporter.exportedFuncs j

structure Seen (plan : Plan) (ex : Executor) (value : Importable) : Prop where
  suspending : ∀ self position index tier, value = .suspending self position index →
    plan.suspends index tier → ex.saw tier
  callee : ∀ address, value.callee = some address →
    ex.Exports address ∧ ∀ tier, ex.marks address tier → ex.saw tier

theorem Seen.keeps {plan : Plan} {before after : Executor} {value : Importable}
    (seen : before.Seen plan value) (keeps : before.Keeps after) : after.Seen plan value where
  suspending := by
    intro self position index tier same suspends
    exact keeps.saw tier (seen.suspending self position index tier same suspends)
  callee := by
    intro address calls
    obtain ⟨exported, marked⟩ := seen.callee address calls
    refine ⟨?_, ?_⟩
    · simpa only [Exports, keeps.instances] using exported
    · intro tier marks
      exact keeps.saw tier (marked tier ((keeps.marks address tier).mp marks))

theorem Seen.of_inert {plan : Plan} {ex : Executor} {value : Importable}
    (notSuspending : ∀ self position index, value ≠ .suspending self position index)
    (uncalled : value.callee = none) : ex.Seen plan value where
  suspending := by
    intro self position index tier same
    exact absurd same (notSuspending self position index)
  callee := by
    intro address calls
    rw [uncalled] at calls
    cases calls

end Executor

section

variable {plan : Plan} {ex : Executor}

theorem CoreInstance.item_inert (core : CoreInstance) (self index : Nat) {kind : ImportKind}
    (notFunc : kind ≠ .func) :
    (core.item self kind index).callee = none ∧
      ∀ s position trampoline, core.item self kind index ≠ .suspending s position trampoline := by
  have inert : ∀ value : Importable, value.links kind = true →
      value.callee = none ∧ ∀ s position trampoline, value ≠ .suspending s position trampoline := by
    intro value links
    cases kind with
    | func => exact absurd rfl notFunc
    | table | object =>
        cases value with
        | table address | object address | flags componentInstance => simp [Importable.callee]
        | _ => cases links
  simp only [CoreInstance.item]
  cases found : (core.imports.filter (·.links kind))[index]? with
  | none =>
      cases kind with
      | func => exact absurd rfl notFunc
      | table | object => simp [Importable.callee]
  | some value =>
      have member := List.mem_of_getElem? found
      simpa only [found] using inert value (List.mem_filter.mp member).2

theorem CoreInstance.exportValue_cases {core : CoreInstance} {self : Nat} {name : String}
    {value : Importable} (found : core.exportValue self name = some value) :
    (∃ address, value = .func address ∧ address ∈ core.exportedFuncs self) ∨
      (value.callee = none ∧ ∀ s position index, value ≠ .suspending s position index) := by
  unfold CoreInstance.exportValue at found
  cases listed : core.module.exports.lookup name with
  | none =>
      rw [listed] at found
      cases found
  | some entry =>
      rw [listed] at found
      cases entry with
      | func index =>
          obtain ⟨address, held, rfl⟩ := Option.map_eq_some_iff.mp found
          obtain ⟨before, after, split, _⟩ := List.lookup_eq_some_iff.mp listed
          have member : (name, Extern.func index) ∈ core.module.exports := by
            rw [split]
            exact List.mem_append_right _ List.mem_cons_self
          exact Or.inl ⟨address, rfl, List.mem_filterMap.mpr ⟨_, member, held⟩⟩
      | table index =>
          cases found
          exact Or.inr (core.item_inert self index (by decide))
      | object index =>
          cases found
          exact Or.inr (core.item_inert self index (by decide))

def Executor.Resolved (ex : Executor) (value : Importable) : Prop :=
  (∃ address, value = .func address ∧ ex.Exports address) ∨
    (value.callee = none ∧ ∀ s position index, value ≠ .suspending s position index)

theorem buildLoweredImport_keeps (lowered : Nat) (ex : Executor) :
    Yields (buildLoweredImport plan lowered ex) ex.Keeps := by
  simp only [buildLoweredImport]
  cases ex.lowerings.lookup lowered with
  | none => exact trivial
  | some importIndex =>
      simp only
      cases plan.imports[importIndex]? with
      | none => exact trivial
      | some host =>
          cases host with
          | none => exact trivial
          | some suspendable =>
              cases suspendable with
              | false => exact Executor.Keeps.refl ex
              | true => exact ⟨rfl, rfl, rfl, rfl, rfl, fun _ seen => seen⟩

theorem trampoline_ok (index : Nat) (ex : Executor) :
    Yields (trampoline plan index ex) fun result =>
      ex.Keeps result.2 ∧ result.1 = .trampoline index := by
  unfold trampoline
  by_cases cached : index ∈ ex.trampolineCache
  · rw [if_pos cached]
    exact ⟨Executor.Keeps.refl ex, rfl⟩
  · rw [if_neg cached]
    cases plan.trampolines[index]? with
    | none => exact trivial
    | some decl =>
        have caches : ∀ next : Executor, ex.Keeps next →
            ex.Keeps { next with trampolineCache := index :: next.trampolineCache } := by
          intro next kept
          exact kept.trans ⟨rfl, rfl, rfl, rfl, rfl, fun _ seen => seen⟩
        cases kind : decl.kind with
        | lowerImport lowered =>
            simp only [kind, Yields, Fallible.satisfies_bind, Fallible.satisfies_pure]
            exact (buildLoweredImport_keeps lowered ex).imp fun next kept => ⟨caches next kept, trivial⟩
        | _ =>
            simp only [kind]
            exact ⟨caches ex (Executor.Keeps.refl ex), rfl⟩

theorem resolveCoreExport_ok (runtimeInstance : Nat) (item : ExportItem) (ex : Executor) :
    Yields (resolveCoreExport runtimeInstance item ex) fun value =>
      ∃ core, ex.instances[runtimeInstance]? = some core ∧
        core.exportValue runtimeInstance item.name = some value := by
  unfold resolveCoreExport
  cases made : ex.instances[runtimeInstance]? with
  | none => exact trivial
  | some core =>
      cases found : core.exportValue runtimeInstance item.name with
      | none =>
          simp only [found]
          exact trivial
      | some value =>
          simp only [found]
          exact ⟨core, rfl, found⟩

theorem Executor.Resolved.of_export {runtimeInstance : Nat} {name : String} {core : CoreInstance}
    {value : Importable} (made : ex.instances[runtimeInstance]? = some core)
    (found : core.exportValue runtimeInstance name = some value) : ex.Resolved value := by
  rcases CoreInstance.exportValue_cases found with ⟨address, same, exported⟩ | inert
  · exact Or.inl ⟨address, same, runtimeInstance, core, made, exported⟩
  · exact Or.inr inert

theorem resolveCoreDef_ok (declaringInstance : Option Nat) (ref : CoreDef) (ex : Executor) :
    Yields (resolveCoreDef plan declaringInstance ref ex) fun result =>
      ex.Keeps result.2 ∧ ex.Resolved result.1 := by
  cases ref with
  | coreExport runtimeInstance item =>
      simp only [resolveCoreDef, Yields, Fallible.satisfies_bind, Fallible.satisfies_pure]
      refine (resolveCoreExport_ok runtimeInstance item ex).imp fun value => ?_
      rintro ⟨core, made, found⟩
      exact ⟨Executor.Keeps.refl ex, .of_export made found⟩
  | instanceFlags componentInstance =>
      exact ⟨Executor.Keeps.refl ex, Or.inr ⟨rfl, by simp⟩⟩
  | trampoline index =>
      refine (trampoline_ok index ex).imp fun result => ?_
      rintro ⟨kept, same⟩
      rw [same]
      exact ⟨kept, Or.inr ⟨rfl, by simp⟩⟩
  | unsafeIntrinsic symbol =>
      by_cases known : symbol ∈ unsafeIntrinsics
      · simp only [resolveCoreDef, if_pos known]
        exact ⟨Executor.Keeps.refl ex, Or.inr ⟨rfl, by simp⟩⟩
      · simp only [resolveCoreDef, if_neg known]
        exact trivial

theorem Executor.noteEvidence_keeps (value : Importable) (ex : Executor) :
    ex.Keeps (ex.noteEvidence value) := by
  cases value with
  | func address =>
      refine ⟨rfl, rfl, rfl, rfl, rfl, ?_⟩
      intro tier seen
      cases tier with
      | blocking => simp [Executor.noteEvidence, Executor.saw, show ex.sawBlockingImport from seen]
      | wrap =>
          rcases seen with blocking | wrapped
          · simp [Executor.noteEvidence, Executor.saw, blocking]
          · simp [Executor.noteEvidence, Executor.saw, wrapped]
  | _ => exact Executor.Keeps.refl ex

theorem Executor.noteEvidence_seen {value : Importable} (resolved : ex.Resolved value) :
    (ex.noteEvidence value).Seen plan value := by
  rcases resolved with ⟨address, rfl, exported⟩ | ⟨uncalled, notSuspending⟩
  · exact {
      suspending := by
        intro self position index tier same
        cases same
      callee := by
        intro callee calls
        cases calls
        refine ⟨exported, ?_⟩
        intro tier marks
        cases tier with
        | blocking =>
            have marked : address ∈ ex.blockingFuncs := marks
            simp [Executor.noteEvidence, Executor.saw, marked]
        | wrap =>
            rcases marks with blocking | wrapped
            · have marked : address ∈ ex.blockingFuncs := blocking
              simp [Executor.noteEvidence, Executor.saw, marked]
            · have marked : address ∈ ex.wrapFuncs := wrapped
              simp [Executor.noteEvidence, Executor.saw, marked] }
  · exact Executor.Seen.of_inert notSuspending uncalled

theorem Executor.Seen.of_suspending {self position index : Nat}
    (seen : ∀ tier, plan.suspends index tier → ex.saw tier) :
    ex.Seen plan (.suspending self position index) where
  suspending := by
    intro self' position' index' tier same suspends
    cases same
    exact seen tier suspends
  callee := by
    intro address calls
    cases calls

theorem Executor.sawBlocking_keeps (ex : Executor) :
    ex.Keeps { ex with sawBlockingImport := true } := by
  refine ⟨rfl, rfl, rfl, rfl, rfl, ?_⟩
  intro tier _
  cases tier with
  | blocking => rfl
  | wrap => exact Or.inl rfl

theorem Executor.sawWrap_keeps (ex : Executor) : ex.Keeps { ex with sawWrapImport := true } := by
  refine ⟨rfl, rfl, rfl, rfl, rfl, ?_⟩
  intro tier seen
  cases tier with
  | blocking => exact seen
  | wrap => exact Or.inr rfl

theorem importValue_ok (declaringInstance : Option Nat) (position : Nat) (ref : CoreDef)
    (ex : Executor) :
    Yields (importValue plan declaringInstance position ref ex) fun result =>
      ex.Keeps result.2 ∧ result.2.Seen plan result.1 := by
  simp only [importValue, Yields, Fallible.satisfies_bind]
  refine (resolveCoreDef_ok declaringInstance ref ex).imp fun result => ?_
  obtain ⟨value, next⟩ := result
  rintro ⟨kept, resolved⟩
  have kept : ex.Keeps next := kept
  have resolvedNext : next.Resolved value := by
    simpa only [Executor.Resolved, Executor.Exports, kept.instances] using resolved
  have keeps := kept.trans (next.noteEvidence_keeps value)
  have plain : ex.Keeps (next.noteEvidence value) ∧
      (next.noteEvidence value).Seen plan value :=
    ⟨keeps, Executor.noteEvidence_seen resolvedNext⟩
  cases mode : plan.mode with
  | plain => exact plain
  | jspi =>
      cases ref with
      | coreExport _ _ => exact plain
      | instanceFlags _ => exact plain
      | unsafeIntrinsic _ => exact plain
      | trampoline index =>
          simp only
          cases declared : plan.trampolines[index]? with
          | none => exact plain
          | some decl =>
              have blocking : ∀ self : Nat,
                  ex.Keeps { next.noteEvidence value with sawBlockingImport := true } ∧
                    ({ next.noteEvidence value with sawBlockingImport := true } : Executor).Seen plan
                      (.suspending self position index) := by
                intro self
                refine ⟨keeps.trans (Executor.sawBlocking_keeps _), .of_suspending ?_⟩
                intro tier _
                cases tier with
                | blocking => rfl
                | wrap => exact Or.inl rfl
              have others : ∀ kind : TrampolineKind,
                  (plan.suspends index .blocking →
                    trampolineNeedsSuspension kind plan.optionsAsync = true) →
                  Yields
                    (if trampolineCanBlock kind plan.optionsAsync then
                      if trampolineNeedsSuspension kind plan.optionsAsync then
                        return (.suspending (next.noteEvidence value).instances.length position index,
                          { next.noteEvidence value with sawBlockingImport := true })
                      else
                        return (.suspending (next.noteEvidence value).instances.length position index,
                          { next.noteEvidence value with sawWrapImport := true })
                    else return (value, next.noteEvidence value))
                    fun result => ex.Keeps result.2 ∧ result.2.Seen plan result.1 := by
                intro kind needed
                by_cases canBlock : trampolineCanBlock kind plan.optionsAsync = true
                · by_cases needs : trampolineNeedsSuspension kind plan.optionsAsync = true
                  · rw [if_pos canBlock, if_pos needs]
                    exact blocking _
                  · rw [if_pos canBlock, if_neg needs]
                    refine ⟨keeps.trans (Executor.sawWrap_keeps _), .of_suspending ?_⟩
                    intro tier suspends
                    cases tier with
                    | blocking => exact absurd (needed suspends) needs
                    | wrap => exact Or.inr rfl
                · rw [if_neg canBlock]
                  exact plain
              cases kind : decl.kind with
              | lowerImport lowered =>
                  simp only [kind]
                  by_cases marked : lowered ∈ (next.noteEvidence value).suspendableLowerings
                  · rw [if_pos marked]
                    exact blocking _
                  · rw [if_neg marked]
                    exact plain
              | _ =>
                  simp only [kind]
                  apply others
                  intro suspends
                  simpa only [Plan.suspends, declared, Option.map_some, kind] using suspends

theorem Executor.Seen.wrapped {self : Nat} {value : Importable} (seen : ex.Seen plan value) :
    ex.Seen plan (.postReturn self value) where
  suspending := by
    intro self' position index tier same
    cases same
  callee := seen.callee

theorem wrapPostReturn_ok (ref : CoreDef) (value : Importable) (self : Nat) (linking : Linking) :
    Yields (wrapPostReturn plan ref value self linking) fun result =>
      result.1 = .postReturn self value ∧ result.2.values = linking.values := by
  unfold wrapPostReturn
  by_cases callable : value.isFunction = false
  · rw [if_pos callable]
    exact trivial
  · rw [if_neg callable]
    cases coreDefOwner plan ref with
    | none => exact trivial
    | some owner =>
        simp only
        cases linking.postReturnWrappers.lookup value with
        | none => exact ⟨rfl, rfl⟩
        | some prior =>
            by_cases other : prior ≠ owner
            · simp only [if_pos other]
              exact trivial
            · simp only [if_neg other]
              exact ⟨rfl, rfl⟩

theorem Linking.add_ok (imp : DeclaredImport) (value : Importable) (linking : Linking) :
    Yields (linking.add imp value) fun result => result.values = linking.values ++ [value] := by
  unfold Linking.add
  by_cases same : ∀ prior ∈ linking.seenAt.lookup (imp.module, imp.name), prior = value
  · rw [if_pos same]
    exact rfl
  · rw [if_neg same]
    exact trivial

theorem resolveImport_ok (declaringInstance : Option Nat) (manifest : Option (List IntrinsicEntry))
    (imp : DeclaredImport) (ref : CoreDef) (linking : Linking)
    (seen : ∀ value ∈ linking.values, ex.Seen plan value) :
    Yields (resolveImport plan declaringInstance manifest imp ref linking ex) fun result =>
      ex.Keeps result.2 ∧ ∀ value ∈ result.1.values, result.2.Seen plan value := by
  have adds : ∀ (next : Executor) (linking' : Linking) (value : Importable), ex.Keeps next →
      linking'.values = linking.values → next.Seen plan value →
      Yields (linking'.add imp value) fun result =>
        ex.Keeps next ∧ ∀ value ∈ result.values, next.Seen plan value := by
    intro next linking' value kept same seenValue
    refine (Linking.add_ok imp value linking').imp fun result values => ⟨kept, ?_⟩
    intro value' member
    rw [values, same] at member
    rcases List.mem_append.mp member with old | new
    · exact (seen value' old).keeps kept
    · cases List.mem_singleton.mp new
      exact seenValue
  simp only [resolveImport, Yields, Fallible.satisfies_bind]
  cases checkManifest manifest linking.values.length imp ref with
  | error failure => exact trivial
  | ok checked =>
      refine (importValue_ok declaringInstance linking.values.length ref ex).imp fun result => ?_
      obtain ⟨value, next⟩ := result
      rintro ⟨kept, seenValue⟩
      by_cases wraps : manifest.isSome ∧ imp.module = "post_return"
      · simp only [if_pos wraps, Fallible.satisfies_bind, Fallible.satisfies_pure]
        refine (wrapPostReturn_ok ref value next.instances.length linking).imp fun wrapped => ?_
        obtain ⟨value', linking'⟩ := wrapped
        rintro ⟨rfl, same⟩
        exact adds next linking' _ kept same seenValue.wrapped
      · simp only [if_neg wraps, Fallible.satisfies_bind, Fallible.satisfies_pure]
        exact adds next linking value kept rfl seenValue

theorem resolveImports_ok (declaringInstance : Option Nat) (manifest : Option (List IntrinsicEntry))
    (imports : List (DeclaredImport × CoreDef)) :
    ∀ (linking : Linking) (ex : Executor), (∀ value ∈ linking.values, ex.Seen plan value) →
      Yields (resolveImports plan declaringInstance manifest imports linking ex) fun result =>
        ex.Keeps result.2 ∧ ∀ value ∈ result.1.values, result.2.Seen plan value := by
  induction imports with
  | nil =>
      intro linking ex seen
      exact ⟨Executor.Keeps.refl ex, seen⟩
  | cons entry rest ih =>
      intro linking ex seen
      obtain ⟨imp, ref⟩ := entry
      simp only [resolveImports, Yields, Fallible.satisfies_bind]
      refine (resolveImport_ok declaringInstance manifest imp ref linking seen).imp fun result => ?_
      obtain ⟨linking', next⟩ := result
      rintro ⟨kept, seenNext⟩
      refine (ih linking' next seenNext).imp fun last => ?_
      rintro ⟨keptLast, seenLast⟩
      exact ⟨Executor.Keeps.trans kept keptLast, seenLast⟩

end

/-! ## The marks -/

/-- Evidence of the tier makes the exports of the instance suspendable; that of the wrap tier only makes
those of a component's own modules suspendable, not those of an adapter. -/
def CoreInstance.Promotes (core : CoreInstance) (tier : Tier) : Prop :=
  tier = .blocking ∨ core.owner.isSome = true

/-- The exports of every instance with evidence are marked, and a destructor that is one of them is
entered as the marks say. -/
structure Classified (plan : Plan) (ex : Executor) : Prop where
  linked : Linked ex.instances
  marked : ∀ (i : Nat) (core : CoreInstance) (tier : Tier), ex.instances[i]? = some core →
    HasEvidence plan ex.instances tier i → ∀ address ∈ core.exportedFuncs i,
      ex.marks address tier ∧ (core.Promotes tier → address ∈ ex.suspendableFuncs)
  destructors : ∀ entry ∈ ex.destructors, ∀ (j : Nat) (item : ExportItem),
    entry.1 = .coreExport j item → j < ex.instances.length ∧
      ∀ (core : CoreInstance) (address : FuncAddr) (tier : Tier), ex.instances[j]? = some core →
        core.exportValue j item.name = some (.func address) →
        HasEvidence plan ex.instances tier j → core.Promotes tier → entry.2 = .jspi

theorem Classified.create (plan : Plan) : Classified plan .create where
  linked := by
    intro i core value address made
    cases made
  marked := by
    intro i core tier made
    cases made
  destructors := by
    intro entry member
    cases member

section

variable {plan : Plan} {ex : Executor}

theorem Classified.keeps {next : Executor} (classified : Classified plan ex)
    (keeps : ex.Keeps next) : Classified plan next where
  linked := by simpa only [keeps.instances] using classified.linked
  marked := by
    simpa only [keeps.instances, keeps.marks, keeps.suspendableFuncs] using classified.marked
  destructors := by
    simpa only [keeps.instances, keeps.destructors] using classified.destructors

theorem Executor.addInstance_ok (core : CoreInstance) (ex : Executor) :
    (ex.addInstance core).instances = ex.instances ++ [core] ∧
      (ex.addInstance core).destructors = ex.destructors ∧
      (∀ address tier, ex.marks address tier → (ex.addInstance core).marks address tier) ∧
      (∀ address ∈ ex.suspendableFuncs, address ∈ (ex.addInstance core).suspendableFuncs) ∧
      ∀ tier, ex.saw tier → ∀ address ∈ core.exportedFuncs ex.instances.length,
        (ex.addInstance core).marks address tier ∧
          (core.Promotes tier → address ∈ (ex.addInstance core).suspendableFuncs) := by
  cases blocking : ex.sawBlockingImport with
  | true =>
      simp only [Executor.addInstance, blocking, if_true]
      refine ⟨trivial, trivial, ?_, ?_, ?_⟩
      · intro address tier marks
        cases tier with
        | blocking => exact List.mem_append_right _ marks
        | wrap => exact marks.imp (List.mem_append_right _) id
      · intro address member
        exact List.mem_append_right _ member
      · intro tier _ address exported
        refine ⟨?_, fun _ => List.mem_append_left _ exported⟩
        cases tier with
        | blocking => exact List.mem_append_left _ exported
        | wrap => exact Or.inl (List.mem_append_left _ exported)
  | false =>
      cases wrapped : ex.sawWrapImport with
      | true =>
          simp only [Executor.addInstance, blocking, wrapped, Bool.false_eq_true, if_false, if_true]
          refine ⟨trivial, trivial, ?_, ?_, ?_⟩
          · intro address tier marks
            cases tier with
            | blocking => exact marks
            | wrap => exact marks.imp id (List.mem_append_right _)
          · intro address member
            by_cases owned : core.owner.isSome = true
            · rw [if_pos owned]
              exact List.mem_append_right _ member
            · rw [if_neg owned]
              exact member
          · intro tier seen address exported
            cases tier with
            | blocking =>
                rw [Executor.saw, blocking] at seen
                cases seen
            | wrap =>
                refine ⟨Or.inr (List.mem_append_left _ exported), ?_⟩
                rintro (impossible | owned)
                · cases impossible
                · rw [if_pos owned]
                  exact List.mem_append_left _ exported
      | false =>
          simp only [Executor.addInstance, blocking, wrapped, Bool.false_eq_true, if_false]
          refine ⟨trivial, trivial, fun _ _ marks => marks, fun _ member => member, ?_⟩
          intro tier seen
          cases tier with
          | blocking =>
              rw [Executor.saw, blocking] at seen
              cases seen
          | wrap =>
              rw [Executor.saw, blocking, wrapped] at seen
              rcases seen with impossible | impossible <;> cases impossible

theorem Classified.addInstance (classified : Classified plan ex) {core : CoreInstance}
    (seen : ∀ value ∈ core.imports, ex.Seen plan value) :
    Classified plan (ex.addInstance core) := by
  obtain ⟨instances, destructors, keepsMarks, keepsSuspendable, marksNew⟩ := ex.addInstance_ok core
  -- an instance of the list is one of the old ones or the new one
  have cases' : ∀ (i : Nat) (other : CoreInstance), (ex.instances ++ [core])[i]? = some other →
      (i < ex.instances.length ∧ ex.instances[i]? = some other) ∨
        (i = ex.instances.length ∧ other = core) := by
    intro i other made
    rcases Nat.lt_or_ge i ex.instances.length with old | new
    · rw [List.getElem?_append_left old] at made
      exact Or.inl ⟨old, made⟩
    · rw [List.getElem?_append_right new, List.getElem?_singleton] at made
      by_cases last : i - ex.instances.length = 0
      · rw [if_pos last] at made
        cases made
        exact Or.inr ⟨by omega, rfl⟩
      · rw [if_neg last] at made
        cases made
  -- the evidence of the new instance was seen
  have evidenceSeen : ∀ tier, HasEvidence plan (ex.instances ++ [core]) tier ex.instances.length →
      ex.saw tier := by
    intro tier evidence
    cases evidence with
    | suspending made imported suspends =>
        rcases cases' _ _ made with ⟨old, _⟩ | ⟨_, rfl⟩
        · exact absurd old (Nat.lt_irrefl _)
        · exact (seen _ imported).suspending _ _ _ tier rfl suspends
    | imported made imported calls earlier exporting exported evidence =>
        rcases cases' _ _ made with ⟨old, _⟩ | ⟨_, rfl⟩
        · exact absurd old (Nat.lt_irrefl _)
        · rw [List.getElem?_append_left earlier] at exporting
          have marks := (classified.marked _ _ tier exporting (evidence_append evidence earlier) _
            exported).1
          exact ((seen _ imported).callee _ calls).2 tier marks
  exact {
    linked := by
      intro i other value address made member calls
      rw [instances] at made ⊢
      rcases cases' i other made with ⟨old, wasMade⟩ | ⟨rfl, rfl⟩
      · obtain ⟨j, exporter, earlier, exporting, exported⟩ :=
          classified.linked i other value address wasMade member calls
        refine ⟨j, exporter, earlier, ?_, exported⟩
        rw [List.getElem?_append_left (Nat.lt_trans earlier old)]
        exact exporting
      · obtain ⟨j, exporter, exporting, exported⟩ := ((seen value member).callee address calls).1
        have earlier : j < ex.instances.length := (List.getElem?_eq_some_iff.mp exporting).1
        refine ⟨j, exporter, earlier, ?_, exported⟩
        rw [List.getElem?_append_left earlier]
        exact exporting
    marked := by
      intro i other tier made evidence address exported
      rw [instances] at made evidence
      rcases cases' i other made with ⟨old, wasMade⟩ | ⟨rfl, rfl⟩
      · obtain ⟨marks, promoted⟩ := classified.marked i other tier wasMade
          (evidence_append evidence old) address exported
        exact ⟨keepsMarks address tier marks,
          fun promotes => keepsSuspendable address (promoted promotes)⟩
      · exact marksNew tier (evidenceSeen tier evidence) address exported
    destructors := by
      intro entry member j item isExport
      rw [destructors] at member
      obtain ⟨old, entered⟩ := classified.destructors entry member j item isExport
      rw [instances, List.length_append]
      refine ⟨Nat.lt_of_lt_of_le old (Nat.le_add_right _ _), ?_⟩
      intro other address tier made exported evidence
      rw [List.getElem?_append_left old] at made
      exact entered other address tier made exported (evidence_append evidence old) }

theorem instantiateModule_classified (moduleIndex : Nat) (componentInstance : Option Nat)
    (args : List CoreDef) (classified : Classified plan ex) :
    Yields (instantiateModule plan moduleIndex componentInstance args ex) (Classified plan) := by
  unfold instantiateModule
  cases plan.modules[moduleIndex]? with
  | none => exact trivial
  | some entry =>
      obtain ⟨kind, module⟩ := entry
      have reset : Classified plan { ex with sawBlockingImport := false, sawWrapImport := false } :=
        ⟨classified.linked, classified.marked, classified.destructors⟩
      simp only
      by_cases lengths : module.declared.length ≠ args.length
      · rw [if_pos lengths]
        exact trivial
      · rw [if_neg lengths]
        by_cases entries : (manifestOf componentInstance kind).any
            (·.length ≠ module.declared.length) = true
        · rw [if_pos entries]
          exact trivial
        · rw [if_neg entries]
          simp only [Yields, Fallible.satisfies_bind]
          refine (resolveImports_ok componentInstance (manifestOf componentInstance kind)
            (module.declared.zip args) ⟨[], [], []⟩ _ ?_).imp fun result => ?_
          · intro value member
            cases member
          · obtain ⟨linking, next⟩ := result
            rintro ⟨kept, seen⟩
            dsimp only
            split
            · exact (reset.keeps kept).addInstance seen
            · exact trivial

theorem resolveFunction_ok (ref : CoreDef) (ex : Executor) :
    Yields (resolveFunction plan ref ex) fun result =>
      ex.Keeps result.2 ∧ ∀ (j : Nat) (item : ExportItem), ref = .coreExport j item →
        ∃ core, ex.instances[j]? = some core ∧ core.exportValue j item.name = some result.1 := by
  have checks : ∀ value next, ex.Keeps next →
      (∀ (j : Nat) (item : ExportItem), ref = .coreExport j item →
        ∃ core, ex.instances[j]? = some core ∧ core.exportValue j item.name = some value) →
      Yields (if value.isFunction then return (value, next) else throw planError)
        fun result : Importable × Executor =>
          ex.Keeps result.2 ∧ ∀ (j : Nat) (item : ExportItem), ref = .coreExport j item →
            ∃ core, ex.instances[j]? = some core ∧ core.exportValue j item.name = some result.1 := by
    intro value next kept exported
    by_cases callable : value.isFunction = true
    · rw [if_pos callable]
      exact ⟨kept, exported⟩
    · rw [if_neg callable]
      exact trivial
  simp only [resolveFunction, Yields, Fallible.satisfies_bind]
  cases ref with
  | coreExport runtimeInstance item =>
      simp only [resolveCoreDef, Fallible.satisfies_bind, Fallible.satisfies_pure]
      refine (resolveCoreExport_ok runtimeInstance item ex).imp fun value found => ?_
      apply checks value ex (Executor.Keeps.refl ex)
      intro j item' same
      cases same
      exact found
  | _ =>
      refine (resolveCoreDef_ok none _ ex).imp fun result => ?_
      rintro ⟨kept, _⟩
      apply checks result.1 result.2 kept
      intro j item same
      cases same

theorem Classified.addDestructor (classified : Classified plan ex) (jspi : plan.mode = .jspi)
    {dtor : CoreDef} {value : Importable}
    (resolved : ∀ (j : Nat) (item : ExportItem), dtor = .coreExport j item →
      ∃ core, ex.instances[j]? = some core ∧ core.exportValue j item.name = some value) :
    Classified plan
      { ex with destructors := ex.destructors ++ [(dtor, ex.dtorMode plan value)] } where
  linked := classified.linked
  marked := classified.marked
  destructors := by
    intro entry member j item isExport
    rcases List.mem_append.mp member with old | new
    · exact classified.destructors entry old j item isExport
    · cases List.mem_singleton.mp new
      obtain ⟨core, made, found⟩ := resolved j item isExport
      refine ⟨(List.getElem?_eq_some_iff.mp made).1, ?_⟩
      intro core' address tier made' found' evidence promotes
      cases made.symm.trans made'
      cases found.symm.trans found'
      have exported : address ∈ core.exportedFuncs j := by
        rcases CoreInstance.exportValue_cases found with ⟨_, same, exported⟩ | ⟨uncalled, _⟩
        · cases same
          exact exported
        · cases uncalled
      have suspendable := (classified.marked j core tier made evidence address exported).2 promotes
      simp only [Executor.dtorMode, jspi, if_pos suspendable]

theorem runInitializer_classified (init : Initializer) (classified : Classified plan ex)
    (jspi : plan.mode = .jspi) : Yields (runInitializer plan init ex) (Classified plan) := by
  cases init with
  | instantiateModule module componentInstance args =>
      exact instantiateModule_classified module componentInstance args classified
  | lowerImport index import' =>
      exact ⟨classified.linked, classified.marked, classified.destructors⟩
  | extractItem space runtimeInstance item =>
      simp only [runInitializer, Yields, Fallible.satisfies_bind]
      refine (resolveCoreExport_ok runtimeInstance item ex).imp fun value _ => ?_
      by_cases links : value.links space = true ∧ value.isFunction = false
      · rw [if_pos links]
        exact classified
      · rw [if_neg links]
        exact trivial
  | extractFunction ref =>
      simp only [runInitializer, Yields, Fallible.satisfies_bind, Fallible.satisfies_pure]
      refine (resolveFunction_ok ref ex).imp fun result => ?_
      rintro ⟨kept, _⟩
      exact classified.keeps kept
  | resource index dtor componentInstance =>
      cases dtor with
      | none => exact classified
      | some dtor =>
          simp only [runInitializer, Yields, Fallible.satisfies_bind, Fallible.satisfies_pure]
          refine (resolveFunction_ok dtor ex).imp fun result => ?_
          obtain ⟨value, next⟩ := result
          rintro ⟨kept, resolved⟩
          have kept : ex.Keeps next := kept
          apply (classified.keeps kept).addDestructor jspi
          intro j item same
          rw [kept.instances]
          exact resolved j item same

theorem runInitializersFrom_classified (jspi : plan.mode = .jspi) (inits : List Initializer) :
    ∀ ex : Executor, Classified plan ex →
      Yields (runInitializersFrom plan inits ex) (Classified plan) := by
  induction inits with
  | nil => exact fun _ classified => classified
  | cons init inits ih =>
      intro ex classified
      simp only [runInitializersFrom, Yields, Fallible.satisfies_bind]
      exact (runInitializer_classified init classified jspi).imp ih

end

end Polyengine.Exec
