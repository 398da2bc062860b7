import Polyengine.Cabi.CustodyPairing

/-!
# Flat signatures

The core signature of a function type is what the value layer produces and consumes: its parameter
lanes are lowered and lifted one for one, the return pointer behind them included, and its result
lanes are those of the results.
-/

set_option autoImplicit false

namespace Polyengine.Cabi

open Polyengine.Library Command

section Handles

variable {Host Guest : Type} {cx : HandleContext Host}

theorem removeHandleWithUnwind_offLanes {Result : Type} (onDropped : Nat → Host → Host)
    (inst i : Nat) {use : HandleEntry → Handling Host Guest Result}
    (uses : ∀ entry world, Meets OffLanes (use entry) (fun _ _ => True) world)
    (world : HandleState Host Guest) :
    Meets OffLanes (removeHandleWithUnwind onDropped inst i use) (fun _ _ => True) world := by
  simp only [removeHandleWithUnwind, Handles.removeEntry, meets_bind, meets_get, meets_lift,
    Fallible.satisfies_bind]
  cases removed : (world.handles.tables inst).remove i with
  | error failure => exact .of_isTrap (TenuredTable.remove_error_isTrap removed)
  | ok outcome =>
      obtain ⟨entry, table⟩ := outcome
      simp only [Fallible.satisfies_ok, Fallible.satisfies_pure, Meets, ensures_set,
        ensures_tryCatch]
      refine Ensures.mono (uses entry _) ?_ ?_
      · intro cause next allowed
        cases entry with
        | readableEnd v =>
            simp only [ensures_bind, ensures_get]
            split
            · exact allowed
            · exact allowed
        | _ => exact allowed
      · intro _ _ _
        trivial

variable (cx)

theorem requireInst_offLanes (world : HandleState Host Guest) :
    Meets OffLanes cx.requireInst (fun _ _ => True) world := by
  rw [HandleContext.requireInst]
  cases cx.inst with
  | none => exact .assertion (by decide)
  | some inst => trivial

theorem liftOwn_offLanes (i rt : Nat) (world : HandleState Host Guest) :
    Meets OffLanes (cx.liftOwn i rt) (fun _ _ => True) world := by
  rw [HandleContext.liftOwn, meets_bind]
  refine (requireInst_offLanes cx world).imp ?_
  intro inst next _
  apply removeHandleWithUnwind_offLanes
  intro entry world
  cases entry with
  | resource object rt' rep own borrowScope =>
      simp only [meets_bind, Command.meets_trapIf, meets_get, meets_pure]
      refine ⟨fun _ => .trap _, fun _ => ⟨fun _ => .trap _, fun _ => ⟨fun _ => .trap _, ?_⟩⟩⟩
      intro _
      trivial
  | _ => exact .trap _

theorem liftBorrow_offLanes (i rt : Nat) (world : HandleState Host Guest) :
    Meets OffLanes (cx.liftBorrow i rt) (fun _ _ => True) world := by
  have refused : Meets OffLanes (throw (Failure.assertion
      "lifting a borrow requires a subtask borrow scope") : Handling Host Guest Nat)
      (fun _ _ => True) world := OffLanes.assertion (by decide)
  rw [HandleContext.liftBorrow]
  cases cx.borrowScope with
  | none => exact refused
  | some borrowScope =>
      cases borrowScope with
      | task scope => exact refused
      | subtask scope =>
          rw [meets_bind]
          refine (requireInst_offLanes cx world).imp ?_
          intro inst next _
          simp only [meets_bind, meets_get, meets_lift]
          cases found : (next.handles.tables inst).toTable.get i with
          | error failure => exact .of_isTrap (Table.get_error_isTrap found)
          | ok entry =>
              cases entry with
              | resource object rt' rep own borrowScope =>
                  simp only [Fallible.satisfies_ok, meets_bind, Command.meets_trapIf]
                  refine ⟨fun _ => .trap _, fun _ => ?_⟩
                  trivial
              | _ => exact .trap _

theorem bindStore_offLanes (v inst : Nat) (world : HandleState Host Guest) :
    Meets OffLanes (cx.bindStore v inst) (fun _ _ => True) world := by
  simp only [HandleContext.bindStore, meets_bind, meets_get]
  cases (world.handles.shared v).boundStore with
  | none => trivial
  | some store =>
      rw [meets_ite]
      exact ⟨fun _ => trivial, fun _ => .thrown _⟩

theorem liftAsyncValue_offLanes (kind : Task.Streams.Kind) (i : Nat)
    (element : Option DespecializedValType) (world : HandleState Host Guest) :
    Meets OffLanes (cx.liftAsyncValue kind i element) (fun _ _ => True) world := by
  simp only [HandleContext.liftAsyncValue, meets_bind, Command.meets_assert]
  refine ⟨fun _ => .assertion (by decide), fun _ => ?_⟩
  cases cx.inst with
  | none => exact OffLanes.assertion (by decide)
  | some inst =>
      apply removeHandleWithUnwind_offLanes
      intro entry world
      cases entry with
      | readableEnd v =>
          simp only [HandleContext.liftRemovedEnd, meets_bind, meets_get, Command.meets_trapIf]
          refine ⟨fun _ => .trap _, fun _ => ⟨fun _ => .trap _, fun _ => ⟨fun _ => .trap _, fun _ =>
            ⟨fun _ => .trap _, fun _ => ⟨fun _ => .trap _, fun _ => ?_⟩⟩⟩⟩⟩
          refine (bindStore_offLanes cx v inst world).imp ?_
          intro _ _ _
          trivial
      | _ => exact OffLanes.trap _

theorem liftErrorContext_offLanes (i : Nat) (world : HandleState Host Guest) :
    Meets OffLanes (cx.liftErrorContext i) (fun _ _ => True) world := by
  rw [HandleContext.liftErrorContext]
  cases cx.inst with
  | none => exact OffLanes.assertion (by decide)
  | some inst =>
      simp only [meets_bind, meets_get, meets_lift]
      cases found : (world.handles.tables inst).toTable.get i with
      | error failure => exact .of_isTrap (Table.get_error_isTrap found)
      | ok entry =>
          cases entry with
          | errorContext identity => trivial
          | _ => exact OffLanes.trap _

theorem callContext_liftLaw (options : Options Guest) :
    LiftLaw (callContext options cx) True OffLanes fun state next => next.memory = state.memory where
  traps := fun _ trapped => .of_isTrap trapped
  refl := fun _ => rfl
  trans := fun first second => second.trans first
  memory := fun same => same
  handle := by
    intro _ d i state isHandle
    have lifted : Meets OffLanes (cx.liftHandle d i) (fun _ _ => True) state.world := by
      cases d with
      | own rt =>
          rw [HandleContext.liftHandle, meets_bind]
          exact (liftOwn_offLanes cx i rt state.world).imp fun _ _ _ => trivial
      | borrow rt =>
          rw [HandleContext.liftHandle, meets_bind]
          exact (liftBorrow_offLanes cx i rt state.world).imp fun _ _ _ => trivial
      | stream element | future element =>
          rw [HandleContext.liftHandle, meets_bind]
          exact (liftAsyncValue_offLanes cx _ i element state.world).imp fun _ _ _ => trivial
      | errorContext =>
          rw [HandleContext.liftHandle, meets_bind]
          exact (liftErrorContext_offLanes cx i state.world).imp fun _ _ _ => trivial
      | _ => cases isHandle
    simp only [callContext, Meets, ensures_onWorld]
    exact lifted

end Handles

section Flatten

variable {World : Type}

theorem flattenTypes_ok (ds : List DespecializedValType) (state : CxState World) :
    Meets (fun _ => True) (flattenTypes ds) (fun lanes next => next = state ∧
      lanes = ds.flatMap (flattenType (lanePtrType state.memory)) ∧
      ∀ d ∈ ds, checkFlatten state.memory d = .ok ()) state := by
  induction ds with
  | nil =>
      refine ⟨rfl, rfl, ?_⟩
      intro d member
      cases member
  | cons d rest ih =>
      simp only [flattenTypes, flattenTypeIn, meets_bind, meets_get, meets_lift, meets_pure]
      cases checked : checkFlatten state.memory d with
      | error failure => trivial
      | ok _ =>
          refine ih.imp ?_
          rintro lanes next ⟨rfl, flattened, later⟩
          subst flattened
          refine ⟨rfl, rfl, ?_⟩
          intro other member
          cases member with
          | head => exact checked
          | tail _ member => exact later other member

/-- The cached counts are those of the lanes. -/
def FlatCounts.Faithful (counts : FlatCounts) (ds : List DespecializedValType) : Prop :=
  ∀ ptrType count, counts ptrType = some count →
    count = (ds.flatMap (flattenType ptrType)).length

theorem flatCountCached_faithful {handles : Prop} {ds : List DespecializedValType}
    (valid : ∀ d ∈ ds, ValidType handles d) {counts : FlatCounts} (faithful : counts.Faithful ds)
    {state : CxState World} {mem : MemInst} (present : state.memory = some mem) :
    Meets (fun _ => False) (flatCountCached counts ds) (fun result next => next = state ∧
      Reads (flatCount ds) result.1 state ∧ result.2.Faithful ds) state := by
  have counted : ∀ post : Nat → CxState World → Prop,
      Meets (fun _ => False) (flatCount ds) post state ↔
        post (ds.flatMap (flattenType mem.ptrType)).length state := by
    intro post
    simp only [flatCount, meets_bind, meets_pure,
      meets_flattenTypes (fun d member => (valid d member).checkFlatten mem) present]
    exact Iff.rfl
  have answers : Reads (flatCount ds) (ds.flatMap (flattenType mem.ptrType)).length state :=
    reads_iff.mpr ((counted _).mpr ⟨rfl, rfl⟩)
  simp only [flatCountCached, meets_bind, meets_get, present]
  cases hit : counts mem.ptrType with
  | some count =>
      have same := faithful mem.ptrType count hit
      subst same
      exact ⟨rfl, answers, faithful⟩
  | none =>
      simp only [meets_bind, counted, meets_pure]
      refine ⟨trivial, answers, ?_⟩
      intro ptrType count found
      by_cases same : ptrType = mem.ptrType
      · subst same
        rw [Function.update_self] at found
        exact (Option.some.inj found).symm
      · rw [Function.update_of_ne same] at found
        exact faithful ptrType count found

theorem requireMemory_ok (state : CxState World) :
    Meets (fun _ => True) (requireMemory : Cx World MemInst) (fun mem next => next = state ∧
      state.memory.isSome = true ∧ mem.ptrType = lanePtrType state.memory) state := by
  simp only [requireMemory, meets_bind, meets_get]
  cases state.memory with
  | none => trivial
  | some mem => exact ⟨rfl, rfl, rfl⟩

theorem spillAbove_ok (limit : Nat) (flat : List CoreType) (state : CxState World) :
    Meets (fun _ => True) (spillAbove limit flat) (fun lanes next => next = state ∧
      (limit < flat.length → state.memory.isSome = true) ∧
      lanes = if limit < flat.length then [(lanePtrType state.memory).core] else flat) state := by
  rw [spillAbove, meets_ite]
  constructor
  · intro spilled
    rw [meets_bind]
    refine (requireMemory_ok state).imp ?_
    rintro mem next ⟨rfl, present, width⟩
    refine ⟨rfl, fun _ => present, ?_⟩
    rw [if_pos spilled, width]
  · intro direct
    exact ⟨rfl, fun spilled => absurd spilled direct, (if_neg direct).symm⟩

/-- The limit of the parameter lanes. -/
def maxFlatParams (async : Bool) (context : FlattenContext) : Nat :=
  if async = true ∧ context = .lower then MAX_FLAT_ASYNC_PARAMS else MAX_FLAT_PARAMS

/-- The limit of the result lanes; an async lower returns no values in lanes. -/
def maxFlatResults (async : Bool) : Nat := if async then 0 else MAX_FLAT_RESULTS

/-- The lane of the return pointer behind the parameters of a lower. -/
def returnPointer (ptrType : PtrType) (async : Bool) (ts : List ValType) : List CoreType :=
  if maxFlatResults async < ((ts.map despecialize).flatMap (flattenType ptrType)).length then
    [ptrType.core]
  else []

/-- What `flattenFunctype` computes, against the lanes that the value layer lifts. -/
structure Signature (memory : Option MemInst) (async : Bool) (ft : FuncType)
    (context : FlattenContext) (sig : CoreFuncType) : Prop where
  params : ∀ t ∈ ft.params, checkFlatten memory (despecialize t) = .ok ()
  results : ∀ t ∈ ft.results, checkFlatten memory (despecialize t) = .ok ()
  paramSpill : maxFlatParams async context < ((ft.params.map despecialize).flatMap
    (flattenType (lanePtrType memory))).length → memory.isSome = true
  resultSpill : (async = true → context = .lower) → maxFlatResults async <
    ((ft.results.map despecialize).flatMap (flattenType (lanePtrType memory))).length →
    memory.isSome = true
  lift : context = .lift →
    sig.params = liftedLanes (lanePtrType memory) MAX_FLAT_PARAMS ft.params ∧
      (async = false →
        sig.results = liftedLanes (lanePtrType memory) MAX_FLAT_RESULTS ft.results)
  lower : context = .lower →
    sig.params = liftedLanes (lanePtrType memory) (maxFlatParams async .lower) ft.params ++
      returnPointer (lanePtrType memory) async ft.results
  values : context = .lower → async = false →
    sig.results = if returnPointer (lanePtrType memory) async ft.results = [] then
      (ft.results.map despecialize).flatMap (flattenType (lanePtrType memory)) else []

theorem flattenFunctype_ok (async callback : Bool) (ft : FuncType) (context : FlattenContext)
    (state : CxState World) :
    Meets (fun _ => True) (flattenFunctype async callback ft context)
      (fun sig _ => Signature state.memory async ft context sig) state := by
  have checkedAll : ∀ {ts : List ValType},
      (∀ d ∈ ts.map despecialize, checkFlatten state.memory d = .ok ()) →
      ∀ t ∈ ts, checkFlatten state.memory (despecialize t) = .ok () :=
    fun checked t member => checked _ (List.mem_map_of_mem member)
  rw [flattenFunctype]
  simp only [meets_bind]
  refine (flattenTypes_ok (ft.params.map despecialize) state).imp ?_
  rintro flatParams next ⟨rfl, paramLanes, checkedParams⟩
  refine (flattenTypes_ok (ft.results.map despecialize) next).imp ?_
  rintro flatResults next ⟨rfl, resultLanes, checkedResults⟩
  subst paramLanes resultLanes
  cases async with
  | false =>
      rw [meets_ite]
      refine ⟨fun _ => ?_, fun impossible => absurd rfl impossible⟩
      rw [meets_bind]
      refine (spillAbove_ok MAX_FLAT_PARAMS _ next).imp ?_
      rintro lanes next ⟨rfl, spilled, rfl⟩
      rw [meets_ite]
      constructor
      · intro many
        have pointer : returnPointer (lanePtrType next.memory) false ft.results =
            [(lanePtrType next.memory).core] := if_pos many
        cases context with
        | lift =>
            rw [meets_bind]
            refine (requireMemory_ok next).imp ?_
            rintro mem next ⟨rfl, present, width⟩
            exact {
              params := checkedAll checkedParams
              results := checkedAll checkedResults
              paramSpill := spilled
              resultSpill := fun _ _ => present
              lift := fun _ => ⟨rfl, fun _ => by rw [liftedLanes, if_pos many, width]⟩
              lower := by simp
              values := by simp }
        | lower =>
            rw [meets_bind]
            refine (requireMemory_ok next).imp ?_
            rintro mem next ⟨rfl, present, width⟩
            exact {
              params := checkedAll checkedParams
              results := checkedAll checkedResults
              paramSpill := spilled
              resultSpill := fun _ _ => present
              lift := by simp
              lower := fun _ => by rw [pointer, width]; rfl
              values := fun _ _ => by rw [pointer]; rfl }
      · intro few
        have pointer : returnPointer (lanePtrType next.memory) false ft.results = [] := if_neg few
        have direct : liftedLanes (lanePtrType next.memory) MAX_FLAT_RESULTS ft.results =
            (ft.results.map despecialize).flatMap (flattenType (lanePtrType next.memory)) :=
          if_neg few
        exact {
          params := checkedAll checkedParams
          results := checkedAll checkedResults
          paramSpill := by cases context <;> exact spilled
          resultSpill := fun _ many => absurd many few
          lift := fun _ => ⟨rfl, fun _ => direct.symm⟩
          lower := fun _ => by rw [pointer, List.append_nil]; rfl
          values := fun _ _ => by rw [pointer, if_pos rfl] }
  | true =>
      rw [meets_ite]
      refine ⟨fun sync => by simp at sync, fun _ => ?_⟩
      cases context with
      | lift =>
          rw [meets_bind]
          refine (spillAbove_ok MAX_FLAT_PARAMS _ next).imp ?_
          rintro lanes next ⟨rfl, spilled, rfl⟩
          exact {
            params := checkedAll checkedParams
            results := checkedAll checkedResults
            paramSpill := spilled
            resultSpill := fun lowered => by cases lowered rfl
            lift := fun _ => ⟨rfl, by simp⟩
            lower := by simp
            values := by simp }
      | lower =>
          rw [meets_bind]
          refine (spillAbove_ok MAX_FLAT_ASYNC_PARAMS _ next).imp ?_
          rintro lanes next ⟨rfl, spilled, rfl⟩
          rw [meets_ite]
          constructor
          · intro some
            have pointer : returnPointer (lanePtrType next.memory) true ft.results =
                [(lanePtrType next.memory).core] := if_pos some
            rw [meets_bind]
            refine (requireMemory_ok next).imp ?_
            rintro mem next ⟨rfl, present, width⟩
            exact {
              params := checkedAll checkedParams
              results := checkedAll checkedResults
              paramSpill := spilled
              resultSpill := fun _ _ => present
              lift := by simp
              lower := fun _ => by rw [pointer, width]; rfl
              values := fun _ => by simp }
          · intro none
            have pointer : returnPointer (lanePtrType next.memory) true ft.results = [] := if_neg none
            exact {
              params := checkedAll checkedParams
              results := checkedAll checkedResults
              paramSpill := spilled
              resultSpill := fun _ some => absurd some none
              lift := by simp
              lower := fun _ => by rw [pointer, List.append_nil]; rfl
              values := fun _ => by simp }

end Flatten

theorem ValueIter.Yields.silent {vi final : ValueIter} {xs : List CoreValue}
    (yields : vi.Yields [] xs final) : vi = final := by
  cases yields
  rfl

/-- Two memory options of one call: the same pointer width, or none. -/
def SameMemory (memory memory' : Option MemInst) : Prop :=
  memory'.map (·.addrType) = memory.map (·.addrType)

section Agreement

variable {Host Guest : Type} {memory memory' : Option MemInst}

theorem SameMemory.lanePtrType (same : SameMemory memory memory') :
    lanePtrType memory' = lanePtrType memory := by
  unfold SameMemory at same
  cases memory with
  | none =>
      cases memory' with
      | none => rfl
      | some mem => cases same
  | some mem =>
      cases memory' with
      | none => cases same
      | some mem' => exact Option.some.inj same

theorem SameMemory.isSome (same : SameMemory memory memory') : memory'.isSome = memory.isSome := by
  unfold SameMemory at same
  cases memory <;> cases memory' <;> first | rfl | cases same

theorem SameMemory.checkFlatten (same : SameMemory memory memory') {handles : Prop}
    {d : DespecializedValType} (valid : ValidType handles d)
    (checked : Cabi.checkFlatten memory d = .ok ()) : Cabi.checkFlatten memory' d = .ok () := by
  cases memory' with
  | some mem => exact valid.checkFlatten mem
  | none =>
      cases memory with
      | none => exact checked
      | some mem => cases same

def LoweringFails (cx : HandleContext Host) (failure : Failure) : Prop :=
  OffLanes failure ∨
    ∃ checkpoint, cx.checkpoint = some checkpoint ∧ ∃ handles, checkpoint handles = .error failure

theorem callContext_lawful (options : Options Guest) (cx : HandleContext Host)
    (ptrType : PtrType) :
    LowerLaw (callContext options cx) (lowerings cx ptrType) (LoweringFails cx) custodyLeaf
      ptrType := by
  apply callContext_law options
  · intro failure offLanes
    exact .inl offLanes
  · intro checkpoint provided handles failure stopped
    exact .inr ⟨checkpoint, provided, handles, stopped⟩

theorem lowerFlatValues_lanes (options : Options Guest) (cx : HandleContext Host)
    {ts : List ValType} (valid : ∀ t ∈ ts, ValidType True (despecialize t)) {vs : List Value}
    (has : List.Forall₂ (HasType .none) (ts.map despecialize) vs) (maxFlat : Nat)
    {outParam : Option ValueIter} {state : CxState (HandleState Host Guest)}
    (taken : maxFlat <
        ((ts.map despecialize).flatMap (flattenType (lanePtrType state.memory))).length →
      ∀ vi, outParam = some vi → Fallible.Satisfies (LoweringFails cx)
        (vi.next (lanePtrType state.memory).core) fun _ => True)
    (tables : ∀ inst, (state.world.handles.tables inst).Valid) :
    Meets (LoweringFails cx) (lowerFlatValues (callContext options cx) maxFlat vs ts outParam)
      (fun result _ => LoweredLanes (lanePtrType state.memory) maxFlat ts outParam result) state := by
  have same : vs.length = ts.length := by
    rw [← has.length_eq, List.length_map]
  have loose : ¬True → ∀ failure, LoweringFails cx failure := fun absurd => (absurd trivial).elim
  have emits := lowerFlatValues_emits (callContext_lawful options cx (lanePtrType state.memory))
    loose valid same (fun _ => has) maxFlat taken state ⟨rfl, tables⟩
  refine Ensures.mono emits ?_ ?_
  · intro failure next raised
    exact raised.1
  · intro result next reached
    exact reached.1 trivial

theorem liftFlatValues_lanes (options : Options Guest) (cx : HandleContext Host)
    {ts : List ValType} (valid : ∀ t ∈ ts, ValidType True (despecialize t)) {maxFlat : Nat}
    {state : CxState (HandleState Host Guest)} (same : SameMemory memory state.memory)
    (checked : ∀ t ∈ ts, checkFlatten memory (despecialize t) = .ok ())
    (spillable : maxFlat < ((ts.map despecialize).flatMap
      (flattenType (lanePtrType memory))).length → memory.isSome = true)
    {vi final : ValueIter} {xs : List CoreValue}
    (yields : vi.Yields (liftedLanes (lanePtrType memory) maxFlat ts) xs final) :
    Meets OffLanes (liftFlatValues (callContext options cx) maxFlat vi ts)
      (fun result _ => result.2 = final) state := by
  have width := same.lanePtrType
  have indexed : ∀ mem, state.memory = some mem →
      mem.length ≤ MAX_SAFE_INTEGER ∨ OffLanes (.assertion "index overflow") :=
    fun _ _ => .inr (.assertion (by decide))
  have spilled : maxFlat < ((ts.map despecialize).flatMap
      (flattenType (lanePtrType state.memory))).length → state.memory.isSome = true := by
    rw [width, same.isSome]
    exact spillable
  rw [← width] at yields
  refine (liftFlatValues_safe (callContext_liftLaw cx options) valid
    (fun t member => same.checkFlatten (valid t member) (checked t member)) spilled indexed rfl
    yields).imp ?_
  intro result next reached
  exact reached.1

/-- The flat signature of a function type is what the value layer produces and consumes. On lift
the parameters lower to values of its parameter lanes, and a synchronous call lifts its results from
its result lanes. On lower the parameters are lifted from its parameter lanes and the results are
lowered behind them: nothing is left of the parameter lanes, and the lanes of the results are those
of the signature, none when the call is asynchronous. -/
theorem signature_agrees (options : Options Guest) {ft : FuncType}
    (validParams : ∀ t ∈ ft.params, ValidType True (despecialize t))
    (validResults : ∀ t ∈ ft.results, ValidType True (despecialize t)) {async callback : Bool}
    {context : FlattenContext} {sig : CoreFuncType}
    {origin next : CxState (HandleState Host Guest)}
    (computed : (flattenFunctype async callback ft context).outcome origin = (.ok sig, next)) :
    (context = .lift →
      (∀ (cx : HandleContext Host) (state : CxState (HandleState Host Guest)) (args : List Value),
        SameMemory origin.memory state.memory →
        (∀ inst, (state.world.handles.tables inst).Valid) →
        List.Forall₂ (HasType .none) (ft.params.map despecialize) args →
        Meets (LoweringFails cx)
          (lowerFlatValues (callContext options cx) MAX_FLAT_PARAMS args ft.params none)
          (fun flatArgs _ => List.Forall₂ CoreValue.Canonical sig.params flatArgs.1) state) ∧
      (async = false → ∀ (cx : HandleContext Host) (state : CxState (HandleState Host Guest))
          (flatResults : List CoreValue),
        SameMemory origin.memory state.memory →
        List.Forall₂ CoreValue.Canonical sig.results flatResults →
        Meets OffLanes
          (liftFlatValues (callContext options cx) MAX_FLAT_RESULTS (.core flatResults) ft.results)
          (fun results _ => results.2.done = true) state)) ∧
    (context = .lower → ∀ (cx : HandleContext Host) (state : CxState (HandleState Host Guest))
        (flatArgs : List CoreValue),
      SameMemory origin.memory state.memory →
      List.Forall₂ CoreValue.Canonical sig.params flatArgs →
      Meets OffLanes
        (liftFlatValues (callContext options cx) (maxFlatParams async .lower) (.core flatArgs)
          ft.params)
        (fun args _ => ∀ (cx' : HandleContext Host) (later : CxState (HandleState Host Guest))
            (result : List Value),
          SameMemory origin.memory later.memory →
          (∀ inst, (later.world.handles.tables inst).Valid) →
          List.Forall₂ (HasType .none) (ft.results.map despecialize) result →
          Meets (LoweringFails cx')
            (lowerFlatValues (callContext options cx') (maxFlatResults async) result ft.results
              (some args.2))
            (fun flatResults _ => (∃ vi, flatResults.2 = some vi ∧ vi.done = true) ∧
              List.Forall₂ CoreValue.Canonical (if async then [] else sig.results) flatResults.1)
            later) state) := by
  have signature := (flattenFunctype_ok async callback ft context origin).of_ok computed
  have lowered : ∀ {ts : List ValType} {maxFlat : Nat} {result : List CoreValue × Option ValueIter},
      LoweredLanes (lanePtrType origin.memory) maxFlat ts none result →
      List.Forall₂ CoreValue.Canonical (liftedLanes (lanePtrType origin.memory) maxFlat ts)
        result.1 := by
    intro ts maxFlat result lanes
    rw [LoweredLanes] at lanes
    rw [liftedLanes]
    split at lanes
    · rw [if_pos ‹_›]
      exact lanes.1
    · rw [if_neg ‹_›]
      exact lanes.1
  constructor
  · intro lifting
    obtain ⟨params, results⟩ := signature.lift lifting
    constructor
    · intro cx state args same tables has
      have nothing : ∀ vi : ValueIter, none = some vi → Fallible.Satisfies (LoweringFails cx)
          (vi.next (lanePtrType state.memory).core) fun _ => True := by
        intro vi impossible
        cases impossible
      refine (lowerFlatValues_lanes options cx validParams has MAX_FLAT_PARAMS (fun _ => nothing)
        tables).imp ?_
      intro flatArgs _ lanes
      rw [same.lanePtrType] at lanes
      rw [params]
      exact lowered lanes
    · intro sync cx state flatResults same canonical
      rw [results sync] at canonical
      have yields := ValueIter.yields_core canonical []
      rw [List.append_nil] at yields
      have spillable := signature.resultSpill (fun async => by rw [sync] at async; cases async)
      rw [sync] at spillable
      refine (liftFlatValues_lanes options cx validResults same signature.results spillable
        yields).imp ?_
      intro args _ reached
      rw [reached]
      rfl
  · intro lowering
    subst lowering
    intro cx state flatArgs same canonical
    have yields := ValueIter.yields_core canonical []
    rw [List.append_nil, signature.lower rfl] at yields
    obtain ⟨behind, taken, pointer, _, params, results⟩ := yields.split
    refine (liftFlatValues_lanes options cx validParams same signature.params signature.paramSpill
      params).imp ?_
    rintro args _ rfl
    intro cx' later result same' tables has
    have width := same'.lanePtrType
    rw [← width] at results
    have spilled : maxFlatResults async < ((ft.results.map despecialize).flatMap
        (flattenType (lanePtrType later.memory))).length →
        ∃ x, args.2.next (lanePtrType later.memory).core = .ok (x, .core []) := by
      intro many
      rw [returnPointer, if_pos many] at results
      obtain ⟨x, _, next, _⟩ := results.single
      exact ⟨x, next⟩
    refine (lowerFlatValues_lanes options cx' validResults has (maxFlatResults async) ?_
      tables).imp ?_
    · intro many vi isArgs
      cases isArgs
      obtain ⟨x, next⟩ := spilled many
      rw [next]
      trivial
    · intro flatResults _ lanes
      rw [LoweredLanes] at lanes
      split at lanes
      · next many =>
        obtain ⟨x, next⟩ := spilled many
        obtain ⟨silent, ptr, rest, taken, left⟩ := lanes
        rw [next] at taken
        cases taken
        refine ⟨⟨_, left, rfl⟩, ?_⟩
        rw [silent]
        cases async with
        | true => exact .nil
        | false =>
            rw [width] at many
            have pointer : returnPointer (lanePtrType origin.memory) false ft.results =
                [(lanePtrType origin.memory).core] := if_pos many
            rw [if_neg (by decide), signature.values rfl rfl, pointer]
            exact .nil
      · next few =>
        obtain ⟨canonical, left⟩ := lanes
        rw [returnPointer, if_neg few] at results
        refine ⟨⟨_, left, by rw [results.silent]; rfl⟩, ?_⟩
        rw [width] at canonical few
        cases async with
        | true =>
            have empty := List.eq_nil_of_length_eq_zero (Nat.eq_zero_of_not_pos few)
            rwa [empty] at canonical
        | false =>
            have pointer : returnPointer (lanePtrType origin.memory) false ft.results = [] :=
              if_neg few
            rwa [if_neg (by decide), signature.values rfl rfl, if_pos pointer]

end Agreement

/-- The options of a call that passes numbers only. -/
def emptyState : CxState (HandleState Unit Unit) where
  memory := none
  mayLeave := true
  world := { handles := noHandles, custody := none, guest := () }

/-- The `i32` that an asynchronous lower returns is the packed state of its subtask; lowering the
results yields no value for it. -/
theorem asyncLower_status :
    (∃ sig, (flattenFunctype true false ⟨[], []⟩ .lower).outcome emptyState = (.ok sig, emptyState) ∧
      (lowerFlatValues (callContext plainOptions plainContext) (maxFlatResults true) [] []
        (some (.core []))).outcome emptyState = (.ok ([], some (.core [])), emptyState) ∧
      ¬List.Forall₂ CoreValue.Canonical sig.results []) := by
  refine ⟨⟨[], [.i32]⟩, rfl, rfl, ?_⟩
  intro lanes
  cases lanes

def smallState : CxState (HandleState Unit Unit) :=
  { emptyState with memory := some { length := 64, byte := fun _ => 0, addrType := .i32 } }

/-- A synchronous lower of one number whose two results are spilled through the return pointer. -/
theorem signature_agrees_spilledResults :
    Meets OffLanes
      (liftFlatValues (callContext plainOptions plainContext) (maxFlatParams false .lower)
        (.core [.i32 1, .i32 8]) [.prim .u32])
      (fun args _ => Meets (LoweringFails plainContext)
        (lowerFlatValues (callContext plainOptions plainContext) (maxFlatResults false)
          [.bigint 3, .bigint 4] [.prim .u64, .prim .u64] (some args.2))
        (fun flatResults _ => (∃ vi, flatResults.2 = some vi ∧ vi.done = true) ∧
          flatResults.1 = []) smallState) smallState := by
  have validParams : ∀ t ∈ [ValType.prim .u32], ValidType True (despecialize t) := by
    intro t member
    cases List.mem_singleton.mp member
    exact .prim .u32
  have validResults : ∀ t ∈ [ValType.prim .u64, .prim .u64], ValidType True (despecialize t) := by
    intro t member
    rcases List.mem_pair.mp member with rfl | rfl <;> exact .prim .u64
  have typed : List.Forall₂ (HasType .none) ([ValType.prim .u64, .prim .u64].map despecialize)
      [.bigint 3, .bigint 4] :=
    .cons (.bigint rfl (by decide)) (.cons (.bigint rfl (by decide)) .nil)
  have agrees := @signature_agrees Unit Unit plainOptions
    ⟨[.prim .u32], [.prim .u64, .prim .u64]⟩ validParams validResults false false .lower
    ⟨[.i32, .i32], []⟩ smallState smallState rfl
  refine (agrees.2 rfl plainContext smallState [.i32 1, .i32 8] rfl
    (.cons (by decide) (.cons (by decide) .nil))).imp ?_
  intro args _ lowers
  refine (lowers plainContext smallState [.bigint 3, .bigint 4] rfl
    (fun _ => TenuredTable.empty_valid) typed).imp ?_
  rintro flatResults _ ⟨consumed, lanes⟩
  exact ⟨consumed, List.forall₂_nil_left_iff.mp lanes⟩

end Polyengine.Cabi
