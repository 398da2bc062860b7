import Polyengine.Cabi.CustodyPairing

/-!
# What lowering leaves alone

Lowering runs no other code than the hooks of host-held ends and the guest's `realloc`. A part of the
host's state that the hooks leave alone is the same after it, whether it succeeds or fails.
-/

set_option autoImplicit false

namespace Polyengine.Cabi

open Polyengine.Library Command

section Fixes

variable {Host Guest View : Type} {view : Host → View}

def Fixes {Result : Type} (view : Host → View) (command : Handling Host Guest Result) : Prop :=
  ∀ seen, Keeps (fun world : HandleState Host Guest => view world.handles.host = seen) command

theorem modifyHandles_fixes {change : Handles Host → Handles Host}
    (same : ∀ handles, view (change handles).host = view handles.host) :
    Fixes view (modifyHandles change : Handling Host Guest Unit) := by
  intro seen world holds
  exact (same world.handles).trans holds

theorem custodyInserted_fixes (inst i : Nat) (e : HandleEntry) :
    Fixes view (custodyInserted inst i e : Handling Host Guest Unit) := fun _ _ holds => holds

theorem newResourceHandle_fixes (rt rep : Nat) (own : Bool) (borrowScope : Option Nat) :
    Fixes view (newResourceHandle rt rep own borrowScope : Handling Host Guest HandleEntry) :=
  fun _ _ holds => holds

theorem addHandle_fixes (inst : Nat) (e : HandleEntry) :
    Fixes view (addHandle inst e : Handling Host Guest Nat) := by
  intro seen world holds
  simp only [addHandle, ensures_bind, ensures_get, ensures_lift, Handles.addEntry,
    Fallible.satisfies_bind]
  cases (world.handles.tables inst).add e with
  | error failure => exact holds
  | ok outcome => exact holds

variable {cx : HandleContext Host}

theorem runCheckpoint_fixes : Fixes view (cx.runCheckpoint : Handling Host Guest Unit) := by
  intro seen
  rw [HandleContext.runCheckpoint]
  cases cx.checkpoint with
  | none => exact .pure ()
  | some checkpoint => exact Keeps.get.bind fun world => .lift _

theorem requireInst_fixes : Fixes view (cx.requireInst : Handling Host Guest Nat) := by
  intro seen
  rw [HandleContext.requireInst]
  cases cx.inst with
  | none => exact .throw _
  | some inst => exact .pure inst

theorem lowerOwn_fixes (rep rt : Nat) :
    Fixes view (cx.lowerOwn rep rt : Handling Host Guest Nat) := by
  intro seen
  rw [HandleContext.lowerOwn]
  refine (newResourceHandle_fixes rt rep true none seen).bind fun h => ?_
  refine (requireInst_fixes seen).bind fun inst => ?_
  refine (addHandle_fixes inst h seen).bind fun i => ?_
  refine (custodyInserted_fixes inst i h seen).bind fun _ => ?_
  exact (runCheckpoint_fixes seen).bind fun _ => .pure i

theorem lowerBorrow_fixes (rep rt : Nat) :
    Fixes view (cx.lowerBorrow rep rt : Handling Host Guest Nat) := by
  intro seen
  rw [HandleContext.lowerBorrow]
  cases cx.borrowScope with
  | none => exact .throw _
  | some borrowScope =>
      cases borrowScope with
      | subtask scope => exact .throw _
      | task scope =>
          apply Keeps.ite
          · exact .pure rep
          · refine (newResourceHandle_fixes rt rep false (some scope) seen).bind fun h => ?_
            refine Keeps.bind (modifyHandles_fixes (fun _ => rfl) seen) fun _ => ?_
            refine (requireInst_fixes seen).bind fun inst => ?_
            refine (addHandle_fixes inst h seen).bind fun i => ?_
            exact (runCheckpoint_fixes seen).bind fun _ => .pure i

theorem bindStore_fixes (v inst : Nat) :
    Fixes view (cx.bindStore v inst : Handling Host Guest Unit) := by
  intro seen
  rw [HandleContext.bindStore]
  refine Keeps.get.bind fun world => ?_
  dsimp only
  cases (world.handles.shared v).boundStore with
  | some store => exact .ite (.pure ()) (.throw _)
  | none => exact modifyHandles_fixes (fun _ => rfl) seen

theorem claimReadableEnd_fixes (v : Nat) (elem : Option DespecializedValType) :
    Fixes view (HandleContext.claimReadableEnd v elem : Handling Host Guest Unit) := by
  intro seen
  rw [HandleContext.claimReadableEnd]
  refine Keeps.get.bind fun world => ?_
  refine Keeps.bind (.ite (.pure ()) (.throw _)) fun _ => ?_
  exact modifyHandles_fixes (fun _ => rfl) seen

theorem lowerAsyncValue_fixes (hooks : ∀ v inst host, view (cx.onLowered v inst host) = view host)
    (kind : Task.Streams.Kind) (v : Nat) (declared : Option DespecializedValType) :
    Fixes view (cx.lowerAsyncValue kind v declared : Handling Host Guest Nat) := by
  intro seen
  have tests : ∀ (condition : Prop) [Decidable condition] (message : String),
      Keeps (fun world : HandleState Host Guest => view world.handles.host = seen)
        (assert_ condition message : Handling Host Guest Unit) := by
    intro condition _ message
    exact .ite (.pure ()) (.throw _)
  rw [HandleContext.lowerAsyncValue]
  refine Keeps.get.bind fun world => ?_
  refine (tests _ _).bind fun _ => (tests _ _).bind fun _ => (tests _ _).bind fun _ => ?_
  cases cx.inst with
  | none => exact .throw _
  | some inst =>
      refine (bindStore_fixes v inst seen).bind fun _ => ?_
      refine Keeps.bind (modifyHandles_fixes (fun handles => hooks v inst handles.host) seen) fun _ => ?_
      refine (runCheckpoint_fixes seen).bind fun _ => ?_
      refine (claimReadableEnd_fixes v declared seen).bind fun _ => ?_
      refine (addHandle_fixes inst (.readableEnd v) seen).bind fun i => ?_
      refine Keeps.bind (modifyHandles_fixes (fun _ => rfl) seen) fun _ => ?_
      refine (custodyInserted_fixes inst i (.readableEnd v) seen).bind fun _ => ?_
      exact (runCheckpoint_fixes seen).bind fun _ => .pure i

theorem lowerErrorContext_fixes (v : Nat) :
    Fixes view (cx.lowerErrorContext v : Handling Host Guest Nat) := by
  intro seen
  rw [HandleContext.lowerErrorContext]
  cases cx.inst with
  | none => exact .throw _
  | some inst => exact addHandle_fixes inst (.errorContext v) seen

theorem lowerHandle_fixes (hooks : ∀ v inst host, view (cx.onLowered v inst host) = view host)
    (d : DespecializedValType) (v : Value) :
    Fixes view (cx.lowerHandle d v : Handling Host Guest Nat) := by
  intro seen
  cases d with
  | own rt => exact (Keeps.lift (asRep v)).bind fun rep => lowerOwn_fixes rep rt seen
  | borrow rt => exact (Keeps.lift (asRep v)).bind fun rep => lowerBorrow_fixes rep rt seen
  | stream element =>
      exact (Keeps.lift (asShared v)).bind fun shared =>
        lowerAsyncValue_fixes hooks .stream shared element seen
  | future element =>
      exact (Keeps.lift (asShared v)).bind fun shared =>
        lowerAsyncValue_fixes hooks .future shared element seen
  | errorContext =>
      exact (Keeps.lift (asShared v)).bind fun shared => lowerErrorContext_fixes shared seen
  | _ => exact .throw _

end Fixes

section Law

variable {Host Guest View : Type} {view : Host → View} {cx : HandleContext Host}

def hostView (view : Host → View) (state : CxState (HandleState Host Guest)) : View :=
  view state.world.handles.host

theorem onWorld_fixes {Result : Type} {command : Handling Host Guest Result}
    (fixes : Fixes view command) (seen : View) :
    Keeps (fun state => hostView view state = seen) (onWorld command) := by
  intro state holds
  rw [ensures_onWorld]
  exact fixes seen state.world holds

theorem reallocate_fixes (options : Options Guest) (seen : View)
    (old oldByteLength alignment newByteLength : Nat) :
    Keeps (fun state => hostView view state = seen)
      ((callContext options cx).reallocate old oldByteLength alignment newByteLength) := by
  have called : ∀ realloc, Keeps (fun state => hostView view state = seen)
      (callRealloc realloc old oldByteLength alignment newByteLength :
        Cx (HandleState Host Guest) Nat) := by
    intro realloc state holds
    simp only [callRealloc, ensures_bind, ensures_get, ensures_set]
    cases (realloc old oldByteLength alignment newByteLength state.memory state.world.guest).result with
    | error message => exact holds
    | ok n => exact holds
  have mayLeave : ∀ flag, Keeps (fun state => hostView view state = seen)
      (modify fun state => { state with mayLeave := flag } : Cx (HandleState Host Guest) PUnit) :=
    fun _ => .modify fun _ holds => holds
  rw [LiftLowerContext.reallocate]
  cases provided : (callContext options cx).realloc with
  | none => exact .throw _
  | some realloc =>
      obtain ⟨guest, _, rfl⟩ := Option.map_eq_some_iff.mp provided
      apply Keeps.ite
      · refine Keeps.get.bind fun state => ?_
        refine Keeps.bind (.ite (.pure ()) (.throw _)) fun _ => ?_
        refine (mayLeave false).bind fun _ => (called guest).bind fun ptr => ?_
        refine (mayLeave true).bind fun _ => ?_
        simp only [callContext]
        cases cx.checkpoint with
        | none => exact .pure ptr
        | some checkpoint => exact (onWorld_fixes runCheckpoint_fixes seen).bind fun _ => .pure ptr
      · exact called guest

theorem callContext_fixingLaw (options : Options Guest) {permitted : Failure → Prop}
    (lax : ∀ failure, OffLanes failure → permitted failure) (stops : cx.StopsWith permitted)
    (hooks : ∀ v inst host, view (cx.onLowered v inst host) = view host) (ptrType : PtrType) :
    LowerLaw (callContext options cx) ((lowerings cx ptrType).fixing (hostView view)) permitted
      custodyLeaf ptrType where
  own := lax
  ptrType := (callContext_law options lax stops ptrType).ptrType
  write := by
    intro state mem mem' running present same
    obtain ⟨running', recorded⟩ :=
      (callContext_law options lax stops ptrType).write state mem mem' running present same
    exact ⟨running', recorded, rfl⟩
  reallocate := by
    intro old oldByteLength alignment newByteLength
    have emits := (callContext_law options lax stops ptrType).reallocate old oldByteLength alignment
      newByteLength
    exact emits.fixing fun seen =>
      reallocate_fixes options seen old oldByteLength alignment newByteLength
  handle := by
    intro d v isHandle
    have emits := (callContext_law options lax stops ptrType).handle d v isHandle
    exact emits.fixing fun seen => onWorld_fixes (lowerHandle_fixes hooks d v) seen

end Law

end Polyengine.Cabi
