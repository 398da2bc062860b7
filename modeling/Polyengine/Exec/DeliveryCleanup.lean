import Polyengine.Exec.DeliveryTransfer

/-!
# Cleaning up after a delivery

A delivery that fails cleans up its custody while host code keeps running. The history of the
call takes note of each ownership that is cleaned up.
-/

set_option autoImplicit false

namespace Polyengine.Exec

open Polyengine.Cabi Polyengine.Library Polyengine.Task Command

variable {Rest Guest : Type}

/-- The cleanups of acquisitions, of those alone that were not passed over. -/
def Discharges (acquired : List Acquisition) (done : List Cleanup) : Prop :=
  done.Sublist (acquired.map (·.cleanup)) ∧
    ((∀ a ∈ acquired, a.insertion = none) → done = acquired.map (·.cleanup))

theorem Discharges.append {first second : List Acquisition} {done done' : List Cleanup}
    (before : Discharges first done) (after : Discharges second done') :
    Discharges (first ++ second) (done ++ done') := by
  constructor
  · rw [List.map_append]
    exact before.1.append after.1
  · intro uninserted
    rw [List.map_append, before.2 fun a member => uninserted a (List.mem_append_left _ member),
      after.2 fun a member => uninserted a (List.mem_append_right _ member)]

/-- Other code has run, and the acquisitions were cleaned up or passed over. -/
structure Disposes (acquired : List Acquisition) (handles next : ImportHandles Rest) : Prop where
  awaiting : next.host.awaiting = handles.host.awaiting
  lowering : next.host.lowering = handles.host.lowering
  custody : next.host.custody = handles.host.custody
  valid : (∀ inst, (handles.tables inst).Valid) → ∀ inst, (next.tables inst).Valid
  unreturned : Unreturned handles.host → Unreturned next.host
  disposed : ∃ done, next.host.disposed = handles.host.disposed ++ done ∧ Discharges acquired done

theorem Disposes.of_interfered {handles next : ImportHandles Rest}
    (interfered : Interfered handles next) : Disposes [] handles next where
  awaiting := interfered.awaiting
  lowering := interfered.lowering
  custody := interfered.custody
  valid := interfered.valid
  unreturned := interfered.unreturned
  disposed := ⟨[], by rw [interfered.disposed, List.append_nil], List.Sublist.refl _, fun _ => rfl⟩

theorem Disposes.trans {acquired later : List Acquisition} {first middle last : ImportHandles Rest}
    (before : Disposes acquired first middle) (after : Disposes later middle last) :
    Disposes (acquired ++ later) first last where
  awaiting := after.awaiting.trans before.awaiting
  lowering := after.lowering.trans before.lowering
  custody := after.custody.trans before.custody
  valid := fun valid => after.valid (before.valid valid)
  unreturned := fun unreturned => after.unreturned (before.unreturned unreturned)
  disposed := by
    obtain ⟨done, disposed, cleaned⟩ := before.disposed
    obtain ⟨done', disposed', cleaned'⟩ := after.disposed
    exact ⟨done ++ done', by rw [disposed', disposed, List.append_assoc], cleaned.append cleaned'⟩

theorem Disposes.departed {a : Acquisition} {insertion : Insertion}
    (inserted : a.insertion = some insertion) {handles next : ImportHandles Rest}
    (interfered : Interfered handles next) : Disposes [a] handles next where
  awaiting := interfered.awaiting
  lowering := interfered.lowering
  custody := interfered.custody
  valid := interfered.valid
  unreturned := interfered.unreturned
  disposed := by
    refine ⟨[], by rw [interfered.disposed, List.append_nil], List.nil_sublist _, ?_⟩
    intro uninserted
    rw [uninserted a List.mem_cons_self] at inserted
    cases inserted

variable (lowered : Import Rest Guest)

theorem disposeOf_disposes (a : Acquisition) :
    Relates (Disposes [a]) (disposeOf lowered a.cleanup) := by
  intro handles
  let noted : ImportHandles Rest :=
    { handles with host := { handles.host with disposed := handles.host.disposed ++ [a.cleanup] } }
  have note : Disposes [a] handles noted :=
    { awaiting := rfl
      lowering := rfl
      custody := rfl
      valid := id
      unreturned := by
        intro unreturned
        cases unreturned with
        | pending resolutions state => exact .pending resolutions state
        | cancelled lowering resolutions state flatResults early =>
            exact .cancelled lowering resolutions state flatResults early
      disposed := ⟨[a.cleanup], rfl, List.Sublist.refl _, fun _ => rfl⟩ }
  have after : Disposes [a] handles
      (interfere lowered.deferCancel (lowered.dispose a.cleanup noted).1 noted) :=
    note.trans (.of_interfered (interfere_interfered _ _ noted))
  simp only [disposeOf, ensures_bind, Place.ensures_change, ensures_get, ensures_modify,
    ensures_lift]
  change Fallible.Satisfies
    (fun _ => Disposes [a] handles
      (interfere lowered.deferCancel (lowered.dispose a.cleanup noted).1 noted))
    (lowered.dispose a.cleanup noted).2 _
  cases (lowered.dispose a.cleanup noted).2 with
  | error failure => exact after
  | ok _ => exact after

theorem removeEntry_interfered {handles next : ImportHandles Rest} {inst i : Nat} {e : HandleEntry}
    (removed : handles.removeEntry inst i = .ok (e, next)) : Interfered handles next := by
  rw [Handles.removeEntry] at removed
  cases slot : (handles.tables inst).remove i with
  | error failure =>
      rw [slot] at removed
      cases removed
  | ok outcome =>
      obtain ⟨e', table⟩ := outcome
      rw [slot] at removed
      cases removed
      have same : SameCall handles.host (handles.setTable inst table).host :=
        ⟨rfl, rfl, rfl, rfl, rfl, rfl, rfl, rfl, rfl⟩
      apply Interfered.of_same same
      intro valid other
      by_cases target : other = inst
      · subst target
        simp only [Handles.setTable, Function.update_self]
        exact (TenuredTable.remove_ok (valid other) slot).2.1
      · simp only [Handles.setTable, Function.update_of_ne target]
        exact valid other

theorem cleanupOne_disposes (a : Acquisition) :
    Relates (Disposes [a]) (PreparedCustody.cleanupOne (disposeOf lowered) a) := by
  intro handles
  rw [PreparedCustody.cleanupOne.eq_def]
  cases inserted : a.insertion with
  | none => exact disposeOf_disposes lowered a handles
  | some insertion =>
      simp only [ensures_bind, ensures_get, ensures_ite, ensures_lift, ensures_set, ensures_pure]
      constructor
      · intro held
        cases removed : handles.removeEntry insertion.table insertion.index with
        | error failure => exact .departed inserted (.refl handles)
        | ok outcome =>
            obtain ⟨e, vacated⟩ := outcome
            have gone : Disposes [] handles vacated :=
              .of_interfered (removeEntry_interfered removed)
            apply (disposeOf_disposes lowered a vacated).mono
            · intro failure next reached
              exact gone.trans reached
            · intro _ next reached
              exact gone.trans reached
      · intro _
        exact .departed inserted (.refl handles)

theorem cleanupFrom_disposes (failed : Option Failure) (acquired : List Acquisition)
    (handles : ImportHandles Rest) :
    Ensures (fun _ _ => False) (PreparedCustody.cleanupFrom (disposeOf lowered) failed acquired)
      (fun _ next => Disposes acquired handles next) handles := by
  induction acquired generalizing failed handles with
  | nil => exact .of_interfered (.refl handles)
  | cons a rest ih =>
      simp only [PreparedCustody.cleanupFrom, ensures_bind, ensures_tryCatch, ensures_pure]
      apply (cleanupOne_disposes lowered a handles).mono
      · intro failure middle turned
        apply (ih (some (failed.getD failure)) middle).imp
        intro _ next later
        exact turned.trans later
      · intro _ middle turned
        apply (ih failed middle).imp
        intro _ next later
        exact turned.trans later

theorem cleanup_disposes {custody : PreparedCustody} (unfinished : custody.finished = false)
    (handles : ImportHandles Rest) :
    Ensures (fun _ next => Disposes custody.acquired.reverse handles next)
      (Command.locally custody (PreparedCustody.cleanup (disposeOf lowered) true))
      (fun _ next => Disposes custody.acquired.reverse handles next) handles := by
  obtain ⟨result, final, ran, disposes⟩ :=
    (cleanupFrom_disposes lowered none custody.acquired.reverse handles).exists_ok
  simp only [ensures_locally, PreparedCustody.cleanup, ensures_bind, ensures_get, unfinished, ran]
  cases result with
  | none => exact disposes
  | some failure => exact disposes

end Polyengine.Exec
