import Polyengine.Cabi.Handles

/-!
# Cleaning up custody

The acquisitions that were not delivered are disposed of in reverse order. One that was inserted
into a table is disposed of only while its slot holds that very insertion.
-/

set_option autoImplicit false

namespace Polyengine.Cabi

open Polyengine.Library Command

variable {Host : Type}

def Insertion.Held (insertion : Insertion) (handles : Handles Host) : Prop :=
  (handles.tables insertion.table).Holds insertion.index insertion.tenure insertion.entry

instance (insertion : Insertion) (handles : Handles Host) : Decidable (insertion.Held handles) :=
  inferInstanceAs (Decidable (_ ∧ _))

namespace PreparedCustody

section

variable (dispose : Cleanup → Command (Handles Host) Failure Unit)

/-- One turn of the loop of `cleanup`. -/
def cleanupOne (a : Acquisition) : Command (Handles Host) Failure Unit := do
  match a.insertion with
  | none => dispose a.cleanup
  | some insertion =>
      let handles ← get
      if insertion.Held handles then
        let (_, handles) ← handles.removeEntry insertion.table insertion.index
        set handles
        dispose a.cleanup

/-- The loop of `cleanup`, which keeps the first failure. -/
def cleanupFrom (failed : Option Failure) :
    List Acquisition → Command (Handles Host) Failure (Option Failure)
  | [] => return failed
  | a :: rest => do
      let failed ← tryCatch (do
        cleanupOne dispose a
        return failed) fun e => return some (failed.getD e)
      cleanupFrom failed rest

/-- `cleanup`; with a primary failure the failures of disposing are dropped. -/
def cleanup (primary : Bool) : Command (PreparedCustody × Handles Host) Failure Unit := do
  let (custody, handles) ← get
  if custody.finished then return ()
  let (result, handles) := (cleanupFrom dispose none custody.acquired.reverse).outcome handles
  set ({ custody with finished := true, starts := [], acquired := [] }, handles)
  match ← result with
  | some failure => if primary then return () else throw failure
  | none => return ()

end

/-- The turns of a cleanup: what it disposes of in which order, and the handles it leaves. An
acquisition is passed over exactly when its slot no longer holds the insertion; otherwise its own
slot is vacated, no other, and it is disposed of once. -/
inductive Cleans (dispose : Cleanup → Command (Handles Host) Failure Unit) :
    List Acquisition → Handles Host → List Cleanup → Handles Host → Prop where
  | nil (handles : Handles Host) : Cleans dispose [] handles [] handles
  | departed {a : Acquisition} {rest : List Acquisition} {insertion : Insertion}
      {handles final : Handles Host} {disposed : List Cleanup} :
      a.insertion = some insertion → ¬insertion.Held handles →
      Cleans dispose rest handles disposed final → Cleans dispose (a :: rest) handles disposed final
  | held {a : Acquisition} {rest : List Acquisition} {insertion : Insertion}
      {handles vacated final : Handles Host} {disposed : List Cleanup} :
      a.insertion = some insertion → insertion.Held handles →
      (∀ inst i, (vacated.tables inst).entry i =
        if inst = insertion.table ∧ i = insertion.index then none
        else (handles.tables inst).entry i) →
      Cleans dispose rest ((dispose a.cleanup).outcome vacated).2 disposed final →
      Cleans dispose (a :: rest) handles (a.cleanup :: disposed) final
  | raw {a : Acquisition} {rest : List Acquisition} {handles final : Handles Host}
      {disposed : List Cleanup} :
      a.insertion = none →
      Cleans dispose rest ((dispose a.cleanup).outcome handles).2 disposed final →
      Cleans dispose (a :: rest) handles (a.cleanup :: disposed) final

theorem Cleans.sublist {dispose : Cleanup → Command (Handles Host) Failure Unit}
    {acquired : List Acquisition} {handles final : Handles Host} {disposed : List Cleanup}
    (cleans : Cleans dispose acquired handles disposed final) :
    disposed.Sublist (acquired.map (·.cleanup)) := by
  induction cleans with
  | nil => exact .slnil
  | departed _ _ _ ih => exact ih.cons _
  | held _ _ _ _ ih => exact ih.cons_cons _
  | raw _ _ ih => exact ih.cons_cons _

theorem removeEntry_held {insertion : Insertion} {handles : Handles Host}
    (held : insertion.Held handles) :
    ∃ vacated, handles.removeEntry insertion.table insertion.index = .ok (insertion.entry, vacated) ∧
      ∀ inst i, (vacated.tables inst).entry i =
        if inst = insertion.table ∧ i = insertion.index then none
        else (handles.tables inst).entry i := by
  obtain ⟨next, removed⟩ := TenuredTable.remove_of_entry held.1
  refine ⟨handles.setTable insertion.table next, ?_, ?_⟩
  · rw [Handles.removeEntry, removed]
    rfl
  · intro inst i
    by_cases same : inst = insertion.table
    · subst same
      simp only [Handles.setTable, Function.update_self, true_and]
      exact TenuredTable.remove_entry removed i
    · simp only [Handles.setTable, Function.update_of_ne same, same, false_and, if_false]

theorem cleanupFrom_cleans (dispose : Cleanup → Command (Handles Host) Failure Unit)
    (failed : Option Failure) (acquired : List Acquisition) (handles : Handles Host) :
    Ensures (fun _ _ => False) (cleanupFrom dispose failed acquired)
      (fun _ final => ∃ disposed, Cleans dispose acquired handles disposed final) handles := by
  induction acquired generalizing failed handles with
  | nil => exact ⟨[], .nil handles⟩
  | cons a rest ih =>
      have turn : ∀ start, Ensures
          (fun failure next => Ensures (fun _ _ => False)
            (cleanupFrom dispose (some (failed.getD failure)) rest)
            (fun _ final => ∃ disposed,
              Cleans dispose rest ((dispose a.cleanup).outcome start).2 disposed final) next)
          (dispose a.cleanup)
          (fun _ next => Ensures (fun _ _ => False) (cleanupFrom dispose failed rest)
            (fun _ final => ∃ disposed,
              Cleans dispose rest ((dispose a.cleanup).outcome start).2 disposed final) next)
          start := by
        intro start
        refine (ensures_reached (dispose a.cleanup) start).mono ?_ ?_
        · intro failure next reached
          subst reached
          exact ih _ _
        · intro _ next reached
          subst reached
          exact ih _ _
      simp only [cleanupFrom, cleanupOne, ensures_bind, ensures_tryCatch, ensures_pure]
      cases content : a.insertion with
      | none =>
          refine (turn handles).mono ?_ ?_
          · intro failure next later
            refine later.imp ?_
            rintro _ final ⟨disposed, cleans⟩
            exact ⟨a.cleanup :: disposed, .raw content cleans⟩
          · intro _ next later
            refine later.imp ?_
            rintro _ final ⟨disposed, cleans⟩
            exact ⟨a.cleanup :: disposed, .raw content cleans⟩
      | some insertion =>
          by_cases held : insertion.Held handles
          · obtain ⟨vacated, removed, entries⟩ := removeEntry_held held
            simp only [ensures_bind, ensures_get, if_pos held, removed, ensures_lift,
              Fallible.satisfies_ok, ensures_set]
            refine (turn vacated).mono ?_ ?_
            · intro failure next later
              refine later.imp ?_
              rintro _ final ⟨disposed, cleans⟩
              exact ⟨a.cleanup :: disposed, .held content held entries cleans⟩
            · intro _ next later
              refine later.imp ?_
              rintro _ final ⟨disposed, cleans⟩
              exact ⟨a.cleanup :: disposed, .held content held entries cleans⟩
          · simp only [ensures_bind, ensures_get, if_neg held, ensures_pure]
            refine (ih failed handles).imp ?_
            rintro _ final ⟨disposed, cleans⟩
            exact ⟨disposed, .departed content held cleans⟩

/-- A cleanup takes the turns of all acquisitions in reverse order, whatever fails on the way, and
finishes the custody. -/
theorem cleanup_cleans (dispose : Cleanup → Command (Handles Host) Failure Unit) (primary : Bool)
    {custody : PreparedCustody} (unfinished : custody.finished = false) (handles : Handles Host) :
    ∃ disposed final, Cleans dispose custody.acquired.reverse handles disposed final ∧
      ((cleanup dispose primary).outcome (custody, handles)).2 =
        ({ custody with finished := true, starts := [], acquired := [] }, final) := by
  obtain ⟨result, final, ran, disposed, cleans⟩ :=
    (cleanupFrom_cleans dispose none custody.acquired.reverse handles).exists_ok
  refine ⟨disposed, final, cleans, ?_⟩
  have reached : Ensures
      (fun _ next => next = ({ custody with finished := true, starts := [], acquired := [] }, final))
      (cleanup dispose primary)
      (fun _ next => next = ({ custody with finished := true, starts := [], acquired := [] }, final))
      (custody, handles) := by
    simp only [cleanup, ensures_bind, ensures_get, unfinished, ran]
    cases result with
    | none => rfl
    | some failure => cases primary <;> rfl
  unfold Ensures at reached
  cases outcome : (cleanup dispose primary).outcome (custody, handles) with
  | mk result next =>
      rw [outcome] at reached
      cases result <;> exact reached

theorem cleanup_finished (dispose : Cleanup → Command (Handles Host) Failure Unit) (primary : Bool)
    {custody : PreparedCustody} (finished : custody.finished = true) (handles : Handles Host) :
    (cleanup dispose primary).outcome (custody, handles) = (.ok (), (custody, handles)) := by
  apply reads_iff.mpr
  simp only [cleanup, meets_bind, meets_get, finished]
  exact ⟨trivial, rfl⟩

end PreparedCustody

end Polyengine.Cabi
