import Polyengine.Jspi.SuspensionSettlement

/-!
# Suspension points in runs

Every operation keeps the books of the store, so that they hold wherever other code runs: how often a
point has been settled, produced and hooked, where it is registered, and what its built-in has
discharged.
-/

set_option autoImplicit false

namespace Polyengine.Jspi

open Polyengine.Library Reentrant

variable {Value Error : Type}

/-! ## The operations -/

section

variable {store : Store Value Error} {id : Nat} {point : Point Value Error}

theorem Rely.same_points {next : Store Value Error} (consistent : Consistent next)
    (points : next.points = store.points) : Rely store next :=
  ⟨consistent, fun _ point here => ⟨point, points ▸ here, .refl point⟩⟩

theorem recordedIn_subset (pendingResumptions : Finset Nat) (running : Option Nat) :
    recordedIn pendingResumptions running none ⊆ pendingResumptions := by
  intro owner member
  obtain old | own := mem_recordedIn member
  · exact old
  · cases own

/-- The registers once the built-in has raised its own. -/
def Store.raised (store : Store Value Error) (paired : Paired) : Store Value Error :=
  { store with
    counters := lifted store.counters paired
    hasSyncWaiter := claimedBy store.hasSyncWaiter paired
    busy := claimedBy store.busy paired }

theorem ensures_raise {paired : Paired}
    {post : Except (Thrown Error) Unit → Store Value Error → Prop}
    (ok : (∀ waitable, paired = .syncWaiter waitable → store.busy waitable = false) →
      post (.ok ()) (store.raised paired))
    (failed : ∀ message, post (.error (.trap message)) store) :
    Ensures Consistent Rely (raise paired) post store := by
  cases paired with
  | nothing => exact ok nofun
  | counter counter => exact ok nofun
  | syncStart => exact ok nofun
  | hostImport => exact ok nofun
  | asyncStart => exact ok nofun
  | syncWaiter waitable =>
      simp only [raise, ensures_bind, ensures_get, split_ok, ensures_ite, ensures_throw]
      refine ⟨fun _ => failed _, fun notBusy => ?_⟩
      refine ok fun other same => ?_
      cases same
      simpa using notBusy

theorem ensures_startWaiting {post : Except (Thrown Error) Unit → Store Value Error → Prop}
    (absent : id ∉ store.waiting)
    (after : post (.ok ()) { store with waiting := store.waiting ++ [id] }) :
    Ensures Consistent Rely (startWaiting id) post store := by
  simp only [startWaiting, ensures_bind, ensures_get, split_ok, ensures_assert, absent,
    decide_false, Bool.not_false]
  exact ⟨fun _ => after, by simp⟩

theorem ensures_block (consistent : Consistent store) (park : Park) (running : Option Nat) :
    Ensures Consistent Rely (block park running) (fun _ => Rely store) store := by
  have absent : store.next ∉ store.waiting := by
    rw [consistent.waiting, consistent.absent]
    rintro ⟨point, there, _⟩
    cases there
  rw [block, ensures_bind]
  refine ensures_raise (fun idle => ?_) fun _ => reliable.refl consistent
  have free : ∀ waitable, park.paired = .syncWaiter waitable →
      store.hasSyncWaiter waitable = false := by
    intro waitable own
    cases has : store.hasSyncWaiter waitable with
    | false => rfl
    | true =>
        have busy := consistent.books.busy waitable has
        rw [idle waitable own] at busy
        cases busy
  have minted : Rely store
      ((store.opened park (recordedIn store.pendingResumptions running none)).set store.next
        (Point.start park)) := by
    refine ⟨consistent.opened (recordedIn_subset _ _) free, fun other point there => ?_⟩
    have different : other ≠ store.next := by
      rintro rfl
      rw [consistent.absent] at there
      cases there
    exact ⟨point, (Store.set_other different).trans there, .refl point⟩
  simp only [split_ok, ensures_bind, ensures_consumePending, ensures_get, ensures_modify]
  refine ensures_startWaiting absent ?_
  cases logicalOwner : park.logicalOwner with
  | none => simpa [Store.opened, Store.set, Store.raised, parkedBy, logicalOwner] using minted
  | some owner => simpa [Store.opened, Store.set, Store.raised, parkedBy, logicalOwner] using minted

theorem ensures_explicitResumeLater (consistent : Consistent store) (id : Nat) :
    Ensures Consistent Rely (explicitResumeLater id) (fun _ => Rely store) store := by
  simp only [explicitResumeLater, ensures_bind, ensures_get, split_ok]
  cases here : store.points id with
  | none => exact reliable.refl consistent
  | some point =>
      simp only [ensures_bind, ensures_assert, split_ok, split_error]
      refine ⟨fun suspended => ?_, fun _ => reliable.refl consistent⟩
      rw [ensures_change here]
      have parked : point.done = false := by
        cases done : point.done with
        | false => rfl
        | true => simp [Point.explicitlySuspended, done] at suspended
      have regular := consistent.points id point here
      have touched : Regular { point with explicitReady := true } :=
        ⟨regular.parked, regular.producing, fun finished => ?_, regular.lenders⟩
      · refine ⟨consistent.touch here touched rfl rfl, Kept.set here (fun done => ?_) rfl⟩
        rw [parked] at done
        cases done
      · obtain ⟨done, rest⟩ := regular.ended finished
        rw [parked] at done
        cases done

theorem Consistent.touched (consistent : Consistent store) (here : store.points id = some point)
    (boundaryReturned : Bool) :
    Rely store (store.set id { point with boundaryReturned }) := by
  have regular := consistent.points id point here
  have touched : Regular { point with boundaryReturned } :=
    ⟨regular.parked, regular.producing, fun finished => ?_, regular.lenders⟩
  · exact ⟨consistent.touch here touched rfl rfl, Kept.set here (fun _ => rfl) rfl⟩
  · obtain ⟨done, hooks, promise, producing, ending⟩ := regular.ended finished
    refine ⟨done, hooks, promise, producing, ?_⟩
    cases ending with
    | resumed one two three four => exact .resumed one two three four
    | abandoned one two three four => exact .abandoned one two three four

theorem ensures_refreshSyncRequirement (consistent : Consistent store) (id : Nat)
    (required : Bool) :
    Ensures Consistent Rely (refreshSyncRequirement id required) (fun _ => Rely store) store := by
  simp only [refreshSyncRequirement, ensures_bind, ensures_get, split_ok]
  cases here : store.points id with
  | none => exact reliable.refl consistent
  | some point =>
      simp only [ensures_ite, ensures_pure, requireSyncProgress, ensures_modify]
      refine ⟨fun waiting => ?_, fun _ => reliable.refl consistent⟩
      obtain ⟨_, waits, _⟩ := waiting
      split
      next => exact reliable.refl consistent
      next absent =>
        have parked : point.done = false := by simpa [Point.waiting] using waits
        have unfinished := ((consistent.points id point here).parked parked).1
        refine .same_points (consistent.required ?_ fun other member => ?_) rfl
        · refine consistent.books.requiredNodup.append (List.nodup_singleton _) ?_
          rw [List.disjoint_singleton]
          exact absent
        · obtain old | own := List.mem_append.mp member
          · exact .inl old
          · rw [List.mem_singleton] at own
            subst own
            exact .inr ⟨point, here, unfinished⟩

theorem ensures_returned (consistent : Consistent store) (id : Nat) (required : Bool) :
    Ensures Consistent Rely (returned id required) (fun _ => Rely store) store := by
  rw [returned, ensures_bind]
  cases here : store.points id with
  | none =>
      have same : Function.update store.points id none = store.points := by
        rw [← here, Function.update_eq_self]
      rw [change, ensures_modify, here, split_ok, Option.map_none, same]
      exact ensures_refreshSyncRequirement consistent id required
  | some point =>
      have touched := consistent.touched here true
      rw [ensures_change here, split_ok]
      exact (ensures_refreshSyncRequirement touched.consistent id required).imp
        fun _ _ relied => reliable.trans touched relied

theorem ensures_deliver (consistent : Consistent store) (waitable : Nat) :
    Ensures Consistent Rely (deliver waitable) (fun _ => Rely store) store := by
  simp only [deliver, ensures_bind, ensures_get, split_ok, ensures_ite, ensures_modify, ensures_pure]
  refine ⟨fun free => ?_, fun _ => reliable.refl consistent⟩
  exact .same_points (consistent.deliver free) rfl

end

theorem guarantees : Guarantees (@operations Value Error) Consistent Rely := by
  intro operation store consistent
  cases operation with
  | block park running => exact ensures_block consistent park running
  | resume id event value running =>
      cases here : store.points id with
      | none => simpa [operations, resume, here] using reliable.refl consistent
      | some point =>
          cases done : point.done with
          | false =>
              exact (ensures_resume consistent here done event value running).imp
                fun _ _ ended => ended.2.rely
          | true => simpa [operations, resume, here, done] using reliable.refl consistent
  | abandon id reason =>
      cases here : store.points id with
      | none => simpa [operations, abandon, here] using reliable.refl consistent
      | some point =>
          cases done : point.done with
          | false =>
              exact (ensures_abandon consistent here done reason).imp fun _ _ ended => ended.2.rely
          | true => simpa [operations, abandon, here, done] using reliable.refl consistent
  | explicitResumeLater id => exact ensures_explicitResumeLater consistent id
  | refreshSyncRequirement id required =>
      exact ensures_refreshSyncRequirement consistent id required
  | returned id required => exact ensures_returned consistent id required
  | finishSyncProgress id =>
      refine .same_points (consistent.required (consistent.books.requiredNodup.erase id) ?_) rfl
      exact fun other member => .inl (List.mem_of_mem_erase member)
  | consumePending running =>
      refine ensures_consumePending.mpr ?_
      exact .same_points (consistent.pending (recordedIn_subset _ _)) rfl
  | deliver waitable => exact ensures_deliver consistent waitable
  | adjustOther counter amount => exact .same_points (consistent.adjustOther counter amount) rfl

/-! ## Every run -/

/-- How often a point has been settled, produced and hooked, and what that means for the rest. -/
structure Lifecycle (point : Point Value Error) : Prop where
  settledOnce : point.promise.length ≤ 1
  producesOnce : point.produces ≤ 1
  hooksOnce : point.hooks ≤ 1
  hooked : point.hooks = 1 ↔ point.promise.length = 1
  oneEnd : ¬(point.resumed = true ∧ point.abandoned = true)
  abandoned : point.abandoned = true → point.produces = 0 ∧ point.recorded = 0
  recordedOnce : point.recorded ≤ 1
  recorded : point.promise ≠ [] →
    (point.recorded = 1 ↔ point.resumed = true ∧ point.owner.isSome = true)
  lenders : point.promise ≠ [] → (point.paired = .syncStart ∨ point.paired = .hostImport ∨
    point.paired = .asyncStart ∧ point.reported = false) → point.lent = false

open scoped Classical in
/-- The points that have a counter to lower and are not settled. -/
noncomputable def unsettled (store : Store Value Error) (counter : Counter) : Finset Nat :=
  (Finset.range store.next).filter fun id => ∃ point, store.points id = some point ∧
    point.paired = .counter counter ∧ point.promise = []

/-- The suspension points of a store and its registers. -/
structure Sound (store : Store Value Error) : Prop where
  lifecycle : ∀ id point, store.points id = some point → Lifecycle point
  nodup : store.waiting.Nodup
  waiting : ∀ id point, store.points id = some point →
    (id ∈ store.waiting ↔ point.resumed = false ∧ point.abandoned = false)
  settled : ∀ id point, store.points id = some point →
    (id ∈ store.waiting ↔ point.promise = [] ∧ point.producing = false)
  activePark : ∀ thread id, store.activePark thread = some id ↔
    (∃ point, store.points id = some point ∧ point.logicalOwner = some thread ∧
      point.promise = []) ∧
    ∀ later point, id < later → store.points later = some point →
      point.logicalOwner ≠ some thread
  resumptions : ∀ owner ∈ store.pendingResumptions, ∃ id point, store.points id = some point ∧
    point.owner = some owner ∧ point.resumed = true
  counters : ∀ counter,
    store.counters counter = store.others counter + (unsettled store counter).card
  syncWaiter : ∀ waitable, store.hasSyncWaiter waitable = true ↔ ∃ id point,
    store.points id = some point ∧ point.paired = .syncWaiter waitable ∧ point.promise = []

section

variable {store : Store Value Error} {id : Nat} {point : Point Value Error}

theorem Regular.unsettled (regular : Regular point) :
    point.finished = false ↔ point.promise = [] := by
  cases finished : point.finished with
  | true =>
      obtain ⟨_, _, ⟨settlement, promise⟩, _⟩ := regular.ended finished
      simp [promise]
  | false =>
      cases done : point.done with
      | false => simp [(regular.parked done).2.2.2.1]
      | true => simp [(regular.producing done finished).2.2.1]

theorem Regular.lifecycle (regular : Regular point) : Lifecycle point := by
  have unsettled := regular.unsettled
  cases finished : point.finished with
  | true =>
      obtain ⟨_, hooks, ⟨settlement, promise⟩, _, ending⟩ := regular.ended finished
      have lenders : point.promise ≠ [] → (point.paired = .syncStart ∨ point.paired = .hostImport ∨
          point.paired = .asyncStart ∧ point.reported = false) → point.lent = false :=
        fun _ => regular.lenders finished
      cases ending with
      | resumed isResumed notAbandoned produces recorded =>
          refine ⟨by simp [promise], by omega, by omega, by simp [hooks, promise], ?_, ?_, ?_, ?_,
            lenders⟩
          · simp [notAbandoned]
          · simp [notAbandoned]
          · rw [recorded]
            split <;> omega
          · intro _
            rw [recorded]
            cases point.owner <;> simp [isResumed]
      | abandoned notResumed isAbandoned produces recorded =>
          refine ⟨by simp [promise], by omega, by omega, by simp [hooks, promise], ?_, ?_, ?_, ?_,
            lenders⟩
          · simp [notResumed]
          · exact fun _ => ⟨produces, recorded⟩
          · omega
          · simp [recorded, notResumed]
  | false =>
      have promise := unsettled.mp finished
      cases done : point.done with
      | false =>
          obtain ⟨_, produces, hooks, _, _, resumed, abandoned, recorded⟩ := regular.parked done
          exact ⟨by simp [promise], by omega, by omega, by simp [hooks, promise], by simp [resumed],
            by simp [abandoned], by omega, fun some => absurd promise some,
            fun some => absurd promise some⟩
      | true =>
          obtain ⟨produces, hooks, _, _, _, abandoned, recorded⟩ := regular.producing done finished
          exact ⟨by simp [promise], by omega, by omega, by simp [hooks, promise],
            by simp [abandoned], by simp [abandoned], by omega, fun some => absurd promise some,
            fun some => absurd promise some⟩

theorem Regular.waits (regular : Regular point) :
    point.done = false ↔ point.resumed = false ∧ point.abandoned = false := by
  cases done : point.done with
  | false =>
      obtain ⟨_, _, _, _, _, resumed, abandoned, _⟩ := regular.parked done
      simp [resumed, abandoned]
  | true =>
      cases finished : point.finished with
      | false => simp [(regular.producing done finished).2.2.2.2.1]
      | true =>
          obtain ⟨_, _, _, _, ending⟩ := regular.ended finished
          cases ending with
          | resumed isResumed _ _ _ => simp [isResumed]
          | abandoned _ isAbandoned _ _ => simp [isAbandoned]

theorem Regular.quiet (regular : Regular point) :
    point.done = false ↔ point.promise = [] ∧ point.producing = false := by
  cases done : point.done with
  | false =>
      obtain ⟨_, _, _, promise, producing, _⟩ := regular.parked done
      simp [promise, producing]
  | true =>
      cases finished : point.finished with
      | false => simp [(regular.producing done finished).2.2.2.1]
      | true =>
          obtain ⟨_, _, ⟨settlement, promise⟩, _⟩ := regular.ended finished
          simp [promise]

theorem Consistent.view_iff (consistent : Consistent store) (id : Nat) (property : View → Prop) :
    (∃ view, store.views id = some view ∧ property view ∧ view.finished = false) ↔
      ∃ point, store.points id = some point ∧ property point.view ∧ point.promise = [] := by
  constructor
  · rintro ⟨view, there, holds, unfinished⟩
    obtain ⟨point, here, rfl⟩ := Option.map_eq_some_iff.mp there
    exact ⟨point, here, holds, ((consistent.points id point here).unsettled).mp unfinished⟩
  · rintro ⟨point, here, holds, promise⟩
    exact ⟨point.view, Store.views_some here, holds,
      ((consistent.points id point here).unsettled).mpr promise⟩

theorem Consistent.sound (consistent : Consistent store) : Sound store := by
  have books := consistent.books
  have member : ∀ id point, store.points id = some point →
      (id ∈ store.waiting ↔ point.done = false) := by
    intro id point here
    rw [consistent.waiting id, here]
    simp
  refine ⟨fun id point here => (consistent.points id point here).lifecycle, consistent.nodup,
    fun id point here => ?_, fun id point here => ?_, fun thread id => ?_, fun owner gate => ?_,
    fun counter => ?_, fun waitable => ?_⟩
  · rw [member id point here, (consistent.points id point here).waits]
  · rw [member id point here, (consistent.points id point here).quiet]
  · rw [books.park thread id]
    have parked := consistent.view_iff id fun view => view.logicalOwner = some thread
    constructor
    · rintro ⟨found, last⟩
      exact ⟨parked.mp found, fun later point above there =>
        last later point.view above (Store.views_some there)⟩
    · rintro ⟨found, last⟩
      refine ⟨parked.mpr found, fun later view above there => ?_⟩
      obtain ⟨point, here, rfl⟩ := Option.map_eq_some_iff.mp there
      exact last later point above here
  · obtain ⟨id, view, there, own, recorded⟩ := books.pending owner gate
    obtain ⟨point, here, rfl⟩ := Option.map_eq_some_iff.mp there
    refine ⟨id, point, here, own, ?_⟩
    have regular := consistent.points id point here
    have once : point.recorded = 1 := recorded
    cases done : point.done with
    | false =>
        obtain ⟨_, _, _, _, _, _, _, never⟩ := regular.parked done
        omega
    | true =>
        cases finished : point.finished with
        | false => exact (regular.producing done finished).2.2.2.2.1
        | true =>
            obtain ⟨_, _, _, _, ending⟩ := regular.ended finished
            cases ending with
            | resumed isResumed _ _ _ => exact isResumed
            | abandoned _ _ _ never => omega
  · have same : raised store.views store.next counter = unsettled store counter := by
      ext id
      simp only [raised, unsettled, Finset.mem_filter]
      exact and_congr_right fun _ =>
        consistent.view_iff id fun view => view.paired = .counter counter
    rw [books.counters counter, same]
  · rw [books.claimed waitable]
    exact exists_congr fun id => consistent.view_iff id fun view => view.paired = .syncWaiter waitable

end

theorem Finished.hooked {start final : Store Value Error} {id : Nat}
    {ended : Point Value Error → Prop} (finished : Finished start id ended final) :
    ∃ point, final.points id = some point ∧ ended point ∧ point.hooks = 1 ∧
      (point.resumed = true → point.produces = 1) ∧
      (point.abandoned = true → point.produces = 0) := by
  obtain ⟨point, here, isFinished, holds⟩ := finished.point
  obtain ⟨_, hooks, _, _, ending⟩ :=
    (finished.rely.consistent.points id point here).ended isFinished
  refine ⟨point, here, holds, hooks, ?_⟩
  cases ending with
  | resumed _ notAbandoned produces _ => exact ⟨fun _ => produces, by simp [notAbandoned]⟩
  | abandoned notResumed _ produces _ => exact ⟨by simp [notResumed], fun _ => produces⟩

theorem suspensionPoints_sound {store : Store Value Error}
    (reaches : Reaches operations Store.initial store) :
    Sound store ∧
    (∀ id event value running result final, id ∈ store.waiting →
      Exec operations (.program (resume id event value running)) store result final →
      result = .ok () ∧ ∃ point settlement, final.points id = some point ∧
        point.promise = [settlement] ∧ point.resumed = true ∧ point.produces = 1 ∧
        point.hooks = 1) ∧
    ∀ id reason result final, id ∈ store.waiting →
      Exec operations (.program (abandon id reason)) store result final →
      result = .ok () ∧ ∃ point, final.points id = some point ∧
        point.promise = [.rejected reason] ∧ point.abandoned = true ∧ point.produces = 0 ∧
        point.hooks = 1 := by
  have consistent : Consistent store := reaches.holds reliable guarantees Consistent.initial
  refine ⟨consistent.sound, ?_, ?_⟩
  · intro id event value running result final member ran
    obtain ⟨point, here, parked⟩ := (consistent.waiting id).mp member
    obtain ⟨ok, finished⟩ := ran.of_ensures reliable guarantees
      (ensures_resume consistent here parked event value running)
    obtain ⟨last, there, ⟨resumed, settlement, promise⟩, hooks, produces, _⟩ := finished.hooked
    exact ⟨ok, last, settlement, there, promise, resumed, produces resumed, hooks⟩
  · intro id reason result final member ran
    obtain ⟨point, here, parked⟩ := (consistent.waiting id).mp member
    obtain ⟨ok, finished⟩ := ran.of_ensures reliable guarantees
      (ensures_abandon consistent here parked reason)
    obtain ⟨last, there, ⟨abandoned, promise⟩, hooks, _, produces⟩ := finished.hooked
    exact ⟨ok, last, there, promise, abandoned, produces abandoned, hooks⟩

/-! ## A start call that has reported -/

def startParked : Store Nat Unit :=
  ((block ⟨some 1, some 1, false, .asyncStart⟩ none).run .initial).2

theorem startParked_reached : Reaches operations Store.initial startParked :=
  .ran .initial (Exec.run operations (operations (.block ⟨some 1, some 1, false, .asyncStart⟩ none)) _)

theorem suspensionPoints_sound_start : Sound startParked ∧ ∃ point settlement,
    ((resume 0 (.ok ()) 5 none).run startParked).2.points 0 = some point ∧
      point.promise = [settlement] := by
  obtain ⟨sound, resumed, _⟩ := suspensionPoints_sound startParked_reached
  have ran := Exec.run operations (resume 0 (.ok ()) 5 none) startParked
  obtain ⟨_, point, settlement, here, promise, _⟩ :=
    resumed 0 (.ok ()) 5 none _ _ (by decide) ran
  exact ⟨sound, point, settlement, here, promise⟩

theorem startParked_calls : ((resume 0 (.ok ()) 5 none).firstCall startParked).isSome = true := by
  decide

/-- The report is being produced. -/
def startReporting : Store Nat Unit :=
  (((resume 0 (.ok ()) 5 none).firstCall startParked).get startParked_calls).2

def startReported : Store Nat Unit := ((resume 0 (.ok ()) 5 none).run startParked).2

/-- While its value is produced a point is neither settled nor in the waiting list, and the lenders of a
start call that has reported stay. -/
theorem reported_lends :
    (∃ store : Store Nat Unit, Reaches operations Store.initial store ∧ ∃ point,
      store.points 0 = some point ∧ point.promise = [] ∧ 0 ∉ store.waiting) ∧
    ∃ store : Store Nat Unit, Reaches operations Store.initial store ∧ ∃ point,
      store.points 0 = some point ∧ point.finished = true ∧ point.lent = true := by
  constructor
  · have calls : (resume 0 (.ok ()) 5 none).firstCall startParked =
        some (_, startReporting) := (Option.some_get startParked_calls).symm
    have invokes : Invokes operations (operations (.resume 0 (.ok ()) 5 none)) startParked _
        startReporting := .firstCall calls
    refine ⟨startReporting, .inside startParked_reached invokes, ?_⟩
    have parks : (startReporting.points 0).map Point.promise = some [] := by decide
    obtain ⟨point, here, promise⟩ := Option.map_eq_some_iff.mp parks
    exact ⟨point, here, promise, by decide⟩
  · have ran := Exec.run operations (operations (.resume 0 (.ok ()) 5 none)) startParked
    refine ⟨startReported, .ran startParked_reached ran, ?_⟩
    have ended : (startReported.points 0).map (fun point => (point.finished, point.lent)) =
        some (true, true) := by decide
    obtain ⟨point, here, both⟩ := Option.map_eq_some_iff.mp ended
    injection both with finished lent
    exact ⟨point, here, finished, lent⟩

end Polyengine.Jspi
