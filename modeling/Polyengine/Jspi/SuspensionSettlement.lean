import Polyengine.Jspi.SuspensionInvariant

/-!
# The settlement of suspension points

That each operation on the store keeps its books, whatever the callbacks do, and what a point has gone
through once it has been resumed or abandoned.
-/

set_option autoImplicit false

namespace Polyengine.Jspi

open Polyengine.Library Reentrant

variable {Value Error : Type}

/-! ## Rules -/

section

variable {store : Store Value Error} {id : Nat}

theorem ensures_change {point : Point Value Error} {update : Point Value Error → Point Value Error}
    {post : Except (Thrown Error) PUnit → Store Value Error → Prop}
    (here : store.points id = some point) :
    Ensures Consistent Rely (change id update) post store ↔
      post (.ok ⟨⟩) (store.set id (update point)) := by
  rw [change, ensures_modify, here]
  rfl

@[simp] theorem ensures_attempt {program : Program Value Error Unit}
    {post : Except (Thrown Error) (Option (Thrown Error)) → Store Value Error → Prop} :
    Ensures Consistent Rely (attempt program) post store ↔
      Ensures Consistent Rely program
        (split (fun _ => post (.ok none)) fun error => post (.ok (some error))) store := by
  simp only [attempt, ensures_tryCatch, ensures_bind]
  constructor
  · intro ensures
    refine ensures.imp fun result final holds => ?_
    cases result with
    | ok done => exact holds
    | error error => exact holds
  · intro ensures
    refine ensures.imp fun result final holds => ?_
    cases result with
    | ok done => exact holds
    | error error => exact holds

@[simp] theorem ensures_assert {condition : Bool} {message : String}
    {post : Except (Thrown Error) Unit → Store Value Error → Prop} :
    Ensures Consistent Rely (assert condition message) post store ↔
      (condition = true → post (.ok ()) store) ∧
        (condition = false → post (.error (.assertion message)) store) := by
  simp only [assert, ensures_ite, ensures_pure, ensures_throw, Bool.not_eq_true]

end

/-! ## The end of a point -/

/-- The built-in discharges the lenders of its call. -/
def discharges (paired : Paired) (reported : Bool) : Bool :=
  match paired with
  | .syncStart | .hostImport => true
  | .asyncStart => !reported
  | _ => false

section

variable {store : Store Value Error} {id : Nat} {point : Point Value Error}

theorem ensures_clearPark {logicalOwner : Option Nat}
    {post : Except (Thrown Error) PUnit → Store Value Error → Prop} :
    Ensures Consistent Rely (clearPark id logicalOwner) post store ↔
      post (.ok ⟨⟩) { store with activePark := cleared store.activePark id logicalOwner } := by
  rw [clearPark, ensures_modify]
  cases logicalOwner with
  | none => rfl
  | some owner =>
      simp only [cleared]
      split <;> rfl

/-- The store once the hook of the built-in has run. -/
def Store.hooked (store : Store Value Error) (paired : Paired) : Store Value Error :=
  { store with
    counters := lowered store.counters paired
    hasSyncWaiter := released store.hasSyncWaiter paired }

def hookedPoint (point : Point Value Error) : Point Value Error :=
  { point with
    hooks := point.hooks + 1
    lent := if discharges point.paired point.reported = true then false else point.lent }

theorem hookedPoint_kept (point : Point Value Error)
    (kept : discharges point.paired point.reported = false) :
    hookedPoint point = { point with hooks := point.hooks + 1 } := by
  simp [hookedPoint, kept]

theorem hookedPoint_discharged (point : Point Value Error)
    (discharged : discharges point.paired point.reported = true) :
    hookedPoint point = { point with hooks := point.hooks + 1, lent := false } := by
  simp [hookedPoint, discharged]

theorem ensures_onSettled {current : Point Value Error} (here : store.points id = some current)
    (paired : current.paired = point.paired) (reported : current.reported = point.reported)
    (consistent : Consistent ((store.hooked point.paired).set id (hookedPoint current)))
    {post : Except (Thrown Error) Unit → Store Value Error → Prop}
    (after : ∀ result changed,
      Rely ((store.hooked point.paired).set id (hookedPoint current)) changed →
        post result changed) :
    Ensures Consistent Rely (onSettled id point) post store := by
  have last := fun result => after result _ (reliable.refl consistent)
  simp only [onSettled, ensures_bind, ensures_change here, split_ok]
  cases isPaired : point.paired with
  | nothing =>
      have kept := hookedPoint_kept current (by rw [paired, isPaired]; rfl)
      rw [isPaired, kept] at consistent after
      simp only [ensures_invoke]
      exact ⟨consistent, after⟩
  | counter counter =>
      have kept := hookedPoint_kept current (by rw [paired, isPaired]; rfl)
      rw [isPaired, kept] at last
      exact last (.ok ⟨⟩)
  | syncWaiter waitable =>
      have kept := hookedPoint_kept current (by rw [paired, isPaired]; rfl)
      rw [isPaired, kept] at last
      exact last (.ok ⟨⟩)
  | syncStart =>
      have discharged := hookedPoint_discharged current (by rw [paired, isPaired]; rfl)
      rw [isPaired, discharged] at last
      simp only [ensures_change Store.set_self, Store.set_set]
      exact last (.ok ⟨⟩)
  | hostImport =>
      have discharged := hookedPoint_discharged current (by rw [paired, isPaired]; rfl)
      rw [isPaired, discharged] at last
      simp only [ensures_change Store.set_self, Store.set_set]
      exact last (.ok ⟨⟩)
  | asyncStart =>
      simp only [ensures_ite, ensures_change Store.set_self, Store.set_set, ensures_pure]
      constructor
      · intro notReported
        have discharged := hookedPoint_discharged current
          (by rw [paired, isPaired, reported, notReported]; rfl)
        rw [isPaired, discharged] at last
        exact last (.ok ⟨⟩)
      · intro isReported
        have kept := hookedPoint_kept current
          (by rw [paired, isPaired, reported]; simpa [discharges] using isReported)
        rw [isPaired, kept] at last
        exact last (.ok ⟨⟩)

/-- The registers of the store once a point has ended that was not in the waiting list. -/
def Store.discharged (store : Store Value Error) (id : Nat) (point : Point Value Error) :
    Store Value Error :=
  { store with
    requiredSyncParks := store.requiredSyncParks.erase id
    activePark := cleared store.activePark id point.logicalOwner
    counters := lowered store.counters point.paired
    hasSyncWaiter := released store.hasSyncWaiter point.paired }

def settledPoint (point : Point Value Error) : Point Value Error :=
  hookedPoint { point with finished := true }

theorem ensures_finish (here : store.points id = some point) (unfinished : point.finished = false)
    (consistent : Consistent ((store.discharged id point).set id (settledPoint point)))
    {post : Except (Thrown Error) Unit → Store Value Error → Prop}
    (after : ∀ changed, Rely ((store.discharged id point).set id (settledPoint point)) changed →
      post (.ok ()) changed) :
    Ensures Consistent Rely (finish id) post store := by
  simp only [finish, ensures_bind, ensures_get, split_ok, here, ensures_ite]
  refine ⟨fun _ => ?_, fun isNot => absurd unfinished isNot⟩
  simp only [ensures_bind, ensures_change here, split_ok, ensures_clearPark, finishSyncProgress,
    ensures_modify, ensures_attempt]
  have set : ({ store.set id { point with finished := true } with
      activePark := cleared store.activePark id point.logicalOwner
      requiredSyncParks := store.requiredSyncParks.erase id } : Store Value Error).points id =
      some { point with finished := true } := Store.set_self
  have same : (({ store.set id { point with finished := true } with
      activePark := cleared store.activePark id point.logicalOwner
      requiredSyncParks := store.requiredSyncParks.erase id } : Store Value Error).hooked
        point.paired).set id (hookedPoint { point with finished := true }) =
      (store.discharged id point).set id (settledPoint point) := by
    simp [Store.set, Store.hooked, Store.discharged, settledPoint]
  refine ensures_onSettled set rfl rfl (same ▸ consistent) fun result changed relied => ?_
  rw [same] at relied
  cases result with
  | ok done => exact after changed relied
  | error error => exact after changed relied

end

/-! ## Resumption -/

def entered (point : Point Value Error) : Point Value Error :=
  { point with done := true, resumed := true, produces := point.produces + 1, producing := true }

/-- The value of the point is produced, or has been. -/
def Entered (point current : Point Value Error) : Prop :=
  current = { entered point with
    boundaryReturned := current.boundaryReturned
    lent := current.lent
    reported := current.reported }

section

variable {point current : Point Value Error}

theorem Entered.view (is : Entered point current) : current.view = point.view := by
  rw [is]
  rfl

theorem Entered.done (is : Entered point current) : current.done = true := by
  rw [is]
  rfl

theorem Entered.regular (is : Entered point current) (regular : Regular point)
    (parked : point.done = false) : Regular current := by
  obtain ⟨unfinished, produces, hooks, promise, _, _, abandoned, recorded⟩ := regular.parked parked
  rw [is]
  refine ⟨nofun, fun _ _ => ⟨?_, hooks, promise, rfl, rfl, abandoned, recorded⟩, fun finished => ?_,
    fun finished => ?_⟩
  · simp [entered, produces]
  · simp [entered, unfinished] at finished
  · simp [entered, unfinished] at finished

theorem Entered.later {next : Point Value Error} (is : Entered point current)
    (later : Later current next) : Entered point next := by
  have same := later is.done
  rw [Entered, same, is]

end

section

variable {start state changed : Store Value Error} {id : Nat} {point current : Point Value Error}

/-- A parked point is taken from the waiting list. -/
def Store.begun (store : Store Value Error) (id : Nat) (current : Point Value Error) :
    Store Value Error :=
  { store with waiting := store.waiting.erase id }.set id current

theorem Store.begun_self : (start.begun id current).points id = some current := Store.set_self

theorem Entered.rely (is : Entered point current) (consistent : Consistent start)
    (here : start.points id = some point) (parked : point.done = false) :
    Rely start (start.begun id current) := by
  have regular := is.regular (consistent.points id point here) parked
  refine ⟨consistent.begin here regular is.view is.done, ?_⟩
  refine Kept.set here (fun done => ?_) rfl
  rw [parked] at done
  cases done

def Produced (start : Store Value Error) (id : Nat) (point : Point Value Error)
    (state : Store Value Error) : Prop :=
  ∃ base before after, Rely start base ∧ base.points id = some before ∧ Entered point before ∧
    Entered point after ∧
    state = { base with hasSyncWaiter := released base.hasSyncWaiter point.paired }.set id after

theorem Produced.of_rely (is : Entered point current) (rely : Rely start (start.begun id current))
    (relied : Rely (start.begun id current) changed) (plain : ∀ claims,
      released claims point.paired = claims) :
    ∃ found, changed.points id = some found ∧ Entered point found ∧
      ∀ after, Entered point after → Produced start id point (changed.set id after) := by
  obtain ⟨found, there, later⟩ := relied.kept id current Store.begun_self
  refine ⟨found, there, is.later later, fun after isAfter => ?_⟩
  refine ⟨changed, found, after, reliable.trans rely relied, there, is.later later, isAfter, ?_⟩
  rw [plain]

theorem Store.set_found (here : state.points id = some point) : state.set id point = state := by
  rw [Store.set, ← here, Function.update_eq_self]

theorem Produced.unchanged (is : Entered point current)
    (rely : Rely start (start.begun id current)) (relied : Rely (start.begun id current) changed)
    (plain : ∀ claims, released claims point.paired = claims) : Produced start id point changed := by
  obtain ⟨found, there, isFound, all⟩ := Produced.of_rely is rely relied plain
  have produced := all found isFound
  rw [Store.set_found there] at produced
  exact produced

theorem ensures_produce (consistent : Consistent start) (here : start.points id = some point)
    (parked : point.done = false) (event : Except (Thrown Error) Unit) :
    Ensures Consistent Rely (produce id event point.paired) (fun _ => Produced start id point)
      (start.begun id (entered point)) := by
  have is : Entered point (entered point) := rfl
  have rely := is.rely consistent here parked
  cases paired : point.paired with
  | nothing =>
      simp only [produce, ensures_invoke]
      have plain : ∀ claims, released claims point.paired = claims := by simp [paired, released]
      exact ⟨rely.consistent, fun _ changed relied => .unchanged is rely relied plain⟩
  | counter counter =>
      simp only [produce, ensures_invoke]
      have plain : ∀ claims, released claims point.paired = claims := by simp [paired, released]
      exact ⟨rely.consistent, fun _ changed relied => .unchanged is rely relied plain⟩
  | syncWaiter waitable =>
      simp only [produce, ensures_bind, setSyncWaiter, ensures_modify, split_ok]
      have produced : Produced start id point { start.begun id (entered point) with
          hasSyncWaiter := Function.update start.hasSyncWaiter waitable false } := by
        refine ⟨_, _, entered point, rely, Store.begun_self, is, is, ?_⟩
        simp [Store.begun, Store.set, paired, released]
      cases event with
      | ok done => exact produced
      | error error => exact produced
  | syncStart =>
      simp only [produce, ensures_bind, ensures_change Store.begun_self, split_ok, ensures_invoke]
      have isToo : Entered point { entered point with lent := false } := rfl
      have relyToo := isToo.rely consistent here parked
      have same : (start.begun id (entered point)).set id { entered point with lent := false } =
          start.begun id { entered point with lent := false } := Store.set_set
      have plain : ∀ claims, released claims point.paired = claims := by simp [paired, released]
      rw [same]
      exact ⟨relyToo.consistent, fun _ changed relied => .unchanged isToo relyToo relied plain⟩
  | hostImport =>
      simp only [produce, ensures_bind, ensures_invoke]
      have plain : ∀ claims, released claims point.paired = claims := by simp [paired, released]
      refine ⟨rely.consistent, fun result changed relied => ?_⟩
      cases result with
      | error error => exact .unchanged is rely relied plain
      | ok done =>
          obtain ⟨found, there, isFound, all⟩ := Produced.of_rely is rely relied plain
          rw [split_ok, ensures_change there]
          refine all _ ?_
          rw [Entered, isFound]
  | asyncStart =>
      simp only [produce, ensures_bind, ensures_invoke]
      have plain : ∀ claims, released claims point.paired = claims := by simp [paired, released]
      refine ⟨rely.consistent, fun result changed relied => ?_⟩
      cases result with
      | error error => exact .unchanged is rely relied plain
      | ok done =>
          obtain ⟨found, there, isFound, all⟩ := Produced.of_rely is rely relied plain
          rw [split_ok, ensures_change there]
          refine all _ ?_
          rw [Entered, isFound]

def resolvedPoint (point : Point Value Error) (settlement : Settlement Value Error) :
    Point Value Error :=
  { point with
    producing := false
    recorded := point.recorded + (if point.owner.isSome = true then 1 else 0)
    promise := point.promise ++ [settlement] }

/-- The gate once a resumption has been recorded. -/
def recordedIn (pendingResumptions : Finset Nat) (running owner : Option Nat) : Finset Nat :=
  let consumed :=
    match running with
    | some running => pendingResumptions.erase running
    | none => pendingResumptions
  match owner with
  | some owner => insert owner consumed
  | none => consumed

theorem mem_recordedIn {pendingResumptions : Finset Nat} {running owner : Option Nat} {member : Nat}
    (is : member ∈ recordedIn pendingResumptions running owner) :
    member ∈ pendingResumptions ∨ owner = some member := by
  have consumed : ∀ running : Option Nat, member ∈ (match running with
      | some running => pendingResumptions.erase running
      | none => pendingResumptions) → member ∈ pendingResumptions := by
    intro running is
    cases running with
    | none => exact is
    | some running => exact Finset.mem_of_mem_erase is
  cases owner with
  | none => exact .inl (consumed running is)
  | some owner =>
      obtain rfl | old := Finset.mem_insert.mp is
      · exact .inr rfl
      · exact .inl (consumed running old)

theorem ensures_consumePending {running : Option Nat}
    {post : Except (Thrown Error) PUnit → Store Value Error → Prop} :
    Ensures Consistent Rely (consumePending running) post state ↔
      post (.ok ⟨⟩) { state with
        pendingResumptions := recordedIn state.pendingResumptions running none } := by
  rw [consumePending, ensures_modify]
  cases running <;> rfl

theorem ensures_record (here : state.points id = some point) {owner : Option Nat}
    (owned : point.owner = owner) (running : Option Nat) (settlement : Settlement Value Error)
    {post : Except (Thrown Error) PUnit → Store Value Error → Prop}
    (after : post (.ok ⟨⟩) ({ state with
      pendingResumptions := recordedIn state.pendingResumptions running owner }.set id
        (resolvedPoint point settlement))) :
    Ensures Consistent Rely (do
      change id fun point => { point with producing := false }
      consumePending running
      addPendingResumption id owner
      settle id settlement) post state := by
  simp only [ensures_bind, ensures_change here, split_ok, ensures_consumePending]
  have set : ({ state.set id { point with producing := false } with
      pendingResumptions := recordedIn state.pendingResumptions running none } :
        Store Value Error).points id = some { point with producing := false } := Store.set_self
  cases owner with
  | none =>
      simp only [addPendingResumption, ensures_pure, split_ok, settle]
      refine (ensures_change set).mpr ?_
      simpa [resolvedPoint, owned, Store.set] using after
  | some owner =>
      simp only [addPendingResumption, ensures_bind, ensures_modify, split_ok]
      have setToo : ({ state.set id { point with producing := false } with
          pendingResumptions := recordedIn state.pendingResumptions running (some owner) } :
            Store Value Error).points id = some { point with producing := false } := Store.set_self
      refine (ensures_change setToo).mpr ?_
      rw [split_ok, settle, ensures_change Store.set_self]
      simpa [resolvedPoint, owned, Store.set] using after

theorem ensures_resumeInner (consistent : Consistent start) (here : start.points id = some point)
    (parked : point.done = false) (event : Except (Thrown Error) Unit) (value : Value)
    (running : Option Nat) {post : Except (Thrown Error) Unit → Store Value Error → Prop}
    (after : ∀ base before last settlement, Rely start base → base.points id = some before →
      Entered point before → Entered point last →
      post (.ok ()) ({ base with
        hasSyncWaiter := released base.hasSyncWaiter point.paired
        pendingResumptions := recordedIn base.pendingResumptions running point.owner }.set id
          (resolvedPoint last settlement))) :
    Ensures Consistent Rely (resumeInner id event value running point) post
      ({ start with waiting := start.waiting.erase id }.set id
        { point with done := true, resumed := true }) := by
  simp only [resumeInner, ensures_bind, ensures_change Store.set_self, split_ok, Store.set_set,
    ensures_attempt]
  refine (ensures_produce consistent here parked event).imp fun result state produced => ?_
  obtain ⟨base, before, last, rely, there, isBefore, isLast, rfl⟩ := produced
  have owned : last.owner = point.owner := by
    rw [isLast]
    rfl
  have set : ({ base with hasSyncWaiter := released base.hasSyncWaiter point.paired }.set id
      last).points id = some last := Store.set_self
  have settled : ∀ settlement, post (.ok ⟨⟩) ({ { base with
      hasSyncWaiter := released base.hasSyncWaiter point.paired }.set id last with
      pendingResumptions := recordedIn base.pendingResumptions running point.owner }.set id
        (resolvedPoint last settlement)) := by
    intro settlement
    have here := after base before last settlement rely there isBefore isLast
    simpa [Store.set] using here
  cases result with
  | ok done => exact ensures_record set owned running (.resolved value) (settled _)
  | error error => exact ensures_record set owned running (.rejected error) (settled _)

/-! ## The two ends of a point -/

theorem released_released (claims : Nat → Bool) (paired : Paired) :
    released (released claims paired) paired = released claims paired := by
  cases paired <;> simp [released]

theorem settledPoint_lent (point : Point Value Error)
    (lends : point.paired = .syncStart ∨ point.paired = .hostImport ∨
      point.paired = .asyncStart ∧ point.reported = false) : (settledPoint point).lent = false := by
  obtain paired | paired | ⟨paired, reported⟩ := lends
  · simp [settledPoint, hookedPoint, discharges, paired]
  · simp [settledPoint, hookedPoint, discharges, paired]
  · simp [settledPoint, hookedPoint, discharges, paired, reported]

theorem Entered.settled (is : Entered point current) (regular : Regular point)
    (parked : point.done = false) (settlement : Settlement Value Error) :
    Regular (settledPoint (resolvedPoint current settlement)) := by
  obtain ⟨_, produces, hooks, promise, _, _, abandoned, recorded⟩ := regular.parked parked
  refine ⟨?_, nofun, fun _ => ?_, fun _ => settledPoint_lent (resolvedPoint current settlement)⟩
  · rw [is]
    nofun
  · rw [is]
    refine ⟨rfl, ?_, ⟨settlement, ?_⟩, rfl, .resumed rfl abandoned ?_ ?_⟩
    · simp [settledPoint, hookedPoint, resolvedPoint, entered, hooks]
    · simp [settledPoint, hookedPoint, resolvedPoint, entered, promise]
    · simp [settledPoint, hookedPoint, resolvedPoint, entered, produces]
    · simp [settledPoint, hookedPoint, resolvedPoint, entered, recorded]

/-- What an abandoned point records once its promise is settled. -/
def abandonedPoint (point : Point Value Error) (reason : Thrown Error) : Point Value Error :=
  { point with
    done := true
    abandoned := true
    promise := point.promise ++ [.rejected reason] }

theorem abandoned_settled (regular : Regular point) (parked : point.done = false)
    (reason : Thrown Error) : Regular (settledPoint (abandonedPoint point reason)) := by
  obtain ⟨_, produces, hooks, promise, producing, resumed, _, recorded⟩ := regular.parked parked
  refine ⟨nofun, nofun, fun _ => ?_, fun _ => settledPoint_lent (abandonedPoint point reason)⟩
  refine ⟨rfl, ?_, ⟨.rejected reason, ?_⟩, producing, .abandoned resumed rfl produces recorded⟩
  · simp [settledPoint, hookedPoint, abandonedPoint, hooks]
  · simp [settledPoint, hookedPoint, abandonedPoint, promise]

theorem Consistent.member (consistent : Consistent start) (here : start.points id = some point)
    (parked : point.done = false) : id ∈ start.waiting :=
  (consistent.waiting id).mpr ⟨point, here, parked⟩

/-- What a point has gone through once it has been resumed or abandoned. -/
structure Finished (start : Store Value Error) (id : Nat)
    (ended : Point Value Error → Prop) (final : Store Value Error) : Prop where
  rely : Rely start final
  point : ∃ point, final.points id = some point ∧ point.finished = true ∧ ended point

theorem Finished.rely_ended {closed : Store Value Error} {ended : Point Value Error → Prop}
    (rely : Rely start closed) (here : closed.points id = some current)
    (finished : current.finished = true) (holds : ∀ boundaryReturned,
      ended { current with boundaryReturned }) (relied : Rely closed changed) :
    Finished start id ended changed := by
  refine ⟨reliable.trans rely relied, ?_⟩
  obtain ⟨later, there, isLater⟩ := relied.kept id current here
  have done := ((rely.consistent.points id current here).ended finished).1
  have same := isLater done
  refine ⟨later, there, ?_, ?_⟩
  · rw [same]
    exact finished
  · rw [same]
    exact holds _

theorem ensures_stopWaiting {post : Except (Thrown Error) Unit → Store Value Error → Prop}
    (member : id ∈ state.waiting)
    (after : post (.ok ()) { state with waiting := state.waiting.erase id }) :
    Ensures Consistent Rely (stopWaiting id) post state := by
  simp only [stopWaiting, ensures_bind, ensures_get, split_ok, ensures_assert, decide_eq_true_eq,
    decide_eq_false_iff_not]
  refine ⟨fun _ => ?_, fun isNot => absurd member isNot⟩
  exact after

theorem abandon_closed (consistent : Consistent start) (here : start.points id = some point)
    (parked : point.done = false) (reason : Thrown Error) :
    Rely start ((start.closed id point.logicalOwner point.paired start.pendingResumptions).set id
      (settledPoint (abandonedPoint point reason))) := by
  have regular := consistent.points id point here
  have view : (settledPoint (abandonedPoint point reason)).view =
      point.view.ended point.recorded := rfl
  refine ⟨?_, ?_⟩
  · exact consistent.closed here (regular.parked parked).1 (abandoned_settled regular parked reason)
      view (fun one => one) rfl fun owner member => .inl member
  · refine Kept.set here (fun done => ?_) rfl
    rw [parked] at done
    cases done

theorem ensures_abandon (consistent : Consistent start) (here : start.points id = some point)
    (parked : point.done = false) (reason : Thrown Error) :
    Ensures Consistent Rely (abandon id reason)
      (fun result final => result = .ok () ∧ Finished start id
        (fun point => point.abandoned = true ∧ point.promise = [.rejected reason]) final) start := by
  have rely := abandon_closed consistent here parked reason
  have ⟨unfinished, _, _, promise, _⟩ := (consistent.points id point here).parked parked
  simp only [abandon, ensures_bind, ensures_get, split_ok, here, ensures_ite]
  refine ⟨fun _ => ?_, fun isNot => absurd parked isNot⟩
  simp only [ensures_bind, ensures_change here, split_ok]
  refine ensures_stopWaiting (consistent.member here parked) ?_
  have set : ({ start.set id { point with done := true, abandoned := true } with
      waiting := start.waiting.erase id } : Store Value Error).points id =
      some { point with done := true, abandoned := true } := Store.set_self
  rw [split_ok, settle, ensures_bind]
  refine (ensures_change set).mpr ?_
  have isFinal : ((({ start.set id { point with done := true, abandoned := true } with
      waiting := start.waiting.erase id } : Store Value Error).set id
        (abandonedPoint point reason)).discharged id (abandonedPoint point reason)).set id
          (settledPoint (abandonedPoint point reason)) =
      (start.closed id point.logicalOwner point.paired start.pendingResumptions).set id
        (settledPoint (abandonedPoint point reason)) := by
    simp [Store.set, Store.discharged, Store.closed, abandonedPoint]
  have setToo : (({ start.set id { point with done := true, abandoned := true } with
      waiting := start.waiting.erase id } : Store Value Error).set id
        (abandonedPoint point reason)).points id = some (abandonedPoint point reason) :=
    Store.set_self
  refine ensures_finish setToo unfinished (isFinal ▸ rely.consistent) fun changed relied => ?_
  rw [isFinal] at relied
  refine ⟨rfl, .rely_ended rely Store.set_self rfl (fun boundaryReturned => ⟨rfl, ?_⟩) relied⟩
  simp [settledPoint, hookedPoint, abandonedPoint, promise]

theorem Kept.replace {base next : Store Value Error} {last : Point Value Error}
    (kept : Kept start base) (here : start.points id = some point) (parked : point.done = false)
    (points : next.points = (base.set id last).points) : Kept start next := by
  intro other found there
  rw [points]
  by_cases same : other = id
  · subst same
    rw [here] at there
    cases there
    refine ⟨last, Store.set_self, fun done => ?_⟩
    rw [parked] at done
    cases done
  · obtain ⟨later, found', isLater⟩ := kept other found there
    exact ⟨later, (Store.set_other same).trans found', isLater⟩

theorem resume_closed (consistent : Consistent start) (here : start.points id = some point)
    (parked : point.done = false) {base : Store Value Error} {before last : Point Value Error}
    (rely : Rely start base) (there : base.points id = some before) (isBefore : Entered point before)
    (isLast : Entered point last) (running : Option Nat) (settlement : Settlement Value Error) :
    Rely start ((base.closed id point.logicalOwner point.paired
      (recordedIn base.pendingResumptions running point.owner)).set id
        (settledPoint (resolvedPoint last settlement))) := by
  have regular := consistent.points id point here
  have ⟨unfinished, _, _, _, _, _, _, recorded⟩ := regular.parked parked
  have unfinishedBefore : before.finished = false := by
    rw [isBefore]
    exact unfinished
  refine ⟨?_, rely.kept.replace here parked rfl⟩
  have sameOwner : before.logicalOwner = point.logicalOwner := by rw [isBefore]; rfl
  have samePaired : before.paired = point.paired := by rw [isBefore]; rfl
  have view : (settledPoint (resolvedPoint last settlement)).view =
      before.view.ended (if point.owner.isSome = true then 1 else 0) := by
    rw [isBefore.view, isLast]
    simp [Point.view, View.ended, settledPoint, hookedPoint, resolvedPoint, entered, recorded]
  have done : (settledPoint (resolvedPoint last settlement)).done = true := isLast.done
  have more : before.recorded = 1 → (if point.owner.isSome = true then 1 else 0) = 1 := by
    intro one
    rw [isBefore] at one
    simp [entered, recorded] at one
  rw [← sameOwner, ← samePaired]
  refine rely.consistent.closed there unfinishedBefore (isLast.settled regular parked settlement) view
    more done fun owner member => ?_
  refine (mem_recordedIn member).imp_right fun own => ⟨?_, ?_⟩
  · rw [isBefore]
    exact own
  · rw [own]
    rfl

theorem ensures_resume (consistent : Consistent start) (here : start.points id = some point)
    (parked : point.done = false) (event : Except (Thrown Error) Unit) (value : Value)
    (running : Option Nat) :
    Ensures Consistent Rely (resume id event value running)
      (fun result final => result = .ok () ∧ Finished start id
        (fun point => point.resumed = true ∧ ∃ settlement, point.promise = [settlement]) final)
      start := by
  obtain ⟨unfinished, _, _, promise, _⟩ := (consistent.points id point here).parked parked
  simp only [resume, ensures_bind, ensures_get, split_ok, here, ensures_assert, parked]
  refine ⟨fun _ => ?_, by simp⟩
  simp only [ensures_bind, ensures_change here, split_ok]
  refine ensures_stopWaiting (consistent.member here parked) ?_
  rw [split_ok, ensures_bind, ensures_attempt]
  refine ensures_resumeInner consistent here parked event value running ?_
  intro base before last settlement rely there isBefore isLast
  have closed := resume_closed consistent here parked rely there isBefore isLast running settlement
  have set : ({ base with
      hasSyncWaiter := released base.hasSyncWaiter point.paired
      pendingResumptions := recordedIn base.pendingResumptions running point.owner }.set id
        (resolvedPoint last settlement)).points id = some (resolvedPoint last settlement) :=
    Store.set_self
  have notWaiting : id ∉ base.waiting := by
    rw [rely.consistent.waiting, there]
    rintro ⟨found, same, waits⟩
    cases same
    rw [isBefore.done] at waits
    cases waits
  have isFinal : (({ base with
      hasSyncWaiter := released base.hasSyncWaiter point.paired
      pendingResumptions := recordedIn base.pendingResumptions running point.owner }.set id
        (resolvedPoint last settlement)).discharged id (resolvedPoint last settlement)).set id
          (settledPoint (resolvedPoint last settlement)) =
      (base.closed id point.logicalOwner point.paired
        (recordedIn base.pendingResumptions running point.owner)).set id
          (settledPoint (resolvedPoint last settlement)) := by
    have paired : last.paired = point.paired := by rw [isLast]; rfl
    have logicalOwner : last.logicalOwner = point.logicalOwner := by rw [isLast]; rfl
    simp [Store.set, Store.discharged, Store.closed, resolvedPoint, paired, logicalOwner,
      released_released, List.erase_of_not_mem notWaiting]
  have unfinishedLast : (resolvedPoint last settlement).finished = false := by
    rw [isLast]
    exact unfinished
  rw [split_ok, split_ok, ensures_bind]
  refine ensures_finish set unfinishedLast (isFinal ▸ closed.consistent) fun changed relied => ?_
  rw [isFinal] at relied
  refine ⟨rfl, .rely_ended closed Store.set_self rfl (fun boundaryReturned => ⟨?_, ?_⟩) relied⟩
  · rw [isLast]
    rfl
  · refine ⟨settlement, ?_⟩
    rw [isLast]
    simp [settledPoint, hookedPoint, resolvedPoint, entered, promise]

end

end Polyengine.Jspi
