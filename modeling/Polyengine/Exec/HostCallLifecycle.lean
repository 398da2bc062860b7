import Polyengine.Exec.HostSettlement

/-!
# The lifecycle of host calls

How often the hooks of a host call run and what they receive, whatever host code does between the steps
of the adapter.
-/

set_option autoImplicit false

namespace Polyengine.Exec.HostCalls

open Polyengine.Library Reentrant

variable {Value Error : Type}

/-! ## Regular calls -/

/-- How often `reject` has run at the end of a call. -/
def rejectsOf (settlement : HostSettlement Value Error) : Nat :=
  if settlement.isError = true then 1 else 0

/-- A call whose host function or hooks run. -/
def invoking (ends rejects : Nat) : Call Value Error :=
  { Call.start with ends, rejects }

/-- A call that was completed at once. -/
structure Immediate (id : Nat) (call : Call Value Error) (settlement : HostSettlement Value Error) :
    Prop where
  outcome : call.outcome = some settlement
  ends : call.ends = 1
  rejects : call.rejects = rejectsOf settlement
  settles : call.settles = []
  discarded : call.discarded = false
  reaction : call.reaction = none
  reacted : call.reacted = false
  running : call.running = false
  finished : call.finished = [] ∨ call.read = true ∧ call.finished = [(settlement, some id)]

/-- A call on a promise. -/
structure Pending (id : Nat) (call : Call Value Error) : Prop where
  ends : call.ends = if call.ended = true then 1 else 0
  discarded : call.discarded = true → call.ended = true
  early : call.discarded = false → call.reacted = false → call.ended = false
  observed : call.reaction.isSome = true → call.observed = true
  reacts : call.reaction = none → call.reacted = false
  before : call.reacted = false → call.running = false ∧ call.rejects = 0 ∧ call.outcome = none ∧
    call.settles = []
  during : call.running = true → call.ended = true ∧ call.rejects ≤ 1 ∧ call.outcome = none ∧
    call.settles = []
  after : call.reacted = true → call.running = false → ∃ settlement,
    call.outcome = some settlement ∧ call.settles = [settlement] ∧ call.ended = true ∧
      call.rejects = rejectsOf settlement
  finished : call.finished = [] ∨ call.read = true ∧ ∃ settlement,
    call.settles = [settlement] ∧ call.finished = [(settlement, some id)]

def Regular (id : Nat) (call : Call Value Error) : Prop :=
  match call.carrier with
  | .none => ∃ ends rejects, ends ≤ 1 ∧ rejects ≤ 1 ∧ call = invoking ends rejects
  | .immediate settlement context => context = id ∧ Immediate id call settlement
  | .reusable => ∃ settlement, Immediate id call settlement
  | .pending context => context = id ∧ Pending id call

def Holds (call : Call Value Error) : Prop := call.carrier = .reusable ∧ call.read = false

/-- The calls are regular, and the reusable carrier is that of the only call which has it and whose
result is still to be read. -/
structure Consistent (adapter : Adapter Value Error) : Prop where
  calls : ∀ id call, adapter.calls id = some call → Regular id call
  fresh : ∀ id, adapter.next ≤ id → adapter.calls id = none
  busy : adapter.reusable.busy = true → ∃ id call, adapter.calls id = some call ∧ Holds call
  held : ∀ id call, adapter.calls id = some call → Holds call →
    adapter.reusable = ⟨true, call.outcome, some id⟩

/-! ## What host code leaves alone -/

/-- A later state of a call: what runs on it is not disturbed. -/
structure Later (call next : Call Value Error) : Prop where
  invoking : call.carrier = .none → next = call
  carrier : call.carrier ≠ .none → next.carrier = call.carrier
  running : call.running = true → next = { call with discarded := next.discarded }
  observing : call.observed = true →
    next.observed = true ∧ (call.reaction = none → next.reaction = none)
  settled : call.settles ≠ [] → next.settles = call.settles

theorem Later.refl (call : Call Value Error) : Later call call :=
  ⟨fun _ => rfl, fun _ => rfl, fun _ => rfl, fun observed => ⟨observed, id⟩, fun _ => rfl⟩

theorem Later.trans {first second third : Call Value Error} (one : Later first second)
    (two : Later second third) : Later first third := by
  constructor
  · intro none
    have same := one.invoking none
    rw [same] at two
    exact two.invoking none
  · intro some
    have same := one.carrier some
    rw [two.carrier (same ▸ some), same]
  · intro running
    have same := one.running running
    have still : second.running = true := by
      rw [same]
      exact running
    rw [two.running still, same]
  · intro observed
    obtain ⟨still, reaction⟩ := one.observing observed
    obtain ⟨last, lastReaction⟩ := two.observing still
    exact ⟨last, fun none => lastReaction (reaction none)⟩
  · intro some
    have same := one.settled some
    rw [two.settled (same ▸ some), same]

/-- Calls stay, each in a later state. -/
structure Kept (adapter next : Adapter Value Error) : Prop where
  calls : ∀ id call, adapter.calls id = some call →
    ∃ later, next.calls id = some later ∧ Later call later
  next : adapter.next ≤ next.next

theorem Kept.refl (adapter : Adapter Value Error) : Kept adapter adapter :=
  ⟨fun _ call here => ⟨call, here, .refl call⟩, Nat.le_refl _⟩

theorem Kept.trans {first second third : Adapter Value Error} (one : Kept first second)
    (two : Kept second third) : Kept first third := by
  refine ⟨fun id call here => ?_, Nat.le_trans one.next two.next⟩
  obtain ⟨next, there, later⟩ := one.calls id call here
  obtain ⟨last, finally', last'⟩ := two.calls id next there
  exact ⟨last, finally', later.trans last'⟩

/-- What any use of the adapter brings about. -/
structure Rely (adapter next : Adapter Value Error) : Prop where
  consistent : Consistent next
  kept : Kept adapter next

theorem reliable : Reliable (@Consistent Value Error) Rely where
  refl consistent := ⟨consistent, .refl _⟩
  trans one two := ⟨two.consistent, one.kept.trans two.kept⟩
  kept rely := rely.consistent

/-! ## Steps -/

def Adapter.set (adapter : Adapter Value Error) (id : Nat) (call : Call Value Error) :
    Adapter Value Error :=
  { adapter with calls := Function.update adapter.calls id (some call) }

section

variable {adapter : Adapter Value Error} {id : Nat} {before after : Call Value Error}

@[simp] theorem Adapter.set_self : (adapter.set id after).calls id = some after :=
  Function.update_self _ _ _

theorem Adapter.set_other {other : Nat} (different : other ≠ id) :
    (adapter.set id after).calls other = adapter.calls other :=
  Function.update_of_ne different _ _

@[simp] theorem Adapter.set_set : (adapter.set id before).set id after = adapter.set id after := by
  simp [Adapter.set]

theorem Kept.set {start : Adapter Value Error} (kept : Kept start adapter)
    (begins : start.calls id = some before) (later : Later before after) :
    Kept start (adapter.set id after) := by
  refine ⟨fun other call there => ?_, kept.next⟩
  by_cases same : other = id
  · subst same
    rw [begins] at there
    cases there
    exact ⟨after, Adapter.set_self, later⟩
  · obtain ⟨next, here, isLater⟩ := kept.calls other call there
    exact ⟨next, (Adapter.set_other same).trans here, isLater⟩

theorem Consistent.set (consistent : Consistent adapter) (here : adapter.calls id = some before)
    (regular : Regular id after) (holds : Holds after ↔ Holds before)
    (outcome : Holds before → after.outcome = before.outcome) :
    Consistent (adapter.set id after) := by
  constructor
  · intro other call there
    by_cases same : other = id
    · subst same
      rw [Adapter.set_self] at there
      cases there
      exact regular
    · rw [Adapter.set_other same] at there
      exact consistent.calls other call there
  · intro other above
    have different : other ≠ id := by
      rintro rfl
      rw [consistent.fresh other above] at here
      cases here
    rw [Adapter.set_other different]
    exact consistent.fresh other above
  · intro busy
    obtain ⟨holder, call, there, held⟩ := consistent.busy busy
    by_cases same : holder = id
    · subst same
      rw [here] at there
      cases there
      exact ⟨holder, after, Adapter.set_self, holds.mpr held⟩
    · exact ⟨holder, call, (Adapter.set_other same).trans there, held⟩
  · intro other call there held
    by_cases same : other = id
    · subst same
      rw [Adapter.set_self] at there
      cases there
      rw [outcome (holds.mp held)]
      exact consistent.held other before here (holds.mp held)
    · rw [Adapter.set_other same] at there
      exact consistent.held other call there held

theorem Consistent.swap (consistent : Consistent adapter) (here : adapter.calls id = some before)
    (reusable : ReusableImmediateHostCall Value Error) (regular : Regular id after)
    (busy : reusable.busy = true → Holds after)
    (held : Holds after → reusable = ⟨true, after.outcome, some id⟩)
    (others : ∀ other call, other ≠ id → adapter.calls other = some call → ¬Holds call) :
    Consistent ({ adapter with reusable }.set id after) := by
  constructor
  · intro other call there
    by_cases same : other = id
    · subst same
      rw [Adapter.set_self] at there
      cases there
      exact regular
    · rw [Adapter.set_other same] at there
      exact consistent.calls other call there
  · intro other above
    have different : other ≠ id := by
      rintro rfl
      rw [consistent.fresh other above] at here
      cases here
    rw [Adapter.set_other different]
    exact consistent.fresh other above
  · exact fun isBusy => ⟨id, after, Adapter.set_self, busy isBusy⟩
  · intro other call there holds
    by_cases same : other = id
    · subst same
      rw [Adapter.set_self] at there
      cases there
      exact held holds
    · rw [Adapter.set_other same] at there
      exact absurd holds (others other call same there)

theorem not_holds {call : Call Value Error} (other : call.carrier ≠ .reusable) : ¬Holds call :=
  fun holds => other holds.1

theorem Consistent.set_other (consistent : Consistent adapter)
    (here : adapter.calls id = some before) (regular : Regular id after)
    (without : before.carrier ≠ .reusable) (withoutToo : after.carrier ≠ .reusable) :
    Consistent (adapter.set id after) :=
  consistent.set here regular
    ⟨fun holds => absurd holds (not_holds withoutToo), fun holds => absurd holds (not_holds without)⟩
    fun holds => absurd holds (not_holds without)

end

section

variable {state : Adapter Value Error} {id : Nat}

theorem ensures_change {found : Call Value Error} {update : Call Value Error → Call Value Error}
    {post : Except Error PUnit → Adapter Value Error → Prop}
    (here : state.calls id = some found) :
    Ensures Consistent Rely (change id update) post state ↔
      post (.ok ⟨⟩) (state.set id (update found)) := by
  rw [change, ensures_modify, here]
  rfl

@[simp] theorem ensures_call
    {post : Except Error (Option (Call Value Error)) → Adapter Value Error → Prop} :
    Ensures Consistent Rely (call id) post state ↔ post (.ok (state.calls id)) state := by
  simp only [call, ensures_bind, ensures_get, split_ok, ensures_pure]

@[simp] theorem ensures_ignoring {hook : Hook} {post : Except Error Unit → Adapter Value Error → Prop} :
    Ensures Consistent Rely (ignoring hook) post state ↔
      Consistent state ∧ ∀ changed, Rely state changed → post (.ok ()) changed := by
  simp only [ignoring, ensures_tryCatch, ensures_invoke]
  refine and_congr_right fun _ => ⟨fun all changed relied => all (.ok ()) changed relied, ?_⟩
  intro all returned changed relied
  cases returned with
  | ok result => exact all changed relied
  | error failure => exact all changed relied

@[simp] theorem ensures_attempt {hook : Hook}
    {post : Except Error (Option Error) → Adapter Value Error → Prop} :
    Ensures Consistent Rely (attempt hook) post state ↔
      Consistent state ∧ ∀ thrown changed, Rely state changed → post (.ok thrown) changed := by
  simp only [attempt, ensures_tryCatch, ensures_bind, ensures_invoke]
  refine and_congr_right fun _ => ⟨fun all thrown changed relied => ?_, ?_⟩
  · cases thrown with
    | none => exact all (.ok ()) changed relied
    | some error => exact all (.error error) changed relied
  · intro all returned changed relied
    cases returned with
    | ok result => exact all none changed relied
    | error failure => exact all (some failure) changed relied

end

/-! ## Invocation -/

/-- A call under a number that was free when the operation began is being invoked. -/
structure Under (start : Adapter Value Error) (id ends rejects : Nat) (state : Adapter Value Error) :
    Prop where
  new : start.calls id = none
  consistent : Consistent state
  kept : Kept start state
  here : state.calls id = some (invoking ends rejects)

section

variable {start state : Adapter Value Error} {id ends rejects : Nat}

theorem Under.rely {changed : Adapter Value Error} (under : Under start id ends rejects state)
    (rely : Rely state changed) : Under start id ends rejects changed := by
  refine ⟨under.new, rely.consistent, under.kept.trans rely.kept, ?_⟩
  obtain ⟨call, there, later⟩ := rely.kept.calls id _ under.here
  rw [later.invoking rfl] at there
  exact there

theorem Under.kept_set {call : Call Value Error} (under : Under start id ends rejects state) :
    Kept start (state.set id call) := by
  refine ⟨fun other before there => ?_, under.kept.next⟩
  have different : other ≠ id := by
    rintro rfl
    rw [under.new] at there
    cases there
  obtain ⟨later, here, isLater⟩ := under.kept.calls other before there
  exact ⟨later, (Adapter.set_other different).trans here, isLater⟩

theorem Under.set {moreEnds moreRejects : Nat} (under : Under start id ends rejects state)
    (endsLe : moreEnds ≤ 1) (rejectsLe : moreRejects ≤ 1) :
    Under start id moreEnds moreRejects (state.set id (invoking moreEnds moreRejects)) := by
  refine ⟨under.new, ?_, under.kept_set, Adapter.set_self⟩
  exact under.consistent.set_other under.here ⟨moreEnds, moreRejects, endsLe, rejectsLe, rfl⟩ nofun
    nofun

/-- The invocation has ended with a host call. -/
structure Invoked (start : Adapter Value Error) (id : Nat) (result : Except Error Unit)
    (final : Adapter Value Error) : Prop where
  ok : result = .ok ()
  rely : Rely start final
  call : ∃ call, final.calls id = some call ∧ call.carrier ≠ .none

theorem ensures_rejectHooks_end {error : Error}
    {post : Except Error (HostSettlement Value Error) → Adapter Value Error → Prop}
    (under : Under start id 1 0 state)
    (done : ∀ changed, Under start id 1 1 changed → post (.ok (.error error)) changed) :
    Ensures Consistent Rely (rejectHooks id error false) post state := by
  simp only [rejectHooks, Bool.false_eq_true, if_false, ensures_bind, ensures_pure, split_ok,
    ensures_change under.here, ensures_ignoring]
  have rejected : Under start id 1 1 (state.set id (invoking 1 1)) :=
    under.set (Nat.le_refl 1) (Nat.le_refl 1)
  exact ⟨rejected.consistent, fun changed relied => done changed (rejected.rely relied)⟩

theorem ensures_rejectHooks_start {error : Error}
    {post : Except Error (HostSettlement Value Error) → Adapter Value Error → Prop}
    (under : Under start id 0 0 state)
    (done : ∀ changed, Under start id 1 1 changed → post (.ok (.error error)) changed) :
    Ensures Consistent Rely (rejectHooks id error true) post state := by
  have ended : Under start id 1 0 (state.set id (invoking 1 0)) :=
    under.set (Nat.le_refl 1) (Nat.zero_le 1)
  simp only [rejectHooks, if_true, ensures_bind, split_ok, ensures_change under.here,
    ensures_ignoring]
  refine ⟨ended.consistent, fun changed relied => ?_⟩
  have later := ended.rely relied
  have rejected : Under start id 1 1 (changed.set id (invoking 1 1)) :=
    later.set (Nat.le_refl 1) (Nat.le_refl 1)
  rw [ensures_change later.here]
  simp only [split_ok, ensures_ignoring, ensures_bind, ensures_pure]
  exact ⟨rejected.consistent, fun final relied => done final (rejected.rely relied)⟩

/-- What an immediate host call records. -/
def completed (carrier : HostCall Value Error) (settlement : HostSettlement Value Error) :
    Call Value Error :=
  { (invoking 1 (rejectsOf settlement) : Call Value Error) with
    carrier
    outcome := some settlement }

theorem completed_immediate (carrier : HostCall Value Error)
    (settlement : HostSettlement Value Error) : Immediate id (completed carrier settlement) settlement :=
  ⟨rfl, rfl, rfl, rfl, rfl, rfl, rfl, rfl, .inl rfl⟩

theorem ensures_immediate {reusable : Bool} {settlement : HostSettlement Value Error}
    (under : Under start id 1 (rejectsOf settlement) state) :
    Ensures Consistent Rely (immediateHostCall id reusable settlement) (Invoked start id) state := by
  simp only [immediateHostCall, ensures_bind, ensures_get, split_ok, ensures_ite, ensures_modify]
  constructor
  · rintro ⟨_, free⟩
    -- Nothing holds the carrier, so this call may.
    have idle : ∀ other call, state.calls other = some call → ¬Holds call := by
      intro other call there holds
      rw [under.consistent.held other call there holds] at free
      cases free
    have here : ({ state with reusable := ⟨true, some settlement, some id⟩ } :
        Adapter Value Error).calls id = some (invoking 1 (rejectsOf settlement)) := under.here
    rw [ensures_change here]
    have regular : Regular id (completed .reusable settlement) :=
      ⟨settlement, completed_immediate _ _⟩
    have consistent := under.consistent.swap under.here ⟨true, some settlement, some id⟩ regular
      (fun _ => ⟨rfl, rfl⟩) (fun _ => rfl) fun other call _ there => idle other call there
    have kept : Kept start (state.set id (completed .reusable settlement)) := under.kept_set
    exact ⟨rfl, ⟨consistent, ⟨kept.calls, kept.next⟩⟩, _, Adapter.set_self, by simp⟩
  · intro _
    rw [ensures_change under.here]
    have regular : Regular id (completed (.immediate settlement id) settlement) :=
      ⟨rfl, completed_immediate _ _⟩
    have consistent := under.consistent.set_other under.here regular
      (fun same => by cases same) fun same => by cases same
    exact ⟨rfl, ⟨consistent, under.kept_set⟩, _, Adapter.set_self, by simp⟩

/-- What a pending host call records. -/
def waiting (id : Nat) : Call Value Error :=
  { (invoking 0 0 : Call Value Error) with carrier := .pending id }

theorem ensures_pending (under : Under start id 0 0 state) :
    Ensures Consistent Rely (pendingHostCall id) (Invoked start id) state := by
  rw [pendingHostCall, ensures_change under.here]
  have regular : Regular id (waiting id : Call Value Error) :=
    ⟨rfl, rfl, nofun, fun _ _ => rfl, nofun, fun _ => rfl, fun _ => ⟨rfl, rfl, rfl, rfl⟩, nofun,
      nofun, .inl rfl⟩
  have consistent := under.consistent.set_other under.here regular nofun nofun
  exact ⟨rfl, ⟨consistent, under.kept_set⟩, _, Adapter.set_self, nofun⟩

theorem ensures_failed {reusable : Bool} {error : Error} (under : Under start id 0 0 state) :
    Ensures Consistent Rely (do
      let settlement ← rejectHooks id error true
      immediateHostCall id reusable settlement) (Invoked start id) state := by
  rw [ensures_bind]
  exact ensures_rejectHooks_start under fun changed rejected => ensures_immediate rejected

theorem ensures_complete {reusable : Bool} {returned : Returned Value}
    (under : Under start id 0 0 state) :
    Ensures Consistent Rely (classify.complete id reusable returned) (Invoked start id) state := by
  have ended : Under start id 1 0 (state.set id (invoking 1 0)) :=
    under.set (Nat.le_refl 1) (Nat.zero_le 1)
  simp only [classify.complete, ensures_bind, ensures_change under.here, split_ok, ensures_attempt]
  refine ⟨ended.consistent, fun thrown changed relied => ?_⟩
  have later := ended.rely relied
  cases thrown with
  | none => exact ensures_immediate later
  | some error =>
      simp only [ensures_bind]
      exact ensures_rejectHooks_end later fun final rejected => ensures_immediate rejected

theorem ensures_classify {reusable thenableIsValue : Bool} {returned : Returned Value}
    (under : Under start id 0 0 state) :
    Ensures Consistent Rely (classify id reusable thenableIsValue returned) (Invoked start id)
      state := by
  rw [classify, ensures_ite]
  refine ⟨fun _ => ?_, fun _ => ensures_complete under⟩
  simp only [ensures_bind, ensures_attempt, split_ok]
  refine ⟨under.consistent, fun thrown changed relied => ?_⟩
  have checked := under.rely relied
  cases thrown with
  | some error => exact ensures_failed checked
  | none =>
      simp only [ensures_ite, ensures_bind, ensures_attempt, split_ok]
      refine ⟨fun _ => ensures_pending checked, fun _ => ⟨checked.consistent, ?_⟩⟩
      intro thrown changed relied
      have looked := checked.rely relied
      cases thrown with
      | some error => exact ensures_failed looked
      | none =>
          simp only [ensures_ite, ensures_bind, ensures_attempt, split_ok]
          refine ⟨fun _ => ⟨looked.consistent, ?_⟩, fun _ => ensures_complete looked⟩
          intro thrown changed relied
          have adopted := looked.rely relied
          cases thrown with
          | some error => exact ensures_failed adopted
          | none => exact ensures_pending adopted

end

theorem ensures_invokeHostCallWith {start : Adapter Value Error} (consistent : Consistent start)
    (reusable thenableIsValue : Bool) (returned : Returned Value) :
    Ensures Consistent Rely (invokeHostCallWith reusable thenableIsValue returned)
      (Invoked start start.next) start := by
  have new : start.calls start.next = none := consistent.fresh _ (Nat.le_refl _)
  simp only [invokeHostCallWith, ensures_bind, ensures_get, ensures_modify, split_ok,
    ensures_attempt]
  have under : Under start start.next 0 0 { start with
      calls := Function.update start.calls start.next (some Call.start)
      next := start.next + 1 } := by
    refine ⟨new, ?_, ⟨?_, Nat.le_succ _⟩, Function.update_self _ _ _⟩
    · constructor
      · intro other call there
        by_cases same : other = start.next
        · subst same
          simp only [Function.update_self, Option.some.injEq] at there
          subst there
          exact ⟨0, 0, Nat.zero_le 1, Nat.zero_le 1, rfl⟩
        · simp only [Function.update_of_ne same] at there
          exact consistent.calls other call there
      · intro other above
        have different : other ≠ start.next := by
          simp only at above
          omega
        simp only [Function.update_of_ne different]
        exact consistent.fresh other (by simp only at above; omega)
      · intro busy
        obtain ⟨holder, call, there, holds⟩ := consistent.busy busy
        have different : holder ≠ start.next := by
          rintro rfl
          rw [new] at there
          cases there
        exact ⟨holder, call, (Function.update_of_ne different _ _).trans there, holds⟩
      · intro other call there holds
        by_cases same : other = start.next
        · subst same
          simp only [Function.update_self, Option.some.injEq] at there
          subst there
          cases holds.1
        · simp only [Function.update_of_ne same] at there
          exact consistent.held other call there holds
    · intro other call there
      have different : other ≠ start.next := by
        rintro rfl
        rw [new] at there
        cases there
      exact ⟨call, (Function.update_of_ne different _ _).trans there, .refl call⟩
  refine ⟨under.consistent, fun thrown changed relied => ?_⟩
  have later := under.rely relied
  cases thrown with
  | some error => exact ensures_failed later
  | none => exact ensures_classify later

/-! ## Pending calls -/

/-- An operation on a call has come to a state of it. -/
structure On (start : Adapter Value Error) (id : Nat) (first call : Call Value Error)
    (state : Adapter Value Error) : Prop where
  begins : start.calls id = some first
  consistent : Consistent state
  kept : Kept start state
  here : state.calls id = some call

section

variable {start state changed : Adapter Value Error} {id context : Nat}
  {first found : Call Value Error}

theorem On.rely (on : On start id first found state) : Rely start state :=
  ⟨on.consistent, on.kept⟩

theorem On.initial (consistent : Consistent start) (here : start.calls id = some first) :
    On start id first first start := ⟨here, consistent, .refl _, here⟩

theorem Consistent.pending (consistent : Consistent start) (here : start.calls id = some found)
    (carrier : found.carrier = .pending context) : context = id ∧ Pending id found := by
  have regular := consistent.calls id found here
  rw [Regular, carrier] at regular
  exact regular

theorem On.set (on : On start id first found state) (next : Call Value Error)
    (carrier : found.carrier = .pending context) (same : next.carrier = found.carrier)
    (later : Later first next) (pending : Pending id next) :
    On start id first next (state.set id next) := by
  have isId := (on.consistent.pending on.here carrier).1
  have regular : Regular id next := by
    rw [Regular, same, carrier]
    exact ⟨isId, pending⟩
  refine ⟨on.begins, ?_, on.kept.set on.begins later, Adapter.set_self⟩
  exact on.consistent.set_other on.here regular (by rw [carrier]; nofun)
    (by rw [same, carrier]; nofun)

theorem On.running (on : On start id first found state) (running : found.running = true)
    (rely : Rely state changed) :
    ∃ discarded, On start id first { found with discarded } changed := by
  obtain ⟨later, there, isLater⟩ := rely.kept.calls id found on.here
  refine ⟨later.discarded, on.begins, rely.consistent, on.kept.trans rely.kept, ?_⟩
  rw [there, isLater.running running]

end

theorem Pending.unreacted {id : Nat} {call : Call Value Error} (pending : Pending id call)
    (notEnded : call.ended = false) : call.reacted = false ∧ call.running = false := by
  have idle : call.running = false := by
    cases running : call.running with
    | false => rfl
    | true =>
        rw [(pending.during running).1] at notEnded
        cases notEnded
  refine ⟨?_, idle⟩
  cases reacted : call.reacted with
  | false => rfl
  | true =>
      obtain ⟨_, _, _, ended, _⟩ := pending.after reacted idle
      rw [ended] at notEnded
      cases notEnded

theorem Pending.ends_zero {id : Nat} {call : Call Value Error} (pending : Pending id call)
    (notEnded : call.ended = false) : call.ends = 0 := by
  rw [pending.ends, notEnded]
  rfl

theorem Later.idle {first next : Call Value Error} {context : Nat}
    (carrier : first.carrier = .pending context) (same : next.carrier = first.carrier)
    (idle : first.running = false) (observing : first.observed = true →
      next.observed = true ∧ (first.reaction = none → next.reaction = none))
    (settled : first.settles ≠ [] → next.settles = first.settles) : Later first next := by
  refine ⟨fun none => ?_, fun _ => same, fun running => ?_, observing, settled⟩
  · rw [carrier] at none
    cases none
  · rw [idle] at running
    cases running

theorem ensures_discard {start : Adapter Value Error} (consistent : Consistent start) (id : Nat) :
    Ensures Consistent Rely (discard id) (fun _ => Rely start) start := by
  simp only [discard, ensures_bind, ensures_call, split_ok]
  cases here : start.calls id with
  | none => exact reliable.refl consistent
  | some found =>
      cases carrier : found.carrier with
      | none => simpa [carrier] using reliable.refl consistent
      | immediate settlement context => simpa [carrier] using reliable.refl consistent
      | reusable => simpa [carrier] using reliable.refl consistent
      | pending context =>
          have on := On.initial consistent here
          have pending := (consistent.pending here carrier).2
          simp only [carrier]
          simp only [ensures_bind, ensures_change here, split_ok, endPending, ensures_call,
            Adapter.set_self, ensures_ite]
          constructor
          · intro notEnded
            obtain ⟨unreacted, idle⟩ := pending.unreacted notEnded
            rw [ensures_change Adapter.set_self]
            simp only [split_ok, Adapter.set_set, ensures_invoke]
            have ended : Pending id { found with
                discarded := true, ended := true, ends := found.ends + 1 } := by
              refine ⟨?_, fun _ => rfl, by simp, pending.observed, pending.reacts, pending.before, ?_,
                ?_, pending.finished⟩
              · simp [pending.ends_zero notEnded]
              · intro running
                rw [idle] at running
                cases running
              · intro reacted
                rw [unreacted] at reacted
                cases reacted
            have later : Later found { found with
                discarded := true, ended := true, ends := found.ends + 1 } :=
              .idle carrier rfl idle (fun observed => ⟨observed, fun none => none⟩) fun _ => rfl
            have set := on.set { found with
              discarded := true, ended := true, ends := found.ends + 1 } carrier rfl later ended
            exact ⟨set.consistent, fun returned changed relied => reliable.trans set.rely relied⟩
          · intro ended
            have discarded : Pending id { found with discarded := true } :=
              ⟨pending.ends, fun _ => by simpa using ended, by simp, pending.observed, pending.reacts,
                pending.before, pending.during, pending.after, pending.finished⟩
            have later : Later found { found with discarded := true } := by
              refine ⟨fun none => ?_, fun _ => rfl, fun _ => rfl,
                fun observed => ⟨observed, fun none => none⟩, fun _ => rfl⟩
              rw [carrier] at none
              cases none
            exact (on.set { found with discarded := true } carrier rfl later discarded).rely

theorem ensures_observe {start : Adapter Value Error} (consistent : Consistent start) (id : Nat) :
    Ensures Consistent Rely (observe id) (fun _ => Rely start) start := by
  simp only [observe, ensures_bind, ensures_call, split_ok]
  cases here : start.calls id with
  | none => exact reliable.refl consistent
  | some found =>
      cases carrier : found.carrier with
      | none => simpa [carrier] using reliable.refl consistent
      | immediate settlement context => simpa [carrier] using reliable.refl consistent
      | reusable => simpa [carrier] using reliable.refl consistent
      | pending context =>
          cases observed : found.observed with
          | true => simpa [carrier, observed] using reliable.refl consistent
          | false =>
              have on := On.initial consistent here
              have pending := (consistent.pending here carrier).2
              have noReaction : found.reaction = none := by
                rw [← Option.not_isSome_iff_eq_none]
                intro some
                rw [pending.observed some] at observed
                cases observed
              have idle := (pending.before (pending.reacts noReaction)).1
              have noObserver : ∀ {goal : Prop}, found.observed = true → goal := by
                intro goal isObserved
                rw [observed] at isObserved
                cases isObserved
              simp only [carrier, observed]
              simp only [ensures_bind, ensures_change here, split_ok, ensures_attempt]
              have observing : Pending id { found with observed := true } :=
                ⟨pending.ends, pending.discarded, pending.early, fun _ => rfl, pending.reacts,
                  pending.before, pending.during, pending.after, pending.finished⟩
              have begun : Later found { found with observed := true } :=
                .idle carrier rfl idle (fun is => noObserver is) fun _ => rfl
              have set := on.set { found with observed := true } carrier rfl begun observing
              refine ⟨set.consistent, fun thrown changed relied => ?_⟩
              obtain ⟨call, there, later⟩ := relied.kept.calls id _ set.here
              have same : call.carrier = .pending context := by
                rw [later.carrier (by simp [carrier]), carrier]
              have stillNone := (later.observing rfl).2 noReaction
              have pendingNow := (relied.consistent.pending there same).2
              have now : On start id found call changed :=
                ⟨here, relied.consistent, set.kept.trans relied.kept, there⟩
              have unreacted := pendingNow.reacts stillNone
              have attach : ∀ reaction, Rely start
                  (changed.set id { call with reaction := some reaction }) := by
                intro reaction
                have attached : Pending id { call with reaction := some reaction } :=
                  ⟨pendingNow.ends, pendingNow.discarded, pendingNow.early,
                    fun _ => (later.observing rfl).1, by simp, pendingNow.before, pendingNow.during,
                    pendingNow.after, pendingNow.finished⟩
                have last : Later found { call with reaction := some reaction } :=
                  .idle carrier (same.trans carrier.symm) idle (fun is => noObserver is) later.settled
                exact (now.set { call with reaction := some reaction } same rfl last attached).rely
              cases thrown with
              | none =>
                  rw [ensures_change there]
                  exact attach .attached
              | some error =>
                  rw [ensures_change there]
                  exact attach (.job error)

/-! ## Reactions -/

/-- What a call records while the hooks of its reaction run. -/
def reacting (first : Call Value Error) (discarded : Bool) (rejects : Nat) : Call Value Error :=
  { first with
    reacted := true
    running := true
    ended := true
    ends := 1
    discarded
    rejects }

/-- What a call records when its reaction begins. -/
def entered (first : Call Value Error) : Call Value Error :=
  { first with reacted := true, running := true }

/-- What a call records when it has been observed. -/
def reported (first : Call Value Error) (discarded : Bool) (settlement : HostSettlement Value Error) :
    Call Value Error :=
  { reacting first discarded (rejectsOf settlement) with
    running := false
    outcome := some settlement
    settles := [settlement] }

structure Begins (start : Adapter Value Error) (id : Nat) (first : Call Value Error) : Prop where
  consistent : Consistent start
  here : start.calls id = some first
  carrier : first.carrier = .pending id
  reaction : first.reaction ≠ none
  unreacted : first.reacted = false

/-- The call has been ended, and `reject` has run that often in its reaction. -/
def Reacts (start : Adapter Value Error) (id : Nat) (first : Call Value Error) (rejects : Nat)
    (state : Adapter Value Error) : Prop :=
  ∃ discarded, On start id first (reacting first discarded rejects) state

abbrev Settles (start : Adapter Value Error) (id : Nat) (first : Call Value Error)
    (reports : HostSettlement Value Error → Prop) :
    Except Error (HostSettlement Value Error) → Adapter Value Error → Prop :=
  split
    (fun settlement state =>
      reports settlement ∧ Reacts start id first (rejectsOf settlement) state)
    fun _ _ => False

/-- The settlements that a reaction may pass on when the promise has settled. -/
def Reports (resolution : HostSettlement Value Error) :
    Reaction Error → HostSettlement Value Error → Prop
  | .attached, settlement =>
      match resolution with
      | .value result => settlement = .value result ∨ settlement.isError = true
      | .error error => settlement = .error error
  | .job error, settlement => settlement = .error error

section

variable {start state : Adapter Value Error} {id : Nat} {first : Call Value Error}

theorem Begins.pending (begins : Begins start id first) : Pending id first :=
  (begins.consistent.pending begins.here begins.carrier).2

theorem Begins.later {next : Call Value Error} (begins : Begins start id first)
    (carrier : next.carrier = first.carrier) (observed : next.observed = first.observed)
    (reaction : next.reaction = first.reaction) : Later first next :=
  .idle begins.carrier carrier (begins.pending.before begins.unreacted).1
    (fun is => ⟨observed.trans is, fun none => reaction.trans none⟩)
    fun some => absurd (begins.pending.before begins.unreacted).2.2.2 some

theorem Begins.unfinished (begins : Begins start id first) : first.finished = [] := by
  obtain none | ⟨_, settlement, settles, _⟩ := begins.pending.finished
  · exact none
  · rw [(begins.pending.before begins.unreacted).2.2.2] at settles
    cases settles

theorem Begins.reacting_pending (begins : Begins start id first) (discarded : Bool) {rejects : Nat}
    (once : rejects ≤ 1) : Pending id (reacting first discarded rejects) := by
  obtain ⟨_, _, noOutcome, noSettles⟩ := begins.pending.before begins.unreacted
  exact ⟨rfl, fun _ => rfl, fun _ => nofun, begins.pending.observed,
    fun none => absurd none begins.reaction, nofun, fun _ => ⟨rfl, once, noOutcome, noSettles⟩, nofun, .inl begins.unfinished⟩

theorem Begins.reported_pending (begins : Begins start id first) (discarded : Bool)
    (settlement : HostSettlement Value Error) : Pending id (reported first discarded settlement) :=
  ⟨rfl, fun _ => rfl, fun _ => nofun, begins.pending.observed,
    fun none => absurd none begins.reaction, nofun, nofun, fun _ _ => ⟨settlement, rfl, rfl, rfl, rfl⟩, .inl begins.unfinished⟩

theorem Begins.reacts (begins : Begins start id first) (discarded : Bool) :
    Reacts start id first 0 (start.set id (reacting first discarded 0)) :=
  ⟨discarded, (On.initial begins.consistent begins.here).set (reacting first discarded 0)
    begins.carrier rfl (begins.later rfl rfl rfl)
    (begins.reacting_pending discarded (Nat.zero_le 1))⟩

theorem Begins.reacts_ended (begins : Begins start id first) (ended : first.ended = true) :
    Reacts start id first 0 (start.set id (entered first)) := by
  have ends : first.ends = 1 := by
    rw [begins.pending.ends, ended]
    rfl
  have rejects := (begins.pending.before begins.unreacted).2.1
  have same : entered first = reacting first first.discarded 0 := by
    cases first
    simp_all [entered, reacting]
  rw [same]
  exact begins.reacts first.discarded

theorem Reacts.rely {rejects : Nat} {changed : Adapter Value Error}
    (reacts : Reacts start id first rejects state) (rely : Rely state changed) :
    Reacts start id first rejects changed := by
  obtain ⟨discarded, on⟩ := reacts
  obtain ⟨later, now⟩ := on.running rfl rely
  exact ⟨later, now⟩

theorem ensures_reject {error : Error} (begins : Begins start id first)
    (reacts : Reacts start id first 0 state) :
    Ensures Consistent Rely (rejectHooks id error false)
      (Settles start id first (· = .error error)) state := by
  obtain ⟨discarded, on⟩ := reacts
  simp only [rejectHooks, Bool.false_eq_true, if_false, ensures_bind, ensures_pure, split_ok,
    ensures_change on.here, ensures_ignoring, true_and]
  have rejected := on.set (reacting first discarded 1) begins.carrier rfl (begins.later rfl rfl rfl)
    (begins.reacting_pending discarded (Nat.le_refl 1))
  exact ⟨rejected.consistent, fun changed relied =>
    Reacts.rely ⟨discarded, rejected⟩ relied⟩

theorem Begins.set_entered (begins : Begins start id first) (notEnded : first.ended = false) :
    { entered first with ended := true, ends := (entered first).ends + 1 } =
      reacting first first.discarded 0 := by
  have ends := begins.pending.ends_zero notEnded
  have rejects := (begins.pending.before begins.unreacted).2.1
  cases first
  simp_all [entered, reacting]

theorem ensures_endPending (begins : Begins start id first) :
    Ensures Consistent Rely (endPending id) (fun _ => Reacts start id first 0)
      (start.set id (entered first)) := by
  simp only [endPending, ensures_bind, ensures_call, split_ok, Adapter.set_self, ensures_ite]
  constructor
  · intro notEnded
    have reacts := begins.reacts first.discarded
    rw [ensures_change Adapter.set_self, begins.set_entered notEnded]
    simp only [split_ok, Adapter.set_set, ensures_invoke]
    obtain ⟨discarded, on⟩ := reacts
    exact ⟨on.consistent, fun _ changed relied => Reacts.rely ⟨discarded, on⟩ relied⟩
  · intro ended
    exact begins.reacts_ended (by simpa [entered] using ended)

theorem ensures_rejected_ended {error : Error} (begins : Begins start id first)
    (reacts : Reacts start id first 0 state) :
    Ensures Consistent Rely (rejected id error)
      (Settles start id first (· = .error error)) state := by
  obtain ⟨discarded, on⟩ := reacts
  simp only [rejected, ensures_bind, ensures_call, split_ok, on.here, ensures_ite]
  exact ⟨(fun open' => by cases open'), fun _ => ensures_reject begins ⟨discarded, on⟩⟩

theorem ensures_rejected {error : Error} (begins : Begins start id first) :
    Ensures Consistent Rely (rejected id error) (Settles start id first (· = .error error))
      (start.set id (entered first)) := by
  cases ended : first.ended with
  | true => exact ensures_rejected_ended begins (begins.reacts_ended ended)
  | false =>
      have reacts := begins.reacts first.discarded
      have ⟨_, on⟩ := reacts
      have notEnded : (entered first).ended = false := ended
      simp only [rejected, ensures_bind, ensures_call, split_ok, Adapter.set_self, notEnded, if_true,
        ensures_change Adapter.set_self, rejectHooks, Adapter.set_set, ensures_ignoring]
      rw [begins.set_entered ended]
      refine ⟨on.consistent, fun changed relied => ?_⟩
      have last : Ensures Consistent Rely (rejectHooks id error false)
          (Settles start id first (· = .error error)) changed :=
        ensures_reject begins (reacts.rely relied)
      simpa only [rejectHooks, Bool.false_eq_true, if_false, ensures_bind, ensures_pure, split_ok]
        using last

theorem ensures_settlementOf (begins : Begins start id first)
    (resolution : HostSettlement Value Error) (reaction : Reaction Error) :
    Ensures Consistent Rely (settlementOf id resolution reaction)
      (Settles start id first (Reports resolution reaction)) (start.set id (entered first)) := by
  cases reaction with
  | job error => exact ensures_rejected begins
  | attached =>
      cases resolution with
      | error error => exact ensures_rejected begins
      | value result =>
          simp only [settlementOf, fulfilled, ensures_tryCatch, ensures_bind, split_ok]
          refine (ensures_endPending begins).imp fun returned state reacts => ?_
          cases returned with
          | ok _ => exact ⟨.inl rfl, reacts⟩
          | error failure =>
              refine (ensures_rejected_ended begins reacts).imp fun returned state settles => ?_
              cases returned with
              | error failure => exact settles.elim
              | ok settlement =>
                  obtain ⟨rfl, rejected⟩ := settles
                  exact ⟨.inr rfl, rejected⟩

end

theorem Consistent.of_reaction {start : Adapter Value Error} {id : Nat} {first : Call Value Error}
    (consistent : Consistent start) (here : start.calls id = some first)
    (reaction : first.reaction ≠ none) : first.carrier = .pending id := by
  have regular := consistent.calls id first here
  rw [Regular] at regular
  split at regular
  next carrier =>
    obtain ⟨ends, rejects, _, _, rfl⟩ := regular
    exact absurd rfl reaction
  next => exact absurd regular.2.reaction reaction
  next =>
    obtain ⟨_, immediate⟩ := regular
    exact absurd immediate.reaction reaction
  next carrier => rw [carrier, regular.1]

structure Reacted (start : Adapter Value Error) (id : Nat)
    (reports : HostSettlement Value Error → Prop) (final : Adapter Value Error) : Prop where
  rely : Rely start final
  settled : ∃ call settlement, final.calls id = some call ∧ reports settlement ∧
    call.outcome = some settlement ∧ call.settles = [settlement]

theorem Consistent.settled {state : Adapter Value Error} {id : Nat} {call : Call Value Error}
    {settlement : HostSettlement Value Error} (consistent : Consistent state)
    (here : state.calls id = some call) {context : Nat} (carrier : call.carrier = .pending context)
    (settles : call.settles = [settlement]) : call.outcome = some settlement := by
  have pending := (consistent.pending here carrier).2
  cases reacted : call.reacted with
  | false =>
      rw [(pending.before reacted).2.2.2] at settles
      cases settles
  | true =>
      cases running : call.running with
      | true =>
          rw [(pending.during running).2.2.2] at settles
          cases settles
      | false =>
          obtain ⟨own, outcome, one, _⟩ := pending.after reacted running
          rw [one] at settles
          injection settles with same
          exact same ▸ outcome

theorem Begins.react {start : Adapter Value Error} {id : Nat} {first : Call Value Error}
    {observer : Reaction Error} (begins : Begins start id first)
    (reaction : first.reaction = some observer) (resolution : HostSettlement Value Error) :
    Ensures Consistent Rely (react id resolution)
      (fun _ => Reacted start id (Reports resolution observer)) start := by
  have settles := (begins.pending.before begins.unreacted).2.2.2
  simp only [HostCalls.react, ensures_bind, ensures_call, split_ok, begins.here, reaction,
    begins.unreacted]
  simp only [ensures_bind, ensures_change begins.here, split_ok]
  refine (ensures_settlementOf begins resolution observer).imp ?_
  intro returned state reacts
  cases returned with
  | error failure => exact reacts.elim
  | ok settlement =>
      obtain ⟨reports, discarded, on⟩ := reacts
      have last := on.set (reported first discarded settlement) begins.carrier rfl
        (begins.later rfl rfl rfl) (begins.reported_pending discarded settlement)
      rw [split_ok, ensures_bind, ensures_change on.here, split_ok, ensures_invoke]
      have same : { reacting first discarded (rejectsOf settlement) with
          running := false
          outcome := some settlement
          settles := (reacting first discarded (rejectsOf settlement)).settles ++
            [settlement] } = reported first discarded settlement := by
        simp [reported, reacting, settles]
      rw [same]
      refine ⟨last.consistent, fun _ changed relied => ⟨reliable.trans last.rely relied, ?_⟩⟩
      obtain ⟨call, there, later⟩ := relied.kept.calls id _ last.here
      have carrier : call.carrier = .pending id := by
        have before : (reported first discarded settlement).carrier = .pending id := begins.carrier
        rw [later.carrier (by simp [before]), before]
      have once : call.settles = [settlement] := later.settled fun none => by cases none
      exact ⟨call, settlement, there, reports, relied.consistent.settled there carrier once, once⟩

theorem ensures_react {start : Adapter Value Error} (consistent : Consistent start) (id : Nat)
    (resolution : HostSettlement Value Error) :
    Ensures Consistent Rely (react id resolution) (fun _ => Rely start) start := by
  cases here : start.calls id with
  | none => simpa [react, here] using reliable.refl consistent
  | some first =>
      cases reaction : first.reaction with
      | none => simpa [react, here, reaction] using reliable.refl consistent
      | some observer =>
          cases unreacted : first.reacted with
          | true => simpa [react, here, reaction, unreacted] using reliable.refl consistent
          | false =>
              have attached : first.reaction ≠ none := by
                rw [reaction]
                nofun
              have carrier := consistent.of_reaction here attached
              have begins : Begins start id first := ⟨consistent, here, carrier, attached, unreacted⟩
              exact (begins.react reaction resolution).imp fun _ _ reacted => reacted.rely

/-! ## Results -/

/-- What a call records once its result has been read or released. -/
def readOut (call : Call Value Error)
    (finished : List (HostSettlement Value Error × Option Nat)) : Call Value Error :=
  { call with read := true, finished }

theorem not_holds_readOut (call : Call Value Error)
    (finished : List (HostSettlement Value Error × Option Nat)) : ¬Holds (readOut call finished) :=
  fun holds => nomatch holds.2

section

variable {start : Adapter Value Error} {id : Nat} {found : Call Value Error}
  {settlement : HostSettlement Value Error}
  {finished : List (HostSettlement Value Error × Option Nat)}

theorem Later.readOut (carrier : found.carrier ≠ .none) (idle : found.running = false) :
    Later found (readOut found finished) := by
  refine ⟨fun none => absurd none carrier, fun _ => rfl, fun running => ?_,
    fun observed => ⟨observed, fun none => none⟩, fun _ => rfl⟩
  rw [idle] at running
  cases running

theorem Immediate.unfinished (immediate : Immediate id found settlement)
    (unread : found.read = false) : found.finished = [] := by
  obtain none | ⟨read, _⟩ := immediate.finished
  · exact none
  · rw [unread] at read
    cases read

theorem Immediate.readOut (immediate : Immediate id found settlement)
    (passed : finished = [] ∨ finished = [(settlement, some id)]) :
    Immediate id (readOut found finished) settlement := by
  refine ⟨immediate.outcome, immediate.ends, immediate.rejects, immediate.settles,
    immediate.discarded, immediate.reaction, immediate.reacted, immediate.running, ?_⟩
  exact passed.imp (fun none => none) fun one => ⟨rfl, one⟩

theorem Consistent.read_immediate (consistent : Consistent start)
    (here : start.calls id = some found) {context : Nat}
    (carrier : found.carrier = .immediate settlement context)
    (passed : finished = [] ∨ finished = [(settlement, some id)]) :
    Rely start (start.set id (HostCalls.readOut found finished)) := by
  have regular := consistent.calls id found here
  rw [Regular, carrier] at regular
  obtain ⟨isId, immediate⟩ := regular
  have next : Regular id (HostCalls.readOut found finished) := by
    rw [Regular, show (HostCalls.readOut found finished).carrier = _ from carrier]
    exact ⟨isId, immediate.readOut passed⟩
  have kept : Kept start (start.set id (HostCalls.readOut found finished)) :=
    (Kept.refl start).set here (.readOut (by rw [carrier]; nofun) immediate.running)
  have without : found.carrier ≠ .reusable := by
    rw [carrier]
    nofun
  exact ⟨consistent.set_other here next without without, kept⟩

theorem Consistent.read_reusable (consistent : Consistent start)
    (here : start.calls id = some found) (holds : Holds found)
    (outcome : found.outcome = some settlement)
    (passed : finished = [] ∨ finished = [(settlement, some id)]) :
    Rely start ({ start with reusable := ⟨false, none, none⟩ }.set id
      (HostCalls.readOut found finished)) := by
  have regular := consistent.calls id found here
  rw [Regular, holds.1] at regular
  obtain ⟨own, immediate⟩ := regular
  obtain rfl : own = settlement := by
    have both := immediate.outcome.symm.trans outcome
    injection both
  have next : Regular id (HostCalls.readOut found finished) := by
    rw [Regular, show (HostCalls.readOut found finished).carrier = _ from holds.1]
    exact ⟨own, immediate.readOut passed⟩
  have kept : Kept start (start.set id (HostCalls.readOut found finished)) :=
    (Kept.refl start).set here (.readOut (by rw [holds.1]; nofun) immediate.running)
  have others : ∀ other call, other ≠ id → start.calls other = some call → ¬Holds call := by
    intro other call different there held
    have one := consistent.held id found here holds
    rw [consistent.held other call there held] at one
    injection one with _ _ same
    injection same with same
    exact different same
  exact ⟨consistent.swap here _ next nofun (fun held => absurd held (not_holds_readOut _ _)) others,
    ⟨kept.calls, kept.next⟩⟩

theorem Consistent.read_pending (consistent : Consistent start)
    (here : start.calls id = some found) {context : Nat} (carrier : found.carrier = .pending context)
    {more : List (HostSettlement Value Error)} (settles : found.settles = settlement :: more) :
    Rely start (start.set id (HostCalls.readOut found [(settlement, some id)])) := by
  have pending := (consistent.pending here carrier).2
  have idle : found.running = false := by
    cases running : found.running with
    | false => rfl
    | true =>
        rw [(pending.during running).2.2.2] at settles
        cases settles
  have reacted : found.reacted = true := by
    cases reacted : found.reacted with
    | true => rfl
    | false =>
        rw [(pending.before reacted).2.2.2] at settles
        cases settles
  obtain ⟨own, _, one, _, _⟩ := pending.after reacted idle
  have next : Pending id (HostCalls.readOut found [(settlement, some id)]) := by
    refine ⟨pending.ends, pending.discarded, pending.early, pending.observed, pending.reacts,
      pending.before, pending.during, pending.after, .inr ⟨rfl, settlement, ?_, rfl⟩⟩
    rw [one] at settles
    injection settles with same
    exact same ▸ one
  have later : Later found (HostCalls.readOut found [(settlement, some id)]) :=
    .readOut (by rw [carrier]; nofun) idle
  exact ((On.initial consistent here).set (HostCalls.readOut found [(settlement, some id)]) carrier rfl
    later next).rely

end

theorem ensures_finish {start state : Adapter Value Error} {id : Nat} {found : Call Value Error}
    (here : state.calls id = some found) (settlement : HostSettlement Value Error)
    (context : Option Nat)
    (rely : Rely start
      (state.set id (readOut found (found.finished ++ [(settlement, context)])))) :
    Ensures Consistent Rely (finishHostCall.finish id settlement context) (fun _ => Rely start)
      state := by
  rw [finishHostCall.finish, ensures_bind, ensures_change here, split_ok, ensures_invoke]
  exact ⟨rely.consistent, fun _ changed relied => reliable.trans rely relied⟩

theorem Consistent.unfinished {start : Adapter Value Error} {id : Nat} {found : Call Value Error}
    (consistent : Consistent start) (here : start.calls id = some found)
    (unread : found.read = false) : found.finished = [] := by
  have regular := consistent.calls id found here
  rw [Regular] at regular
  split at regular
  next carrier =>
    obtain ⟨ends, rejects, _, _, rfl⟩ := regular
    rfl
  next => exact regular.2.unfinished unread
  next =>
    obtain ⟨_, immediate⟩ := regular
    exact immediate.unfinished unread
  next =>
    obtain none | ⟨read, _⟩ := regular.2.finished
    · exact none
    · rw [unread] at read
      cases read

theorem Consistent.reusable {start : Adapter Value Error} {id : Nat} {found : Call Value Error}
    (consistent : Consistent start) (here : start.calls id = some found) (holds : Holds found) :
    ∃ settlement, found.outcome = some settlement ∧
      start.reusable = ⟨true, some settlement, some id⟩ := by
  have regular := consistent.calls id found here
  rw [Regular, holds.1] at regular
  obtain ⟨settlement, immediate⟩ := regular
  refine ⟨settlement, immediate.outcome, ?_⟩
  rw [consistent.held id found here holds, immediate.outcome]

theorem ensures_finishHostCall {start : Adapter Value Error} (consistent : Consistent start)
    (id : Nat) : Ensures Consistent Rely (finishHostCall id) (fun _ => Rely start) start := by
  simp only [finishHostCall, ensures_bind, ensures_get, split_ok]
  cases here : start.calls id with
  | none => exact reliable.refl consistent
  | some found =>
      simp only [ensures_ite]
      refine ⟨fun unread => ?_, fun _ => reliable.refl consistent⟩
      have fresh := consistent.unfinished here unread
      cases carrier : found.carrier with
      | none => exact reliable.refl consistent
      | immediate settlement context =>
          have regular := consistent.calls id found here
          rw [Regular, carrier] at regular
          rw [regular.1]
          refine ensures_finish here settlement (some id) ?_
          rw [fresh]
          exact consistent.read_immediate here carrier (.inr rfl)
      | reusable =>
          have holds : Holds found := ⟨carrier, unread⟩
          obtain ⟨settlement, outcome, reusable⟩ := consistent.reusable here holds
          simp only [reusable]
          rw [ensures_bind, releaseReusable, ensures_modify, split_ok]
          have still : ({ start with reusable := ⟨false, none, none⟩ } :
              Adapter Value Error).calls id = some found := here
          refine ensures_finish still settlement (some id) ?_
          rw [fresh]
          exact consistent.read_reusable here holds outcome (.inr rfl)
      | pending context =>
          cases settles : found.settles with
          | nil => exact reliable.refl consistent
          | cons settlement more =>
              simp only
              rw [(consistent.pending here carrier).1]
              refine ensures_finish here settlement (some id) ?_
              rw [fresh]
              exact consistent.read_pending here carrier settles

theorem ensures_releaseHostCall {start : Adapter Value Error} (consistent : Consistent start)
    (id : Nat) : Ensures Consistent Rely (releaseHostCall id) (fun _ => Rely start) start := by
  simp only [releaseHostCall, ensures_bind, ensures_call, split_ok]
  cases here : start.calls id with
  | none => exact reliable.refl consistent
  | some found =>
      simp only [ensures_ite]
      refine ⟨fun unread => ?_, fun _ => reliable.refl consistent⟩
      have fresh := consistent.unfinished here unread
      cases carrier : found.carrier with
      | none => exact reliable.refl consistent
      | immediate settlement context =>
          simp only
          rw [ensures_change here]
          exact consistent.read_immediate here carrier (.inl fresh)
      | reusable =>
          have holds : Holds found := ⟨carrier, unread⟩
          obtain ⟨settlement, outcome, _⟩ := consistent.reusable here holds
          simp only
          have still : ({ start with reusable := ⟨false, none, none⟩ } :
              Adapter Value Error).calls id = some found := here
          rw [ensures_bind, releaseReusable, ensures_modify, split_ok, ensures_change still]
          exact consistent.read_reusable here holds outcome (.inl fresh)
      | pending context => exact reliable.refl consistent

theorem guarantees : Guarantees (@operations Value Error) Consistent Rely := by
  intro operation state consistent
  cases operation with
  | invoke reusable thenableIsValue returned =>
      exact (ensures_invokeHostCallWith consistent reusable thenableIsValue returned).imp
        fun _ _ invoked => invoked.rely
  | observe id => exact ensures_observe consistent id
  | react id resolution => exact ensures_react consistent id resolution
  | discard id => exact ensures_discard consistent id
  | finish id => exact ensures_finishHostCall consistent id
  | release id => exact ensures_releaseHostCall consistent id

/-! ## Every use of the adapter -/

/-- How often the hooks of a call have run and what they have received. -/
structure Lifecycle (id : Nat) (call : Call Value Error) : Prop where
  endsOnce : call.ends ≤ 1
  ended : call.outcome.isSome = true ∨ call.discarded = true → call.ends = 1
  notEnded : call.carrier = .pending id → call.discarded = false → call.reacted = false →
    call.ends = 0
  rejectsOnce : call.rejects ≤ 1
  rejected : ∀ settlement, call.outcome = some settlement →
    (call.rejects = 1 ↔ settlement.isError = true)
  notRejected : call.outcome = none → call.carrier ≠ .none → call.running = false →
    call.rejects = 0
  settled : call.settles = [] ∨ ∃ settlement,
    call.outcome = some settlement ∧ call.settles = [settlement]
  reported : call.reacted = true → call.running = false → ∃ settlement,
    call.outcome = some settlement ∧ call.settles = [settlement]
  finished : call.finished = [] ∨ ∃ settlement,
    call.outcome = some settlement ∧ call.finished = [(settlement, some id)]

theorem rejectsOf_le (settlement : HostSettlement Value Error) : rejectsOf settlement ≤ 1 := by
  cases settlement <;> simp [rejectsOf, HostSettlement.isError]

theorem rejectsOf_eq_one (settlement : HostSettlement Value Error) :
    rejectsOf settlement = 1 ↔ settlement.isError = true := by
  cases settlement <;> simp [rejectsOf, HostSettlement.isError]

theorem invoking_lifecycle {id ends rejects : Nat} (endsOnce : ends ≤ 1) (rejectsOnce : rejects ≤ 1) :
    Lifecycle id (invoking ends rejects : Call Value Error) where
  endsOnce := endsOnce
  ended := by simp [invoking, Call.start]
  notEnded := nofun
  rejectsOnce := rejectsOnce
  rejected := nofun
  notRejected _ some := absurd rfl some
  settled := .inl rfl
  reported := nofun
  finished := .inl rfl

theorem Immediate.lifecycle {id : Nat} {call : Call Value Error}
    {settlement : HostSettlement Value Error} (immediate : Immediate id call settlement)
    (carrier : call.carrier ≠ .pending id) : Lifecycle id call where
  endsOnce := Nat.le_of_eq immediate.ends
  ended _ := immediate.ends
  notEnded pending := absurd pending carrier
  rejectsOnce := by
    rw [immediate.rejects]
    exact rejectsOf_le settlement
  rejected own outcome := by
    rw [immediate.outcome] at outcome
    injection outcome with same
    rw [immediate.rejects, same, rejectsOf_eq_one]
  notRejected none := by
    rw [immediate.outcome] at none
    cases none
  settled := .inl immediate.settles
  reported reacted := by
    rw [immediate.reacted] at reacted
    cases reacted
  finished := immediate.finished.imp (fun none => none) fun one =>
    ⟨settlement, immediate.outcome, one.2⟩

theorem Pending.outcome {id : Nat} {call : Call Value Error} (pending : Pending id call) :
    (call.reacted = true ∧ call.running = false ∧ ∃ settlement, call.outcome = some settlement ∧
      call.settles = [settlement] ∧ call.ended = true ∧ call.rejects = rejectsOf settlement) ∨
    (call.outcome = none ∧ call.settles = [] ∧ call.rejects ≤ 1 ∧
      (call.reacted = true → call.running = true) ∧
      (call.running = false → call.rejects = 0)) := by
  cases reacted : call.reacted with
  | false =>
      obtain ⟨_, rejects, outcome, settles⟩ := pending.before reacted
      exact .inr ⟨outcome, settles, by omega, nofun, fun _ => rejects⟩
  | true =>
      cases running : call.running with
      | true =>
          obtain ⟨_, rejects, outcome, settles⟩ := pending.during running
          exact .inr ⟨outcome, settles, rejects, fun _ => rfl, nofun⟩
      | false => exact .inl ⟨rfl, rfl, pending.after reacted running⟩

theorem Pending.ends_one {id : Nat} {call : Call Value Error} (pending : Pending id call)
    (ended : call.ended = true) : call.ends = 1 := by
  rw [pending.ends, if_pos ended]

theorem Pending.lifecycle {id : Nat} {call : Call Value Error} (pending : Pending id call) :
    Lifecycle id call := by
  have endsOnce : call.ends ≤ 1 := by
    rw [pending.ends]
    split <;> omega
  have notEnded : call.carrier = .pending id → call.discarded = false → call.reacted = false →
      call.ends = 0 := fun _ kept unreacted => pending.ends_zero (pending.early kept unreacted)
  obtain ⟨_, idle, settlement, outcome, settles, ended, rejects⟩ |
    ⟨outcome, settles, rejects, active, quiet⟩ := pending.outcome
  · refine ⟨endsOnce, fun _ => pending.ends_one ended, notEnded, ?_, ?_, ?_,
      .inr ⟨settlement, outcome, settles⟩, fun _ _ => ⟨settlement, outcome, settles⟩, ?_⟩
    · rw [rejects]
      exact rejectsOf_le settlement
    · intro own same
      rw [outcome] at same
      injection same with same
      rw [rejects, same, rejectsOf_eq_one]
    · intro none
      rw [outcome] at none
      cases none
    · obtain none | ⟨_, own, one, finished⟩ := pending.finished
      · exact .inl none
      · rw [settles] at one
        injection one with same
        exact .inr ⟨settlement, outcome, same ▸ finished⟩
  · refine ⟨endsOnce, ?_, notEnded, rejects, ?_, fun _ _ => quiet, .inl settles, ?_, ?_⟩
    · rintro (some | discarded)
      · rw [outcome] at some
        cases some
      · exact pending.ends_one (pending.discarded discarded)
    · intro own same
      rw [outcome] at same
      cases same
    · intro reacted idle
      rw [active reacted] at idle
      cases idle
    · obtain none | ⟨_, own, one, _⟩ := pending.finished
      · exact .inl none
      · rw [settles] at one
        cases one

theorem Regular.lifecycle {id : Nat} {call : Call Value Error} (regular : Regular id call) :
    Lifecycle id call := by
  rw [Regular] at regular
  split at regular
  next =>
    obtain ⟨ends, rejects, endsOnce, rejectsOnce, rfl⟩ := regular
    exact invoking_lifecycle endsOnce rejectsOnce
  next carrier => exact regular.2.lifecycle (by rw [carrier]; nofun)
  next carrier =>
    obtain ⟨settlement, immediate⟩ := regular
    exact immediate.lifecycle (by rw [carrier]; nofun)
  next => exact regular.2.lifecycle

/-- The calls of an adapter, of which one at most holds the reusable carrier with a result to read. -/
structure Sound (adapter : Adapter Value Error) : Prop where
  lifecycle : ∀ id call, adapter.calls id = some call → Lifecycle id call
  reusable : ∀ first second one two, adapter.calls first = some one →
    adapter.calls second = some two → Holds one → Holds two → first = second

theorem Consistent.sound {adapter : Adapter Value Error} (consistent : Consistent adapter) :
    Sound adapter := by
  refine ⟨fun id call here => (consistent.calls id call here).lifecycle, ?_⟩
  intro first second one two here there holdsOne holdsTwo
  have reusable := consistent.held first one here holdsOne
  rw [consistent.held second two there holdsTwo] at reusable
  injection reusable with _ _ same
  injection same with same
  exact same.symm

theorem Consistent.initial : Consistent (Adapter.initial : Adapter Value Error) where
  calls _ _ here := absurd here (Option.some_ne_none _).symm
  fresh _ _ := rfl
  busy busy := Bool.noConfusion busy
  held _ _ here := absurd here (Option.some_ne_none _).symm

/-- A promise that the host function returned has been observed. -/
def waitingAdapter : Adapter Nat String :=
  ((observe 0).run ((operations (.invoke true false ⟨7, true, false⟩)).run .initial).2).2

theorem waitingAdapter_reached :
    Reentrant.Reaches operations (Adapter.initial : Adapter Nat String) waitingAdapter := by
  have invoked := Exec.run operations (operations (.invoke true false ⟨7, true, false⟩))
    (Adapter.initial : Adapter Nat String)
  exact .ran (.ran .initial invoked) (Exec.run operations (operations (.observe 0)) _)

/-- The call of `waitingAdapter`. -/
def waitingCall : Call Nat String :=
  { (waiting 0 : Call Nat String) with observed := true, reaction := some .attached }

theorem waitingAdapter_calls : waitingAdapter.calls 0 = some waitingCall := by decide

end Polyengine.Exec.HostCalls
