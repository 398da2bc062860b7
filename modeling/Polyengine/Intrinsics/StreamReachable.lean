import Polyengine.Intrinsics.StreamRunInvariant

/-!
# The invariant of every reachable state

Handing an end on, tearing an instance down and the environment's own steps keep a shared object
stable, its creation makes it so, and every run stays there.
-/

set_option autoImplicit false

namespace Polyengine.Intrinsics.StreamInvariant

open Polyengine.Cabi Polyengine.Library Polyengine.Task Polyengine.Task.Streams
open Polyengine.Intrinsics.StreamBuiltins Polyengine.Intrinsics.StreamRun

variable {layer : ElementLayer}

/-! ## Handing an end on -/

theorem taken_setEnd (s : State layer) (inst : Nat) (side : Side) (table : Table Entry)
    (copyEnd : CopyEnd layer.Elem) :
    (taken s inst side table).setEnd side copyEnd =
      resituated s (Function.update s.tables inst table) side copyEnd := by
  simp [taken, resituated, State.setEnd]

theorem placed_resituated (s : State layer) (tables : Nat → Table Entry) (inst i : Nat)
    (side : Side) (copyEnd : CopyEnd layer.Elem) (table : Table Entry) :
    placed (resituated s tables side copyEnd) inst i side table =
      resituated s (Function.update tables inst table) side
        { copyEnd with index := some i, holder := .held inst i } := by
  simp [placed, resituated, State.setEnd]

theorem Placement.unplaced {s : State layer} (placement : Placement s) (side : Side)
    (copyEnd : CopyEnd layer.Elem) (absent : ∀ inst i, (s.ends side).holder ≠ .held inst i)
    (away : ∀ inst i, copyEnd.holder ≠ .held inst i)
    (unowned : copyEnd.holder = .transit → copyEnd.index = none) :
    Placement (s.setEnd side copyEnd) where
  tables := placement.tables
  entry inst i other := by
    refine (placement.entry inst i other).trans ?_
    rcases eq_or_ne other side with rfl | different
    · rw [State.setEnd_ends_same]
      exact ⟨fun held => absurd held (absent inst i), fun held => absurd held (away inst i)⟩
    · rw [State.setEnd_ends_ne s side copyEnd different]
  index other inst i held := by
    rcases eq_or_ne other side with rfl | different
    · rw [State.setEnd_ends_same] at held
      exact absurd held (away inst i)
    · rw [State.setEnd_ends_ne s side copyEnd different] at held ⊢
      exact placement.index other inst i held
  transit other moving := by
    rcases eq_or_ne other side with rfl | different
    · rw [State.setEnd_ends_same] at moving ⊢
      exact unowned moving
    · rw [State.setEnd_ends_ne s side copyEnd different] at moving ⊢
      exact placement.transit other moving

theorem requireTransferable_meets {s : State layer} {kind : Kind}
    {post : Unit → State layer → Prop}
    (holds : (s.ends .readable).state = .idle → (s.ends .readable).wset = none → post () s) :
    (requireTransferable kind).Meets (Permitted layer) post s := by
  simp only [requireTransferable, Program.meets_bind, Program.meets_get, meets_trapIf]
  refine ⟨fun _ => .trap _, fun _ => ⟨fun _ => .trap _, fun idle => ⟨fun _ => .trap _,
    fun alone => holds (not_not.mp idle) ?_⟩⟩⟩
  by_contra joined
  exact alone (by simpa [CopyEnd.inWaitableSet, Option.isSome_iff_ne_none] using joined)

theorem Stable.waiterless {s : State layer} {side : Side} (stable : Stable s)
    (live : s.Exists side) (idle : (s.ends side).state = .idle) :
    (s.ends side).syncWaiter = none := by
  cases waits : (s.ends side).syncWaiter with
  | none => rfl
  | some i =>
      have busy := (stable.inv.control.sync side i live waits).2.1
      simp [CopyEnd.copying, idle] at busy

theorem transferAsyncEnd_meets {s : State layer} {kind : Kind} {srcInst dstInst srcIdx : Nat}
    {srcElem dstElem : Option layer.Elem} (stable : Stable s)
    (srcRunning : s.poisoned srcInst = false) (dstRunning : s.poisoned dstInst = false) :
    (transferAsyncEnd kind srcInst dstInst srcElem dstElem srcIdx).Meets (Permitted layer)
      (fun _ s' => Stable s') s := by
  unfold transferAsyncEnd
  rw [Program.meets_bind]
  refine removeEnd_meets stable.inv.placement fun table held sameKind placement => ?_
  have live := exists_of_held held srcRunning
  have own : (taken s srcInst .readable table).ends .readable =
      { s.ends .readable with holder := .removed } := resituated_same
  simp only [Program.meets_bind, Program.meets_get, meets_trapIf]
  refine ⟨fun _ => .trap _, fun _ => ⟨fun _ => .trap _, fun _ =>
    requireTransferable_meets fun idle alone => ?_⟩⟩
  rw [own] at idle alone
  have idle : (s.ends .readable).state = .idle := idle
  have waiterless := stable.waiterless live idle
  have unplaced := placement.unplaced .readable
    { s.ends .readable with elem := dstElem, index := none, holder := .removed } (by simp [own]) (by simp) (by simp)
  simp only [Program.meets_modify, own]
  rw [taken_setEnd] at unplaced ⊢
  refine addEnd_meets unplaced (by simp [resituated_same]) fun i table' arrived => ?_
  rw [placed_resituated] at arrived ⊢
  exact stable.resituate
    { placement := arrived
      state := rfl
      event := rfl
      live := fun _ => live
      settled := .inr (by simp [CopyEnd.copying, idle])
      sync := by simp [waiterless]
      transit := by simp } fun _ => by simp [Holder.live, dstRunning]

theorem liftAsyncValue_meets {s : State layer} {kind : Kind} {inst i : Nat}
    {elem : Option layer.Elem} (stable : Stable s) (running : s.poisoned inst = false) :
    (liftAsyncValue kind inst i elem).Meets (Permitted layer) (fun _ s' => Stable s') s := by
  unfold liftAsyncValue
  rw [Program.meets_bind]
  refine removeEnd_meets stable.inv.placement fun table held sameKind placement => ?_
  have live := exists_of_held held running
  have own : (taken s inst .readable table).ends .readable =
      { s.ends .readable with holder := .removed } := resituated_same
  simp only [Program.meets_bind, Program.meets_get, meets_trapIf]
  refine ⟨fun _ => .trap _, fun _ => requireTransferable_meets fun idle alone => ?_⟩
  rw [own] at idle alone
  have idle : (s.ends .readable).state = .idle := idle
  have waiterless := stable.waiterless live idle
  have away : ∀ inst' j, ((taken s inst .readable table).ends .readable).holder ≠ .held inst' j :=
    by simp [own]
  have unplaced := placement.unplaced .readable
    { s.ends .readable with index := none, holder := .transit } away (by simp) fun _ => rfl
  simp only [Program.meets_modify, Program.meets_pure, own]
  rw [taken_setEnd] at unplaced ⊢
  exact stable.resituate
    { placement := unplaced
      state := rfl
      event := rfl
      live := fun _ => live
      settled := .inr (by simp [CopyEnd.copying, idle])
      sync := by simp [waiterless]
      transit := fun _ => ⟨idle, alone, waiterless⟩ } fun _ => rfl

theorem notifyIdleDrop_settled {s : State layer} {side : Side}
    {post : Unit → State layer → Prop} (notified : Notified s side) (holds : post () s) :
    (notifyIdleDrop side).Meets (Permitted layer) post s := by
  simp only [notifyIdleDrop, armIdleDrop, Program.meets_bind, Program.meets_get,
    Program.meets_ite, Program.meets_pure]
  exact ⟨fun _ => holds, fun unsettled => absurd notified unsettled⟩

theorem lowerAsyncValue_meets {s : State layer} {kind : Kind} {inst : Nat}
    {declared : Option layer.Elem} (stable : Stable s) (running : s.poisoned inst = false)
    (moving : (s.ends .readable).holder = .transit) :
    (lowerAsyncValue kind inst declared).Meets (Permitted layer) (fun _ s' => Stable s') s := by
  have live : s.Exists .readable := by simp [State.Exists, moving, Holder.live]
  obtain ⟨idle, alone, waiterless⟩ := stable.inv.control.transit .readable moving
  have unowned := stable.inv.placement.transit .readable moving
  have fits : Resituates s s.tables .readable { s.ends .readable with elem := declared } :=
    { placement := stable.inv.placement.unplaced .readable _ (by simp [moving]) (by simp [moving])
        fun _ => unowned
      state := rfl
      event := rfl
      live := id
      settled := .inl rfl
      sync := by simp [waiterless]
      transit := fun _ => ⟨idle, alone, waiterless⟩ }
  have claimed : Stable (s.setEnd .readable { s.ends .readable with elem := declared }) :=
    stable.resituate fits id
  -- The end is claimed; what remains is its entry into the table.
  have entered : (addEnd .readable inst).Meets (Permitted layer) (fun _ s' => Stable s')
      (s.setEnd .readable { s.ends .readable with elem := declared }) := by
    refine addEnd_meets claimed.inv.placement (by simp [moving]) fun i table arrived => ?_
    exact claimed.resituate
      { placement := arrived
        state := rfl
        event := rfl
        live := fun _ => by simp [State.Exists, moving, Holder.live]
        settled := .inr (by simp [CopyEnd.copying, idle])
        sync := by simp [waiterless]
        transit := by simp } fun _ => by simp [Holder.live, running]
  simp only [lowerAsyncValue, claimReadableEnd, Program.meets_bind, Program.meets_get,
    meets_assert, Program.meets_modify, Program.meets_ite, Program.meets_pure]
  refine ⟨fun _ => .lowerMismatch _ _ _, fun _ => ⟨fun owned => absurd (by simp [unowned]) owned,
    fun _ => ⟨fun gone => ?_, fun _ => entered⟩⟩⟩
  refine notifyIdleDrop_settled ?_ entered
  exact claimed.observed gone .readable ((State.setEnd_exists s .readable
    { s.ends .readable with elem := declared } rfl .readable).mpr live)

theorem lower_meets {s : State layer} {inst : Nat} {declared : Option layer.Elem}
    (stable : Stable s) (running : s.poisoned inst = false) :
    (lower inst declared).Meets (Permitted layer) (fun _ s' => Stable s') s := by
  simp only [lower, Program.meets_bind, Program.meets_get, Program.meets_ite, Program.meets_pure]
  exact ⟨fun moving => lowerAsyncValue_meets stable running moving, fun _ => stable⟩

/-! ## Teardown -/

theorem dropSharedForTeardown_meets {s : State layer} {dropping : Option Side}
    (inv : Inv none s) (observed : Observed s) (explained : s.dropped = false → Explained s)
    (left : ∀ side, dropping = some side → ¬s.Exists side) :
    (dropSharedForTeardown dropping).Meets (Permitted layer) (fun _ s' => Dropped s s') s := by
  have dropped := drop_meets dropping inv observed explained left
  simp only [dropSharedForTeardown, Program.meets_bind, Program.meets_get, Program.meets_ite,
    Program.meets_pure]
  refine ⟨fun gone => ⟨inv, observed, gone, .refl s⟩, fun _ => ?_⟩
  cases parked : s.pending with
  | none => exact dropped
  | some p =>
      obtain ⟨i, held⟩ := (inv.control.pending p parked).holder
      have live := (inv.control.pending p parked).live
      simp only [State.Exists, held, Holder.live, Bool.not_eq_true'] at live
      simp only [Program.meets_ite, live, Bool.false_eq_true, false_implies, not_false_eq_true,
        true_implies, true_and]
      exact dropped

theorem Dropped.stable {s s' : State layer} (dropped : Dropped s s') (resting : Resting s) :
    Stable s' where
  inv := dropped.inv
  observed := dropped.observed
  gone := fun _ _ => dropped.gone
  resting side := by
    rw [dropped.same.state]
    exact resting side

theorem release_meets {s : State layer} (stable : Stable s) :
    release.Meets (Permitted layer) (fun _ s' => Stable s') s := by
  simp only [release, Program.meets_bind, Program.meets_get, Program.meets_ite,
    Program.meets_modify, Program.meets_pure]
  refine ⟨fun moving => ?_, fun _ => stable⟩
  obtain ⟨idle, alone, waiterless⟩ := stable.inv.control.transit .readable moving
  have fits : Resituates s s.tables .readable { s.ends .readable with holder := .removed } :=
    { placement := stable.inv.placement.unplaced .readable _ (by simp [moving]) (by simp) (by simp)
      state := rfl
      event := rfl
      live := by simp [Holder.live]
      settled := .inr (by simp [CopyEnd.copying, idle])
      sync := by simp [waiterless]
      transit := by simp }
  have absent : ¬(s.setEnd .readable { s.ends .readable with holder := .removed }).Exists
      .readable := by simp [State.Exists, Holder.live]
  have resting : Resting (s.setEnd .readable { s.ends .readable with holder := .removed }) :=
    stable.resting.resituate fits
  exact (dropSharedForTeardown_meets (stable.inv.resituate fits) (stable.observed.resituate fits)
    (fun _ _ _ => .inr absent) (by simp)).imp fun _ _ dropped => dropped.stable resting

/-- The pending slot after a trap: an end that the dead instance parked is retracted. -/
def surviving (poisoned : Nat → Bool) (pending : Option Pending) : Option Pending :=
  pending.filter fun p => !poisoned p.inst

theorem surviving_eq_some {poisoned : Nat → Bool} {pending : Option Pending} {p : Pending} :
    surviving poisoned pending = some p ↔ pending = some p ∧ poisoned p.inst = false := by
  simp [surviving, Option.filter_eq_some_iff]

/-- `s` when an instance has trapped and its parked end is retracted. -/
def bereft (s : State layer) (poisoned : Nat → Bool) (abandonReason : Option String) :
    State layer :=
  { s with poisoned, abandonReason, pending := surviving poisoned s.pending }

section Bereft

variable {s : State layer} {poisoned : Nat → Bool} {abandonReason : Option String}

theorem bereft_exists (abandonReason : Option String)
    (grows : ∀ inst, s.poisoned inst = true → poisoned inst = true)
    {side : Side} (there : (bereft s poisoned abandonReason).Exists side) : s.Exists side := by
  change (s.ends side).holder.live poisoned = true at there
  change (s.ends side).holder.live s.poisoned = true
  cases place : (s.ends side).holder with
  | held inst i =>
      simp only [place, Holder.live, Bool.not_eq_true'] at there ⊢
      by_contra dead
      simp [grows inst (by simpa using dead)] at there
  | transit => rfl
  | removed => simp [place, Holder.live] at there

theorem Control.surviving (control : Control none s) {side : Side} {p : Pending}
    (there : (bereft s poisoned abandonReason).Exists side) (parked : s.pending = some p)
    (own : p.buffer.side = side) : (bereft s poisoned abandonReason).pending = some p := by
  obtain ⟨i, held⟩ := (control.pending p parked).holder
  rw [own] at held
  change (s.ends side).holder.live poisoned = true at there
  simp only [held, Holder.live, Bool.not_eq_true'] at there
  exact surviving_eq_some.mpr ⟨parked, there⟩

theorem Control.bereft (control : Control none s)
    (grows : ∀ inst, s.poisoned inst = true → poisoned inst = true) (open_ : s.dropped = false) :
    Control none (bereft s poisoned abandonReason) where
  pending p parked := by
    obtain ⟨before, running⟩ := surviving_eq_some.mp parked
    have slot := control.pending p before
    obtain ⟨i, held⟩ := slot.holder
    exact
      { open_ := slot.open_
        closure := slot.closure
        current := slot.current
        live := by
          change (s.ends p.buffer.side).holder.live poisoned = true
          simp [held, Holder.live, running]
        holder := slot.holder
        copying := slot.copying
        event := slot.event }
  parked side there busy quiet _ := by
    obtain ⟨p, parked, own⟩ := control.parked side (bereft_exists abandonReason grows there) busy quiet (by simp)
    exact ⟨p, control.surviving there parked own, own⟩
  event side event there armed := by
    have before := control.event side event (bereft_exists abandonReason grows there) armed
    cases event with
    | streamEvent result reclaim buffer =>
        obtain ⟨stream, busy, current, late, clears⟩ := before
        refine ⟨stream, busy, current, late, fun reset => ?_⟩
        obtain ⟨p, parked, own⟩ := clears reset
        exact ⟨p, control.surviving there parked own, own⟩
    | futureEvent result buffer => exact before
    | futureAbandoned reason => simp [EventFits, open_] at before
    | idleDrop reason => simp [EventFits, open_] at before
  starts := by simp
  sync side i there waits := control.sync side i (bereft_exists abandonReason grows there) waits
  transit := control.transit

theorem Inv.bereft (inv : Inv none s)
    (grows : ∀ inst, s.poisoned inst = true → poisoned inst = true) (open_ : s.dropped = false) :
    Inv none (bereft s poisoned abandonReason) where
  placement := inv.placement.congr rfl (fun _ => rfl) fun _ => rfl
  control := inv.control.bereft grows open_
  accounting := inv.accounting.congr ⟨rfl, rfl, rfl, rfl, rfl, fun _ => Iff.rfl, fun _ => rfl⟩
  future future :=
    (inv.future future).congr rfl rfl rfl rfl (fun _ => Iff.rfl) (fun _ => Iff.rfl)
      (fun _ _ armed => armed)
      (fun moved => by
        have free := ((inv.future future).copied moved).2.1
        change StreamInvariant.surviving poisoned s.pending = none
        simp [free, StreamInvariant.surviving]) id
      fun gone _ => by
        change s.dropped = true at gone
        simp [open_] at gone

end Bereft

theorem mem_endsIn {s : State layer} {inst : Nat} {side : Side} :
    side ∈ endsIn s inst ↔ ∃ i, (s.ends side).holder = .held inst i := by
  unfold endsIn
  cases reader : (s.ends .readable).holder <;> cases writer : (s.ends .writable).holder <;>
    cases side <;> simp only [reader, writer] <;> (try split) <;> (try split) <;> (try split) <;>
    simp_all

theorem teardown_rest_meets {ends : List Side} {s : State layer}
    {post : Unit → State layer → Prop} (gone : s.dropped = true) (holds : post () s) :
    (ends.forM fun side => dropSharedForTeardown (some side)).Meets (Permitted layer) post s := by
  induction ends with
  | nil => exact holds
  | cons side ends ih =>
      rw [List.forM]
      simp only [Program.meets_bind, dropSharedForTeardown, Program.meets_get, Program.meets_ite,
        Program.meets_pure]
      exact ⟨fun _ => ih, fun open_ => absurd gone open_⟩

theorem Stable.poison {s : State layer} {poisoned : Nat → Bool} (stable : Stable s)
    (grows : ∀ inst, s.poisoned inst = true → poisoned inst = true)
    (left : s.dropped = true ∨
      ∀ side, s.Exists side → (s.ends side).holder.live poisoned = true) :
    Stable { s with poisoned } := by
  have exists_ : ∀ {side}, ({ s with poisoned } : State layer).Exists side → s.Exists side :=
    bereft_exists s.abandonReason grows
  have control := stable.inv.control
  exact
    { inv :=
        { placement := stable.inv.placement.congr rfl (fun _ => rfl) fun _ => rfl
          control :=
            { pending := fun p parked => by
                have slot := control.pending p parked
                have survives := left.resolve_left (by simp [slot.open_])
                exact
                  { open_ := slot.open_, closure := slot.closure, current := slot.current,
                    live := survives _ slot.live, holder := slot.holder,
                    copying := slot.copying, event := slot.event }
              parked := fun side there => control.parked side (exists_ there)
              event := fun side event there armed => by
                have before := control.event side event (exists_ there) armed
                cases event <;> exact before
              starts := by simp
              sync := fun side i there => control.sync side i (exists_ there)
              transit := control.transit }
          accounting := stable.inv.accounting.congr
            ⟨rfl, rfl, rfl, rfl, rfl, fun _ => Iff.rfl, fun _ => rfl⟩
          future := fun future =>
            (stable.inv.future future).congr rfl rfl rfl rfl (fun _ => Iff.rfl)
              (fun _ => Iff.rfl) (fun _ _ armed => armed)
              (fun moved => ((stable.inv.future future).copied moved).2.1) id
              fun gone unexplained =>
                ((stable.inv.future future).abandoned gone unexplained).imp_right
                  fun absent there => absent (exists_ there) }
      observed := fun gone side there => stable.observed gone side (exists_ there)
      gone := fun side absent => by
        rcases left with gone | survives
        · exact gone
        · exact stable.gone side fun there => absent (survives side there)
      resting := stable.resting }

/-- The reason that a torn down instance leaves to the reader of its future. -/
def retireReason (s : State layer) (inst : Nat) (reason : String) : Option String :=
  if s.kind = .future ∧ .writable ∈ endsIn s inst ∧ (s.ends .writable).state ≠ .done ∧
      s.dropped = false then
    s.abandonReason <|> some reason
  else s.abandonReason

theorem poisoned_grows {s : State layer} {inst other : Nat} (dead : s.poisoned other = true) :
    Function.update s.poisoned inst true other = true := by
  rcases eq_or_ne other inst with rfl | different
  · simp
  · simpa [different] using dead

theorem teardown_meets {s : State layer} {inst : Nat} {reason : String} {side : Side}
    (stable : Stable s) (open_ : s.dropped = false) (member : side ∈ endsIn s inst) :
    (dropSharedForTeardown (some side)).Meets (Permitted layer)
      (fun _ s' => s'.dropped = true ∧ Stable s')
      { s with poisoned := Function.update s.poisoned inst true,
               abandonReason := retireReason s inst reason } := by
  have inv : Inv none (bereft s (Function.update s.poisoned inst true)
      (retireReason s inst reason)) := stable.inv.bereft (fun _ => poisoned_grows) open_
  have gone_ : ∀ lost ∈ endsIn s inst, ¬(bereft s (Function.update s.poisoned inst true)
      (retireReason s inst reason)).Exists lost := by
    intro lost there
    obtain ⟨i, held⟩ := mem_endsIn.mp there
    change ¬(s.ends lost).holder.live (Function.update s.poisoned inst true) = true
    simp [held, Holder.live]
  have explained : Explained (bereft s (Function.update s.poisoned inst true)
      (retireReason s inst reason)) := by
    intro future unexplained
    change s.kind = .future at future
    change retireReason s inst reason = none at unexplained
    by_cases writing : .writable ∈ endsIn s inst
    · by_cases done : (s.ends .writable).state = .done
      · exact .inl (((stable.inv.future future).finished .writable done).resolve_right
          (by simp [open_]))
      · simp [retireReason, future, writing, done, open_] at unexplained
    · refine .inr (gone_ .readable ?_)
      cases side with
      | readable => exact member
      | writable => exact absurd member writing
  have dropped := drop_meets (some side) inv
    (fun gone => by
      change s.dropped = true at gone
      simp [open_] at gone)
    (fun _ => explained) fun lost same => Option.some.inj same ▸ gone_ side member
  have done := dropped.imp fun _ s' dropped => And.intro dropped.gone (dropped.stable stable.resting)
  simp only [dropSharedForTeardown, Program.meets_bind, Program.meets_get, Program.meets_ite]
  refine ⟨fun gone => by simp [open_] at gone, fun _ => ?_⟩
  cases parked : s.pending with
  | none =>
      simpa only [bereft, parked, surviving, Option.filter_none, Program.meets_pure] using done
  | some p =>
      simp only [Program.meets_ite]
      refine ⟨fun dead => ?_, fun running => ?_⟩
      · rw [resetPending, Program.meets_bind, Program.meets_modify]
        have retracted : surviving (Function.update s.poisoned inst true) (some p) = none := by
          simp [surviving, dead]
        simpa only [bereft, parked, retracted] using done
      · have kept : surviving (Function.update s.poisoned inst true) (some p) = some p :=
          surviving_eq_some.mpr ⟨rfl, by simpa using running⟩
        simpa only [bereft, parked, kept] using done

theorem retireInstanceAsyncEnds_meets {s : State layer} {inst : Nat} {reason : String}
    (stable : Stable s) :
    (retireInstanceAsyncEnds inst reason).Meets (Permitted layer) (fun _ s' => Stable s') s := by
  have same : endsIn { s with poisoned := Function.update s.poisoned inst true } inst =
      endsIn s inst := rfl
  -- The state after the reason is recorded, whether or not there is one.
  suffices recorded : ((endsIn s inst).forM fun side => dropSharedForTeardown (some side)).Meets
      (Permitted layer) (fun _ s' => Stable s')
      { s with poisoned := Function.update s.poisoned inst true,
               abandonReason := retireReason s inst reason } by
    simp only [retireInstanceAsyncEnds, Program.meets_bind, Program.meets_modify,
      Program.meets_get, Program.meets_ite, same]
    by_cases abandons : s.kind = .future ∧ .writable ∈ endsIn s inst ∧
        (s.ends .writable).state ≠ .done ∧ s.dropped = false
    · rw [retireReason, if_pos abandons] at recorded
      exact ⟨fun _ => recorded, fun other => absurd abandons other⟩
    · rw [retireReason, if_neg abandons] at recorded
      exact ⟨fun other => absurd other abandons, fun _ => recorded⟩
  cases ends : endsIn s inst with
  | nil =>
      have reasonless : retireReason s inst reason = s.abandonReason := by
        simp [retireReason, ends]
      rw [reasonless]
      refine stable.poison (fun _ => poisoned_grows) (.inr fun side live => ?_)
      rw [State.Exists] at live
      cases place : (s.ends side).holder with
      | held other i =>
          have different : other ≠ inst := by
            rintro rfl
            have member : side ∈ endsIn s other := mem_endsIn.mpr ⟨i, place⟩
            rw [ends] at member
            cases member
          simpa [place, Holder.live, different] using live
      | transit => rfl
      | removed => simp [place, Holder.live] at live
  | cons side rest =>
      by_cases gone : s.dropped = true
      · have reasonless : retireReason s inst reason = s.abandonReason := by
          simp [retireReason, gone]
        rw [reasonless]
        exact teardown_rest_meets gone (stable.poison (fun _ => poisoned_grows) (.inl gone))
      · have member : side ∈ endsIn s inst := by rw [ends]; exact List.mem_cons_self
        rw [List.forM, Program.meets_bind]
        refine (teardown_meets stable (by simpa using gone) member).imp fun _ s' dropped => ?_
        exact teardown_rest_meets dropped.1 dropped.2

/-! ## The environment's own steps -/

theorem Stable.environment {s : State layer} (stable : Stable s) (memories : Nat → MemInst)
    (mayLeave : Nat → Bool)
    (addrType : ∀ memory, (memories memory).addrType = (s.memories memory).addrType) :
    Stable { s with memories, mayLeave } where
  inv :=
    { placement := stable.inv.placement.congr rfl (fun _ => rfl) fun _ => rfl
      control := stable.inv.control.congr
        { kind := rfl, dropped := rfl, abandonReason := rfl, pending := rfl, copies := rfl,
          poisoned := rfl, copying := fun _ => Iff.rfl, idle := fun _ => Iff.rfl,
          event := fun _ => rfl, wset := fun _ => rfl, syncWaiter := fun _ => rfl,
          index := fun _ => rfl, holder := fun _ => rfl, remain := fun _ _ _ _ _ => rfl }
      accounting := stable.inv.accounting.congr
        ⟨rfl, rfl, rfl, rfl, rfl, fun _ => Iff.rfl, addrType⟩
      future := fun future =>
        (stable.inv.future future).congr rfl rfl rfl rfl (fun _ => Iff.rfl) (fun _ => Iff.rfl)
          (fun _ _ armed => armed) (fun moved => ((stable.inv.future future).copied moved).2.1) id
          (stable.inv.future future).abandoned }
  observed := stable.observed
  gone := stable.gone
  resting := stable.resting

theorem guestMemory_meets {s : State layer} {memory length : Nat} {byte : Nat → UInt8}
    (stable : Stable s) :
    (guestMemory memory length byte).Meets (Permitted layer) (fun _ s' => Stable s') s := by
  simp only [guestMemory, Program.meets_bind, Program.meets_modify, Program.meets_pure]
  refine stable.environment _ s.mayLeave fun other => ?_
  rcases eq_or_ne other memory with rfl | different
  · simp
  · simp [different]

theorem Stable.retable {s : State layer} {inst : Nat} {table : Table Entry} (stable : Stable s)
    (valid : table.Valid)
    (entries : ∀ i side, table.entry i = some (.copyEnd side) ↔
      (s.tables inst).entry i = some (.copyEnd side)) :
    Stable { s with tables := Function.update s.tables inst table } := by
  have placement : Placement { s with tables := Function.update s.tables inst table } :=
    { tables := fun other => by
        rcases eq_or_ne other inst with rfl | different
        · simpa using valid
        · simpa [different] using stable.inv.placement.tables other
      entry := fun other i side => by
        rw [← stable.inv.placement.entry other i side]
        rcases eq_or_ne other inst with rfl | different
        · simpa using entries i side
        · simp [different]
      index := stable.inv.placement.index
      transit := stable.inv.placement.transit }
  exact
    { inv :=
        { placement
          control := stable.inv.control.congr
            { kind := rfl, dropped := rfl, abandonReason := rfl, pending := rfl, copies := rfl,
              poisoned := rfl, copying := fun _ => Iff.rfl, idle := fun _ => Iff.rfl,
              event := fun _ => rfl, wset := fun _ => rfl, syncWaiter := fun _ => rfl,
              index := fun _ => rfl, holder := fun _ => rfl, remain := fun _ _ _ _ _ => rfl }
          accounting := stable.inv.accounting.congr
            ⟨rfl, rfl, rfl, rfl, rfl, fun _ => Iff.rfl, fun _ => rfl⟩
          future := fun future =>
            (stable.inv.future future).congr rfl rfl rfl rfl (fun _ => Iff.rfl)
              (fun _ => Iff.rfl) (fun _ _ armed => armed)
              (fun moved => ((stable.inv.future future).copied moved).2.1) id
              (stable.inv.future future).abandoned }
      observed := stable.observed
      gone := stable.gone
      resting := stable.resting }

theorem addHandle_meets {s : State layer} {inst : Nat} {e : Option Nat} (stable : Stable s) :
    (addHandle inst e).Meets (Permitted layer) (fun _ s' => Stable s') s := by
  simp only [StreamRun.addHandle, Program.meets_bind, Program.meets_get, Program.meets_lift,
    Fallible.satisfies_iff, Program.meets_modify, Program.meets_pure]
  refine ⟨fun result added => ?_, fun failure failed =>
    permitted_of_isTrap failure (Table.add_error_isTrap (stable.inv.placement.tables inst) failed)⟩
  obtain ⟨i, table⟩ := result
  obtain ⟨vacant, valid, entries⟩ := Table.add_ok (stable.inv.placement.tables inst) added
  refine stable.retable valid fun j side => ?_
  rw [entries]
  split
  · rename_i same
    subst same
    cases e <;> simp [vacant]
  · rfl

theorem removeHandle_meets {s : State layer} {inst i : Nat} (stable : Stable s) :
    (removeHandle inst i).Meets (Permitted layer) (fun _ s' => Stable s') s := by
  have removes : (∀ side, (s.tables inst).entry i ≠ some (.copyEnd side)) →
      (do
        let removed ← (liftM ((s.tables inst).remove i) :
          StreamProgram layer (Entry × Table Entry))
        modify fun s => { s with tables := Function.update s.tables inst removed.2 }
        pure .unit : StreamProgram layer Outcome).Meets (Permitted layer)
        (fun _ s' => Stable s') s := by
    intro foreign
    simp only [Program.meets_bind, Program.meets_lift, Fallible.satisfies_iff,
      Program.meets_modify, Program.meets_pure]
    refine ⟨fun result removed => ?_, fun failure failed =>
      permitted_of_isTrap failure (Table.remove_error_isTrap failed)⟩
    obtain ⟨e, table⟩ := result
    obtain ⟨found, valid, entries⟩ := Table.remove_ok (stable.inv.placement.tables inst) removed
    refine stable.retable valid fun j side => ?_
    rw [entries]
    split
    · rename_i same
      subst same
      simp [foreign side]
    · rfl
  simp only [removeHandle, Program.meets_bind, Program.meets_get]
  cases entry : (s.tables inst).entry i with
  | none => exact removes fun side => by simp [entry]
  | some e =>
      cases e with
      | copyEnd side => exact stable
      | waitableSet identity => exact removes fun side => by simp [entry]
      | other => exact removes fun side => by simp [entry]

/-! ## Steps and runs -/

theorem step_meets (action : Action layer) (s : State layer) (stable : Stable s) :
    (step action).Meets (Permitted layer) (fun _ s' => Stable s') s := by
  simp only [step, Program.meets_bind, Program.meets_get, Program.meets_ite, Program.meets_pure]
  refine ⟨fun _ => stable, fun running => ?_⟩
  have runs : ∀ inst ∈ action.actors, s.poisoned inst = false := fun inst member => by
    cases dead : s.poisoned inst with
    | false => rfl
    | true => exact absurd (List.any_eq_true.mpr ⟨inst, member, dead⟩) running
  cases action with
  | copy kind side call =>
      have live := runs call.inst (by simp [Action.actors])
      cases kind with
      | stream => exact streamCopy_meets stable live
      | future => exact futureCopy_meets stable live
  | cancel kind side call =>
      exact (cancelCopy_meets stable (runs call.inst (by simp [Action.actors]))).mono
        permitted_of_isTrap fun _ _ cancelled => cancelled.stable
  | drop kind side elem inst hi =>
      exact dropEnd_meets stable (runs inst (by simp [Action.actors]))
  | join inst wi si => exact waitableJoin_meets stable
  | deliver wset side => exact deliver_meets stable
  | resume side => exact resume_meets stable
  | abandonWait side => exact abandonWait_meets stable
  | transfer kind srcInst dstInst srcElem dstElem srcIdx =>
      exact transferAsyncEnd_meets stable (runs srcInst (by simp [Action.actors]))
        (runs dstInst (by simp [Action.actors]))
  | lift kind inst i elem =>
      exact liftAsyncValue_meets stable (runs inst (by simp [Action.actors]))
  | lower inst declared => exact lower_meets stable (runs inst (by simp [Action.actors]))
  | release => exact release_meets stable
  | retire inst reason =>
      simp only [Program.meets_bind, Program.meets_pure]
      exact retireInstanceAsyncEnds_meets stable
  | addHandle inst e => exact addHandle_meets stable
  | removeHandle inst i => exact removeHandle_meets stable
  | guestMemory memory length byte => exact guestMemory_meets stable
  | setMayLeave inst mayLeave =>
      simp only [Program.meets_bind, Program.meets_modify, Program.meets_pure]
      exact stable.environment s.memories _ fun _ => rfl

theorem State.create_stable {environment : Environment} {kind : Kind} {t : Option layer.Elem}
    (valid : environment.Valid) : Stable (State.create environment kind t) := by
  have idle : ∀ side, ¬((State.create environment kind t).ends side).copying := fun side => by
    simp [State.create, CopyEnd.create, CopyEnd.copying]
  refine
    { inv :=
        { placement := ?_, control := ?_, accounting := ?_, future := fun _ => ?_ }
      observed := fun gone => by simp [State.create] at gone
      gone := fun side absent => absurd rfl absent
      resting := fun side => by simp [State.create, CopyEnd.create] }
  · exact
      { tables := valid.tables
        entry := fun inst i side => by
          simp [State.create, CopyEnd.create, valid.unknown inst i side]
        index := fun side inst i held => by simp [State.create, CopyEnd.create] at held
        transit := fun _ _ => rfl }
  · exact
      { pending := fun p parked => by simp [State.create] at parked
        parked := fun side _ busy => absurd busy (idle side)
        event := fun side event _ armed => by simp [State.create, CopyEnd.create] at armed
        starts := by simp
        sync := fun side i _ waits => by simp [State.create, CopyEnd.create] at waits
        transit := fun _ _ => ⟨rfl, rfl, rfl⟩ }
  · exact
      { busy := fun side busy => absurd busy (idle side)
        ends_ := fun t member => by simp [State.create] at member
        ordered := .nil
        progress := fun ref => rfl
        bounded := fun ref => ⟨Nat.le_refl 0, Nat.zero_le _⟩
        cursor := fun ref elem _ => by simp [State.create]
        traced := fun earlier t later split => by simp [State.create] at split
        totals := fun _ side => by
          simp only [copiedTotal, reportedTotal, unreported, idle side, if_false]
          simp [State.create] }
  · exact
      { single := fun ref made => by simp [State.create] at made
        uncopied := fun _ _ => rfl
        copied := fun moved => absurd rfl moved
        earlier := fun _ _ => rfl
        finished := fun side finished => by simp [State.create, CopyEnd.create] at finished
        abandoned := fun gone => by simp [State.create] at gone
        told := fun side finished => by simp [State.create, CopyEnd.create] at finished
        reported := fun r member => by simp [State.create] at member }

theorem createNew_meets {s : State layer} {kind : Kind} {inst : Nat} (stable : Stable s)
    (running : s.poisoned inst = false)
    (fresh : ∀ side, (s.ends side).holder = .transit) :
    (createNew kind inst).Meets (Permitted layer) (fun _ s' => Stable s') s := by
  have enters : ∀ {s : State layer} {side : Side}, Stable s → s.poisoned inst = false →
      (s.ends side).holder = .transit → ∀ {i : Nat} {table : Table Entry},
      Placement (placed s inst i side table) → Stable (placed s inst i side table) := by
    intro s side stable running moving i table arrived
    obtain ⟨idle, alone, waiterless⟩ := stable.inv.control.transit side moving
    exact stable.resituate
      { placement := arrived
        state := rfl
        event := rfl
        live := fun _ => by simp [State.Exists, moving, Holder.live]
        settled := .inr (by simp [CopyEnd.copying, idle])
        sync := by simp [waiterless]
        transit := by simp } fun _ => by simp [Holder.live, running]
  simp only [createNew, Program.meets_bind, Program.meets_get, meets_trapIf, Program.meets_pure]
  refine ⟨fun _ => .trap _, fun _ => ?_⟩
  refine addEnd_meets stable.inv.placement (by simp [fresh]) fun ri table arrived => ?_
  have first := enters stable running (fresh .readable) arrived
  have moving : ((placed s inst ri .readable table).ends .writable).holder = .transit := by
    rw [placed, resituated_ends_ne (by simp)]
    exact fresh .writable
  refine addEnd_meets first.inv.placement (by simp [moving]) fun wi table' arrived' => ?_
  exact enters first running moving arrived'

theorem Reachable.stable {s : State layer} (reachable : Reachable s) : Stable s := by
  obtain ⟨environment, kind, t, inst, outcome, initial, valid, running, created, reached⟩ :=
    reachable
  have begun : Stable initial := Program.Meets.of_ok
    (createNew_meets (State.create_stable valid) running fun _ => rfl) created
  exact reached.invariant step_meets begun

end Polyengine.Intrinsics.StreamInvariant
