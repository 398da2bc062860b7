import Polyengine.Exec.DeliveryInterference

/-!
# Transferring a result

Acquiring the ownership in a result and starting its producers call into the host again and again.
Beside what these calls do to the pending call, the custody only gains acquisitions that have no
insertion yet.
-/

set_option autoImplicit false

namespace Polyengine.Exec

open Polyengine.Cabi Polyengine.Library Polyengine.Task Command

variable {Rest Guest : Type}

/-- Between two states other code has run; the custody of the lowering is not touched. -/
structure Around (state next : ImportState Rest Guest) : Prop where
  interfered : Interfered state.world.handles next.world.handles
  custody : next.world.custody = state.world.custody

namespace Around

theorem refl (state : ImportState Rest Guest) : Around state state where
  interfered := .refl _
  custody := rfl

theorem trans {first middle last : ImportState Rest Guest} (before : Around first middle)
    (after : Around middle last) : Around first last where
  interfered := before.interfered.trans after.interfered
  custody := after.custody.trans before.custody

instance : IsPreorder (ImportState Rest Guest) Around where
  refl := refl
  trans := fun _ _ _ => trans

end Around

theorem focus_around {Result : Type} {command : Command (ImportHandles Rest) Failure Result}
    (relates : Relates Interfered command) :
    Relates (@Around Rest Guest) (handlesIn.focus command) :=
  handlesIn.focus_relates relates fun _ _ interfered => ⟨interfered, rfl⟩

theorem Callback.run_around {Result : Type} (deferCancel : Bool)
    (callback : Callback Rest Guest Result) : Relates Around (callback.run deferCancel) := by
  unfold Callback.run
  apply Relates.bind
  · intro state
    exact ⟨interfere_interfered deferCancel callback.script state.world.handles, rfl⟩
  · intro _
    exact .lift callback.result

theorem checkDelivery_around :
    Relates Around (checkDelivery : Command (ImportState Rest Guest) Failure Unit) := by
  have read : Relates Interfered
      (hostIn.read : Command (ImportHandles Rest) Failure (ImportHost Rest)) := Interfered.refl
  apply focus_around
  apply read.bind
  intro host
  exact .lift _

theorem startProducers_around (lowered : Import Rest Guest)
    (producer : Nat → ImportState Rest Guest → Callback Rest Guest Unit) (starts : List Nat) :
    Relates Around (startProducers lowered producer starts) := by
  induction starts with
  | nil => exact .pure ()
  | cons start rest ih =>
      unfold startProducers
      apply checkDelivery_around.bind
      intro _
      apply Relates.get.bind
      intro state
      apply ((producer start state).run_around lowered.deferCancel).bind
      intro _
      apply checkDelivery_around.bind
      intro _
      exact ih

structure Fresh (custody : PreparedCustody) : Prop where
  uninserted : ∀ a ∈ custody.acquired, a.insertion = none
  unfinished : custody.finished = false

theorem Fresh.empty : Fresh PreparedCustody.empty where
  uninserted := by
    intro a member
    cases member
  unfinished := rfl

theorem Fresh.acquire {custody next : PreparedCustody} {cleanup : Cleanup} (fresh : Fresh custody)
    (acquired : custody.acquire cleanup = .ok next) : Fresh next := by
  rw [PreparedCustody.acquire, fresh.unfinished] at acquired
  cases acquired
  constructor
  · intro a member
    cases List.mem_append.mp member with
    | inl early => exact fresh.uninserted a early
    | inr late =>
        cases List.mem_singleton.mp late
        rfl
  · rfl

/-- The step of an acquisition. -/
structure Acquires (acquiring next : PreparedCustody × ImportState Rest Guest) : Prop where
  around : Around acquiring.2 next.2
  fresh : Fresh acquiring.1 → Fresh next.1

namespace Acquires

theorem refl (acquiring : PreparedCustody × ImportState Rest Guest) :
    Acquires acquiring acquiring where
  around := .refl acquiring.2
  fresh := id

theorem trans {first middle last : PreparedCustody × ImportState Rest Guest}
    (before : Acquires first middle) (after : Acquires middle last) : Acquires first last where
  around := before.around.trans after.around
  fresh := fun fresh => after.fresh (before.fresh fresh)

instance : IsPreorder (PreparedCustody × ImportState Rest Guest) Acquires where
  refl := refl
  trans := fun _ _ _ => trans

end Acquires

theorem beside_acquires {Result : Type} {command : Command (ImportState Rest Guest) Failure Result}
    (relates : Relates Around command) : Relates Acquires (beside.focus command) :=
  beside.focus_relates relates fun _ _ around => ⟨around, id⟩

theorem acquire_acquires (cleanup : Cleanup) :
    Relates Acquires (acquireOwnership cleanup : Acquiring (ImportState Rest Guest) Unit) := by
  intro acquiring
  obtain ⟨custody, state⟩ := acquiring
  simp only [acquireOwnership, ensures_bind, ensures_get, ensures_lift, ensures_set]
  cases acquired : custody.acquire cleanup with
  | error failure => exact .refl _
  | ok next => exact ⟨.refl state, fun fresh => fresh.acquire acquired⟩

section Raw

theorem acquireLeaf_acquires {checkpoint : Command (ImportState Rest Guest) Failure Unit}
    (relates : Relates Around checkpoint) (cleanup : Cleanup) :
    Relates Acquires (acquireLeaf checkpoint cleanup) := by
  intro acquiring
  obtain ⟨custody, state⟩ := acquiring
  have around := relates.outcome state
  simp only [acquireLeaf, ensures_bind, ensures_get, ensures_set, ensures_lift]
  cases (checkpoint.outcome state).1 with
  | error failure => exact ⟨around, id⟩
  | ok _ =>
      cases acquired : custody.acquire cleanup with
      | error failure => exact ⟨around, id⟩
      | ok next => exact ⟨around, fun fresh => fresh.acquire acquired⟩

theorem acquireElements_acquires {acquireElement : Value → Acquiring (ImportState Rest Guest) Unit}
    (relates : ∀ v, Relates Acquires (acquireElement v)) (elements : List Value) :
    Relates Acquires (acquireElements acquireElement elements) := by
  induction elements with
  | nil => exact .pure ()
  | cons e rest ih =>
      apply (relates e).bind
      intro _
      exact ih

variable {checkpoint : Command (ImportState Rest Guest) Failure Unit}

mutual

theorem acquireRawValue_acquires (relates : Relates Around checkpoint) (v : Value) (d : DespecializedValType) :
    Relates Acquires (acquireRawValue checkpoint v d) := by
  rw [acquireRawValue.eq_def]
  apply Relates.ite _ (.pure ())
  cases d with
  | own rt =>
      apply (Relates.lift (asRep v)).bind
      intro rep
      exact acquireLeaf_acquires relates _
  | stream element =>
      apply (Relates.lift (asShared v)).bind
      intro shared
      exact acquireLeaf_acquires relates _
  | future element =>
      apply (Relates.lift (asShared v)).bind
      intro shared
      exact acquireLeaf_acquires relates _
  | list element length =>
      apply (Relates.lift (arrayLike v)).bind
      intro elements
      exact acquireElements_acquires (fun e => acquireRawValue_acquires relates e element) elements
  | record fields => exact acquireFields_acquires relates v fields
  | variant cases =>
      cases v with
      | variant kind value => exact acquireCase_acquires relates kind value cases
      | _ => exact .throw _
  | _ => exact .pure ()

theorem acquireFields_acquires (relates : Relates Around checkpoint) (v : Value)
    (fields : List DespecializedFieldType) :
    Relates Acquires (acquireFields checkpoint v fields) := by
  cases fields with
  | nil =>
      rw [acquireFields]
      exact .pure ()
  | cons first rest =>
      obtain ⟨label, type⟩ := first
      rw [acquireFields]
      apply (Relates.lift (propertyOf v label)).bind
      intro value
      apply (acquireRawValue_acquires relates value type).bind
      intro _
      exact acquireFields_acquires relates v rest

theorem acquireCase_acquires (relates : Relates Around checkpoint) (kind : String) (value : Value)
    (cases' : List DespecializedCaseType) :
    Relates Acquires (acquireCase checkpoint kind value cases') := by
  cases cases' with
  | nil =>
      rw [acquireCase]
      exact .pure ()
  | cons first rest =>
      obtain ⟨label, content⟩ := first
      rw [acquireCase.eq_def]
      apply Relates.ite
      · cases content with
        | none => exact .pure ()
        | some type => exact acquireRawValue_acquires relates value type
      · exact acquireCase_acquires relates kind value rest

end

theorem acquireRawValues_acquires (relates : Relates Around checkpoint) (values : List Value)
    (ts : List ValType) : Relates Acquires (acquireRawValues checkpoint values ts) := by
  induction ts generalizing values with
  | nil => cases values <;> exact .pure ()
  | cons t ts ih =>
      cases values with
      | nil => exact .pure ()
      | cons v values =>
          apply (acquireRawValue_acquires relates v (despecialize t)).bind
          intro _
          exact ih values

end Raw

section Facade

variable (lowered : Import Rest Guest)
  (bridge : DespecializedValType → Value → ImportState Rest Guest →
    Callback Rest Guest (Nat × Option Nat))

theorem bridged_acquires (d : DespecializedValType) (v : Value) :
    Relates Acquires (bridged lowered bridge d v) := by
  unfold bridged
  apply (beside_acquires checkDelivery_around).bind
  intro _
  apply Relates.get.bind
  intro acquiring
  apply (beside_acquires ((bridge d v acquiring.2).run_around lowered.deferCancel)).bind
  intro outcome
  obtain ⟨handle, start⟩ := outcome
  cases start with
  | none => exact .pure _
  | some start =>
      apply Relates.bind
      · intro acquiring
        exact ⟨.refl acquiring.2, fun fresh => ⟨fresh.uninserted, fresh.unfinished⟩⟩
      · intro _
        exact .pure _

theorem transferElements_acquires
    {transferElement : Value → Acquiring (ImportState Rest Guest) Value}
    (relates : ∀ v, Relates Acquires (transferElement v)) (elements : List Value) :
    Relates Acquires (transferElements transferElement elements) := by
  induction elements with
  | nil => exact .pure []
  | cons e rest ih =>
      apply (relates e).bind
      intro e
      apply ih.bind
      intro rest
      exact .pure _

mutual

theorem transferPreparedValue_acquires (v : Value) (d : DespecializedValType) :
    Relates Acquires (transferPreparedValue lowered bridge v d) := by
  rw [transferPreparedValue.eq_def]
  apply Relates.ite _ (.pure v)
  cases d with
  | own rt =>
      apply (bridged_acquires lowered bridge _ v).bind
      intro rep
      apply (acquire_acquires _).bind
      intro _
      apply (beside_acquires checkDelivery_around).bind
      intro _
      exact .pure _
  | borrow rt =>
      apply (bridged_acquires lowered bridge _ v).bind
      intro rep
      exact .pure _
  | stream element =>
      apply (bridged_acquires lowered bridge _ v).bind
      intro shared
      apply (acquire_acquires _).bind
      intro _
      exact .pure _
  | future element =>
      apply (bridged_acquires lowered bridge _ v).bind
      intro shared
      apply (acquire_acquires _).bind
      intro _
      exact .pure _
  | list element length =>
      apply (Relates.lift (arrayLike v)).bind
      intro elements
      apply (transferElements_acquires
        (fun e => transferPreparedValue_acquires e element) elements).bind
      intro values
      exact .pure _
  | record fields =>
      apply (transferFields_acquires v fields).bind
      intro fields
      exact .pure _
  | variant cases =>
      cases v with
      | variant kind value =>
          apply (transferCase_acquires kind value cases).bind
          intro value
          exact .pure _
      | _ => exact .throw _
  | _ => exact .pure v

theorem transferFields_acquires (v : Value) (fields : List DespecializedFieldType) :
    Relates Acquires (transferFields lowered bridge v fields) := by
  cases fields with
  | nil =>
      rw [transferFields]
      exact .pure []
  | cons first rest =>
      obtain ⟨label, type⟩ := first
      rw [transferFields]
      apply (Relates.lift (propertyOf v label)).bind
      intro value
      apply (transferPreparedValue_acquires value type).bind
      intro value
      apply (transferFields_acquires v rest).bind
      intro fields
      exact .pure _

theorem transferCase_acquires (kind : String) (value : Value)
    (cases' : List DespecializedCaseType) :
    Relates Acquires (transferCase lowered bridge kind value cases') := by
  cases cases' with
  | nil =>
      rw [transferCase]
      exact .pure value
  | cons first rest =>
      obtain ⟨label, content⟩ := first
      rw [transferCase.eq_def]
      apply Relates.ite
      · cases content with
        | none => exact .pure value
        | some type => exact transferPreparedValue_acquires value type
      · exact transferCase_acquires kind value rest

end

theorem transferPreparedValues_acquires (values : List Value) (ts : List ValType)
    (acquiring : PreparedCustody × ImportState Rest Guest) :
    Ensures (fun _ next => Acquires acquiring next) (transferPreparedValues lowered bridge values ts)
      (fun transferred next => transferred.length = values.length ∧ Acquires acquiring next)
      acquiring := by
  induction ts generalizing values acquiring with
  | nil => cases values <;> exact ⟨rfl, .refl acquiring⟩
  | cons t ts ih =>
      cases values with
      | nil => exact ⟨rfl, .refl acquiring⟩
      | cons v values =>
          simp only [transferPreparedValues, ensures_bind, ensures_pure]
          apply (transferPreparedValue_acquires lowered bridge v (despecialize t) acquiring).imp
          intro transferred middle first
          apply (ih values middle).mono
          · intro failure next later
            exact first.trans later
          · intro rest next later
            exact ⟨congrArg Nat.succ later.1, first.trans later.2⟩

theorem transferValues_acquires (transfer : Transfer Rest Guest) (values : List Value)
    (acquiring : PreparedCustody × ImportState Rest Guest) :
    Ensures (fun _ next => Acquires acquiring next) (transferValues lowered transfer values)
      (fun transferred next => transferred.length = values.length ∧ Acquires acquiring next)
      acquiring := by
  cases transfer with
  | free => exact ⟨rfl, .refl acquiring⟩
  | raw =>
      simp only [transferValues, ensures_bind, ensures_pure]
      apply (acquireRawValues_acquires checkDelivery_around values lowered.results acquiring).imp
      intro _ next reached
      exact ⟨trivial, reached⟩
  | facade bridge _ => exact transferPreparedValues_acquires lowered bridge values _ acquiring

end Facade

end Polyengine.Exec
