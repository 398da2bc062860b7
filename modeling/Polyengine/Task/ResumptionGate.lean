import Polyengine.Task.ActivationBrackets

/-!
# The resumption gate

Which owners are owed a turn, told from the events of a run, and when `pendingResumptions` names
exactly these.
-/

set_option autoImplicit false

namespace Polyengine.Task

open Polyengine.Library

namespace Ambient

/-! ## The turns that are owed -/

/-- The owners that are owed a turn after the action: the resumption of a suspension point adds its
owner; executing a built-in, parking, finishing and failing end the turn of an owner. -/
def owedAfter (identities : Identities) (action : Action) (ambient : Ambient)
    (owed : Finset Nat) : Finset Nat :=
  match action with
  | .resumePoint index executing =>
      match ambient.waiting[index]? with
      | none => owed
      | some point =>
          let ran :=
            match executing with
            | some t => owed.erase (ambient.physicalOwnerOf t)
            | none => owed
          match point.owner with
          | some owner => insert owner ran
          | none => ran
  | .builtin t | .settle t => owed.erase (ambient.physicalOwnerOf t)
  | .block task =>
      match ambient.resolveAmbient <|> ambient.implicitThread task with
      | some t => owed.erase (ambient.physicalOwnerOf t)
      | none => owed
  | .close true =>
      match ambient.brackets with
      | { kind := .resume, thread, .. } :: _ => owed.erase thread
      | _ => owed
  | _ => owed

def owed (identities : Identities) : List Action → Ambient → Finset Nat → Finset Nat
  | [], _, turns => turns
  | action :: actions, ambient, turns =>
      owed identities actions (step identities action ambient)
        (owedAfter identities action ambient turns)

/-- The thread that the action parks or ends. -/
def subject (action : Action) (ambient : Ambient) : Option Nat :=
  match action with
  | .settle t => some t
  | .block task => ambient.resolveAmbient <|> ambient.implicitThread task
  | .close true =>
      match ambient.brackets with
      | { kind := .resume, thread, .. } :: _ => some thread
      | _ => none
  | _ => none

/-- A thread that parks or ends takes no entry and no claim of another thread with it, except the
claims of the nested calls that it aborts. -/
def KeepsOthers (identities : Identities) (action : Action) (ambient : Ambient) : Prop :=
  ∀ t, subject action ambient = some t →
    (∀ owner ∈ ambient.pendingResumptions, owner ≠ ambient.physicalOwnerOf t →
      owner ∈ (step identities action ambient).pendingResumptions) ∧
    (∀ other ∈ ambient.activationClaims, other ≠ t →
      other ∉ ambient.logicalDescendants (ambient.physicalOwnerOf t) →
      other ∈ (step identities action ambient).activationClaims)

/-! ## What the callers keep -/

/-- The scheduler resumes only threads with a body of their own; the thread and the task of a nested
call are new; a task gets its implicit thread once; a built-in blocks in the `withActivation` of its
caller, on a stack that a thread with a body has entered; a built-in that resumes a suspension point
runs under the bracket or the claim of the executing thread. -/
def Scheduled (identities : Identities) (action : Action) (ambient : Ambient) : Prop :=
  Possible action ambient ∧
  match action with
  | .resume t => ambient.isLogical t = false
  | .enterImplicitThread task _ => ambient.implicitThread task = none
  | .enter t | .enterDeferred t _ =>
      t ∉ ambient.pendingResumptions ∧ (∀ point ∈ ambient.waiting, point.owner ≠ some t) ∧
        ambient.implicitThread (identities.task t) = none
  | .block _ => ∃ bracket outer, ambient.brackets = bracket :: outer ∧
      bracket.kind = .activation ∧
      ambient.isLogical (ambient.physicalOwnerOf bracket.thread) = false
  | .resumePoint _ (some t) => ambient.activationOf = some t
  | _ => True

/-- The implicit thread of the task of `t` has no claim that the release of `t` could take for one
of its own. -/
def ClaimsApart (identities : Identities) (ambient : Ambient) (t : Nat) : Prop :=
  t ∈ ambient.activationClaims ∨
    ∀ implicit, ambient.implicitThread (identities.task t) = some implicit → implicit ≠ t →
      implicit ∉ ambient.activationClaims

/-- The steps at which the gate stays exact. -/
def Orderly (identities : Identities) (action : Action) (ambient : Ambient) : Prop :=
  (∀ t, subject action ambient = some t → ClaimsApart identities ambient t) ∧
  match action with
  | .builtin t => ambient.physicalOwnerOf t ∉ ambient.pendingResumptions
  | .resumePoint _ none => ∀ t, ambient.activationOf = some t →
      ambient.physicalOwnerOf t ∉ ambient.pendingResumptions
  | .settle t => ∀ implicit, ambient.implicitThread (identities.task t) = some implicit →
      ambient.physicalOwnerOf implicit ≠ ambient.physicalOwnerOf t →
      ambient.physicalOwnerOf implicit ∉ ambient.pendingResumptions
  | _ => True

/-! ## The owners -/

/-- No nested call is owed a turn, and the task of a nested call has its thread as implicit one. -/
structure Owners (identities : Identities) (ambient : Ambient) : Prop where
  pending : ∀ owner ∈ ambient.pendingResumptions, ambient.isLogical owner = false
  waiting : ∀ point ∈ ambient.waiting, ∀ owner, point.owner = some owner →
    ambient.isLogical owner = false
  implicit : ∀ t, ambient.isLogical t = true →
    ambient.implicitThread (identities.task t) = some t
  resumed : ∀ bracket ∈ ambient.brackets, bracket.kind = .resume →
    ambient.isLogical bracket.thread = false

/-- The gate, the suspension points and the brackets are left alone. -/
structure SameGate (before after : Ambient) : Prop where
  logical : ∀ t, after.isLogical t = before.isLogical t
  implicit : after.implicitThread = before.implicitThread
  pending : after.pendingResumptions = before.pendingResumptions
  waiting : after.waiting = before.waiting
  brackets : after.brackets = before.brackets

theorem SameGate.refl (ambient : Ambient) : SameGate ambient ambient :=
  ⟨fun _ => rfl, rfl, rfl, rfl, rfl⟩

theorem SameGate.trans {first second third : Ambient} (left : SameGate first second)
    (right : SameGate second third) : SameGate first third where
  logical t := (right.logical t).trans (left.logical t)
  implicit := right.implicit.trans left.implicit
  pending := right.pending.trans left.pending
  waiting := right.waiting.trans left.waiting
  brackets := right.brackets.trans left.brackets

theorem SameGate.owners {identities : Identities} {before after : Ambient}
    (same : SameGate before after) (owners : Owners identities before) :
    Owners identities after where
  pending owner member := by
    rw [same.pending] at member
    exact (same.logical owner).trans (owners.pending owner member)
  waiting point member owner found := by
    rw [same.waiting] at member
    exact (same.logical owner).trans (owners.waiting point member owner found)
  implicit t logical := by
    rw [same.logical t] at logical
    rw [same.implicit]
    exact owners.implicit t logical
  resumed bracket member kind := by
    rw [same.brackets] at member
    exact (same.logical _).trans (owners.resumed bracket member kind)

theorem Owners.remove {identities : Identities} {ambient : Ambient}
    (owners : Owners identities ambient) (t : Nat) :
    Owners identities (ambient.removePendingResumption t) :=
  ⟨fun owner member => owners.pending owner (Finset.mem_of_mem_erase member), owners.waiting,
    owners.implicit, owners.resumed⟩

section Operations

variable (identities : Identities) (ambient : Ambient)

theorem claimActivationAmbient_gate (t : Nat) :
    SameGate ambient (ambient.claimActivationAmbient t) := by
  rw [claimActivationAmbient]
  split
  · exact .refl ambient
  · exact ⟨fun _ => rfl, rfl, rfl, rfl, rfl⟩

theorem releaseActivationAmbient_gate (t : Nat) :
    SameGate ambient (ambient.releaseActivationAmbient identities t) := by
  rw [releaseActivationAmbient]
  split
  · exact ⟨fun _ => rfl, rfl, rfl, rfl, rfl⟩
  · split
    · exact ⟨fun _ => rfl, rfl, rfl, rfl, rfl⟩
    · exact .refl ambient

theorem popLogicalActivation_gate (t : Nat) :
    SameGate ambient (ambient.popLogicalActivation identities t) := by
  rw [popLogicalActivation]
  split
  · exact ⟨fun _ => rfl, rfl, rfl, rfl, rfl⟩
  · exact ambient.releaseActivationAmbient_gate identities t

theorem deactivate_gate {ambient : Ambient} {t : Nat} {activation : LogicalActivation}
    (found : ambient.logicalActivation t = some activation) :
    SameGate ambient (ambient.deactivate t activation) :=
  ⟨(deactivate_same found).logical, rfl, rfl, rfl, rfl⟩

theorem finish_gate (t : Nat) : SameGate ambient (ambient.finish identities t) := by
  rw [finish]
  split
  next activation found =>
    split
    · have popped : SameGate ambient
          ((ambient.deactivate t activation).popLogicalActivation identities t) :=
        (deactivate_gate found).trans (popLogicalActivation_gate identities _ t)
      dsimp only
      split
      · split
        · exact popped
        · exact popped.trans (claimActivationAmbient_gate _ _)
      · exact popped
    · exact .refl ambient
  next => exact .refl ambient

variable {identities ambient}

theorem abort_gate (owners : Owners identities ambient) (t : Nat) :
    SameGate ambient (ambient.abort t) := by
  rw [abort]
  split
  next activation found =>
    split
    · have absent : t ∉ ambient.pendingResumptions := by
        intro member
        have logical := owners.pending t member
        simp [isLogical, found] at logical
      have removed : ambient.removePendingResumption t = ambient := by
        rw [removePendingResumption, Finset.erase_eq_of_notMem absent]
      rw [removed]
      exact deactivate_gate found
    · exact .refl ambient
  next => exact .refl ambient

theorem abortChild_gate (owners : Owners identities ambient) (t : Nat) :
    SameGate ambient (ambient.abortChild identities t) :=
  (abort_gate owners t).trans (releaseActivationAmbient_gate identities _ t)

theorem abortAll_gate (owners : Owners identities ambient) (children : List Nat) :
    SameGate ambient (children.foldl (abortChild identities) ambient) := by
  induction children generalizing ambient with
  | nil => exact .refl ambient
  | cons t children ih =>
      have first := abortChild_gate owners t
      exact first.trans (ih (first.owners owners))

theorem abortLogicalChildren_gate (owners : Owners identities ambient) (t : Nat) :
    SameGate ambient (ambient.abortLogicalChildren identities t) :=
  abortAll_gate owners _

/-! ## Claims of other threads -/

theorem release_keeps {t other : Nat} (member : other ∈ ambient.activationClaims)
    (distinct : other ≠ t) (apart : ClaimsApart identities ambient t) :
    other ∈ (ambient.releaseActivationAmbient identities t).activationClaims := by
  rw [releaseActivationAmbient]
  split
  next => exact (List.mem_erase_of_ne distinct).mpr member
  next unclaimed =>
    cases found : ambient.implicitThread (identities.task t) with
    | none => exact member
    | some implicit =>
        have same : other ≠ implicit := by
          rintro rfl
          rcases apart with claimed | free
          · exact unclaimed claimed
          · exact free other found distinct member
        exact (List.mem_erase_of_ne same).mpr member

theorem apart_of_logical (owners : Owners identities ambient) {t : Nat}
    (logical : ambient.isLogical t = true) : ClaimsApart identities ambient t := by
  refine .inr fun implicit found distinct => ?_
  rw [owners.implicit t logical] at found
  cases found
  exact absurd rfl distinct

theorem abort_claims (t : Nat) :
    (ambient.abort t).activationClaims = ambient.activationClaims := by
  rw [abort]
  split
  · split <;> rfl
  · rfl

theorem abortAll_keeps (owners : Owners identities ambient) {children : List Nat} {other : Nat}
    (logical : ∀ t ∈ children, ambient.isLogical t = true)
    (member : other ∈ ambient.activationClaims) (outside : other ∉ children) :
    other ∈ (children.foldl (abortChild identities) ambient).activationClaims := by
  induction children generalizing ambient with
  | nil => exact member
  | cons t children ih =>
      have aborted := abort_gate owners t
      have first := abortChild_gate owners t
      have distinct : other ≠ t := fun same => outside (by simp [same])
      have kept : other ∈ (ambient.abortChild identities t).activationClaims := by
        refine release_keeps (by rw [abort_claims]; exact member) distinct
          (apart_of_logical (aborted.owners owners) ?_)
        rw [aborted.logical]
        exact logical t (by simp)
      refine ih (first.owners owners) (fun child listed => ?_) kept
        (fun listed => outside (by simp [listed]))
      rw [first.logical]
      exact logical child (by simp [listed])

theorem release_subset (t : Nat) :
    (ambient.releaseActivationAmbient identities t).activationClaims ⊆
      ambient.activationClaims := by
  rw [releaseActivationAmbient]
  split
  · exact List.erase_subset
  · split
    · exact List.erase_subset
    · exact List.Subset.refl _

theorem abortAll_subset (children : List Nat) :
    (children.foldl (abortChild identities) ambient).activationClaims ⊆
      ambient.activationClaims := by
  induction children generalizing ambient with
  | nil => exact List.Subset.refl _
  | cons t children ih =>
      have first : (ambient.abortChild identities t).activationClaims ⊆
          ambient.activationClaims := by
        have released := @release_subset identities (ambient.abort t) t
        rw [abort_claims] at released
        exact released
      exact List.Subset.trans ih first

theorem descendants_logical (descends : ambient.Descends) {physical t : Nat}
    (member : t ∈ ambient.logicalDescendants physical) : ambient.isLogical t = true := by
  obtain ⟨activation, found, _⟩ := descends physical t member
  simp [isLogical, found]

/-! ## The steps -/

theorem openBracket_owners (owners : Owners identities ambient) {kind : BracketKind} {t : Nat}
    (resumed : kind = .resume → ambient.isLogical t = false) :
    Owners identities (ambient.openBracket kind t) :=
  ⟨owners.pending, owners.waiting, owners.implicit,
    List.forall_mem_cons.mpr ⟨resumed, owners.resumed⟩⟩

theorem leave_owners (owners : Owners identities ambient) (bracket : Bracket) :
    Owners identities (ambient.leave bracket) :=
  ⟨owners.pending, owners.waiting, owners.implicit,
    fun other member => owners.resumed other (List.mem_of_mem_tail member)⟩

theorem unwind_owners (owners : Owners identities ambient) (bracket : Bracket) :
    Owners identities (ambient.unwind identities bracket) := by
  have aborted := abortLogicalChildren_gate owners bracket.thread
  rw [unwind]
  cases bracket.kind with
  | activation => exact aborted.owners owners
  | resume =>
      exact ((releaseActivationAmbient_gate identities _ _).owners (aborted.owners owners)).remove _

theorem unwind_pending (owners : Owners identities ambient) (bracket : Bracket) :
    (ambient.unwind identities bracket).pendingResumptions =
      match bracket.kind with
      | .resume => ambient.pendingResumptions.erase bracket.thread
      | .activation => ambient.pendingResumptions := by
  have aborted := abortLogicalChildren_gate owners bracket.thread
  rw [unwind]
  cases bracket.kind with
  | activation => exact aborted.pending
  | resume =>
      exact congrArg (Finset.erase · bracket.thread)
        ((releaseActivationAmbient_gate identities _ _).pending.trans aborted.pending)

theorem bracket_published (balanced : ambient.Balanced) :
    ∀ bracket ∈ ambient.brackets, bracket.thread ∈ ambient.threadStack := by
  have layers : ∀ (brackets : List Bracket) (threadStack entryStack : List Nat),
      ambient.Layered brackets threadStack entryStack →
      ∀ bracket ∈ brackets, bracket.thread ∈ threadStack := by
    intro brackets
    induction brackets with
    | nil => exact fun _ _ _ => List.forall_mem_nil _
    | cons innermost outer ih =>
        intro threadStack entryStack layered bracket member
        obtain ⟨⟨nested, stack, _⟩, _, below⟩ := layered
        rcases List.mem_cons.mp member with rfl | further
        · simp [stack]
        · have inside := ih _ _ below bracket further
          simp [stack, inside]
  exact layers _ _ _ balanced.layered

theorem enter_owners (balanced : ambient.Balanced) (owners : Owners identities ambient) {t : Nat}
    (fresh : t ∉ ambient.threadStack) (unowed : t ∉ ambient.pendingResumptions)
    (unparked : ∀ point ∈ ambient.waiting, point.owner ≠ some t)
    (newTask : ambient.implicitThread (identities.task t) = none) (parent : Option Nat) :
    Owners identities (ambient.enter identities t parent) := by
  have others : ∀ other, other ≠ t →
      (ambient.enter identities t parent).isLogical other = ambient.isLogical other := by
    intro other distinct
    simp [isLogical, enter, distinct]
  refine ⟨fun owner member => ?_, fun point member owner found => ?_, fun other logical => ?_,
    fun bracket member kind => ?_⟩
  · rw [others owner fun same => unowed (same ▸ member)]
    exact owners.pending owner member
  · rw [others owner fun same => unparked point member (same ▸ found)]
    exact owners.waiting point member owner found
  · by_cases same : other = t
    · subst same
      exact Function.update_self ..
    · rw [others other same] at logical
      have kept := owners.implicit other logical
      have distinct : identities.task other ≠ identities.task t := by
        intro sameTask
        rw [sameTask, newTask] at kept
        cases kept
      exact (Function.update_of_ne distinct ..).trans kept
  · have published := bracket_published balanced bracket member
    rw [others bracket.thread fun same => fresh (same ▸ published)]
    exact owners.resumed bracket member kind

theorem consume_in_bracket (balanced : ambient.Balanced) {bracket : Bracket} {outer : List Bracket}
    (innermost : ambient.brackets = bracket :: outer) (kind : bracket.kind = .activation) :
    ∃ t, ambient.resolveAmbient = some t ∧
      ambient.physicalOwnerOf t = ambient.physicalOwnerOf bracket.thread ∧
      ambient.consumePendingIfRunning =
        ambient.removePendingResumption (ambient.physicalOwnerOf t) := by
  obtain ⟨t, published, _, physical⟩ := published_inside balanced innermost
  have layered := balanced.layered
  rw [innermost] at layered
  have entered : ambient.entryStack = bracket.thread :: bracket.entryStack := by
    rw [layered.2.1, Bracket.entered, kind]
  refine ⟨t, by simp [resolveAmbient, published], physical, ?_⟩
  rw [consumePendingIfRunning, activationOf, entered, physical]
  rfl

theorem releasePendingOf_pending (t : Nat) :
    (ambient.releasePendingOf identities t).pendingResumptions =
      match ambient.implicitThread (identities.task t) with
      | some implicit => (ambient.pendingResumptions.erase (ambient.physicalOwnerOf t)).erase
          (ambient.physicalOwnerOf implicit)
      | none => ambient.pendingResumptions.erase (ambient.physicalOwnerOf t) := by
  have released := (ambient.releaseActivationAmbient_gate identities t).pending
  rw [releasePendingOf]
  cases ambient.implicitThread (identities.task t) <;>
    simp only [removePendingResumption, released]

theorem releasePendingOf_owners (owners : Owners identities ambient) (t : Nat) :
    Owners identities (ambient.releasePendingOf identities t) := by
  have released := (ambient.releaseActivationAmbient_gate identities t).owners owners
  rw [releasePendingOf]
  cases ambient.implicitThread (identities.task t) with
  | none => exact released.remove _
  | some implicit => exact (released.remove _).remove _

theorem waiting_owners (owners : Owners identities ambient) {waiting : List SuspensionPoint}
    (kept : ∀ point ∈ waiting, point ∈ ambient.waiting) :
    Owners identities { ambient with waiting } :=
  ⟨owners.pending, fun point member => owners.waiting point (kept point member), owners.implicit,
    owners.resumed⟩

structure Gated (identities : Identities) (ambient : Ambient) (turns : Finset Nat) : Prop where
  balanced : ambient.Balanced
  owners : Owners identities ambient
  exact : ambient.pendingResumptions = turns

theorem SameGate.gated {before after : Ambient} (same : SameGate before after)
    (balanced : after.Balanced) {turns : Finset Nat} (gated : Gated identities before turns) :
    Gated identities after turns :=
  ⟨balanced, same.owners gated.owners, same.pending.trans gated.exact⟩

theorem consume_waiting (waiting : List SuspensionPoint) :
    { ambient with waiting }.consumePendingIfRunning =
      { ambient.consumePendingIfRunning with waiting } := by
  have same : { ambient with waiting }.activationOf = ambient.activationOf := rfl
  rw [consumePendingIfRunning, consumePendingIfRunning, same]
  cases ambient.activationOf <;> rfl

theorem consume_owners (owners : Owners identities ambient) :
    Owners identities ambient.consumePendingIfRunning := by
  rw [consumePendingIfRunning]
  cases ambient.activationOf with
  | none => exact owners
  | some t => exact owners.remove _

theorem add_owners (owners : Owners identities ambient) {owner : Option Nat}
    (own : ∀ t, owner = some t → ambient.isLogical t = false) :
    Owners identities (ambient.addPendingResumption owner) := by
  cases owner with
  | none => exact owners
  | some t =>
      exact ⟨fun other member => (Finset.mem_insert.mp member).elim
        (fun same => same ▸ own t rfl) (owners.pending other), owners.waiting, owners.implicit,
        owners.resumed⟩

theorem add_pending (owner : Option Nat) :
    (ambient.addPendingResumption owner).pendingResumptions =
      match owner with
      | some t => insert t ambient.pendingResumptions
      | none => ambient.pendingResumptions := by
  cases owner <;> rfl

theorem resumePoint_gate (owners : Owners identities ambient) {index : Nat}
    {point : SuspensionPoint} (found : ambient.waiting[index]? = some point) :
    Owners identities (ambient.resumePoint index) ∧
      (ambient.resumePoint index).pendingResumptions =
        match point.owner with
        | some owner => insert owner ambient.consumePendingIfRunning.pendingResumptions
        | none => ambient.consumePendingIfRunning.pendingResumptions := by
  let consumed := { ambient.consumePendingIfRunning with waiting := ambient.waiting.eraseIdx index }
  have consumedOwners : Owners identities consumed := by
    have erased : Owners identities { ambient with waiting := ambient.waiting.eraseIdx index } :=
      waiting_owners owners fun point member => List.mem_of_mem_eraseIdx member
    have kept := consume_owners erased
    rw [consume_waiting] at kept
    exact kept
  have claimed : ∃ after, SameGate consumed after ∧
      ambient.resumePoint index = after.addPendingResumption point.owner := by
    rw [resumePoint, found]
    dsimp only
    rw [consume_waiting]
    split
    · exact ⟨_, claimActivationAmbient_gate consumed _, rfl⟩
    · exact ⟨_, .refl consumed, rfl⟩
  obtain ⟨after, same, shape⟩ := claimed
  have afterOwners := same.owners consumedOwners
  rw [shape]
  refine ⟨add_owners afterOwners fun t own => ?_, ?_⟩
  · have parked := (owners.waiting point (List.mem_of_getElem? found) t own)
    have logical : consumed.isLogical t = ambient.isLogical t :=
      ambient.consumePendingIfRunning_same.logical t
    rw [same.logical, logical]
    exact parked
  · rw [add_pending, same.pending]

theorem release_claims_congr {before after : Ambient} (t : Nat)
    (claims : after.activationClaims = before.activationClaims)
    (implicit : after.implicitThread = before.implicitThread) :
    (after.releaseActivationAmbient identities t).activationClaims =
      (before.releaseActivationAmbient identities t).activationClaims := by
  simp only [releaseActivationAmbient, claims, implicit]
  split
  · rfl
  · split
    · rfl
    · exact claims

theorem block_gate (balanced : ambient.Balanced) (owners : Owners identities ambient) (task : Nat)
    {bracket : Bracket} {outer : List Bracket} (innermost : ambient.brackets = bracket :: outer)
    (kind : bracket.kind = .activation)
    (entered : ambient.isLogical (ambient.physicalOwnerOf bracket.thread) = false) :
    ∃ t, ambient.resolveAmbient = some t ∧
      Owners identities (ambient.blockCurrentActivation identities task) ∧
      (ambient.blockCurrentActivation identities task).pendingResumptions =
        ambient.pendingResumptions.erase (ambient.physicalOwnerOf t) ∧
      (ambient.blockCurrentActivation identities task).activationClaims =
        (ambient.releaseActivationAmbient identities t).activationClaims := by
  obtain ⟨t, resolved, physical, consumed⟩ := consume_in_bracket balanced innermost kind
  have removed := owners.remove (ambient.physicalOwnerOf t)
  have released := releaseActivationAmbient_gate identities
    (ambient.removePendingResumption (ambient.physicalOwnerOf t)) t
  have shape : ambient.blockCurrentActivation identities task =
      { (ambient.removePendingResumption (ambient.physicalOwnerOf t)).releaseActivationAmbient
          identities t with
        waiting := ((ambient.removePendingResumption
          (ambient.physicalOwnerOf t)).releaseActivationAmbient identities t).waiting ++
            [{ owner := some (ambient.physicalOwnerOf t), logicalOwner := some t }] } := by
    rw [blockCurrentActivation, resolved, consumed]
    rfl
  have kept := released.owners removed
  refine ⟨t, resolved, ?_, ?_, ?_⟩
  · rw [shape]
    refine ⟨kept.pending, fun point member owner own => ?_, kept.implicit, kept.resumed⟩
    rcases List.mem_append.mp member with parked | added
    · exact kept.waiting point parked owner own
    · obtain rfl := List.mem_singleton.mp added
      cases own
      have unlogical := released.logical (ambient.physicalOwnerOf t)
      refine unlogical.trans ?_
      rw [physical]
      exact entered
  · rw [shape]
    exact released.pending
  · rw [shape]
    exact release_claims_congr t rfl rfl

theorem step_gated {action : Action} {turns : Finset Nat} (gated : Gated identities ambient turns)
    (scheduled : Scheduled identities action ambient) (orderly : Orderly identities action ambient) :
    Gated identities (step identities action ambient)
      (owedAfter identities action ambient turns) := by
  have balanced := step_balanced identities action ambient gated.balanced scheduled.1
  have owners := gated.owners
  have exact := gated.exact
  cases action with
  | resume t => exact ⟨balanced, openBracket_owners owners fun _ => scheduled.2, exact⟩
  | withActivation t => exact ⟨balanced, openBracket_owners owners (by simp), exact⟩
  | close throws =>
      refine ⟨balanced, ?_, ?_⟩
      · change Owners identities (ambient.closeBracket identities throws)
        rw [closeBracket]
        cases ambient.brackets with
        | nil => exact owners
        | cons bracket outer =>
            cases throws with
            | false => exact leave_owners owners bracket
            | true => exact leave_owners (unwind_owners owners bracket) bracket
      · change (ambient.closeBracket identities throws).pendingResumptions = _
        rw [closeBracket, owedAfter.eq_def]
        cases ambient.brackets with
        | nil => cases throws <;> exact exact
        | cons bracket outer =>
            cases throws with
            | false => exact exact
            | true =>
                have unwound := unwind_pending owners bracket
                obtain ⟨kind, thread, threadStack, entryStack⟩ := bracket
                rw [exact] at unwound
                cases kind <;> exact unwound
  | enterImplicitThread task t =>
      refine ⟨balanced, ⟨owners.pending, owners.waiting, fun other logical => ?_, owners.resumed⟩,
        exact⟩
      have kept := owners.implicit other logical
      have distinct : identities.task other ≠ task := by
        intro sameTask
        rw [sameTask, scheduled.2] at kept
        cases kept
      exact (Function.update_of_ne distinct ..).trans kept
  | enter t =>
      obtain ⟨⟨fresh, _⟩, unowed, unparked, newTask⟩ := scheduled
      exact ⟨balanced, enter_owners gated.balanced owners fresh unowed unparked newTask _, exact⟩
  | enterDeferred t caller =>
      obtain ⟨⟨fresh, _⟩, unowed, unparked, newTask⟩ := scheduled
      have entered := enter_owners gated.balanced owners fresh unowed unparked newTask caller
      have same := (popLogicalActivation_gate identities (ambient.enter identities t caller)
        t).trans (claimActivationAmbient_gate _ t)
      exact ⟨balanced, same.owners entered, same.pending.trans exact⟩
  | exit t => exact (ambient.finish_gate identities t).gated balanced gated
  | abandon t =>
      exact ((abort_gate owners t).trans (popLogicalActivation_gate identities _ t)).gated balanced
        gated
  | claim t => exact (ambient.claimActivationAmbient_gate t).gated balanced gated
  | builtin t =>
      refine ⟨balanced, owners, ?_⟩
      have absent : ambient.physicalOwnerOf t ∉ ambient.pendingResumptions := orderly.2
      rw [exact] at absent
      exact exact.trans (Finset.erase_eq_of_notMem absent).symm
  | block task =>
      obtain ⟨bracket, outer, innermost, kind, entered⟩ := scheduled.2
      obtain ⟨t, resolved, kept, pending, _⟩ :=
        block_gate gated.balanced owners task innermost kind entered
      refine ⟨balanced, kept, ?_⟩
      rw [owedAfter, resolved, ← exact]
      exact pending
  | resumePoint index executing =>
      cases found : ambient.waiting[index]? with
      | none =>
          have idle : ambient.resumePoint index = ambient := by rw [resumePoint, found]
          have unchanged : owedAfter identities (.resumePoint index executing) ambient turns =
              turns := by
            simp only [owedAfter, found]
          rw [unchanged, step, idle]
          exact gated
      | some point =>
          obtain ⟨kept, pending⟩ := resumePoint_gate owners found
          refine ⟨balanced, kept, ?_⟩
          cases executing with
          | some t =>
              have ran : ambient.consumePendingIfRunning.pendingResumptions =
                  turns.erase (ambient.physicalOwnerOf t) := by
                have running : ambient.activationOf = some t := scheduled.2
                rw [consumePendingIfRunning, running, ← exact]
                rfl
              simp only [owedAfter, found]
              rw [← ran]
              exact pending
          | none =>
              have idle : ambient.consumePendingIfRunning.pendingResumptions = turns := by
                rw [consumePendingIfRunning]
                cases running : ambient.activationOf with
                | none => exact exact
                | some t =>
                    exact (Finset.erase_eq_of_notMem (orderly.2 t running)).trans exact
              simp only [owedAfter, found]
              rw [← idle]
              exact pending
  | abandonPoint index =>
      exact ⟨balanced, waiting_owners owners fun _ => List.mem_of_mem_eraseIdx, exact⟩
  | settle t =>
      refine ⟨balanced, releasePendingOf_owners owners t, ?_⟩
      change (ambient.releasePendingOf identities t).pendingResumptions =
        turns.erase (ambient.physicalOwnerOf t)
      rw [releasePendingOf_pending, exact]
      cases found : ambient.implicitThread (identities.task t) with
      | none => rfl
      | some implicit =>
          by_cases same : ambient.physicalOwnerOf implicit = ambient.physicalOwnerOf t
          · simp [same]
          · have absent := orderly.2 implicit found same
            rw [exact] at absent
            exact Finset.erase_eq_of_notMem fun member => absent (Finset.mem_of_mem_erase member)

theorem unwind_keeps (balanced : ambient.Balanced) (owners : Owners identities ambient)
    {bracket : Bracket} (kind : bracket.kind = .resume)
    (own : ambient.isLogical bracket.thread = false)
    (apart : ClaimsApart identities ambient bracket.thread) {other : Nat}
    (member : other ∈ ambient.activationClaims) (distinct : other ≠ bracket.thread)
    (outside : other ∉ ambient.logicalDescendants (ambient.physicalOwnerOf bracket.thread)) :
    other ∈ (ambient.unwind identities bracket).activationClaims := by
  have logical : ∀ t ∈ ambient.logicalDescendants (ambient.physicalOwnerOf bracket.thread),
      ambient.isLogical t = true :=
    fun t listed => descendants_logical balanced.descends listed
  have notOwn : bracket.thread ∉
      ambient.logicalDescendants (ambient.physicalOwnerOf bracket.thread) := by
    intro listed
    rw [logical _ listed] at own
    cases own
  have aborted := abortLogicalChildren_gate owners bracket.thread
  have apartAfter : ClaimsApart identities (ambient.abortLogicalChildren identities bracket.thread)
      bracket.thread := by
    rcases apart with claimed | free
    · exact .inl (abortAll_keeps owners logical claimed notOwn)
    · refine .inr fun implicit found different listed => ?_
      rw [aborted.implicit] at found
      exact free implicit found different (abortAll_subset _ listed)
  have kept := release_keeps (abortAll_keeps owners logical member outside) distinct apartAfter
  rw [unwind, kind]
  exact kept

theorem physicalOwnerOf_body {t : Nat} (body : ambient.isLogical t = false) :
    ambient.physicalOwnerOf t = t := by
  have absent : ambient.logicalActivation t = none := by simpa [isLogical] using body
  rw [physicalOwnerOf, absent]

theorem step_keeps {action : Action} (balanced : ambient.Balanced)
    (owners : Owners identities ambient) (scheduled : Scheduled identities action ambient)
    (orderly : Orderly identities action ambient) : KeepsOthers identities action ambient := by
  intro t found
  have apart := orderly.1 t found
  cases action with
  | settle u =>
      obtain rfl : u = t := Option.some.inj found
      constructor
      · intro owner member distinct
        change owner ∈ (ambient.releasePendingOf identities u).pendingResumptions
        rw [releasePendingOf_pending]
        have kept := Finset.mem_erase_of_ne_of_mem distinct member
        cases implicitFound : ambient.implicitThread (identities.task u) with
        | none => exact kept
        | some implicit =>
            refine Finset.mem_erase_of_ne_of_mem ?_ kept
            rintro rfl
            exact orderly.2 implicit implicitFound distinct member
      · intro other member distinct _
        change other ∈ (ambient.releasePendingOf identities u).activationClaims
        have kept := release_keeps member distinct apart
        rw [releasePendingOf]
        cases ambient.implicitThread (identities.task u) <;> exact kept
  | block task =>
      obtain ⟨bracket, outer, innermost, kind, entered⟩ := scheduled.2
      obtain ⟨u, resolved, _, pending, claims⟩ :=
        block_gate balanced owners task innermost kind entered
      obtain rfl : u = t := by
        rw [subject, resolved] at found
        exact Option.some.inj found
      constructor
      · intro owner member distinct
        change owner ∈ (ambient.blockCurrentActivation identities task).pendingResumptions
        rw [pending]
        exact Finset.mem_erase_of_ne_of_mem distinct member
      · intro other member distinct _
        change other ∈ (ambient.blockCurrentActivation identities task).activationClaims
        rw [claims]
        exact release_keeps member distinct apart
  | close throws =>
      cases throws with
      | false => cases found
      | true =>
          cases innermost : ambient.brackets with
          | nil => simp [subject, innermost] at found
          | cons bracket outer =>
              have closes : step identities (.close true) ambient =
                  (ambient.unwind identities bracket).leave bracket := by
                rw [step, closeBracket, innermost]
                rfl
              have own := owners.resumed bracket (by simp [innermost])
              have unwound := unwind_pending owners bracket
              have kept := @unwind_keeps identities ambient balanced owners bracket
              obtain ⟨kind, thread, threadStack, entryStack⟩ := bracket
              cases kind with
              | activation => simp [subject, innermost] at found
              | resume =>
                  obtain rfl : thread = t := by simpa [subject, innermost] using found
                  rw [closes]
                  constructor
                  · intro owner member distinct
                    rw [physicalOwnerOf_body (own rfl)] at distinct
                    change owner ∈ (ambient.unwind identities _).pendingResumptions
                    rw [unwound]
                    exact Finset.mem_erase_of_ne_of_mem distinct member
                  · intro other member distinct outside
                    exact kept rfl (own rfl) apart member distinct outside
  | _ => cases found

end Operations

theorem run_gated {identities : Identities} {actions : List Action} {ambient : Ambient}
    {turns : Finset Nat} (gated : Gated identities ambient turns)
    (scheduled : Transition.Throughout (step identities) (Scheduled identities) actions ambient)
    (orderly : Transition.Throughout (step identities) (Orderly identities) actions ambient) :
    Gated identities (Transition.runAll (step identities) actions ambient)
        (owed identities actions ambient turns) ∧
      Transition.Throughout (step identities) (KeepsOthers identities) actions ambient := by
  induction actions generalizing ambient turns with
  | nil => exact ⟨gated, trivial⟩
  | cons action actions ih =>
      have kept := step_keeps gated.balanced gated.owners scheduled.1 orderly.1
      obtain ⟨final, keeps⟩ := ih (step_gated gated scheduled.1 orderly.1) scheduled.2 orderly.2
      exact ⟨final, kept, keeps⟩

theorem initial_gated (identities : Identities) : Gated identities initial ∅ where
  balanced := initial_balanced
  owners := ⟨by simp [initial], List.forall_mem_nil _, fun t => by simp [initial, isLogical],
    List.forall_mem_nil _⟩
  exact := rfl

/-- In every run of orderly steps the gate names exactly the owners that are owed a turn, so that
`tick` waits exactly while there is one, and no thread that parks or ends takes the entry or the
claim of another. -/
theorem gate_exact (identities : Identities) (actions : List Action)
    (scheduled : Transition.Throughout (step identities) (Scheduled identities) actions initial)
    (orderly : Transition.Throughout (step identities) (Orderly identities) actions initial) :
    let ambient := Transition.runAll (step identities) actions initial
    ambient.pendingResumptions = owed identities actions initial ∅ ∧
      (ambient.hasPendingResumptions = true ↔ (owed identities actions initial ∅).Nonempty) ∧
      Transition.Throughout (step identities) (KeepsOthers identities) actions initial := by
  intro ambient
  obtain ⟨gated, keeps⟩ := run_gated (initial_gated identities) scheduled orderly
  refine ⟨gated.exact, ?_, keeps⟩
  rw [hasPendingResumptions, decide_eq_true_iff, Finset.card_pos, gated.exact]

theorem gate_exact_resumed :
    (Transition.runAll (step { task := id, inst := id }) [.enterImplicitThread 0 0, .resume 0,
        .withActivation 0, .block 0, .close false, .close false, .resumePoint 0 none]
      initial).hasPendingResumptions = true :=
  (gate_exact { task := id, inst := id } [.enterImplicitThread 0 0, .resume 0, .withActivation 0,
      .block 0, .close false, .close false, .resumePoint 0 none]
    ⟨⟨trivial, rfl⟩, ⟨trivial, rfl⟩, ⟨trivial, trivial⟩, ⟨trivial, _, _, rfl, rfl, rfl⟩,
      ⟨trivial, trivial⟩, ⟨trivial, trivial⟩, ⟨trivial, trivial⟩, trivial⟩
    ⟨⟨by simp [subject], trivial⟩, ⟨by simp [subject], trivial⟩, ⟨by simp [subject], trivial⟩,
      ⟨fun _ _ => .inr fun implicit _ _ => show implicit ∉ ([] : List Nat) by simp, trivial⟩,
      ⟨by simp [subject], trivial⟩, ⟨by simp [subject], trivial⟩,
      ⟨by simp [subject], fun t running => by cases (show none = some t from running)⟩,
      trivial⟩).2.1.mpr ⟨0, by decide⟩

/-- The end of an explicit thread takes the entry of the implicit thread of its task, which another
instance has resumed by cancelling the task and which has not run yet. -/
theorem settle_takes_sibling :
    let identities : Identities := { task := fun t => if t = 2 then 1 else 0, inst := id }
    let actions : List Action :=
      [.enterImplicitThread 0 0, .resume 0, .withActivation 0, .block 0, .close false, .close false,
        .resume 1, .withActivation 1, .close false, .close false,
        .enterImplicitThread 1 2, .resume 2, .withActivation 2, .resumePoint 0 (some 2),
        .close false, .close false, .settle 1]
    Transition.Throughout (step identities) (Scheduled identities) actions initial ∧
      (Transition.runAll (step identities) actions initial).pendingResumptions = ∅ ∧
      owed identities actions initial ∅ = {0} := by
  refine ⟨⟨⟨trivial, rfl⟩, ⟨trivial, rfl⟩, ⟨trivial, trivial⟩, ⟨trivial, _, _, rfl, rfl, rfl⟩,
    ⟨trivial, trivial⟩, ⟨trivial, trivial⟩, ⟨trivial, rfl⟩, ⟨trivial, trivial⟩, ⟨trivial, trivial⟩,
    ⟨trivial, trivial⟩, ⟨trivial, rfl⟩, ⟨trivial, rfl⟩, ⟨trivial, trivial⟩, ⟨trivial, rfl⟩,
    ⟨trivial, trivial⟩, ⟨trivial, trivial⟩, ⟨trivial, trivial⟩, trivial⟩, by decide, by decide⟩

end Ambient

end Polyengine.Task
