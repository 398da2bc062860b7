import Polyengine.Task.Ambient

/-!
# Balanced activation brackets

Whatever runs inside a bracket, the bracket finds its own thread when it closes, above it only
leftovers of nested calls, and leaves the two stacks as it was opened on them.
-/

set_option autoImplicit false

namespace Polyengine.Task

open Polyengine.Library

namespace Ambient

/-! ## What a bracket has above it -/

def isLogical (ambient : Ambient) (t : Nat) : Bool := (ambient.logicalActivation t).isSome

/-- The stacks as the open brackets lie in them. Above the thread of a bracket there are only other
threads, of logical activations of the same physical owner. -/
def Layered (ambient : Ambient) : List Bracket → List Nat → List Nat → Prop
  | [], threadStack, entryStack =>
      (∀ t ∈ threadStack, ambient.isLogical t = true) ∧ entryStack = []
  | bracket :: outer, threadStack, entryStack =>
      (∃ nested, threadStack = nested ++ bracket.thread :: bracket.threadStack ∧
        ∀ t ∈ nested, t ≠ bracket.thread ∧ ambient.isLogical t = true ∧
          ambient.physicalOwnerOf t = ambient.physicalOwnerOf bracket.thread) ∧
      entryStack = bracket.entered ∧
      ambient.Layered outer bracket.threadStack bracket.entryStack

def Descends (ambient : Ambient) : Prop :=
  ∀ physical, ∀ t ∈ ambient.logicalDescendants physical, ∃ activation,
    ambient.logicalActivation t = some activation ∧ activation.active = true ∧
      activation.physicalOwner = physical

structure Balanced (ambient : Ambient) : Prop where
  imbalance : ambient.imbalance = none
  claims : ambient.activationClaims.Nodup
  layered : ambient.Layered ambient.brackets ambient.threadStack ambient.entryStack
  descends : ambient.Descends

/-- Both states have the same brackets, stacks and threads, and the claims and the descendants are
kept in order. -/
structure SameBrackets (before after : Ambient) : Prop where
  threadStack : after.threadStack = before.threadStack
  entryStack : after.entryStack = before.entryStack
  brackets : after.brackets = before.brackets
  imbalance : after.imbalance = before.imbalance
  logical : ∀ t, after.isLogical t = before.isLogical t
  physical : ∀ t, after.physicalOwnerOf t = before.physicalOwnerOf t
  claims : before.activationClaims.Nodup → after.activationClaims.Nodup
  descends : before.Descends → after.Descends

theorem SameBrackets.refl (ambient : Ambient) : SameBrackets ambient ambient :=
  ⟨rfl, rfl, rfl, rfl, fun _ => rfl, fun _ => rfl, id, id⟩

theorem SameBrackets.trans {first second third : Ambient} (left : SameBrackets first second)
    (right : SameBrackets second third) : SameBrackets first third where
  threadStack := right.threadStack.trans left.threadStack
  entryStack := right.entryStack.trans left.entryStack
  brackets := right.brackets.trans left.brackets
  imbalance := right.imbalance.trans left.imbalance
  logical t := (right.logical t).trans (left.logical t)
  physical t := (right.physical t).trans (left.physical t)
  claims := right.claims ∘ left.claims
  descends := right.descends ∘ left.descends

theorem Layered.congr {before after : Ambient} {brackets : List Bracket}
    {threadStack entryStack : List Nat} (layered : before.Layered brackets threadStack entryStack)
    (same : ∀ t ∈ threadStack, after.isLogical t = before.isLogical t ∧
      after.physicalOwnerOf t = before.physicalOwnerOf t) :
    after.Layered brackets threadStack entryStack := by
  induction brackets generalizing threadStack entryStack with
  | nil =>
      obtain ⟨logical, entry⟩ := layered
      exact ⟨fun t member => ((same t member).1).trans (logical t member), entry⟩
  | cons bracket outer ih =>
      obtain ⟨⟨nested, stack, above⟩, entry, below⟩ := layered
      subst stack
      have sameThread := same bracket.thread (by simp)
      refine ⟨⟨nested, rfl, fun t member => ?_⟩, entry, ih below fun t member => same t ?_⟩
      · obtain ⟨distinct, logical, physical⟩ := above t member
        have sameNested := same t (by simp [member])
        refine ⟨distinct, sameNested.1.trans logical, ?_⟩
        rw [sameNested.2, sameThread.2, physical]
      · simp [member]

theorem SameBrackets.balanced {before after : Ambient} (same : SameBrackets before after)
    (balanced : before.Balanced) : after.Balanced where
  imbalance := same.imbalance.trans balanced.imbalance
  claims := same.claims balanced.claims
  layered := by
    rw [same.threadStack, same.entryStack, same.brackets]
    exact balanced.layered.congr fun t _ => ⟨same.logical t, same.physical t⟩
  descends := same.descends balanced.descends

theorem popTo_leftovers (ambient : Ambient) (t : Nat) (nested saved : List Nat)
    (above : ∀ other ∈ nested, other ≠ t ∧ ambient.isLogical other = true) :
    ambient.popTo t (nested ++ t :: saved) = (saved, none) := by
  induction nested with
  | nil => simp [popTo]
  | cons other nested ih =>
      obtain ⟨distinct, logical⟩ := above other (by simp)
      have rest : ∀ other ∈ nested, other ≠ t ∧ ambient.isLogical other = true :=
        fun other member => above other (by simp [member])
      rw [isLogical] at logical
      rw [List.cons_append, popTo, if_neg distinct, if_pos logical]
      exact ih rest

/-! ## The claims, the gate and the logical activations -/

section Operations

variable (identities : Identities) (ambient : Ambient)

theorem claimActivationAmbient_same (t : Nat) :
    SameBrackets ambient (ambient.claimActivationAmbient t) := by
  rw [claimActivationAmbient]
  split
  · exact .refl ambient
  · refine ⟨rfl, rfl, rfl, rfl, fun _ => rfl, fun _ => rfl, fun nodup => ?_, id⟩
    have absent : t ∉ ambient.activationClaims.erase t := nodup.not_mem_erase
    exact (nodup.erase t).append (List.nodup_singleton t) (by simpa using absent)

theorem releaseActivationAmbient_same (t : Nat) :
    SameBrackets ambient (ambient.releaseActivationAmbient identities t) := by
  rw [releaseActivationAmbient]
  split
  · exact ⟨rfl, rfl, rfl, rfl, fun _ => rfl, fun _ => rfl, fun nodup => nodup.erase t, id⟩
  · split
    · exact ⟨rfl, rfl, rfl, rfl, fun _ => rfl, fun _ => rfl, fun nodup => nodup.erase _, id⟩
    · exact .refl ambient

theorem removePendingResumption_same (t : Nat) :
    SameBrackets ambient (ambient.removePendingResumption t) :=
  ⟨rfl, rfl, rfl, rfl, fun _ => rfl, fun _ => rfl, id, id⟩

theorem addPendingResumption_same (owner : Option Nat) :
    SameBrackets ambient (ambient.addPendingResumption owner) := by
  cases owner with
  | none => exact .refl ambient
  | some t => exact ⟨rfl, rfl, rfl, rfl, fun _ => rfl, fun _ => rfl, id, id⟩

theorem consumePendingIfRunning_same : SameBrackets ambient ambient.consumePendingIfRunning := by
  rw [consumePendingIfRunning]
  cases ambient.activationOf with
  | none => exact .refl ambient
  | some a => exact ambient.removePendingResumption_same _

theorem releasePendingOf_same (t : Nat) :
    SameBrackets ambient (ambient.releasePendingOf identities t) := by
  have own := (ambient.releaseActivationAmbient_same identities t).trans
    (removePendingResumption_same _ (ambient.physicalOwnerOf t))
  simp only [releasePendingOf]
  cases ambient.implicitThread (identities.task t) with
  | none => exact own
  | some implicit => exact own.trans (removePendingResumption_same _ _)

theorem waiting_same (waiting : List SuspensionPoint) :
    SameBrackets ambient { ambient with waiting } :=
  ⟨rfl, rfl, rfl, rfl, fun _ => rfl, fun _ => rfl, id, id⟩

theorem blockCurrentActivation_same (task : Nat) :
    SameBrackets ambient (ambient.blockCurrentActivation identities task) := by
  simp only [blockCurrentActivation]
  cases ambient.resolveAmbient <|> ambient.implicitThread task with
  | none => exact ambient.consumePendingIfRunning_same.trans (waiting_same _ _)
  | some t =>
      exact (ambient.consumePendingIfRunning_same.trans
        (releaseActivationAmbient_same identities _ t)).trans (waiting_same _ _)

theorem resumePoint_same (index : Nat) : SameBrackets ambient (ambient.resumePoint index) := by
  rw [resumePoint]
  cases ambient.waiting[index]? with
  | none => exact .refl ambient
  | some point =>
      have consumed := (ambient.waiting_same (ambient.waiting.eraseIdx index)).trans
        (consumePendingIfRunning_same _)
      dsimp only
      split
      · exact (consumed.trans (claimActivationAmbient_same _ _)).trans
          (addPendingResumption_same _ _)
      · exact consumed.trans (addPendingResumption_same _ _)

theorem deactivate_descendants {ambient : Ambient} {t : Nat} {activation : LogicalActivation}
    (descends : ambient.Descends) (found : ambient.logicalActivation t = some activation)
    (physical : Nat) :
    (ambient.deactivate t activation).logicalDescendants physical =
      (ambient.logicalDescendants physical).filter (· ≠ t) := by
  by_cases own : physical = activation.physicalOwner
  · subst own
    simp [deactivate]
  · have absent : ∀ other ∈ ambient.logicalDescendants physical, other ≠ t := by
      rintro other member rfl
      obtain ⟨listed, foundListed, _, owner⟩ := descends physical other member
      rw [found] at foundListed
      cases foundListed
      exact own owner.symm
    simp only [deactivate, Function.update_of_ne own]
    exact (List.filter_eq_self.mpr fun other member => by simpa using absent other member).symm

theorem deactivate_same {ambient : Ambient} {t : Nat} {activation : LogicalActivation}
    (found : ambient.logicalActivation t = some activation) :
    SameBrackets ambient (ambient.deactivate t activation) := by
  refine ⟨rfl, rfl, rfl, rfl, fun other => ?_, fun other => ?_, id, fun descends => ?_⟩
  · by_cases same : other = t
    · subst same
      simp [isLogical, deactivate, found]
    · simp [isLogical, deactivate, same]
  · by_cases same : other = t
    · subst same
      simp [physicalOwnerOf, deactivate, found]
    · simp [physicalOwnerOf, deactivate, same]
  · intro physical other member
    rw [deactivate_descendants descends found, List.mem_filter] at member
    have distinct : other ≠ t := by simpa using member.2
    simpa [deactivate, distinct] using descends physical other member.1

theorem abort_same (t : Nat) : SameBrackets ambient (ambient.abort t) := by
  rw [abort]
  split
  next activation found =>
    split
    · exact (ambient.removePendingResumption_same t).trans (deactivate_same found)
    · exact .refl ambient
  next => exact .refl ambient

theorem abort_descendants {ambient : Ambient} (descends : ambient.Descends) (t physical : Nat) :
    (ambient.abort t).logicalDescendants physical =
      (ambient.logicalDescendants physical).filter (· ≠ t) := by
  have unlisted (notActive : ∀ activation, ambient.logicalActivation t = some activation →
      activation.active = false) :
      ambient.logicalDescendants physical =
        (ambient.logicalDescendants physical).filter (· ≠ t) := by
    refine (List.filter_eq_self.mpr fun other member => ?_).symm
    obtain ⟨activation, found, active, _⟩ := descends physical other member
    have distinct : other ≠ t := by
      rintro rfl
      exact absurd active (by simp [notActive activation found])
    simpa using distinct
  rw [abort]
  cases found : ambient.logicalActivation t with
  | none => exact unlisted (by simp [found])
  | some activation =>
      cases active : activation.active with
      | true =>
          simp only [active, if_true]
          exact @deactivate_descendants (ambient.removePendingResumption t) t activation descends
            found physical
      | false =>
          simp only [active, Bool.false_eq_true, if_false]
          refine unlisted fun other same => ?_
          rw [found] at same
          cases same
          exact active

theorem abortChild_same (t : Nat) : SameBrackets ambient (ambient.abortChild identities t) :=
  (ambient.abort_same t).trans (releaseActivationAmbient_same identities _ t)

theorem releaseActivationAmbient_descendants (t : Nat) :
    (ambient.releaseActivationAmbient identities t).logicalDescendants =
      ambient.logicalDescendants := by
  rw [releaseActivationAmbient]
  split
  · rfl
  · split <;> rfl

theorem abortAll_same (children : List Nat) :
    SameBrackets ambient (children.foldl (abortChild identities) ambient) := by
  induction children generalizing ambient with
  | nil => exact .refl ambient
  | cons t children ih => exact (ambient.abortChild_same identities t).trans (ih _)

theorem abortAll_descendants {ambient : Ambient} (descends : ambient.Descends)
    (children : List Nat) (physical : Nat) :
    (children.foldl (abortChild identities) ambient).logicalDescendants physical =
      (ambient.logicalDescendants physical).filter (· ∉ children) := by
  induction children generalizing ambient with
  | nil => simp
  | cons t children ih =>
      have next := (ambient.abortChild_same identities t).descends descends
      rw [List.foldl_cons, ih next, abortChild, releaseActivationAmbient_descendants,
        abort_descendants descends, List.filter_filter]
      refine List.filter_congr fun other _ => ?_
      by_cases same : other = t <;> simp [same]

theorem abortLogicalChildren_same (t : Nat) :
    SameBrackets ambient (ambient.abortLogicalChildren identities t) :=
  ambient.abortAll_same identities _

theorem abortLogicalChildren_none {ambient : Ambient} (descends : ambient.Descends) (t : Nat) :
    (ambient.abortLogicalChildren identities t).logicalDescendants (ambient.physicalOwnerOf t) =
      [] := by
  rw [abortLogicalChildren, abortAll_descendants identities descends]
  exact List.filter_eq_nil_iff.mpr fun other member => by simpa using member

theorem unwind_same (bracket : Bracket) :
    SameBrackets ambient (ambient.unwind identities bracket) := by
  have aborted := ambient.abortLogicalChildren_same identities bracket.thread
  rw [unwind]
  cases bracket.kind with
  | activation => exact aborted
  | resume =>
      exact (aborted.trans (releaseActivationAmbient_same identities _ _)).trans
        (removePendingResumption_same _ _)

end Operations

/-! ## The steps -/

theorem openBracket_balanced {ambient : Ambient} (balanced : ambient.Balanced) (kind : BracketKind)
    (t : Nat) : (ambient.openBracket kind t).Balanced where
  imbalance := balanced.imbalance
  claims := balanced.claims
  layered := ⟨⟨[], rfl, by simp⟩, rfl, balanced.layered.congr fun _ _ => ⟨rfl, rfl⟩⟩
  descends := balanced.descends

theorem leave_restores {ambient : Ambient} {bracket : Bracket} {outer : List Bracket}
    (balanced : ambient.Balanced) (innermost : ambient.brackets = bracket :: outer) :
    ambient.leave bracket = { ambient with
      threadStack := bracket.threadStack
      entryStack := bracket.entryStack
      brackets := outer } := by
  have layered := balanced.layered
  rw [innermost] at layered
  obtain ⟨⟨nested, stack, above⟩, entry, _⟩ := layered
  have found : ambient.popTo bracket.thread ambient.threadStack = (bracket.threadStack, none) := by
    rw [stack]
    exact ambient.popTo_leftovers _ _ _ fun t member => ⟨(above t member).1, (above t member).2.1⟩
  rw [Bracket.entered] at entry
  cases kind : bracket.kind <;> simp [leave, found, innermost, entry, kind]

theorem leave_balanced {ambient : Ambient} {bracket : Bracket} {outer : List Bracket}
    (balanced : ambient.Balanced) (innermost : ambient.brackets = bracket :: outer) :
    (ambient.leave bracket).Balanced := by
  have layered := balanced.layered
  rw [innermost] at layered
  rw [leave_restores balanced innermost]
  exact ⟨balanced.imbalance, balanced.claims, layered.2.2.congr fun _ _ => ⟨rfl, rfl⟩,
    balanced.descends⟩

theorem closeBracket_balanced (identities : Identities) {ambient : Ambient}
    (balanced : ambient.Balanced) (throws : Bool) :
    (ambient.closeBracket identities throws).Balanced := by
  rw [closeBracket]
  cases innermost : ambient.brackets with
  | nil => exact balanced
  | cons bracket outer =>
      have unwound := ambient.unwind_same identities bracket
      cases throws with
      | false => exact leave_balanced balanced innermost
      | true =>
          exact leave_balanced (unwound.balanced balanced) (unwound.brackets.trans innermost)

theorem enter_others (identities : Identities) {ambient : Ambient} {t : Nat} {parent : Option Nat}
    {threadStack : List Nat} (fresh : t ∉ threadStack) :
    ∀ other ∈ threadStack,
      (ambient.enter identities t parent).isLogical other = ambient.isLogical other ∧
        (ambient.enter identities t parent).physicalOwnerOf other =
          ambient.physicalOwnerOf other := by
  intro other member
  have distinct : other ≠ t := fun same => fresh (same ▸ member)
  simp [isLogical, physicalOwnerOf, enter, distinct]

theorem enter_physical (identities : Identities) (ambient : Ambient) (t : Nat)
    (parent : Option Nat) :
    (ambient.enter identities t parent).physicalOwnerOf t =
      (parent.map ambient.physicalOwnerOf).getD t := by
  simp [physicalOwnerOf, enter]

theorem enter_descends (identities : Identities) {ambient : Ambient} (descends : ambient.Descends)
    {t : Nat} (new : ambient.logicalActivation t = none) (parent : Option Nat) :
    (ambient.enter identities t parent).Descends := by
  have kept : ∀ physical, ∀ other ∈ ambient.logicalDescendants physical, ∃ activation,
      (ambient.enter identities t parent).logicalActivation other = some activation ∧
        activation.active = true ∧ activation.physicalOwner = physical := by
    intro physical other member
    obtain ⟨activation, found, facts⟩ := descends physical other member
    have distinct : other ≠ t := by
      rintro rfl
      exact absurd found (by simp [new])
    exact ⟨activation, by simp [enter, distinct, found], facts⟩
  intro physical other member
  by_cases root : (parent.map ambient.physicalOwnerOf).getD t = t
  · simp only [enter, root, if_true] at member
    exact kept physical other member
  · simp only [enter, root, if_false] at member
    by_cases own : physical = (parent.map ambient.physicalOwnerOf).getD t
    · subst own
      rw [Function.update_self, List.mem_append] at member
      rcases member with listed | added
      · exact kept _ other listed
      · obtain rfl : other = t := by simpa using added
        exact ⟨_, Function.update_self .., rfl, rfl⟩
    · rw [Function.update_of_ne own] at member
      exact kept physical other member

theorem enter_balanced (identities : Identities) {ambient : Ambient} (balanced : ambient.Balanced)
    {t : Nat} (fresh : t ∉ ambient.threadStack) (new : ambient.logicalActivation t = none) :
    (ambient.enter identities t ambient.resolveAmbient).Balanced := by
  refine ⟨balanced.imbalance, balanced.claims, ?_, enter_descends identities balanced.descends new _⟩
  have layered := balanced.layered.congr
    (@enter_others identities ambient t ambient.resolveAmbient _ fresh)
  have logical : (ambient.enter identities t ambient.resolveAmbient).isLogical t = true := by
    simp [isLogical, enter]
  change Layered _ ambient.brackets (t :: ambient.threadStack) ambient.entryStack
  cases brackets : ambient.brackets with
  | nil =>
      rw [brackets] at layered
      exact ⟨List.forall_mem_cons.mpr ⟨logical, layered.1⟩, layered.2⟩
  | cons bracket outer =>
      rw [brackets] at layered
      obtain ⟨⟨nested, stack, above⟩, entry, below⟩ := layered
      have distinct : t ≠ bracket.thread := by
        rintro rfl
        exact fresh (by simp [stack])
      have under : ∃ top ∈ ambient.threadStack, ambient.resolveAmbient = some top ∧
          (ambient.enter identities t ambient.resolveAmbient).physicalOwnerOf top =
            (ambient.enter identities t ambient.resolveAmbient).physicalOwnerOf
              bracket.thread := by
        cases nested with
        | nil => exact ⟨bracket.thread, by simp [stack], by simp [resolveAmbient, stack], rfl⟩
        | cons top nested =>
            exact ⟨top, by simp [stack], by simp [resolveAmbient, stack], (above top (by simp)).2.2⟩
      obtain ⟨top, member, resolved, physical⟩ := under
      refine ⟨⟨t :: nested, by simp [stack], List.forall_mem_cons.mpr ⟨⟨distinct, logical, ?_⟩,
        above⟩⟩, entry, below⟩
      rw [← physical, enter_physical, (enter_others identities fresh top member).2, resolved]
      rfl

theorem enterDeferred_balanced (identities : Identities) {ambient : Ambient} (balanced : ambient.Balanced)
    {t : Nat} (fresh : t ∉ ambient.threadStack) (new : ambient.logicalActivation t = none)
    (caller : Option Nat) :
    (((ambient.enter identities t caller).popLogicalActivation identities t).claimActivationAmbient
      t).Balanced := by
  refine (claimActivationAmbient_same _ t).balanced ?_
  have popped : (ambient.enter identities t caller).popLogicalActivation identities t =
      { ambient.enter identities t caller with threadStack := ambient.threadStack } := by
    have published : (ambient.enter identities t caller).threadStack.head? = some t := rfl
    rw [popLogicalActivation, if_pos published]
    rfl
  rw [popped]
  exact ⟨balanced.imbalance, balanced.claims, balanced.layered.congr
    (enter_others identities fresh), enter_descends identities balanced.descends new caller⟩

theorem popLogicalActivation_balanced (identities : Identities) {ambient : Ambient}
    (balanced : ambient.Balanced) {t : Nat}
    (returned : ∀ bracket ∈ ambient.brackets, bracket.thread ≠ t) :
    (ambient.popLogicalActivation identities t).Balanced := by
  rw [popLogicalActivation]
  split
  next published =>
    refine ⟨balanced.imbalance, balanced.claims, ?_, balanced.descends⟩
    have layered := balanced.layered
    change Layered _ ambient.brackets ambient.threadStack.tail ambient.entryStack
    cases brackets : ambient.brackets with
    | nil =>
        rw [brackets] at layered
        exact ⟨fun other member => layered.1 other (List.mem_of_mem_tail member), layered.2⟩
    | cons bracket outer =>
        rw [brackets] at layered
        obtain ⟨⟨nested, stack, above⟩, entry, below⟩ := layered
        cases nested with
        | nil =>
            have own : bracket.thread = t := by simpa [stack] using published
            exact absurd own (returned bracket (by simp [brackets]))
        | cons top nested =>
            exact ⟨⟨nested, by simp [stack], fun other member => above other (by simp [member])⟩,
              entry, below.congr fun _ _ => ⟨rfl, rfl⟩⟩
  next => exact (ambient.releaseActivationAmbient_same identities t).balanced balanced

theorem finish_balanced (identities : Identities) {ambient : Ambient} (balanced : ambient.Balanced)
    {t : Nat} (returned : ∀ bracket ∈ ambient.brackets, bracket.thread ≠ t) :
    (ambient.finish identities t).Balanced := by
  rw [finish]
  split
  next activation found =>
    split
    · have popped : ((ambient.deactivate t activation).popLogicalActivation identities t).Balanced :=
        popLogicalActivation_balanced identities ((deactivate_same found).balanced balanced) returned
      dsimp only
      split
      · split
        · exact popped
        · exact (claimActivationAmbient_same _ _).balanced popped
      · exact popped
    · exact balanced
  next => exact balanced

theorem step_balanced (identities : Identities) (action : Action) (ambient : Ambient)
    (balanced : ambient.Balanced) (possible : Possible action ambient) :
    (step identities action ambient).Balanced := by
  cases action with
  | resume t => exact openBracket_balanced balanced .resume t
  | withActivation t => exact openBracket_balanced balanced .activation t
  | close throws => exact closeBracket_balanced identities balanced throws
  | enterImplicitThread task t =>
      have same : SameBrackets ambient (step identities (.enterImplicitThread task t) ambient) :=
        ⟨rfl, rfl, rfl, rfl, fun _ => rfl, fun _ => rfl, id, id⟩
      exact same.balanced balanced
  | enter t => exact enter_balanced identities balanced possible.1 possible.2
  | enterDeferred t caller => exact enterDeferred_balanced identities balanced possible.1 possible.2 caller
  | exit t => exact finish_balanced identities balanced possible
  | abandon t =>
      have aborted := ambient.abort_same t
      refine popLogicalActivation_balanced identities (aborted.balanced balanced) ?_
      rw [aborted.brackets]
      exact possible
  | claim t => exact (ambient.claimActivationAmbient_same t).balanced balanced
  | builtin t => exact balanced
  | block task => exact (ambient.blockCurrentActivation_same identities task).balanced balanced
  | resumePoint index executing => exact (ambient.resumePoint_same index).balanced balanced
  | abandonPoint index => exact (ambient.waiting_same _).balanced balanced
  | settle t => exact (ambient.releasePendingOf_same identities t).balanced balanced

theorem initial_balanced : initial.Balanced where
  imbalance := rfl
  claims := List.nodup_nil
  layered := ⟨List.forall_mem_nil _, rfl⟩
  descends _ := List.forall_mem_nil _

theorem run_balanced (identities : Identities) {actions : List Action} {ambient : Ambient}
    (balanced : ambient.Balanced)
    (possible : Transition.Throughout (step identities) Possible actions ambient) :
    (Transition.runAll (step identities) actions ambient).Balanced :=
  possible.invariant (step_balanced identities) balanced

/-! ## Enclosed runs -/

theorem popLogicalActivation_brackets (identities : Identities) (ambient : Ambient) (t : Nat) :
    (ambient.popLogicalActivation identities t).brackets = ambient.brackets := by
  rw [popLogicalActivation]
  split
  · rfl
  · exact (ambient.releaseActivationAmbient_same identities t).brackets

theorem finish_brackets (identities : Identities) (ambient : Ambient) (t : Nat) :
    (ambient.finish identities t).brackets = ambient.brackets := by
  rw [finish]
  split
  next activation _ =>
    split
    · have popped := (ambient.deactivate t activation).popLogicalActivation_brackets identities t
      dsimp only
      split
      · split
        · exact popped
        · exact (claimActivationAmbient_same _ _).brackets.trans popped
      · exact popped
    · rfl
  next => rfl

theorem step_brackets (identities : Identities) (action : Action) (ambient : Ambient) :
    (∃ bracket, (step identities action ambient).brackets = bracket :: ambient.brackets) ∨
      (step identities action ambient).brackets = ambient.brackets.tail ∨
      (step identities action ambient).brackets = ambient.brackets := by
  cases action with
  | resume t => exact .inl ⟨_, rfl⟩
  | withActivation t => exact .inl ⟨_, rfl⟩
  | close throws =>
      refine .inr (.inl ?_)
      change (ambient.closeBracket identities throws).brackets = _
      rw [closeBracket]
      cases innermost : ambient.brackets with
      | nil => exact innermost
      | cons bracket outer =>
          have unwound := (ambient.unwind_same identities bracket).brackets
          cases throws with
          | false => exact congrArg List.tail innermost
          | true => exact congrArg List.tail (unwound.trans innermost)
  | enterImplicitThread task t => exact .inr (.inr rfl)
  | enter t => exact .inr (.inr rfl)
  | enterDeferred t caller =>
      exact .inr (.inr ((claimActivationAmbient_same _ t).brackets.trans
        (popLogicalActivation_brackets identities _ t)))
  | exit t => exact .inr (.inr (ambient.finish_brackets identities t))
  | abandon t =>
      exact .inr (.inr ((popLogicalActivation_brackets identities _ t).trans
        (ambient.abort_same t).brackets))
  | claim t => exact .inr (.inr (ambient.claimActivationAmbient_same t).brackets)
  | builtin t => exact .inr (.inr rfl)
  | block task => exact .inr (.inr (ambient.blockCurrentActivation_same identities task).brackets)
  | resumePoint index executing => exact .inr (.inr (ambient.resumePoint_same index).brackets)
  | abandonPoint index => exact .inr (.inr rfl)
  | settle t => exact .inr (.inr (ambient.releasePendingOf_same identities t).brackets)

/-- A step that the callers make possible and that closes no bracket of these. -/
def Encloses (identities : Identities) (outer : List Bracket) (action : Action)
    (ambient : Ambient) : Prop :=
  Possible action ambient ∧ outer.length ≤ (step identities action ambient).brackets.length

theorem enclosed_step {identities : Identities} {outer : List Bracket} {action : Action}
    {ambient : Ambient} (within : outer <:+ ambient.brackets)
    (encloses : Encloses identities outer action ambient) :
    outer <:+ (step identities action ambient).brackets := by
  rcases ambient.step_brackets identities action with ⟨bracket, opened⟩ | closed | same
  · rw [opened]
    exact within.trans (List.suffix_cons bracket _)
  · have enough := encloses.2
    rw [closed] at enough ⊢
    exact List.suffix_of_suffix_length_le within (List.tail_suffix _) enough
  · rw [same]
    exact within

theorem enclosed_run {identities : Identities} {outer : List Bracket} {inner : List Action}
    {ambient : Ambient} (balanced : ambient.Balanced) (within : outer <:+ ambient.brackets)
    (encloses : Transition.Throughout (step identities) (Encloses identities outer) inner ambient) :
    (Transition.runAll (step identities) inner ambient).Balanced ∧
      outer <:+ (Transition.runAll (step identities) inner ambient).brackets := by
  have preserved : ∀ action (state : Ambient), state.Balanced ∧ outer <:+ state.brackets →
      Encloses identities outer action state →
      (step identities action state).Balanced ∧
        outer <:+ (step identities action state).brackets :=
    fun action state kept allowed =>
      ⟨step_balanced identities action state kept.1 allowed.1, enclosed_step kept.2 allowed⟩
  exact encloses.invariant preserved ⟨balanced, within⟩

/-! ## Resolution -/

theorem resolve_top (identities : Identities) {ambient : Ambient} {top : Nat}
    (published : ambient.threadStack.head? = some top) :
    ambient.resolveAmbientForInstance identities (some (identities.instOf top)) = some top := by
  simp [resolveAmbientForInstance, published, Option.filter]

theorem resolve_declared {identities : Identities} {ambient : Ambient} {inst t : Nat}
    (resolved : ambient.resolveAmbientForInstance identities (some inst) = some t) :
    identities.instOf t = inst := by
  rw [resolveAmbientForInstance] at resolved
  split at resolved
  next top found =>
    cases resolved
    simpa using (Option.filter_eq_some_iff.mp found).2
  next => simpa using List.find?_some resolved

theorem published_inside {ambient : Ambient} (balanced : ambient.Balanced) {bracket : Bracket}
    {outer : List Bracket} (innermost : ambient.brackets = bracket :: outer) :
    ∃ top, ambient.threadStack.head? = some top ∧
      (top = bracket.thread ∨ ambient.isLogical top = true) ∧
      ambient.physicalOwnerOf top = ambient.physicalOwnerOf bracket.thread := by
  have layered := balanced.layered
  rw [innermost] at layered
  obtain ⟨⟨nested, stack, above⟩, _⟩ := layered
  cases nested with
  | nil => exact ⟨bracket.thread, by simp [stack], .inl rfl, rfl⟩
  | cons top nested =>
      obtain ⟨_, logical, physical⟩ := above top (by simp)
      exact ⟨top, by simp [stack], .inr logical, physical⟩

/-- What a bracket that closes now restores of the state that it was opened in. -/
structure Restores (identities : Identities) (before inside : Ambient) (t : Nat)
    (throws : Bool) : Prop where
  threadStack : (inside.closeBracket identities throws).threadStack = before.threadStack
  entryStack : (inside.closeBracket identities throws).entryStack = before.entryStack
  brackets : (inside.closeBracket identities throws).brackets = before.brackets
  imbalance : (inside.closeBracket identities throws).imbalance = none
  dropped : ∃ nested, inside.threadStack = nested ++ t :: before.threadStack ∧
    ∀ other ∈ nested, inside.isLogical other = true ∧
      inside.physicalOwnerOf other = inside.physicalOwnerOf t
  aborted : throws = true →
    (inside.closeBracket identities throws).logicalDescendants (inside.physicalOwnerOf t) = []

theorem restores_of_innermost (identities : Identities) {before inside : Ambient}
    (balanced : inside.Balanced) {kind : BracketKind} {t : Nat}
    (innermost : inside.brackets = (before.openBracket kind t).brackets) (throws : Bool) :
    Restores identities before inside t throws := by
  have closed := closeBracket_balanced identities balanced throws
  have opened : inside.brackets = before.bracketOf kind t :: before.brackets := innermost
  have layered := balanced.layered
  rw [opened] at layered
  obtain ⟨⟨nested, stack, above⟩, _⟩ := layered
  have dropped : ∃ nested, inside.threadStack = nested ++ t :: before.threadStack ∧
      ∀ other ∈ nested, inside.isLogical other = true ∧
        inside.physicalOwnerOf other = inside.physicalOwnerOf t :=
    ⟨nested, stack, fun other member => (above other member).2⟩
  cases throws with
  | false =>
      have closes : inside.closeBracket identities false =
          inside.leave (before.bracketOf kind t) := by
        rw [closeBracket, opened]
        rfl
      rw [leave_restores balanced opened] at closes
      exact ⟨by rw [closes]; rfl, by rw [closes]; rfl, by rw [closes], closed.imbalance, dropped,
        by simp⟩
  | true =>
      have unwound := inside.unwind_same identities (before.bracketOf kind t)
      have closes : inside.closeBracket identities true =
          (inside.unwind identities (before.bracketOf kind t)).leave
            (before.bracketOf kind t) := by
        rw [closeBracket, opened]
        rfl
      rw [leave_restores (unwound.balanced balanced) (unwound.brackets.trans opened)] at closes
      refine ⟨by rw [closes]; rfl, by rw [closes]; rfl, by rw [closes], closed.imbalance, dropped,
        fun _ => ?_⟩
      have none := abortLogicalChildren_none identities balanced.descends t
      rw [closes]
      change (inside.unwind identities (before.bracketOf kind t)).logicalDescendants _ = []
      cases kind with
      | activation => exact none
      | resume =>
          change ((inside.abortLogicalChildren identities t).releaseActivationAmbient identities
            t).logicalDescendants _ = []
          rw [releaseActivationAmbient_descendants]
          exact none

end Ambient

end Polyengine.Task
