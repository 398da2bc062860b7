import Mathlib.Data.List.Nodup
import Mathlib.Logic.Function.Basic

/-!
# Holding resources

Owners hold resources. A resource that has been issued has one owner that keeps it open, or it is
closed.
-/

set_option autoImplicit false

namespace Polyengine.Library

variable {Owner Resource : Type}

structure Holdings (held : Owner → List Resource) (issued closed : Resource → Prop) : Prop where
  nodup : ∀ owner, (held owner).Nodup
  known : ∀ owner, ∀ resource ∈ held owner, issued resource
  alone : ∀ owner other resource, resource ∈ held owner → resource ∈ held other → owner = other
  unclosed : ∀ owner, ∀ resource ∈ held owner, ¬ closed resource
  released : ∀ resource, issued resource → (∀ owner, resource ∉ held owner) → closed resource
  closedKnown : ∀ resource, closed resource → issued resource

namespace Holdings

variable {held : Owner → List Resource} {issued closed : Resource → Prop}

theorem congr {held' : Owner → List Resource} {issued' closed' : Resource → Prop}
    (holdings : Holdings held issued closed) (sameHeld : ∀ owner, held' owner = held owner)
    (sameIssued : ∀ resource, issued' resource ↔ issued resource)
    (sameClosed : ∀ resource, closed' resource ↔ closed resource) :
    Holdings held' issued' closed' := by
  obtain rfl : held' = held := funext sameHeld
  obtain rfl : issued' = issued := funext fun resource => propext (sameIssued resource)
  obtain rfl : closed' = closed := funext fun resource => propext (sameClosed resource)
  exact holdings

/-- Nothing has been issued yet. -/
theorem nothing (unissued : ∀ resource, ¬ issued resource)
    (unclosed : ∀ resource, ¬ closed resource) :
    Holdings (fun _ : Owner => ([] : List Resource)) issued closed where
  nodup := fun _ => List.nodup_nil
  known := fun _ => List.forall_mem_nil _
  alone := fun _ _ resource member => absurd member List.not_mem_nil
  unclosed := fun _ => List.forall_mem_nil _
  released := fun resource isIssued => absurd isIssued (unissued resource)
  closedKnown := fun resource isClosed => absurd isClosed (unclosed resource)

/-- An issued resource is open exactly while it has an owner. -/
theorem open_iff (holdings : Holdings held issued closed) {resource : Resource}
    (isIssued : issued resource) : ¬ closed resource ↔ ∃ owner, resource ∈ held owner := by
  constructor
  · intro unclosed
    by_cases owned : ∃ owner, resource ∈ held owner
    · exact owned
    · exact absurd (holdings.released resource isIssued (not_exists.mp owned)) unclosed
  · rintro ⟨owner, member⟩
    exact holdings.unclosed owner resource member

/-- A new resource is closed at once. -/
theorem refuse (holdings : Holdings held issued closed) {resource : Resource}
    (new : ¬ issued resource) :
    Holdings held (fun other => issued other ∨ other = resource)
      (fun other => closed other ∨ other = resource) where
  nodup := holdings.nodup
  known := fun owner other member => .inl (holdings.known owner other member)
  alone := holdings.alone
  unclosed := by
    rintro owner other member (isClosed | rfl)
    · exact holdings.unclosed owner other member isClosed
    · exact new (holdings.known owner other member)
  released := by
    rintro other (isIssued | same) unowned
    · exact .inl (holdings.released other isIssued unowned)
    · exact .inr same
  closedKnown := fun other => Or.imp_left (holdings.closedKnown other)

variable [DecidableEq Owner]

theorem mem_update {owner other : Owner} {resources : List Resource} {resource : Resource} :
    resource ∈ Function.update held owner resources other ↔
      (other = owner ∧ resource ∈ resources) ∨ (other ≠ owner ∧ resource ∈ held other) := by
  by_cases same : other = owner
  · subst same
    simp
  · simp [same]

/-- An owner gets a new resource. -/
theorem gain (holdings : Holdings held issued closed) {resource : Resource}
    (new : ¬ issued resource) (owner : Owner) :
    Holdings (Function.update held owner (held owner ++ [resource]))
      (fun other => issued other ∨ other = resource) closed := by
  have held' : ∀ who what, what ∈ Function.update held owner (held owner ++ [resource]) who ↔
      what ∈ held who ∨ (who = owner ∧ what = resource) := by
    intro who what
    rw [mem_update]
    by_cases same : who = owner
    · subst same
      simp
    · simp [same]
  have unheld : ∀ who, resource ∉ held who := fun who member => new (holdings.known who _ member)
  refine ⟨fun who => ?_, fun who what member => ?_, fun who other what left right => ?_,
    fun who what member => ?_, fun what isIssued unowned => ?_,
    fun what isClosed => .inl (holdings.closedKnown what isClosed)⟩
  · by_cases same : who = owner
    · subst same
      rw [Function.update_self]
      exact (holdings.nodup who).append (List.nodup_singleton _) (by simpa using unheld who)
    · rw [Function.update_of_ne same]
      exact holdings.nodup who
  · rcases (held' who what).mp member with old | ⟨_, same⟩
    · exact .inl (holdings.known who what old)
    · exact .inr same
  · rcases (held' who what).mp left with old | ⟨isOwner, rfl⟩
    · rcases (held' other what).mp right with old' | ⟨_, rfl⟩
      · exact holdings.alone who other what old old'
      · exact absurd old (unheld who)
    · rcases (held' other what).mp right with old' | ⟨isOwner', _⟩
      · exact absurd old' (unheld other)
      · exact isOwner.trans isOwner'.symm
  · rcases (held' who what).mp member with old | ⟨_, rfl⟩
    · exact holdings.unclosed who what old
    · exact fun isClosed => new (holdings.closedKnown what isClosed)
  · rcases isIssued with old | rfl
    · exact holdings.released what old fun who member => unowned who ((held' who what).mpr (.inl member))
    · exact absurd ((held' owner what).mpr (.inr ⟨rfl, rfl⟩)) (unowned owner)

/-- An owner lets go of all that it holds, which is closed. -/
theorem release (holdings : Holdings held issued closed) (owner : Owner) :
    Holdings (Function.update held owner []) issued
      (fun resource => closed resource ∨ resource ∈ held owner) := by
  have held' : ∀ who what, what ∈ Function.update held owner [] who ↔
      who ≠ owner ∧ what ∈ held who := by
    intro who what
    rw [mem_update]
    simp
  refine ⟨fun who => ?_, fun who what member => ?_, fun who other what left right => ?_,
    fun who what member => ?_, fun what isIssued unowned => ?_, fun what isClosed =>
    isClosed.elim (holdings.closedKnown what) (holdings.known owner what)⟩
  · by_cases same : who = owner
    · subst same
      rw [Function.update_self]
      exact List.nodup_nil
    · rw [Function.update_of_ne same]
      exact holdings.nodup who
  · exact holdings.known who what ((held' who what).mp member).2
  · exact holdings.alone who other what ((held' who what).mp left).2 ((held' other what).mp right).2
  · obtain ⟨different, old⟩ := (held' who what).mp member
    rintro (isClosed | own)
    · exact holdings.unclosed who what old isClosed
    · exact different (holdings.alone who owner what old own)
  · by_cases own : what ∈ held owner
    · exact .inr own
    · refine .inl (holdings.released what isIssued fun who member => ?_)
      by_cases same : who = owner
      · exact own (same ▸ member)
      · exact unowned who ((held' who what).mpr ⟨same, member⟩)

/-- An owner hands its first resource to one that holds nothing. -/
theorem move (holdings : Holdings held issued closed) {giver taker : Owner} {resource : Resource}
    {rest : List Resource} (first : held giver = resource :: rest) (empty : held taker = []) :
    Holdings (Function.update (Function.update held giver rest) taker [resource]) issued closed := by
  have nodup := holdings.nodup giver
  rw [first, List.nodup_cons] at nodup
  have distinct : giver ≠ taker := by
    rintro rfl
    rw [empty] at first
    cases first
  have held' : ∀ who what,
      what ∈ Function.update (Function.update held giver rest) taker [resource] who ↔
        (who = taker ∧ what = resource) ∨ (what ≠ resource ∧ what ∈ held who) := by
    intro who what
    rw [mem_update, mem_update]
    by_cases isTaker : who = taker
    · subst isTaker
      simp [empty]
    · by_cases isGiver : who = giver
      · subst isGiver
        have inRest : what ∈ rest → what ≠ resource := by
          rintro member rfl
          exact nodup.1 member
        simp only [distinct, first, List.mem_cons]
        grind
      · have unheld : what ∈ held who → what ≠ resource := by
          rintro member rfl
          exact isGiver (holdings.alone who giver what member (by simp [first]))
        grind
  refine ⟨fun who => ?_, fun who what member => ?_, fun who other what left right => ?_,
    fun who what member => ?_, fun what isIssued unowned => ?_, holdings.closedKnown⟩
  · by_cases isTaker : who = taker
    · subst isTaker
      rw [Function.update_self]
      exact List.nodup_singleton _
    · rw [Function.update_of_ne isTaker]
      by_cases isGiver : who = giver
      · subst isGiver
        rw [Function.update_self]
        exact nodup.2
      · rw [Function.update_of_ne isGiver]
        exact holdings.nodup who
  · rcases (held' who what).mp member with ⟨_, rfl⟩ | ⟨_, old⟩
    · exact holdings.known giver what (by simp [first])
    · exact holdings.known who what old
  · rcases (held' who what).mp left with ⟨isTaker, rfl⟩ | ⟨different, old⟩
    · rcases (held' other what).mp right with ⟨isTaker', _⟩ | ⟨different', _⟩
      · exact isTaker.trans isTaker'.symm
      · exact absurd rfl different'
    · rcases (held' other what).mp right with ⟨_, rfl⟩ | ⟨_, old'⟩
      · exact absurd rfl different
      · exact holdings.alone who other what old old'
  · rcases (held' who what).mp member with ⟨_, rfl⟩ | ⟨_, old⟩
    · exact holdings.unclosed giver what (by simp [first])
    · exact holdings.unclosed who what old
  · refine holdings.released what isIssued fun who member => ?_
    by_cases same : what = resource
    · exact unowned taker ((held' taker what).mpr (.inl ⟨rfl, same⟩))
    · exact unowned who ((held' who what).mpr (.inr ⟨same, member⟩))

end Holdings

end Polyengine.Library
