import Mathlib.Data.List.Nodup
import Mathlib.Logic.Function.Basic
import Polyengine.Embedder.Resources
import Polyengine.Library.Transition

/-!
# The registry of host resources

The representations of the instances of a host-implemented resource: fresh ones for each own and for
each borrow that is lowered, and gone when a borrow's scope ends, when an own comes back, and when the
guest drops one.
-/

set_option autoImplicit false

namespace Polyengine.Embedder

open Polyengine.Cabi Polyengine.Library

/-- An instance, named by its identity, and whether the guest owns it. -/
structure Registration where
  object : Nat
  owns : Bool
  deriving Repr, DecidableEq

structure HostResourceRegistry where
  byRep : Nat → Option Registration
  next : Nat

namespace HostResourceRegistry

def create : HostResourceRegistry where
  byRep _ := none
  next := 1

/-- `#register`; the value to register is an object, or anything else. -/
def register (registry : HostResourceRegistry) (value : Option Nat) (owns : Bool) :
    Except Failure (Nat × HostResourceRegistry) :=
  match value with
  | none => throw (Failure.thrown "TypeError")
  | some object =>
      return (registry.next,
        { byRep := Function.update registry.byRep registry.next (some { object, owns })
          next := registry.next + 1 })

def repFor (registry : HostResourceRegistry) (value : Option Nat) :
    Except Failure (Nat × HostResourceRegistry) := registry.register value true

def borrowFor (registry : HostResourceRegistry) (value : Option Nat) :
    Except Failure (Nat × HostResourceRegistry) := registry.register value false

def delete (registry : HostResourceRegistry) (rep : Nat) : HostResourceRegistry :=
  { registry with byRep := Function.update registry.byRep rep none }

def lookup (registry : HostResourceRegistry) (rep : Nat) : Except Failure Nat :=
  match registry.byRep rep with
  | none => throw invalidHandle
  | some entry => return entry.object

def release (registry : HostResourceRegistry) (rep : Nat) :
    Except Failure (Nat × HostResourceRegistry) := do
  let object ← registry.lookup rep
  return (object, registry.delete rep)

/-- `dtor`, and whether the instance is disposed. -/
def dtor (registry : HostResourceRegistry) (rep : Nat) : Bool × HostResourceRegistry :=
  match registry.byRep rep with
  | none => (false, registry)
  | some entry => if entry.owns then (true, registry.delete rep) else (false, registry)

end HostResourceRegistry

/-! ## Runs -/

/-- A registry with what happened to it: the registrations, the scopes of the borrows with whether
they ended, the representations that were disposed of, and those whose instance went back. -/
structure RegistryRun where
  registry : HostResourceRegistry
  registered : List (Nat × Registration)
  scopes : List (Nat × Bool)
  disposed : List Nat
  returned : List Nat

namespace RegistryRun

def start : RegistryRun where
  registry := .create
  registered := []
  scopes := []
  disposed := []
  returned := []

inductive Action where
  | lowerOwn (value : Option Nat)
  | lowerBorrow (value : Option Nat)
  | endScope (scope : Nat)
  | lookup (rep : Nat)
  | release (rep : Nat)
  | dtor (rep : Nat)
  deriving Repr, DecidableEq

def step : Action → RegistryRun → RegistryRun
  | .lowerOwn value, run =>
      match value, run.registry.repFor value with
      | some object, .ok (rep, registry) =>
          { run with
            registry
            registered := run.registered ++ [(rep, { object, owns := true })] }
      | _, _ => run
  | .lowerBorrow value, run =>
      match value, run.registry.borrowFor value with
      | some object, .ok (rep, registry) =>
          { run with
            registry
            registered := run.registered ++ [(rep, { object, owns := false })]
            scopes := run.scopes ++ [(rep, false)] }
      | _, _ => run
  | .endScope scope, run =>
      match run.scopes[scope]? with
      | some (rep, false) =>
          { run with
            registry := run.registry.delete rep
            scopes := run.scopes.set scope (rep, true) }
      | _ => run
  | .lookup _, run => run
  | .release rep, run =>
      match run.registry.release rep with
      | .ok (_, registry) => { run with registry, returned := run.returned ++ [rep] }
      | .error _ => run
  | .dtor rep, run =>
      let (disposes, registry) := run.registry.dtor rep
      { run with
        registry
        disposed := if disposes then run.disposed ++ [rep] else run.disposed }

section

attribute [local simp] step HostResourceRegistry.register HostResourceRegistry.lookup

end

/-- How often an owning registration has ended. -/
def ends (run : RegistryRun) (rep : Nat) : Nat := run.disposed.count rep + run.returned.count rep

/-- Registrations have their own representations, those in the registry are current, an owning one is
there until its one end, and a borrow is not there after its scope. -/
structure Sound (run : RegistryRun) : Prop where
  unique : (run.registered.map Prod.fst).Nodup
  issued : ∀ entry ∈ run.registered, entry.1 < run.registry.next
  current : ∀ rep entry, run.registry.byRep rep = some entry → (rep, entry) ∈ run.registered
  owned : ∀ entry ∈ run.registered, entry.2.owns = true →
    run.ends entry.1 = if (run.registry.byRep entry.1).isSome then 0 else 1
  closed : ∀ scope ∈ run.scopes,
    (∃ entry ∈ run.registered, entry.1 = scope.1 ∧ entry.2.owns = false) ∧
      (scope.2 = true → run.registry.byRep scope.1 = none)
  disposed : ∀ rep ∈ run.disposed, ∃ entry ∈ run.registered, entry.1 = rep ∧ entry.2.owns = true
  returned : ∀ rep ∈ run.returned, ∃ entry ∈ run.registered, entry.1 = rep

theorem start_sound : start.Sound := by
  constructor <;> simp [start, HostResourceRegistry.create]

section

variable {run : RegistryRun}

theorem Sound.owning_unique (sound : run.Sound) {first second : Nat × Registration}
    (firstMember : first ∈ run.registered) (secondMember : second ∈ run.registered)
    (same : first.1 = second.1) : first = second := by
  obtain ⟨rep, entry⟩ := first
  obtain ⟨rep', entry'⟩ := second
  cases same
  have entries := List.inj_on_of_nodup_map sound.unique firstMember secondMember rfl
  exact entries

theorem lookup_ok {registry : HostResourceRegistry} {rep object : Nat}
    (found : registry.lookup rep = .ok object) :
    ∃ entry, registry.byRep rep = some entry ∧ entry.object = object := by
  unfold HostResourceRegistry.lookup at found
  cases registered : registry.byRep rep with
  | none =>
      rw [registered] at found
      cases found
  | some entry =>
      rw [registered] at found
      cases found
      exact ⟨entry, rfl, rfl⟩

theorem release_ok {registry next : HostResourceRegistry} {rep object : Nat}
    (released : registry.release rep = .ok (object, next)) :
    (∃ entry, registry.byRep rep = some entry ∧ entry.object = object) ∧
      next = registry.delete rep := by
  unfold HostResourceRegistry.release at released
  cases found : registry.lookup rep with
  | error failure =>
      rw [found] at released
      cases released
  | ok object' =>
      rw [found] at released
      cases released
      exact ⟨lookup_ok found, rfl⟩

theorem byRep_delete {registry : HostResourceRegistry} {rep rep' : Nat} {entry : Registration}
    (found : (registry.delete rep).byRep rep' = some entry) :
    rep' ≠ rep ∧ registry.byRep rep' = some entry := by
  by_cases same : rep' = rep
  · cases same
    simp [HostResourceRegistry.delete] at found
  · simp only [HostResourceRegistry.delete, Function.update_of_ne same] at found
    exact ⟨same, found⟩

theorem Sound.next_fresh (sound : run.Sound) {entry : Nat × Registration}
    (member : entry ∈ run.registered) : entry.1 ≠ run.registry.next :=
  Nat.ne_of_lt (sound.issued entry member)

theorem Sound.ends_next (sound : run.Sound) : run.ends run.registry.next = 0 := by
  have notDisposed : run.registry.next ∉ run.disposed := by
    intro member
    obtain ⟨entry, registered, same, _⟩ := sound.disposed _ member
    exact sound.next_fresh registered same
  have notReturned : run.registry.next ∉ run.returned := by
    intro member
    obtain ⟨entry, registered, same⟩ := sound.returned _ member
    exact sound.next_fresh registered same
  simp [ends, List.count_eq_zero_of_not_mem notDisposed, List.count_eq_zero_of_not_mem notReturned]

theorem register_sound (sound : run.Sound) (entry : Registration)
    {scopes : List (Nat × Bool)}
    (opened : ∀ scope ∈ scopes, scope ∈ run.scopes ∨
      scope = (run.registry.next, false) ∧ entry.owns = false) :
    ({ run with
        registry :=
          { byRep := Function.update run.registry.byRep run.registry.next (some entry)
            next := run.registry.next + 1 }
        registered := run.registered ++ [(run.registry.next, entry)]
        scopes } : RegistryRun).Sound where
  unique := by
    simp only [List.map_append, List.map_cons, List.map_nil, List.nodup_append]
    refine ⟨sound.unique, List.nodup_singleton _, ?_⟩
    intro rep registered rep' fresh same
    obtain ⟨old, member, rfl⟩ := List.mem_map.mp registered
    cases List.mem_singleton.mp fresh
    exact sound.next_fresh member same
  issued := by
    intro old member
    rcases List.mem_append.mp member with member | member
    · exact Nat.lt_succ_of_lt (sound.issued old member)
    · cases List.mem_singleton.mp member
      exact Nat.lt_succ_self _
  current := by
    intro rep found registered
    by_cases same : rep = run.registry.next
    · cases same
      simp only [Function.update_self, Option.some.injEq] at registered
      cases registered
      exact List.mem_append_right _ (List.mem_singleton_self _)
    · simp only [Function.update_of_ne same] at registered
      exact List.mem_append_left _ (sound.current rep found registered)
  owned := by
    intro old member owning
    rcases List.mem_append.mp member with member | member
    · have live := sound.owned old member owning
      simp only [Function.update_of_ne (sound.next_fresh member)]
      exact live
    · cases List.mem_singleton.mp member
      simp only [Function.update_self, Option.isSome_some, if_true]
      exact sound.ends_next
  closed := by
    intro scope member
    rcases opened scope member with old | ⟨rfl, borrowed⟩
    · obtain ⟨⟨found, registered, same, borrowed⟩, gone⟩ := sound.closed scope old
      refine ⟨⟨found, List.mem_append_left _ registered, same, borrowed⟩, ?_⟩
      intro ended
      have other : scope.1 ≠ run.registry.next := same ▸ sound.next_fresh registered
      simp only [Function.update_of_ne other]
      exact gone ended
    · refine ⟨⟨_, List.mem_append_right _ (List.mem_singleton_self _), rfl, borrowed⟩, ?_⟩
      intro ended
      cases ended
  disposed := by
    intro rep member
    obtain ⟨found, registered, same, owning⟩ := sound.disposed rep member
    exact ⟨found, List.mem_append_left _ registered, same, owning⟩
  returned := by
    intro rep member
    obtain ⟨found, registered, same⟩ := sound.returned rep member
    exact ⟨found, List.mem_append_left _ registered, same⟩

theorem delete_sound (sound : run.Sound) (rep : Nat) {scopes : List (Nat × Bool)}
    {disposed returned : List Nat}
    (ended : ∀ scope ∈ scopes, ∃ old ∈ run.scopes, old.1 = scope.1 ∧
      (scope.2 = true → old.2 = true ∨ scope.1 = rep))
    (disposes : ∀ rep' ∈ disposed, rep' ∈ run.disposed ∨
      ∃ entry ∈ run.registered, entry.1 = rep' ∧ entry.2.owns = true)
    (returns : ∀ rep' ∈ returned, rep' ∈ run.returned ∨ ∃ entry ∈ run.registered, entry.1 = rep')
    (counts : ∀ entry ∈ run.registered, entry.2.owns = true →
      disposed.count entry.1 + returned.count entry.1 =
        if entry.1 = rep then 1 else run.ends entry.1) :
    (RegistryRun.mk (run.registry.delete rep) run.registered scopes disposed returned).Sound where
  unique := sound.unique
  issued := sound.issued
  current := by
    intro rep' entry found
    exact sound.current rep' entry (byRep_delete found).2
  owned := by
    intro entry member owning
    have count := counts entry member owning
    by_cases same : entry.1 = rep
    · rw [if_pos same] at count
      simpa [ends, HostResourceRegistry.delete, same] using count
    · rw [if_neg same, sound.owned entry member owning] at count
      simpa [ends, HostResourceRegistry.delete, same] using count
  closed := by
    intro scope member
    obtain ⟨old, oldMember, same, closing⟩ := ended scope member
    obtain ⟨registered, gone⟩ := sound.closed old oldMember
    rw [same] at registered gone
    refine ⟨registered, ?_⟩
    intro isEnded
    by_cases deleted : scope.1 = rep
    · simp [HostResourceRegistry.delete, deleted]
    · rcases closing isEnded with before | now
      · simpa [HostResourceRegistry.delete, deleted] using gone before
      · exact absurd now deleted
  disposed := by
    intro rep' member
    rcases disposes rep' member with old | new
    · exact sound.disposed rep' old
    · exact new
  returned := by
    intro rep' member
    rcases returns rep' member with old | new
    · exact sound.returned rep' old
    · exact new

theorem lowerOwn_sound (sound : run.Sound) (value : Option Nat) :
    (step (.lowerOwn value) run).Sound := by
  cases value with
  | none => exact sound
  | some object =>
      apply register_sound sound { object, owns := true }
      intro scope member
      exact Or.inl member

theorem lowerBorrow_sound (sound : run.Sound) (value : Option Nat) :
    (step (.lowerBorrow value) run).Sound := by
  cases value with
  | none => exact sound
  | some object =>
      apply register_sound sound { object, owns := false }
      intro scope member
      rcases List.mem_append.mp member with old | fresh
      · exact Or.inl old
      · exact Or.inr ⟨List.mem_singleton.mp fresh, rfl⟩

theorem endScope_sound (sound : run.Sound) (index : Nat) : (step (.endScope index) run).Sound := by
  cases found : run.scopes[index]? with
  | none => simpa only [step, found] using sound
  | some scope =>
      obtain ⟨rep, isEnded⟩ := scope
      cases isEnded with
      | true => simpa only [step, found] using sound
      | false =>
          simp only [step, found]
          have opened : (rep, false) ∈ run.scopes := List.mem_of_getElem? found
          apply delete_sound sound rep
          · intro scope member
            rcases List.mem_or_eq_of_mem_set member with old | rfl
            · exact ⟨scope, old, rfl, Or.inl⟩
            · exact ⟨_, opened, rfl, fun _ => Or.inr rfl⟩
          · intro rep' member
            exact Or.inl member
          · intro rep' member
            exact Or.inl member
          · intro entry member owning
            obtain ⟨⟨borrow, registered, same, borrowed⟩, _⟩ := sound.closed _ opened
            rw [if_neg, ends]
            intro isBorrow
            cases sound.owning_unique registered member (same.trans isBorrow.symm)
            rw [borrowed] at owning
            cases owning

theorem release_sound (sound : run.Sound) (rep : Nat) : (step (.release rep) run).Sound := by
  cases released : run.registry.release rep with
  | error failure => simpa only [step, released] using sound
  | ok result =>
      obtain ⟨object, registry⟩ := result
      obtain ⟨⟨entry, live, _⟩, rfl⟩ := release_ok released
      have registered : (rep, entry) ∈ run.registered := sound.current rep entry live
      simp only [step, released]
      apply delete_sound sound rep
      · intro scope member
        exact ⟨scope, member, rfl, Or.inl⟩
      · intro rep' member
        exact Or.inl member
      · intro rep' member
        rcases List.mem_append.mp member with old | fresh
        · exact Or.inl old
        · exact Or.inr ⟨_, registered, (List.mem_singleton.mp fresh).symm⟩
      · intro own member owning
        by_cases same : own.1 = rep
        · have unended := sound.owned own member owning
          rw [same, live] at unended
          simp only [ends, Option.isSome_some, if_true, Nat.add_eq_zero_iff] at unended
          simp [same, unended]
        · simp [same, ends, Ne.symm same]

theorem dtor_sound (sound : run.Sound) (rep : Nat) : (step (.dtor rep) run).Sound := by
  cases live : run.registry.byRep rep with
  | none => simpa [step, HostResourceRegistry.dtor, live] using sound
  | some entry =>
      cases owning : entry.owns with
      | false => simpa [step, HostResourceRegistry.dtor, live, owning] using sound
      | true =>
          have registered : (rep, entry) ∈ run.registered := sound.current rep entry live
          simp only [step, HostResourceRegistry.dtor, live, owning, if_true]
          apply delete_sound sound rep
          · intro scope member
            exact ⟨scope, member, rfl, Or.inl⟩
          · intro rep' member
            rcases List.mem_append.mp member with old | fresh
            · exact Or.inl old
            · exact Or.inr ⟨_, registered, (List.mem_singleton.mp fresh).symm, owning⟩
          · intro rep' member
            exact Or.inl member
          · intro own member owns
            by_cases same : own.1 = rep
            · have unended := sound.owned own member owns
              rw [same, live] at unended
              simp only [ends, Option.isSome_some, if_true, Nat.add_eq_zero_iff] at unended
              simp [same, unended]
            · simp [same, ends, Ne.symm same]

theorem step_sound (action : Action) (run : RegistryRun) (sound : run.Sound) :
    (step action run).Sound := by
  cases action with
  | lowerOwn value => exact lowerOwn_sound sound value
  | lowerBorrow value => exact lowerBorrow_sound sound value
  | endScope index => exact endScope_sound sound index
  | lookup rep => exact sound
  | release rep => exact release_sound sound rep
  | dtor rep => exact dtor_sound sound rep

theorem run_sound (actions : List Action) : (Transition.runAll step actions start).Sound :=
  Transition.runAll_invariant step_sound actions start_sound

/-! ## What a sound run says about the registrations -/

theorem Sound.ended_unreachable (sound : run.Sound) {rep : Nat} (ended : (rep, true) ∈ run.scopes) :
    run.registry.lookup rep = .error invalidHandle ∧
      run.registry.release rep = .error invalidHandle ∧
      run.registry.dtor rep = (false, run.registry) := by
  obtain ⟨_, gone⟩ := sound.closed _ ended
  have absent : run.registry.byRep rep = none := gone rfl
  have unfound : run.registry.lookup rep = .error invalidHandle := by
    simp only [HostResourceRegistry.lookup, absent]
    rfl
  refine ⟨unfound, ?_, ?_⟩
  · simp only [HostResourceRegistry.release, unfound]
    rfl
  · simp only [HostResourceRegistry.dtor, absent]

theorem Sound.borrow_undisposed (sound : run.Sound) {entry : Nat × Registration}
    (member : entry ∈ run.registered) (borrowed : entry.2.owns = false) :
    entry.1 ∉ run.disposed := by
  intro disposed
  obtain ⟨own, registered, same, owning⟩ := sound.disposed _ disposed
  cases sound.owning_unique registered member same
  rw [borrowed] at owning
  cases owning

end

end RegistryRun

end Polyengine.Embedder
