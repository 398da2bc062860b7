import Polyengine.Embedder.HostResourceRegistry

/-!
# The lifecycle of a resource wrapper

One wrapper of a resource that the guest gave to the host, with the calls that borrow it, its transfer
back to a guest, and the ends of its responsibility: a drop, its finalization, and the rollback of a
delivery that fails.
-/

set_option autoImplicit false

namespace Polyengine.Embedder

open Polyengine.Cabi Polyengine.Library

/-- An own that left its wrapper: the custody of its transfer holds it until the receiver has it, or
until the cleanup destroys it. -/
inductive Transit where
  | inCustody
  | delivered
  | rolledBack
  deriving Repr, DecidableEq

/-- The destructors that the resource is still owed outside of its wrapper. -/
def Transit.owed : Option Transit → Nat
  | some .inCustody | some .delivered => 1
  | none | some .rolledBack => 0

/-- A wrapper with the release closures of its lends, each with whether it ran, and with how often the
destructor was started. -/
structure WrapperRun where
  wrapper : WrapperState
  releases : List Bool
  transit : Option Transit
  dropped : Bool
  destructors : Nat

namespace WrapperRun

/-- The wrapper of an own that was lifted. -/
def start (rep rt : Nat) : WrapperRun where
  wrapper := .make rep rt true
  releases := []
  transit := none
  dropped := false
  destructors := 0

/-- A checkpoint that does not pass throws before the lowering has an effect. -/
inductive Action where
  | lowerBorrow (rt : Nat) (passes : Bool)
  | release (lend : Nat)
  | lowerOwn (rt : Nat) (passes : Bool)
  | delivered
  | cleanup (held : Bool)
  | drop
  | finalize
  deriving Repr, DecidableEq

def step : Action → WrapperRun → WrapperRun
  | .lowerBorrow rt passes, run =>
      match run.wrapper.takeBorrowRep rt, passes with
      | .ok (_, wrapper), true => { run with wrapper, releases := run.releases ++ [false] }
      | _, _ => run
  | .release lend, run =>
      match run.releases[lend]? with
      | some false =>
          let (destroys, wrapper) := run.wrapper.releaseLend
          { run with
            wrapper
            releases := run.releases.set lend true
            destructors := run.destructors + destroys.toNat }
      | _ => run
  | .lowerOwn rt passes, run =>
      match run.wrapper.takeRep rt, passes with
      | .ok (_, wrapper), true => { run with wrapper, transit := some .inCustody }
      | _, _ => run
  | .delivered, run =>
      match run.transit with
      | some .inCustody => { run with transit := some .delivered }
      | _ => run
  | .cleanup held, run =>
      match run.transit with
      | some .inCustody =>
          -- a receiver that moved the handle on during reentry keeps it
          if held then
            { run with transit := some .rolledBack, destructors := run.destructors + 1 }
          else { run with transit := some .delivered }
      | _ => run
  | .drop, run =>
      let (destroys, wrapper) := run.wrapper.drop
      { run with wrapper, dropped := true, destructors := run.destructors + destroys.toNat }
  | .finalize, run =>
      let (destroys, wrapper) := run.wrapper.runBackstop
      { run with wrapper, dropped := true, destructors := run.destructors + destroys.toNat }

section

attribute [local simp] step

end

/-- The lends that are not released. -/
def outstanding (run : WrapperRun) : Nat := run.releases.count false

/-- The wrapper, its transfer and the destructor account for the one resource; the wrapper counts its
outstanding lends, and there is none once the resource has left it. -/
structure Accounts (run : WrapperRun) : Prop where
  sound : run.wrapper.Sound
  owns : run.wrapper.owns = true
  lends : run.wrapper.lends = run.outstanding
  once : run.destructors + run.wrapper.responsible.toNat + Transit.owed run.transit = 1
  unlent : 0 < run.destructors → run.outstanding = 0
  transferred : run.transit.isSome → run.wrapper.valid = false ∧ run.outstanding = 0
  dropped : run.dropped = true → run.wrapper.valid = false

theorem start_accounts (rep rt : Nat) : (start rep rt).Accounts where
  sound := WrapperState.make_sound rep rt true
  owns := rfl
  lends := rfl
  once := rfl
  unlent := by
    intro destroyed
    cases destroyed
  transferred := by
    intro moved
    cases moved
  dropped := by
    intro isDropped
    cases isDropped

section

variable {run : WrapperRun}

theorem Accounts.of_valid (accounts : run.Accounts) (valid : run.wrapper.valid = true) :
    run.destructors = 0 ∧ run.transit = none ∧ run.dropped = false := by
  have once := accounts.once
  simp only [WrapperState.responsible, accounts.owns, valid, Bool.true_or, Bool.and_self,
    Bool.toNat_true] at once
  refine ⟨by omega, ?_, ?_⟩
  · cases moved : run.transit with
    | none => rfl
    | some transit =>
        have invalid := (accounts.transferred (by simp [moved])).1
        rw [valid] at invalid
        cases invalid
  · cases isDropped : run.dropped with
    | false => rfl
    | true =>
        have invalid := accounts.dropped isDropped
        rw [valid] at invalid
        cases invalid

theorem Accounts.irresponsible (accounts : run.Accounts) (invalid : run.wrapper.valid = false)
    (unlent : run.outstanding = 0) : run.wrapper.responsible = false := by
  cases pending : run.wrapper.pendingDrop with
  | false => simp [WrapperState.responsible, invalid, pending]
  | true =>
      obtain ⟨_, lent, _⟩ := accounts.sound.deferred pending
      rw [accounts.lends, unlent] at lent
      exact absurd lent (Nat.lt_irrefl 0)

theorem lowerBorrow_accounts (accounts : run.Accounts) (rt : Nat) (passes : Bool) :
    (step (.lowerBorrow rt passes) run).Accounts := by
  cases taken : run.wrapper.takeBorrowRep rt with
  | error failure => simpa only [step, taken] using accounts
  | ok result =>
      cases passes with
      | false => simpa only [step, taken] using accounts
      | true =>
          obtain ⟨rep, wrapper⟩ := result
          obtain ⟨valid, rfl⟩ := WrapperState.takeBorrowRep_ok taken
          obtain ⟨intact, unmoved, undropped⟩ := accounts.of_valid valid
          simp only [step, taken]
          exact {
            sound := ⟨by
              intro pending
              have invalid := (accounts.sound.deferred pending).1
              rw [valid] at invalid
              cases invalid⟩
            owns := accounts.owns
            lends := by simp [outstanding, accounts.lends]
            once := accounts.once
            unlent := by
              intro destroyed
              exact absurd intact (Nat.ne_of_gt destroyed)
            transferred := by
              intro moved
              rw [unmoved] at moved
              cases moved
            dropped := accounts.dropped }

theorem release_accounts (accounts : run.Accounts) (lend : Nat) :
    (step (.release lend) run).Accounts := by
  cases found : run.releases[lend]? with
  | none => simpa only [step, found] using accounts
  | some released =>
      cases released with
      | true => simpa only [step, found] using accounts
      | false =>
          have counted : (run.releases.set lend true).count false = run.outstanding - 1 := by
            obtain ⟨bound, isFalse⟩ := List.getElem?_eq_some_iff.mp found
            simp [outstanding, List.count_set bound, isFalse]
          have lent : 0 < run.wrapper.lends := by
            rw [accounts.lends]
            exact List.count_pos_iff.mpr (List.mem_of_getElem? found)
          obtain ⟨sound, owns, valid, lends, once, last⟩ :=
            WrapperState.releaseLend_ok accounts.sound lent
          simp only [step, found]
          exact {
            sound
            owns := owns.trans accounts.owns
            lends := by
              rw [lends, accounts.lends]
              exact counted.symm
            once := by
              have before := accounts.once
              change run.destructors + run.wrapper.releaseLend.1.toNat +
                run.wrapper.releaseLend.2.responsible.toNat + Transit.owed run.transit = 1
              omega
            unlent := by
              intro destroyed
              cases destroys : run.wrapper.releaseLend.1 with
              | true =>
                  have only := last destroys
                  rw [accounts.lends] at only
                  change (run.releases.set lend true).count false = 0
                  rw [counted, only]
              | false =>
                  simp only [destroys, Bool.toNat_false, Nat.add_zero] at destroyed
                  rw [accounts.lends, accounts.unlent destroyed] at lent
                  exact absurd lent (Nat.lt_irrefl 0)
            transferred := by
              intro moved
              obtain ⟨invalid, unlent⟩ := accounts.transferred moved
              rw [accounts.lends, unlent] at lent
              exact absurd lent (Nat.lt_irrefl 0)
            dropped := by
              intro isDropped
              exact valid.trans (accounts.dropped isDropped) }

theorem lowerOwn_accounts (accounts : run.Accounts) (rt : Nat) (passes : Bool) :
    (step (.lowerOwn rt passes) run).Accounts := by
  cases taken : run.wrapper.takeRep rt with
  | error failure => simpa only [step, taken] using accounts
  | ok result =>
      cases passes with
      | false => simpa only [step, taken] using accounts
      | true =>
          obtain ⟨rep, wrapper⟩ := result
          obtain ⟨valid, owns, unlent, rfl⟩ := WrapperState.takeRep_ok taken
          obtain ⟨intact, _, undropped⟩ := accounts.of_valid valid
          have free : run.outstanding = 0 := accounts.lends.symm.trans unlent
          have settled : run.wrapper.pendingDrop = false := by
            cases pending : run.wrapper.pendingDrop with
            | false => rfl
            | true =>
                have invalid := (accounts.sound.deferred pending).1
                rw [valid] at invalid
                cases invalid
          simp only [step, taken]
          exact {
            sound := ⟨by
              intro pending
              rw [settled] at pending
              cases pending⟩
            owns
            lends := accounts.lends
            once := by simp [WrapperState.responsible, settled, intact, Transit.owed]
            unlent := by
              intro _
              exact free
            transferred := by
              intro _
              exact ⟨rfl, free⟩
            dropped := by
              intro _
              rfl }

theorem settle_accounts (accounts : run.Accounts) (moving : run.transit = some .inCustody)
    {transit : Transit} {destroys : Nat} (settles : destroys + Transit.owed (some transit) = 1) :
    ({ run with transit := some transit, destructors := run.destructors + destroys } :
      WrapperRun).Accounts := by
  obtain ⟨invalid, unlent⟩ := accounts.transferred (by simp [moving])
  have once := accounts.once
  rw [moving] at once
  exact {
    sound := accounts.sound
    owns := accounts.owns
    lends := accounts.lends
    once := by
      have owed : Transit.owed (some .inCustody) = 1 := rfl
      change run.destructors + destroys + run.wrapper.responsible.toNat +
        Transit.owed (some transit) = 1
      omega
    unlent := by
      intro _
      exact unlent
    transferred := by
      intro _
      exact ⟨invalid, unlent⟩
    dropped := accounts.dropped }

theorem delivered_accounts (accounts : run.Accounts) : (step .delivered run).Accounts := by
  cases moving : run.transit with
  | none => simpa only [step, moving] using accounts
  | some transit =>
      cases transit with
      | inCustody =>
          simp only [step, moving]
          exact @settle_accounts run accounts moving .delivered 0 rfl
      | delivered | rolledBack => simpa only [step, moving] using accounts

theorem cleanup_accounts (accounts : run.Accounts) (held : Bool) :
    (step (.cleanup held) run).Accounts := by
  cases moving : run.transit with
  | none => simpa only [step, moving] using accounts
  | some transit =>
      cases transit with
      | inCustody =>
          cases held with
          | true =>
              simp only [step, moving]
              exact @settle_accounts run accounts moving .rolledBack 1 rfl
          | false =>
              simp only [step, moving]
              exact @settle_accounts run accounts moving .delivered 0 rfl
      | delivered | rolledBack => simpa only [step, moving] using accounts

theorem drop_accounts (accounts : run.Accounts) : (step .drop run).Accounts := by
  obtain ⟨sound, owns, valid, lends, once, unlent⟩ :=
    WrapperState.drop_ok accounts.sound accounts.owns
  exact {
    sound
    owns
    lends := lends.trans accounts.lends
    once := by
      have before := accounts.once
      change run.destructors + run.wrapper.drop.1.toNat +
        run.wrapper.drop.2.responsible.toNat + Transit.owed run.transit = 1
      omega
    unlent := by
      intro destroyed
      cases destroys : run.wrapper.drop.1 with
      | true => exact accounts.lends.symm.trans (unlent destroys)
      | false =>
          simp only [step, destroys, Bool.toNat_false, Nat.add_zero] at destroyed
          exact accounts.unlent destroyed
    transferred := by
      intro moved
      exact ⟨valid, (accounts.transferred moved).2⟩
    dropped := by
      intro _
      exact valid }

theorem finalize_eq_drop (owns : run.wrapper.owns = true) : step .finalize run = step .drop run := by
  simp only [step, WrapperState.runBackstop_eq_drop owns]

theorem step_accounts (action : Action) (run : WrapperRun) (accounts : run.Accounts) :
    (step action run).Accounts := by
  cases action with
  | lowerBorrow rt passes => exact lowerBorrow_accounts accounts rt passes
  | release lend => exact release_accounts accounts lend
  | lowerOwn rt passes => exact lowerOwn_accounts accounts rt passes
  | delivered => exact delivered_accounts accounts
  | cleanup held => exact cleanup_accounts accounts held
  | drop => exact drop_accounts accounts
  | finalize =>
      rw [finalize_eq_drop accounts.owns]
      exact drop_accounts accounts

theorem run_accounts (rep rt : Nat) (actions : List Action) :
    (Transition.runAll step actions (start rep rt)).Accounts :=
  Transition.runAll_invariant step_accounts actions (start_accounts rep rt)

/-! ## What the accounts say -/

theorem Accounts.at_most_once (accounts : run.Accounts) : run.destructors ≤ 1 := by
  have once := accounts.once
  omega

theorem Accounts.dropped_once (accounts : run.Accounts) (isDropped : run.dropped = true)
    (unmoved : run.transit = none) (unlent : run.outstanding = 0) : run.destructors = 1 := by
  have once := accounts.once
  rw [accounts.irresponsible (accounts.dropped isDropped) unlent, unmoved] at once
  exact once

theorem Accounts.of_takeRep (accounts : run.Accounts) {rt rep : Nat} {wrapper : WrapperState}
    (taken : run.wrapper.takeRep rt = .ok (rep, wrapper)) :
    run.outstanding = 0 ∧ run.dropped = false ∧ run.transit = none := by
  obtain ⟨valid, _, unlent, _⟩ := WrapperState.takeRep_ok taken
  obtain ⟨_, unmoved, undropped⟩ := accounts.of_valid valid
  exact ⟨accounts.lends.symm.trans unlent, undropped, unmoved⟩

theorem Accounts.drop_transferred (accounts : run.Accounts) (moved : run.transit.isSome) :
    (step .drop run).destructors = run.destructors ∧
      (step .finalize run).destructors = run.destructors := by
  obtain ⟨invalid, _⟩ := accounts.transferred moved
  rw [finalize_eq_drop accounts.owns]
  simp [step, WrapperState.drop, invalid]

end

/-- The lifecycle: the destructor is started at most once, once if the wrapper was dropped and not
transferred and its lends are over, never while it is lent, and never by a wrapper that was
transferred; a transfer needs a wrapper that is not lent, not dropped and not transferred. -/
structure Lifecycle (run : WrapperRun) : Prop where
  atMostOnce : run.destructors ≤ 1
  exactlyOnce : run.dropped = true → run.transit = none → run.outstanding = 0 → run.destructors = 1
  unlent : 0 < run.destructors → run.outstanding = 0
  transfers : ∀ rt rep wrapper, run.wrapper.takeRep rt = .ok (rep, wrapper) →
    run.outstanding = 0 ∧ run.dropped = false ∧ run.transit = none
  transferred : run.transit.isSome →
    (step .drop run).destructors = run.destructors ∧
      (step .finalize run).destructors = run.destructors

theorem Accounts.lifecycle {run : WrapperRun} (accounts : run.Accounts) : run.Lifecycle where
  atMostOnce := accounts.at_most_once
  exactlyOnce := accounts.dropped_once
  unlent := accounts.unlent
  transfers := by
    intro rt rep wrapper taken
    exact accounts.of_takeRep taken
  transferred := accounts.drop_transferred

end WrapperRun

/-- The lifecycle of registrations: each has its own representation, a borrow is out of reach after its
scope and is not disposed of, and an own has ended once if the registry does not have it any more. -/
structure RegistryRun.Lifecycle (run : RegistryRun) : Prop where
  unique : (run.registered.map Prod.fst).Nodup
  unreachable : ∀ rep, (rep, true) ∈ run.scopes →
    run.registry.lookup rep = .error invalidHandle ∧
      run.registry.release rep = .error invalidHandle ∧
      run.registry.dtor rep = (false, run.registry)
  undisposed : ∀ entry ∈ run.registered, entry.2.owns = false → entry.1 ∉ run.disposed
  ended : ∀ entry ∈ run.registered, entry.2.owns = true →
    run.disposed.count entry.1 + run.returned.count entry.1 =
      if (run.registry.byRep entry.1).isSome then 0 else 1

theorem RegistryRun.Sound.lifecycle {run : RegistryRun} (sound : run.Sound) : run.Lifecycle where
  unique := sound.unique
  unreachable := by
    intro rep ended
    exact sound.ended_unreachable ended
  undisposed := by
    intro entry member borrowed
    exact sound.borrow_undisposed member borrowed
  ended := sound.owned

/-- A drop while the wrapper is lent waits for the release. -/
example : (Transition.runAll WrapperRun.step [.lowerBorrow 0 true, .drop, .release 0, .finalize]
    (.start 5 0)).destructors = 1 := by decide

end Polyengine.Embedder
