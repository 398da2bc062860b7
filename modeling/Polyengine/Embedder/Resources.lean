import Mathlib.Tactic.MkIffOfInductiveProp
import Polyengine.Cabi.Trap

/-!
# Resource wrappers

The state of a guest resource that host code holds: it is valid until it is dropped or transferred,
and it counts the calls that it is lent to.
-/

set_option autoImplicit false

namespace Polyengine.Embedder

open Polyengine.Cabi

/-- The fields of `WrapperState` that its operations use; `rt` is the type of the resource. -/
structure WrapperState where
  rep : Nat
  valid : Bool
  owns : Bool
  rt : Nat
  lends : Nat
  pendingDrop : Bool
  deriving Repr, DecidableEq

def invalidHandle : Failure := .thrown "InvalidHandleError"

namespace WrapperState

/-- `makeWrapper`. -/
def make (rep rt : Nat) (owns : Bool) : WrapperState where
  rep
  valid := true
  owns
  rt
  lends := 0
  pendingDrop := false

def requireLive (s : WrapperState) : Except Failure Unit :=
  if s.valid then return () else throw invalidHandle

/-- `takeRep` of an own; the wrapper must not run the destructor any more. -/
def takeRep (rt : Nat) (s : WrapperState) : Except Failure (Nat × WrapperState) := do
  s.requireLive
  if s.rt ≠ rt then throw invalidHandle
  if s.owns = false then throw invalidHandle
  if 0 < s.lends then throw invalidHandle
  return (s.rep, { s with valid := false })

/-- `takeBorrowRep`. -/
def takeBorrowRep (rt : Nat) (s : WrapperState) : Except Failure (Nat × WrapperState) := do
  s.requireLive
  if s.rt ≠ rt then throw invalidHandle
  return (s.rep, { s with lends := s.lends + 1 })

/-- `dropWrapper`, and whether the destructor runs now. -/
def drop (s : WrapperState) : Bool × WrapperState :=
  if s.valid = false then (false, s)
  else if s.owns = false then (false, { s with valid := false })
  else if 0 < s.lends then (false, { s with valid := false, pendingDrop := true })
  else (true, { s with valid := false })

/-- The backstop of the finalization registry. -/
def runBackstop (s : WrapperState) : Bool × WrapperState :=
  if s.valid = false ∨ s.owns = false then (false, s)
  else if 0 < s.lends then (false, { s with valid := false, pendingDrop := true })
  else (true, { s with valid := false })

/-- `releaseLend`, and whether the deferred destructor runs now. -/
def releaseLend (s : WrapperState) : Bool × WrapperState :=
  let s := { s with lends := s.lends - 1 }
  if 0 < s.lends ∨ s.pendingDrop = false then (false, s)
  else (true, { s with pendingDrop := false })

def responsible (s : WrapperState) : Bool := s.owns && (s.valid || s.pendingDrop)

@[mk_iff]
structure Sound (s : WrapperState) : Prop where
  deferred : s.pendingDrop = true → s.valid = false ∧ 0 < s.lends ∧ s.owns = true

theorem make_sound (rep rt : Nat) (owns : Bool) : (make rep rt owns).Sound where
  deferred := by
    intro pending
    cases pending

section

variable {s next : WrapperState}

theorem takeRep_ok {rt rep : Nat} (taken : s.takeRep rt = .ok (rep, next)) :
    s.valid = true ∧ s.owns = true ∧ s.lends = 0 ∧ next = { s with valid := false } := by
  obtain ⟨rep', valid, owns, rt', lends, pendingDrop⟩ := s
  cases valid with
  | false => cases taken
  | true =>
      simp only [takeRep, requireLive, if_true, pure_bind] at taken
      by_cases mismatch : rt' ≠ rt
      · simp only [if_pos mismatch] at taken
        cases taken
      · cases owns with
        | false =>
            simp only [if_neg mismatch, if_true] at taken
            cases taken
        | true =>
            by_cases lent : 0 < lends
            · simp only [if_neg mismatch, Bool.true_eq_false, if_false, if_pos lent] at taken
              cases taken
            · simp only [if_neg mismatch, Bool.true_eq_false, if_false, if_neg lent] at taken
              cases taken
              exact ⟨rfl, rfl, Nat.eq_zero_of_not_pos lent, rfl⟩

theorem takeBorrowRep_ok {rt rep : Nat} (taken : s.takeBorrowRep rt = .ok (rep, next)) :
    s.valid = true ∧ next = { s with lends := s.lends + 1 } := by
  obtain ⟨rep', valid, owns, rt', lends, pendingDrop⟩ := s
  cases valid with
  | false => cases taken
  | true =>
      simp only [takeBorrowRep, requireLive, if_true, pure_bind] at taken
      by_cases mismatch : rt' ≠ rt
      · simp only [if_pos mismatch] at taken
        cases taken
      · simp only [if_neg mismatch] at taken
        cases taken
        exact ⟨rfl, rfl⟩

theorem runBackstop_eq_drop (owning : s.owns = true) : s.runBackstop = s.drop := by
  simp [runBackstop, drop, owning]

/-- A drop of an own keeps the lends; it ends the responsibility exactly when the destructor runs now,
which is when no call borrows the wrapper. -/
theorem drop_ok (sound : s.Sound) (owning : s.owns = true) :
    s.drop.2.Sound ∧ s.drop.2.owns = true ∧ s.drop.2.valid = false ∧ s.drop.2.lends = s.lends ∧
      s.drop.1.toNat + s.drop.2.responsible.toNat = s.responsible.toNat ∧
      (s.drop.1 = true → s.lends = 0) := by
  obtain ⟨rep, valid, owns, rt, lends, pendingDrop⟩ := s
  obtain ⟨deferred⟩ := sound
  cases owning
  cases valid with
  | false => exact ⟨⟨deferred⟩, rfl, rfl, rfl, by simp [drop, responsible], by simp [drop]⟩
  | true =>
      cases pendingDrop with
      | true => cases (deferred rfl).1
      | false =>
          by_cases lent : 0 < lends
          · simp [drop, responsible, lent, sound_iff]
          · simp [drop, responsible, sound_iff, Nat.eq_zero_of_not_pos lent]

theorem releaseLend_ok (sound : s.Sound) (lent : 0 < s.lends) :
    s.releaseLend.2.Sound ∧ s.releaseLend.2.owns = s.owns ∧ s.releaseLend.2.valid = s.valid ∧
      s.releaseLend.2.lends = s.lends - 1 ∧
      s.releaseLend.1.toNat + s.releaseLend.2.responsible.toNat = s.responsible.toNat ∧
      (s.releaseLend.1 = true → s.lends = 1) := by
  obtain ⟨rep, valid, owns, rt, lends, pendingDrop⟩ := s
  obtain ⟨deferred⟩ := sound
  have positive : 0 < lends := lent
  cases pendingDrop with
  | false => simp [releaseLend, responsible, sound_iff]
  | true =>
      obtain ⟨invalid, _, owning⟩ := deferred rfl
      simp only at invalid owning
      subst invalid owning
      by_cases more : 0 < lends - 1
      · simp [releaseLend, responsible, more, sound_iff]
      · have last : lends = 1 := by omega
        simp [releaseLend, responsible, last, sound_iff]

end

end WrapperState

end Polyengine.Embedder
