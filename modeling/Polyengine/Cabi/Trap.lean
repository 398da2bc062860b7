import Polyengine.Library.Command
import Polyengine.Library.Program

/-!
# Traps and internal assertions

The runtime separates faults of the guest (`Trap`) from faults of the runtime itself
(`AssertionError`, and the host's own `RangeError`).
-/

set_option autoImplicit false

namespace Polyengine.Cabi

open Polyengine.Library

/-- What a canonical built-in can throw. -/
inductive Failure where
  | trap (message : String)
  | assertion (message : String)
  | rangeError (message : String)
  /-- A failure that lifting or lowering one element raised inside a copy. -/
  | element (inner : Failure)
  /-- Any other value thrown: an error of host code or a signal of the runtime. -/
  | thrown (value : String)
  deriving Repr, DecidableEq

namespace Failure

/-- The guest-visible fault. -/
def IsTrap : Failure → Prop
  | .trap _ => True
  | _ => False

@[simp] theorem isTrap_trap (message : String) : (Failure.trap message).IsTrap := trivial

@[simp] theorem not_isTrap_assertion (message : String) :
    ¬(Failure.assertion message).IsTrap := id

@[simp] theorem not_isTrap_rangeError (message : String) :
    ¬(Failure.rangeError message).IsTrap := id

@[simp] theorem not_isTrap_thrown (value : String) : ¬(Failure.thrown value).IsTrap := id

end Failure

section

variable {Monadic : Type → Type} [Monad Monadic] [MonadExceptOf Failure Monadic]

/-- `trapIf`: raise a trap when the condition holds. -/
def trapIf (condition : Prop) [Decidable condition] (message : String) : Monadic Unit :=
  if condition then throwThe Failure (.trap message) else pure ()

/-- `assert_`: raise an internal error when the condition fails. -/
def assert_ (condition : Prop) [Decidable condition] (message : String) : Monadic Unit :=
  if condition then pure () else throwThe Failure (.assertion message)

end

section Except

variable {condition : Prop} [Decidable condition] {message : String}

@[simp] theorem trapIf_eq_ok (value : Unit) :
    (trapIf condition message : Except Failure Unit) = .ok value ↔ ¬condition := by
  by_cases holds : condition <;>
    simp [trapIf, holds, throwThe, MonadExceptOf.throw, pure, Except.pure]

@[simp] theorem trapIf_eq_error (failure : Failure) :
    (trapIf condition message : Except Failure Unit) = .error failure ↔
      condition ∧ failure = .trap message := by
  by_cases holds : condition <;>
    simp [trapIf, holds, throwThe, MonadExceptOf.throw, pure, Except.pure, eq_comm]

@[simp] theorem assert_eq_ok (value : Unit) :
    (assert_ condition message : Except Failure Unit) = .ok value ↔ condition := by
  by_cases holds : condition <;>
    simp [assert_, holds, throwThe, MonadExceptOf.throw, pure, Except.pure]

theorem assert_ok (holds : condition) :
    (assert_ condition message : Except Failure Unit) = .ok () := (assert_eq_ok ()).mpr holds

@[simp] theorem assert_eq_error (failure : Failure) :
    (assert_ condition message : Except Failure Unit) = .error failure ↔
      ¬condition ∧ failure = .assertion message := by
  by_cases holds : condition <;>
    simp [assert_, holds, throwThe, MonadExceptOf.throw, pure, Except.pure, eq_comm]

end Except

section Fallible

variable {condition : Prop} [Decidable condition] {message : String} {permitted : Failure → Prop}

@[simp] theorem satisfies_trapIf (post : Unit → Prop) :
    Fallible.Satisfies permitted (trapIf condition message : Except Failure Unit) post ↔
      (condition → permitted (.trap message)) ∧ (¬condition → post ()) := by
  by_cases holds : condition
  · simp only [trapIf, holds, if_true, not_true, true_implies, false_implies, and_true]
    exact Iff.rfl
  · simp only [trapIf, holds, if_false, not_false_eq_true, true_implies, false_implies, true_and]
    exact Iff.rfl

@[simp] theorem satisfies_assert (post : Unit → Prop) :
    Fallible.Satisfies permitted (assert_ condition message : Except Failure Unit) post ↔
      (¬condition → permitted (.assertion message)) ∧ (condition → post ()) := by
  by_cases holds : condition
  · simp only [assert_, holds, if_true, not_true, true_implies, false_implies, true_and]
    exact Iff.rfl
  · simp only [assert_, holds, if_false, not_false_eq_true, true_implies, false_implies, and_true]
    exact Iff.rfl

end Fallible

section Program

variable {State : Type} {condition : Prop} [Decidable condition] {message : String}
  {permitted : Failure → Prop}

@[simp] theorem meets_trapIf (post : Unit → State → Prop) (state : State) :
    Program.Meets permitted (trapIf condition message : Program State Failure Unit) post state ↔
      (condition → permitted (.trap message)) ∧ (¬condition → post () state) := by
  by_cases holds : condition
  · simp only [trapIf, holds, if_true, not_true, true_implies, false_implies, and_true]
    exact Iff.rfl
  · simp only [trapIf, holds, if_false, not_false_eq_true, true_implies, false_implies, true_and]
    exact Iff.rfl

@[simp] theorem meets_assert (post : Unit → State → Prop) (state : State) :
    Program.Meets permitted (assert_ condition message : Program State Failure Unit) post state ↔
      (¬condition → permitted (.assertion message)) ∧ (condition → post () state) := by
  by_cases holds : condition
  · simp only [assert_, holds, if_true, not_true, true_implies, false_implies, true_and]
    exact Iff.rfl
  · simp only [assert_, holds, if_false, not_false_eq_true, true_implies, false_implies, and_true]
    exact Iff.rfl

end Program

namespace Command

variable {State : Type} {condition : Prop} [Decidable condition] {message : String}

@[simp] theorem ensures_trapIf {raised : Failure → State → Prop} (post : Unit → State → Prop)
    (state : State) :
    Command.Ensures raised (trapIf condition message : Command State Failure Unit) post state ↔
      (condition → raised (.trap message) state) ∧ (¬condition → post () state) := by
  rw [trapIf]
  exact Command.ensures_ite _ _ _ _ _

@[simp] theorem ensures_assert {raised : Failure → State → Prop} (post : Unit → State → Prop)
    (state : State) :
    Command.Ensures raised (assert_ condition message : Command State Failure Unit) post state ↔
      (¬condition → raised (.assertion message) state) ∧ (condition → post () state) := by
  rw [assert_, Command.ensures_ite, and_comm]
  exact Iff.rfl

theorem ensures_assert_ok {raised : Failure → State → Prop} (holds : condition)
    (post : Unit → State → Prop) (state : State) :
    Command.Ensures raised (assert_ condition message : Command State Failure Unit) post state ↔
      post () state := by
  simp only [ensures_assert, holds, not_true, false_implies, true_implies, true_and]

@[simp] theorem meets_trapIf {permitted : Failure → Prop} (post : Unit → State → Prop)
    (state : State) :
    Command.Meets permitted (trapIf condition message : Command State Failure Unit) post state ↔
      (condition → permitted (.trap message)) ∧ (¬condition → post () state) :=
  ensures_trapIf post state

@[simp] theorem meets_assert {permitted : Failure → Prop} (post : Unit → State → Prop)
    (state : State) :
    Command.Meets permitted (assert_ condition message : Command State Failure Unit) post state ↔
      (¬condition → permitted (.assertion message)) ∧ (condition → post () state) :=
  ensures_assert post state

end Command

end Polyengine.Cabi
