import Mathlib.Data.List.Basic
import Polyengine.Library.Command

/-!
# Emissions

A ledger says which items a stretch of a run has recorded in the state. A command emits a list of
items when its success records all of them and its failure a prefix, so that whoever catches the
failure knows which items were recorded before it.
-/

set_option autoImplicit false

namespace Polyengine.Library

/-- What is recorded between two states, and which states a run may be in. -/
structure Ledger (State Item : Type) where
  holds : State → Prop
  records : List Item → State → State → Prop
  refl : ∀ state, records [] state state
  trans : ∀ {items later : List Item} {first middle last : State},
    records items first middle → records later middle last → records (items ++ later) first last

namespace Ledger

open Command

variable {State Item Failure Result Next : Type} (ledger : Ledger State Item)
  {permitted : Failure → Prop}

/-- The command emits the items, fails only as permitted, and its results satisfy `post`. -/
def Emits (permitted : Failure → Prop) (items : List Item) (command : Command State Failure Result)
    (post : Result → Prop) : Prop :=
  ∀ state, ledger.holds state →
    Ensures
      (fun failure next => permitted failure ∧ ∃ done, done <+: items ∧ ledger.records done state next)
      command
      (fun result next => post result ∧ ledger.holds next ∧ ledger.records items state next) state

variable {ledger} {items later : List Item} {post : Result → Prop} {post' : Next → Prop}

theorem Emits.pure {result : Result} (holds : post result) :
    ledger.Emits permitted [] (pure result : Command State Failure Result) post := by
  intro state running
  exact ⟨holds, running, ledger.refl state⟩

theorem Emits.throw {failure : Failure} (allowed : permitted failure) (items : List Item) :
    ledger.Emits permitted items (throw failure : Command State Failure Result) post := by
  intro state running
  exact ⟨allowed, [], List.nil_prefix, ledger.refl state⟩

/-- A computation that looks at no state, before the items of what follows it. -/
theorem Emits.lift {computation : Except Failure Result}
    (satisfies : Fallible.Satisfies permitted computation post) :
    ledger.Emits permitted [] (liftM computation : Command State Failure Result) post := by
  intro state running
  rw [ensures_lift]
  refine satisfies.mono ?_ ?_
  · intro failure allowed
    exact ⟨allowed, [], List.nil_prefix, ledger.refl state⟩
  · intro result established
    exact ⟨established, running, ledger.refl state⟩

theorem Emits.get : ledger.Emits permitted [] (get : Command State Failure State) ledger.holds := by
  intro state running
  exact ⟨running, running, ledger.refl state⟩

theorem Emits.mono {permitted' : Failure → Prop} {command : Command State Failure Result}
    {weaker : Result → Prop} (emits : ledger.Emits permitted items command post)
    (failures : ∀ failure, permitted failure → permitted' failure)
    (results : ∀ result, post result → weaker result) :
    ledger.Emits permitted' items command weaker := by
  intro state running
  refine (emits state running).mono ?_ ?_
  · intro failure next raised
    exact ⟨failures failure raised.1, raised.2⟩
  · intro result next reached
    exact ⟨results result reached.1, reached.2⟩

theorem Emits.imp {command : Command State Failure Result} {weaker : Result → Prop}
    (emits : ledger.Emits permitted items command post)
    (results : ∀ result, post result → weaker result) :
    ledger.Emits permitted items command weaker :=
  emits.mono (fun _ allowed => allowed) results

/-- The items of a sequence are those of its parts, in order. -/
theorem Emits.bind {command : Command State Failure Result}
    {continuation : Result → Command State Failure Next}
    (first : ledger.Emits permitted items command post)
    (second : ∀ result, post result → ledger.Emits permitted later (continuation result) post') :
    ledger.Emits permitted (items ++ later) (command >>= continuation) post' := by
  intro state running
  rw [ensures_bind]
  refine (first state running).mono ?_ ?_
  · intro failure next raised
    obtain ⟨allowed, done, within, recorded⟩ := raised
    exact ⟨allowed, done, within.trans (List.prefix_append items later), recorded⟩
  · intro result middle reached
    obtain ⟨established, running', recorded⟩ := reached
    refine (second result established middle running').mono ?_ ?_
    · intro failure next raised
      obtain ⟨allowed, done, within, recorded'⟩ := raised
      exact ⟨allowed, items ++ done, (List.prefix_append_right_inj items).mpr within,
        ledger.trans recorded recorded'⟩
    · intro final next reached'
      obtain ⟨established', running'', recorded'⟩ := reached'
      exact ⟨established', running'', ledger.trans recorded recorded'⟩

/-- A silent first part. -/
theorem Emits.after {command : Command State Failure Result}
    {continuation : Result → Command State Failure Next}
    (first : ledger.Emits permitted [] command post)
    (second : ∀ result, post result → ledger.Emits permitted items (continuation result) post') :
    ledger.Emits permitted items (command >>= continuation) post' :=
  first.bind second

/-- A silent last part. -/
theorem Emits.before {command : Command State Failure Result}
    {continuation : Result → Command State Failure Next}
    (first : ledger.Emits permitted items command post)
    (second : ∀ result, post result → ledger.Emits permitted [] (continuation result) post') :
    ledger.Emits permitted items (command >>= continuation) post' := by
  have emits := first.bind second
  rwa [List.append_nil] at emits

theorem Emits.ite {condition : Prop} [Decidable condition]
    {first second : Command State Failure Result}
    (holds : condition → ledger.Emits permitted items first post)
    (fails : ¬condition → ledger.Emits permitted items second post) :
    ledger.Emits permitted items (if condition then first else second) post := by
  by_cases decided : condition
  · rw [if_pos decided]
    exact holds decided
  · rw [if_neg decided]
    exact fails decided

section Fixing

variable {View : Type} {view : State → View}

/-- The ledger that records beside the items that a view of the state stays as it is. -/
def fixing (ledger : Ledger State Item) (view : State → View) : Ledger State Item where
  holds := ledger.holds
  records := fun items state next => ledger.records items state next ∧ view next = view state
  refl := fun state => ⟨ledger.refl state, rfl⟩
  trans := fun before after => ⟨ledger.trans before.1 after.1, after.2.trans before.2⟩

theorem Emits.fixing {command : Command State Failure Result}
    (emits : ledger.Emits permitted items command post)
    (fixes : ∀ seen, Keeps (fun state => view state = seen) command) :
    (ledger.fixing view).Emits permitted items command post := by
  intro state running
  refine ((emits state running).and (fixes (view state) state rfl)).mono ?_ ?_
  · intro failure next raised
    obtain ⟨⟨allowed, done, within, recorded⟩, same⟩ := raised
    exact ⟨allowed, done, within, recorded, same⟩
  · intro result next reached
    obtain ⟨⟨established, running', recorded⟩, same⟩ := reached
    exact ⟨established, running', recorded, same⟩

end Fixing

end Ledger

end Polyengine.Library
