import Mathlib.Data.List.Forall2
import Polyengine.Cabi.Lift

/-!
# Lanes and iterators

The joined lanes of a variant widen the lanes of each of its cases, so that the coercing iterator
can serve the payload of any case and leave the padding to be taken.
-/

set_option autoImplicit false

namespace Polyengine.Cabi

open Polyengine.Library

/-- A lane that can carry another: floats travel as integers, and everything as `i64`. -/
def Widens (held want : CoreType) : Prop :=
  held = want ∨ (held = .i32 ∧ want = .f32) ∨ held = .i64

def Covers (flat lanes : List CoreType) : Prop :=
  ∃ leading padding, flat = leading ++ padding ∧ List.Forall₂ Widens leading lanes

theorem Widens.refl (lane : CoreType) : Widens lane lane := .inl rfl

theorem Widens.trans {a b c : CoreType} (first : Widens a b) (second : Widens b c) :
    Widens a c := by
  unfold Widens at *
  cases a <;> cases b <;> cases c <;> simp_all

theorem join_widens_left (a b : CoreType) : Widens (join a b) a := by
  unfold Widens join
  cases a <;> cases b <;> decide

theorem join_widens_right (a b : CoreType) : Widens (join a b) b := by
  unfold Widens join
  cases a <;> cases b <;> decide

theorem Covers.refl (lanes : List CoreType) : Covers lanes lanes :=
  ⟨lanes, [], (List.append_nil lanes).symm, List.forall₂_same.mpr fun lane _ => .refl lane⟩

theorem Covers.trans {a b c : List CoreType} (first : Covers a b) (second : Covers b c) :
    Covers a c := by
  obtain ⟨leading, padding, rfl, widens⟩ := first
  obtain ⟨leading', padding', rfl, widens'⟩ := second
  induction widens' generalizing leading with
  | nil => exact ⟨[], leading ++ padding, rfl, .nil⟩
  | cons here later ih =>
      cases widens with
      | @cons lane _ rest _ above widens =>
          obtain ⟨front, back, split, covered⟩ := ih rest widens
          refine ⟨lane :: front, back, ?_, .cons (above.trans here) covered⟩
          rw [List.cons_append, List.cons_append, split]

theorem joinLanes_covers_left (flat lanes : List CoreType) : Covers (joinLanes flat lanes) flat := by
  induction flat generalizing lanes with
  | nil => exact ⟨[], joinLanes [] lanes, rfl, .nil⟩
  | cons a flat ih =>
      cases lanes with
      | nil => exact .refl _
      | cons b lanes =>
          obtain ⟨leading, padding, split, widens⟩ := ih lanes
          refine ⟨join a b :: leading, padding, ?_, .cons (join_widens_left a b) widens⟩
          rw [joinLanes, split, List.cons_append]

theorem joinLanes_covers_right (flat lanes : List CoreType) :
    Covers (joinLanes flat lanes) lanes := by
  induction flat generalizing lanes with
  | nil =>
      cases lanes with
      | nil => exact .refl _
      | cons b lanes => exact .refl _
  | cons a flat ih =>
      cases lanes with
      | nil => exact ⟨[], a :: flat, rfl, .nil⟩
      | cons b lanes =>
          obtain ⟨leading, padding, split, widens⟩ := ih lanes
          refine ⟨join a b :: leading, padding, ?_, .cons (join_widens_right a b) widens⟩
          rw [joinLanes, split, List.cons_append]

theorem flattenCases_covers_start (ptrType : PtrType) (flat : List CoreType)
    (cases' : List DespecializedCaseType) : Covers (flattenCases ptrType flat cases') flat := by
  induction cases' generalizing flat with
  | nil =>
      rw [flattenCases]
      exact .refl flat
  | cons first rest ih =>
      obtain ⟨label, content⟩ := first
      cases content with
      | none =>
          rw [flattenCases]
          exact ih flat
      | some type =>
          rw [flattenCases]
          exact (ih _).trans (joinLanes_covers_left _ _)

theorem flattenCases_covers (ptrType : PtrType) (flat : List CoreType)
    {cases' : List DespecializedCaseType} {case : DespecializedCaseType}
    {type : DespecializedValType} (member : case ∈ cases') (payload : case.type = some type) :
    Covers (flattenCases ptrType flat cases') (flattenType ptrType type) := by
  induction cases' generalizing flat with
  | nil => cases member
  | cons first rest ih =>
      obtain ⟨label, content⟩ := first
      cases member with
      | head =>
          simp only at payload
          subst payload
          rw [flattenCases]
          exact (flattenCases_covers_start ptrType _ rest).trans (joinLanes_covers_right _ _)
      | tail _ later =>
          cases content with
          | none =>
              rw [flattenCases]
              exact ih flat later
          | some other =>
              rw [flattenCases]
              exact ih _ later

/-- Values of joined lanes and what the lifting side reads them as. -/
inductive CoerceLanes : List CoreType → List CoreType → List CoreValue → List CoreValue → Prop where
  | nil : CoerceLanes [] [] [] []
  | cons {held want : CoreType} {y x : CoreValue} {flat wants : List CoreType}
      {ys xs : List CoreValue} :
      coerceLane held want y = .ok x → x.Canonical want → CoerceLanes flat wants ys xs →
      CoerceLanes (held :: flat) (want :: wants) (y :: ys) (x :: xs)

theorem coerceLane_canonical {held want : CoreType} (widens : Widens held want) {y : CoreValue}
    (canonical : y.Canonical held) : ∃ x, coerceLane held want y = .ok x ∧ x.Canonical want := by
  have wrapped : ∀ n : Nat, wrapI64ToI32 n < 2 ^ 32 := fun n => Nat.mod_lt _ (by decide)
  rcases widens with rfl | ⟨rfl, rfl⟩ | rfl
  · cases held <;> exact ⟨y, rfl, canonical⟩
  · exact ⟨_, rfl, trivial⟩
  · cases want with
    | i32 =>
        refine ⟨_, rfl, ?_⟩
        have small := wrapped y.integer
        simp only [CoreValue.Canonical]
        omega
    | i64 => exact ⟨y, rfl, canonical⟩
    | f32 => exact ⟨_, rfl, trivial⟩
    | f64 => exact ⟨_, rfl, trivial⟩

namespace ValueIter

/-- Taking lanes one after the other yields canonical values and leaves an iterator. -/
inductive Yields : ValueIter → List CoreType → List CoreValue → ValueIter → Prop where
  | nil (vi : ValueIter) : Yields vi [] [] vi
  | cons {vi next final : ValueIter} {lane : CoreType} {x : CoreValue} {lanes : List CoreType}
      {xs : List CoreValue} :
      vi.next lane = .ok (x, next) → x.Canonical lane → Yields next lanes xs final →
      Yields vi (lane :: lanes) (x :: xs) final

variable {vi final : ValueIter} {lanes lanes' : List CoreType} {xs : List CoreValue}

theorem Yields.skip (yields : Yields vi lanes xs final) : skip lanes vi = .ok final := by
  induction yields with
  | nil vi => rfl
  | cons taken _ _ ih =>
      rw [ValueIter.skip, taken]
      exact ih

theorem Yields.split (yields : Yields vi (lanes ++ lanes') xs final) :
    ∃ middle first second, xs = first ++ second ∧ Yields vi lanes first middle ∧
      Yields middle lanes' second final := by
  induction lanes generalizing vi xs with
  | nil => exact ⟨vi, [], xs, rfl, .nil vi, yields⟩
  | cons lane lanes ih =>
      cases yields with
      | cons taken canonical later =>
          obtain ⟨middle, first, second, rfl, before, after⟩ := ih later
          exact ⟨middle, _ :: first, second, rfl, .cons taken canonical before, after⟩

theorem Yields.length (yields : Yields vi lanes xs final) : xs.length = lanes.length := by
  induction yields with
  | nil => rfl
  | cons _ _ _ ih => rw [List.length_cons, List.length_cons, ih]

theorem yields_core (canonical : List.Forall₂ CoreValue.Canonical lanes xs)
    (rest : List CoreValue) : Yields (.core (xs ++ rest)) lanes xs (.core rest) := by
  induction canonical with
  | nil => exact .nil _
  | @cons lane x lanes xs here _ ih =>
      refine .cons ?_ here ih
      rw [List.cons_append, next, assert_ok here]
      rfl

theorem yields_coerce {flat wants padding : List CoreType} {ys : List CoreValue}
    (coerced : CoerceLanes flat wants ys xs) (yields : Yields vi flat ys final) :
    Yields (.coerce (flat ++ padding) vi) wants xs (.coerce padding final) := by
  induction coerced generalizing vi with
  | nil =>
      cases yields
      exact .nil _
  | cons here canonical _ ih =>
      cases yields with
      | cons taken _ later =>
          refine .cons ?_ canonical (ih later)
          rw [List.cons_append, ValueIter.next, taken]
          simp only [bind, Except.bind, here]
          rfl

theorem Yields.coerceLanes {flat wants : List CoreType} (widens : List.Forall₂ Widens flat wants)
    {ys : List CoreValue} (yields : Yields vi flat ys final) :
    ∃ xs, CoerceLanes flat wants ys xs := by
  induction widens generalizing vi ys with
  | nil =>
      cases yields
      exact ⟨[], .nil⟩
  | cons here _ ih =>
      cases yields with
      | cons _ canonical later =>
          obtain ⟨x, coerced, canonical'⟩ := coerceLane_canonical here canonical
          obtain ⟨xs, rest⟩ := ih later
          exact ⟨x :: xs, .cons coerced canonical' rest⟩

end ValueIter

end Polyengine.Cabi
