import Mathlib.Data.List.Basic

/-!
# Lists in the order of a key

A list whose keys never decrease is the concatenation of its groups, taken in the order of the
keys.
-/

set_option autoImplicit false

namespace Polyengine.Library

variable {Item : Type} {key : Item → Nat}

/-- The items with one key, in their order. -/
def grouped (key : Item → Nat) (items : List Item) (k : Nat) : List Item :=
  items.filter fun item => key item = k

/-- The keys of the list never decrease. -/
def KeyOrdered (key : Item → Nat) (items : List Item) : Prop :=
  items.Pairwise fun earlier later => key earlier ≤ key later

/-- An ordered list splits at every key. -/
theorem KeyOrdered.split {items : List Item} (ordered : KeyOrdered key items) (bound : Nat) :
    items = items.filter (fun item => key item < bound) ++
      items.filter (fun item => bound ≤ key item) := by
  induction items with
  | nil => rfl
  | cons item rest ih =>
      obtain ⟨least, tail⟩ := List.pairwise_cons.mp ordered
      by_cases low : key item < bound
      · have rest_split := ih tail
        simp only [List.filter_cons, low, decide_true, if_true, Nat.not_le.mpr low, decide_false,
          Bool.false_eq_true, if_false, List.cons_append]
        exact congrArg (List.cons item) rest_split
      · have high := Nat.le_of_not_lt low
        have empty : (item :: rest).filter (fun item => key item < bound) = [] := by
          refine List.filter_eq_nil_iff.mpr fun other member => ?_
          rcases List.mem_cons.mp member with rfl | later
          · simpa using high
          · simpa using Nat.le_trans high (least other later)
        have whole : (item :: rest).filter (fun item => bound ≤ key item) = item :: rest := by
          refine List.filter_eq_self.mpr fun other member => ?_
          rcases List.mem_cons.mp member with rfl | later
          · simpa using high
          · simpa using Nat.le_trans high (least other later)
        rw [empty, whole, List.nil_append]

/-- The groups of an ordered list, put one after another, are the list. -/
theorem KeyOrdered.flatMap_grouped {items : List Item} (ordered : KeyOrdered key items)
    {bound : Nat} (below : ∀ item ∈ items, key item < bound) :
    (List.range bound).flatMap (grouped key items) = items := by
  induction bound generalizing items with
  | zero =>
      cases items with
      | nil => rfl
      | cons item rest => exact absurd (below item List.mem_cons_self) (Nat.not_lt_zero _)
  | succ bound ih =>
      have low : (List.range bound).flatMap
          (grouped key (items.filter fun item => key item < bound)) =
          items.filter fun item => key item < bound :=
        ih (List.Pairwise.filter _ ordered) fun item member => by
          simpa using (List.mem_filter.mp member).2
      have same : (List.range bound).flatMap (grouped key items) =
          (List.range bound).flatMap (grouped key (items.filter fun item => key item < bound)) := by
        refine List.flatMap_congr fun k member => ?_
        rw [grouped, grouped, List.filter_filter]
        refine List.filter_congr fun item _ => ?_
        have small := List.mem_range.mp member
        by_cases equal : key item = k <;> simp [equal, small]
      have last : grouped key items bound = items.filter fun item => bound ≤ key item := by
        refine List.filter_congr fun item member => ?_
        have small := below item member
        simp only [decide_eq_decide]
        omega
      rw [List.range_succ, List.flatMap_append, List.flatMap_singleton, same, low, last]
      exact (ordered.split bound).symm

end Polyengine.Library
