import Mathlib.Data.List.MinMax
import Mathlib.Data.List.Nodup

/-!
# Registries

Entries under distinct keys, and the first of the greatest elements of a list: what does not depend on
the order in which they were registered.
-/

set_option autoImplicit false

namespace Polyengine.Library.Registry

section

variable {Key Value : Type} [BEq Key] [LawfulBEq Key] {entries : List (Key × Value)} {key : Key}

theorem lookup_isSome_iff : (entries.lookup key).isSome = true ↔ key ∈ entries.map Prod.fst := by
  induction entries with
  | nil => simp
  | cons entry rest ih =>
      obtain ⟨first, value⟩ := entry
      by_cases same : key = first
      · subst same
        simp
      · have different : (key == first) = false := beq_false_of_ne same
        simp only [List.lookup_cons, different, ih, List.map_cons, List.mem_cons, same, false_or]

theorem lookup_eq_some_iff (distinct : (entries.map Prod.fst).Nodup) {value : Value} :
    entries.lookup key = some value ↔ (key, value) ∈ entries := by
  induction entries with
  | nil => simp
  | cons entry rest ih =>
      obtain ⟨first, other⟩ := entry
      rw [List.map_cons, List.nodup_cons] at distinct
      by_cases same : key = first
      · subst same
        have absent : (key, value) ∉ rest := fun member =>
          distinct.1 (List.mem_map.mpr ⟨_, member, rfl⟩)
        simp only [List.lookup_cons, beq_self_eq_true, Option.some.injEq, List.mem_cons, Prod.mk.injEq,
          true_and, absent, or_false]
        exact eq_comm
      · have different : (key == first) = false := beq_false_of_ne same
        simp only [List.lookup_cons, different, ih distinct.2, List.mem_cons, Prod.mk.injEq, same,
          false_and, false_or]

/-- A lookup does not depend on the order of the entries. -/
theorem lookup_perm {other : List (Key × Value)} (distinct : (entries.map Prod.fst).Nodup)
    (perm : entries.Perm other) : entries.lookup key = other.lookup key := by
  have otherDistinct : (other.map Prod.fst).Nodup := (perm.map Prod.fst).nodup_iff.mp distinct
  apply Option.ext
  intro value
  rw [lookup_eq_some_iff distinct, lookup_eq_some_iff otherDistinct, perm.mem_iff]

end

section

variable {Item Rank : Type} [LinearOrder Rank] {rank : Item → Rank} {items others : List Item}

/-- The first of the greatest is the same in any order if there is one greatest only. -/
theorem argmax_perm (perm : items.Perm others)
    (unique : ∀ a ∈ items, ∀ b ∈ items, rank a = rank b → (∀ c ∈ items, rank c ≤ rank a) → a = b) :
    items.argmax rank = others.argmax rank := by
  cases first : items.argmax rank with
  | none =>
      rw [List.argmax_eq_none] at first
      subst first
      rw [List.nil_perm.mp perm, List.argmax_nil]
  | some a =>
      cases second : others.argmax rank with
      | none =>
          rw [List.argmax_eq_none] at second
          subst second
          rw [List.perm_nil.mp perm] at first
          cases first
      | some b =>
          have aMember := List.argmax_mem first
          have bMember := perm.mem_iff.mpr (List.argmax_mem second)
          have above : ∀ c ∈ items, rank c ≤ rank a :=
            fun c member => List.le_of_mem_argmax member first
          have equal : rank a = rank b :=
            le_antisymm (List.le_of_mem_argmax (perm.mem_iff.mp aMember) second)
              (above b bMember)
          rw [unique a aMember b bMember equal above]

/-- A greatest element that comes first is the first of the greatest. -/
theorem argmax_head [DecidableEq Item] {first : Item}
    (greatest : ∀ a ∈ items, rank a ≤ rank first) :
    (first :: items).argmax rank = some first := by
  rw [List.argmax_eq_some_iff]
  refine ⟨List.mem_cons_self, fun a member => ?_, fun a _ _ => ?_⟩
  · obtain rfl | member := List.mem_cons.mp member
    · exact le_refl _
    · exact greatest a member
  · rw [List.idxOf_cons_self]
    exact Nat.zero_le _

end

end Polyengine.Library.Registry
