import Mathlib.Algebra.Group.Nat.Defs
import Mathlib.Data.List.Basic
import Polyengine.Cabi.Trap

/-!
# Handle tables

The table of one component instance. Removed indices go on a free stack and are handed out
again, last removed first.
-/

set_option autoImplicit false

namespace Polyengine.Cabi

/-- `Table`: slot 0 is never used, `free` has its top at the head. -/
structure Table (Entry : Type) where
  array : List (Option Entry)
  free : List Nat
  deriving Repr, DecidableEq

namespace Table

variable {Entry : Type}

def maxLength : Nat := 2 ^ 28 - 1

def empty : Table Entry := { array := [none], free := [] }

def get (table : Table Entry) (i : Nat) : Except Failure Entry :=
  match table.array[i]? with
  | none => .error (.trap "table index out of range")
  | some none => .error (.trap "table entry empty")
  | some (some entry) => .ok entry

def add (table : Table Entry) (e : Entry) : Except Failure (Nat × Table Entry) :=
  match table.free with
  | i :: free =>
      match table.array[i]? with
      | some none => .ok (i, { array := table.array.set i (some e), free := free })
      | _ => .error (.assertion "internal assertion failed")
  | [] =>
      if maxLength < table.array.length then .error (.trap "table full")
      else .ok (table.array.length, { table with array := table.array ++ [some e] })

def remove (table : Table Entry) (i : Nat) : Except Failure (Entry × Table Entry) :=
  match table.get i with
  | .error failure => .error failure
  | .ok e => .ok (e, { array := table.array.set i none, free := i :: table.free })

/-- The live entry at an index, if there is one. -/
def entry (table : Table Entry) (i : Nat) : Option Entry := table.array[i]?.join

/-- The free stack lists distinct, vacant slots. -/
structure Valid (table : Table Entry) : Prop where
  vacant : ∀ i ∈ table.free, table.array[i]? = some none
  nodup : table.free.Nodup

theorem empty_valid : (empty : Table Entry).Valid where
  vacant := by simp [empty]
  nodup := by simp [empty]

@[simp] theorem empty_entry (i : Nat) : (empty : Table Entry).entry i = none := by
  cases i <;> simp [empty, entry]

@[simp] theorem get_eq_ok (table : Table Entry) (i : Nat) (e : Entry) :
    table.get i = .ok e ↔ table.entry i = some e := by
  unfold get entry
  cases table.array[i]? with
  | none => simp
  | some slot => cases slot <;> simp

theorem get_error_isTrap {table : Table Entry} {i : Nat} {failure : Failure}
    (failed : table.get i = .error failure) : failure.IsTrap := by
  unfold get at failed
  cases slot : table.array[i]? with
  | none => simp only [slot, Except.error.injEq] at failed; simp [← failed]
  | some content =>
      cases content with
      | none => simp only [slot, Except.error.injEq] at failed; simp [← failed]
      | some e => simp [slot] at failed

theorem add_ok {table next : Table Entry} {e : Entry} {i : Nat} (valid : table.Valid)
    (added : table.add e = .ok (i, next)) :
    table.entry i = none ∧ next.Valid ∧
      ∀ j, next.entry j = if j = i then some e else table.entry j := by
  unfold add at added
  cases stack : table.free with
  | nil =>
      simp only [stack] at added
      split at added
      · simp at added
      · simp only [Except.ok.injEq, Prod.mk.injEq] at added
        obtain ⟨rfl, rfl⟩ := added
        refine ⟨by simp [entry], ⟨by simp, by simp⟩, fun j => ?_⟩
        rcases Nat.lt_trichotomy j table.array.length with before | same | after
        · simp [entry, List.getElem?_append_left before, Nat.ne_of_lt before]
        · simp [entry, same]
        · have beyond : table.array.length + 1 ≤ j := after
          simp [entry, Nat.ne_of_gt after,
            List.getElem?_eq_none (show (table.array ++ [some e]).length ≤ j by simpa using beyond),
            List.getElem?_eq_none (Nat.le_of_lt after)]
  | cons top free =>
      have topVacant := valid.vacant top (by simp [stack])
      have distinct := valid.nodup
      rw [stack, List.nodup_cons] at distinct
      simp only [stack, topVacant, Except.ok.injEq, Prod.mk.injEq] at added
      obtain ⟨rfl, rfl⟩ := added
      have inRange : top < table.array.length := (List.getElem?_eq_some_iff.mp topVacant).1
      refine ⟨by simp [entry, topVacant], ⟨fun k member => ?_, distinct.2⟩, fun j => ?_⟩
      · have other : top ≠ k := fun same => distinct.1 (same ▸ member)
        simpa [List.getElem?_set, other] using
          valid.vacant k (by rw [stack]; exact List.mem_cons_of_mem _ member)
      · by_cases same : j = top
        · simp [entry, same, inRange]
        · simp [entry, same, Ne.symm same]

theorem add_error_isTrap {table : Table Entry} {e : Entry} {failure : Failure}
    (valid : table.Valid) (failed : table.add e = .error failure) : failure.IsTrap := by
  unfold add at failed
  cases stack : table.free with
  | nil =>
      simp only [stack] at failed
      split at failed
      · simp only [Except.error.injEq] at failed; simp [← failed]
      · simp at failed
  | cons top free =>
      simp [stack, valid.vacant top (by simp [stack])] at failed

theorem remove_entry {table next : Table Entry} {e : Entry} {i : Nat}
    (removed : table.remove i = .ok (e, next)) (j : Nat) :
    next.entry j = if j = i then none else table.entry j := by
  unfold remove at removed
  cases found : table.get i with
  | error failure => simp [found] at removed
  | ok held =>
      simp only [found, Except.ok.injEq, Prod.mk.injEq] at removed
      obtain ⟨_, rfl⟩ := removed
      by_cases same : j = i
      · simp only [entry, same, List.getElem?_set, if_true]
        split <;> rfl
      · simp [entry, same, Ne.symm same]

theorem remove_ok {table next : Table Entry} {e : Entry} {i : Nat} (valid : table.Valid)
    (removed : table.remove i = .ok (e, next)) :
    table.entry i = some e ∧ next.Valid ∧
      ∀ j, next.entry j = if j = i then none else table.entry j := by
  unfold remove at removed
  cases found : table.get i with
  | error failure => simp [found] at removed
  | ok held =>
      have kept := removed
      simp only [found, Except.ok.injEq, Prod.mk.injEq] at kept
      obtain ⟨rfl, rfl⟩ := kept
      have live : table.entry i = some held := (table.get_eq_ok i held).mp found
      have slot : table.array[i]? = some (some held) := by
        simpa [entry, Option.join_eq_some_iff] using live
      have inRange : i < table.array.length := (List.getElem?_eq_some_iff.mp slot).1
      have notFree : i ∉ table.free := fun member => by
        simpa [slot] using valid.vacant i member
      refine ⟨live, ⟨fun k member => ?_, List.nodup_cons.mpr ⟨notFree, valid.nodup⟩⟩,
        remove_entry removed⟩
      rcases List.mem_cons.mp member with rfl | earlier
      · simp [inRange]
      · have other : i ≠ k := fun same => notFree (same ▸ earlier)
        simpa [List.getElem?_set, other] using valid.vacant k earlier

theorem remove_error_isTrap {table : Table Entry} {i : Nat} {failure : Failure}
    (failed : table.remove i = .error failure) : failure.IsTrap := by
  unfold remove at failed
  cases found : table.get i with
  | error raised =>
      simp only [found, Except.error.injEq] at failed
      exact failed ▸ get_error_isTrap found
  | ok held => simp [found] at failed

/-- Slot 0 is reserved and no index exceeds the maximal length. -/
structure Numbered (table : Table Entry) : Prop where
  reserved : table.array[0]? = some none
  bounded : table.array.length ≤ maxLength + 1
  positive : ∀ i ∈ table.free, 0 < i

theorem empty_numbered : (empty : Table Entry).Numbered where
  reserved := rfl
  bounded := by simp [empty]
  positive := by simp [empty]

theorem add_numbered {table next : Table Entry} {e : Entry} {i : Nat} (numbered : table.Numbered)
    (added : table.add e = .ok (i, next)) : next.Numbered ∧ 0 < i ∧ i ≤ maxLength := by
  have nonempty : 0 < table.array.length := (List.getElem?_eq_some_iff.mp numbered.reserved).1
  have bounded := numbered.bounded
  unfold add at added
  cases stack : table.free with
  | nil =>
      simp only [stack] at added
      split at added
      · cases added
      · simp only [Except.ok.injEq, Prod.mk.injEq] at added
        obtain ⟨rfl, rfl⟩ := added
        refine ⟨⟨?_, ?_, ?_⟩, nonempty, by omega⟩
        · rw [List.getElem?_append_left nonempty]
          exact numbered.reserved
        · simp only [List.length_append, List.length_cons, List.length_nil]
          omega
        · intro i member
          cases member
  | cons top free =>
      simp only [stack] at added
      split at added
      · rename_i vacant
        simp only [Except.ok.injEq, Prod.mk.injEq] at added
        obtain ⟨rfl, rfl⟩ := added
        have inside : top < table.array.length := (List.getElem?_eq_some_iff.mp vacant).1
        have positive : 0 < top := numbered.positive top (by rw [stack]; exact List.mem_cons_self)
        refine ⟨⟨?_, ?_, ?_⟩, positive, by omega⟩
        · rw [List.getElem?_set_ne (Nat.ne_of_gt positive)]
          exact numbered.reserved
        · rw [List.length_set]
          exact bounded
        · intro i member
          exact numbered.positive i (by rw [stack]; exact List.mem_cons_of_mem _ member)
      · cases added

theorem remove_numbered {table next : Table Entry} {e : Entry} {i : Nat}
    (numbered : table.Numbered) (removed : table.remove i = .ok (e, next)) : next.Numbered := by
  unfold remove at removed
  cases found : table.get i with
  | error failure => simp [found] at removed
  | ok held =>
      simp only [found, Except.ok.injEq, Prod.mk.injEq] at removed
      obtain ⟨_, rfl⟩ := removed
      have positive : 0 < i := by
        rcases Nat.eq_zero_or_pos i with zero | positive
        · subst zero
          rw [get_eq_ok, entry, numbered.reserved] at found
          cases found
        · exact positive
      constructor
      · rw [List.getElem?_set_ne (Nat.ne_of_gt positive)]
        exact numbered.reserved
      · rw [List.length_set]
        exact numbered.bounded
      · intro j member
        cases List.mem_cons.mp member with
        | inl same => exact same ▸ positive
        | inr rest => exact numbered.positive j rest

end Table

/-- `Table` with the count of entries that each slot has held. -/
structure TenuredTable (Entry : Type) extends Table Entry where
  tenure : List Nat
  deriving Repr, DecidableEq

namespace TenuredTable

variable {Entry : Type}

def empty : TenuredTable Entry := { Table.empty with tenure := [0] }

/-- `tenure[i] ?? 0`. -/
def tenureAt (table : TenuredTable Entry) (i : Nat) : Nat := table.tenure.getD i 0

def add (table : TenuredTable Entry) (e : Entry) : Except Failure (Nat × TenuredTable Entry) :=
  match table.toTable.add e with
  | .error failure => .error failure
  | .ok (i, next) =>
      let tenure :=
        if table.free.isEmpty then table.tenure ++ [1]
        else table.tenure.set i (table.tenureAt i + 1)
      .ok (i, { next with tenure := tenure })

def remove (table : TenuredTable Entry) (i : Nat) :
    Except Failure (Entry × TenuredTable Entry) :=
  match table.toTable.remove i with
  | .error failure => .error failure
  | .ok (e, next) => .ok (e, { next with tenure := table.tenure })

/-- The free stack is valid, every slot has its count, and every index is below the limit. -/
structure Valid (table : TenuredTable Entry) : Prop where
  slots : table.toTable.Valid
  counted : table.tenure.length = table.array.length
  bounded : table.array.length ≤ Table.maxLength + 1

theorem empty_valid : (empty : TenuredTable Entry).Valid where
  slots := Table.empty_valid
  counted := rfl
  bounded := Nat.le_add_left 1 _

theorem add_ok {table next : TenuredTable Entry} {e : Entry} {i : Nat} (valid : table.Valid)
    (added : table.add e = .ok (i, next)) :
    table.entry i = none ∧ next.Valid ∧
      (∀ j, next.entry j = if j = i then some e else table.entry j) ∧
      (∀ j, next.tenureAt j = if j = i then table.tenureAt i + 1 else table.tenureAt j) ∧
      i ≤ Table.maxLength := by
  unfold add at added
  cases slot : table.toTable.add e with
  | error failure => simp [slot] at added
  | ok outcome =>
      obtain ⟨index, slots⟩ := outcome
      simp only [slot, Except.ok.injEq, Prod.mk.injEq] at added
      obtain ⟨same, built⟩ := added
      subst same built
      obtain ⟨vacant, valid', entries⟩ := Table.add_ok valid.slots slot
      have grown : (if table.free.isEmpty then index = table.array.length ∧
            slots.array.length = table.array.length + 1 ∧ table.array.length ≤ Table.maxLength
          else index < table.array.length ∧ slots.array.length = table.array.length) := by
        unfold Table.add at slot
        cases stack : table.free with
        | nil =>
            simp only [stack] at slot
            split at slot
            · cases slot
            · next room =>
              simp only [Except.ok.injEq, Prod.mk.injEq] at slot
              obtain ⟨rfl, rfl⟩ := slot
              simpa using Nat.not_lt.mp room
        | cons top rest =>
            have topVacant := valid.slots.vacant top (by simp [stack])
            simp only [stack, topVacant, Except.ok.injEq, Prod.mk.injEq] at slot
            obtain ⟨rfl, rfl⟩ := slot
            simpa using (List.getElem?_eq_some_iff.mp topVacant).1
      have counted := valid.counted
      have bounded := valid.bounded
      cases empty : table.free.isEmpty with
      | true =>
          simp only [empty, if_true] at grown ⊢
          obtain ⟨rfl, length, room⟩ := grown
          refine ⟨vacant, ⟨valid', by simp [counted, length], ?_⟩, entries, ?_, room⟩
          · simp only [length]
            omega
          intro j
          unfold tenureAt
          by_cases new : j = table.array.length
          · simp [new, ← counted, List.getD]
          · by_cases before : j < table.tenure.length
            · simp [new, List.getD, List.getElem?_append_left before]
            · have beyond : table.tenure.length + 1 ≤ j := by omega
              simp [new, List.getD, List.getElem?_eq_none (Nat.not_lt.mp before),
                List.getElem?_eq_none (show (table.tenure ++ [1]).length ≤ j by simpa using beyond)]
      | false =>
          simp only [empty, Bool.false_eq_true, if_false] at grown ⊢
          obtain ⟨inside, length⟩ := grown
          refine ⟨vacant, ⟨valid', by simp [counted, length], ?_⟩, entries, ?_, by omega⟩
          · simp only [length]
            exact bounded
          intro j
          unfold tenureAt
          by_cases same : j = index
          · subst same
            simp [List.getD, counted, inside]
          · simp [List.getD, same, Ne.symm same]

theorem add_error_isTrap {table : TenuredTable Entry} {e : Entry} {failure : Failure}
    (valid : table.Valid) (failed : table.add e = .error failure) : failure.IsTrap := by
  unfold add at failed
  cases slot : table.toTable.add e with
  | error raised =>
      simp only [slot, Except.error.injEq] at failed
      exact failed ▸ Table.add_error_isTrap valid.slots slot
  | ok outcome => simp [slot] at failed

theorem remove_ok {table next : TenuredTable Entry} {e : Entry} {i : Nat} (valid : table.Valid)
    (removed : table.remove i = .ok (e, next)) :
    table.entry i = some e ∧ next.Valid ∧
      (∀ j, next.entry j = if j = i then none else table.entry j) ∧
      ∀ j, next.tenureAt j = table.tenureAt j := by
  unfold remove at removed
  cases slot : table.toTable.remove i with
  | error failure => simp [slot] at removed
  | ok outcome =>
      obtain ⟨held, slots⟩ := outcome
      simp only [slot, Except.ok.injEq, Prod.mk.injEq] at removed
      obtain ⟨same, built⟩ := removed
      subst same built
      obtain ⟨live, valid', entries⟩ := Table.remove_ok valid.slots slot
      have length : slots.array.length = table.array.length := by
        unfold Table.remove at slot
        cases found : table.toTable.get i with
        | error failure => simp [found] at slot
        | ok entry =>
            simp only [found, Except.ok.injEq, Prod.mk.injEq] at slot
            obtain ⟨_, rfl⟩ := slot
            simp
      refine ⟨live, ⟨valid', by simp [length, valid.counted], ?_⟩, entries, fun _ => rfl⟩
      simp only [length]
      exact valid.bounded

theorem remove_entry {table next : TenuredTable Entry} {e : Entry} {i : Nat}
    (removed : table.remove i = .ok (e, next)) (j : Nat) :
    next.entry j = if j = i then none else table.entry j := by
  unfold remove at removed
  cases slot : table.toTable.remove i with
  | error failure => simp [slot] at removed
  | ok outcome =>
      simp only [slot, Except.ok.injEq, Prod.mk.injEq] at removed
      obtain ⟨_, rfl⟩ := removed
      exact Table.remove_entry slot j

theorem remove_error_isTrap {table : TenuredTable Entry} {i : Nat} {failure : Failure}
    (failed : table.remove i = .error failure) : failure.IsTrap := by
  unfold remove at failed
  cases slot : table.toTable.remove i with
  | error raised =>
      simp only [slot, Except.error.injEq] at failed
      exact failed ▸ Table.remove_error_isTrap slot
  | ok outcome => simp [slot] at failed

theorem remove_of_entry {table : TenuredTable Entry} {i : Nat} {e : Entry}
    (live : table.entry i = some e) : ∃ next, table.remove i = .ok (e, next) := by
  unfold remove Table.remove
  rw [(Table.get_eq_ok _ i e).mpr live]
  exact ⟨_, rfl⟩

/-- One operation on a table. -/
inductive Operation (Entry : Type) where
  | add (e : Entry)
  | remove (i : Nat)

/-- The table after an operation that succeeds; a failed one leaves it as it was. -/
def step (table : TenuredTable Entry) : Operation Entry → TenuredTable Entry
  | .add e =>
      match table.add e with
      | .ok (_, next) => next
      | .error _ => table
  | .remove i =>
      match table.remove i with
      | .ok (_, next) => next
      | .error _ => table

/-- The slot still holds the entry that was put there under this tenure. -/
def Holds (table : TenuredTable Entry) (i tenure : Nat) (e : Entry) : Prop :=
  table.entry i = some e ∧ table.tenureAt i = tenure

theorem step_cases {table : TenuredTable Entry} (valid : table.Valid)
    (operation : Operation Entry) :
    (table.step operation).Valid ∧
      (table.step operation = table ∨
        (∃ e index, operation = .add e ∧ table.entry index = none ∧
          (∀ j, (table.step operation).entry j = if j = index then some e else table.entry j) ∧
          ∀ j, (table.step operation).tenureAt j =
            if j = index then table.tenureAt index + 1 else table.tenureAt j) ∨
        ∃ index, operation = .remove index ∧
          (∀ j, (table.step operation).entry j = if j = index then none else table.entry j) ∧
          ∀ j, (table.step operation).tenureAt j = table.tenureAt j) := by
  cases operation with
  | add e =>
      cases added : table.add e with
      | error failure =>
          have same : table.step (.add e) = table := by simp only [step, added]
          exact ⟨by rwa [same], .inl same⟩
      | ok outcome =>
          obtain ⟨index, next⟩ := outcome
          obtain ⟨vacant, valid', entries, tenures, _⟩ := add_ok valid added
          have same : table.step (.add e) = next := by simp only [step, added]
          exact ⟨same ▸ valid', .inr (.inl ⟨e, index, rfl, vacant, same ▸ entries, same ▸ tenures⟩)⟩
  | remove index =>
      cases removed : table.remove index with
      | error failure =>
          have same : table.step (.remove index) = table := by simp only [step, removed]
          exact ⟨by rwa [same], .inl same⟩
      | ok outcome =>
          obtain ⟨held, next⟩ := outcome
          obtain ⟨_, valid', entries, tenures⟩ := remove_ok valid removed
          have same : table.step (.remove index) = next := by simp only [step, removed]
          exact ⟨same ▸ valid', .inr (.inr ⟨index, rfl, same ▸ entries, same ▸ tenures⟩)⟩

/-- A slot that lost an entry under some tenure: it is vacant or on a later tenure. -/
def Departed (table : TenuredTable Entry) (i tenure : Nat) : Prop :=
  tenure ≤ table.tenureAt i ∧ (table.tenureAt i = tenure → table.entry i = none)

theorem step_departed {table : TenuredTable Entry} (valid : table.Valid) {i tenure : Nat}
    (departed : table.Departed i tenure) (operation : Operation Entry) :
    (table.step operation).Departed i tenure := by
  obtain ⟨reached, gone⟩ := departed
  obtain ⟨_, same | added | removed⟩ := step_cases valid operation
  · rw [same]
    exact ⟨reached, gone⟩
  · obtain ⟨e, index, _, _, entries, tenures⟩ := added
    constructor
    · rw [tenures i]
      split
      · next same =>
          subst same
          omega
      · exact reached
    · intro again
      rw [tenures i] at again
      rw [entries i]
      split at again
      · next same =>
          subst same
          omega
      · next other =>
          rw [if_neg other]
          exact gone again
  · obtain ⟨index, _, entries, tenures⟩ := removed
    constructor
    · rw [tenures i]
      exact reached
    · intro again
      rw [tenures i] at again
      rw [entries i]
      split
      · rfl
      · exact gone again

theorem run_departed {table : TenuredTable Entry} (valid : table.Valid) {i tenure : Nat}
    (departed : table.Departed i tenure) (operations : List (Operation Entry)) :
    (operations.foldl step table).Departed i tenure := by
  induction operations generalizing table with
  | nil => exact departed
  | cons operation rest ih =>
      exact ih (step_cases valid operation).1 (step_departed valid departed operation)

theorem step_holds {table : TenuredTable Entry} (valid : table.Valid) {i tenure : Nat} {e : Entry}
    (held : table.Holds i tenure e) {operation : Operation Entry}
    (other : operation ≠ .remove i) : (table.step operation).Holds i tenure e := by
  obtain ⟨live, current⟩ := held
  obtain ⟨_, same | added | removed⟩ := step_cases valid operation
  · rw [same]
    exact ⟨live, current⟩
  · obtain ⟨_, index, _, vacant, entries, tenures⟩ := added
    have elsewhere : i ≠ index := by
      intro same
      subst same
      rw [live] at vacant
      cases vacant
    constructor
    · rw [entries i, if_neg elsewhere]
      exact live
    · rw [tenures i, if_neg elsewhere]
      exact current
  · obtain ⟨index, isRemove, entries, tenures⟩ := removed
    have elsewhere : i ≠ index := by
      intro same
      subst same
      exact other isRemove
    constructor
    · rw [entries i, if_neg elsewhere]
      exact live
    · rw [tenures i]
      exact current

/-- Entry and tenure name one insertion: over any run of table operations the slot holds the entry
under its tenure exactly as long as nothing removed it. -/
theorem holds_iff_not_removed {table : TenuredTable Entry} (valid : table.Valid) {i tenure : Nat}
    {e : Entry} (held : table.Holds i tenure e) (operations : List (Operation Entry)) :
    (operations.foldl step table).Holds i tenure e ↔ .remove i ∉ operations := by
  induction operations generalizing table with
  | nil => simp [held]
  | cons operation rest ih =>
      have valid' := (step_cases valid operation).1
      by_cases removes : operation = .remove i
      · subst removes
        obtain ⟨next, removed⟩ := remove_of_entry held.1
        obtain ⟨_, _, entries, tenures⟩ := remove_ok valid removed
        have stepped : table.step (.remove i) = next := by simp only [step, removed]
        have departed : next.Departed i tenure := by
          constructor
          · rw [tenures i]
            exact Nat.le_of_eq held.2.symm
          · intro _
            rw [entries i, if_pos rfl]
        have later := run_departed (stepped ▸ valid') departed rest
        rw [List.foldl_cons, stepped]
        constructor
        · intro again
          have vacant := later.2 again.2
          rw [again.1] at vacant
          cases vacant
        · intro absent
          exact absurd List.mem_cons_self absent
      · rw [List.foldl_cons, ih valid' (step_holds valid held removes), List.mem_cons]
        constructor
        · intro absent member
          cases member with
          | inl same => exact removes same.symm
          | inr later => exact absent later
        · intro absent later
          exact absent (.inr later)

end TenuredTable

end Polyengine.Cabi
