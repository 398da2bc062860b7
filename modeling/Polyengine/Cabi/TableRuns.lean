import Polyengine.Cabi.HandleTable

/-!
# Runs of a handle table

A table together with the record of what it issued and what was removed from it. Over every
sequence of operations, those of a cleanup included, the table agrees with its record.
-/

set_option autoImplicit false

namespace Polyengine.Cabi

variable {Entry : Type}

/-- `get` on a number; a negative one is out of range. -/
def Table.getNumber (table : Table Entry) (i : Int) : Except Failure Entry :=
  if i < 0 then .error (.trap "table index out of range") else table.get i.toNat

/-- `remove` on a number. -/
def TenuredTable.removeNumber (table : TenuredTable Entry) (i : Int) :
    Except Failure (Entry × TenuredTable Entry) :=
  if i < 0 then .error (.trap "table index out of range") else table.remove i.toNat

namespace TableRun

/-- What happens to a table: an entry is issued an index under a tenure, or leaves its index. -/
inductive Event (Entry : Type) where
  | issued (index tenure : Nat) (e : Entry)
  | removed (index : Nat)

/-- A call on a table. A cleanup remembers an insertion and removes it if it is still there. -/
inductive Call (Entry : Type) where
  | add (e : Entry)
  | get (i : Int)
  | remove (i : Int)
  | cleanup (index tenure : Nat) (e : Entry)

/-- A table and its events, the last one first. -/
structure History (Entry : Type) where
  table : TenuredTable Entry
  events : List (Event Entry)

def History.empty : History Entry := { table := .empty, events := [] }

/-- `remove`, recorded when it succeeds. -/
def History.remove (history : History Entry) (i : Int) : History Entry :=
  match history.table.removeNumber i with
  | .ok (_, next) => { table := next, events := .removed i.toNat :: history.events }
  | .error _ => history

instance [DecidableEq Entry] (table : TenuredTable Entry) (i tenure : Nat) (e : Entry) :
    Decidable (table.Holds i tenure e) := inferInstanceAs (Decidable (_ ∧ _))

/-- The table after a call; a call that fails leaves it as it was. -/
def History.step [DecidableEq Entry] (history : History Entry) : Call Entry → History Entry
  | .add e =>
      match history.table.add e with
      | .ok (i, next) =>
          { table := next, events := .issued i (next.tenureAt i) e :: history.events }
      | .error _ => history
  | .get _ => history
  | .remove i => history.remove i
  | .cleanup index tenure e =>
      if history.table.Holds index tenure e then history.remove index else history

def live : List (Event Entry) → Nat → Option (Nat × Entry)
  | [], _ => none
  | .issued index tenure e :: earlier, i =>
      if index = i then some (tenure, e) else live earlier i
  | .removed index :: earlier, i => if index = i then none else live earlier i

/-- The pairs of index and tenure that were issued, the last one first. -/
def issued : List (Event Entry) → List (Nat × Nat)
  | [] => []
  | .issued index tenure _ :: earlier => (index, tenure) :: issued earlier
  | .removed _ :: earlier => issued earlier

structure Agrees (history : History Entry) : Prop where
  valid : history.table.Valid
  numbered : history.table.toTable.Numbered
  vacant : ∀ i, 0 < i → history.table.array[i]? = some none → i ∈ history.table.free
  entries : ∀ i, history.table.entry i = (live history.events i).map (·.2)
  tenures : ∀ i tenure e, live history.events i = some (tenure, e) →
    history.table.tenureAt i = tenure
  reached : ∀ pair ∈ issued history.events, pair.2 ≤ history.table.tenureAt pair.1
  range : ∀ pair ∈ issued history.events, 0 < pair.1 ∧ pair.1 ≤ Table.maxLength
  once : (issued history.events).Nodup

theorem agrees_empty : Agrees (History.empty : History Entry) where
  valid := TenuredTable.empty_valid
  numbered := Table.empty_numbered
  vacant := by
    intro i positive slot
    have inside := (List.getElem?_eq_some_iff.mp slot).1
    simp only [History.empty, TenuredTable.empty, Table.empty, List.length_singleton] at inside
    omega
  entries := Table.empty_entry
  tenures := by
    intro i tenure e found
    cases found
  reached := by
    intro pair member
    cases member
  range := by
    intro pair member
    cases member
  once := List.nodup_nil

theorem vacant_add {table next : Table Entry} {e : Entry} {i : Nat}
    (vacant : ∀ j, 0 < j → table.array[j]? = some none → j ∈ table.free)
    (added : table.add e = .ok (i, next)) {j : Nat} (positive : 0 < j)
    (slot : next.array[j]? = some none) : j ∈ next.free := by
  unfold Table.add at added
  cases stack : table.free with
  | nil =>
      simp only [stack] at added
      split at added
      · cases added
      · simp only [Except.ok.injEq, Prod.mk.injEq] at added
        obtain ⟨rfl, rfl⟩ := added
        have inside := (List.getElem?_eq_some_iff.mp slot).1
        rw [List.length_append, List.length_singleton] at inside
        rcases Nat.lt_succ_iff_lt_or_eq.mp inside with before | last
        · rw [List.getElem?_append_left before] at slot
          have free := vacant j positive slot
          rw [stack] at free
          cases free
        · rw [last, List.getElem?_append_right (Nat.le_refl _), Nat.sub_self] at slot
          cases slot
  | cons top free =>
      simp only [stack] at added
      split at added
      · rename_i topVacant
        simp only [Except.ok.injEq, Prod.mk.injEq] at added
        obtain ⟨rfl, rfl⟩ := added
        have inside := (List.getElem?_eq_some_iff.mp topVacant).1
        have other : top ≠ j := by
          intro same
          subst same
          rw [List.getElem?_set_self inside] at slot
          cases slot
        rw [List.getElem?_set_ne other] at slot
        have listed := vacant j positive slot
        rw [stack] at listed
        cases List.mem_cons.mp listed with
        | inl same => exact absurd same.symm other
        | inr rest => exact rest
      · cases added

theorem vacant_remove {table next : Table Entry} {e : Entry} {i : Nat}
    (vacant : ∀ j, 0 < j → table.array[j]? = some none → j ∈ table.free)
    (removed : table.remove i = .ok (e, next)) {j : Nat} (positive : 0 < j)
    (slot : next.array[j]? = some none) : j ∈ next.free := by
  unfold Table.remove at removed
  cases found : table.get i with
  | error failure =>
      rw [found] at removed
      cases removed
  | ok held =>
      simp only [found, Except.ok.injEq, Prod.mk.injEq] at removed
      obtain ⟨_, rfl⟩ := removed
      by_cases same : i = j
      · subst same
        exact List.mem_cons_self
      · rw [List.getElem?_set_ne same] at slot
        exact List.mem_cons_of_mem _ (vacant j positive slot)

theorem add_slots {table next : TenuredTable Entry} {e : Entry} {i : Nat}
    (added : table.add e = .ok (i, next)) : table.toTable.add e = .ok (i, next.toTable) := by
  unfold TenuredTable.add at added
  cases slot : table.toTable.add e with
  | error failure =>
      rw [slot] at added
      cases added
  | ok outcome =>
      rw [slot] at added
      cases added
      rfl

theorem remove_slots {table next : TenuredTable Entry} {e : Entry} {i : Nat}
    (removed : table.remove i = .ok (e, next)) :
    table.toTable.remove i = .ok (e, next.toTable) := by
  unfold TenuredTable.remove at removed
  cases slot : table.toTable.remove i with
  | error failure =>
      rw [slot] at removed
      cases removed
  | ok outcome =>
      rw [slot] at removed
      cases removed
      rfl

theorem Agrees.add {history : History Entry} (agrees : Agrees history) {e : Entry} {i : Nat}
    {next : TenuredTable Entry} (added : history.table.add e = .ok (i, next)) :
    Agrees { table := next, events := .issued i (next.tenureAt i) e :: history.events } := by
  obtain ⟨vacated, valid, entries, tenures, _⟩ := TenuredTable.add_ok agrees.valid added
  obtain ⟨numbered, positive, bounded⟩ := Table.add_numbered agrees.numbered (add_slots added)
  have renewed : next.tenureAt i = history.table.tenureAt i + 1 := by rw [tenures i, if_pos rfl]
  have fresh : (i, next.tenureAt i) ∉ issued history.events := by
    intro before
    have reached := agrees.reached _ before
    rw [renewed] at reached
    exact absurd reached (Nat.not_succ_le_self _)
  constructor
  · exact valid
  · exact numbered
  · intro j above slot
    exact vacant_add agrees.vacant (add_slots added) above slot
  · intro j
    rw [entries j]
    by_cases same : i = j
    · simp only [live, if_pos same, if_pos same.symm, Option.map_some]
    · simp only [live, if_neg same, if_neg (Ne.symm same), agrees.entries j]
  · intro j tenure e' found
    by_cases same : i = j
    · simp only [live, if_pos same, Option.some.injEq, Prod.mk.injEq] at found
      rw [← same]
      exact found.1
    · simp only [live, if_neg same] at found
      rw [tenures j, if_neg (Ne.symm same)]
      exact agrees.tenures j tenure e' found
  · intro pair member
    cases List.mem_cons.mp member with
    | inl same =>
        subst same
        exact Nat.le_refl _
    | inr before =>
        have reached := agrees.reached pair before
        rw [tenures pair.1]
        split
        · next same =>
            rw [← same]
            exact Nat.le_succ_of_le reached
        · exact reached
  · intro pair member
    cases List.mem_cons.mp member with
    | inl same =>
        subst same
        exact ⟨positive, bounded⟩
    | inr before => exact agrees.range pair before
  · exact List.nodup_cons.mpr ⟨fresh, agrees.once⟩

theorem Agrees.remove {history : History Entry} (agrees : Agrees history) (i : Int) :
    Agrees (history.remove i) := by
  unfold History.remove TenuredTable.removeNumber
  by_cases negative : i < 0
  · rw [if_pos negative]
    exact agrees
  · rw [if_neg negative]
    cases removed : history.table.remove i.toNat with
    | error failure => exact agrees
    | ok outcome =>
        obtain ⟨e, next⟩ := outcome
        obtain ⟨_, valid, entries, tenures⟩ := TenuredTable.remove_ok agrees.valid removed
        constructor
        · exact valid
        · exact Table.remove_numbered agrees.numbered (remove_slots removed)
        · intro j positive slot
          exact vacant_remove agrees.vacant (remove_slots removed) positive slot
        · intro j
          rw [entries j]
          by_cases same : i.toNat = j
          · simp only [live, if_pos same, if_pos same.symm, Option.map_none]
          · simp only [live, if_neg same, if_neg (Ne.symm same), agrees.entries j]
        · intro j tenure e' found
          by_cases same : i.toNat = j
          · simp only [live, if_pos same] at found
            cases found
          · simp only [live, if_neg same] at found
            rw [tenures j]
            exact agrees.tenures j tenure e' found
        · intro pair member
          rw [tenures pair.1]
          exact agrees.reached pair member
        · exact agrees.range
        · exact agrees.once

theorem Agrees.step [DecidableEq Entry] {history : History Entry} (agrees : Agrees history)
    (call : Call Entry) : Agrees (history.step call) := by
  cases call with
  | add e =>
      cases added : history.table.add e with
      | error failure => simpa only [History.step, added] using agrees
      | ok outcome => simpa only [History.step, added] using agrees.add added
  | get i => exact agrees
  | remove i => exact agrees.remove i
  | cleanup index tenure e =>
      by_cases held : history.table.Holds index tenure e
      · simpa only [History.step, if_pos held] using agrees.remove index
      · simpa only [History.step, if_neg held] using agrees

theorem Agrees.run [DecidableEq Entry] {history : History Entry} (agrees : Agrees history)
    (calls : List (Call Entry)) : Agrees (calls.foldl History.step history) := by
  induction calls generalizing history with
  | nil => exact agrees
  | cons call rest ih => exact ih (agrees.step call)

theorem Agrees.holds_iff {history : History Entry} (agrees : Agrees history) (i tenure : Nat)
    (e : Entry) :
    history.table.Holds i tenure e ↔ live history.events i = some (tenure, e) := by
  unfold TenuredTable.Holds
  rw [agrees.entries i]
  constructor
  · rintro ⟨found, current⟩
    obtain ⟨⟨tenure', e'⟩, held, same⟩ := Option.map_eq_some_iff.mp found
    rw [held, ← current, agrees.tenures i tenure' e' held, ← same]
  · intro held
    rw [held]
    exact ⟨rfl, agrees.tenures i tenure e held⟩

theorem Agrees.get_iff {history : History Entry} (agrees : Agrees history) (i : Int) (e : Entry) :
    history.table.toTable.getNumber i = .ok e ↔
      0 ≤ i ∧ ∃ tenure, live history.events i.toNat = some (tenure, e) := by
  unfold Table.getNumber
  by_cases negative : i < 0
  · rw [if_pos negative]
    constructor
    · intro found
      cases found
    · rintro ⟨positive, _⟩
      omega
  · rw [if_neg negative, Table.get_eq_ok, agrees.entries, Option.map_eq_some_iff]
    constructor
    · rintro ⟨⟨tenure, e'⟩, found, same⟩
      cases same
      exact ⟨Int.not_lt.mp negative, tenure, found⟩
    · rintro ⟨_, tenure, found⟩
      exact ⟨(tenure, e), found, rfl⟩

theorem removeNumber_iff (table : TenuredTable Entry) (i : Int) (e : Entry) :
    (∃ next, table.removeNumber i = .ok (e, next)) ↔ table.toTable.getNumber i = .ok e := by
  unfold TenuredTable.removeNumber Table.getNumber TenuredTable.remove Table.remove
  by_cases negative : i < 0
  · simp [negative]
  · rw [if_neg negative, if_neg negative]
    cases table.toTable.get i.toNat with
    | error failure => simp
    | ok held => simp

theorem Agrees.add_error {history : History Entry} (agrees : Agrees history) {e : Entry}
    {failure : Failure} (failed : history.table.add e = .error failure) :
    failure = .trap "table full" ∧ history.table.free = [] ∧
      Table.maxLength < history.table.array.length := by
  unfold TenuredTable.add at failed
  cases slot : history.table.toTable.add e with
  | ok outcome =>
      rw [slot] at failed
      cases failed
  | error raised =>
      rw [slot] at failed
      cases failed
      unfold Table.add at slot
      cases stack : history.table.free with
      | nil =>
          simp only [stack] at slot
          split at slot
          · next full =>
              cases slot
              exact ⟨rfl, rfl, full⟩
          · cases slot
      | cons top free =>
          have topVacant := agrees.valid.slots.vacant top (by simp [stack])
          simp [stack, topVacant] at slot

/-- Over every sequence of calls on a table: index 0 is never issued and none above the maximal
length; the free stack lists the vacant slots other than 0, each once; `get` and `remove` succeed
exactly on indices issued and not removed since; `add` takes a vacant slot, touches no other and
fails on a full table only; no index is issued twice under one tenure, and comparing entry and
tenure tells whether an insertion is still there. -/
theorem table_invariant [DecidableEq Entry] (calls : List (Call Entry)) :
    let history := calls.foldl History.step History.empty
    (∀ pair ∈ issued history.events, 0 < pair.1 ∧ pair.1 ≤ Table.maxLength) ∧
      (∀ i, i ∈ history.table.free ↔ 0 < i ∧ history.table.array[i]? = some none) ∧
      history.table.free.Nodup ∧
      (∀ (i : Int) (e : Entry), history.table.toTable.getNumber i = .ok e ↔
        0 ≤ i ∧ ∃ tenure, live history.events i.toNat = some (tenure, e)) ∧
      (∀ (i : Int) (e : Entry), (∃ next, history.table.removeNumber i = .ok (e, next)) ↔
        0 ≤ i ∧ ∃ tenure, live history.events i.toNat = some (tenure, e)) ∧
      (∀ (e : Entry) (i : Nat) (next : TenuredTable Entry), history.table.add e = .ok (i, next) →
        live history.events i = none ∧
          ∀ j, next.entry j = if j = i then some e else history.table.entry j) ∧
      (∀ (e : Entry) (failure : Failure), history.table.add e = .error failure →
        failure = .trap "table full" ∧ history.table.free = [] ∧
          Table.maxLength < history.table.array.length) ∧
      (issued history.events).Nodup ∧
      ∀ (i tenure : Nat) (e : Entry), history.table.Holds i tenure e ↔
        live history.events i = some (tenure, e) := by
  intro history
  have agrees : Agrees history := agrees_empty.run calls
  refine ⟨agrees.range, ?_, agrees.valid.slots.nodup, agrees.get_iff, ?_, ?_, ?_, agrees.once,
    agrees.holds_iff⟩
  · intro i
    constructor
    · intro member
      exact ⟨agrees.numbered.positive i member, agrees.valid.slots.vacant i member⟩
    · rintro ⟨positive, vacant⟩
      exact agrees.vacant i positive vacant
  · intro i e
    rw [removeNumber_iff, agrees.get_iff]
  · intro e i next added
    obtain ⟨vacant, _, entries, _, _⟩ := TenuredTable.add_ok agrees.valid added
    refine ⟨?_, entries⟩
    rw [agrees.entries i] at vacant
    exact Option.map_eq_none_iff.mp vacant
  · intro e failure failed
    exact agrees.add_error failed

end TableRun

end Polyengine.Cabi
