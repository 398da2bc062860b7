import Polyengine.Jspi.SuspensionPoint

/-!
# The books of a store

What the suspension points of a store and its registers have to do with each other wherever other code
runs, and that parking, resuming and ending a point keeps it so.
-/

set_option autoImplicit false

namespace Polyengine.Jspi

open Polyengine.Library

variable {Value Error : Type}

/-! ## Regular points -/

/-- How a point has ended. -/
inductive Ending (point : Point Value Error) : Prop where
  | resumed : point.resumed = true → point.abandoned = false → point.produces = 1 →
      point.recorded = (if point.owner.isSome = true then 1 else 0) → Ending point
  | abandoned : point.resumed = false → point.abandoned = true → point.produces = 0 →
      point.recorded = 0 → Ending point

structure Regular (point : Point Value Error) : Prop where
  parked : point.done = false → point.finished = false ∧ point.produces = 0 ∧ point.hooks = 0 ∧
    point.promise = [] ∧ point.producing = false ∧ point.resumed = false ∧
    point.abandoned = false ∧ point.recorded = 0
  producing : point.done = true → point.finished = false → point.produces = 1 ∧ point.hooks = 0 ∧
    point.promise = [] ∧ point.producing = true ∧ point.resumed = true ∧
    point.abandoned = false ∧ point.recorded = 0
  ended : point.finished = true → point.done = true ∧ point.hooks = 1 ∧
    (∃ settlement, point.promise = [settlement]) ∧ point.producing = false ∧ Ending point
  lenders : point.finished = true →
    (point.paired = .syncStart ∨ point.paired = .hostImport ∨
      point.paired = .asyncStart ∧ point.reported = false) → point.lent = false

/-- What the registers of the store know of a point. -/
structure View where
  owner : Option Nat
  logicalOwner : Option Nat
  paired : Paired
  finished : Bool
  recorded : Nat

def Point.view (point : Point Value Error) : View where
  owner := point.owner
  logicalOwner := point.logicalOwner
  paired := point.paired
  finished := point.finished
  recorded := point.recorded

def Store.views (store : Store Value Error) (id : Nat) : Option View :=
  (store.points id).map Point.view

/-- The point has not ended, and it has this to discharge. -/
def Holds (views : Nat → Option View) (paired : Paired) (id : Nat) : Prop :=
  ∃ view, views id = some view ∧ view.paired = paired ∧ view.finished = false

open scoped Classical in
noncomputable def raised (views : Nat → Option View) (next : Nat) (counter : Counter) : Finset Nat :=
  (Finset.range next).filter (Holds views (.counter counter))

/-- The point is the last that was minted for the thread, and it has not ended. -/
structure Parks (views : Nat → Option View) (thread id : Nat) : Prop where
  parked : ∃ view, views id = some view ∧ view.logicalOwner = some thread ∧ view.finished = false
  last : ∀ later view, id < later → views later = some view → view.logicalOwner ≠ some thread

/-- The registers of the store and the points. -/
structure Books (views : Nat → Option View) (store : Store Value Error) : Prop where
  fresh : ∀ id, store.next ≤ id → views id = none
  requiredNodup : store.requiredSyncParks.Nodup
  required : ∀ id ∈ store.requiredSyncParks, ∃ view, views id = some view ∧ view.finished = false
  pending : ∀ owner ∈ store.pendingResumptions, ∃ id view, views id = some view ∧
    view.owner = some owner ∧ view.recorded = 1
  park : ∀ thread id, store.activePark thread = some id ↔ Parks views thread id
  counters : ∀ counter,
    store.counters counter = store.others counter + (raised views store.next counter).card
  claimed : ∀ waitable, store.hasSyncWaiter waitable = true ↔ ∃ id, Holds views (.syncWaiter waitable) id
  claimer : ∀ waitable first second, Holds views (.syncWaiter waitable) first →
    Holds views (.syncWaiter waitable) second → first = second
  busy : ∀ waitable, store.hasSyncWaiter waitable = true → store.busy waitable = true

structure Consistent (store : Store Value Error) : Prop where
  points : ∀ id point, store.points id = some point → Regular point
  nodup : store.waiting.Nodup
  waiting : ∀ id, id ∈ store.waiting ↔ ∃ point, store.points id = some point ∧ point.done = false
  books : Books store.views store

/-! ## What other code leaves alone -/

/-- Once a point is resumed or abandoned, only the return of its boundary may still be noted. -/
def Later (point next : Point Value Error) : Prop :=
  point.done = true → next = { point with boundaryReturned := next.boundaryReturned }

theorem Later.refl (point : Point Value Error) : Later point point := fun _ => rfl

theorem Later.trans {first second third : Point Value Error} (one : Later first second)
    (two : Later second third) : Later first third := by
  intro done
  have same := one done
  have still : second.done = true := by
    rw [same]
    exact done
  rw [two still, same]

/-- Points stay, each in a later state. -/
def Kept (store next : Store Value Error) : Prop :=
  ∀ id point, store.points id = some point →
    ∃ later, next.points id = some later ∧ Later point later

theorem Kept.refl (store : Store Value Error) : Kept store store :=
  fun _ point here => ⟨point, here, .refl point⟩

theorem Kept.trans {first second third : Store Value Error} (one : Kept first second)
    (two : Kept second third) : Kept first third := by
  intro id point here
  obtain ⟨next, there, later⟩ := one id point here
  obtain ⟨last, finally', last'⟩ := two id next there
  exact ⟨last, finally', later.trans last'⟩

structure Rely (store next : Store Value Error) : Prop where
  consistent : Consistent next
  kept : Kept store next

theorem reliable : Reentrant.Reliable (@Consistent Value Error) Rely where
  refl consistent := ⟨consistent, .refl _⟩
  trans one two := ⟨two.consistent, one.kept.trans two.kept⟩
  kept rely := rely.consistent

/-! ## One point changes -/

def Store.set (store : Store Value Error) (id : Nat) (point : Point Value Error) :
    Store Value Error :=
  { store with points := Function.update store.points id (some point) }

section

variable {store : Store Value Error} {id : Nat} {before after : Point Value Error}

@[simp] theorem Store.set_self : (store.set id after).points id = some after :=
  Function.update_self _ _ _

theorem Store.set_other {other : Nat} (different : other ≠ id) :
    (store.set id after).points other = store.points other :=
  Function.update_of_ne different _ _

@[simp] theorem Store.set_set : (store.set id before).set id after = store.set id after := by
  simp [Store.set]

theorem Store.set_points {other : Nat} {point : Point Value Error}
    (there : (store.set id after).points other = some point) :
    (other = id ∧ point = after) ∨ (other ≠ id ∧ store.points other = some point) := by
  by_cases same : other = id
  · subst same
    rw [Store.set_self] at there
    injection there with there
    exact .inl ⟨rfl, there.symm⟩
  · rw [Store.set_other same] at there
    exact .inr ⟨same, there⟩

theorem Store.views_set :
    (store.set id after).views = Function.update store.views id (some after.view) := by
  funext other
  by_cases same : other = id
  · subst same
    simp [Store.views]
  · simp [Store.views, Store.set_other same, Function.update_of_ne same]

theorem Store.views_some (here : store.points id = some before) :
    store.views id = some before.view := by
  rw [Store.views, here]
  rfl

theorem Kept.set (here : store.points id = some before) (later : Later before after)
    {next : Store Value Error} (points : next.points = (store.set id after).points) :
    Kept store next := by
  intro other point there
  rw [points]
  by_cases same : other = id
  · subst same
    rw [here] at there
    cases there
    exact ⟨after, Store.set_self, later⟩
  · exact ⟨point, (Store.set_other same).trans there, .refl point⟩

end

/-! ## A point ends -/

section

variable {views : Nat → Option View} {store : Store Value Error} {id : Nat} {view : View}

def View.ended (view : View) (recorded : Nat) : View := { view with finished := true, recorded }

/-- The counters once the hook of the point has run. -/
def lowered (counters : Counter → Int) : Paired → Counter → Int
  | .counter counter => Function.update counters counter (counters counter + -1)
  | _ => counters

/-- The claims once the hook of the point has run. -/
def released (claims : Nat → Bool) : Paired → Nat → Bool
  | .syncWaiter waitable => Function.update claims waitable false
  | _ => claims

/-- `activePark` once the point has been cleared from it. -/
def cleared (activePark : Nat → Option Nat) (id : Nat) : Option Nat → Nat → Option Nat
  | some owner =>
      if activePark owner = some id then Function.update activePark owner none else activePark
  | none => activePark

/-- The registers of the store once the point has ended. -/
def Store.closed (store : Store Value Error) (id : Nat) (logicalOwner : Option Nat) (paired : Paired)
    (pendingResumptions : Finset Nat) : Store Value Error :=
  { store with
    waiting := store.waiting.erase id
    requiredSyncParks := store.requiredSyncParks.erase id
    pendingResumptions
    activePark := cleared store.activePark id logicalOwner
    counters := lowered store.counters paired
    hasSyncWaiter := released store.hasSyncWaiter paired }

theorem Holds.ended {paired : Paired} {other recorded : Nat} :
    Holds (Function.update views id (some (view.ended recorded))) paired other ↔
      other ≠ id ∧ Holds views paired other := by
  by_cases same : other = id
  · subst same
    simp [Holds, View.ended]
  · simp [Holds, same]

theorem raised_ended (here : views id = some view) (unfinished : view.finished = false)
    (below : id < store.next) (recorded : Nat) (counter : Counter) :
    ((raised (Function.update views id (some (view.ended recorded))) store.next counter).card : Int) =
      (raised views store.next counter).card -
        (if view.paired = .counter counter then 1 else 0) := by
  have same : raised (Function.update views id (some (view.ended recorded))) store.next counter =
      (raised views store.next counter).erase id := by
    ext other
    simp only [raised, Finset.mem_filter, Finset.mem_erase, Finset.mem_range, Holds.ended,
      and_left_comm]
  rw [same]
  by_cases paired : view.paired = .counter counter
  · have member : id ∈ raised views store.next counter := by
      simp only [raised, Finset.mem_filter, Finset.mem_range]
      exact ⟨below, view, here, paired, unfinished⟩
    have positive := Finset.card_pos.mpr ⟨id, member⟩
    rw [Finset.card_erase_of_mem member, if_pos paired]
    omega
  · have absent : id ∉ raised views store.next counter := by
      simp only [raised, Finset.mem_filter, Finset.mem_range]
      rintro ⟨_, found, there, held, _⟩
      rw [here] at there
      cases there
      exact paired held
    rw [Finset.erase_eq_of_notMem absent, if_neg paired]
    omega

theorem Parks.ended (here : views id = some view) {thread other recorded : Nat} :
    Parks (Function.update views id (some (view.ended recorded))) thread other ↔
      other ≠ id ∧ Parks views thread other := by
  have last : (∀ later found, other < later →
      Function.update views id (some (view.ended recorded)) later = some found →
        found.logicalOwner ≠ some thread) ↔
      ∀ later found, other < later → views later = some found →
        found.logicalOwner ≠ some thread := by
    constructor
    · intro all later found above there
      by_cases same : later = id
      · subst same
        rw [here] at there
        cases there
        exact all later (view.ended recorded) above (Function.update_self _ _ _)
      · exact all later found above ((Function.update_of_ne same _ _).trans there)
    · intro all later found above there
      by_cases same : later = id
      · subst same
        rw [Function.update_self] at there
        cases there
        exact all later view above here
      · rw [Function.update_of_ne same] at there
        exact all later found above there
  constructor
  · rintro ⟨⟨found, there, owner, unfinished⟩, all⟩
    have different : other ≠ id := by
      rintro rfl
      rw [Function.update_self] at there
      cases there
      cases unfinished
    rw [Function.update_of_ne different] at there
    exact ⟨different, ⟨found, there, owner, unfinished⟩, last.mp all⟩
  · rintro ⟨different, ⟨found, there, owner, unfinished⟩, all⟩
    exact ⟨⟨found, (Function.update_of_ne different _ _).trans there, owner, unfinished⟩,
      last.mpr all⟩

theorem lowered_eq (counters : Counter → Int) (paired : Paired) (counter : Counter) :
    lowered counters paired counter =
      counters counter - (if paired = .counter counter then 1 else 0) := by
  cases paired with
  | counter own =>
      by_cases same : counter = own
      · subst same
        simp [lowered, Int.sub_eq_add_neg]
      · have different : own ≠ counter := fun equal => same equal.symm
        simp [lowered, Function.update_of_ne same, different]
  | nothing => simp [lowered]
  | syncWaiter waitable => simp [lowered]
  | syncStart => simp [lowered]
  | hostImport => simp [lowered]
  | asyncStart => simp [lowered]

theorem released_eq (claims : Nat → Bool) (paired : Paired) (waitable : Nat) :
    released claims paired waitable = true ↔
      paired ≠ .syncWaiter waitable ∧ claims waitable = true := by
  cases paired with
  | syncWaiter own =>
      by_cases same : waitable = own
      · subst same
        simp [released]
      · have different : own ≠ waitable := fun equal => same equal.symm
        simp [released, Function.update_of_ne same, different]
  | nothing => simp [released]
  | counter counter => simp [released]
  | syncStart => simp [released]
  | hostImport => simp [released]
  | asyncStart => simp [released]

theorem Books.owner (books : Books views store) (here : views id = some view) {thread : Nat}
    (parks : store.activePark thread = some id) : view.logicalOwner = some thread := by
  obtain ⟨found, there, owner, _⟩ := ((books.park thread id).mp parks).parked
  rw [here] at there
  cases there
  exact owner

theorem cleared_eq (books : Books views store) (here : views id = some view) {thread other : Nat} :
    cleared store.activePark id view.logicalOwner thread = some other ↔
      other ≠ id ∧ store.activePark thread = some other := by
  by_cases parks : store.activePark thread = some id
  · rw [books.owner here parks, cleared, if_pos parks, Function.update_self, parks]
    simp
    exact fun different same => different same.symm
  · have same : cleared store.activePark id view.logicalOwner thread = store.activePark thread := by
      cases logicalOwner : view.logicalOwner with
      | none => rfl
      | some owner =>
          simp only [cleared]
          split
          · by_cases equal : thread = owner
            · subst equal
              contradiction
            · exact Function.update_of_ne equal _ _
          · rfl
    rw [same]
    constructor
    · intro is
      refine ⟨?_, is⟩
      rintro rfl
      exact parks is
    · exact fun both => both.2

theorem Books.closed (books : Books views store) (here : views id = some view)
    (unfinished : view.finished = false) {recorded : Nat} {pendingResumptions : Finset Nat}
    (more : view.recorded = 1 → recorded = 1)
    (pending : ∀ owner ∈ pendingResumptions,
      owner ∈ store.pendingResumptions ∨ view.owner = some owner ∧ recorded = 1) :
    Books (Function.update views id (some (view.ended recorded)))
      (store.closed id view.logicalOwner view.paired pendingResumptions) := by
  have below : id < store.next := by
    by_contra above
    rw [books.fresh id (by omega)] at here
    cases here
  constructor
  · intro other above
    have different : other ≠ id := by
      simp only [Store.closed] at above
      omega
    rw [Function.update_of_ne different]
    exact books.fresh other above
  · exact books.requiredNodup.erase id
  · intro other member
    simp only [Store.closed, books.requiredNodup.mem_erase_iff] at member
    rw [Function.update_of_ne member.1]
    exact books.required other member.2
  · intro owner member
    obtain old | ⟨own, one⟩ := pending owner member
    · obtain ⟨other, found, there, owned, recordedOnce⟩ := books.pending owner old
      by_cases same : other = id
      · subst same
        rw [here] at there
        cases there
        exact ⟨other, _, Function.update_self _ _ _, owned, more recordedOnce⟩
      · exact ⟨other, found, (Function.update_of_ne same _ _).trans there, owned, recordedOnce⟩
    · exact ⟨id, _, Function.update_self _ _ _, own, one⟩
  · intro thread other
    rw [Parks.ended here, ← books.park thread other]
    exact cleared_eq books here
  · intro counter
    change lowered store.counters view.paired counter =
      store.others counter + (raised _ store.next counter).card
    rw [raised_ended here unfinished below, lowered_eq, books.counters counter]
    omega
  · intro waitable
    change released store.hasSyncWaiter view.paired waitable = true ↔ _
    rw [released_eq, books.claimed waitable]
    simp only [Holds.ended]
    constructor
    · rintro ⟨different, other, holds⟩
      refine ⟨other, ?_, holds⟩
      rintro rfl
      obtain ⟨found, there, paired, _⟩ := holds
      rw [here] at there
      cases there
      exact different paired
    · rintro ⟨other, different, holds⟩
      refine ⟨fun paired => ?_, other, holds⟩
      exact different (books.claimer waitable other id holds ⟨view, here, paired, unfinished⟩)
  · intro waitable first second one two
    rw [Holds.ended] at one two
    exact books.claimer waitable first second one.2 two.2
  · intro waitable has
    change released store.hasSyncWaiter view.paired waitable = true at has
    rw [released_eq] at has
    exact books.busy waitable has.2

end

/-! ## A point is minted -/

/-- The counters once a built-in has raised its own. -/
def lifted (counters : Counter → Int) : Paired → Counter → Int
  | .counter counter => Function.update counters counter (counters counter + 1)
  | _ => counters

/-- A register of the waitables once a built-in has set its own. -/
def claimedBy (register : Nat → Bool) : Paired → Nat → Bool
  | .syncWaiter waitable => Function.update register waitable true
  | _ => register

/-- `activePark` once a point has been minted. -/
def parkedBy (activePark : Nat → Option Nat) (id : Nat) : Option Nat → Nat → Option Nat
  | some owner => Function.update activePark owner (some id)
  | none => activePark

/-- The registers of the store once a point has been minted. -/
def Store.opened (store : Store Value Error) (park : Park) (pendingResumptions : Finset Nat) :
    Store Value Error :=
  { store with
    next := store.next + 1
    waiting := store.waiting ++ [store.next]
    pendingResumptions
    activePark := parkedBy store.activePark store.next park.logicalOwner
    counters := lifted store.counters park.paired
    hasSyncWaiter := claimedBy store.hasSyncWaiter park.paired
    busy := claimedBy store.busy park.paired }

def Park.view (park : Park) : View where
  owner := park.owner
  logicalOwner := park.logicalOwner
  paired := park.paired
  finished := false
  recorded := 0

section

variable {views : Nat → Option View} {store : Store Value Error} {park : Park}

theorem lifted_eq (counters : Counter → Int) (paired : Paired) (counter : Counter) :
    lifted counters paired counter =
      counters counter + (if paired = .counter counter then 1 else 0) := by
  cases paired with
  | counter own =>
      by_cases same : counter = own
      · subst same
        simp [lifted]
      · have different : own ≠ counter := fun equal => same equal.symm
        simp [lifted, Function.update_of_ne same, different]
  | nothing => simp [lifted]
  | syncWaiter waitable => simp [lifted]
  | syncStart => simp [lifted]
  | hostImport => simp [lifted]
  | asyncStart => simp [lifted]

theorem claimedBy_eq (register : Nat → Bool) (paired : Paired) (waitable : Nat) :
    claimedBy register paired waitable = true ↔
      paired = .syncWaiter waitable ∨ register waitable = true := by
  cases paired with
  | syncWaiter own =>
      by_cases same : waitable = own
      · subst same
        simp [claimedBy]
      · have different : own ≠ waitable := fun equal => same equal.symm
        simp [claimedBy, Function.update_of_ne same, different]
  | nothing => simp [claimedBy]
  | counter counter => simp [claimedBy]
  | syncStart => simp [claimedBy]
  | hostImport => simp [claimedBy]
  | asyncStart => simp [claimedBy]

theorem parkedBy_eq (activePark : Nat → Option Nat) (id : Nat) (logicalOwner : Option Nat)
    (thread : Nat) :
    parkedBy activePark id logicalOwner thread =
      if logicalOwner = some thread then some id else activePark thread := by
  cases logicalOwner with
  | none => rfl
  | some owner =>
      by_cases same : thread = owner
      · subst same
        simp [parkedBy]
      · have different : owner ≠ thread := fun equal => same equal.symm
        simp [parkedBy, Function.update_of_ne same, different]

theorem Books.below (books : Books views store) {id : Nat} {view : View}
    (here : views id = some view) : id < store.next := by
  by_contra above
  rw [books.fresh id (by omega)] at here
  cases here

theorem Books.holds_below (books : Books views store) {paired : Paired} {id : Nat}
    (holds : Holds views paired id) : id < store.next := by
  obtain ⟨view, here, _⟩ := holds
  exact books.below here

theorem Books.holds_minted (books : Books views store) {paired : Paired} {other : Nat} :
    Holds (Function.update views store.next (some park.view)) paired other ↔
      other = store.next ∧ park.paired = paired ∨ Holds views paired other := by
  by_cases same : other = store.next
  · subst same
    have absent : ¬Holds views paired store.next := fun holds =>
      absurd (books.holds_below holds) (Nat.lt_irrefl _)
    simp [Holds, Park.view] at absent ⊢
    exact fun view here held => by rw [absent view here held]; nofun
  · simp [Holds, same]

theorem Books.raised_minted (books : Books views store) (counter : Counter) :
    ((raised (Function.update views store.next (some park.view)) (store.next + 1) counter).card :
      Int) = (raised views store.next counter).card +
        (if park.paired = .counter counter then 1 else 0) := by
  have absent : store.next ∉ raised views store.next counter := by
    simp [raised]
  by_cases paired : park.paired = .counter counter
  · have same : raised (Function.update views store.next (some park.view)) (store.next + 1) counter =
        insert store.next (raised views store.next counter) := by
      ext other
      simp only [raised, Finset.mem_filter, Finset.mem_insert, Finset.mem_range, books.holds_minted]
      constructor
      · rintro ⟨_, ⟨is, _⟩ | holds⟩
        · exact .inl is
        · exact .inr ⟨books.holds_below holds, holds⟩
      · rintro (is | ⟨below, holds⟩)
        · exact ⟨by omega, .inl ⟨is, paired⟩⟩
        · exact ⟨by omega, .inr holds⟩
    rw [same, Finset.card_insert_of_notMem absent, if_pos paired]
    omega
  · have same : raised (Function.update views store.next (some park.view)) (store.next + 1) counter =
        raised views store.next counter := by
      ext other
      simp only [raised, Finset.mem_filter, Finset.mem_range, books.holds_minted]
      constructor
      · rintro ⟨_, ⟨_, is⟩ | holds⟩
        · exact absurd is paired
        · exact ⟨books.holds_below holds, holds⟩
      · rintro ⟨below, holds⟩
        exact ⟨by omega, .inr holds⟩
    rw [same, if_neg paired]
    omega

theorem Books.parks_minted (books : Books views store) {thread other : Nat} :
    Parks (Function.update views store.next (some park.view)) thread other ↔
      (park.logicalOwner = some thread ∧ other = store.next) ∨
        (park.logicalOwner ≠ some thread ∧ Parks views thread other) := by
  constructor
  · rintro ⟨⟨found, there, owner, unfinished⟩, last⟩
    by_cases same : other = store.next
    · subst same
      rw [Function.update_self] at there
      cases there
      exact .inl ⟨owner, rfl⟩
    · rw [Function.update_of_ne same] at there
      have below := books.below there
      refine .inr ⟨last store.next park.view below (Function.update_self _ _ _),
        ⟨found, there, owner, unfinished⟩, fun later view above here => ?_⟩
      have different : later ≠ store.next := by
        have := books.below here
        omega
      exact last later view above ((Function.update_of_ne different _ _).trans here)
  · rintro (⟨owner, rfl⟩ | ⟨others, ⟨found, there, owner, unfinished⟩, last⟩)
    · refine ⟨⟨park.view, Function.update_self _ _ _, owner, rfl⟩, fun later view above here => ?_⟩
      have different : later ≠ store.next := by omega
      rw [Function.update_of_ne different, books.fresh later (by omega)] at here
      cases here
    · have different : other ≠ store.next := by
        have := books.below there
        omega
      refine ⟨⟨found, (Function.update_of_ne different _ _).trans there, owner, unfinished⟩, ?_⟩
      intro later view above here
      by_cases same : later = store.next
      · subst same
        rw [Function.update_self] at here
        cases here
        exact others
      · rw [Function.update_of_ne same] at here
        exact last later view above here

theorem Books.opened (books : Books views store) {pendingResumptions : Finset Nat}
    (fewer : pendingResumptions ⊆ store.pendingResumptions)
    (free : ∀ waitable, park.paired = .syncWaiter waitable → store.hasSyncWaiter waitable = false) :
    Books (Function.update views store.next (some park.view))
      (store.opened park pendingResumptions) := by
  have old : ∀ id view, views id = some view →
      Function.update views store.next (some park.view) id = some view := by
    intro id view here
    have different : id ≠ store.next := by
      have := books.below here
      omega
    rw [Function.update_of_ne different, here]
  constructor
  · intro other above
    simp only [Store.opened] at above
    have different : other ≠ store.next := by omega
    rw [Function.update_of_ne different]
    exact books.fresh other (by omega)
  · exact books.requiredNodup
  · intro other member
    obtain ⟨found, there, unfinished⟩ := books.required other member
    exact ⟨found, old other found there, unfinished⟩
  · intro owner member
    obtain ⟨other, found, there, both⟩ := books.pending owner (fewer member)
    exact ⟨other, found, old other found there, both⟩
  · intro thread other
    rw [books.parks_minted]
    change parkedBy store.activePark store.next park.logicalOwner thread = some other ↔ _
    rw [parkedBy_eq, ← books.park thread other]
    split
    next is => simp [is, eq_comm]
    next isNot => simp [isNot]
  · intro counter
    change lifted store.counters park.paired counter =
      store.others counter + (raised _ (store.next + 1) counter).card
    rw [books.raised_minted, lifted_eq, books.counters counter]
    omega
  · intro waitable
    change claimedBy store.hasSyncWaiter park.paired waitable = true ↔ _
    rw [claimedBy_eq, books.claimed waitable]
    simp only [books.holds_minted]
    constructor
    · rintro (own | ⟨other, holds⟩)
      · exact ⟨store.next, .inl ⟨rfl, own⟩⟩
      · exact ⟨other, .inr holds⟩
    · rintro ⟨other, ⟨_, own⟩ | holds⟩
      · exact .inl own
      · exact .inr ⟨other, holds⟩
  · intro waitable first second one two
    rw [books.holds_minted] at one two
    have none : park.paired = .syncWaiter waitable → ∀ other,
        ¬Holds views (.syncWaiter waitable) other := by
      intro own other holds
      have has := (books.claimed waitable).mpr ⟨other, holds⟩
      rw [free waitable own] at has
      cases has
    obtain ⟨rfl, own⟩ | holdsOne := one
    · obtain ⟨rfl, _⟩ | holdsTwo := two
      · rfl
      · exact absurd holdsTwo (none own second)
    · obtain ⟨rfl, own⟩ | holdsTwo := two
      · exact absurd holdsOne (none own first)
      · exact books.claimer waitable first second holdsOne holdsTwo
  · intro waitable has
    change claimedBy store.hasSyncWaiter park.paired waitable = true at has
    change claimedBy store.busy park.paired waitable = true
    rw [claimedBy_eq] at has ⊢
    exact has.imp_right fun is => books.busy waitable is

end

/-! ## Steps of the store -/

section

variable {store : Store Value Error} {id : Nat} {before after : Point Value Error}

theorem Store.set_regular (points : ∀ id point, store.points id = some point → Regular point)
    (regular : Regular after) (other : Nat) (point : Point Value Error)
    (there : (store.set id after).points other = some point) : Regular point := by
  obtain ⟨rfl, rfl⟩ | ⟨_, there⟩ := Store.set_points there
  · exact regular
  · exact points other point there

theorem Consistent.touch (consistent : Consistent store) (here : store.points id = some before)
    (regular : Regular after) (view : after.view = before.view) (done : after.done = before.done) :
    Consistent (store.set id after) := by
  have views : (store.set id after).views = store.views := by
    rw [Store.views_set, view, ← Store.views_some here, Function.update_eq_self]
  refine ⟨Store.set_regular consistent.points regular, consistent.nodup, fun other => ?_, ?_⟩
  · change other ∈ store.waiting ↔ _
    rw [consistent.waiting other]
    by_cases same : other = id
    · subst same
      simp [here, done]
    · rw [Store.set_other same]
  · rw [views]
    exact ⟨consistent.books.fresh, consistent.books.requiredNodup, consistent.books.required,
      consistent.books.pending, consistent.books.park, consistent.books.counters,
      consistent.books.claimed, consistent.books.claimer, consistent.books.busy⟩

theorem Consistent.waiting_erase (consistent : Consistent store) (done : after.done = true)
    (other : Nat) : other ∈ store.waiting.erase id ↔
      ∃ point, (store.set id after).points other = some point ∧ point.done = false := by
  rw [consistent.nodup.mem_erase_iff, consistent.waiting other]
  by_cases same : other = id
  · subst same
    simp [done]
  · rw [Store.set_other same]
    simp [same]

theorem Consistent.begin (consistent : Consistent store) (here : store.points id = some before)
    (regular : Regular after) (view : after.view = before.view) (done : after.done = true) :
    Consistent ({ store with waiting := store.waiting.erase id }.set id after) := by
  have views : ({ store with waiting := store.waiting.erase id }.set id after).views =
      store.views := by
    change (store.set id after).views = store.views
    rw [Store.views_set, view, ← Store.views_some here, Function.update_eq_self]
  refine ⟨Store.set_regular consistent.points regular, consistent.nodup.erase id,
    consistent.waiting_erase done, ?_⟩
  rw [views]
  exact ⟨consistent.books.fresh, consistent.books.requiredNodup, consistent.books.required,
    consistent.books.pending, consistent.books.park, consistent.books.counters,
    consistent.books.claimed, consistent.books.claimer, consistent.books.busy⟩

theorem Consistent.closed (consistent : Consistent store) (here : store.points id = some before)
    (unfinished : before.finished = false) (regular : Regular after) {recorded : Nat}
    (view : after.view = before.view.ended recorded) (more : before.recorded = 1 → recorded = 1)
    (done : after.done = true) {pendingResumptions : Finset Nat}
    (pending : ∀ owner ∈ pendingResumptions,
      owner ∈ store.pendingResumptions ∨ before.owner = some owner ∧ recorded = 1) :
    Consistent ((store.closed id before.logicalOwner before.paired pendingResumptions).set id
      after) := by
  refine ⟨Store.set_regular consistent.points regular, consistent.nodup.erase id,
    consistent.waiting_erase done, ?_⟩
  have books := consistent.books.closed (Store.views_some here) unfinished more pending
  have views : ((store.closed id before.logicalOwner before.paired pendingResumptions).set id
      after).views = Function.update store.views id (some (before.view.ended recorded)) := by
    change (store.set id after).views = _
    rw [Store.views_set, view]
  rw [views]
  exact ⟨books.fresh, books.requiredNodup, books.required, books.pending, books.park,
    books.counters, books.claimed, books.claimer, books.busy⟩

theorem start_regular (park : Park) : Regular (Point.start park : Point Value Error) :=
  ⟨fun _ => ⟨rfl, rfl, rfl, rfl, rfl, rfl, rfl, rfl⟩, nofun, nofun, nofun⟩

theorem Consistent.absent (consistent : Consistent store) : store.points store.next = none := by
  have fresh := consistent.books.fresh store.next (Nat.le_refl _)
  simpa [Store.views] using fresh

theorem Consistent.opened (consistent : Consistent store) {park : Park}
    {pendingResumptions : Finset Nat} (fewer : pendingResumptions ⊆ store.pendingResumptions)
    (free : ∀ waitable, park.paired = .syncWaiter waitable → store.hasSyncWaiter waitable = false) :
    Consistent ((store.opened park pendingResumptions).set store.next (Point.start park)) := by
  have notWaiting : store.next ∉ store.waiting := by
    rw [consistent.waiting, consistent.absent]
    rintro ⟨point, there, _⟩
    cases there
  refine ⟨Store.set_regular consistent.points (start_regular park), ?_, fun other => ?_, ?_⟩
  · refine consistent.nodup.append (List.nodup_singleton _) ?_
    rw [List.disjoint_singleton]
    exact notWaiting
  · change other ∈ store.waiting ++ [store.next] ↔
      ∃ point, (store.set store.next (Point.start park)).points other = some point ∧ _
    rw [List.mem_append, consistent.waiting other]
    by_cases same : other = store.next
    · subst same
      simp [Point.start]
    · rw [Store.set_other same]
      simp [same]
  · have books := consistent.books.opened fewer free
    have views : ((store.opened park pendingResumptions).set store.next
        (Point.start park)).views = Function.update store.views store.next (some park.view) := by
      change (store.set store.next (Point.start park)).views = _
      rw [Store.views_set]
      rfl
    rw [views]
    exact ⟨books.fresh, books.requiredNodup, books.required, books.pending, books.park,
      books.counters, books.claimed, books.claimer, books.busy⟩

theorem Consistent.pending (consistent : Consistent store) {pendingResumptions : Finset Nat}
    (fewer : pendingResumptions ⊆ store.pendingResumptions) :
    Consistent { store with pendingResumptions } :=
  ⟨consistent.points, consistent.nodup, consistent.waiting, { consistent.books with
    pending := fun owner member => consistent.books.pending owner (fewer member) }⟩

theorem Consistent.required (consistent : Consistent store) {requiredSyncParks : List Nat}
    (nodup : requiredSyncParks.Nodup)
    (unfinished : ∀ id ∈ requiredSyncParks, id ∈ store.requiredSyncParks ∨
      ∃ point, store.points id = some point ∧ point.finished = false) :
    Consistent { store with requiredSyncParks } := by
  refine ⟨consistent.points, consistent.nodup, consistent.waiting, { consistent.books with
    requiredNodup := nodup, required := fun id member => ?_ }⟩
  obtain old | ⟨point, here, is⟩ := unfinished id member
  · exact consistent.books.required id old
  · exact ⟨point.view, Store.views_some here, is⟩

theorem Consistent.deliver (consistent : Consistent store) {waitable : Nat}
    (free : store.hasSyncWaiter waitable = false) :
    Consistent { store with busy := Function.update store.busy waitable false } := by
  refine ⟨consistent.points, consistent.nodup, consistent.waiting, { consistent.books with
    busy := fun other has => ?_ }⟩
  change Function.update store.busy waitable false other = true
  have different : other ≠ waitable := by
    rintro rfl
    rw [show store.hasSyncWaiter other = true from has] at free
    cases free
  rw [Function.update_of_ne different]
  exact consistent.books.busy other has

theorem Consistent.adjustOther (consistent : Consistent store) (counter : Counter) (amount : Int) :
    Consistent { store with
      counters := Function.update store.counters counter (store.counters counter + amount)
      others := Function.update store.others counter (store.others counter + amount) } := by
  refine ⟨consistent.points, consistent.nodup, consistent.waiting, { consistent.books with
    counters := fun other => ?_ }⟩
  change Function.update store.counters counter _ other =
    Function.update store.others counter _ other + (raised store.views store.next other).card
  by_cases same : other = counter
  · subst same
    rw [Function.update_self, Function.update_self, consistent.books.counters other]
    omega
  · rw [Function.update_of_ne same, Function.update_of_ne same, consistent.books.counters other]

end

theorem Consistent.initial : Consistent (Store.initial : Store Value Error) where
  points _ _ here := absurd here (Option.some_ne_none _).symm
  nodup := List.nodup_nil
  waiting _ := by simp [Store.initial]
  books := by
    have none : (Store.initial : Store Value Error).views = fun _ => Option.none := rfl
    rw [none]
    refine ⟨fun _ _ => rfl, List.nodup_nil, by simp [Store.initial], by simp [Store.initial], ?_,
      ?_, ?_, ?_, by simp [Store.initial]⟩
    · intro thread id
      refine ⟨fun parks => absurd parks (Option.some_ne_none _).symm, fun parks => ?_⟩
      obtain ⟨_, here, _⟩ := parks.parked
      cases here
    · intro counter
      simp [Store.initial, raised, Holds]
    · intro waitable
      simp [Store.initial, Holds]
    · intro waitable first second one
      obtain ⟨_, here, _⟩ := one
      cases here

end Polyengine.Jspi
