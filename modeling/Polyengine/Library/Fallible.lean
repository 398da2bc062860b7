import Mathlib.Data.List.Forall2

/-!
# Fallible computations

The stateless half of the program logic: what a computation in `Except` returns and how it may
fail.
-/

set_option autoImplicit false

namespace Polyengine.Library

namespace Fallible

variable {Failure Result Next : Type}

/-- A success of `computation` satisfies `post`; a failure is a permitted one. -/
def Satisfies (permitted : Failure → Prop) (computation : Except Failure Result)
    (post : Result → Prop) : Prop :=
  match computation with
  | .ok result => post result
  | .error failure => permitted failure

variable {permitted : Failure → Prop}

@[simp] theorem satisfies_ok (result : Result) (post : Result → Prop) :
    Satisfies permitted (.ok result) post ↔ post result := Iff.rfl

@[simp] theorem satisfies_error (failure : Failure) (post : Result → Prop) :
    Satisfies permitted (.error failure) post ↔ permitted failure := Iff.rfl

@[simp] theorem satisfies_pure (result : Result) (post : Result → Prop) :
    Satisfies permitted (pure result) post ↔ post result := Iff.rfl

@[simp] theorem satisfies_throw (failure : Failure) (post : Result → Prop) :
    Satisfies permitted (throw failure : Except Failure Result) post ↔ permitted failure := Iff.rfl

@[simp] theorem satisfies_bind (computation : Except Failure Result)
    (continuation : Result → Except Failure Next) (post : Next → Prop) :
    Satisfies permitted (computation >>= continuation) post ↔
      Satisfies permitted computation fun result => Satisfies permitted (continuation result) post := by
  cases computation with
  | error failure => rfl
  | ok result => rfl

@[simp] theorem satisfies_map (computation : Except Failure Result) (convert : Result → Next)
    (post : Next → Prop) :
    Satisfies permitted (convert <$> computation) post ↔
      Satisfies permitted computation fun result => post (convert result) := by
  cases computation with
  | error failure => rfl
  | ok result => rfl

@[simp] theorem satisfies_ite (condition : Prop) [Decidable condition]
    (first second : Except Failure Result) (post : Result → Prop) :
    Satisfies permitted (if condition then first else second) post ↔
      (condition → Satisfies permitted first post) ∧
        (¬condition → Satisfies permitted second post) := by
  by_cases holds : condition <;> simp [holds]

theorem satisfies_iff (computation : Except Failure Result) (post : Result → Prop) :
    Satisfies permitted computation post ↔
      (∀ result, computation = .ok result → post result) ∧
        ∀ failure, computation = .error failure → permitted failure := by
  cases computation with
  | error failure => simp
  | ok result => simp

/-- Consequence: a weaker postcondition and more permitted failures. -/
theorem Satisfies.mono {permitted' : Failure → Prop} {computation : Except Failure Result}
    {post post' : Result → Prop} (satisfies : Satisfies permitted computation post)
    (failures : ∀ failure, permitted failure → permitted' failure)
    (results : ∀ result, post result → post' result) :
    Satisfies permitted' computation post' := by
  cases computation with
  | error failure => exact failures failure satisfies
  | ok result => exact results result satisfies

/-- Consequence in the postcondition alone. -/
theorem Satisfies.imp {computation : Except Failure Result} {post post' : Result → Prop}
    (satisfies : Satisfies permitted computation post)
    (results : ∀ result, post result → post' result) : Satisfies permitted computation post' :=
  satisfies.mono (fun _ allowed => allowed) results

theorem Satisfies.of_ok {computation : Except Failure Result} {post : Result → Prop}
    {result : Result} (satisfies : Satisfies permitted computation post)
    (ran : computation = .ok result) : post result := by
  rw [ran] at satisfies
  exact satisfies

theorem Satisfies.of_error {computation : Except Failure Result} {post : Result → Prop}
    {failure : Failure} (satisfies : Satisfies permitted computation post)
    (ran : computation = .error failure) : permitted failure := by
  rw [ran] at satisfies
  exact satisfies

/-! ## Lists of computations -/

section

variable {First Second Third : Type}

theorem bind_ok {computation : Except Failure Result} {continuation : Result → Except Failure Next}
    {result : Next} (ran : (computation >>= continuation) = .ok result) :
    ∃ value, computation = .ok value ∧ continuation value = .ok result := by
  cases computation with
  | error failure => cases ran
  | ok value => exact ⟨value, rfl, ran⟩

/-- What every step of a loop keeps, about the items done so far, holds when the loop ends. -/
theorem foldlM_ok {State Item : Type} {step : State → Item → Except Failure State}
    {invariant : List Item → State → Prop}
    (preserved : ∀ done item state next, invariant done state → step state item = .ok next →
      invariant (done ++ [item]) next)
    (items : List Item) {done : List Item} {state final : State} (starts : invariant done state)
    (ran : items.foldlM step state = .ok final) : invariant (done ++ items) final := by
  induction items generalizing done state with
  | nil =>
      cases ran
      rwa [List.append_nil]
  | cons item rest ih =>
      rw [List.foldlM_cons] at ran
      obtain ⟨next, stepped, later⟩ := bind_ok ran
      have whole := ih (preserved done item state next starts stepped) later
      rwa [List.append_assoc, List.singleton_append] at whole

/-- Every result comes from its source. -/
theorem mapM_ok_iff {convert : First → Except Failure Second} :
    ∀ {sources : List First} {results : List Second},
      sources.mapM convert = .ok results ↔
        List.Forall₂ (fun source result => convert source = .ok result) sources results := by
  intro sources
  induction sources with
  | nil =>
      intro results
      rw [List.forall₂_nil_left_iff]
      constructor
      · intro ran
        cases ran
        rfl
      · rintro rfl
        rfl
  | cons source sources ih =>
      intro results
      rw [List.mapM_cons]
      constructor
      · intro ran
        obtain ⟨first, converted, ran⟩ := bind_ok ran
        obtain ⟨rest, restRan, ran⟩ := bind_ok ran
        cases ran
        exact .cons converted (ih.mp restRan)
      · intro holds
        cases holds with
        | cons converted rest =>
            rw [converted, ih.mpr rest]
            rfl

/-- The sources and the results belong to items. -/
theorem mapM_map_ok_iff {convert : First → Except Failure Second} {source : Third → First}
    {value : Third → Second} {items : List Third} :
    (items.map source).mapM convert = .ok (items.map value) ↔
      ∀ item ∈ items, convert (source item) = .ok (value item) := by
  rw [mapM_ok_iff, List.forall₂_map_left_iff, List.forall₂_map_right_iff, List.forall₂_same]

theorem mapM_ok {convert : First → Except Failure Second} {value : First → Second}
    {sources : List First} (converts : ∀ source ∈ sources, convert source = .ok (value source)) :
    sources.mapM convert = .ok (sources.map value) := by
  have mapped := (@mapM_map_ok_iff _ _ _ _ convert id value sources).mpr converts
  rwa [List.map_id] at mapped

theorem exists_of_mapM_ok {convert : First → Except Failure Second} {sources : List First}
    {results : List Second} (ran : sources.mapM convert = .ok results) {result : Second}
    (member : result ∈ results) : ∃ source ∈ sources, convert source = .ok result := by
  have converted := mapM_ok_iff.mp ran
  clear ran
  induction converted with
  | nil => cases member
  | cons first _ ih =>
      cases member with
      | head => exact ⟨_, List.mem_cons_self, first⟩
      | tail _ member =>
          obtain ⟨source, sourceMember, converted⟩ := ih member
          exact ⟨source, List.mem_cons_of_mem _ sourceMember, converted⟩

theorem forall₂_of_mapM_ok {convert : First → Except Failure Second} {sources : List First}
    {results : List Second} (ran : sources.mapM convert = .ok results)
    {Related : First → Second → Prop}
    (relates : ∀ source ∈ sources, ∀ result, convert source = .ok result → Related source result) :
    List.Forall₂ Related sources results := by
  have converted := mapM_ok_iff.mp ran
  have placed := (List.forall₂_and_left sources results).mpr ⟨fun _ member => member, converted⟩
  exact placed.imp fun source result both => relates source both.1 result both.2

end

end Fallible

end Polyengine.Library
