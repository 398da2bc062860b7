import Polyengine.Library.Command

/-!
# Memoized computations

A cache remembers the results of a computation by key. Failures are not remembered. A computation
that goes through a sound cache has the outcome that it has without one.
-/

set_option autoImplicit false

namespace Polyengine.Library

abbrev Cache (Key Value : Type) : Type := Key → Option Value

namespace Cache

variable {Key Value Failure Result Next : Type}

def empty : Cache Key Value := fun _ => none

def insert [DecidableEq Key] (cache : Cache Key Value) (key : Key) (value : Value) :
    Cache Key Value := fun other => if other = key then some value else cache other

/-- Every remembered result is the result of its key. -/
def Sound (denote : Key → Except Failure Value) (cache : Cache Key Value) : Prop :=
  ∀ key value, cache key = some value → denote key = .ok value

theorem sound_empty (denote : Key → Except Failure Value) :
    Sound denote (empty : Cache Key Value) := by
  intro key value found
  cases found

theorem Sound.insert [DecidableEq Key] {denote : Key → Except Failure Value}
    {cache : Cache Key Value} (sound : Sound denote cache) {key : Key} {value : Value}
    (denoted : denote key = .ok value) : Sound denote (cache.insert key value) := by
  intro other result found
  unfold Cache.insert at found
  by_cases same : other = key
  · rw [if_pos same] at found
    cases found
    rw [same]
    exact denoted
  · rw [if_neg same] at found
    exact sound other result found

/-- The remembered result, or the computed one, which is remembered. -/
def remember [DecidableEq Key] (key : Key) (compute : Command (Cache Key Value) Failure Value) :
    Command (Cache Key Value) Failure Value := do
  match (← get) key with
  | some hit => return hit
  | none =>
      let value ← compute
      modify fun cache => Cache.insert cache key value
      return value

/-- From every sound cache the command has the given outcome and leaves a sound cache. -/
def Agrees (denote : Key → Except Failure Value)
    (command : Command (Cache Key Value) Failure Result) (outcome : Except Failure Result) : Prop :=
  ∀ cache, Sound denote cache →
    Command.Ensures (fun failure next => outcome = .error failure ∧ Sound denote next) command
      (fun result next => outcome = .ok result ∧ Sound denote next) cache

variable {denote : Key → Except Failure Value}

theorem Agrees.pure (result : Result) :
    Agrees denote (pure result : Command (Cache Key Value) Failure Result) (pure result) :=
  fun _ sound => ⟨rfl, sound⟩

theorem Agrees.throw (failure : Failure) :
    Agrees denote (throw failure : Command (Cache Key Value) Failure Result) (throw failure) :=
  fun _ sound => ⟨rfl, sound⟩

theorem Agrees.bind {command : Command (Cache Key Value) Failure Result}
    {outcome : Except Failure Result} {continuation : Result → Command (Cache Key Value) Failure Next}
    {continuation' : Result → Except Failure Next} (first : Agrees denote command outcome)
    (second : ∀ result, Agrees denote (continuation result) (continuation' result)) :
    Agrees denote (command >>= continuation) (outcome >>= continuation') := by
  intro cache sound
  rw [Command.ensures_bind]
  apply (first cache sound).mono
  · rintro failure next ⟨failed, sound'⟩
    rw [failed]
    exact ⟨rfl, sound'⟩
  · rintro result next ⟨returned, sound'⟩
    rw [returned]
    exact second result next sound'

theorem Agrees.ite {condition : Prop} [Decidable condition]
    {command command' : Command (Cache Key Value) Failure Result}
    {outcome outcome' : Except Failure Result} (holds : Agrees denote command outcome)
    (fails : Agrees denote command' outcome') :
    Agrees denote (if condition then command else command')
      (if condition then outcome else outcome') := by
  by_cases decided : condition
  · rw [if_pos decided, if_pos decided]
    exact holds
  · rw [if_neg decided, if_neg decided]
    exact fails

/-- Remembering the result of a key changes no outcome. -/
theorem Agrees.remember [DecidableEq Key] {key : Key}
    {compute : Command (Cache Key Value) Failure Value}
    (computes : Agrees denote compute (denote key)) :
    Agrees denote (remember key compute) (denote key) := by
  intro cache sound
  rw [Cache.remember, Command.ensures_bind, Command.ensures_get]
  cases found : cache key with
  | some hit => exact ⟨sound key hit found, sound⟩
  | none =>
      rw [Command.ensures_bind]
      apply (computes cache sound).mono (fun _ _ failed => failed)
      rintro value next ⟨returned, sound'⟩
      rw [Command.ensures_bind, Command.ensures_modify]
      exact ⟨returned, sound'.insert returned⟩

/-- The outcome that a command with a sound cache has. -/
theorem Agrees.outcome {command : Command (Cache Key Value) Failure Result}
    {outcome : Except Failure Result} (agrees : Agrees denote command outcome)
    {cache : Cache Key Value} (sound : Sound denote cache) :
    (command.outcome cache).1 = outcome ∧ Sound denote (command.outcome cache).2 := by
  have spec := agrees cache sound
  unfold Command.Ensures at spec
  cases ran : command.outcome cache with
  | mk result next =>
      rw [ran] at spec
      cases result with
      | error failure => exact ⟨spec.1.symm, spec.2⟩
      | ok result => exact ⟨spec.1.symm, spec.2⟩

end Cache

end Polyengine.Library
