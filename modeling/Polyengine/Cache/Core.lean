import Polyengine.Cache.Key
import Polyengine.Library.Base64
import Polyengine.Library.Process

/-!
# The artifact cache

The platform-neutral core: what a translation yields, the three operations of a cache, and
`translateCached` over any cache. What a cache does is a process over its storage.
-/

set_option autoImplicit false

namespace Polyengine.Cache

open Polyengine.Library

/-- What an operation throws; only a missing file or directory is told apart by the backends. -/
inductive CacheFailure where
  | notFound
  | io
  | malformed
  | planError (message : String)
  | translateError (message : String)
  | nondeterministic
  deriving Repr, DecidableEq

/-! ## Maps of files -/

/-- A map from file names, in the order of insertion. -/
structure FileMap (Value : Type) where
  entries : List (String × Value)
  unique : (entries.map Prod.fst).Nodup
  deriving DecidableEq

namespace FileMap

variable {Value : Type}

def empty : FileMap Value := ⟨[], List.nodup_nil⟩

def get? (files : FileMap Value) (file : String) : Option Value :=
  files.entries.lookup file

/-- An entry that is there keeps its place. -/
def set (files : FileMap Value) (file : String) (value : Value) : FileMap Value :=
  if listed : file ∈ files.entries.map Prod.fst then
    { entries := files.entries.map fun entry =>
        if entry.1 = file then (file, value) else entry
      unique := by
        have same : (files.entries.map fun entry =>
            if entry.1 = file then (file, value) else entry).map Prod.fst =
              files.entries.map Prod.fst := by
          rw [List.map_map]
          apply List.map_congr_left
          intro entry _
          simp only [Function.comp_apply]
          split
          · next equal => exact equal.symm
          · rfl
        rw [same]
        exact files.unique }
  else
    { entries := files.entries ++ [(file, value)]
      unique := by
        rw [List.map_append]
        refine List.nodup_append.mpr ⟨files.unique, List.nodup_singleton _, ?_⟩
        intro name member other last equal
        rw [List.map_singleton, List.mem_singleton] at last
        rw [equal, last] at member
        exact listed member }

def Same (first second : FileMap Value) : Prop := ∀ file, first.get? file = second.get? file

theorem lookup_eq_some_iff {entries : List (String × Value)}
    (unique : (entries.map Prod.fst).Nodup) {file : String} {value : Value} :
    entries.lookup file = some value ↔ (file, value) ∈ entries := by
  induction entries with
  | nil => simp
  | cons entry rest ih =>
      obtain ⟨name, content⟩ := entry
      rw [List.map_cons, List.nodup_cons] at unique
      by_cases same : file = name
      · subst same
        rw [List.lookup_cons_self, List.mem_cons, Option.some.injEq]
        constructor
        · intro equal
          exact .inl (by rw [equal])
        · intro member
          rcases member with head | tail
          · exact (Prod.mk.inj head).2.symm
          · exact absurd (List.mem_map_of_mem tail) unique.1
      · rw [List.lookup_cons, beq_eq_false_iff_ne.mpr same, List.mem_cons, ih unique.2]
        constructor
        · exact .inr
        · intro member
          rcases member with head | tail
          · exact absurd (Prod.mk.inj head).1 same
          · exact tail

theorem lookup_eq_none {entries : List (String × Value)} {file : String}
    (absent : file ∉ entries.map Prod.fst) : entries.lookup file = none := by
  rw [List.lookup_eq_none_iff]
  intro entry member
  rw [bne_iff_ne]
  intro same
  exact absent (same ▸ List.mem_map_of_mem member)

theorem lookup_cons_ne {rest : List (String × Value)} {file name : String} {value : Value}
    (different : file ≠ name) : List.lookup file ((name, value) :: rest) = rest.lookup file := by
  rw [List.lookup_cons, beq_eq_false_iff_ne.mpr different]

theorem get?_eq_some_iff {files : FileMap Value} {file : String} {value : Value} :
    files.get? file = some value ↔ (file, value) ∈ files.entries :=
  lookup_eq_some_iff files.unique

theorem get?_set (files : FileMap Value) (file other : String) (value : Value) :
    (files.set file value).get? other =
      if other = file then some value else files.get? other := by
  have member (content : Value) : (other, content) ∈ (files.set file value).entries ↔
      if other = file then content = value else (other, content) ∈ files.entries := by
    unfold set
    split
    · next listed =>
        simp only [List.mem_map]
        constructor
        · intro ⟨entry, inside, same⟩
          split at same
          · next equal =>
              obtain ⟨rfl, rfl⟩ := Prod.mk.inj same
              simp
          · next unequal =>
              subst same
              rw [if_neg unequal]
              exact inside
        · intro described
          split at described
          · next equal =>
              obtain ⟨entry, inside, named⟩ := List.mem_map.mp listed
              exact ⟨entry, inside, by rw [if_pos named, equal, described]⟩
          · next unequal => exact ⟨_, described, if_neg unequal⟩
    · next unlisted =>
        simp only [List.mem_append, List.mem_singleton, Prod.mk.injEq]
        split
        · next equal =>
            subst equal
            have outside : (other, content) ∉ files.entries :=
              fun inside => unlisted (List.mem_map_of_mem inside)
            simp [outside]
        · next unequal => simp [unequal]
  apply Option.ext
  intro content
  rw [get?_eq_some_iff, member]
  split
  · rw [Option.some.injEq, eq_comm]
  · exact get?_eq_some_iff.symm

end FileMap

/-- The adapter artifacts by their file names. -/
abbrev AdapterMap := FileMap (List UInt8)

/-! ## Translations -/

inductive WireModule where
  | embedded
  | adapter (file : String)
  deriving Repr, DecidableEq

/-- A plan: the parts that a cache looks at, and the rest. -/
structure WirePlan (Rest : Type) where
  componentSha256 : String
  modules : List WireModule
  rest : Rest
  deriving DecidableEq

structure CachedArtifacts (Rest : Type) where
  plan : WirePlan Rest
  adapters : AdapterMap
  deriving DecidableEq

structure CachedArtifacts.Same {Rest : Type} (first second : CachedArtifacts Rest) : Prop where
  plan : first.plan = second.plan
  adapters : first.adapters.Same second.adapters

structure CacheMeta where
  layoutVersion : Nat
  componentSha256 : String
  translatorBuildHash : String
  features : List String
  deriving Repr, DecidableEq

def CACHE_LAYOUT_VERSION : Nat := 1

/-- The envelope that a translator returns; the bytes of an adapter are a base64 text. -/
structure WireEnvelope (Rest : Type) where
  error : Option String
  plan : Option (WirePlan Rest)
  adapters : List (String × List Char)

/-- What the cache is built on: the digest of bytes, `JSON.parse` of an envelope, and the validation
of a plan. -/
structure Platform (Rest : Type) where
  sha256Hex : List UInt8 → String
  parseEnvelope : String → Except String (WireEnvelope Rest)
  loadPlan : WirePlan Rest → Except CacheFailure Unit

section

variable {Rest : Type} (platform : Platform Rest)

/-- The loop of `loadEnvelope` over the adapters. -/
def decodeAdapters : List (String × List Char) → AdapterMap → Except CacheFailure AdapterMap
  | [], adapters => return adapters
  | (file, wasm) :: rest, adapters =>
      match Base64.atob wasm with
      | some bytes => decodeAdapters rest (adapters.set file bytes)
      | none => throw .malformed

def loadEnvelope (json : String) : Except CacheFailure (CachedArtifacts Rest) := do
  match platform.parseEnvelope json with
  | .error e => throw (.planError ("envelope is not valid JSON: " ++ e))
  | .ok envelope =>
      match envelope.error with
      | some message => throw (.translateError message)
      | none =>
          match envelope.plan with
          | none => throw (.planError "envelope missing `plan`")
          | some plan =>
              platform.loadPlan plan
              return { plan, adapters := ← decodeAdapters envelope.adapters .empty }

structure TranslatorLike where
  buildHash : Option String
  translateRaw : List UInt8 → Except CacheFailure String

def freshTranslation (translator : TranslatorLike) (componentBytes : List UInt8) :
    Except CacheFailure (CachedArtifacts Rest) := do
  loadEnvelope platform (← translator.translateRaw componentBytes)

def keyFor (translator : TranslatorLike) (componentBytes : List UInt8) (features : List String) :
    Except CacheFailure CacheKey :=
  match translator.buildHash with
  | none =>
      throw (.planError ("artifact cache: translator has no buildHash (constructed from a " ++
        "WebAssembly.Module without source bytes); pass raw wasm bytes to " ++
        "Translator.create to enable caching"))
  | some translatorBuildHash =>
      return { componentSha256 := platform.sha256Hex componentBytes, translatorBuildHash, features }

end

/-! ## Caches -/

/-- The operations of a cache, as processes over its storage. -/
structure ArtifactCache (Rest Call Reply : Type) where
  get : CacheKey → Process Call Reply CacheFailure (Option (CachedArtifacts Rest))
  put : CacheKey → CachedArtifacts Rest → Process Call Reply CacheFailure Unit
  evict : CacheKey → Process Call Reply CacheFailure Unit

structure TranslateCachedResult (Rest : Type) where
  artifacts : CachedArtifacts Rest
  fromCache : Bool
  deriving DecidableEq

inductive Operation (Rest : Type) where
  | translateCached (translator : TranslatorLike) (componentBytes : List UInt8)
      (features : List String) (verifyDeterminism : Bool)
  | get (key : CacheKey)
  | put (key : CacheKey) (artifacts : CachedArtifacts Rest)
  | evict (key : CacheKey)

inductive OperationResult (Rest : Type) where
  | translated (result : TranslateCachedResult Rest)
  | got (artifacts : Option (CachedArtifacts Rest))
  | done
  deriving DecidableEq

section

variable {Rest Call Reply : Type} (platform : Platform Rest)

/-- `translateCached` after a miss: translate, and store what was made. -/
def translateAndStore (cache : ArtifactCache Rest Call Reply) (translator : TranslatorLike)
    (componentBytes : List UInt8) (key : CacheKey) (verifyDeterminism : Bool) :
    Process Call Reply CacheFailure (TranslateCachedResult Rest) := do
  let first ← .ofExcept (translator.translateRaw componentBytes)
  if verifyDeterminism then
    let second ← .ofExcept (translator.translateRaw componentBytes)
    if first ≠ second then throw .nondeterministic
  let artifacts ← .ofExcept (loadEnvelope platform first)
  tryCatch (cache.put key artifacts) fun _ => pure ()
  return { artifacts, fromCache := false }

/-- `translateCached`; what `onCacheError` throws is swallowed. -/
def translateCached (cache : ArtifactCache Rest Call Reply) (translator : TranslatorLike)
    (componentBytes : List UInt8) (features : List String) (verifyDeterminism : Bool) :
    Process Call Reply CacheFailure (TranslateCachedResult Rest) := do
  let key ← .ofExcept (keyFor platform translator componentBytes features)
  let hit ← tryCatch (cache.get key) fun _ => pure none
  match hit with
  | some artifacts => return { artifacts, fromCache := true }
  | none => translateAndStore platform cache translator componentBytes key verifyDeterminism

def Operation.program (cache : ArtifactCache Rest Call Reply) :
    Operation Rest → Process Call Reply CacheFailure (OperationResult Rest)
  | .translateCached translator componentBytes features verifyDeterminism =>
      .translated <$>
        Cache.translateCached platform cache translator componentBytes features verifyDeterminism
  | .get key => .got <$> cache.get key
  | .put key artifacts => (fun _ => .done) <$> cache.put key artifacts
  | .evict key => (fun _ => .done) <$> cache.evict key

end

/-! ## Transparency -/

section Transparency

variable {Rest Call Reply Store : Type} (platform : Platform Rest)
  (translators : String → List UInt8 → Except CacheFailure String)

def TranslationOf (key : CacheKey) (artifacts : CachedArtifacts Rest) : Prop :=
  ∃ componentBytes, key.componentSha256 = platform.sha256Hex componentBytes ∧
    freshTranslation platform
      ⟨some key.translatorBuildHash, translators key.translatorBuildHash⟩ componentBytes =
        .ok artifacts

def Identified (translator : TranslatorLike) : Prop :=
  ∃ translatorBuildHash, translator = ⟨some translatorBuildHash, translators translatorBuildHash⟩

def Operation.Permitted (storable : CachedArtifacts Rest → Prop) : Operation Rest → Prop
  | .translateCached translator componentBytes _ _ =>
      Identified translators translator ∧
        ∀ artifacts, freshTranslation platform translator componentBytes = .ok artifacts →
          storable artifacts
  | .put key artifacts => TranslationOf platform translators key artifacts ∧ storable artifacts
  | .get _ | .evict _ => True

/-- `translateCached` yields what a translation without a cache does, and `get` yields nothing or
the whole artifacts of its key. -/
def Operation.Right (operation : Operation Rest)
    (outcome : Except CacheFailure (OperationResult Rest)) : Prop :=
  match operation, outcome with
  | .translateCached translator componentBytes _ _, .ok (.translated result) =>
      ∃ fresh, freshTranslation platform translator componentBytes = .ok fresh ∧
        result.artifacts.Same fresh
  | .translateCached translator componentBytes _ _, .error failure =>
      freshTranslation platform translator componentBytes = .error failure
  | .translateCached _ _ _ _, .ok _ => False
  | .get key, .ok (.got (some artifacts)) =>
      ∃ stored, TranslationOf platform translators key stored ∧ artifacts.Same stored
  | _, _ => True

variable {platform} {translators}

theorem TranslationOf.congr {first second : CacheKey} {artifacts : CachedArtifacts Rest}
    (same : SameKey first second)
    (translation : TranslationOf platform translators first artifacts) :
    TranslationOf platform translators second artifacts := by
  unfold TranslationOf at translation ⊢
  rw [← same.component, ← same.translator]
  exact translation

theorem TranslationOf.unique (collisionFree : platform.sha256Hex.Injective) {key : CacheKey}
    {artifacts other : CachedArtifacts Rest}
    (translation : TranslationOf platform translators key artifacts)
    (another : TranslationOf platform translators key other) : artifacts = other := by
  obtain ⟨componentBytes, hashed, yields⟩ := translation
  obtain ⟨otherBytes, otherHashed, otherYields⟩ := another
  have bytes : componentBytes = otherBytes := by
    apply collisionFree
    rw [← hashed, ← otherHashed]
  rw [bytes, otherYields] at yields
  exact (Except.ok.inj yields).symm

/-- What a backend has to show of its operations. -/
structure Backend (platform : Platform Rest)
    (translators : String → List UInt8 → Except CacheFailure String)
    (storable : CachedArtifacts Rest → Prop)
    (performs : Process.Performs Call Reply CacheFailure Store)
    (agreement : Process.Agreement Store) (cache : ArtifactCache Rest Call Reply) : Prop where
  get : ∀ key store, Process.Ensures performs agreement (cache.get key)
    (fun result _ => ∀ artifacts, result = .ok (some artifacts) →
      ∃ stored, TranslationOf platform translators key stored ∧ artifacts.Same stored) store
  put : ∀ key artifacts store, TranslationOf platform translators key artifacts →
    storable artifacts →
      Process.Ensures performs agreement (cache.put key artifacts) (fun _ _ => True) store
  evict : ∀ key store,
    Process.Ensures performs agreement (cache.evict key) (fun _ _ => True) store

variable {storable : CachedArtifacts Rest → Prop}
  {performs : Process.Performs Call Reply CacheFailure Store}
  {agreement : Process.Agreement Store} {cache : ArtifactCache Rest Call Reply}

/-- A result of `translateCached`, or what it throws, as a fresh translation has it. -/
def AsFresh (platform : Platform Rest) (translator : TranslatorLike) (componentBytes : List UInt8) :
    Except CacheFailure (TranslateCachedResult Rest) → Prop
  | .ok result => ∃ fresh, freshTranslation platform translator componentBytes = .ok fresh ∧
      result.artifacts.Same fresh
  | .error failure => freshTranslation platform translator componentBytes = .error failure

theorem translateAndStore_ensures
    (backend : Backend platform translators storable performs agreement cache)
    {translator : TranslatorLike} {componentBytes : List UInt8} {key : CacheKey}
    (stores : ∀ artifacts, freshTranslation platform translator componentBytes = .ok artifacts →
      TranslationOf platform translators key artifacts ∧ storable artifacts)
    (verifyDeterminism : Bool) (store : Store) :
    Process.Ensures performs agreement
      (translateAndStore platform cache translator componentBytes key verifyDeterminism)
      (fun result _ => AsFresh platform translator componentBytes result) store := by
  unfold translateAndStore
  rw [Process.ensures_bind, Process.ensures_ofExcept]
  cases translated : translator.translateRaw componentBytes with
  | error failure =>
      simp [AsFresh, freshTranslation, translated, bind, Except.bind]
  | ok first =>
      have loaded : freshTranslation platform translator componentBytes =
          loadEnvelope platform first := by
        simp [freshTranslation, translated, bind, Except.bind]
      have stored : Process.Ensures performs agreement (do
          let artifacts ← .ofExcept (loadEnvelope platform first)
          tryCatch (cache.put key artifacts) fun _ => pure ()
          return { artifacts, fromCache := false })
          (fun result _ => AsFresh platform translator componentBytes result) store := by
        rw [Process.ensures_bind, Process.ensures_ofExcept]
        cases envelope : loadEnvelope platform first with
        | error failure => exact loaded.trans envelope
        | ok artifacts =>
            have fresh := loaded.trans envelope
            obtain ⟨translation, fits⟩ := stores artifacts fresh
            rw [Process.split_ok, Process.ensures_bind, Process.ensures_tryCatch]
            have put := backend.put key artifacts store translation fits
            apply put.imp
            intro result after _
            cases result <;> exact ⟨artifacts, fresh, rfl, fun _ => rfl⟩
      rw [Process.split_ok]
      cases verifyDeterminism with
      | false => simpa using stored
      | true => simpa [Process.ensures_bind] using stored

theorem translateCached_ensures
    (backend : Backend platform translators storable performs agreement cache)
    {translator : TranslatorLike} {componentBytes : List UInt8}
    (identified : Identified translators translator)
    (stores : ∀ artifacts, freshTranslation platform translator componentBytes = .ok artifacts →
      storable artifacts)
    (collisionFree : platform.sha256Hex.Injective) (features : List String)
    (verifyDeterminism : Bool) (store : Store) :
    Process.Ensures performs agreement
      (translateCached platform cache translator componentBytes features verifyDeterminism)
      (fun result _ => AsFresh platform translator componentBytes result) store := by
  obtain ⟨translatorBuildHash, rfl⟩ := identified
  have keyed : keyFor platform ⟨some translatorBuildHash, translators translatorBuildHash⟩
      componentBytes features = .ok
        { componentSha256 := platform.sha256Hex componentBytes
          translatorBuildHash
          features } := rfl
  unfold translateCached
  rw [keyed, Process.ensures_bind, Process.ensures_ofExcept, Process.split_ok,
    Process.ensures_bind, Process.ensures_tryCatch]
  generalize made : (CacheKey.mk (platform.sha256Hex componentBytes) translatorBuildHash
    features) = key
  have own (artifacts : CachedArtifacts Rest)
      (fresh : freshTranslation platform
        ⟨some translatorBuildHash, translators translatorBuildHash⟩ componentBytes =
          .ok artifacts) : TranslationOf platform translators key artifacts := by
    rw [← made]
    exact ⟨componentBytes, rfl, fresh⟩
  have missed := translateAndStore_ensures backend
    (fun artifacts fresh => ⟨own artifacts fresh, stores artifacts fresh⟩) verifyDeterminism
  apply (backend.get key store).imp
  intro result after hits
  rcases result with failure | hit | artifacts
  · exact missed after
  · exact missed after
  · obtain ⟨stored, ⟨otherBytes, hashed, yields⟩, same⟩ := hits artifacts rfl
    rw [← made] at hashed yields
    have bytes := collisionFree hashed
    rw [← bytes] at yields
    exact ⟨stored, yields, same⟩

theorem program_ensures
    (backend : Backend platform translators storable performs agreement cache)
    (collisionFree : platform.sha256Hex.Injective) {operation : Operation Rest}
    (permitted : operation.Permitted platform translators storable) (store : Store) :
    Process.Ensures performs agreement (operation.program platform cache)
      (fun result _ => operation.Right platform translators result) store := by
  cases operation with
  | translateCached translator componentBytes features verifyDeterminism =>
      have ensured := translateCached_ensures backend permitted.1 permitted.2 collisionFree features
        verifyDeterminism store
      rw [Operation.program, Process.ensures_map]
      apply ensured.imp
      intro result after right
      cases result <;> exact right
  | get key =>
      rw [Operation.program, Process.ensures_map]
      apply (backend.get key store).imp
      intro result after right
      rcases result with failure | hit | artifacts
      · trivial
      · trivial
      · exact right artifacts rfl
  | put key artifacts =>
      rw [Operation.program, Process.ensures_map]
      apply (backend.put key artifacts store permitted.1 permitted.2).imp
      intro result after _
      cases result <;> trivial
  | evict key =>
      rw [Operation.program, Process.ensures_map]
      apply (backend.evict key store).imp
      intro result after _
      cases result <;> trivial

end Transparency

end Polyengine.Cache
