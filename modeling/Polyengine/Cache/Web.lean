import Polyengine.Cache.Core

/-!
# The web cache

The backend over the Cache API: one response body for each entry, with the bytes of the adapters as
base64 texts in a record.
-/

set_option autoImplicit false

namespace Polyengine.Cache

open Polyengine.Library

/-! ## The storage -/

/-- `StoredEntry`; the adapters are the own properties of a record. -/
structure StoredEntry (Rest : Type) where
  header : CacheMeta
  plan : WirePlan Rest
  adapters : FileMap (List Char)

inductive WebBody (Rest : Type) where
  | entry (entry : StoredEntry Rest)
  | other

abbrev WebStore (Rest : Type) := String → Option (WebBody Rest)

inductive WebCall (Rest : Type) where
  | openCache
  | lookup (hex : String)
  | store (hex : String) (body : WebBody Rest)
  | delete (hex : String)

inductive WebReply (Rest : Type) where
  | done
  | body (body : Option (WebBody Rest))

section

variable {Rest : Type}

def WebStore.attempt (call : WebCall Rest) (store : WebStore Rest) :
    WebReply Rest × WebStore Rest :=
  match call with
  | .openCache => (.done, store)
  | .lookup hex => (.body (store hex), store)
  | .store hex body => (.done, Function.update store hex (some body))
  | .delete hex => (.done, Function.update store hex none)

/-- A call may fail, with its effect or without. -/
def WebPerforms : Process.Performs (WebCall Rest) (WebReply Rest) CacheFailure (WebStore Rest) :=
  fun call store reply after =>
    (reply, after) = (.ok (store.attempt call).1, (store.attempt call).2) ∨
      (reply, after) = (.error .io, store) ∨ (reply, after) = (.error .io, (store.attempt call).2)

end

/-! ## The backend -/

section

variable {Rest : Type} (platform : Platform Rest)

abbrev WebProcess (Rest Result : Type) :=
  Process (WebCall Rest) (WebReply Rest) CacheFailure Result

/-- `record[name] = text`; a text is no prototype, so that the setter of `__proto__` does nothing.
-/
def assignProperty (record : FileMap (List Char)) (name : String) (text : List Char) :
    FileMap (List Char) :=
  if name = "__proto__" then record else record.set name text

/-- The loop of `put` over the adapters. -/
def encodeAdapters (entries : List (String × List UInt8)) (record : FileMap (List Char)) :
    FileMap (List Char) :=
  entries.foldl (fun record entry => assignProperty record entry.1 (Base64.btoa entry.2)) record

namespace WebCache

def evict (key : CacheKey) : WebProcess Rest Unit := do
  let _ ← Process.call .openCache
  let _ ← Process.call (.delete (keyHex platform.sha256Hex key))

def tryEvict (key : CacheKey) : WebProcess Rest Unit :=
  tryCatch (evict platform key) fun _ => pure ()

def agrees (entry : StoredEntry Rest) (key : CacheKey) : Bool :=
  entry.header.layoutVersion = CACHE_LAYOUT_VERSION &&
    entry.header.componentSha256 = key.componentSha256 &&
    entry.header.translatorBuildHash = key.translatorBuildHash &&
    sorted entry.header.features = sorted key.features &&
    entry.plan.componentSha256 = key.componentSha256

/-- `get` inside its `try`. -/
def getEntry (key : CacheKey) : WebProcess Rest (Option (CachedArtifacts Rest)) := do
  match ← Process.call (.lookup (keyHex platform.sha256Hex key)) with
  | .body none => return none
  | .body (some (.entry entry)) =>
      if agrees entry key then
        .ofExcept (platform.loadPlan entry.plan)
        let adapters ← .ofExcept (decodeAdapters entry.adapters.entries .empty)
        return some { plan := entry.plan, adapters }
      else
        tryEvict platform key
        return none
  | _ => throw .malformed

def get (key : CacheKey) : WebProcess Rest (Option (CachedArtifacts Rest)) := do
  let _ ← Process.call .openCache
  tryCatch (getEntry platform key) fun _ => do
    tryEvict platform key
    return none

/-- The entry that `put` stores. -/
def storedEntry (key : CacheKey) (artifacts : CachedArtifacts Rest) : StoredEntry Rest where
  header :=
    { layoutVersion := CACHE_LAYOUT_VERSION
      componentSha256 := key.componentSha256
      translatorBuildHash := key.translatorBuildHash
      features := key.features }
  plan := artifacts.plan
  adapters := encodeAdapters artifacts.adapters.entries .empty

def put (key : CacheKey) (artifacts : CachedArtifacts Rest) : WebProcess Rest Unit := do
  let _ ← Process.call .openCache
  let _ ← Process.call (.store (keyHex platform.sha256Hex key) (.entry (storedEntry key artifacts)))

end WebCache

/-- `webCache`. -/
def webCache : ArtifactCache Rest (WebCall Rest) (WebReply Rest) where
  get := WebCache.get platform
  put := WebCache.put platform
  evict := WebCache.evict platform

end

/-! ## Transparency -/

section

variable {Rest : Type} (platform : Platform Rest)
  (translators : String → List UInt8 → Except CacheFailure String)

/-- No adapter has the name that a record cannot hold. -/
def Recordable (artifacts : CachedArtifacts Rest) : Prop :=
  artifacts.adapters.get? "__proto__" = none

/-- Every entry of this layout is one that `put` stored for artifacts of its key. -/
def webAgreement : Process.Agreement (WebStore Rest) where
  invariant store := ∀ hex entry, store hex = some (.entry entry) →
    entry.header.layoutVersion = CACHE_LAYOUT_VERSION → ∃ key artifacts,
      keyHex platform.sha256Hex key = hex ∧ TranslationOf platform translators key artifacts ∧
        Recordable artifacts ∧ entry = WebCache.storedEntry key artifacts
  rely _ _ := True
  guarantee _ _ := True

variable {platform} {translators}

theorem encodeAdapters_get? {entries : List (String × List UInt8)}
    (unique : (entries.map Prod.fst).Nodup) (record : FileMap (List Char)) (file : String) :
    (encodeAdapters entries record).get? file =
      if file = "__proto__" then record.get? file
      else ((entries.lookup file).map Base64.btoa).or (record.get? file) := by
  induction entries generalizing record with
  | nil => simp [encodeAdapters]
  | cons entry rest ih =>
      obtain ⟨name, bytes⟩ := entry
      rw [List.map_cons, List.nodup_cons] at unique
      have next := ih unique.2 (assignProperty record name (Base64.btoa bytes))
      simp only [encodeAdapters, List.foldl_cons] at next ⊢
      rw [next, assignProperty]
      by_cases proto : name = "__proto__"
      · by_cases same : file = "__proto__"
        · simp [proto, same]
        · have different : file ≠ name := by rwa [proto]
          rw [FileMap.lookup_cons_ne different]
          simp [proto, same]
      · rw [if_neg proto, FileMap.get?_set]
        by_cases same : file = name
        · subst same
          simp [proto, FileMap.lookup_eq_none unique.1]
        · simp [same, FileMap.lookup_cons_ne same]

theorem decodeAdapters_get? {texts : List (String × List Char)}
    (unique : (texts.map Prod.fst).Nodup) {adapters decoded : AdapterMap}
    (succeeded : decodeAdapters texts adapters = .ok decoded) (file : String) :
    decoded.get? file = match texts.lookup file with
      | some text => Base64.atob text
      | none => adapters.get? file := by
  induction texts generalizing adapters with
  | nil =>
      cases succeeded
      rfl
  | cons entry rest ih =>
      obtain ⟨name, text⟩ := entry
      rw [List.map_cons, List.nodup_cons] at unique
      unfold decodeAdapters at succeeded
      cases read : Base64.atob text with
      | none =>
          rw [read] at succeeded
          cases succeeded
      | some bytes =>
          rw [read] at succeeded
          rw [ih unique.2 succeeded, FileMap.get?_set]
          by_cases same : file = name
          · subst same
            simp [FileMap.lookup_eq_none unique.1, read]
          · simp [same, FileMap.lookup_cons_ne same]

theorem storedEntry_same {key : CacheKey} {artifacts : CachedArtifacts Rest}
    (recordable : Recordable artifacts) {adapters : AdapterMap}
    (decoded : decodeAdapters (WebCache.storedEntry key artifacts).adapters.entries .empty =
      .ok adapters) : adapters.Same artifacts.adapters := by
  intro file
  rw [decodeAdapters_get? (WebCache.storedEntry key artifacts).adapters.unique decoded]
  have encoded := encodeAdapters_get? artifacts.adapters.unique .empty file
  change (match (encodeAdapters artifacts.adapters.entries .empty).get? file with
    | some text => Base64.atob text
    | none => FileMap.empty.get? file) = _
  rw [encoded]
  by_cases proto : file = "__proto__"
  · rw [if_pos proto, proto]
    exact recordable.symm
  · rw [if_neg proto]
    change _ = artifacts.adapters.entries.lookup file
    cases artifacts.adapters.entries.lookup file with
    | none => rfl
    | some bytes => exact Base64.atob_btoa bytes

theorem ensures_web {call : WebCall Rest} {store : WebStore Rest}
    {post : Except CacheFailure (WebReply Rest) → WebStore Rest → Prop}
    (kept : ∀ current, (webAgreement platform translators).invariant current →
      (webAgreement platform translators).invariant (current.attempt call).2)
    (replied : ∀ current, (webAgreement platform translators).invariant current →
      post (.ok (current.attempt call).1) (current.attempt call).2)
    (failed : ∀ after, post (.error .io) after) :
    Process.Ensures WebPerforms (webAgreement platform translators) (Process.call call) post
      store := by
  rw [Process.ensures_call]
  intro current invariant _ reply after performed
  rcases performed with done | failing | halfway
  · obtain ⟨rfl, rfl⟩ := Prod.mk.inj done
    exact ⟨⟨kept current invariant, trivial⟩, replied current invariant⟩
  · obtain ⟨rfl, rfl⟩ := Prod.mk.inj failing
    exact ⟨⟨invariant, trivial⟩, failed _⟩
  · obtain ⟨rfl, rfl⟩ := Prod.mk.inj halfway
    exact ⟨⟨kept current invariant, trivial⟩, failed _⟩

theorem ensures_webRead {call : WebCall Rest} {store : WebStore Rest}
    {post : Except CacheFailure (WebReply Rest) → WebStore Rest → Prop}
    (reads : ∀ current : WebStore Rest, (current.attempt call).2 = current)
    (replied : ∀ current, (webAgreement platform translators).invariant current →
      post (.ok (current.attempt call).1) current)
    (failed : ∀ after, post (.error .io) after) :
    Process.Ensures WebPerforms (webAgreement platform translators) (Process.call call) post
      store := by
  apply ensures_web _ _ failed
  · intro current invariant
    rw [reads]
    exact invariant
  · intro current invariant
    rw [reads]
    exact replied current invariant

theorem webEvict_ensures (key : CacheKey) (store : WebStore Rest) :
    Process.Ensures WebPerforms (webAgreement platform translators)
      (WebCache.evict platform key) (fun _ _ => True) store := by
  unfold WebCache.evict
  rw [Process.ensures_bind]
  apply ensures_webRead (fun _ => rfl) _ (fun _ => trivial)
  intro opened _
  rw [Process.split_ok, Process.ensures_bind]
  apply ensures_web _ (fun _ _ => trivial) (fun _ => trivial)
  intro current invariant hex entry held
  simp only [WebStore.attempt] at held
  by_cases same : hex = keyHex platform.sha256Hex key
  · rw [same, Function.update_self] at held
    cases held
  · rw [Function.update_of_ne same] at held
    exact invariant hex entry held

theorem webMissed_ensures {key : CacheKey}
    {post : Except CacheFailure (Option (CachedArtifacts Rest)) → WebStore Rest → Prop}
    (misses : ∀ store, post (.ok none) store) (store : WebStore Rest) :
    Process.Ensures WebPerforms (webAgreement platform translators)
      (do
        WebCache.tryEvict platform key
        return none : WebProcess Rest (Option (CachedArtifacts Rest))) post store := by
  unfold WebCache.tryEvict
  rw [Process.ensures_bind, Process.ensures_tryCatch]
  apply (webEvict_ensures key store).imp
  intro result after _
  cases result <;> exact misses after

theorem webPut_ensures {key : CacheKey} {artifacts : CachedArtifacts Rest}
    (translation : TranslationOf platform translators key artifacts)
    (recordable : Recordable artifacts) (store : WebStore Rest) :
    Process.Ensures WebPerforms (webAgreement platform translators)
      (WebCache.put platform key artifacts) (fun _ _ => True) store := by
  unfold WebCache.put
  rw [Process.ensures_bind]
  apply ensures_webRead (fun _ => rfl) _ (fun _ => trivial)
  intro opened _
  rw [Process.split_ok, Process.ensures_bind]
  apply ensures_web _ (fun _ _ => trivial) (fun _ => trivial)
  intro current invariant hex entry held
  simp only [WebStore.attempt] at held
  by_cases same : hex = keyHex platform.sha256Hex key
  · rw [same, Function.update_self] at held
    cases held
    exact fun _ => ⟨key, artifacts, same.symm, translation, recordable, rfl⟩
  · rw [Function.update_of_ne same] at held
    exact invariant hex entry held

theorem webGet_ensures (collisionFree : platform.sha256Hex.Injective) (key : CacheKey)
    (store : WebStore Rest) :
    Process.Ensures WebPerforms (webAgreement platform translators) (WebCache.get platform key)
      (fun result _ => ∀ artifacts, result = .ok (some artifacts) →
        ∃ stored, TranslationOf platform translators key stored ∧ artifacts.Same stored) store := by
  have missed := @webMissed_ensures _ platform translators key
    (fun result _ => ∀ artifacts, result = .ok (some artifacts) →
      ∃ stored, TranslationOf platform translators key stored ∧ artifacts.Same stored)
    (fun _ => nofun)
  unfold WebCache.get
  rw [Process.ensures_bind]
  apply ensures_webRead (fun _ => rfl) _ (fun _ => nofun)
  intro opened _
  rw [Process.split_ok, Process.ensures_tryCatch]
  unfold WebCache.getEntry
  rw [Process.ensures_bind]
  apply ensures_webRead (fun _ => rfl) _ missed
  intro current invariant
  simp only [WebStore.attempt, Process.split_ok]
  cases held : current (keyHex platform.sha256Hex key) with
  | none => exact nofun
  | some body =>
      cases body with
      | other => exact missed current
      | entry entry =>
          simp only
          cases agreed : WebCache.agrees entry key with
          | false =>
              simp only [Bool.false_eq_true, if_false]
              exact webMissed_ensures (fun _ => nofun) current
          | true =>
              have layout : entry.header.layoutVersion = CACHE_LAYOUT_VERSION := by
                simp [WebCache.agrees] at agreed
                exact agreed.1.1.1.1
              obtain ⟨other, artifacts, hashed, translation, recordable, rfl⟩ :=
                invariant _ entry held layout
              have same : SameKey other key := (keyHex_eq_iff collisionFree _ _).mp hashed
              simp only [if_true]
              rw [Process.ensures_bind, Process.ensures_ofExcept]
              cases platform.loadPlan (WebCache.storedEntry other artifacts).plan with
              | error failure => exact missed current
              | ok value =>
                  rw [Process.split_ok, Process.ensures_bind, Process.ensures_ofExcept]
                  cases decoded : decodeAdapters
                      (WebCache.storedEntry other artifacts).adapters.entries .empty with
                  | error failure => exact missed current
                  | ok adapters =>
                      intro hit returned
                      cases returned
                      exact ⟨artifacts, translation.congr same, rfl,
                        storedEntry_same recordable decoded⟩

theorem webCache_backend (collisionFree : platform.sha256Hex.Injective) :
    Backend platform translators Recordable WebPerforms (webAgreement platform translators)
      (webCache platform) where
  get := fun key store => webGet_ensures collisionFree key store
  put := fun _ _ store translation recordable => webPut_ensures translation recordable store
  evict := fun key store => webEvict_ensures key store

end

end Polyengine.Cache
