import Polyengine.Cache.Core

/-!
# The directory cache

The backend over a filesystem. An entry is a directory with a file for the key, one for the plan and
one for each adapter; `put` fills a directory beside it and renames that one over it.
-/

set_option autoImplicit false

namespace Polyengine.Cache

open Polyengine.Library

/-! ## The storage -/

/-- The directories under the root: the entries, and the temporary one of each `put`. -/
inductive DirName where
  | entry (hex : String)
  | temp (hex : String) (uuid : Nat)
  deriving Repr, DecidableEq

/-- `meta.json`, `plan.json`, or a file under `adapters/`. -/
inductive Part where
  | metaJson
  | planJson
  | adapter (name : String)
  deriving Repr, DecidableEq

/-- What a file holds: the JSON of a key or of a plan, the bytes of an adapter, or anything else. -/
inductive Content (Rest : Type) where
  | header (header : CacheMeta)
  | plan (plan : WirePlan Rest)
  | bytes (bytes : List UInt8)
  | other
  deriving DecidableEq

abbrev Directory (Rest : Type) := List (Part × Content Rest)

namespace Directory

variable {Rest : Type}

def get (directory : Directory Rest) (part : Part) : Option (Content Rest) := directory.lookup part

def erase (directory : Directory Rest) (part : Part) : Directory Rest :=
  directory.filter fun file => file.1 ≠ part

def put (directory : Directory Rest) (part : Part) (content : Content Rest) : Directory Rest :=
  (part, content) :: directory

theorem get_put (directory : Directory Rest) (part other : Part) (content : Content Rest) :
    (directory.put part content).get other = if other = part then some content
      else directory.get other := by
  unfold get put
  split
  · next same =>
      subst same
      exact List.lookup_cons_self
  · next different => rw [List.lookup_cons, beq_eq_false_iff_ne.mpr different]

theorem get_erase (directory : Directory Rest) (part other : Part) :
    (directory.erase part).get other = if other = part then none else directory.get other := by
  unfold get erase
  induction directory with
  | nil => simp
  | cons file rest ih =>
      obtain ⟨name, content⟩ := file
      by_cases erased : name = part
      · rw [List.filter_cons_of_neg (by simpa using erased), ih]
        split
        · rfl
        · next different =>
            rw [List.lookup_cons, beq_eq_false_iff_ne.mpr (erased ▸ different)]
      · rw [List.filter_cons_of_pos (by simpa using erased), List.lookup_cons, ih]
        by_cases same : other = name
        · subst same
          simp [erased]
        · rw [beq_eq_false_iff_ne.mpr same, List.lookup_cons, beq_eq_false_iff_ne.mpr same]

end Directory

abbrev DirStore (Rest : Type) := DirName → Option (Directory Rest)

inductive DirCall (Rest : Type) where
  | stat (name : DirName)
  | readFile (name : DirName) (part : Part)
  | readDir (name : DirName)
  | unlink (name : DirName) (part : Part)
  | rmdir (name : DirName)
  | mkdir (name : DirName)
  | writeFile (name : DirName) (part : Part) (content : Content Rest)
  | rename (source target : DirName)

inductive DirReply (Rest : Type) where
  | done
  | content (content : Content Rest)
  | parts (parts : List Part)

/-- What the platform decides: whether a call fails, whether it had its effect all the same, what a
write that fails leaves, and the order of a listing. -/
structure Oracle (Rest : Type) where
  fails : Bool
  applied : Bool
  torn : Content Rest
  order : List Part

section

variable {Rest : Type}

/-- A call that does not fail for reasons of its own. A directory is removed if it is empty, and
renamed over nothing or over an empty one. -/
def DirStore.attempt (order : List Part) (call : DirCall Rest) (store : DirStore Rest) :
    Except CacheFailure (DirReply Rest) × DirStore Rest :=
  match call with
  | .stat name =>
      match store name with
      | some _ => (.ok .done, store)
      | none => (.error .notFound, store)
  | .readFile name part =>
      match (store name).bind (Directory.get · part) with
      | some content => (.ok (.content content), store)
      | none => (.error .notFound, store)
  | .readDir name =>
      match store name with
      | some directory =>
          (.ok (.parts (order.filter fun part => (directory.get part).isSome)), store)
      | none => (.error .notFound, store)
  | .unlink name part =>
      match store name with
      | some directory =>
          if (directory.get part).isSome then
            (.ok .done, Function.update store name (some (directory.erase part)))
          else (.error .notFound, store)
      | none => (.error .notFound, store)
  | .rmdir name =>
      match store name with
      | some [] => (.ok .done, Function.update store name none)
      | some _ => (.error .io, store)
      | none => (.error .notFound, store)
  | .mkdir name => (.ok .done, Function.update store name (some ((store name).getD [])))
  | .writeFile name part content =>
      match store name with
      | some directory =>
          (.ok .done, Function.update store name (some (directory.put part content)))
      | none => (.error .notFound, store)
  | .rename source target =>
      match store source, store target with
      | some directory, none | some directory, some [] =>
          (.ok .done,
            Function.update (Function.update store target (some directory)) source none)
      | some _, some _ => (.error .io, store)
      | none, _ => (.error .notFound, store)

/-- The store after a call that fails halfway. -/
def DirStore.damaged (oracle : Oracle Rest) (call : DirCall Rest) (store : DirStore Rest) :
    DirStore Rest :=
  match call with
  | .writeFile name part _ => (store.attempt oracle.order (.writeFile name part oracle.torn)).2
  | call => (store.attempt oracle.order call).2

def DirStore.perform (oracle : Oracle Rest) (call : DirCall Rest) (store : DirStore Rest) :
    Except CacheFailure (DirReply Rest) × DirStore Rest :=
  if oracle.fails then
    (.error .io, if oracle.applied then store.damaged oracle call else store)
  else store.attempt oracle.order call

/-- What a call may do, whatever the platform decides. -/
def DirPerforms : Process.Performs (DirCall Rest) (DirReply Rest) CacheFailure (DirStore Rest) :=
  fun call store reply after => ∃ oracle, store.perform oracle call = (reply, after)

end

/-! ## The backend -/

section

variable {Rest : Type} (platform : Platform Rest)

abbrev DirProcess (Rest Result : Type) :=
  Process (DirCall Rest) (DirReply Rest) CacheFailure Result

def safeRelName (name : String) : Except CacheFailure String :=
  let segments := name.toList.splitOn '/'
  if name = "" ∨ name.toList.head? = some '/' ∨
      segments.any (fun seg => seg = [] ∨ seg = ['.'] ∨ seg = ['.', '.']) then
    throw (.planError ("artifact cache: unsafe adapter file name '" ++ name ++ "'"))
  else return name

def dirExists (name : DirName) : DirProcess Rest Bool :=
  tryCatch (do
    let _ ← Process.call (.stat name)
    return true) fun failure =>
      if failure = .notFound then pure false else throw failure

/-- The files of a listing; one that is gone already is passed over. -/
def unlinkAll (name : DirName) : List Part → DirProcess Rest Unit
  | [] => return ()
  | part :: rest => do
      tryCatch (do let _ ← Process.call (.unlink name part)) fun failure =>
        if failure = .notFound then pure () else throw failure
      unlinkAll name rest

/-- `Deno.remove` of a directory with what is in it. -/
def removeAll (name : DirName) : DirProcess Rest Unit := do
  match ← Process.call (.readDir name) with
  | .parts parts =>
      unlinkAll name parts
      let _ ← Process.call (.rmdir name)
  | _ => throw .malformed

def rmIfExists (name : DirName) : DirProcess Rest Unit :=
  tryCatch (removeAll name) fun failure =>
    if failure = .notFound then pure () else throw failure

/-- `JSON.parse` of `meta.json`. -/
def readMeta (name : DirName) : DirProcess Rest CacheMeta := do
  match ← Process.call (.readFile name .metaJson) with
  | .content (.header header) => return header
  | _ => throw .malformed

/-- `JSON.parse` of `plan.json`. -/
def readPlan (name : DirName) : DirProcess Rest (WirePlan Rest) := do
  match ← Process.call (.readFile name .planJson) with
  | .content (.plan plan) => return plan
  | _ => throw .malformed

def readAdapter (name : DirName) (file : String) : DirProcess Rest (List UInt8) := do
  match ← Process.call (.readFile name (.adapter file)) with
  | .content (.bytes bytes) => return bytes
  | _ => throw .malformed

/-- The loop of `get` over the modules of the plan. -/
def readAdapters (name : DirName) : List WireModule → AdapterMap → DirProcess Rest AdapterMap
  | [], adapters => return adapters
  | .embedded :: rest, adapters => readAdapters name rest adapters
  | .adapter file :: rest, adapters => do
      let safe ← .ofExcept (safeRelName file)
      let bytes ← readAdapter name safe
      readAdapters name rest (adapters.set file bytes)

def agrees (header : CacheMeta) (key : CacheKey) : Bool :=
  header.layoutVersion = CACHE_LAYOUT_VERSION && header.componentSha256 = key.componentSha256 &&
    header.translatorBuildHash = key.translatorBuildHash &&
    sorted header.features = sorted key.features

/-- The loop of `put` over the adapters. -/
def writeAdapters (name : DirName) : List (String × List UInt8) → DirProcess Rest Unit
  | [] => return ()
  | (file, bytes) :: rest => do
      let safe ← .ofExcept (safeRelName file)
      let _ ← Process.call (.mkdir name)
      let _ ← Process.call (.writeFile name (.adapter safe) (.bytes bytes))
      writeAdapters name rest

namespace DirCache

def evict (key : CacheKey) : DirProcess Rest Unit :=
  rmIfExists (.entry (keyHex platform.sha256Hex key))

def tryEvict (key : CacheKey) : DirProcess Rest Unit :=
  tryCatch (evict platform key) fun _ => pure ()

/-- `get` inside its `try`. -/
def getEntry (key : CacheKey) : DirProcess Rest (Option (CachedArtifacts Rest)) := do
  let dir := .entry (keyHex platform.sha256Hex key)
  if ← dirExists dir then
    let header ← readMeta dir
    if agrees header key then
      let plan ← readPlan dir
      if plan.componentSha256 = key.componentSha256 then
        .ofExcept (platform.loadPlan plan)
        let adapters ← readAdapters dir plan.modules .empty
        return some { plan, adapters }
      else
        tryEvict platform key
        return none
    else
      tryEvict platform key
      return none
  else return none

def get (key : CacheKey) : DirProcess Rest (Option (CachedArtifacts Rest)) :=
  tryCatch (getEntry platform key) fun _ => do
    tryEvict platform key
    return none

/-- `put` inside its `try`. -/
def fill (dir tmp : DirName) (key : CacheKey) (artifacts : CachedArtifacts Rest) :
    DirProcess Rest Unit := do
  let _ ← Process.call (.mkdir tmp)
  let _ ← Process.call (.writeFile tmp .metaJson (.header
    { layoutVersion := CACHE_LAYOUT_VERSION
      componentSha256 := key.componentSha256
      translatorBuildHash := key.translatorBuildHash
      features := key.features }))
  let _ ← Process.call (.writeFile tmp .planJson (.plan artifacts.plan))
  writeAdapters tmp artifacts.adapters.entries
  rmIfExists dir
  let _ ← Process.call (.rename tmp dir)

def put (uuid : Nat) (key : CacheKey) (artifacts : CachedArtifacts Rest) :
    DirProcess Rest Unit := do
  let hex := keyHex platform.sha256Hex key
  rmIfExists (.temp hex uuid)
  tryCatch (fill (.entry hex) (.temp hex uuid) key artifacts) fun failure => do
    tryCatch (rmIfExists (.temp hex uuid)) fun _ => pure ()
    throw failure

end DirCache

/-- `dirCache`; `crypto.randomUUID` gives each task a name of its own. -/
def dirCache (uuid : Nat) : ArtifactCache Rest (DirCall Rest) (DirReply Rest) where
  get := DirCache.get platform
  put := DirCache.put platform uuid
  evict := DirCache.evict platform

end

end Polyengine.Cache
