import Polyengine.Cache.DirTransparency
import Polyengine.Cache.Web

/-!
# Transparency of the artifact cache

Any number of tasks over one cache, interleaved call by call, with calls that fail and tasks that
stop.
-/

set_option autoImplicit false

namespace Polyengine.Cache

open Polyengine.Library

section

variable {Rest : Type}

/-- The tasks over one directory cache; the place of a task is its unique name. -/
def dirSystem (platform : Platform Rest) :
    Process.System (Operation Rest) (DirCall Rest) (DirReply Rest) CacheFailure
      (OperationResult Rest) (DirStore Rest) where
  program := fun task operation => operation.program platform (dirCache platform task)
  performs := DirPerforms

/-- The tasks over one web cache. -/
def webSystem (platform : Platform Rest) :
    Process.System (Operation Rest) (WebCall Rest) (WebReply Rest) CacheFailure
      (OperationResult Rest) (WebStore Rest) where
  program := fun _ operation => operation.program platform (webCache platform)
  performs := WebPerforms

variable {platform : Platform Rest} {translators : String → List UInt8 → Except CacheFailure String}

theorem dirCache_right (collisionFree : platform.sha256Hex.Injective) {initial : DirStore Rest}
    (foreign : ∀ hex, Foreign hex initial)
    {pool : Process.Pool (Operation Rest) (DirCall Rest) (DirReply Rest) CacheFailure
      (OperationResult Rest) (DirStore Rest)}
    (reached : Process.Reaches (dirSystem platform)
      (Operation.Permitted platform translators Named) initial pool)
    {task : Process.Task (Operation Rest) (DirCall Rest) (DirReply Rest) CacheFailure
      (OperationResult Rest)} (listed : task ∈ pool.tasks)
    {outcome : Except CacheFailure (OperationResult Rest)}
    (ended : task.process.outcome = some outcome) :
    task.operation.Right platform translators outcome := by
  have agrees := @Process.Reaches.agrees _ _ _ _ _ _ (dirSystem platform) _
    (dirAgreement platform translators 0).invariant
    (fun task => (dirAgreement platform translators task).rely)
    (fun task => (dirAgreement platform translators task).guarantee)
    (Operation.Right platform translators)
    (fun task => ⟨fun _ _ _ first second => ⟨fun hex settled => second.1 hex (first.1 hex settled),
      fun hex => (second.2 hex).trans (first.2 hex)⟩⟩)
    (fun mover index different _ _ guaranteed =>
      ⟨guaranteed.1, fun hex => guaranteed.2 hex index (Ne.symm different)⟩)
    (fun _ _ => ⟨fun _ settled => settled, fun _ => rfl⟩)
    (fun index _ permitted store _ =>
      program_ensures (dirCache_backend collisionFree index) collisionFree permitted store)
    _ (fun hex => .inr (foreign hex)) _ reached
  exact agrees.outcome listed ended

theorem webCache_right (collisionFree : platform.sha256Hex.Injective) {initial : WebStore Rest}
    (foreign : ∀ hex entry, initial hex = some (.entry entry) →
      entry.header.layoutVersion ≠ CACHE_LAYOUT_VERSION)
    {pool : Process.Pool (Operation Rest) (WebCall Rest) (WebReply Rest) CacheFailure
      (OperationResult Rest) (WebStore Rest)}
    (reached : Process.Reaches (webSystem platform)
      (Operation.Permitted platform translators Recordable) initial pool)
    {task : Process.Task (Operation Rest) (WebCall Rest) (WebReply Rest) CacheFailure
      (OperationResult Rest)} (listed : task ∈ pool.tasks)
    {outcome : Except CacheFailure (OperationResult Rest)}
    (ended : task.process.outcome = some outcome) :
    task.operation.Right platform translators outcome := by
  have agrees := @Process.Reaches.agrees _ _ _ _ _ _ (webSystem platform) _
    (webAgreement platform translators).invariant
    (fun _ => (webAgreement platform translators).rely)
    (fun _ => (webAgreement platform translators).guarantee)
    (Operation.Right platform translators)
    (fun _ => ⟨fun _ _ _ _ _ => trivial⟩) (fun _ _ _ _ _ _ => trivial) (fun _ _ => trivial)
    (fun _ _ permitted store _ =>
      program_ensures (webCache_backend collisionFree) collisionFree permitted store)
    _ (fun hex entry held layout => absurd layout (foreign hex entry held)) _ reached
  exact agrees.outcome listed ended

/-- Over either cache, from a storage with entries of other layouts at most, every task comes out
right in every interleaving, and keys share an entry if and only if they are keys of one
translation. -/
theorem artifactCache_transparent (platform : Platform Rest)
    (collisionFree : platform.sha256Hex.Injective)
    (translators : String → List UInt8 → Except CacheFailure String) :
    (∀ initial : DirStore Rest, (∀ hex, Foreign hex initial) → ∀ pool,
      Process.Reaches (dirSystem platform) (Operation.Permitted platform translators Named)
        initial pool →
      ∀ task ∈ pool.tasks, ∀ outcome, task.process.outcome = some outcome →
        task.operation.Right platform translators outcome) ∧
    (∀ initial : WebStore Rest, (∀ hex entry, initial hex = some (.entry entry) →
        entry.header.layoutVersion ≠ CACHE_LAYOUT_VERSION) → ∀ pool,
      Process.Reaches (webSystem platform) (Operation.Permitted platform translators Recordable)
        initial pool →
      ∀ task ∈ pool.tasks, ∀ outcome, task.process.outcome = some outcome →
        task.operation.Right platform translators outcome) ∧
    ∀ first second, keyHex platform.sha256Hex first = keyHex platform.sha256Hex second ↔
      SameKey first second := by
  refine ⟨?_, ?_, keyHex_eq_iff collisionFree⟩
  · intro initial foreign pool reached task listed outcome ended
    exact dirCache_right collisionFree foreign reached listed ended
  · intro initial foreign pool reached task listed outcome ended
    exact webCache_right collisionFree foreign reached listed ended

end

/-! ## An adapter that a record cannot hold -/

/-- A digest for a platform without collisions: the bytes as characters. -/
def plainDigest (bytes : List UInt8) : String :=
  String.ofList (bytes.map fun byte => Char.ofNat byte.toNat)

theorem plainDigest_injective : plainDigest.Injective := by
  intro first second same
  have chars := String.ofList_injective same
  refine List.map_injective_iff.mpr ?_ chars
  intro byte other equal
  have valid (byte : UInt8) : byte.toNat.isValidChar := .inl (by have := byte.toNat_lt; omega)
  have numbers := congrArg Char.toNat equal
  rw [Utf16.toNat_ofNat (valid byte), Utf16.toNat_ofNat (valid other)] at numbers
  exact UInt8.toNat_inj.mp numbers

/-- A translator whose plan has one adapter, by the name of an accessor. -/
def protoPlatform : Platform Unit where
  sha256Hex := plainDigest
  parseEnvelope := fun _ => .ok
    { error := none
      plan := some { componentSha256 := "", modules := [.adapter "__proto__"], rest := () }
      adapters := [("__proto__", Base64.btoa [1])] }
  loadPlan := fun _ => .ok ()

def protoTranslators (_ : String) (_ : List UInt8) : Except CacheFailure String := .ok ""

/-- The translation of the empty component. -/
def protoTranslation : Operation Unit :=
  .translateCached ⟨some "build", protoTranslators "build"⟩ [] [] false

theorem proto_lost : ∃ pool,
    Process.Reaches (webSystem protoPlatform)
      (Operation.Permitted protoPlatform protoTranslators fun _ => True) (fun _ => none) pool ∧
    ∃ task ∈ pool.tasks, ∃ outcome, task.process.outcome = some outcome ∧
      ¬task.operation.Right protoPlatform protoTranslators outcome := by
  have permitted : protoTranslation.Permitted protoPlatform protoTranslators fun _ => True :=
    ⟨⟨"build", rfl⟩, fun _ _ => trivial⟩
  have start := @Process.Reaches.initial _ _ _ _ _ _ (webSystem protoPlatform)
    (Operation.Permitted protoPlatform protoTranslators fun _ => True) (fun _ => none)
  have first := start.step (.start permitted)
  have opened := first.move 0 rfl (.inl rfl)
  have missed := opened.move 0 rfl (.inl rfl)
  have reopened := missed.move 0 rfl (.inl rfl)
  have stored := reopened.move 0 rfl (.inl rfl)
  have second := stored.step (.start permitted)
  have again := second.move 1 rfl (.inl rfl)
  have hit := again.move 1 rfl (.inl rfl)
  refine ⟨_, hit, _, List.mem_cons_of_mem _ List.mem_cons_self, .ok (.translated
    { artifacts := { plan := ⟨"", [.adapter "__proto__"], ()⟩, adapters := .empty }
      fromCache := true }), ?_, ?_⟩
  · decide +kernel
  · intro ⟨fresh, translated, same⟩
    have made : freshTranslation protoPlatform ⟨some "build", protoTranslators "build"⟩ [] =
        .ok { plan := ⟨"", [.adapter "__proto__"], ()⟩
              adapters := FileMap.empty.set "__proto__" [1] } := by decide
    rw [made] at translated
    cases translated
    have lost := same.adapters "__proto__"
    rw [FileMap.get?_set, if_pos rfl] at lost
    cases lost

theorem artifactCache_transparent_order :
    keyHex plainDigest ⟨"component", "build", ["cm-async", "cm-map"]⟩ =
      keyHex plainDigest ⟨"component", "build", ["cm-map", "cm-async"]⟩ :=
  ((artifactCache_transparent protoPlatform plainDigest_injective protoTranslators).2.2 _ _).mpr
    ⟨rfl, rfl, List.Perm.swap _ _ _⟩

end Polyengine.Cache
