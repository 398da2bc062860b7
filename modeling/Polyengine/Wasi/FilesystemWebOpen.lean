import Polyengine.Wasi.FilesystemWebSafety

/-!
# What an open does on the web backend

The ways in which `open-at` succeeds over the origin private file system, and what a failure leaves.
The chain of handle calls tells an entry that is missing, or is of the other kind, by the name of
the error, so the platform must not reject a call with one of these names for any other reason.
-/

set_option autoImplicit false

namespace Polyengine.Wasi.Web

open Polyengine.Library Command

/-- No call is rejected in the name of the errors that say what the entry is. -/
def Platform.Honest (platform : Platform) : Prop :=
  ∀ site, platform.rejects site ≠ some NotFoundError ∧ platform.rejects site ≠ some TypeMismatchError

section

variable {platform : Platform} {tree after : Tree} {base : WebHandle} {segments : List String}
  {opts : OpenOptions} {opened : WebHandle × DescriptorType} {raised : Failure → Tree → Prop}

/-- How an open succeeds. -/
inductive Opened (platform : Platform) (tree : Tree) (base : WebHandle) (opts : OpenOptions) :
    List String → WebHandle × DescriptorType → Tree → Prop where
  | base (shared : ¬(opts.exclusive = true ∧ opts.create = true)) :
      Opened platform tree base opts [] (base, handleType base.handle) tree
  | directory {final : FinalSegments} (here : tree (locatorOf base final) = some .directory)
      (shared : opts.directory = true ∧ platform.rejects .openDirectory = none ∨
        ¬(opts.create = true ∧ opts.exclusive = true)) :
      Opened platform tree base opts final.val
        (⟨⟨.directory, locatorOf base final⟩, childPath base final.val⟩, .directory) tree
  | createdDirectory {final : FinalSegments}
      (parent : tree (parentLocator base final) = some .directory)
      (absent : tree (locatorOf base final) = none) (create : opts.create = true)
      (directory : opts.directory = true) :
      Opened platform tree base opts final.val
        (⟨⟨.directory, locatorOf base final⟩, childPath base final.val⟩, .directory)
        (Function.update tree (locatorOf base final) (some .directory))
  | file {final : FinalSegments} {content : List UInt8}
      (here : tree (locatorOf base final) = some (.file content))
      (shared : ¬(opts.create = true ∧ opts.exclusive = true)) (file : opts.directory = false) :
      Opened platform tree base opts final.val
        (⟨⟨.file, locatorOf base final⟩, childPath base final.val⟩, .regularFile)
        (if opts.truncate = true then tree.put (locatorOf base final) [] else tree)
  | createdFile {final : FinalSegments}
      (parent : tree (parentLocator base final) = some .directory)
      (absent : tree (locatorOf base final) = none) (create : opts.create = true)
      (file : opts.directory = false) :
      Opened platform tree base opts final.val
        (⟨⟨.file, locatorOf base final⟩, childPath base final.val⟩, .regularFile)
        (tree.put (locatorOf base final) [])

/-- A path that can be opened. -/
def Openable (platform : Platform) (tree : Tree) (base : WebHandle) (opts : OpenOptions)
    (segments : List String) : Prop :=
  if nonempty : segments ≠ [] then
    Parents platform tree .first base ⟨segments, nonempty⟩ ∧
      match tree (locatorOf base ⟨segments, nonempty⟩) with
      | some .directory => opts.directory = true ∨ ¬(opts.create = true ∧ opts.exclusive = true)
      | some (.file _) => opts.directory = false ∧ ¬(opts.create = true ∧ opts.exclusive = true)
      | none => opts.create = true ∧
          tree (parentLocator base ⟨segments, nonempty⟩) = some .directory
  else ¬(opts.exclusive = true ∧ opts.create = true)

/-- What a failed open leaves, and why it fails: a new file may be there, and if the platform has
not rejected anything then the path cannot be opened. -/
structure Refused (platform : Platform) (tree : Tree) (base : WebHandle) (opts : OpenOptions)
    (segments : List String) (after : Tree) : Prop where
  left : after = tree ∨ opts.create = true ∧
    ∃ locator, tree locator = none ∧ after = tree.put locator []
  stuck : (∀ site, platform.rejects site = none) → ¬Openable platform tree base opts segments

theorem Refused.of_rejected {site : Site} (rejected : platform.rejects site ≠ none) :
    Refused platform tree base opts segments tree :=
  ⟨.inl rfl, fun accepts => absurd (accepts site) rejected⟩

theorem ensures_existingAt (honest : platform.Honest) {parent : Locator} {name : String}
    {post : Option OpfsHandle → Tree → Prop}
    (file : ∀ content, tree (parent ++ [name]) = some (.file content) →
      post (some ⟨.file, parent ++ [name]⟩) tree)
    (directory : tree (parent ++ [name]) = some .directory →
      post (some ⟨.directory, parent ++ [name]⟩) tree)
    (absent : tree (parent ++ [name]) = none → post none tree)
    (rejected : ∀ site, platform.rejects site ≠ none → ∀ failure, raised failure tree) :
    Ensures raised (existingAt platform parent name) post tree := by
  simp only [existingAt, ensures_tryCatch, ensures_map, Platform.getFileHandle, ensures_bind]
  rw [Platform.answer]
  cases answer : platform.rejects .getFileHandle with
  | some failure =>
      have named := honest .getFileHandle
      rw [answer] at named
      have known : failure ≠ TypeMismatchError ∧ failure ≠ NotFoundError :=
        ⟨fun same => named.2 (congrArg some same), fun same => named.1 (congrArg some same)⟩
      simp only [ensures_throw, if_neg known.1, if_neg known.2]
      exact rejected .getFileHandle (by simp [answer]) failure
  | none =>
      simp only [ensures_pure, ensures_get]
      cases here : tree (parent ++ [name]) with
      | none =>
          simp only [Bool.false_eq_true, false_and, if_false, ensures_throw, ensures_ite]
          exact ⟨fun same => absurd same (by decide), fun _ => ⟨fun _ => absent here, fun other => absurd trivial other⟩⟩
      | some entry =>
          cases entry with
          | file content => exact file content here
          | directory =>
              simp only [ensures_throw, if_true, ensures_map]
              refine ensures_getDirectoryHandle (fun _ _ => directory here) fun failed failure => ?_
              exact rejected .getDirectoryHandle (fun accepted => failed ⟨accepted, here⟩) failure

theorem ensures_truncated {file : Locator} {path : String} {content : List UInt8} {reached : Tree}
    {post : WebHandle × DescriptorType → Tree → Prop} (here : reached file = some (.file content))
    (done : post (⟨⟨.file, file⟩, path⟩, .regularFile)
      (if opts.truncate = true then reached.put file [] else reached))
    (rejected : ∀ site, platform.rejects site ≠ none → ∀ failure, raised failure reached) :
    Ensures raised (openAt.openFile platform opts ⟨.file, file⟩ path) post reached := by
  unfold openAt.openFile
  rw [ensures_ite]
  constructor
  · intro truncates
    rw [if_pos truncates] at done
    simp only [Platform.createWritable, Platform.close, ensures_bind]
    refine ensures_answer (fun _ => ?_) fun refused => rejected .createWritable refused
    simp only [ensures_get, here, ensures_pure]
    refine ensures_answer (fun _ => ?_) fun refused => rejected .close refused
    exact done
  · intro keeps
    rwa [if_neg keeps] at done

theorem openable_final {final : FinalSegments} :
    Openable platform tree base opts final.val ↔
      Parents platform tree .first base final ∧
        match tree (locatorOf base final) with
        | some .directory => opts.directory = true ∨ ¬(opts.create = true ∧ opts.exclusive = true)
        | some (.file _) => opts.directory = false ∧ ¬(opts.create = true ∧ opts.exclusive = true)
        | none => opts.create = true ∧ tree (parentLocator base final) = some .directory := by
  rw [Openable, dif_pos final.property]

theorem ensures_openDirectory {final : FinalSegments} (asked : opts.directory = true) :
    Ensures (fun _ after => Refused platform tree base opts final.val after)
      (platform.getDirectoryHandle .openDirectory (parentLocator base final) final.name opts.create)
      (fun dir next => Opened platform tree base opts final.val
        (⟨dir, childPath base final.val⟩, .directory) next) tree := by
  simp only [Platform.getDirectoryHandle, ensures_bind]
  refine ensures_answer (fun answered => ?_) fun rejected _ => .of_rejected rejected
  simp only [ensures_get]
  cases here : tree (parentLocator base final ++ [final.name]) with
  | none =>
      simp only [ensures_ite, ensures_bind, ensures_set, ensures_pure, ensures_throw]
      constructor
      · rintro ⟨create, parent⟩
        exact .createdDirectory parent here create asked
      · intro failed
        refine ⟨.inl rfl, fun _ openable => ?_⟩
        have both := (openable_final.mp openable).2
        rw [locatorOf, here] at both
        exact failed both
  | some entry =>
      cases entry with
      | file content =>
          refine ⟨.inl rfl, fun _ openable => ?_⟩
          have both := (openable_final.mp openable).2
          rw [locatorOf, here] at both
          rw [asked] at both
          cases both.1
      | directory => exact .directory here (.inl ⟨asked, answered⟩)

theorem ensures_openExisting (honest : platform.Honest) {final : FinalSegments}
    (asked : opts.directory = false) :
    Ensures (fun _ after => Refused platform tree base opts final.val after)
      (do
        match ← existingAt platform (parentLocator base final) final.name with
        | some existing =>
            if existing.kind = .directory then
              if opts.create = true ∧ opts.exclusive = true then
                throw (.coded .exist (childPath base final.val ++ ": exists"))
              else return (⟨existing, childPath base final.val⟩, .directory)
            else if opts.create = true ∧ opts.exclusive = true then
              throw (.coded .exist (childPath base final.val ++ ": exists"))
            else openAt.openFile platform opts existing (childPath base final.val)
        | none =>
            openAt.openFile platform opts
              (← platform.getFileHandle .create (parentLocator base final) final.name opts.create)
              (childPath base final.val))
      (fun opened after => Opened platform tree base opts final.val opened after) tree := by
  rw [ensures_bind]
  refine ensures_existingAt honest (fun content here => ?_) (fun here => ?_) (fun here => ?_)
    fun site rejected _ => .of_rejected rejected
  · have notDirectory : ¬HandleKind.file = .directory := nofun
    simp only [ensures_ite, if_neg notDirectory]
    refine ⟨fun taken => ?_, fun shared => ?_⟩
    · refine ⟨.inl rfl, fun _ openable => ?_⟩
      have both := (openable_final.mp openable).2
      rw [locatorOf, here] at both
      exact both.2 taken
    · exact ensures_truncated here (.file here shared asked) fun site rejected _ =>
        .of_rejected rejected
  · simp only [if_true, ensures_ite, ensures_throw, ensures_pure]
    refine ⟨fun taken => ?_, fun shared => .directory here (.inr shared)⟩
    refine ⟨.inl rfl, fun _ openable => ?_⟩
    have both := (openable_final.mp openable).2
    rw [locatorOf, here, asked] at both
    cases both with
    | inl directory => cases directory
    | inr shared => exact shared taken
  · simp only [Platform.getFileHandle, ensures_bind]
    refine ensures_answer (fun _ => ?_) fun rejected _ => .of_rejected rejected
    simp only [ensures_get, here, ensures_ite, ensures_bind, ensures_set, ensures_pure,
      ensures_throw]
    constructor
    · rintro ⟨create, parent⟩
      have created := @Opened.createdFile platform _ _ _ _ parent here create asked
      refine ensures_truncated (Function.update_self _ _ _) ?_ fun site rejected _ =>
        ⟨.inr ⟨create, locatorOf base final, here, rfl⟩, fun accepts => absurd (accepts site) rejected⟩
      have same : (if opts.truncate = true then
          (tree.put (locatorOf base final) []).put (locatorOf base final) []
          else tree.put (locatorOf base final) []) = tree.put (locatorOf base final) [] := by
        split
        next => exact Function.update_idem _ _ _
        next => rfl
      exact same ▸ created
    · intro failed
      refine ⟨.inl rfl, fun _ openable => ?_⟩
      have both := (openable_final.mp openable).2
      rw [locatorOf, here] at both
      exact failed both

theorem Opened.openable (success : Opened platform tree base opts segments opened after)
    (parents : ∀ nonempty, Parents platform tree .first base ⟨segments, nonempty⟩) :
    Openable platform tree base opts segments := by
  cases success with
  | base shared =>
      rw [Openable, dif_neg (not_not.mpr rfl)]
      exact shared
  | @directory final here shared =>
      refine openable_final.mpr ⟨parents final.property, ?_⟩
      rw [here]
      exact shared.imp_left fun asked => asked.1
  | @createdDirectory final parent absent create directory =>
      refine openable_final.mpr ⟨parents final.property, ?_⟩
      rw [absent]
      exact ⟨create, parent⟩
  | @file final content here shared file =>
      refine openable_final.mpr ⟨parents final.property, ?_⟩
      rw [here]
      exact ⟨file, shared⟩
  | @createdFile final parent absent create file =>
      refine openable_final.mpr ⟨parents final.property, ?_⟩
      rw [absent]
      exact ⟨create, parent⟩

theorem ensures_openAt (honest : platform.Honest) :
    Ensures (fun _ after => Refused platform tree base opts segments after)
      (openAt platform base segments opts)
      (fun opened after => Opened platform tree base opts segments opened after ∧
        Openable platform tree base opts segments) tree := by
  unfold openAt
  split
  next nonempty =>
    have missing : ¬Parents platform tree .first base ⟨segments, nonempty⟩ → ∀ failure : Failure,
        Refused platform tree base opts segments tree :=
      fun stops _ => ⟨.inl rfl, fun _ openable => stops (openable_final.mp openable).1⟩
    simp only [ensures_bind]
    refine ensures_parentOf (fun parents => ?_) missing
    rw [ensures_ite]
    constructor
    · intro asked
      rw [ensures_bind]
      apply (ensures_openDirectory asked).imp
      intro dir after success
      exact ⟨success, success.openable fun _ => parents⟩
    · intro asked
      apply (ensures_openExisting honest (Bool.eq_false_iff.mpr asked)).imp
      intro opened after success
      exact ⟨success, success.openable fun _ => parents⟩
  next atBase =>
    have empty : segments = [] := not_not.mp atBase
    subst empty
    rw [ensures_ite]
    exact ⟨fun taken => ⟨.inl rfl, fun _ openable => openable taken⟩, fun shared =>
      ⟨.base shared, shared⟩⟩

/-! ## Where an open leads -/

theorem locatorOf_eq (base : WebHandle) (final : FinalSegments) :
    locatorOf base final = base.handle.locator ++ final.val := by
  rw [locatorOf, parentLocator, List.append_assoc]
  exact congrArg _ (List.dropLast_append_getLast final.property)

theorem Opened.leads (success : Opened platform tree base opts segments opened after) :
    opened.1.path = childPath base segments ∧
      opened.1.handle.locator = base.handle.locator ++ segments := by
  cases success with
  | base shared => exact ⟨rfl, (List.append_nil _).symm⟩
  | directory | createdDirectory | file | createdFile => exact ⟨rfl, locatorOf_eq base _⟩

/-- The entry that the descriptor is on is there, and has its type; what else was there still is,
and a directory still is one. -/
theorem Opened.entry (success : Opened platform tree base opts segments opened after)
    (nonempty : segments ≠ []) :
    (opened.2 = .directory ∧ after (locatorOf base ⟨segments, nonempty⟩) = some .directory ∨
        opened.2 = .regularFile ∧
          ∃ content, after (locatorOf base ⟨segments, nonempty⟩) = some (.file content)) ∧
      ∀ locator, tree locator = some .directory → after locator = some .directory := by
  cases success with
  | base shared => exact absurd rfl nonempty
  | directory here shared => exact ⟨.inl ⟨rfl, here⟩, fun _ kept => kept⟩
  | @createdDirectory final parent absent create directory =>
      refine ⟨.inl ⟨rfl, Function.update_self _ _ _⟩, fun locator kept => ?_⟩
      by_cases same : locator = locatorOf base final
      · rw [same, Function.update_self]
      · rw [Function.update_of_ne same, kept]
  | @file final content here shared file =>
      have free : tree (locatorOf base final) ≠ some .directory := by rw [here]; nofun
      split
      next =>
        exact ⟨.inr ⟨rfl, [], Function.update_self _ _ _⟩, fun locator =>
          (put_directory free [] locator).mpr⟩
      next => exact ⟨.inr ⟨rfl, content, here⟩, fun _ kept => kept⟩
  | @createdFile final parent absent create file =>
      have free : tree (locatorOf base final) ≠ some .directory := by rw [absent]; nofun
      exact ⟨.inr ⟨rfl, [], Function.update_self _ _ _⟩, fun locator =>
        (put_directory free [] locator).mpr⟩

end

end Polyengine.Wasi.Web
