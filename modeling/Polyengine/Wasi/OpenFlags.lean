import Polyengine.Wasi.FilesystemNode
import Polyengine.Wasi.FilesystemWebOpen

/-!
# The flags of an open

What the flags of `open-at` ask of a backend, when the two backends do it, and when they agree on
the success of an open over the same tree.
-/

set_option autoImplicit false

namespace Polyengine.Wasi

open Polyengine.Library

/-! ## The call of a descriptor -/

/-- The arguments of `open-at`. -/
structure OpenRequest where
  pathFlags : PathFlagsValue
  path : String
  openFlags : OpenFlagsValue
  flags : RequestedFlags
  deriving Repr, DecidableEq

def OpenRequest.opts (request : OpenRequest) : OpenOptions :=
  decodeOpen request.pathFlags request.openFlags request.flags

section

variable {Handle State Failure : Type} {provider : Provider} {shape : ErrShape} {c : Core Handle}
  {request : OpenRequest} {segments : List String}

def OpenRequest.Passes (request : OpenRequest) (provider : Provider) (shape : ErrShape)
    (c : Core Handle) (segments : List String) : Prop :=
  provider.openAt shape c request.pathFlags request.path request.openFlags request.flags =
    .ok (.opens c.h segments request.opts (provider.flagsValue request.flags))

/-- The handle and the type that the call gives, and what it leaves. What fails in the checks makes
no call of the backend. -/
def openDescriptor (provider : Provider) (shape : ErrShape)
    (backend : Handle → List String → OpenOptions →
      Command State Failure (Handle × DescriptorType))
    (c : Core Handle) (request : OpenRequest) (state : State) :
    Option (Handle × DescriptorType) × State :=
  match provider.openAt shape c request.pathFlags request.path request.openFlags request.flags with
  | .ok (.opens base segments opts _) =>
      match (backend base segments opts).outcome state with
      | (.ok opened, after) => (some opened, after)
      | (.error _, after) => (none, after)
  | _ => (none, state)

theorem openAt_checked {effect : Effect Handle}
    (checked : provider.openAt shape c request.pathFlags request.path request.openFlags request.flags
      = .ok effect) :
    c.type = .directory ∧
      (request.opts.truncate = true → provider.writable = true ∧ c.flags.mutateDirectory = true) ∧
      ∃ segments, parsePath request.path shape = .ok segments ∧
        effect = .opens c.h segments request.opts (provider.flagsValue request.flags) := by
  have mutates : request.opts.truncate = true →
      Provider.asksToMutate request.openFlags request.flags = true := by
    intro truncates
    have flag : isTrue request.openFlags.truncate = true := truncates
    simp [Provider.asksToMutate, flag]
  unfold Provider.openAt at checked
  obtain ⟨_, allowed, checked⟩ := Fallible.bind_ok checked
  obtain ⟨_, directory, checked⟩ := Fallible.bind_ok checked
  have isDirectory : c.type = .directory := by
    by_contra other
    rw [Provider.requireDir, if_neg other] at directory
    cases directory
  refine ⟨isDirectory, ?_⟩
  by_cases asks : Provider.asksToMutate request.openFlags request.flags = true
  · rw [if_pos asks] at checked
    obtain ⟨_, mutate, checked⟩ := Fallible.bind_ok checked
    obtain ⟨segments, parsed, checked⟩ := Fallible.bind_ok checked
    cases checked
    refine ⟨fun _ => ⟨?_, ?_⟩, segments, parsed, rfl⟩
    · by_contra readOnly
      rw [Provider.requireOpenAllowed, if_neg readOnly, if_pos asks] at allowed
      cases allowed
    · by_contra confined
      rw [Provider.requireDirMutate, if_neg confined] at mutate
      cases mutate
  · rw [if_neg asks] at checked
    obtain ⟨segments, parsed, checked⟩ := Fallible.bind_ok checked
    cases checked
    exact ⟨fun truncates => absurd (mutates truncates) asks, segments, parsed, rfl⟩

theorem resolveSegments_named {out : List String}
    (named : ∀ seg ∈ out, FileTree.Named seg) {remaining : List String}
    (resolved : resolveSegments shape remaining out = .ok segments) :
    ∀ seg ∈ segments, FileTree.Named seg := by
  induction remaining generalizing out with
  | nil =>
      cases resolved
      exact named
  | cons seg rest ih =>
      rw [resolveSegments] at resolved
      by_cases dot : seg = "" ∨ seg = "."
      · rw [if_pos dot] at resolved
        exact ih named resolved
      · rw [if_neg dot] at resolved
        by_cases up : seg = ".."
        · rw [if_pos up] at resolved
          by_cases underflow : out = []
          · rw [if_pos underflow] at resolved
            cases resolved
          · rw [if_neg underflow] at resolved
            exact ih (fun other member => named other ((List.dropLast_sublist out).subset member)) resolved
        · rw [if_neg up] at resolved
          refine ih (fun other member => ?_) resolved
          cases List.mem_append.mp member with
          | inl before => exact named other before
          | inr last =>
              rw [List.mem_singleton.mp last]
              exact ⟨fun empty => dot (.inl empty), fun single => dot (.inr single), up⟩

theorem parsePath_named {path : String} (parsed : parsePath path shape = .ok segments) :
    ∀ seg ∈ segments, FileTree.Named seg := by
  unfold parsePath at parsed
  split at parsed
  next => cases parsed
  next =>
    split at parsed
    next => cases parsed
    next => exact resolveSegments_named (fun _ member => absurd member List.not_mem_nil) parsed

variable {backend : Handle → List String → OpenOptions →
  Command State Failure (Handle × DescriptorType)} {state : State}

theorem openDescriptor_passes (passes : request.Passes provider shape c segments) :
    openDescriptor provider shape backend c request state =
      match (backend c.h segments request.opts).outcome state with
      | (.ok opened, after) => (some opened, after)
      | (.error _, after) => (none, after) := by
  rw [openDescriptor, passes]

theorem openDescriptor_fails
    (never : ∀ segments, ¬request.Passes provider shape c segments) :
    openDescriptor provider shape backend c request state = (none, state) := by
  cases checked : provider.openAt shape c request.pathFlags request.path request.openFlags
      request.flags with
  | error payload => rw [openDescriptor, checked]
  | ok effect =>
      obtain ⟨-, -, segments, -, opens⟩ := openAt_checked checked
      rw [opens] at checked
      exact absurd checked (never segments)

theorem openDescriptor_ends {holds : Option (Handle × DescriptorType) × State → Prop}
    (passes : ∀ segments, request.Passes provider shape c segments →
      Command.Ensures (fun _ after => holds (none, after)) (backend c.h segments request.opts)
        (fun opened after => holds (some opened, after)) state)
    (fails : holds (none, state)) :
    holds (openDescriptor provider shape backend c request state) := by
  by_cases passing : ∃ segments, request.Passes provider shape c segments
  · obtain ⟨segments, passed⟩ := passing
    have ensured := passes segments passed
    rw [openDescriptor_passes passed]
    unfold Command.Ensures at ensured
    cases ran : (backend c.h segments request.opts).outcome state with
    | mk result after =>
        rw [ran] at ensured
        cases result <;> exact ensured
  · rw [openDescriptor_fails fun segments passed => passing ⟨segments, passed⟩]
    exact fails

theorem OpenRequest.Passes.parsed (passes : request.Passes provider shape c segments) :
    parsePath request.path shape = .ok segments := by
  obtain ⟨-, -, own, parsed, opens⟩ := openAt_checked passes
  cases opens
  exact parsed

end

/-! ## The web backend -/

namespace Web

open Command

structure Descriptor where
  core : Core WebHandle
  typed : core.type = handleType core.h.handle

def entryType : Option Entry → Option DescriptorType
  | none => none
  | some (.file _) => some .regularFile
  | some .directory => some .directory

/-- What an open that succeeds is to do; the descriptor is on the entry at the path from the base.
-/
structure RightOpen (tree : Tree) (base : WebHandle) (segments : List String) (opts : OpenOptions)
    (permitted : Prop) (opened : WebHandle × DescriptorType) (after : Tree) : Prop where
  exclusive : opts.create = true → opts.exclusive = true →
    tree (base.handle.locator ++ segments) = none
  directory : opts.directory = true → opened.2 = .directory
  uncreated : opts.create = false → ∀ locator, tree locator = none → after locator = none
  content : ∀ locator content, tree locator = some (.file content) →
    after locator ≠ some (.file content) → opts.truncate = true ∧ permitted
  typed : entryType (after (base.handle.locator ++ segments)) = some opened.2

structure RightFailure (tree : Tree) (opts : OpenOptions) (after : Tree) : Prop where
  uncreated : opts.create = false → ∀ locator, tree locator = none → after locator = none
  content : ∀ locator content, tree locator = some (.file content) →
    after locator = some (.file content)

section

variable {platform : Platform} {tree after : Tree} {base : WebHandle} {segments : List String}
  {opts : OpenOptions} {opened : WebHandle × DescriptorType} {permitted : Prop}

/-- An open that the flags are to refuse and that succeeds: an exclusive open of a directory that
asks for a directory, or an open of the base when the entry of the base is gone. -/
def MissedAt (platform : Platform) (tree : Tree) (base : WebHandle) (segments : List String)
    (opts : OpenOptions) : Prop :=
  if nonempty : segments ≠ [] then
    Parents platform tree .first base ⟨segments, nonempty⟩ ∧
      platform.rejects .openDirectory = none ∧
      tree (locatorOf base ⟨segments, nonempty⟩) = some .directory ∧
      opts.directory = true ∧ opts.create = true ∧ opts.exclusive = true
  else
    ¬(opts.exclusive = true ∧ opts.create = true) ∧
      entryType (tree base.handle.locator) ≠ some (handleType base.handle)

theorem put_content {file locator : Locator} {bytes content : List UInt8}
    (absent : tree file = none) (here : tree locator = some (.file content)) :
    tree.put file bytes locator = some (.file content) := by
  have apart : locator ≠ file := by
    intro same
    rw [same, absent] at here
    cases here
  rw [Tree.put, Function.update_of_ne apart, here]

theorem Refused.right (refused : Refused platform tree base opts segments after) :
    RightFailure tree opts after where
  uncreated kept locator absent := by
    cases refused.left with
    | inl unchanged => rw [unchanged, absent]
    | inr created => exact absurd created.1 (by rw [kept]; nofun)
  content locator content here := by
    rcases refused.left with unchanged | ⟨-, file, absent, created⟩
    · rw [unchanged, here]
    · rw [created]
      exact put_content absent here

theorem Opened.right (success : Opened platform tree base opts segments opened after)
    (openable : Openable platform tree base opts segments) (isDirectory : base.handle.kind = .directory)
    (allowed : opts.truncate = true → permitted)
    (right : ¬MissedAt platform tree base segments opts) :
    RightOpen tree base segments opts permitted opened after := by
  cases success with
  | base shared =>
      have typed : entryType (tree base.handle.locator) = some (handleType base.handle) := by
        by_contra other
        refine right ?_
        rw [MissedAt, dif_neg (not_not.mpr rfl)]
        exact ⟨shared, other⟩
      refine ⟨fun create exclusive => absurd ⟨exclusive, create⟩ shared, fun _ => ?_,
        fun _ _ absent => absent, fun _ _ here changed => absurd here changed, ?_⟩
      · rw [handleType, isDirectory]
      · rw [List.append_nil]
        exact typed
  | @directory final here shared =>
      refine ⟨fun create exclusive => ?_, fun _ => rfl, fun _ _ absent => absent,
        fun _ _ there changed => absurd there changed, ?_⟩
      · cases shared with
        | inl asked =>
            refine absurd ?_ right
            rw [MissedAt, dif_pos final.property]
            exact ⟨(openable_final.mp openable).1, asked.2, here, asked.1, create, exclusive⟩
        | inr shared => exact absurd ⟨create, exclusive⟩ shared
      · rw [← locatorOf_eq, here]
        rfl
  | @createdDirectory final parent absent create directory =>
      refine ⟨fun _ _ => ?_, fun _ => rfl, fun kept => ?_, fun locator content here changed => ?_, ?_⟩
      · rw [← locatorOf_eq, absent]
      · rw [create] at kept
        cases kept
      · have apart : locator ≠ locatorOf base final := by
          intro same
          rw [same, absent] at here
          cases here
        rw [Function.update_of_ne apart] at changed
        exact absurd here changed
      · rw [← locatorOf_eq, Function.update_self]
        rfl
  | @file final content here shared file =>
      refine ⟨fun create exclusive => absurd ⟨create, exclusive⟩ shared, fun asked => ?_,
        fun _ locator absent => ?_, fun locator own there changed => ?_, ?_⟩
      · rw [file] at asked
        cases asked
      · have apart : locator ≠ locatorOf base final := by
          intro same
          rw [same, here] at absent
          cases absent
        split
        next => rw [Tree.put, Function.update_of_ne apart, absent]
        next => exact absent
      · by_cases truncates : opts.truncate = true
        · exact ⟨truncates, allowed truncates⟩
        · rw [if_neg truncates] at changed
          exact absurd there changed
      · rw [← locatorOf_eq]
        split
        next => rw [Tree.put, Function.update_self]; rfl
        next => rw [here]; rfl
  | @createdFile final parent absent create file =>
      refine ⟨fun _ _ => ?_, fun asked => ?_, fun kept => ?_,
        fun locator content here changed => ?_, ?_⟩
      · rw [← locatorOf_eq, absent]
      · rw [file] at asked
        cases asked
      · rw [create] at kept
        cases kept
      · exact absurd (put_content absent here) changed
      · rw [← locatorOf_eq, Tree.put, Function.update_self]
        rfl

theorem missed_succeeds (missed : MissedAt platform tree base segments opts) :
    Ensures (fun _ _ => False) (openAt platform base segments opts)
      (fun opened after => ¬RightOpen tree base segments opts permitted opened after) tree := by
  unfold MissedAt at missed
  unfold openAt
  split
  next nonempty =>
    rw [dif_pos nonempty] at missed
    obtain ⟨parents, answered, here, directory, create, exclusive⟩ := missed
    have taken : tree (base.handle.locator ++ segments) ≠ none := by
      rw [← locatorOf_eq base ⟨segments, nonempty⟩, here]
      exact Option.some_ne_none _
    simp only [ensures_bind]
    refine ensures_parentOf (fun _ => ?_) fun stops => absurd parents stops
    simp only [if_pos directory, create, Platform.getDirectoryHandle, Platform.answer, answered,
      ensures_bind, ensures_pure, ensures_get]
    rw [show tree (parentLocator base ⟨segments, nonempty⟩ ++ [_]) = _ from here]
    exact fun right => taken (right.exclusive create exclusive)
  next atBase =>
    have empty : segments = [] := not_not.mp atBase
    subst empty
    rw [dif_neg atBase] at missed
    rw [if_neg missed.1, ensures_pure]
    intro right
    have typed := right.typed
    rw [List.append_nil] at typed
    exact missed.2 typed

/-! ### The call of a descriptor -/

variable {provider : Provider} {shape : ErrShape} {d : Descriptor} {request : OpenRequest}

def Obeys (provider : Provider) (shape : ErrShape) (d : Descriptor) (request : OpenRequest)
    (tree : Tree) : Option (WebHandle × DescriptorType) × Tree → Prop
  | (some opened, after) =>
      ∃ segments, parsePath request.path shape = .ok segments ∧
        RightOpen tree d.core.h segments request.opts
          (provider.writable = true ∧ d.core.flags.mutateDirectory = true) opened after
  | (none, after) => RightFailure tree request.opts after

def Missed (provider : Provider) (shape : ErrShape) (platform : Platform) (d : Descriptor)
    (request : OpenRequest) (tree : Tree) : Prop :=
  ∃ segments, request.Passes provider shape d.core segments ∧
    MissedAt platform tree d.core.h segments request.opts

theorem obeys_iff (honest : platform.Honest) :
    Obeys provider shape d request tree
        (openDescriptor provider shape (openAt platform) d.core request tree) ↔
      ¬Missed provider shape platform d request tree := by
  constructor
  · rintro obeys ⟨segments, passes, missed⟩
    rw [openDescriptor_passes passes] at obeys
    have succeeds : Ensures (fun _ _ => False) (openAt platform d.core.h segments request.opts)
        (fun opened after => ¬RightOpen tree d.core.h segments request.opts
          (provider.writable = true ∧ d.core.flags.mutateDirectory = true) opened after) tree :=
      missed_succeeds missed
    obtain ⟨opened, after, ran, wrong⟩ := succeeds.exists_ok
    rw [ran] at obeys
    obtain ⟨own, parsed, right⟩ := obeys
    rw [passes.parsed] at parsed
    cases parsed
    exact wrong right
  · intro right
    refine openDescriptor_ends (fun segments passes => ?_)
      ⟨fun _ _ absent => absent, fun _ _ here => here⟩
    obtain ⟨isDirectory, allowed, -⟩ := openAt_checked passes
    have kind : d.core.h.handle.kind = .directory := by
      have typed := d.typed
      rw [isDirectory, handleType] at typed
      cases kind : d.core.h.handle.kind with
      | directory => rfl
      | file => rw [kind] at typed; cases typed
    apply (ensures_openAt honest).mono
    · intro _ after refused
      exact refused.right
    · intro opened after success
      refine ⟨segments, passes.parsed, success.1.right success.2 kind allowed fun missed => ?_⟩
      exact right ⟨segments, passes, missed⟩

end

end Web

/-! ## The node backend -/

namespace Node

open FileTree Command

/-- What an open that succeeds is to do. -/
structure RightOpen (files : Files) (base : NodeHandle) (segments : List String) (opts : OpenOptions)
    (permitted : Prop) (opened : NodeHandle × DescriptorType) (after : Files) : Prop where
  exclusive : opts.create = true → opts.exclusive = true → ∀ follow found,
    lookup files.tree follow (join base segments) ≠ .ok found
  directory : opts.directory = true → opened.2 = .directory
  uncreated : opts.create = false → ∀ locator, files.tree locator = none → after.tree locator = none
  content : ∀ locator inode, files.tree locator = some inode →
    after.content inode.id ≠ files.content inode.id → opts.truncate = true ∧ permitted
  typed : ∃ inode, statCall opts.follow after.tree (join base segments) = .ok inode ∧
    statHandle after.tree opened.1 = .ok inode ∧ opened.2 = direntType inode

structure RightFailure (files : Files) (opts : OpenOptions) (after : Files) : Prop where
  uncreated : opts.create = false → ∀ locator, files.tree locator = none → after.tree locator = none
  content : ∀ locator inode, files.tree locator = some inode →
    after.tree locator = some inode ∧ after.content inode.id = files.content inode.id

section

variable {system : System} {files after : Files} {base : NodeHandle} {segments : List String}
  {opts : OpenOptions} {opened : NodeHandle × DescriptorType} {permitted : Prop}

def MissedAt (system : System) (files : Files) (base : NodeHandle) (segments : List String)
    (opts : OpenOptions) : Prop :=
  system.createDirectory = .createsFile ∧ opts.create = true ∧ opts.directory = true ∧
    ∃ full locator, guard files.tree base segments opts.follow = .ok full ∧
      system.denies full (openFlags opts) = none ∧
      resolve files.tree (openFlags opts).follows maxLinks [] full = .ok locator ∧
      files.tree locator = none

theorem create_keeps (fresh : system.Fresh files.tree) {file locator : Locator} {inode : Inode}
    (absent : files.tree file = none) (here : files.tree locator = some inode) :
    (system.create files file).tree locator = some inode ∧
      (system.create files file).content inode.id = files.content inode.id := by
  have apart : locator ≠ file := by
    intro same
    rw [same, absent] at here
    cases here
  exact ⟨(Function.update_of_ne apart _ _).trans here,
    Function.update_of_ne (fresh locator inode here) _ _⟩

theorem Refused.right (fresh : system.Fresh files.tree)
    (refused : Refused system files (openFlags opts) after) : RightFailure files opts after where
  uncreated kept locator absent := by
    cases refused with
    | inl unchanged => rw [unchanged, absent]
    | inr created =>
        have create : opts.create = true := created.1
        rw [kept] at create
        cases create
  content locator inode here := by
    rcases refused with unchanged | ⟨-, -, -, file, absent, created⟩
    · rw [unchanged]
      exact ⟨here, rfl⟩
    · rw [created]
      exact create_keeps fresh absent here

theorem lookup_absent {tree : Tree} {follow : Bool} {path locator : Locator}
    (resolved : resolve tree false maxLinks [] path = .ok locator) (absent : tree locator = none)
    (found : Locator × Inode) : lookup tree follow path ≠ .ok found := by
  intro same
  obtain ⟨resolved', entry⟩ := lookup_eq_ok same
  have plain := plain_of_absent absent
  have follows : follow = true ∨ follow = false := by cases follow <;> simp
  rw [resolve_settled (.of_plain plain) follows resolved] at resolved'
  cases resolved'
  rw [absent] at entry
  cases entry

theorem Opened.right (fresh : system.Fresh files.tree)
    (success : Opened system files base segments opts opened after)
    (allowed : opts.truncate = true → permitted) (right : ¬MissedAt system files base segments opts) :
    RightOpen files base segments opts permitted opened after := by
  have typed : ∃ inode, statCall opts.follow after.tree (join base segments) = .ok inode ∧
      statHandle after.tree opened.1 = .ok inode ∧ opened.2 = direntType inode := by
    obtain ⟨full, inode, guarded, here, held, type⟩ := success.entry
    rw [guard_join guarded] at here
    exact ⟨inode, here, held, type⟩
  cases success with
  | @directory full inode guarded here isDirectory shared =>
      exact ⟨fun create exclusive => absurd ⟨exclusive, create⟩ shared, fun _ => rfl,
        fun _ _ absent => absent, fun _ _ _ changed => absurd rfl changed, typed⟩
  | @opened full inode after guarded opens =>
      cases opens with
      | @found locator inode resolved entry shared followed fits =>
          refine ⟨fun create exclusive => absurd ⟨create, exclusive⟩ shared, fun asked => ?_,
            fun _ other absent => ?_, fun other own here changed => ?_, typed⟩
          · rw [direntType, fits asked]
          · split
            next => exact absent
            next => exact absent
          · by_cases truncates : inode.node = .file ∧ (openFlags opts).truncate = true
            · exact ⟨truncates.2, allowed truncates.2⟩
            · rw [if_neg truncates] at changed
              exact absurd rfl changed
      | @created locator accepted resolved absent create ignored =>
          refine ⟨fun _ exclusive => ?_, fun asked => ?_, fun kept => ?_,
            fun other own here changed => ?_, typed⟩
          · have follows : (openFlags opts).follows = false := by
              have created : opts.create = true := create
              simp [openFlags, OpenFlags.follows, created, exclusive]
            rw [follows, guard_join guarded] at resolved
            exact fun follow => lookup_absent resolved absent
          · exact absurd ⟨ignored asked, create, asked, full, locator, guarded, accepted, resolved,
              absent⟩ right
          · have created : opts.create = true := create
            rw [kept] at created
            cases created
          · exact absurd (create_keeps fresh absent here).2 changed

theorem missed_succeeds (missed : MissedAt system files base segments opts) :
    Ensures (fun _ _ => False) (openAt system base segments opts)
      (fun opened after => ¬RightOpen files base segments opts permitted opened after) files := by
  obtain ⟨createsFile, create, directory, full, locator, guarded, accepted, resolved, absent⟩ := missed
  have nothing : statCall opts.follow files.tree full = .error .ENOENT := by
    have settled := resolve_settled (.of_plain (plain_of_absent absent))
      (follow_openFlags opts) resolved
    rw [statCall_eq, lookup_error settled absent]
    rfl
  have flags : (openFlags opts).create = true ∧ (openFlags opts).directory = true :=
    ⟨create, directory⟩
  simp only [openAt, ensures_bind, ensures_get, ensures_lift, guarded, Fallible.satisfies_ok, nothing,
    openPath, FileTree.openFile, accepted, resolved, absent, openAbsent, flags.1, flags.2, createsFile,
    ensures_modify, ensures_pure, Bool.true_eq_false, if_false, if_true]
  intro right
  cases right.directory directory

/-! ### The call of a descriptor -/

variable {provider : Provider} {shape : ErrShape} {c : Core NodeHandle} {request : OpenRequest}

def Obeys (provider : Provider) (shape : ErrShape) (c : Core NodeHandle) (request : OpenRequest)
    (files : Files) : Option (NodeHandle × DescriptorType) × Files → Prop
  | (some opened, after) =>
      ∃ segments, parsePath request.path shape = .ok segments ∧
        RightOpen files c.h segments request.opts
          (provider.writable = true ∧ c.flags.mutateDirectory = true) opened after
  | (none, after) => RightFailure files request.opts after

def Missed (provider : Provider) (shape : ErrShape) (system : System) (c : Core NodeHandle)
    (request : OpenRequest) (files : Files) : Prop :=
  ∃ segments, request.Passes provider shape c segments ∧
    MissedAt system files c.h segments request.opts

theorem obeys_iff (fresh : system.Fresh files.tree) :
    Obeys provider shape c request files
        (openDescriptor provider shape (openAt system) c request files) ↔
      ¬Missed provider shape system c request files := by
  constructor
  · rintro obeys ⟨segments, passes, missed⟩
    rw [openDescriptor_passes passes] at obeys
    have succeeds : Ensures (fun _ _ => False) (openAt system c.h segments request.opts)
        (fun opened after => ¬RightOpen files c.h segments request.opts
          (provider.writable = true ∧ c.flags.mutateDirectory = true) opened after) files :=
      missed_succeeds missed
    obtain ⟨opened, after, ran, wrong⟩ := succeeds.exists_ok
    rw [ran] at obeys
    obtain ⟨own, parsed, right⟩ := obeys
    rw [passes.parsed] at parsed
    cases parsed
    exact wrong right
  · intro right
    refine openDescriptor_ends (fun segments passes => ?_)
      ⟨fun _ _ absent => absent, fun _ _ here => ⟨here, rfl⟩⟩
    obtain ⟨-, allowed, -⟩ := openAt_checked passes
    apply ensures_openAt.mono
    · intro _ after refused
      exact Refused.right fresh refused
    · intro opened after success
      refine ⟨segments, passes.parsed, success.right fresh allowed fun missed => ?_⟩
      exact right ⟨segments, passes, missed⟩

end

end Node

end Polyengine.Wasi
