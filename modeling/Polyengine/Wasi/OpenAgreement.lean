import Polyengine.Wasi.ObjectIdentity
import Polyengine.Wasi.OpenFlags

/-!
# Where the two backends agree on an open

Over one tree of files and directories, seen from base descriptors that are on the same directory,
an open succeeds on both backends or on neither, unless it is to create a directory.
-/

set_option autoImplicit false

namespace Polyengine.Wasi

open Polyengine.Library Command FileTree

inductive SameEntry : Option Inode → Option Web.Entry → Prop where
  | absent : SameEntry none none
  | directory {inode : Inode} (node : inode.node = .directory) :
      SameEntry (some inode) (some .directory)
  | file {inode : Inode} {content : List UInt8} (node : inode.node = .file) :
      SameEntry (some inode) (some (.file content))

structure Mirrors (tree : Tree) (base : Node.NodeHandle) (webTree : Web.Tree)
    (webBase : Web.WebHandle) : Prop where
  named : ∀ seg ∈ base.path, Named seg
  through : Directories tree [] base.path
  inside : base.root <+: base.path
  isDirectory : IsDirectory tree base.path
  kind : webBase.handle.kind = .directory
  same : ∀ below, SameEntry (tree (base.path ++ below)) (webTree (webBase.handle.locator ++ below))

theorem SameEntry.plain {tree : Tree} {locator : Locator} {entry : Option Web.Entry}
    (same : SameEntry (tree locator) entry) : Plain tree locator := by
  intro inode target here link
  rw [here] at same
  cases same with
  | directory node => rw [link] at node; cases node
  | file node => rw [link] at node; cases node

/-! ## The node backend -/

namespace Node

variable {system : System} {files : Files} {base : NodeHandle} {opts : OpenOptions}
  {webTree : Web.Tree} {webBase : Web.WebHandle}

/-- An entry that can be opened, where there are no links. -/
def OpenableEntry (system : System) (opts : OpenOptions) : Option Web.Entry → Prop
  | some .directory => ¬(opts.create = true ∧ opts.exclusive = true)
  | some (.file _) => opts.directory = false ∧ ¬(opts.create = true ∧ opts.exclusive = true)
  | none => opts.create = true ∧ (opts.directory = true → system.createDirectory = .createsFile)

/-- A path without links leads to itself, whether links are followed or not. -/
abbrev Straight (tree : Tree) (full : Locator) : Prop :=
  ∀ follow, resolve tree follow maxLinks [] full = .ok full

theorem lookup_straight {tree : Tree} {full : Locator} (straight : Straight tree full)
    (follow : Bool) :
    lookup tree follow full = match tree full with
      | some inode => .ok (full, inode)
      | none => .error .ENOENT := by
  cases entry : tree full with
  | some inode => exact lookup_ok (straight follow) entry
  | none => exact lookup_error (straight follow) entry

theorem statCall_straight {tree : Tree} {full : Locator} (straight : Straight tree full)
    (follow : Bool) :
    statCall follow tree full = match tree full with
      | some inode => .ok inode
      | none => .error .ENOENT := by
  rw [statCall_eq, lookup_straight straight]
  cases tree full <;> rfl

theorem realpath_straight {tree : Tree} {full : Locator} (straight : Straight tree full) :
    realpath tree full = match tree full with
      | some _ => .ok full
      | none => .error .ENOENT := by
  rw [realpath, lookup_straight straight]
  cases tree full <;> rfl

theorem requireInside_within {real root : Locator} (inside : root <+: real) :
    requireInside real root = .ok () := if_pos inside

theorem chaseFinal_straight {tree : Tree} {root dir : Locator} {name : String} (rounds : Nat)
    (straight : Straight tree (dir ++ [name])) (named : Named name) (inside : root <+: dir) :
    chaseFinal tree root (rounds + 1) dir name = .ok () := by
  rw [chaseFinal, if_neg named.1, realpath_straight straight]
  cases entry : tree (dir ++ [name]) with
  | some inode => exact requireInside_within (inside.trans (List.prefix_append dir [name]))
  | none =>
      have missing : lstat tree (dir ++ [name]) = .error .ENOENT := by
        rw [lstat, lookup_straight straight, entry]
        rfl
      simp only [missing]
      rfl

theorem guard_straight {tree : Tree} {init : List String} {last : String} {follow : Bool}
    (straight : Straight tree (base.path ++ init ++ [last]))
    (parent : Straight tree (base.path ++ init)) (isDirectory : IsDirectory tree (base.path ++ init))
    (named : Named last) (inside : base.root <+: base.path) :
    guard tree base (init ++ [last]) follow = .ok (base.path ++ init ++ [last]) := by
  obtain ⟨inode, entry, -⟩ := isDirectory
  have inside' : base.root <+: base.path ++ init := inside.trans (List.prefix_append _ _)
  have parentReal : realpath tree (base.path ++ init) = .ok (base.path ++ init) := by
    rw [realpath_straight parent, entry]
  have full : join base (init ++ [last]) = base.path ++ init ++ [last] :=
    (List.append_assoc _ _ _).symm
  have notBase : ¬(init ++ [last] = []) := by simp
  rw [guard, full, if_neg notBase, List.dropLast_concat, parentReal, List.getLastD_concat]
  change (do
    requireInside (base.path ++ init) base.root
    if follow = true then chaseFinal tree base.root 40 (base.path ++ init) last
    return base.path ++ init ++ [last]) = _
  rw [requireInside_within inside']
  by_cases follows : follow = true
  · rw [if_pos follows]
    change (do
      chaseFinal tree base.root 40 (base.path ++ init) last
      return base.path ++ init ++ [last]) = _
    rw [chaseFinal_straight 39 straight named inside']
    rfl
  · rw [if_neg follows]
    rfl

theorem ensures_openAbsent_openable (files : Files) (locator : Locator) :
    Ensures (fun _ _ => ¬OpenableEntry system opts none) (openAbsent system (openFlags opts) locator)
      (fun _ _ => OpenableEntry system opts none) files := by
  unfold openAbsent
  rw [ensures_ite]
  refine ⟨fun kept openable => ?_, fun created => ?_⟩
  · have create : (openFlags opts).create = true := openable.1
    rw [kept] at create
    cases create
  · have create : opts.create = true := Bool.of_not_eq_false created
    rw [ensures_ite]
    refine ⟨fun directory => ?_, fun file => ⟨create, fun directory => absurd directory file⟩⟩
    have refused : system.createDirectory ≠ .createsFile → ¬OpenableEntry system opts none :=
      fun refuses openable => refuses (openable.2 directory)
    cases choice : system.createDirectory with
    | refuses => exact refused (by rw [choice]; nofun)
    | createsAndRefuses => exact refused (by rw [choice]; nofun)
    | createsFile => exact ⟨create, fun _ => choice⟩

theorem ensures_openEntry_openable {inode : Inode} {content : List UInt8} (node : inode.node = .file)
    (files : Files) :
    Ensures (fun _ _ => ¬OpenableEntry system opts (some (.file content)))
      (openEntry (openFlags opts) inode)
      (fun _ _ => OpenableEntry system opts (some (.file content))) files := by
  unfold openEntry
  rw [ensures_ite, node]
  refine ⟨fun taken openable => openable.2 taken, fun shared => ?_⟩
  simp only [ensures_ite]
  refine ⟨fun directory openable => ?_, fun other => ?_⟩
  · have file : opts.directory = false := openable.1
    cases directory.symm.trans file
  · have openable : OpenableEntry system opts (some (.file content)) :=
      ⟨Bool.eq_false_iff.mpr other, shared⟩
    exact ⟨fun _ => openable, fun _ => openable⟩

theorem ensures_openPath_straight {full root : Locator} {entry : Option Web.Entry}
    (accepts : ∀ path flags, system.denies path flags = none) (straight : Straight files.tree full)
    (same : SameEntry (files.tree full) entry) (other : entry ≠ some .directory) :
    Ensures (fun _ _ => ¬OpenableEntry system opts entry) (openPath system full root opts)
      (fun _ _ => OpenableEntry system opts entry) files := by
  have opens : Ensures (fun _ _ => ¬OpenableEntry system opts entry)
      (FileTree.openFile system full (openFlags opts))
      (fun _ _ => OpenableEntry system opts entry) files := by
    simp only [FileTree.openFile, accepts, ensures_bind, ensures_get, ensures_lift, straight _,
      Fallible.satisfies_ok]
    generalize files.tree full = here at same
    cases same with
    | directory node => exact absurd rfl other
    | absent => exact ensures_openAbsent_openable files full
    | file node => exact ensures_openEntry_openable node files
  simp only [openPath, ensures_bind]
  apply opens.imp
  intro inode after openable
  rw [ensures_ite]
  exact ⟨fun _ => openable, fun _ => openable⟩

theorem ensures_openAt_straight {segments : List String} {full : Locator} {entry : Option Web.Entry}
    (accepts : ∀ path flags, system.denies path flags = none)
    (guarded : guard files.tree base segments opts.follow = .ok full)
    (straight : Straight files.tree full) (same : SameEntry (files.tree full) entry) :
    Ensures (fun _ _ => ¬OpenableEntry system opts entry) (openAt system base segments opts)
      (fun _ _ => OpenableEntry system opts entry) files := by
  simp only [openAt, ensures_bind, ensures_get, ensures_lift, guarded, Fallible.satisfies_ok,
    statCall_straight straight]
  have opens := @ensures_openPath_straight _ _ opts _ base.root _ accepts straight same
  generalize files.tree full = here at same
  cases same with
  | absent => exact opens (by simp)
  | @directory inode node =>
      have type : direntType inode = .directory := by rw [direntType, node]
      simp only [type, ensures_ite]
      refine ⟨fun link => absurd link.2 (by simp), fun _ => ⟨fun _ => ⟨fun taken openable => ?_,
        fun shared taken => shared ⟨taken.2, taken.1⟩⟩, fun other => absurd trivial other⟩⟩
      exact openable ⟨taken.2, taken.1⟩
  | @file inode content node =>
      have type : direntType inode = .regularFile := by rw [direntType, node]
      simp only [type, ensures_ite]
      refine ⟨fun link => absurd link.2 (by simp), fun _ => ⟨fun isDirectory => absurd isDirectory (by simp),
        fun _ => ⟨fun directory openable => ?_, fun _ => opens (by simp)⟩⟩⟩
      have file : opts.directory = false := openable.1
      cases directory.symm.trans file

def Openable (system : System) (tree : Tree) (base : NodeHandle) (webTree : Web.Tree)
    (webBase : Web.WebHandle) (segments : List String) (opts : OpenOptions) : Prop :=
  if segments ≠ [] then
    Directories tree base.path segments.dropLast ∧
      OpenableEntry system opts (webTree (webBase.handle.locator ++ segments))
  else ¬(opts.exclusive = true ∧ opts.create = true)

theorem guard_base {tree : Tree} (mirrors : Mirrors tree base webTree webBase) (follow : Bool) :
    guard tree base [] follow = .ok base.path := by
  have straight : Straight tree base.path := fun follow =>
    resolve_directories mirrors.named mirrors.through
  obtain ⟨inode, entry, -⟩ := mirrors.isDirectory
  have real : realpath tree base.path = .ok base.path := by rw [realpath_straight straight, entry]
  have full : join base [] = base.path := List.append_nil _
  rw [guard, full, if_pos rfl, real]
  change (do
    requireInside base.path base.root
    return base.path) = _
  rw [requireInside_within mirrors.inside]
  rfl

theorem openable_concat {tree : Tree} (init : List String) (last : String) :
    Openable system tree base webTree webBase (init ++ [last]) opts ↔
      Directories tree base.path init ∧
        OpenableEntry system opts (webTree (webBase.handle.locator ++ (init ++ [last]))) := by
  have nonempty : init ++ [last] ≠ [] := by simp
  rw [Openable, if_pos nonempty, List.dropLast_concat]

theorem ensures_openAt_openable (accepts : ∀ path flags, system.denies path flags = none)
    (mirrors : Mirrors files.tree base webTree webBase) {segments : List String}
    (named : ∀ seg ∈ segments, Named seg) :
    Ensures (fun _ _ => ¬Openable system files.tree base webTree webBase segments opts)
      (openAt system base segments opts)
      (fun _ _ => Openable system files.tree base webTree webBase segments opts) files := by
  rcases List.eq_nil_or_concat segments with rfl | ⟨init, last, rfl⟩
  · obtain ⟨inode, entry, node⟩ := mirrors.isDirectory
    have straight : Straight files.tree base.path := fun follow =>
      resolve_directories mirrors.named mirrors.through
    have same : SameEntry (files.tree base.path) (some .directory) := entry ▸ .directory node
    have openable : Openable system files.tree base webTree webBase [] opts ↔
        OpenableEntry system opts (some .directory) := by
      rw [Openable, if_neg (not_not.mpr rfl), and_comm]
      rfl
    simp only [openable]
    exact ensures_openAt_straight accepts (guard_base mirrors opts.follow) straight same
  · rw [List.concat_eq_append] at named ⊢
    have initNamed : ∀ seg ∈ init, Named seg := fun seg member =>
      named seg (List.mem_append_left [last] member)
    have lastNamed : Named last := named last (List.mem_append_right init List.mem_cons_self)
    have same := mirrors.same (init ++ [last])
    rw [← List.append_assoc] at same
    simp only [openable_concat]
    by_cases through : Directories files.tree base.path init
    · have whole : Directories files.tree [] (base.path ++ init) :=
        mirrors.through.append (by rwa [List.nil_append])
      have wholeNamed : ∀ seg ∈ base.path ++ init, Named seg := fun seg member =>
        (List.mem_append.mp member).elim (mirrors.named seg) (initNamed seg)
      have straight : Straight files.tree (base.path ++ init ++ [last]) := fun follow =>
        resolve_plain wholeNamed lastNamed whole same.plain
      have guarded : guard files.tree base (init ++ [last]) opts.follow = .ok _ :=
        guard_straight straight (fun follow => resolve_directories wholeNamed whole)
          (mirrors.isDirectory.through through) lastNamed mirrors.inside
      apply (ensures_openAt_straight accepts guarded straight same).mono
      · intro _ _ stuck openable
        exact stuck openable.2
      · intro _ _ openable
        exact ⟨through, openable⟩
    · apply ensures_openAt.mono
      · intro _ _ _ openable
        exact through openable.1
      · intro opened after success
        obtain ⟨follow, locator, resolved⟩ := success.resolved
        refine absurd ?_ through
        change walk files.tree follow (resolve files.tree follow 39) []
          (base.path ++ (init ++ [last])) = _ at resolved
        rw [walk_directories mirrors.named mirrors.through, List.nil_append] at resolved
        exact directories_of_walk initNamed (fun before _ => (mirrors.same before).plain)
          (List.cons_ne_nil last []) resolved

end Node

/-! ## Agreement -/

section

variable {platform : Web.Platform} {system : System} {files : Files} {tree : Tree}
  {base : Node.NodeHandle} {webTree : Web.Tree} {webBase : Web.WebHandle} {opts : OpenOptions}
  {segments : List String}

theorem SameEntry.isDirectory_iff {locator webLocator : Locator}
    (same : SameEntry (tree locator) (webTree webLocator)) :
    webTree webLocator = some .directory ↔ IsDirectory tree locator := by
  unfold IsDirectory
  generalize tree locator = here at same
  generalize webTree webLocator = there at same
  cases same with
  | absent => simp
  | directory node => simp [node]
  | file node => simp [node]

theorem walks_iff (accepts : ∀ site, platform.rejects site = none)
    (mirrors : Mirrors tree base webTree webBase) (walk : Web.Walk) (index : Nat)
    (before path : List String) :
    Web.Walks platform webTree walk index path (webBase.handle.locator ++ before) ↔
      Directories tree (base.path ++ before) path := by
  induction path generalizing index before with
  | nil => rfl
  | cons seg path ih =>
      have same := mirrors.same (before ++ [seg])
      rw [← List.append_assoc, ← List.append_assoc] at same
      have further := ih (index + 1) (before ++ [seg])
      rw [← List.append_assoc, ← List.append_assoc] at further
      simp only [Web.Walks, Directories, accepts, true_and, same.isDirectory_iff, further]

theorem parents_iff (accepts : ∀ site, platform.rejects site = none)
    (mirrors : Mirrors tree base webTree webBase) (walk : Web.Walk) (final : Web.FinalSegments) :
    Web.Parents platform webTree walk webBase final ↔
      Directories tree base.path final.val.dropLast := by
  have walked := walks_iff accepts mirrors walk 0 [] final.parents
  rw [List.append_nil, List.append_nil] at walked
  rw [Web.Parents, walked]
  exact and_iff_right mirrors.kind

/-- A directory is to be created: exclusively where there is one already, or where there is nothing
and the system does not create a file for it. -/
def Differs (system : System) (tree : Tree) (base : Node.NodeHandle) (webTree : Web.Tree)
    (webBase : Web.WebHandle) (segments : List String) (opts : OpenOptions) : Prop :=
  segments ≠ [] ∧ Directories tree base.path segments.dropLast ∧
    opts.create = true ∧ opts.directory = true ∧
    (webTree (webBase.handle.locator ++ segments) = some .directory ∧ opts.exclusive = true ∨
      webTree (webBase.handle.locator ++ segments) = none ∧
        system.createDirectory ≠ .createsFile)

theorem openable_iff (accepts : ∀ site, platform.rejects site = none)
    (mirrors : Mirrors tree base webTree webBase) :
    (Web.Openable platform webTree webBase opts segments ↔
        Node.Openable system tree base webTree webBase segments opts) ↔
      ¬Differs system tree base webTree webBase segments opts := by
  by_cases atBase : segments = []
  · subst atBase
    have differs : ¬Differs system tree base webTree webBase [] opts := fun differs => differs.1 rfl
    rw [Web.Openable, dif_neg (not_not.mpr rfl), Node.Openable, if_neg (not_not.mpr rfl)]
    exact iff_of_true Iff.rfl differs
  · rw [Web.Openable, dif_pos atBase, Node.Openable, if_pos atBase, parents_iff accepts mirrors,
      Web.locatorOf_eq]
    by_cases through : Directories tree base.path segments.dropLast
    · have parent : webTree (Web.parentLocator webBase ⟨segments, atBase⟩) = some .directory := by
        have isDirectory := mirrors.isDirectory.through through
        exact (mirrors.same segments.dropLast).isDirectory_iff.mpr isDirectory
      simp only [Differs, through, true_and, parent, and_true, ne_eq, atBase, not_false_eq_true]
      cases entry : webTree (webBase.handle.locator ++ segments) with
      | none =>
          simp only [Node.OpenableEntry, reduceCtorEq, false_and, false_or, true_and]
          cases opts.create <;> cases opts.directory <;> simp
      | some own =>
          cases own with
          | file content => simp [Node.OpenableEntry]
          | directory =>
              simp only [Node.OpenableEntry, true_and, reduceCtorEq, false_and, or_false]
              cases opts.create <;> cases opts.directory <;> simp
    · simp [Differs, through]

variable {provider : Provider} {shape : ErrShape} {request : OpenRequest}

theorem passes_congr {First Second : Type} {c : Core First} {c' : Core Second}
    (sameType : c.type = c'.type) (sameFlags : c.flags = c'.flags) :
    request.Passes provider shape c segments ↔ request.Passes provider shape c' segments := by
  unfold OpenRequest.Passes Provider.openAt Provider.requireDir Provider.requireDirMutate
  rw [sameType, sameFlags]
  have parses : ∀ {Own : Type} (h : Own),
      ((do
        let own ← parsePath request.path shape
        return Effect.opens h own request.opts (provider.flagsValue request.flags)) =
          .ok (.opens h segments request.opts (provider.flagsValue request.flags))) ↔
        parsePath request.path shape = .ok segments := by
    intro Own h
    cases parsePath request.path shape with
    | error payload => exact iff_of_false nofun nofun
    | ok own =>
        constructor
        · intro same
          cases same
          rfl
        · intro same
          cases same
          rfl
  cases provider.requireOpenAllowed request.openFlags request.flags shape with
  | error payload => exact iff_of_false nofun nofun
  | ok =>
      by_cases isDirectory : c'.type = .directory
      · rw [if_pos isDirectory]
        by_cases asks : Provider.asksToMutate request.openFlags request.flags = true
        · rw [if_pos asks, if_pos asks]
          by_cases mutates : c'.flags.mutateDirectory = true
          · rw [if_pos mutates]
            exact (parses c.h).trans (parses c'.h).symm
          · rw [if_neg mutates]
            exact iff_of_false nofun nofun
        · rw [if_neg asks, if_neg asks]
          exact (parses c.h).trans (parses c'.h).symm
      · rw [if_neg isDirectory]
        exact iff_of_false nofun nofun

theorem succeeds_iff {Handle State Failure : Type} {c : Core Handle} {state : State}
    {backend : Handle → List String → OpenOptions →
      Command State Failure (Handle × DescriptorType)} {condition : Prop}
    (passes : request.Passes provider shape c segments)
    (exactly : Ensures (fun _ _ => ¬condition) (backend c.h segments request.opts)
      (fun _ _ => condition) state) :
    (openDescriptor provider shape backend c request state).1.isSome = true ↔ condition := by
  rw [openDescriptor_passes passes]
  unfold Ensures at exactly
  cases ran : (backend c.h segments request.opts).outcome state with
  | mk result after =>
      rw [ran] at exactly
      cases result with
      | error failure => exact iff_of_false nofun exactly
      | ok opened => exact iff_of_true rfl exactly

/-- The two backends agree on the success of the call. -/
def Agree (provider : Provider) (shape : ErrShape) (platform : Web.Platform) (system : System)
    (d : Web.Descriptor) (c : Core Node.NodeHandle) (request : OpenRequest) (webTree : Web.Tree)
    (files : Files) : Prop :=
  (openDescriptor provider shape (Web.openAt platform) d.core request webTree).1.isSome =
    (openDescriptor provider shape (Node.openAt system) c request files).1.isSome

theorem agree_iff {d : Web.Descriptor} {c : Core Node.NodeHandle}
    (answers : ∀ site, platform.rejects site = none)
    (accepts : ∀ path flags, system.denies path flags = none)
    (sameType : d.core.type = c.type) (sameFlags : d.core.flags = c.flags)
    (mirrors : Mirrors files.tree c.h webTree d.core.h) :
    Agree provider shape platform system d c request webTree files ↔
      ¬∃ segments, request.Passes provider shape c segments ∧
        Differs system files.tree c.h webTree d.core.h segments request.opts := by
  have honest : platform.Honest := by
    intro site
    rw [answers site]
    exact ⟨nofun, nofun⟩
  by_cases passing : ∃ segments, request.Passes provider shape c segments
  · obtain ⟨segments, passes⟩ := passing
    have passes' := (passes_congr sameType sameFlags).mpr passes
    have exactly : Ensures
        (fun _ _ => ¬Web.Openable platform webTree d.core.h request.opts segments)
        (Web.openAt platform d.core.h segments request.opts)
        (fun _ _ => Web.Openable platform webTree d.core.h request.opts segments) webTree :=
      (Web.ensures_openAt honest).mono (fun _ _ refused => refused.stuck answers)
        fun _ _ success => success.2
    have web := succeeds_iff passes' exactly
    have node := succeeds_iff passes
      (Node.ensures_openAt_openable accepts mirrors (parsePath_named passes.parsed))
    have only : (∃ own, request.Passes provider shape c own ∧
        Differs system files.tree c.h webTree d.core.h own request.opts) ↔
          Differs system files.tree c.h webTree d.core.h segments request.opts := by
      constructor
      · rintro ⟨own, passes'', differs⟩
        have same := passes.parsed.symm.trans passes''.parsed
        cases same
        exact differs
      · intro differs
        exact ⟨segments, passes, differs⟩
    rw [only, ← openable_iff answers mirrors, Agree, Bool.eq_iff_iff, web, node]
  · refine iff_of_true ?_ fun ⟨segments, passes, _⟩ => passing ⟨segments, passes⟩
    have never : ∀ segments, ¬request.Passes provider shape d.core segments :=
      fun segments passes => passing ⟨segments, (passes_congr sameType sameFlags).mp passes⟩
    rw [Agree, openDescriptor_fails never,
      openDescriptor_fails fun segments passes => passing ⟨segments, passes⟩]
    rfl

end

/-! ## The flags on both backends -/

/-- A call obeys its flags on the web exactly if it is no exclusive open of a directory that asks
for a directory, and no open of a base that is gone; on node exactly if the system does not create a
file for a directory; and over one tree the two agree exactly if no directory is to be created. -/
theorem openAt_obeys (provider : Provider) (shape : ErrShape) (request : OpenRequest) :
    (∀ (platform : Web.Platform) (d : Web.Descriptor) (tree : Web.Tree), platform.Honest →
      (Web.Obeys provider shape d request tree
          (openDescriptor provider shape (Web.openAt platform) d.core request tree) ↔
        ¬Web.Missed provider shape platform d request tree)) ∧
    (∀ (system : System) (c : Core Node.NodeHandle) (files : Files), system.Fresh files.tree →
      (Node.Obeys provider shape c request files
          (openDescriptor provider shape (Node.openAt system) c request files) ↔
        ¬Node.Missed provider shape system c request files)) ∧
    ∀ (platform : Web.Platform) (system : System) (d : Web.Descriptor) (c : Core Node.NodeHandle)
      (webTree : Web.Tree) (files : Files), (∀ site, platform.rejects site = none) →
      (∀ path flags, system.denies path flags = none) → d.core.type = c.type →
      d.core.flags = c.flags → Mirrors files.tree c.h webTree d.core.h →
      (Agree provider shape platform system d c request webTree files ↔
        ¬∃ segments, request.Passes provider shape c segments ∧
          Differs system files.tree c.h webTree d.core.h segments request.opts) :=
  ⟨fun _ _ _ honest => Web.obeys_iff honest, fun _ _ _ fresh => Node.obeys_iff fresh,
    fun _ _ _ _ _ _ answers accepts sameType sameFlags mirrors =>
      agree_iff answers accepts sameType sameFlags mirrors⟩

/-! ## An exclusive open of a directory -/

def writableProvider : Provider where
  writable := true
  isSync := false
  hasLinkAt := false
  hasSymlinkAt := false
  hasReadlinkAt := false

/-- An open of `sub` that is to create a directory exclusively. -/
def exclusiveDirectory : OpenRequest where
  pathFlags := ⟨none⟩
  path := "sub"
  openFlags := ⟨some true, some true, some true, none⟩
  flags := ⟨some true, none, none, none, none, some true⟩

def webPreopen : Web.Descriptor where
  core := ⟨Web.rootHandle, .directory, writableProvider.preopenFlags⟩
  typed := rfl

/-- The exclusive open of a directory that is there succeeds on the web. -/
theorem exclusiveDirectory_succeeds :
    ¬∀ (platform : Web.Platform) (provider : Provider) (shape : ErrShape) (d : Web.Descriptor)
      (request : OpenRequest) (tree : Web.Tree), platform.Honest →
        Web.Obeys provider shape d request tree
          (openDescriptor provider shape (Web.openAt platform) d.core request tree) := by
  intro obeys
  have here := obeys (Web.copyingPlatform none) writableProvider err02 webPreopen exclusiveDirectory
    Web.oneDirectory Web.copyingPlatform_honest
  refine (Web.obeys_iff Web.copyingPlatform_honest).mp here ⟨["sub"], rfl, ?_⟩
  rw [Web.MissedAt, dif_pos (List.cons_ne_nil _ _)]
  exact ⟨⟨rfl, trivial⟩, rfl, rfl, rfl, rfl, rfl⟩

def webFile : Web.Tree := fun locator =>
  if locator = [] then some .directory
  else if locator = ["f"] then some (.file [])
  else none

theorem mirrors_webFile : Mirrors Node.oneFile.tree Node.rootHandle webFile Web.rootHandle where
  named seg member := by
    rw [List.mem_singleton.mp member]
    exact ⟨(by decide), (by decide), (by decide)⟩
  through := ⟨⟨_, rfl, rfl⟩, trivial⟩
  inside := List.prefix_rfl
  isDirectory := ⟨_, rfl, rfl⟩
  kind := rfl
  same below := by
    by_cases atBase : below = []
    · subst atBase
      exact .directory rfl
    · by_cases file : below = ["f"]
      · subst file
        exact .file rfl
      · have node : Node.oneFile.tree (["r"] ++ below) = none := by
          simp [Node.oneFile, atBase, file]
        have web : webFile ([] ++ below) = none := by simp [webFile, atBase, file]
        exact node ▸ web ▸ .absent

theorem permissive_fresh : Node.permissive.Fresh Node.oneFile.tree := by
  intro locator inode entry same
  simp only [Node.oneFile] at entry
  split at entry
  next => cases entry; cases same
  next =>
    split at entry
    next => cases entry; cases same
    next =>
      split at entry
      next => cases entry; cases same
      next => cases entry

def nodePreopen : Core Node.NodeHandle := ⟨Node.rootHandle, .directory, writableProvider.preopenFlags⟩

theorem openAt_obeys_exclusiveDirectory :
    (Web.Obeys writableProvider err02 webPreopen exclusiveDirectory webFile
        (openDescriptor writableProvider err02 (Web.openAt (Web.copyingPlatform none)) webPreopen.core
          exclusiveDirectory webFile) ↔
      ¬Web.Missed writableProvider err02 (Web.copyingPlatform none) webPreopen exclusiveDirectory
        webFile) ∧
    (Node.Obeys writableProvider err02 nodePreopen exclusiveDirectory Node.oneFile
        (openDescriptor writableProvider err02 (Node.openAt Node.permissive) nodePreopen
          exclusiveDirectory Node.oneFile) ↔
      ¬Node.Missed writableProvider err02 Node.permissive nodePreopen exclusiveDirectory
        Node.oneFile) ∧
    (Agree writableProvider err02 (Web.copyingPlatform none) Node.permissive webPreopen nodePreopen
        exclusiveDirectory webFile Node.oneFile ↔
      ¬∃ segments, exclusiveDirectory.Passes writableProvider err02 nodePreopen segments ∧
        Differs Node.permissive Node.oneFile.tree Node.rootHandle webFile Web.rootHandle segments
          exclusiveDirectory.opts) := by
  obtain ⟨web, node, agree⟩ := openAt_obeys writableProvider err02 exclusiveDirectory
  exact ⟨web _ _ _ Web.copyingPlatform_honest, node _ _ _ permissive_fresh,
    agree _ _ _ _ _ _ (fun _ => rfl) (fun _ _ => rfl) rfl rfl mirrors_webFile⟩

end Polyengine.Wasi
