import Polyengine.Wasi.FilesystemNode
import Polyengine.Wasi.FilesystemWebOpen

/-!
# Object identity

When two descriptors that are the same object have the same metadata hash, and when the hash of a
path is the hash of the descriptor that opening the path gives: on the node backend, where the hash
is that of the inode, and on the web backend, where it is that of the guest path.
-/

set_option autoImplicit false

namespace Polyengine.Wasi

open Polyengine.Library

/-! ## The node backend -/

namespace Node

open FileTree

variable {system : System} {files after : Files} {base : NodeHandle} {segments : List String}
  {opts : OpenOptions} {h : NodeHandle} {type : DescriptorType}

/-- `metadata-hash` and `metadata-hash-at`, over the backend. -/
def metadataHash (tree : Tree) (h : NodeHandle) : Except Errno MetadataHashValue :=
  hashIdentity <$> identity tree h

def metadataHashAt (tree : Tree) (base : NodeHandle) (segments : List String) (follow : Bool) :
    Except Errno MetadataHashValue :=
  hashIdentity <$> identityAt tree base segments follow

theorem isSame_metadataHash {tree : Tree} {a b : NodeHandle} (same : isSame tree a b = .ok true) :
    ∃ hash, metadataHash tree a = .ok hash ∧ metadataHash tree b = .ok hash := by
  unfold isSame at same
  cases first : statHandle tree a with
  | error errno => rw [first] at same; cases same
  | ok sa =>
      cases second : statHandle tree b with
      | error errno => rw [first, second] at same; cases same
      | ok sb =>
          rw [first, second] at same
          have equal : (sa.dev == sb.dev && sa.ino == sb.ino) = true := Except.ok.inj same
          simp only [Bool.and_eq_true, beq_iff_eq] at equal
          have identities : inodeIdentity sb = inodeIdentity sa := by
            simp only [inodeIdentity, equal.1, equal.2]
          refine ⟨hashIdentity (inodeIdentity sa), ?_, ?_⟩
          · rw [metadataHash, identity, first]
            rfl
          · rw [metadataHash, identity, second, ← identities]
            rfl

theorem opened_metadataHashAt
    (ran : (openAt system base segments opts).outcome files = (.ok (h, type), after)) :
    ∃ hash, metadataHash after.tree h = .ok hash ∧
      (∀ hash', metadataHashAt after.tree base segments opts.follow = .ok hash' → hash' = hash) ∧
      (after.tree = files.tree →
        metadataHashAt after.tree base segments opts.follow = .ok hash) := by
  have opened : Opened system files base segments opts (h, type) after := ensures_openAt.of_ok ran
  obtain ⟨full, inode, guarded, here, held, -⟩ := opened.entry
  have found : ∀ full', guard after.tree base segments opts.follow = .ok full' →
      metadataHashAt after.tree base segments opts.follow =
        hashIdentity <$> inodeIdentity <$> statCall opts.follow after.tree full' := by
    intro full' guarded'
    rw [metadataHashAt, identityAt, guarded']
    rfl
  have same : ∀ full', guard after.tree base segments opts.follow = .ok full' → full' = full := by
    intro full' guarded'
    rw [guard_join guarded', guard_join guarded]
  refine ⟨hashIdentity (inodeIdentity inode), ?_, ?_, ?_⟩
  · rw [metadataHash, identity, held]
    rfl
  · intro hash' hashed
    cases guarded' : guard after.tree base segments opts.follow with
    | error errno =>
        rw [metadataHashAt, identityAt, guarded'] at hashed
        cases hashed
    | ok full' =>
        rw [found full' guarded', same full' guarded', here] at hashed
        cases hashed
        rfl
  · intro unchanged
    rw [found full (by rw [unchanged, guarded]), here]
    rfl

end Node

/-! ## The web backend -/

namespace Web

open Command

variable {platform : Platform} {tree after : Tree} {base h : WebHandle} {segments : List String}
  {opts : OpenOptions} {type : DescriptorType}

def metadataHash (h : WebHandle) : MetadataHashValue := hashIdentity (identity h)

def metadataHashAt (platform : Platform) (base : WebHandle) (segments : List String) :
    Call MetadataHashValue := hashIdentity <$> identityAt platform base segments

/-! ### The routes to a descriptor -/

/-- The descriptors that chains of opens give, each open over any tree and with any platform calls
failing, and the preopen that the chain starts at. -/
inductive Reached (preopens : List WebHandle) : WebHandle → WebHandle → Prop where
  | preopen {root : WebHandle} (granted : root ∈ preopens) : Reached preopens root root
  | openAt {root base h : WebHandle} {type : DescriptorType} {platform : Platform} {tree : Tree}
      {segments : List String} {opts : OpenOptions} (reached : Reached preopens root base)
      (honest : platform.Honest)
      (ran : ((openAt platform base segments opts).outcome tree).1 = .ok (h, type)) :
      Reached preopens root h

theorem Reached.granted {preopens : List WebHandle} {root h : WebHandle}
    (reached : Reached preopens root h) : root ∈ preopens := by
  induction reached with
  | preopen granted => exact granted
  | openAt _ _ _ ih => exact ih

theorem childPath_append (base : WebHandle) (route segments : List String) :
    childPath ⟨base.handle, childPath base route⟩ segments = childPath base (route ++ segments) := by
  by_cases atBase : segments = []
  · simp [childPath, atBase]
  · by_cases direct : route = []
    · simp [childPath, direct]
    · have both : route ++ segments ≠ [] := fun empty => direct (List.append_eq_nil_iff.mp empty).1
      simp only [childPath, if_neg atBase, if_neg direct, if_neg both, String.append_assoc,
        String.intercalate_append_of_ne_nil direct atBase]

theorem Reached.route {preopens : List WebHandle} {root h : WebHandle}
    (reached : Reached preopens root h) :
    ∃ route, h.handle.locator = root.handle.locator ++ route ∧ h.path = childPath root route := by
  induction reached with
  | preopen granted => exact ⟨[], (List.append_nil _).symm, rfl⟩
  | @openAt base h type platform tree segments opts reached honest ran ih =>
      obtain ⟨route, located, named⟩ := ih
      have success := (ensures_openAt honest).of_ok (Prod.ext ran rfl)
      obtain ⟨path, locator⟩ := success.1.leads
      refine ⟨route ++ segments, ?_, ?_⟩
      · rw [locator, located, List.append_assoc]
      · rw [path, ← childPath_append, ← named]
        rfl

/-- No preopen is on the directory of another one or below it. -/
def Disjoint (preopens : List WebHandle) : Prop :=
  ∀ first ∈ preopens, ∀ second ∈ preopens,
    first.handle.locator <+: second.handle.locator → first = second

theorem isSame_metadataHash {preopens : List WebHandle} (disjoint : Disjoint preopens)
    {first second a b : WebHandle} (reached : Reached preopens first a)
    (reached' : Reached preopens second b) (same : isSame a b = true) :
    metadataHash a = metadataHash b := by
  obtain ⟨route, located, named⟩ := reached.route
  obtain ⟨route', located', named'⟩ := reached'.route
  have handles : a.handle = b.handle := by
    simpa only [isSame, OpfsHandle.isSameEntry, beq_iff_eq] using same
  have meet : first.handle.locator ++ route = second.handle.locator ++ route' := by
    rw [← located, ← located', handles]
  have roots : first = second := by
    cases List.prefix_or_prefix_of_prefix (List.prefix_append first.handle.locator route)
        (meet ▸ List.prefix_append second.handle.locator route') with
    | inl below => exact disjoint first reached.granted second reached'.granted below
    | inr above => exact (disjoint second reached'.granted first reached.granted above).symm
  subst roots
  have routes : route = route' := List.append_cancel_left meet
  rw [metadataHash, metadataHash, identity, identity, named, named', routes]

/-! ### The hash of a path -/

theorem metadataHashAt_any {hash : MetadataHashValue} {tree : Tree}
    (ran : ((metadataHashAt platform base segments).outcome tree).1 = .ok hash) :
    hash = hashIdentity (pathIdentity (childPath base segments)) := by
  have hashed : Ensures (fun _ _ => True) (metadataHashAt platform base segments)
      (fun hash _ => hash = hashIdentity (pathIdentity (childPath base segments))) tree := by
    simp only [metadataHashAt, identityAt, ensures_map, ensures_bind, ensures_pure]
    unfold Ensures
    split <;> trivial
  exact hashed.of_ok (Prod.ext ran rfl)

theorem walks_mono {other : Tree}
    (kept : ∀ locator, tree locator = some .directory → other locator = some .directory)
    {walk : Walk} {index : Nat} {segments : List String} {dir : Locator}
    (walks : Walks platform tree walk index segments dir) :
    Walks platform other walk index segments dir := by
  induction segments generalizing index dir with
  | nil => trivial
  | cons seg segments ih => exact ⟨walks.1, kept _ walks.2.1, ih walks.2.2⟩

theorem resolve_accepted (accepts : ∀ site, platform.rejects site = none) {final : FinalSegments}
    (parents : Parents platform tree .first base final)
    (here : tree (locatorOf base final) ≠ none) :
    Ensures (fun _ _ => False) (resolveFinal platform base final) (fun _ _ => True) tree := by
  simp only [resolveFinal, ensures_bind, ensures_tryCatch]
  refine ensures_parentOf (fun _ => ?_) fun stops => absurd parents stops
  simp only [Platform.getFileHandle, Platform.answer, accepts, ensures_bind, ensures_pure,
    ensures_get]
  cases entry : tree (parentLocator base final ++ [final.name]) with
  | none => exact absurd entry here
  | some own =>
      cases own with
      | file content => trivial
      | directory =>
          simp only [ensures_throw, if_true]
          exact ensures_getDirectoryHandle (fun _ _ => trivial) fun missing =>
            absurd ⟨accepts _, entry⟩ missing

theorem opened_metadataHashAt (honest : platform.Honest)
    (ran : (openAt platform base segments opts).outcome tree = (.ok (h, type), after)) :
    (∀ (platform' : Platform) (tree' : Tree) (hash : MetadataHashValue),
      ((metadataHashAt platform' base segments).outcome tree').1 = .ok hash →
        hash = metadataHash h) ∧
      ((∀ site, platform.rejects site = none) →
        ((metadataHashAt platform base segments).outcome after).1 = .ok (metadataHash h)) := by
  obtain ⟨success, openable⟩ := (ensures_openAt honest).of_ok ran
  have named : metadataHash h = hashIdentity (pathIdentity (childPath base segments)) := by
    rw [metadataHash, identity, success.leads.1]
  constructor
  · intro platform' tree' hash hashed
    rw [named, metadataHashAt_any hashed]
  · intro accepts
    have resolves : Ensures (fun _ _ => False) (metadataHashAt platform base segments)
        (fun hash _ => hash = metadataHash h) after := by
      simp only [metadataHashAt, identityAt, ensures_map, ensures_bind, ensures_pure, resolve]
      split
      next nonempty =>
        obtain ⟨entry, kept⟩ := success.entry nonempty
        have parents : Parents platform tree .first base ⟨segments, nonempty⟩ := by
          rw [Openable, dif_pos nonempty] at openable
          exact openable.1
        have present : after (locatorOf base ⟨segments, nonempty⟩) ≠ none := by
          rcases entry with ⟨-, here⟩ | ⟨-, content, here⟩
          · rw [here]
            exact Option.some_ne_none _
          · rw [here]
            exact Option.some_ne_none _
        apply (resolve_accepted accepts ⟨parents.1, walks_mono kept parents.2⟩ present).imp
        intro _ _ _
        exact named.symm
      next atBase => exact named.symm
    obtain ⟨hash, next, outcome, same⟩ := resolves.exists_ok
    rw [outcome, same]

end Web

/-! ## Both backends -/

/-- On node, what is the same object has one hash, and a path has the hash of the descriptor that
opening it gives; on the web this is so for the guest paths, and for the objects where preopens do
not overlap. -/
theorem identity_consistent :
    (∀ (tree : FileTree.Tree) (a b : Node.NodeHandle), Node.isSame tree a b = .ok true →
        ∃ hash, Node.metadataHash tree a = .ok hash ∧ Node.metadataHash tree b = .ok hash) ∧
      (∀ (system : FileTree.System) (files after : FileTree.Files) (base h : Node.NodeHandle)
          (segments : List String) (opts : OpenOptions) (type : DescriptorType),
        (Node.openAt system base segments opts).outcome files = (.ok (h, type), after) →
          ∃ hash, Node.metadataHash after.tree h = .ok hash ∧
            (∀ hash', Node.metadataHashAt after.tree base segments opts.follow = .ok hash' →
              hash' = hash) ∧
            (after.tree = files.tree →
              Node.metadataHashAt after.tree base segments opts.follow = .ok hash)) ∧
      (∀ (preopens : List Web.WebHandle) (first second a b : Web.WebHandle),
        Web.Disjoint preopens → Web.Reached preopens first a → Web.Reached preopens second b →
          Web.isSame a b = true → Web.metadataHash a = Web.metadataHash b) ∧
      ∀ (platform : Web.Platform) (tree after : Web.Tree) (base h : Web.WebHandle)
          (segments : List String) (opts : OpenOptions) (type : DescriptorType),
        platform.Honest →
        (Web.openAt platform base segments opts).outcome tree = (.ok (h, type), after) →
          (∀ (platform' : Web.Platform) (tree' : Web.Tree) (hash : MetadataHashValue),
            ((Web.metadataHashAt platform' base segments).outcome tree').1 = .ok hash →
              hash = Web.metadataHash h) ∧
            ((∀ site, platform.rejects site = none) →
              ((Web.metadataHashAt platform base segments).outcome after).1 =
                .ok (Web.metadataHash h)) :=
  ⟨fun _ _ _ same => Node.isSame_metadataHash same,
    fun _ _ _ _ _ _ _ _ ran => Node.opened_metadataHashAt ran,
    fun _ _ _ _ _ disjoint reached reached' same =>
      Web.isSame_metadataHash disjoint reached reached' same,
    fun _ _ _ _ _ _ _ _ honest ran => Web.opened_metadataHashAt honest ran⟩

/-! ## Preopens that overlap -/

/-- An open that asks for nothing but to read. -/
def plainOpen : OpenOptions where
  follow := false
  create := false
  directory := false
  exclusive := false
  truncate := false
  read := true
  write := false

namespace Web

/-- The root with one directory. -/
def oneDirectory : Tree :=
  Function.update (Function.update (fun _ => none) [] (some .directory)) ["sub"] (some .directory)

def subHandle : WebHandle := ⟨⟨.directory, ["sub"]⟩, "/sub"⟩

theorem copyingPlatform_honest : (copyingPlatform none).Honest := by
  intro site
  simp [copyingPlatform]

theorem reached_sub (preopens : List WebHandle) (granted : rootHandle ∈ preopens) :
    Reached preopens rootHandle ⟨⟨.directory, ["sub"]⟩, "//sub"⟩ :=
  .openAt (.preopen granted) copyingPlatform_honest
    (show ((openAt (copyingPlatform none) rootHandle ["sub"] plainOpen).outcome oneDirectory).1 =
      .ok (_, .directory) from rfl)

/-- A directory that is a preopen, and is opened below another preopen as well. -/
theorem overlapping_preopens :
    ¬∀ (preopens : List WebHandle) (first second a b : WebHandle), Reached preopens first a →
      Reached preopens second b → isSame a b = true → metadataHash a = metadataHash b := by
  intro consistent
  have same := consistent [rootHandle, subHandle] rootHandle subHandle _ subHandle
    (reached_sub _ List.mem_cons_self) (.preopen (List.mem_cons_of_mem _ List.mem_cons_self)) rfl
  revert same
  decide

end Web

namespace Node

open FileTree

def oneFile : Files where
  tree locator :=
    if locator = [] then some ⟨1, 1, .directory⟩
    else if locator = ["r"] then some ⟨1, 2, .directory⟩
    else if locator = ["r", "f"] then some ⟨1, 3, .file⟩
    else none
  content _ := []

def permissive : System where
  denies _ _ := none
  next := (1, 4)
  createDirectory := .refuses

def rootHandle : NodeHandle := ⟨["r"], ["r"], .directory, none⟩

def fileHandle : NodeHandle := ⟨["r", "f"], ["r"], .regularFile, some ⟨1, 3, .file⟩⟩

end Node

theorem identity_consistent_plainOpen :
    (∃ hash, Node.metadataHash Node.oneFile.tree Node.fileHandle = .ok hash ∧
        Node.metadataHash Node.oneFile.tree Node.fileHandle = .ok hash) ∧
      (∃ hash, Node.metadataHash Node.oneFile.tree Node.fileHandle = .ok hash ∧
        (∀ hash', Node.metadataHashAt Node.oneFile.tree Node.rootHandle ["f"] false = .ok hash' →
          hash' = hash) ∧
        (Node.oneFile.tree = Node.oneFile.tree →
          Node.metadataHashAt Node.oneFile.tree Node.rootHandle ["f"] false = .ok hash)) ∧
      Web.metadataHash ⟨⟨.directory, ["sub"]⟩, "//sub"⟩ =
        Web.metadataHash ⟨⟨.directory, ["sub"]⟩, "//sub"⟩ ∧
      ((Web.metadataHashAt (Web.copyingPlatform none) Web.rootHandle ["sub"]).outcome
        Web.oneDirectory).1 = .ok (Web.metadataHash ⟨⟨.directory, ["sub"]⟩, "//sub"⟩) := by
  obtain ⟨nodeSame, nodeAt, webSame, webAt⟩ := identity_consistent
  have opened := nodeAt Node.permissive Node.oneFile Node.oneFile Node.rootHandle Node.fileHandle
    ["f"] plainOpen .regularFile rfl
  have disjoint : Web.Disjoint [Web.rootHandle] := by
    intro first here second there _
    rw [List.mem_singleton.mp here, List.mem_singleton.mp there]
  have reached := Web.reached_sub [Web.rootHandle] List.mem_cons_self
  have hashed := webAt (Web.copyingPlatform none) Web.oneDirectory Web.oneDirectory Web.rootHandle
    ⟨⟨.directory, ["sub"]⟩, "//sub"⟩ ["sub"] plainOpen .directory Web.copyingPlatform_honest rfl
  exact ⟨nodeSame _ _ _ rfl, opened, webSame _ _ _ _ _ disjoint reached reached rfl,
    hashed.2 (fun _ => rfl)⟩

end Polyengine.Wasi
