import Mathlib.Data.List.Induction
import Polyengine.Wasi.FilesystemWeb

/-!
# What the web backend loses

When a rename, a write or an append that fails has left the tree alone, and when a rename that
succeeds has kept the content: told from the tree and from the calls that the platform rejects.
-/

set_option autoImplicit false

namespace Polyengine.Wasi.Web

open Polyengine.Library Command

variable {platform : Platform} {tree : Tree} {raised : Failure → Tree → Prop}

/-! ## The calls of the platform -/

theorem ensures_answer {site : Site} {post : Unit → Tree → Prop}
    (answered : platform.rejects site = none → post () tree)
    (rejected : platform.rejects site ≠ none → ∀ failure, raised failure tree) :
    Ensures raised (platform.answer site) post tree := by
  rw [Platform.answer]
  cases rejects : platform.rejects site with
  | none => exact answered rejects
  | some failure => exact rejected (by rw [rejects]; nofun) failure

theorem ensures_getDirectoryHandle {site : Site} {dir : Locator} {name : String}
    {post : OpfsHandle → Tree → Prop}
    (found : platform.rejects site = none → tree (dir ++ [name]) = some .directory →
      post ⟨.directory, dir ++ [name]⟩ tree)
    (missing : ¬(platform.rejects site = none ∧ tree (dir ++ [name]) = some .directory) →
      ∀ failure, raised failure tree) :
    Ensures raised (platform.getDirectoryHandle site dir name false) post tree := by
  simp only [Platform.getDirectoryHandle, ensures_bind]
  refine ensures_answer (fun answered => ?_) fun rejected => missing fun both => rejected both.1
  simp only [ensures_get]
  cases here : tree (dir ++ [name]) with
  | none => exact missing (by simp [here]) _
  | some entry =>
      cases entry with
      | file content => exact missing (by simp [here]) _
      | directory => exact found answered here

def Walks (platform : Platform) (tree : Tree) (walk : Walk) : Nat → List String → Locator → Prop
  | _, [], _ => True
  | index, seg :: segments, dir =>
      platform.rejects (.walk walk index) = none ∧ tree (dir ++ [seg]) = some .directory ∧
        Walks platform tree walk (index + 1) segments (dir ++ [seg])

theorem ensures_walkFrom {walk : Walk} {index : Nat} {segments : List String} {dir : Locator}
    {post : Locator → Tree → Prop}
    (found : Walks platform tree walk index segments dir → post (dir ++ segments) tree)
    (missing : ¬Walks platform tree walk index segments dir → ∀ failure, raised failure tree) :
    Ensures raised (walkFrom platform walk index segments dir) post tree := by
  induction segments generalizing index dir with
  | nil => simpa [walkFrom] using found trivial
  | cons seg segments ih =>
      simp only [walkFrom, ensures_bind]
      refine ensures_getDirectoryHandle (fun answered here => ?_) fun absent =>
        missing fun walks => absent ⟨walks.1, walks.2.1⟩
      refine ih (fun walks => ?_) fun stops => missing fun walks => stops walks.2.2
      have done := found ⟨answered, here, walks⟩
      rwa [List.append_cons] at done

def Parents (platform : Platform) (tree : Tree) (walk : Walk) (base : WebHandle)
    (segments : FinalSegments) : Prop :=
  base.handle.kind = .directory ∧
    Walks platform tree walk 0 segments.parents base.handle.locator

def parentLocator (base : WebHandle) (segments : FinalSegments) : Locator :=
  base.handle.locator ++ segments.parents

/-- Where a path leads. -/
def locatorOf (base : WebHandle) (segments : FinalSegments) : Locator :=
  parentLocator base segments ++ [segments.name]

theorem ensures_parentOf {walk : Walk} {base : WebHandle} {segments : FinalSegments}
    {post : Locator → Tree → Prop}
    (found : Parents platform tree walk base segments → post (parentLocator base segments) tree)
    (missing : ¬Parents platform tree walk base segments → ∀ failure, raised failure tree) :
    Ensures raised (parentOf platform walk base segments) post tree := by
  simp only [parentOf, Web.walk, requireDir, ensures_bind]
  cases kind : base.handle.kind with
  | file => exact missing (by simp [Parents, kind]) _
  | directory =>
      exact ensures_walkFrom (fun walks => found ⟨kind, walks⟩) fun stops =>
        missing fun parents => stops parents.2

/-- The path leads to a file, and no call on the way is rejected. -/
def Resolves (platform : Platform) (tree : Tree) (base : WebHandle) (segments : FinalSegments)
    (content : List UInt8) : Prop :=
  Parents platform tree .first base segments ∧ platform.rejects .getFileHandle = none ∧
    tree (locatorOf base segments) = some (.file content)

theorem ensures_resolveFinal {base : WebHandle} {segments : FinalSegments}
    {post : OpfsHandle → Tree → Prop}
    (file : ∀ content, Resolves platform tree base segments content →
      post ⟨.file, locatorOf base segments⟩ tree)
    (directory : tree (locatorOf base segments) = some .directory →
      post ⟨.directory, locatorOf base segments⟩ tree)
    (missing : (∀ content, ¬Resolves platform tree base segments content) →
      ∀ failure, raised failure tree) :
    Ensures raised (resolveFinal platform base segments) post tree := by
  simp only [resolveFinal, ensures_bind, ensures_tryCatch]
  refine ensures_parentOf (fun parents => ?_) fun stops => missing fun _ found => stops found.1
  have handled : (∀ content, ¬Resolves platform tree base segments content) → ∀ failure,
      Ensures raised (if failure = TypeMismatchError then
        platform.getDirectoryHandle .getDirectoryHandle (parentLocator base segments)
          segments.name false
        else throw failure) post tree := by
    intro absent failure
    rw [ensures_ite]
    constructor
    · intro _
      exact ensures_getDirectoryHandle (fun _ here => directory here) fun _ => missing absent
    · intro _
      exact missing absent failure
  simp only [Platform.getFileHandle, ensures_bind]
  refine ensures_answer (fun answered => ?_) fun rejected =>
    handled fun _ found => rejected found.2.1
  simp only [ensures_get]
  cases here : tree (locatorOf base segments) with
  | none =>
      have absent : ∀ content, ¬Resolves platform tree base segments content := by
        intro content found
        cases here.symm.trans found.2.2
      simp only [show tree (parentLocator base segments ++ [segments.name]) = none from here,
        Bool.false_eq_true, false_and, if_false, ensures_throw]
      exact handled absent _
  | some entry =>
      simp only [show tree (parentLocator base segments ++ [segments.name]) = some entry from here]
      cases entry with
      | file content => exact file content ⟨parents, answered, here⟩
      | directory =>
          refine handled (fun content found => ?_) _
          cases here.symm.trans found.2.2

theorem ensures_getFile {file : Locator} {post : List UInt8 → Tree → Prop}
    (found : ∀ content, platform.rejects .getFile = none → tree file = some (.file content) →
      post content tree)
    (missing : (∀ content, ¬(platform.rejects .getFile = none ∧
      tree file = some (.file content))) → ∀ failure, raised failure tree) :
    Ensures raised (platform.getFile file) post tree := by
  simp only [Platform.getFile, ensures_bind]
  refine ensures_answer (fun answered => ?_) fun rejected =>
    missing fun _ both => rejected both.1
  simp only [ensures_get]
  cases here : tree file with
  | none => exact missing (fun content both => absurd (here.symm.trans both.2) (by simp)) _
  | some entry =>
      cases entry with
      | file content => exact found content answered here
      | directory => exact missing (fun content both => absurd (here.symm.trans both.2) (by simp)) _

/-- The file can be created, or is there. -/
def Creatable (platform : Platform) (tree : Tree) (parent : Locator) (name : String) : Prop :=
  platform.rejects .create = none ∧ tree (parent ++ [name]) ≠ some .directory ∧
    (tree (parent ++ [name]) = none → tree parent = some .directory)

theorem ensures_create {parent : Locator} {name : String} {post : OpfsHandle → Tree → Prop}
    (found : Creatable platform tree parent name → ∀ content,
      tree (parent ++ [name]) = some (.file content) → post ⟨.file, parent ++ [name]⟩ tree)
    (created : Creatable platform tree parent name → tree (parent ++ [name]) = none →
      post ⟨.file, parent ++ [name]⟩
        (Function.update tree (parent ++ [name]) (some (.file []))))
    (missing : ¬Creatable platform tree parent name → ∀ failure, raised failure tree) :
    Ensures raised (platform.getFileHandle .create parent name true) post tree := by
  simp only [Platform.getFileHandle, ensures_bind]
  refine ensures_answer (fun answered => ?_) fun rejected =>
    missing fun creatable => rejected creatable.1
  simp only [ensures_get]
  cases here : tree (parent ++ [name]) with
  | none =>
      simp only [true_and, ensures_ite, ensures_bind, ensures_set, ensures_pure, ensures_throw]
      constructor
      · intro below
        have creatable : Creatable platform tree parent name :=
          ⟨answered, by simp [here], fun _ => below⟩
        exact created creatable here
      · intro outside
        exact missing (fun creatable => outside (creatable.2.2 here)) _
  | some entry =>
      cases entry with
      | file content =>
          have creatable : Creatable platform tree parent name :=
            ⟨answered, by simp [here], fun absent => absurd (here.symm.trans absent) (by simp)⟩
          exact found creatable content here
      | directory => exact missing (fun creatable => creatable.2.1 here) _

/-! ## Committing to a file -/

/-- What a file holds once the platform has committed a write to a writable that starts with the
content, and nothing when no commit reaches the file. -/
def Platform.committed (platform : Platform) (content : List UInt8) (position : Nat)
    (data : List UInt8) : Option (List UInt8) :=
  match platform.rejects .createWritable, platform.rejects .close with
  | none, none => (platform.write content position data).1
  | _, _ => none

theorem committed_written {content data bytes : List UInt8} {position : Nat}
    (committed : platform.committed content position data = some bytes)
    (written : platform.rejects .write = none) :
    bytes = Platform.splice content position data := by
  unfold Platform.committed at committed
  cases opened : platform.rejects .createWritable with
  | some failure => simp [opened] at committed
  | none =>
      cases closed : platform.rejects .close with
      | some failure => simp [opened, closed] at committed
      | none =>
          simp only [opened, closed, Platform.write, written, Option.some.injEq] at committed
          exact committed.symm

def Tree.put (tree : Tree) (file : Locator) (content : List UInt8) : Tree :=
  Function.update tree file (some (.file content))

theorem ensures_commit {file : Locator} {keep : Bool} {old data : List UInt8} {position : Nat}
    {post : Unit → Tree → Prop} (here : tree file = some (.file old))
    (written : ∀ bytes,
      platform.committed (if keep = true then old else []) position data = some bytes →
      platform.rejects .write = none → post () (tree.put file bytes))
    (thrown : ∀ bytes,
      platform.committed (if keep = true then old else []) position data = some bytes →
      platform.rejects .write ≠ none → ∀ failure, raised failure (tree.put file bytes))
    (unreached : platform.committed (if keep = true then old else []) position data = none →
      ∀ failure, raised failure tree) :
    Ensures raised (platform.createWritable file keep)
      (fun start next => Ensures raised (commit platform file start position data) post next)
      tree := by
  simp only [Platform.createWritable, ensures_bind]
  refine ensures_answer (fun opened => ?_) fun rejected => unreached ?_
  · simp only [ensures_get, here, ensures_pure, commit, ensures_bind]
    generalize startsWith : (if keep = true then old else []) = start at *
    simp only [Platform.committed, opened] at written thrown unreached
    cases holds : (platform.write start position data).1 with
    | none =>
        simp only [Platform.close]
        refine unreached ?_ _
        cases closed : platform.rejects .close with
        | none => exact holds
        | some failure => rfl
    | some bytes =>
        simp only [Platform.close, ensures_bind]
        refine ensures_answer (fun closed => ?_) fun rejected => unreached ?_
        · simp only [closed] at written thrown
          simp only [ensures_modify]
          cases failed : platform.rejects .write with
          | none =>
              have noneThrown : (platform.write start position data).2 = none := by
                simp [Platform.write, failed]
              simp only [noneThrown, ensures_pure]
              exact written bytes holds failed
          | some failure =>
              have isThrown : (platform.write start position data).2 = some failure := by
                simp [Platform.write, failed]
              have failing : platform.rejects .write ≠ none := by simp [failed]
              simp only [isThrown, ensures_throw]
              exact thrown bytes holds failing failure
        · cases closed : platform.rejects .close with
          | none => exact absurd closed rejected
          | some failure => rfl
  · unfold Platform.committed
    cases opened : platform.rejects .createWritable with
    | none => exact absurd opened rejected
    | some failure => rfl

/-! ## Trees -/

theorem Tree.WellFormed.below (wellFormed : tree.WellFormed) {locator below : Locator}
    (leaf : tree locator ≠ some .directory) (nonempty : below ≠ []) :
    tree (locator ++ below) = none := by
  induction below using List.reverseRecOn with
  | nil => exact absurd rfl nonempty
  | append_singleton above name ih =>
      by_contra present
      rw [← List.append_assoc] at present
      have parent := wellFormed (locator ++ above) name present
      cases above with
      | nil => exact leaf (by simpa using parent)
      | cons first rest =>
          rw [ih (List.cons_ne_nil first rest)] at parent
          exact absurd parent nofun

/-- An entry, with what is below it, has moved, and replaces what was there. -/
structure Moved (before after : Tree) (source dest : Locator) : Prop where
  arrived : ∀ below, after (dest ++ below) = before (source ++ below)
  gone : ∀ below, ¬dest <+: source ++ below → after (source ++ below) = none
  others : ∀ locator, ¬dest <+: locator → ¬source <+: locator → after locator = before locator

theorem relocate_moved (tree : Tree) (source dest : Locator) :
    Moved tree (Platform.relocate tree source dest) source dest where
  arrived below := by
    rw [Platform.relocate, if_pos (List.prefix_append dest below), List.drop_left]
  gone below apart := by
    rw [Platform.relocate, if_neg apart, if_pos (List.prefix_append source below)]
  others locator apart away := by
    rw [Platform.relocate, if_neg apart, if_neg away]

theorem copied_moved (wellFormed : tree.WellFormed) {source dest : Locator} {content : List UInt8}
    (here : tree source = some (.file content)) (free : tree dest ≠ some .directory)
    (apart : source ≠ dest) :
    Moved tree (Function.update (tree.put dest content) source none) source dest where
  arrived below := by
    cases below with
    | nil =>
        rw [List.append_nil, List.append_nil, Function.update_of_ne apart.symm, Tree.put,
          Function.update_self, here]
    | cons first rest =>
        have nothing : tree (dest ++ first :: rest) = none :=
          wellFormed.below free (List.cons_ne_nil first rest)
        have elsewhere : dest ++ first :: rest ≠ source := by
          intro same
          rw [same, here] at nothing
          exact absurd nothing nofun
        have leaf : tree source ≠ some .directory := by rw [here]; nofun
        rw [Function.update_of_ne elsewhere, Tree.put, Function.update_of_ne (by simp), nothing,
          wellFormed.below leaf (List.cons_ne_nil first rest)]
  gone below away := by
    cases below with
    | nil => rw [List.append_nil, Function.update_self]
    | cons first rest =>
        have leaf : tree source ≠ some .directory := by rw [here]; nofun
        have elsewhere : source ++ first :: rest ≠ dest := by
          intro same
          exact away (same ▸ List.prefix_rfl)
        rw [Function.update_of_ne (by simp), Tree.put, Function.update_of_ne elsewhere,
          wellFormed.below leaf (List.cons_ne_nil first rest)]
  others locator away awayToo := by
    have notSource : locator ≠ source := fun same => awayToo (same ▸ List.prefix_rfl)
    have notDest : locator ≠ dest := fun same => away (same ▸ List.prefix_rfl)
    rw [Function.update_of_ne notSource, Tree.put, Function.update_of_ne notDest]

theorem walks_congr {other : Tree}
    (same : ∀ locator, tree locator = some .directory ↔ other locator = some .directory)
    (walk : Walk) (index : Nat) (segments : List String) (dir : Locator) :
    Walks platform tree walk index segments dir ↔ Walks platform other walk index segments dir := by
  induction segments generalizing index dir with
  | nil => rfl
  | cons seg segments ih => simp only [Walks, same (dir ++ [seg]), ih]

theorem put_directory {dest : Locator} (free : tree dest ≠ some .directory)
    (content : List UInt8) (locator : Locator) :
    tree.put dest content locator = some .directory ↔ tree locator = some .directory := by
  by_cases same : locator = dest
  · subst same
    simp [Tree.put, free]
  · rw [Tree.put, Function.update_of_ne same]

theorem put_eq_iff {file : Locator} {content : List UInt8} :
    tree.put file content = tree ↔ tree file = some (.file content) := by
  rw [Tree.put, Function.update_eq_self_iff, eq_comm]

/-! ## What an operation does to the tree -/

/-- The operations that write or move content. -/
inductive Operation where
  | renameAt (oldBase : WebHandle) (oldSegments : FinalSegments) (newBase : WebHandle)
      (newSegments : FinalSegments)
  | write (h : WebHandle) (buffer : List UInt8) (offset : Nat)
  | append (h : WebHandle) (buffer : List UInt8)

def Operation.run (platform : Platform) : Operation → Call Unit
  | .renameAt oldBase oldSegments newBase newSegments =>
      Web.renameAt platform oldBase oldSegments newBase newSegments
  | .write h buffer offset => Web.write platform h buffer offset *> pure ()
  | .append h buffer => Web.append platform h buffer *> pure ()

/-- The file of the handle holds the data at the position, and nothing else changes. -/
def Wrote (h : WebHandle) (data : List UInt8) (position : List UInt8 → Nat) (before after : Tree) :
    Prop :=
  ∃ content, before h.handle.locator = some (.file content) ∧
    after = before.put h.handle.locator (Platform.splice content (position content) data)

/-- What an operation that succeeds is to do. -/
def Operation.Done (before after : Tree) : Operation → Prop
  | .renameAt oldBase oldSegments newBase newSegments =>
      if locatorOf oldBase oldSegments = locatorOf newBase newSegments then after = before
      else Moved before after (locatorOf oldBase oldSegments) (locatorOf newBase newSegments)
  | .write h buffer offset => Wrote h buffer (fun _ => offset) before after
  | .append h buffer => Wrote h buffer List.length before after

/-- No data is lost: a success does what it reports, a failure changes nothing. -/
def Operation.Kept (operation : Operation) (before : Tree) :
    Except Failure Unit × Tree → Prop
  | (.ok (), after) => operation.Done before after
  | (.error _, after) => after = before

/-! ## When no data is lost -/

/-- The rename copies: handles do not move, the source is a file that can be read, and the
destination can be created or is a file. -/
structure Copies (platform : Platform) (tree : Tree) (oldBase : WebHandle)
    (oldSegments : FinalSegments) (newBase : WebHandle) (newSegments : FinalSegments)
    (content : List UInt8) : Prop where
  moveless : platform.moves = false
  source : Resolves platform tree oldBase oldSegments content
  parent : Parents platform tree .second newBase newSegments
  read : platform.rejects .getFile = none ∧ platform.rejects .arrayBuffer = none
  dest : Creatable platform tree (parentLocator newBase newSegments) newSegments.name

/-- Nothing fails between the copy and the end. -/
def Finishes (platform : Platform) (tree : Tree) (oldBase : WebHandle)
    (oldSegments : FinalSegments) : Prop :=
  platform.rejects .write = none ∧ Parents platform tree .again oldBase oldSegments ∧
    platform.rejects .removeEntry = none

/-- A copy that never reaches the destination needs one that was there already; a copy that reaches
it and then fails needs one that held the same already; and a copy that finishes needs another entry
than the source. -/
def CopySafe (platform : Platform) (tree : Tree) (oldBase : WebHandle)
    (oldSegments : FinalSegments) (newBase : WebHandle) (newSegments : FinalSegments)
    (content : List UInt8) : Prop :=
  match platform.committed [] 0 content with
  | none => tree (locatorOf newBase newSegments) ≠ none
  | some bytes =>
      (Finishes platform tree oldBase oldSegments →
        locatorOf oldBase oldSegments ≠ locatorOf newBase newSegments) ∧
      (¬Finishes platform tree oldBase oldSegments →
        tree (locatorOf newBase newSegments) = some (.file bytes))

/-- A write that fails and reaches the file all the same leaves what the file held. -/
def WriteSafe (platform : Platform) (tree : Tree) (h : WebHandle) (data : List UInt8)
    (position : List UInt8 → Nat) : Prop :=
  ∀ content bytes, h.handle.kind = .file → tree h.handle.locator = some (.file content) →
    platform.rejects .write ≠ none →
    platform.committed content (position content) data = some bytes → bytes = content

def Operation.Safe (platform : Platform) (tree : Tree) : Operation → Prop
  | .renameAt oldBase oldSegments newBase newSegments =>
      ∀ content, Copies platform tree oldBase oldSegments newBase newSegments content →
        CopySafe platform tree oldBase oldSegments newBase newSegments content
  | .write h buffer offset => WriteSafe platform tree h buffer fun _ => offset
  | .append h buffer =>
      platform.rejects .getFile = none → WriteSafe platform tree h buffer List.length

/-! ## What is left when data is lost -/

/-- What a failed rename leaves: nothing has changed, or the destination is a new empty file, or
holds what the platform has committed of the copy. No other entry has changed. -/
def CopyLeft (platform : Platform) (before : Tree) (dest : Locator) (content : List UInt8)
    (after : Tree) : Prop :=
  after = before ∨ before dest = none ∧ after = before.put dest [] ∨
    ∃ bytes, platform.committed [] 0 content = some bytes ∧ after = before.put dest bytes

/-- What a failed write leaves: nothing has changed, or the file holds what the platform has
committed of the write. No other entry has changed. -/
def WriteLeft (platform : Platform) (before : Tree) (h : WebHandle) (data : List UInt8)
    (position : List UInt8 → Nat) (after : Tree) : Prop :=
  after = before ∨ ∃ content bytes, before h.handle.locator = some (.file content) ∧
    platform.rejects .write ≠ none ∧
    platform.committed content (position content) data = some bytes ∧
    after = before.put h.handle.locator bytes

def Operation.Left (platform : Platform) (before after : Tree) : Operation → Prop
  | .renameAt oldBase oldSegments newBase newSegments =>
      after = before ∨
        ∃ content, Copies platform before oldBase oldSegments newBase newSegments content ∧
          CopyLeft platform before (locatorOf newBase newSegments) content after
  | .write h buffer offset => WriteLeft platform before h buffer (fun _ => offset) after
  | .append h buffer => WriteLeft platform before h buffer List.length after

/-- The platform moves, or what is renamed gets another place. -/
def Operation.Apart (platform : Platform) : Operation → Prop
  | .renameAt oldBase oldSegments newBase newSegments =>
      platform.moves = true ∨ locatorOf oldBase oldSegments ≠ locatorOf newBase newSegments
  | .write .. => True
  | .append .. => True

/-- A success does what it reports, and a failure leaves what it may. -/
def Operation.Ends (operation : Operation) (platform : Platform) (before : Tree) :
    Except Failure Unit × Tree → Prop
  | (.ok (), after) => operation.Apart platform → operation.Done before after
  | (.error _, after) => operation.Left platform before after

/-- The command ends as it may, and keeps the data exactly if it is safe. -/
abbrev KeepsIff (platform : Platform) (operation : Operation) (tree : Tree) (safe : Prop)
    (command : Call Unit) (reached : Tree) : Prop :=
  Ensures (fun _ after => (after = tree ↔ safe) ∧ operation.Left platform tree after) command
    (fun _ after => (operation.Done tree after ↔ safe) ∧
      (operation.Apart platform → operation.Done tree after)) reached

theorem KeepsIff.kept {operation : Operation} {command : Call Unit} {safe : Prop}
    (keepsIff : KeepsIff platform operation tree safe command tree) :
    operation.Kept tree (command.outcome tree) ↔ safe := by
  unfold KeepsIff Ensures at keepsIff
  cases ran : command.outcome tree with
  | mk result after =>
      rw [ran] at keepsIff
      cases result <;> exact keepsIff.1

theorem KeepsIff.ends {operation : Operation} {command : Call Unit} {safe : Prop}
    (keepsIff : KeepsIff platform operation tree safe command tree) :
    operation.Ends platform tree (command.outcome tree) := by
  unfold KeepsIff Ensures at keepsIff
  cases ran : command.outcome tree with
  | mk result after =>
      rw [ran] at keepsIff
      cases result <;> exact keepsIff.2

section

variable {h : WebHandle} {data : List UInt8}

theorem ensures_requireFile {post : Locator → Tree → Prop}
    (file : h.handle.kind = .file → post h.handle.locator tree)
    (directory : h.handle.kind = .directory → ∀ failure, raised failure tree) :
    Ensures raised (requireFile h) post tree := by
  rw [requireFile]
  cases kind : h.handle.kind with
  | file => exact file kind
  | directory => exact directory kind _

theorem writeAt_keepsIff {safe : Prop} (position : List UInt8 → Nat) {content : List UInt8}
    (kind : h.handle.kind = .file) (here : tree h.handle.locator = some (.file content))
    (iff : safe ↔ WriteSafe platform tree h data position) :
    Ensures (fun _ after => (after = tree ↔ safe) ∧ WriteLeft platform tree h data position after)
      (writeAt platform h.handle.locator data (position content))
      (fun _ after => (Wrote h data position tree after ↔ safe) ∧
        (True → Wrote h data position tree after)) tree := by
  rw [writeAt, ensures_bind, iff]
  refine ensures_commit here ?_ ?_ ?_
  · intro bytes committed written
    have spliced := committed_written committed written
    rw [if_pos rfl] at spliced
    have wrote : Wrote h data position tree (tree.put h.handle.locator bytes) :=
      ⟨content, here, by rw [spliced]⟩
    exact ⟨iff_of_true wrote fun _ _ _ _ thrown => absurd written thrown, fun _ => wrote⟩
  · intro bytes committed thrown failure
    rw [if_pos rfl] at committed
    refine ⟨?_, .inr ⟨content, bytes, here, thrown, committed, rfl⟩⟩
    rw [put_eq_iff, here]
    constructor
    · intro same content' bytes' _ here' _ committed'
      rw [here] at here'
      cases here'
      rw [committed] at committed'
      cases committed'
      cases same
      rfl
    · intro writeSafe
      rw [writeSafe content bytes kind here thrown committed]
  · intro unreached failure
    rw [if_pos rfl] at unreached
    refine ⟨iff_of_true rfl ?_, .inl rfl⟩
    intro content' bytes' _ here' _ committed'
    rw [here] at here'
    cases here'
    rw [unreached] at committed'
    cases committed'

theorem writeAt_missing {file : Locator} {data : List UInt8} {position : Nat}
    {post : Unit → Tree → Prop} (missing : ∀ content, tree file ≠ some (.file content))
    (failed : ∀ failure, raised failure tree) :
    Ensures raised (writeAt platform file data position) post tree := by
  simp only [writeAt, Platform.createWritable, ensures_bind]
  refine ensures_answer (fun _ => ?_) fun _ => failed
  simp only [ensures_get]
  cases here : tree file with
  | none => exact failed _
  | some entry =>
      cases entry with
      | file content => exact absurd here (missing content)
      | directory => exact failed _

theorem write_keepsIff {buffer : List UInt8} {offset : Nat} :
    KeepsIff platform (.write h buffer offset) tree (WriteSafe platform tree h buffer fun _ => offset)
      (Operation.run platform (.write h buffer offset)) tree := by
  simp only [KeepsIff, Operation.run, Web.write, seqRight_eq_bind, ensures_bind, ensures_pure]
  refine ensures_requireFile (fun kind => ?_) fun kind failure => ?_
  · by_cases held : ∃ content, tree h.handle.locator = some (.file content)
    · obtain ⟨content, here⟩ := held
      exact writeAt_keepsIff (fun _ => offset) kind here Iff.rfl
    · have missing : ∀ content, tree h.handle.locator ≠ some (.file content) :=
        fun content here => held ⟨content, here⟩
      refine writeAt_missing missing fun failure => ⟨iff_of_true rfl ?_, .inl rfl⟩
      intro content bytes _ here
      exact absurd here (missing content)
  · refine ⟨iff_of_true rfl ?_, .inl rfl⟩
    intro content bytes file
    rw [kind] at file
    cases file

theorem append_keepsIff {buffer : List UInt8} :
    KeepsIff platform (.append h buffer) tree (Operation.Safe platform tree (.append h buffer))
      (Operation.run platform (.append h buffer)) tree := by
  simp only [KeepsIff, Operation.run, Web.append, seqRight_eq_bind, ensures_bind, ensures_pure]
  refine ensures_requireFile (fun kind => ?_) fun kind failure => ?_
  · refine ensures_getFile (fun content answered here => ?_) fun missing failure => ?_
    · have iff : Operation.Safe platform tree (.append h buffer) ↔
          WriteSafe platform tree h buffer List.length :=
        forall_prop_of_true answered
      exact writeAt_keepsIff List.length kind here iff
    · refine ⟨iff_of_true rfl ?_, .inl rfl⟩
      intro answered content bytes _ here
      exact absurd ⟨answered, here⟩ (missing content)
  · refine ⟨iff_of_true rfl ?_, .inl rfl⟩
    intro _ content bytes file
    rw [kind] at file
    cases file

end

/-! ## Renaming -/

section

variable {oldBase newBase : WebHandle} {oldSegments newSegments : FinalSegments}

theorem ensures_move {kind : HandleKind} {dir : Locator} {name : String} {source : Locator}
    {post : Unit → Tree → Prop} (stays : source = dir ++ [name] → post () tree)
    (moves : source ≠ dir ++ [name] → ∀ after, Moved tree after source (dir ++ [name]) →
      post () after)
    (failed : ∀ failure, raised failure tree) :
    Ensures raised (platform.move ⟨kind, source⟩ dir name) post tree := by
  simp only [Platform.move, ensures_bind]
  refine ensures_answer (fun _ => ?_) fun _ => failed
  simp only [ensures_get]
  by_cases same : dir ++ [name] = source
  · rw [if_pos same]
    exact stays same.symm
  · have moved := moves (fun equal => same equal.symm) _ (relocate_moved tree source _)
    rw [if_neg same]
    split
    · exact failed _
    · split
      · exact moved
      · split
        · exact moved
        · exact failed _
      · exact failed _

theorem ensures_removeEntry {dir : Locator} {name : String} {post : Unit → Tree → Prop}
    (removed : platform.rejects .removeEntry = none →
      post () (Function.update tree (dir ++ [name]) none))
    (failed : ¬(platform.rejects .removeEntry = none ∧ tree (dir ++ [name]) ≠ none) →
      ∀ failure, raised failure tree) :
    Ensures raised (platform.removeEntry dir name) post tree := by
  simp only [Platform.removeEntry, ensures_bind]
  refine ensures_answer (fun answered => ?_) fun rejected =>
    failed fun both => rejected both.1
  simp only [ensures_get]
  cases here : tree (dir ++ [name]) with
  | none => exact failed (fun both => both.2 here) _
  | some entry => exact removed answered

theorem parents_put {dest : Locator} (free : tree dest ≠ some .directory) (bytes : List UInt8)
    (walk : Walk) :
    Parents platform (tree.put dest bytes) walk oldBase oldSegments ↔
      Parents platform tree walk oldBase oldSegments :=
  and_congr_right fun _ => walks_congr (put_directory free bytes) walk 0 _ _

theorem copySafe_finished {content bytes : List UInt8}
    (committed : platform.committed [] 0 content = some bytes)
    (finishes : Finishes platform tree oldBase oldSegments) :
    CopySafe platform tree oldBase oldSegments newBase newSegments content ↔
      locatorOf oldBase oldSegments ≠ locatorOf newBase newSegments := by
  rw [CopySafe, committed]
  constructor
  · intro safe
    exact safe.1 finishes
  · intro apart
    exact ⟨fun _ => apart, fun unfinished => absurd finishes unfinished⟩

theorem copySafe_unfinished {content bytes : List UInt8}
    (committed : platform.committed [] 0 content = some bytes)
    (unfinished : ¬Finishes platform tree oldBase oldSegments) :
    CopySafe platform tree oldBase oldSegments newBase newSegments content ↔
      tree.put (locatorOf newBase newSegments) bytes = tree := by
  rw [CopySafe, committed, put_eq_iff]
  constructor
  · intro safe
    exact safe.2 unfinished
  · intro held
    exact ⟨fun finishes => absurd finishes unfinished, fun _ => held⟩

theorem finished_iff (wellFormed : tree.WellFormed) {content : List UInt8}
    (here : tree (locatorOf oldBase oldSegments) = some (.file content))
    (free : tree (locatorOf newBase newSegments) ≠ some .directory) :
    Operation.Done tree
        (Function.update (tree.put (locatorOf newBase newSegments) content)
          (locatorOf oldBase oldSegments) none)
        (.renameAt oldBase oldSegments newBase newSegments) ↔
      locatorOf oldBase oldSegments ≠ locatorOf newBase newSegments := by
  rw [Operation.Done]
  by_cases same : locatorOf oldBase oldSegments = locatorOf newBase newSegments
  · rw [if_pos same]
    refine iff_of_false (fun unchanged => ?_) (fun apart => apart same)
    have gone := congrFun unchanged (locatorOf oldBase oldSegments)
    rw [Function.update_self, here] at gone
    cases gone
  · rw [if_neg same]
    exact iff_of_true (copied_moved wellFormed here free same) same

theorem copy_keepsIff (wellFormed : tree.WellFormed) {content : List UInt8} {reached : Tree}
    (copies : Copies platform tree oldBase oldSegments newBase newSegments content)
    (opened : ∃ held, reached (locatorOf newBase newSegments) = some (.file held))
    (covered : ∀ bytes, reached.put (locatorOf newBase newSegments) bytes =
      tree.put (locatorOf newBase newSegments) bytes)
    (created : reached = tree ↔ tree (locatorOf newBase newSegments) ≠ none)
    (left : CopyLeft platform tree (locatorOf newBase newSegments) content reached) :
    KeepsIff platform (.renameAt oldBase oldSegments newBase newSegments) tree
      (CopySafe platform tree oldBase oldSegments newBase newSegments content)
      (do
        let start ← platform.createWritable (locatorOf newBase newSegments) false
        commit platform (locatorOf newBase newSegments) start 0 content
        let oldParent ← parentOf platform .again oldBase oldSegments
        platform.removeEntry oldParent oldSegments.name) reached := by
  obtain ⟨held, opened⟩ := opened
  have free : tree (locatorOf newBase newSegments) ≠ some .directory := copies.dest.2.1
  simp only [KeepsIff, ensures_bind]
  refine ensures_commit opened ?_ ?_ ?_
  · intro bytes committed written
    have spliced := committed_written committed written
    simp only [Bool.false_eq_true, if_false] at committed spliced
    rw [covered]
    have unfinished : ¬Finishes platform tree oldBase oldSegments → ∀ failure : Failure,
        (tree.put (locatorOf newBase newSegments) bytes = tree ↔
            CopySafe platform tree oldBase oldSegments newBase newSegments content) ∧
          Operation.Left platform tree (tree.put (locatorOf newBase newSegments) bytes)
            (.renameAt oldBase oldSegments newBase newSegments) :=
      fun stops _ => ⟨(copySafe_unfinished committed stops).symm,
        .inr ⟨content, copies, .inr (.inr ⟨bytes, committed, rfl⟩)⟩⟩
    refine ensures_parentOf (fun parents => ?_) fun stops => unfinished fun finishes =>
      stops ((parents_put free bytes .again).mpr finishes.2.1)
    rw [parents_put free bytes] at parents
    refine ensures_removeEntry (fun removed => ?_) fun remains => unfinished fun finishes => ?_
    · have whole : bytes = content := by simp [spliced, Platform.splice]
      have finished := finished_iff wellFormed copies.source.2.2 free
      rw [copySafe_finished committed ⟨written, parents, removed⟩, whole]
      refine ⟨finished, fun apart => finished.mpr ?_⟩
      cases apart with
      | inl moves => cases moves.symm.trans copies.moveless
      | inr different => exact different
    · refine remains ⟨finishes.2.2, ?_⟩
      change tree.put _ bytes (locatorOf oldBase oldSegments) ≠ none
      by_cases same : locatorOf oldBase oldSegments = locatorOf newBase newSegments
      · simp [Tree.put, same]
      · rw [Tree.put, Function.update_of_ne same, copies.source.2.2]
        exact Option.some_ne_none _
  · intro bytes committed thrown failure
    simp only [Bool.false_eq_true, if_false] at committed
    rw [covered, copySafe_unfinished committed fun finishes => thrown finishes.1]
    exact ⟨Iff.rfl, .inr ⟨content, copies, .inr (.inr ⟨bytes, committed, rfl⟩)⟩⟩
  · intro unreached failure
    simp only [Bool.false_eq_true, if_false] at unreached
    rw [created, CopySafe, unreached]
    exact ⟨Iff.rfl, .inr ⟨content, copies, left⟩⟩

theorem keeps_unchanged
    (never : ∀ content, ¬Copies platform tree oldBase oldSegments newBase newSegments content) :
    (tree = tree ↔
        Operation.Safe platform tree (.renameAt oldBase oldSegments newBase newSegments)) ∧
      Operation.Left platform tree tree (.renameAt oldBase oldSegments newBase newSegments) :=
  ⟨iff_of_true rfl fun content copies => absurd copies (never content), .inl rfl⟩

theorem move_keepsIff {kind : HandleKind} (moves : platform.moves = true) :
    KeepsIff platform (.renameAt oldBase oldSegments newBase newSegments) tree
      (Operation.Safe platform tree (.renameAt oldBase oldSegments newBase newSegments))
      (platform.move ⟨kind, locatorOf oldBase oldSegments⟩ (parentLocator newBase newSegments)
        newSegments.name) tree := by
  have safe : Operation.Safe platform tree (.renameAt oldBase oldSegments newBase newSegments) := by
    intro content copies
    exact absurd (moves.symm.trans copies.moveless) nofun
  refine ensures_move (fun same => ?_) (fun apart after moved => ?_) fun _ =>
    ⟨iff_of_true rfl safe, .inl rfl⟩
  · have done : Operation.Done tree tree (.renameAt oldBase oldSegments newBase newSegments) := by
      rw [Operation.Done]
      exact (if_pos same).mpr rfl
    exact ⟨iff_of_true done safe, fun _ => done⟩
  · have done : Operation.Done tree after (.renameAt oldBase oldSegments newBase newSegments) := by
      rw [Operation.Done]
      exact (if_neg apart).mpr moved
    exact ⟨iff_of_true done safe, fun _ => done⟩

theorem fallback_keepsIff (wellFormed : tree.WellFormed) {content : List UInt8}
    (moves : platform.moves = false)
    (resolves : Resolves platform tree oldBase oldSegments content)
    (parent : Parents platform tree .second newBase newSegments) :
    KeepsIff platform (.renameAt oldBase oldSegments newBase newSegments) tree
      (Operation.Safe platform tree (.renameAt oldBase oldSegments newBase newSegments))
      (do
        let bytes ← platform.getFile (locatorOf oldBase oldSegments)
        platform.answer .arrayBuffer
        let dest ← platform.getFileHandle .create (parentLocator newBase newSegments)
          newSegments.name true
        let start ← platform.createWritable dest.locator false
        commit platform dest.locator start 0 bytes
        let oldParent ← parentOf platform .again oldBase oldSegments
        platform.removeEntry oldParent oldSegments.name) tree := by
  have here := resolves.2.2
  simp only [KeepsIff]
  rw [ensures_bind]
  refine ensures_getFile (fun bytes read found => ?_) fun missing _ => keeps_unchanged fun content' copies =>
    missing content' ⟨copies.read.1, copies.source.2.2⟩
  obtain rfl : bytes = content := by
    rw [here] at found
    cases found
    rfl
  rw [ensures_bind]
  refine ensures_answer (fun buffered => ?_) fun rejected _ => keeps_unchanged fun content' copies =>
    rejected copies.read.2
  rw [ensures_bind]
  have copying : Creatable platform tree (parentLocator newBase newSegments) newSegments.name →
      Copies platform tree oldBase oldSegments newBase newSegments bytes :=
    fun creatable => ⟨moves, resolves, parent, ⟨read, buffered⟩, creatable⟩
  have safeIff : Copies platform tree oldBase oldSegments newBase newSegments bytes →
      (Operation.Safe platform tree (.renameAt oldBase oldSegments newBase newSegments) ↔
        CopySafe platform tree oldBase oldSegments newBase newSegments bytes) := by
    intro copies
    constructor
    · intro safe
      exact safe bytes copies
    · intro safe content' copies'
      have same := here.symm.trans copies'.source.2.2
      cases same
      exact safe
  refine ensures_create (fun creatable held opened => ?_) (fun creatable absent => ?_)
    fun missing _ => keeps_unchanged fun content' copies => missing copies.dest
  · rw [safeIff (copying creatable)]
    refine copy_keepsIff wellFormed (copying creatable) ⟨held, opened⟩ (fun _ => rfl) ?_ (.inl rfl)
    refine iff_of_true rfl ?_
    rw [show tree (locatorOf newBase newSegments) = _ from opened]
    exact Option.some_ne_none _
  · rw [safeIff (copying creatable)]
    refine copy_keepsIff wellFormed (copying creatable) ⟨[], Function.update_self _ _ _⟩
      (fun bytes' => Function.update_idem _ _ _) ?_ (.inr (.inl ⟨absent, rfl⟩))
    refine iff_of_false (fun same => ?_) (fun present => present absent)
    have filled := congrFun same (locatorOf newBase newSegments)
    rw [show tree (locatorOf newBase newSegments) = none from absent] at filled
    exact absurd ((Function.update_self _ _ _).symm.trans filled) (Option.some_ne_none _)

theorem renameAt_keepsIff (wellFormed : tree.WellFormed) :
    KeepsIff platform (.renameAt oldBase oldSegments newBase newSegments) tree
      (Operation.Safe platform tree (.renameAt oldBase oldSegments newBase newSegments))
      (Operation.run platform (.renameAt oldBase oldSegments newBase newSegments)) tree := by
  simp only [KeepsIff, Operation.run, Web.renameAt]
  rw [ensures_bind]
  refine ensures_resolveFinal (fun content resolves => ?_) (fun directory => ?_) fun missing _ =>
    keeps_unchanged fun content copies => missing content copies.source
  · rw [ensures_bind]
    refine ensures_parentOf (fun parent => ?_) fun stops _ => keeps_unchanged fun content' copies =>
      stops copies.parent
    by_cases moves : platform.moves = true
    · rw [if_pos moves]
      exact move_keepsIff moves
    · rw [if_neg moves]
      exact fallback_keepsIff wellFormed (Bool.eq_false_iff.mpr moves) resolves parent
  · have unreadable : ∀ content,
        ¬Copies platform tree oldBase oldSegments newBase newSegments content := by
      intro content copies
      exact absurd (directory.symm.trans copies.source.2.2) nofun
    rw [ensures_bind]
    refine ensures_parentOf (fun parent => ?_) fun _ _ => keeps_unchanged unreadable
    by_cases moves : platform.moves = true
    · rw [if_pos moves]
      exact move_keepsIff moves
    · rw [if_neg moves]
      exact keeps_unchanged unreadable

end

theorem run_keepsIff (platform : Platform) (operation : Operation) (tree : Tree)
    (wellFormed : tree.WellFormed) :
    KeepsIff platform operation tree (operation.Safe platform tree) (operation.run platform)
      tree := by
  cases operation with
  | renameAt oldBase oldSegments newBase newSegments => exact renameAt_keepsIff wellFormed
  | write h buffer offset => exact write_keepsIff
  | append h buffer => exact append_keepsIff

theorem kept_iff_safe (platform : Platform) (operation : Operation) (tree : Tree)
    (wellFormed : tree.WellFormed) :
    operation.Kept tree ((operation.run platform).outcome tree) ↔ operation.Safe platform tree :=
  (run_keepsIff platform operation tree wellFormed).kept

/-- Over any tree and any failures of the platform, a success does what it reports, unless it has
copied a file onto itself, and a failure leaves all but the destination or the file alone, and there
nothing but what the platform has committed. -/
theorem operation_ends (platform : Platform) (operation : Operation) (tree : Tree)
    (wellFormed : tree.WellFormed) :
    operation.Ends platform tree ((operation.run platform).outcome tree) :=
  (run_keepsIff platform operation tree wellFormed).ends

/-! ## A root with one file -/

def oneFile : Tree :=
  Function.update (Function.update (fun _ => none) [] (some .directory)) ["a"]
    (some (.file [1, 2, 3]))

theorem oneFile_wellFormed : oneFile.WellFormed := by
  intro locator name present
  by_cases file : locator ++ [name] = ["a"]
  · have parent : locator = [] := by
      cases locator with
      | nil => rfl
      | cons first rest => simp at file
    subst parent
    rfl
  · rw [oneFile, Function.update_of_ne file, Function.update_of_ne (by simp)] at present
    exact absurd rfl present

/-- A platform without `move` that rejects the calls at one site. -/
def copyingPlatform (rejected : Option Site) : Platform where
  rejects site := if some site = rejected then some (.dom "NoModificationAllowedError") else none
  spoiled _ _ := none
  moves := false
  replaces := false

def rootHandle : WebHandle := ⟨⟨.directory, []⟩, "/"⟩

def nameA : FinalSegments := ⟨["a"], List.cons_ne_nil _ _⟩

def nameB : FinalSegments := ⟨["b"], List.cons_ne_nil _ _⟩

/-- A rename that cannot remove the source fails and leaves the copy. -/
theorem failed_rename_copies :
    ¬∀ (platform : Platform) (operation : Operation) (tree : Tree), tree.WellFormed →
      operation.Kept tree ((operation.run platform).outcome tree) := by
  intro keeps
  have kept := keeps (copyingPlatform (some .removeEntry))
    (.renameAt rootHandle nameA rootHandle nameB) oneFile oneFile_wellFormed
  have same := congrFun kept ["b"]
  revert same
  decide

/-- Renaming a file to itself copies it onto itself and removes it. -/
example :
    let renamed := ((Operation.run (copyingPlatform none)
      (.renameAt rootHandle nameA rootHandle nameA)).outcome oneFile)
    renamed.1.toOption = some () ∧ renamed.2 ["a"] = none := by
  decide

theorem operation_ends_oneFile :
    oneFile.WellFormed ∧
      (Operation.renameAt rootHandle nameA rootHandle nameB).Ends (copyingPlatform none) oneFile
        ((Operation.run (copyingPlatform none)
          (.renameAt rootHandle nameA rootHandle nameB)).outcome oneFile) :=
  ⟨oneFile_wellFormed, operation_ends _ _ _ oneFile_wellFormed⟩

end Polyengine.Wasi.Web
