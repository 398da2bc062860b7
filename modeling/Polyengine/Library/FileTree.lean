import Mathlib.Logic.Function.Basic
import Polyengine.Library.Command

/-!
# File trees with symbolic links

A tree of entries as an operating system resolves paths over it: component by component, with links
followed where they stand, up to a bound. An entry is an inode, so that two names can be one file,
and the content of a file belongs to its inode.
-/

set_option autoImplicit false

namespace Polyengine.Library.FileTree

/-- The names from the root to an entry. -/
abbrev Locator := List String

inductive SpecialKind where
  | blockDevice
  | characterDevice
  | fifo
  | socket
  | unknown
  deriving Repr, DecidableEq

/-- What an entry is. The target of a link is what splitting it at the slashes gives. -/
inductive Node where
  | directory
  | file
  | symlink (target : List String)
  | special (kind : SpecialKind)
  deriving Repr, DecidableEq

structure Inode where
  dev : Nat
  ino : Nat
  node : Node
  deriving Repr, DecidableEq

/-- The entries by their locators. -/
abbrev Tree := Locator → Option Inode

inductive Errno where
  | EPERM
  | ENOENT
  | ENOTDIR
  | EISDIR
  | EEXIST
  | ELOOP
  | EINVAL
  | other (name : String)
  deriving Repr, DecidableEq

/-- A link that starts with a slash is taken from the root. -/
def isAbsolute : List String → Bool
  | "" :: _ :: _ => true
  | _ => false

/-! ## Resolving a path -/

section Walk

variable (tree : Tree) (follow : Bool) (chase : Locator → List String → Except Errno Locator)

/-- The locator that a path from a directory leads to, which need not have an entry. Links are left
to `chase`; a link that ends the path is followed only if `follow` says so. -/
def walk : Locator → List String → Except Errno Locator
  | dir, [] => .ok dir
  | dir, seg :: rest =>
      if seg = "" ∨ seg = "." then walk dir rest
      else if seg = ".." then walk dir.dropLast rest
      else
        match tree (dir ++ [seg]) with
        | none => if rest = [] then .ok (dir ++ [seg]) else .error .ENOENT
        | some inode =>
            match inode.node with
            | .directory => walk (dir ++ [seg]) rest
            | .symlink target =>
                if rest = [] ∧ follow = false then .ok (dir ++ [seg])
                else chase (if isAbsolute target = true then [] else dir) (target ++ rest)
            | _ => if rest = [] then .ok (dir ++ [seg]) else .error .ENOTDIR

end Walk

/-- Resolving a path while no more than the given number of links are met. -/
def resolve (tree : Tree) (follow : Bool) : Nat → Locator → List String → Except Errno Locator
  | 0 => walk tree follow fun _ _ => .error .ELOOP
  | links + 1 => walk tree follow (resolve tree follow links)

/-- There is no link at the locator. -/
def Plain (tree : Tree) (locator : Locator) : Prop :=
  ∀ inode target, tree locator = some inode → inode.node ≠ .symlink target

/-- The second tree is the first one but for an entry that has come to be where there was none, and
that is no link. -/
structure Settles (tree after : Tree) (locator : Locator) : Prop where
  others : ∀ other, other ≠ locator → after other = tree other
  here : tree locator = none ∨ after locator = tree locator
  plain : Plain after locator

section

variable {tree after : Tree} {follow follow' : Bool} {dir path locator : Locator}

theorem Settles.of_plain (plain : Plain tree locator) : Settles tree tree locator :=
  ⟨fun _ _ => rfl, .inr rfl, plain⟩

/-- What stands at an entry stays there. -/
theorem Settles.entry (settles : Settles tree after locator) {other : Locator} {inode : Inode}
    (entry : tree other = some inode) : after other = some inode := by
  by_cases same : other = locator
  · subst same
    cases settles.here with
    | inl absent => rw [absent] at entry; cases entry
    | inr kept => rw [kept, entry]
  · rw [settles.others other same, entry]

theorem walk_settled {chase chase' : Locator → List String → Except Errno Locator}
    (settles : Settles tree after locator) (follows : follow' = true ∨ follow' = follow)
    (chased : ∀ dir path, chase dir path = .ok locator → chase' dir path = .ok locator)
    (found : walk tree follow chase dir path = .ok locator) :
    walk after follow' chase' dir path = .ok locator := by
  induction path generalizing dir with
  | nil => exact found
  | cons seg rest ih =>
      unfold walk at found ⊢
      split
      next dot =>
        rw [if_pos dot] at found
        exact ih found
      next named =>
        rw [if_neg named] at found
        split
        next up =>
          rw [if_pos up] at found
          exact ih found
        next down =>
          rw [if_neg down] at found
          cases entry : tree (dir ++ [seg]) with
          | none =>
              simp only [entry] at found
              by_cases last : rest = []
              · rw [if_pos last, Except.ok.injEq] at found
                subst last found
                cases created : after (dir ++ [seg]) with
                | none => simp
                | some inode =>
                    cases node : inode.node with
                    | symlink target => exact absurd node (settles.plain inode target created)
                    | _ => simp [node, walk]
              · rw [if_neg last] at found
                cases found
          | some inode =>
              rw [settles.entry entry]
              simp only [entry] at found ⊢
              cases node : inode.node with
              | directory =>
                  simp only [node] at found ⊢
                  exact ih found
              | file => simpa only [node] using found
              | special kind => simpa only [node] using found
              | symlink target =>
                  simp only [node] at found ⊢
                  by_cases last : rest = [] ∧ follow = false
                  · rw [if_pos last, Except.ok.injEq] at found
                    subst found
                    exact absurd node (settles.plain inode target (settles.entry entry))
                  · rw [if_neg last] at found
                    have follows' : ¬(rest = [] ∧ follow' = false) := by
                      rintro ⟨ends, stays⟩
                      cases follows with
                      | inl all => rw [all] at stays; cases stays
                      | inr same => exact last ⟨ends, same ▸ stays⟩
                    rw [if_neg follows']
                    exact chased _ _ found

/-- A path that leads to a locator still does once there is an entry there, whether links are
followed or not. -/
theorem resolve_settled {links : Nat} (settles : Settles tree after locator)
    (follows : follow' = true ∨ follow' = follow)
    (found : resolve tree follow links dir path = .ok locator) :
    resolve after follow' links dir path = .ok locator := by
  induction links generalizing dir path with
  | zero =>
      refine walk_settled settles follows (fun _ _ chased => ?_) found
      cases chased
  | succ links ih => exact walk_settled settles follows (fun _ _ => ih) found

end

/-! ## Paths without links -/

/-- A component that names an entry. -/
def Named (seg : String) : Prop := seg ≠ "" ∧ seg ≠ "." ∧ seg ≠ ".."

def IsDirectory (tree : Tree) (locator : Locator) : Prop :=
  ∃ inode, tree locator = some inode ∧ inode.node = .directory

/-- Every component of the path is a directory. -/
def Directories (tree : Tree) : Locator → List String → Prop
  | _, [] => True
  | dir, seg :: rest => IsDirectory tree (dir ++ [seg]) ∧ Directories tree (dir ++ [seg]) rest

section

variable {tree : Tree} {follow : Bool} {dir path rest : List String}
  {chase : Locator → List String → Except Errno Locator}

theorem walk_named {seg : String} (named : Named seg) :
    walk tree follow chase dir (seg :: rest) =
      match tree (dir ++ [seg]) with
      | none => if rest = [] then .ok (dir ++ [seg]) else .error .ENOENT
      | some inode =>
          match inode.node with
          | .directory => walk tree follow chase (dir ++ [seg]) rest
          | .symlink target =>
              if rest = [] ∧ follow = false then .ok (dir ++ [seg])
              else chase (if isAbsolute target = true then [] else dir) (target ++ rest)
          | _ => if rest = [] then .ok (dir ++ [seg]) else .error .ENOTDIR := by
  have notDot : ¬(seg = "" ∨ seg = ".") := by
    intro dot
    cases dot with
    | inl empty => exact named.1 empty
    | inr single => exact named.2.1 single
  rw [walk, if_neg notDot, if_neg named.2.2]

theorem walk_directories (named : ∀ seg ∈ path, Named seg) (through : Directories tree dir path) :
    walk tree follow chase dir (path ++ rest) = walk tree follow chase (dir ++ path) rest := by
  induction path generalizing dir with
  | nil => simp
  | cons seg path ih =>
      obtain ⟨⟨inode, entry, node⟩, through⟩ := through
      rw [List.cons_append, walk_named (named seg List.mem_cons_self)]
      simp only [entry, node]
      rw [ih (fun other member => named other (List.mem_cons_of_mem seg member)) through,
        ← List.append_cons]

theorem IsDirectory.through (isDirectory : IsDirectory tree dir)
    (through : Directories tree dir path) : IsDirectory tree (dir ++ path) := by
  induction path generalizing dir with
  | nil => rwa [List.append_nil]
  | cons seg path ih =>
      rw [List.append_cons]
      exact ih through.1 through.2

theorem Directories.append (first : Directories tree dir path)
    (second : Directories tree (dir ++ path) rest) : Directories tree dir (path ++ rest) := by
  induction path generalizing dir with
  | nil => rwa [List.append_nil] at second
  | cons seg path ih =>
      rw [List.append_cons] at second
      exact ⟨first.1, ih first.2 second⟩

theorem walk_last {seg : String} (named : Named seg) (plain : Plain tree (dir ++ [seg])) :
    walk tree follow chase dir [seg] = .ok (dir ++ [seg]) := by
  rw [walk_named named]
  cases entry : tree (dir ++ [seg]) with
  | none => simp
  | some inode =>
      cases node : inode.node with
      | symlink target => exact absurd node (plain inode target entry)
      | directory | file | special => simp [node, walk]

/-- A path that leads somewhere goes through directories, if there are no links on it. -/
theorem directories_of_walk {locator : Locator} (named : ∀ seg ∈ path, Named seg)
    (plain : ∀ before, before <+: path → Plain tree (dir ++ before)) (goesOn : rest ≠ [])
    (found : walk tree follow chase dir (path ++ rest) = .ok locator) :
    Directories tree dir path := by
  induction path generalizing dir with
  | nil => trivial
  | cons seg path ih =>
      have more : ¬(path ++ rest = []) := fun empty => goesOn (List.append_eq_nil_iff.mp empty).2
      rw [List.cons_append, walk_named (named seg List.mem_cons_self)] at found
      cases entry : tree (dir ++ [seg]) with
      | none =>
          simp only [entry, if_neg more] at found
          cases found
      | some inode =>
          simp only [entry] at found
          cases node : inode.node with
          | symlink target =>
              have here := plain [seg] (List.prefix_append [seg] path) inode target entry
              exact absurd node here
          | file =>
              simp only [node, if_neg more] at found
              cases found
          | special kind =>
              simp only [node, if_neg more] at found
              cases found
          | directory =>
              simp only [node] at found
              refine ⟨⟨inode, entry, node⟩, ih ?_ ?_ found⟩
              · exact fun other member => named other (List.mem_cons_of_mem seg member)
              · intro before isPrefix
                rw [List.append_assoc]
                exact plain (seg :: before) (List.prefix_cons_inj seg |>.mpr isPrefix)

end

/-! ## The calls of the system -/

/-- How many links a resolution may meet. -/
def maxLinks : Nat := 40

/-- A path without links leads to itself if it goes through directories. -/
theorem resolve_plain {tree : Tree} {follow : Bool} {path : List String} {seg : String}
    (named : ∀ seg ∈ path, Named seg) (last : Named seg) (through : Directories tree [] path)
    (plain : Plain tree (path ++ [seg])) :
    resolve tree follow maxLinks [] (path ++ [seg]) = .ok (path ++ [seg]) := by
  change walk tree follow (resolve tree follow 39) [] (path ++ [seg]) = _
  rw [walk_directories named through, List.nil_append, walk_last last plain]

theorem resolve_directories {tree : Tree} {follow : Bool} {path : List String}
    (named : ∀ seg ∈ path, Named seg) (through : Directories tree [] path) :
    resolve tree follow maxLinks [] path = .ok path := by
  change walk tree follow (resolve tree follow 39) [] path = _
  have walked : walk tree follow (resolve tree follow 39) [] (path ++ []) =
      walk tree follow (resolve tree follow 39) ([] ++ path) [] := walk_directories named through
  rw [List.append_nil, List.nil_append] at walked
  exact walked

/-- The entry that a path from the root leads to. -/
def lookup (tree : Tree) (follow : Bool) (path : Locator) : Except Errno (Locator × Inode) := do
  let locator ← resolve tree follow maxLinks [] path
  match tree locator with
  | some inode => return (locator, inode)
  | none => throw .ENOENT

def stat (tree : Tree) (path : Locator) : Except Errno Inode := Prod.snd <$> lookup tree true path

def lstat (tree : Tree) (path : Locator) : Except Errno Inode := Prod.snd <$> lookup tree false path

def realpath (tree : Tree) (path : Locator) : Except Errno Locator :=
  Prod.fst <$> lookup tree true path

theorem lookup_ok {tree : Tree} {follow : Bool} {path locator : Locator} {inode : Inode}
    (found : resolve tree follow maxLinks [] path = .ok locator)
    (entry : tree locator = some inode) : lookup tree follow path = .ok (locator, inode) := by
  simp only [lookup, found]
  simp only [Except.bind, bind, entry]
  rfl

theorem lookup_error {tree : Tree} {follow : Bool} {path locator : Locator}
    (found : resolve tree follow maxLinks [] path = .ok locator) (absent : tree locator = none) :
    lookup tree follow path = .error .ENOENT := by
  simp only [lookup, found]
  simp only [Except.bind, bind, absent]
  rfl

theorem plain_of_absent {tree : Tree} {locator : Locator} (absent : tree locator = none) :
    Plain tree locator := by
  intro inode target here
  rw [absent] at here
  cases here

theorem lookup_settled {tree after : Tree} {follow follow' : Bool} {path locator : Locator}
    {inode : Inode} (settles : Settles tree after locator)
    (follows : follow' = true ∨ follow' = follow)
    (found : resolve tree follow maxLinks [] path = .ok locator)
    (entry : after locator = some inode) : lookup after follow' path = .ok (locator, inode) :=
  lookup_ok (resolve_settled settles follows found) entry

theorem lookup_eq_ok {tree : Tree} {follow : Bool} {path locator : Locator} {inode : Inode}
    (found : lookup tree follow path = .ok (locator, inode)) :
    resolve tree follow maxLinks [] path = .ok locator ∧ tree locator = some inode := by
  unfold lookup at found
  cases resolved : resolve tree follow maxLinks [] path with
  | error errno => rw [resolved] at found; cases found
  | ok reached =>
      rw [resolved] at found
      change (match tree reached with
        | some inode => Except.ok (reached, inode)
        | none => Except.error Errno.ENOENT) = _ at found
      cases entry : tree reached with
      | none => rw [entry] at found; cases found
      | some own =>
          rw [entry] at found
          cases found
          exact ⟨rfl, entry⟩

def readlink (tree : Tree) (path : Locator) : Except Errno (List String) := do
  match (← lstat tree path).node with
  | .symlink target => return target
  | _ => throw .EINVAL

/-! ## Opening a file -/

/-- What identifies an inode. -/
def Inode.id (inode : Inode) : Nat × Nat := (inode.dev, inode.ino)

/-- The entries, and the content of the files by inode. -/
structure Files where
  tree : Tree
  content : Nat × Nat → List UInt8

inductive Access where
  | readOnly
  | writeOnly
  | readWrite
  deriving Repr, DecidableEq

structure OpenFlags where
  access : Access
  create : Bool
  exclusive : Bool
  truncate : Bool
  nofollow : Bool
  directory : Bool
  deriving Repr, DecidableEq

/-- What a system does when it is asked to create an entry that has to be a directory, which the
standard leaves open: it refuses, or creates a file first, or ignores that a directory was asked
for. -/
inductive CreateDirectory where
  | refuses
  | createsAndRefuses
  | createsFile
  deriving Repr, DecidableEq

/-- The system: the opens that it denies, the inode of the next file, and what it does in the case
that is left open. -/
structure System where
  denies : Locator → OpenFlags → Option Errno
  next : Nat × Nat
  createDirectory : CreateDirectory

/-- No entry has the inode of the next file. -/
def System.Fresh (system : System) (tree : Tree) : Prop :=
  ∀ locator inode, tree locator = some inode → inode.id ≠ system.next

def System.created (system : System) : Inode := ⟨system.next.1, system.next.2, .file⟩

/-- A new empty file. -/
def System.create (system : System) (files : Files) (locator : Locator) : Files where
  tree := Function.update files.tree locator (some system.created)
  content := Function.update files.content system.next []

def Files.truncate (files : Files) (inode : Inode) : Files :=
  { files with content := Function.update files.content inode.id [] }

/-- Opening an entry that is there. -/
def openEntry (flags : OpenFlags) (inode : Inode) : Command Files Errno Inode :=
  if flags.create = true ∧ flags.exclusive = true then throw .EEXIST
  else
    match inode.node with
    | .symlink _ => throw .ELOOP
    | .directory =>
        if flags.create = true ∨ flags.truncate = true ∨ flags.access ≠ .readOnly then throw .EISDIR
        else return inode
    | .file =>
        if flags.directory = true then throw .ENOTDIR
        else if flags.truncate = true then do
          modify fun files => files.truncate inode
          return inode
        else return inode
    | .special _ => if flags.directory = true then throw .ENOTDIR else return inode

/-- Opening where there is no entry. -/
def openAbsent (system : System) (flags : OpenFlags) (locator : Locator) :
    Command Files Errno Inode :=
  if flags.create = false then throw .ENOENT
  else if flags.directory = true then
    match system.createDirectory with
    | .refuses => throw .EINVAL
    | .createsAndRefuses => do
        modify fun files => system.create files locator
        throw .ENOTDIR
    | .createsFile => do
        modify fun files => system.create files locator
        return system.created
  else do
    modify fun files => system.create files locator
    return system.created

/-- Whether an open follows a link that ends its path. -/
def OpenFlags.follows (flags : OpenFlags) : Bool :=
  !(flags.nofollow || flags.create && flags.exclusive)

/-- The call `open`, with the inode of the descriptor. -/
def openFile (system : System) (path : Locator) (flags : OpenFlags) : Command Files Errno Inode := do
  match system.denies path flags with
  | some errno => throw errno
  | none =>
      let files ← get
      let locator ← liftM (resolve files.tree flags.follows maxLinks [] path)
      match files.tree locator with
      | some inode => openEntry flags inode
      | none => openAbsent system flags locator

section

variable {system : System} {files : Files} {path : Locator} {flags : OpenFlags}

/-- How an open succeeds: on an entry that is there, or on a new file. -/
inductive Opens (system : System) (files : Files) (path : Locator) (flags : OpenFlags) :
    Inode → Files → Prop where
  | found {locator : Locator} {inode : Inode}
      (resolved : resolve files.tree flags.follows maxLinks [] path = .ok locator)
      (entry : files.tree locator = some inode)
      (shared : ¬(flags.create = true ∧ flags.exclusive = true))
      (followed : ∀ target, inode.node ≠ .symlink target)
      (fits : flags.directory = true → inode.node = .directory) :
      Opens system files path flags inode
        (if inode.node = .file ∧ flags.truncate = true then files.truncate inode else files)
  | created {locator : Locator} (accepted : system.denies path flags = none)
      (resolved : resolve files.tree flags.follows maxLinks [] path = .ok locator)
      (absent : files.tree locator = none) (create : flags.create = true)
      (ignored : flags.directory = true → system.createDirectory = .createsFile) :
      Opens system files path flags system.created (system.create files locator)

/-- What a failed open leaves: nothing has changed, or a file has been created before it was
refused. -/
def Refused (system : System) (files : Files) (flags : OpenFlags) (after : Files) : Prop :=
  after = files ∨ flags.create = true ∧ flags.directory = true ∧
    system.createDirectory = .createsAndRefuses ∧
    ∃ locator, files.tree locator = none ∧ after = system.create files locator

theorem ensures_openEntry {locator : Locator} {inode : Inode}
    (resolved : resolve files.tree flags.follows maxLinks [] path = .ok locator)
    (entry : files.tree locator = some inode) :
    Command.Ensures (fun _ after => Refused system files flags after) (openEntry flags inode)
      (fun opened after => Opens system files path flags opened after) files := by
  have unchanged : Refused system files flags files := .inl rfl
  unfold openEntry
  rw [Command.ensures_ite]
  refine ⟨fun _ => unchanged, fun shared => ?_⟩
  have found := @Opens.found system files path flags locator inode resolved entry shared
  cases node : inode.node with
  | symlink target => exact unchanged
  | directory =>
      simp only [Command.ensures_ite]
      refine ⟨fun _ => unchanged, fun _ => ?_⟩
      have opens := found (by simp [node]) fun _ => node
      rwa [if_neg (by simp [node])] at opens
  | file =>
      simp only [Command.ensures_ite, Command.ensures_bind, Command.ensures_modify]
      refine ⟨fun _ => unchanged, fun file => ?_⟩
      have opens := found (by simp [node]) fun directory => absurd directory file
      constructor
      · intro truncates
        rwa [if_pos ⟨node, truncates⟩] at opens
      · intro keeps
        rwa [if_neg fun both => keeps both.2] at opens
  | special kind =>
      simp only [Command.ensures_ite]
      refine ⟨fun _ => unchanged, fun special => ?_⟩
      have opens := found (by simp [node]) fun directory => absurd directory special
      rwa [if_neg (by simp [node])] at opens

theorem ensures_openAbsent {locator : Locator} (accepted : system.denies path flags = none)
    (resolved : resolve files.tree flags.follows maxLinks [] path = .ok locator)
    (absent : files.tree locator = none) :
    Command.Ensures (fun _ after => Refused system files flags after)
      (openAbsent system flags locator)
      (fun opened after => Opens system files path flags opened after) files := by
  unfold openAbsent
  rw [Command.ensures_ite]
  refine ⟨fun _ => .inl rfl, fun created => ?_⟩
  have create : flags.create = true := Bool.of_not_eq_false created
  rw [Command.ensures_ite]
  constructor
  · intro directory
    cases choice : system.createDirectory with
    | refuses => exact .inl rfl
    | createsAndRefuses => exact .inr ⟨create, directory, choice, locator, absent, rfl⟩
    | createsFile => exact Opens.created accepted resolved absent create fun _ => choice
  · intro file
    exact Opens.created accepted resolved absent create fun directory => absurd directory file

theorem ensures_openFile (system : System) (files : Files) (path : Locator) (flags : OpenFlags) :
    Command.Ensures (fun _ after => Refused system files flags after)
      (openFile system path flags) (fun inode after => Opens system files path flags inode after)
      files := by
  have unchanged : Refused system files flags files := .inl rfl
  unfold openFile
  cases denied : system.denies path flags with
  | some errno => exact unchanged
  | none =>
      simp only [Command.ensures_bind, Command.ensures_get, Command.ensures_lift]
      cases resolved : resolve files.tree flags.follows maxLinks [] path with
      | error errno => exact unchanged
      | ok locator =>
          rw [Fallible.satisfies_ok]
          cases entry : files.tree locator with
          | some inode => exact ensures_openEntry resolved entry
          | none => exact ensures_openAbsent denied resolved entry

/-- The entries that were there are there, and have what they had unless they were truncated. -/
theorem Opens.settles {inode : Inode} {after : Files}
    (opens : Opens system files path flags inode after) :
    ∃ locator, resolve files.tree flags.follows maxLinks [] path = .ok locator ∧
      Settles files.tree after.tree locator ∧ after.tree locator = some inode := by
  cases opens with
  | @found locator inode resolved entry shared followed fits =>
      refine ⟨locator, resolved, ?_⟩
      have plain : Plain files.tree locator := by
        intro own target here link
        rw [entry, Option.some.injEq] at here
        subst here
        exact followed target link
      split
      next => exact ⟨.of_plain plain, entry⟩
      next => exact ⟨.of_plain plain, entry⟩
  | @created locator accepted resolved absent create ignored =>
      have here : (system.create files locator).tree locator = some system.created :=
        Function.update_self locator _ _
      refine ⟨locator, resolved, ⟨?_, .inl absent, ?_⟩, here⟩
      · intro other apart
        exact Function.update_of_ne apart _ _
      · intro own target entry link
        rw [here, Option.some.injEq] at entry
        subst entry
        cases link

end

end Polyengine.Library.FileTree
