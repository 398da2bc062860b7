import Polyengine.Library.FileTree
import Polyengine.Wasi.FsProvider

/-!
# The node filesystem backend

The backend over `node:fs`. A path is the list of its components from the root of the host; what the
calls of `node:fs` do is what the file tree says. The containment of a path is checked before every
call: its directory, and with `symlink-follow` the chain of links that it ends in, have to lead
below the root of the preopen.
-/

set_option autoImplicit false

namespace Polyengine.Wasi.Node

open Polyengine.Library FileTree

/-- A descriptor handle: a path, the containment boundary, and for a file the inode that the open
file descriptor is on. -/
structure NodeHandle where
  path : Locator
  root : Locator
  type : DescriptorType
  fd : Option Inode
  deriving Repr, DecidableEq

def direntType (inode : Inode) : DescriptorType :=
  match inode.node with
  | .directory => .directory
  | .file => .regularFile
  | .symlink _ => .symbolicLink
  | .special .blockDevice => .blockDevice
  | .special .characterDevice => .characterDevice
  | .special .fifo => .fifo
  | .special .socket => .socket
  | .special .unknown => .unknown

def join (base : NodeHandle) (segments : List String) : Locator := base.path ++ segments

/-- The call of `node:fs` that follows links or the one that does not. -/
def statCall (follow : Bool) : Tree → Locator → Except Errno Inode :=
  if follow = true then stat else lstat

/-! ## Physical containment -/

section Containment

/-- `escape`. -/
def requireInside (real root : Locator) : Except Errno Unit :=
  if root <+: real then return () else throw .EPERM

variable (tree : Tree) (root : Locator)

def walkReal : Locator → List String → Except Errno Locator
  | dir, [] => return dir
  | dir, seg :: rel =>
      if seg = "" ∨ seg = "." then walkReal dir rel
      else do
        let next ← if seg = ".." then return dir.dropLast else realpath tree (dir ++ [seg])
        requireInside next root
        walkReal next rel

/-- The loop of `chaseFinal`, with the number of rounds that are left. -/
def chaseFinal : Nat → Locator → String → Except Errno Unit
  | 0, _, _ => throw .ELOOP
  | rounds + 1, dir, name =>
      if name = "" then requireInside dir root
      else
        match realpath tree (dir ++ [name]) with
        | .ok real => requireInside real root
        | .error errno =>
            if errno ≠ .ENOENT then throw errno
            else
              match lstat tree (dir ++ [name]) with
              | .error _ => return ()
              | .ok st =>
                  match st.node with
                  | .symlink _ => do
                      let target ← readlink tree (dir ++ [name])
                      let start := if isAbsolute target = true then [] else dir
                      let next ← walkReal tree root start target.dropLast
                      let last := target.getLastD ""
                      if last = "." ∨ last = ".." then chaseFinal rounds (← walkReal tree root next [last]) ""
                      else chaseFinal rounds next last
                  | _ => return ()

/-- The path to hand to node, once it is known to be contained. -/
def guard (base : NodeHandle) (segments : List String) (follow : Bool) : Except Errno Locator := do
  let full := join base segments
  if segments = [] then
    requireInside (← realpath tree full) base.root
    return full
  let parentReal ← realpath tree full.dropLast
  requireInside parentReal base.root
  if follow = true then chaseFinal tree base.root 40 parentReal (full.getLastD "")
  return full

end Containment

/-! ## The operations -/

def statHandle (tree : Tree) (h : NodeHandle) : Except Errno Inode :=
  match h.fd with
  | none => stat tree h.path
  | some inode => return inode

def openFlags (opts : OpenOptions) : OpenFlags where
  access := if opts.write = true then if opts.read = true then .readWrite else .writeOnly else .readOnly
  create := opts.create
  exclusive := opts.exclusive
  truncate := opts.truncate
  nofollow := !opts.follow
  directory := opts.directory

def openPath (system : System) (full root : Locator) (opts : OpenOptions) :
    Command Files Errno (NodeHandle × DescriptorType) := do
  let opened ← FileTree.openFile system full (openFlags opts)
  let type := direntType opened
  if type = .directory then return (⟨full, root, type, none⟩, type)
  else return (⟨full, root, type, some opened⟩, type)

def openAt (system : System) (base : NodeHandle) (segments : List String) (opts : OpenOptions) :
    Command Files Errno (NodeHandle × DescriptorType) := do
  let files ← get
  let full ← liftM (guard files.tree base segments opts.follow)
  match statCall opts.follow files.tree full with
  | .error _ => openPath system full base.root opts
  | .ok existing =>
      if opts.follow = false ∧ direntType existing = .symbolicLink then throw .ELOOP
      else if direntType existing = .directory then
        if opts.exclusive = true ∧ opts.create = true then throw .EEXIST
        else return (⟨full, base.root, .directory, none⟩, .directory)
      else if opts.directory = true then throw .ENOTDIR
      else openPath system full base.root opts

def inodeIdentity (st : Inode) : FsIdentity := { a := st.dev, b := st.ino }

def identity (tree : Tree) (h : NodeHandle) : Except Errno FsIdentity :=
  inodeIdentity <$> statHandle tree h

def identityAt (tree : Tree) (base : NodeHandle) (segments : List String) (follow : Bool) :
    Except Errno FsIdentity := do
  let full ← guard tree base segments follow
  inodeIdentity <$> statCall follow tree full

def isSame (tree : Tree) (a b : NodeHandle) : Except Errno Bool := do
  let sa ← statHandle tree a
  let sb ← statHandle tree b
  return sa.dev == sb.dev && sa.ino == sb.ino

theorem guard_join {tree : Tree} {base : NodeHandle} {segments : List String} {follow : Bool}
    {full : Locator} (guarded : guard tree base segments follow = .ok full) :
    full = join base segments := by
  unfold guard at guarded
  by_cases atBase : segments = []
  · rw [if_pos atBase] at guarded
    obtain ⟨real, -, guarded⟩ := Fallible.bind_ok guarded
    obtain ⟨_, -, guarded⟩ := Fallible.bind_ok guarded
    cases guarded
    rfl
  · rw [if_neg atBase] at guarded
    obtain ⟨parentReal, -, guarded⟩ := Fallible.bind_ok guarded
    obtain ⟨_, -, guarded⟩ := Fallible.bind_ok guarded
    by_cases follows : follow = true
    · rw [if_pos follows] at guarded
      obtain ⟨_, -, ended⟩ := Fallible.bind_ok guarded
      cases ended
      rfl
    · rw [if_neg follows] at guarded
      cases guarded
      rfl

/-! ## What an open does -/

section

variable {system : System} {files after : Files} {base : NodeHandle} {segments : List String}
  {opts : OpenOptions} {opened : NodeHandle × DescriptorType}

/-- The handle of what `FileTree.openFile` has opened. -/
def openedHandle (full root : Locator) (inode : Inode) : NodeHandle :=
  ⟨full, root, direntType inode, if direntType inode = .directory then none else some inode⟩

/-- How an open succeeds: a directory that is there is opened by its path, anything else by the
system. -/
inductive Opened (system : System) (files : Files) (base : NodeHandle) (segments : List String)
    (opts : OpenOptions) : NodeHandle × DescriptorType → Files → Prop where
  | directory {full : Locator} {inode : Inode}
      (guarded : guard files.tree base segments opts.follow = .ok full)
      (here : statCall opts.follow files.tree full = .ok inode)
      (isDirectory : direntType inode = .directory)
      (shared : ¬(opts.exclusive = true ∧ opts.create = true)) :
      Opened system files base segments opts (⟨full, base.root, .directory, none⟩, .directory) files
  | opened {full : Locator} {inode : Inode} {after : Files}
      (guarded : guard files.tree base segments opts.follow = .ok full)
      (opens : Opens system files full (openFlags opts) inode after) :
      Opened system files base segments opts (openedHandle full base.root inode, direntType inode)
        after

theorem ensures_openPath (full : Locator)
    (guarded : guard files.tree base segments opts.follow = .ok full) :
    Command.Ensures (fun _ after => Refused system files (openFlags opts) after)
      (openPath system full base.root opts)
      (fun opened after => Opened system files base segments opts opened after) files := by
  simp only [openPath, Command.ensures_bind]
  apply (ensures_openFile system files full (openFlags opts)).imp
  intro inode after opens
  have done := @Opened.opened system files base segments opts full inode after guarded opens
  rw [openedHandle] at done
  rw [Command.ensures_ite]
  constructor
  · intro isDirectory
    rwa [if_pos isDirectory] at done
  · intro other
    rwa [if_neg other] at done

theorem ensures_openAt :
    Command.Ensures (fun _ after => Refused system files (openFlags opts) after)
      (openAt system base segments opts)
      (fun opened after => Opened system files base segments opts opened after) files := by
  have unchanged : Refused system files (openFlags opts) files := .inl rfl
  simp only [openAt, Command.ensures_bind, Command.ensures_get, Command.ensures_lift]
  cases guarded : guard files.tree base segments opts.follow with
  | error errno => exact unchanged
  | ok full =>
      rw [Fallible.satisfies_ok]
      cases here : statCall opts.follow files.tree full with
      | error errno => exact ensures_openPath full guarded
      | ok existing =>
          simp only [Command.ensures_ite]
          refine ⟨fun _ => unchanged, fun _ => ⟨fun isDirectory => ?_, fun other => ?_⟩⟩
          · exact ⟨fun _ => unchanged, fun shared => .directory guarded here isDirectory shared⟩
          · exact ⟨fun _ => unchanged, fun _ => ensures_openPath full guarded⟩

theorem statCall_eq (follow : Bool) (tree : Tree) (path : Locator) :
    statCall follow tree path = Prod.snd <$> lookup tree follow path := by
  cases follow <;> rfl

theorem stat_of_statCall {tree : Tree} {follow : Bool} {path : Locator} {inode : Inode}
    (here : statCall follow tree path = .ok inode) (followed : direntType inode ≠ .symbolicLink) :
    stat tree path = .ok inode := by
  rw [statCall_eq] at here
  cases found : lookup tree follow path with
  | error errno => rw [found] at here; cases here
  | ok reached =>
      obtain ⟨locator, own⟩ := reached
      rw [found] at here
      obtain rfl : own = inode := by cases here; rfl
      obtain ⟨resolved, entry⟩ := lookup_eq_ok found
      have plain : Plain tree locator := by
        intro other target there link
        rw [entry, Option.some.injEq] at there
        subst there
        exact followed (by rw [direntType, link])
      rw [stat, lookup_settled (.of_plain plain) (.inl rfl) resolved entry]
      rfl

theorem follow_openFlags (opts : OpenOptions) :
    opts.follow = true ∨ opts.follow = (openFlags opts).follows := by
  cases follow : opts.follow with
  | true => exact .inl rfl
  | false => exact .inr (by simp [openFlags, OpenFlags.follows, follow])

/-- The descriptor is on the entry that the path leads to once the call is over, and has its type.
-/
theorem Opened.entry (success : Opened system files base segments opts opened after) :
    ∃ full inode, guard files.tree base segments opts.follow = .ok full ∧
      statCall opts.follow after.tree full = .ok inode ∧
      statHandle after.tree opened.1 = .ok inode ∧ opened.2 = direntType inode := by
  cases success with
  | @directory full inode guarded here isDirectory shared =>
      refine ⟨full, inode, guarded, here, ?_, isDirectory.symm⟩
      exact stat_of_statCall here (by rw [isDirectory]; nofun)
  | @opened full inode after guarded opens =>
      obtain ⟨locator, resolved, settles, entry⟩ := opens.settles
      have here : statCall opts.follow after.tree full = .ok inode := by
        rw [statCall_eq, lookup_settled settles (follow_openFlags opts) resolved entry]
        rfl
      refine ⟨full, inode, guarded, here, ?_, rfl⟩
      rw [openedHandle, statHandle]
      by_cases isDirectory : direntType inode = .directory
      · simp only [if_pos isDirectory]
        exact stat_of_statCall here (by rw [isDirectory]; nofun)
      · simp only [if_neg isDirectory]
        rfl

theorem Opened.resolved (success : Opened system files base segments opts opened after) :
    ∃ follow locator, resolve files.tree follow maxLinks [] (join base segments) = .ok locator := by
  cases success with
  | @directory full inode guarded here isDirectory shared =>
      rw [statCall_eq] at here
      cases found : lookup files.tree opts.follow full with
      | error errno => rw [found] at here; cases here
      | ok reached =>
          rw [← guard_join guarded]
          exact ⟨opts.follow, reached.1, (lookup_eq_ok found).1⟩
  | @opened full inode after guarded opens =>
      obtain ⟨locator, resolved, -⟩ := opens.settles
      rw [← guard_join guarded]
      exact ⟨_, locator, resolved⟩

end

end Polyengine.Wasi.Node
