import Mathlib.Algebra.GroupWithZero.Nat
import Mathlib.Logic.Function.Basic
import Polyengine.Library.Command
import Polyengine.Wasi.FsProvider

/-!
# The web filesystem backend

The backend over the origin private file system. A handle of the platform is a kind and a locator,
the path of the entry from the root of the storage; every call of the platform may be rejected.
-/

set_option autoImplicit false

namespace Polyengine.Wasi.Web

open Polyengine.Library

/-! ## The platform -/

abbrev Locator := List String

inductive Entry where
  | file (content : List UInt8)
  | directory
  deriving Repr, DecidableEq

abbrev Tree := Locator → Option Entry

/-- What is below a locator is below a directory. -/
def Tree.WellFormed (tree : Tree) : Prop :=
  ∀ locator name, tree (locator ++ [name]) ≠ none → tree locator = some .directory

/-- A rejection of the platform, by the name of its exception, or an error with a WIT code. -/
inductive Failure where
  | dom (name : String)
  | coded (code : FsErrorCode) (message : String)
  deriving Repr, DecidableEq

def NotFoundError : Failure := .dom "NotFoundError"

def TypeMismatchError : Failure := .dom "TypeMismatchError"

inductive HandleKind where
  | file
  | directory
  deriving Repr, DecidableEq

structure OpfsHandle where
  kind : HandleKind
  locator : Locator
  deriving Repr, DecidableEq

/-- The paths that one method walks. -/
inductive Walk where
  | first
  | second
  | again
  deriving Repr, DecidableEq

/-- The calls of the platform, by where the backend makes them. -/
inductive Site where
  | walk (walk : Walk) (index : Nat)
  | getFileHandle
  | getDirectoryHandle
  | openDirectory
  | getFile
  | arrayBuffer
  | create
  | createWritable
  | write
  | close
  | removeEntry
  | move
  deriving Repr, DecidableEq

/-- What a platform does: which of the calls it rejects, what a writable holds after a write that
failed (nothing when the failure has errored it), whether handles have `move`, and whether `move`
replaces a file. -/
structure Platform where
  rejects : Site → Option Failure
  spoiled : List UInt8 → List UInt8 → Option (List UInt8)
  moves : Bool
  replaces : Bool

abbrev Call (Result : Type) := Command Tree Failure Result

namespace Platform

variable (platform : Platform)

def answer (site : Site) : Call Unit :=
  match platform.rejects site with
  | some failure => throw failure
  | none => pure ()

def getDirectoryHandle (site : Site) (dir : Locator) (name : String) (create : Bool) :
    Call OpfsHandle := do
  platform.answer site
  let tree ← get
  match tree (dir ++ [name]) with
  | some .directory => return ⟨.directory, dir ++ [name]⟩
  | some (.file _) => throw TypeMismatchError
  | none =>
      if create = true ∧ tree dir = some .directory then
        set (Function.update tree (dir ++ [name]) (some .directory))
        return ⟨.directory, dir ++ [name]⟩
      else throw NotFoundError

def getFileHandle (site : Site) (dir : Locator) (name : String) (create : Bool) :
    Call OpfsHandle := do
  platform.answer site
  let tree ← get
  match tree (dir ++ [name]) with
  | some (.file _) => return ⟨.file, dir ++ [name]⟩
  | some .directory => throw TypeMismatchError
  | none =>
      if create = true ∧ tree dir = some .directory then
        set (Function.update tree (dir ++ [name]) (some (.file [])))
        return ⟨.file, dir ++ [name]⟩
      else throw NotFoundError

def getFile (file : Locator) : Call (List UInt8) := do
  platform.answer .getFile
  match (← get) file with
  | some (.file content) => return content
  | _ => throw NotFoundError

def createWritable (file : Locator) (keepExistingData : Bool) : Call (List UInt8) := do
  platform.answer .createWritable
  match (← get) file with
  | some (.file content) => return if keepExistingData = true then content else []
  | _ => throw NotFoundError

/-- The data over the content at the position, with zeros before it where the content is shorter. -/
def splice (content : List UInt8) (position : Nat) (data : List UInt8) : List UInt8 :=
  content.take position ++ List.replicate (position - content.length) 0 ++ data ++
    content.drop (position + data.length)

def write (content : List UInt8) (position : Nat) (data : List UInt8) :
    Option (List UInt8) × Option Failure :=
  match platform.rejects .write with
  | none => (some (splice content position data), none)
  | some failure => (platform.spoiled content data, some failure)

/-- Closing commits what the writable holds; an errored one cannot be closed. -/
def close (file : Locator) (holds : Option (List UInt8)) : Call Unit := do
  match holds with
  | none => throw (.dom "TypeError")
  | some content =>
      platform.answer .close
      modify fun tree => Function.update tree file (some (.file content))

def removeEntry (dir : Locator) (name : String) : Call Unit := do
  platform.answer .removeEntry
  match (← get) (dir ++ [name]) with
  | some _ => modify fun tree => Function.update tree (dir ++ [name]) none
  | none => throw NotFoundError

/-- The tree once the entry, with what is below it, has moved. -/
def relocate (tree : Tree) (source dest : Locator) : Tree := fun locator =>
  if dest <+: locator then tree (source ++ locator.drop dest.length)
  else if source <+: locator then none
  else tree locator

/-- `FileSystemHandle.move`. -/
def move (target : OpfsHandle) (dir : Locator) (name : String) : Call Unit := do
  platform.answer .move
  let tree ← get
  if dir ++ [name] = target.locator then pure ()
  else if target.locator <+: dir ++ [name] then throw (.dom "InvalidModificationError")
  else
    match tree (dir ++ [name]) with
    | none => set (relocate tree target.locator (dir ++ [name]))
    | some (.file _) =>
        if platform.replaces = true ∧ target.kind = .file then
          set (relocate tree target.locator (dir ++ [name]))
        else throw (.dom "InvalidModificationError")
    | some .directory => throw (.dom "InvalidModificationError")

end Platform

/-! ## The backend -/

/-- A descriptor handle: the handle of the platform plus its guest path. -/
structure WebHandle where
  handle : OpfsHandle
  path : String
  deriving Repr, DecidableEq

def childPath (base : WebHandle) (segments : List String) : String :=
  if segments = [] then base.path else base.path ++ "/" ++ "/".intercalate segments

/-- The segments that `requireFinal` lets through. -/
abbrev FinalSegments := { segments : List String // segments ≠ [] }

def FinalSegments.parents (segments : FinalSegments) : List String := segments.val.dropLast

def FinalSegments.name (segments : FinalSegments) : String := segments.val.getLast segments.property

/-! ### Identity -/

/-- FNV-1a over the guest path, and its length in UTF-16 code units. -/
def pathIdentity (path : String) : FsIdentity where
  a := (path.toList.flatMap String.utf8EncodeChar).foldl (fun h byte => fnvRound h byte.toNat)
    fnvOffset
  b := (path.toList.map fun char => if char.toNat < 0x10000 then 1 else 2).sum

def identity (h : WebHandle) : FsIdentity := pathIdentity h.path

/-- Whether two handles of the platform are on the same entry: of one kind, at one locator. -/
def OpfsHandle.isSameEntry (a b : OpfsHandle) : Bool := a == b

def isSame (a b : WebHandle) : Bool := a.handle.isSameEntry b.handle

section

variable (platform : Platform)

def requireDir (h : WebHandle) : Call Locator :=
  match h.handle.kind with
  | .directory => return h.handle.locator
  | .file => throw (.coded .notDirectory (h.path ++ ": not a directory"))

def requireFile (h : WebHandle) : Call Locator :=
  match h.handle.kind with
  | .file => return h.handle.locator
  | .directory => throw (.coded .isDirectory (h.path ++ ": is a directory"))

/-- The loop of `walk`, from the segment with the index on. -/
def walkFrom (walk : Walk) : Nat → List String → Locator → Call Locator
  | _, [], dir => return dir
  | index, seg :: segments, dir => do
      let next ← platform.getDirectoryHandle (.walk walk index) dir seg false
      walkFrom walk (index + 1) segments next.locator

def walk (walk : Walk) (base : WebHandle) (segments : List String) : Call Locator := do
  walkFrom platform walk 0 segments (← requireDir base)

def parentOf (walk' : Walk) (base : WebHandle) (segments : FinalSegments) : Call Locator :=
  walk platform walk' base segments.parents

/-- `resolve` of segments that are not empty. -/
def resolveFinal (base : WebHandle) (segments : FinalSegments) : Call OpfsHandle := do
  let parent ← parentOf platform .first base segments
  tryCatch (platform.getFileHandle .getFileHandle parent segments.name false) fun e =>
    if e = TypeMismatchError then
      platform.getDirectoryHandle .getDirectoryHandle parent segments.name false
    else throw e

def resolve (base : WebHandle) (segments : List String) : Call OpfsHandle :=
  if nonempty : segments ≠ [] then resolveFinal platform base ⟨segments, nonempty⟩
  else return base.handle

def identityAt (base : WebHandle) (segments : List String) : Call FsIdentity := do
  let _ ← resolve platform base segments
  return pathIdentity (childPath base segments)

/-- What opening a path finds there; a file that is missing is nothing. -/
def existingAt (parent : Locator) (name : String) : Call (Option OpfsHandle) :=
  tryCatch (some <$> platform.getFileHandle .getFileHandle parent name false) fun e =>
    if e = TypeMismatchError then
      some <$> platform.getDirectoryHandle .getDirectoryHandle parent name false
    else if e = NotFoundError then return none
    else throw e

def handleType (handle : OpfsHandle) : DescriptorType :=
  match handle.kind with
  | .file => .regularFile
  | .directory => .directory

def openAt (base : WebHandle) (segments : List String) (opts : OpenOptions) :
    Call (WebHandle × DescriptorType) := do
  let path := childPath base segments
  if nonempty : segments ≠ [] then
    let final : FinalSegments := ⟨segments, nonempty⟩
    let parent ← parentOf platform .first base final
    if opts.directory = true then
      let dir ← platform.getDirectoryHandle .openDirectory parent final.name opts.create
      return (⟨dir, path⟩, .directory)
    else
      match ← existingAt platform parent final.name with
      | some existing =>
          if existing.kind = .directory then
            if opts.create = true ∧ opts.exclusive = true then
              throw (.coded .exist (path ++ ": exists"))
            else return (⟨existing, path⟩, .directory)
          else if opts.create = true ∧ opts.exclusive = true then
            throw (.coded .exist (path ++ ": exists"))
          else openFile existing path
      | none =>
          openFile (← platform.getFileHandle .create parent final.name opts.create) path
  else if opts.exclusive = true ∧ opts.create = true then
    throw (.coded .exist (path ++ ": exists"))
  else return (⟨base.handle, path⟩, handleType base.handle)
where
  /-- The truncation of the file that was found or created. -/
  openFile (file : OpfsHandle) (path : String) : Call (WebHandle × DescriptorType) := do
    if opts.truncate = true then
      let content ← platform.createWritable file.locator false
      platform.close file.locator (some content)
    return (⟨file, path⟩, .regularFile)

/-- Writing and then closing, which happens in any case. -/
def commit (file : Locator) (content : List UInt8) (position : Nat) (data : List UInt8) :
    Call Unit := do
  let (holds, thrown) := platform.write content position data
  platform.close file holds
  match thrown with
  | some failure => throw failure
  | none => pure ()

def writeAt (file : Locator) (data : List UInt8) (position : Nat) : Call Unit := do
  let content ← platform.createWritable file true
  commit platform file content position data

def write (h : WebHandle) (buffer : List UInt8) (offset : Nat) : Call Nat := do
  writeAt platform (← requireFile h) buffer offset
  return buffer.length

def append (h : WebHandle) (buffer : List UInt8) : Call Nat := do
  let file ← requireFile h
  let size := (← platform.getFile file).length
  writeAt platform file buffer size
  return buffer.length

def renameAt (oldBase : WebHandle) (oldSegments : FinalSegments) (newBase : WebHandle)
    (newSegments : FinalSegments) : Call Unit := do
  let target ← resolveFinal platform oldBase oldSegments
  let newParent ← parentOf platform .second newBase newSegments
  if platform.moves = true then platform.move target newParent newSegments.name
  else if target.kind = .directory then
    throw (.coded .unsupported "OPFS: directory rename requires FileSystemHandle.move")
  else
    let bytes ← platform.getFile target.locator
    platform.answer .arrayBuffer
    let dest ← platform.getFileHandle .create newParent newSegments.name true
    let content ← platform.createWritable dest.locator false
    commit platform dest.locator content 0 bytes
    let oldParent ← parentOf platform .again oldBase oldSegments
    platform.removeEntry oldParent oldSegments.name

end

end Polyengine.Wasi.Web
