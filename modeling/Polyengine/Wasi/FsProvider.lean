import Mathlib.Algebra.Group.Nat.Defs
import Polyengine.Library.Fallible

/-!
# The filesystem provider

The part of `makeFilesystem` that both tracks share: the values of the WIT boundary, the paths, the
permission checks, and the descriptor methods. A method checks its arguments and then makes at most
one backend call, or hands out a stream over the handle.
-/

set_option autoImplicit false

namespace Polyengine.Wasi

/-- `wasi:filesystem/types.error-code`. -/
inductive FsErrorCode where
  | access
  | wouldBlock
  | already
  | badDescriptor
  | busy
  | deadlock
  | quota
  | exist
  | fileTooLarge
  | illegalByteSequence
  | inProgress
  | interrupted
  | invalid
  | io
  | isDirectory
  | loop
  | tooManyLinks
  | messageSize
  | nameTooLong
  | noDevice
  | noEntry
  | noLock
  | insufficientMemory
  | insufficientSpace
  | notDirectory
  | notEmpty
  | notRecoverable
  | unsupported
  | noTty
  | noSuchDevice
  | overflow
  | notPermitted
  | pipe
  | readOnly
  | invalidSeek
  | textFileBusy
  | crossDevice
  deriving Repr, DecidableEq

inductive DescriptorType where
  | unknown
  | blockDevice
  | characterDevice
  | directory
  | fifo
  | symbolicLink
  | regularFile
  | socket
  deriving Repr, DecidableEq

/-- The payload of an error: the bare label of the 0.2 enum, or the variant case of 0.3. -/
inductive ErrorPayload where
  | label (code : FsErrorCode)
  | kind (code : FsErrorCode)
  deriving Repr, DecidableEq

abbrev ErrShape := FsErrorCode → ErrorPayload

def err02 : ErrShape := .label

def err03 : ErrShape := .kind

structure Datetime where
  seconds : Nat
  nanoseconds : Nat
  deriving Repr, DecidableEq

inductive TimeSpec where
  | noChange
  | now
  | timestamp (ns : Nat)
  deriving Repr, DecidableEq

inductive NewTimestampValue where
  | noChange
  | now
  | timestamp (value : Datetime)
  deriving Repr, DecidableEq

structure OpenOptions where
  follow : Bool
  create : Bool
  directory : Bool
  exclusive : Bool
  truncate : Bool
  read : Bool
  write : Bool
  deriving Repr, DecidableEq

structure DescriptorFlagsValue where
  read : Bool
  write : Bool
  fileIntegritySync : Bool
  dataIntegritySync : Bool
  requestedWriteSync : Bool
  mutateDirectory : Bool
  deriving Repr, DecidableEq

/-- `Partial<DescriptorFlagsValue>`: the flags that a guest passes. -/
structure RequestedFlags where
  read : Option Bool
  write : Option Bool
  fileIntegritySync : Option Bool
  dataIntegritySync : Option Bool
  requestedWriteSync : Option Bool
  mutateDirectory : Option Bool
  deriving Repr, DecidableEq

structure PathFlagsValue where
  symlinkFollow : Option Bool
  deriving Repr, DecidableEq

structure OpenFlagsValue where
  create : Option Bool
  directory : Option Bool
  exclusive : Option Bool
  truncate : Option Bool
  deriving Repr, DecidableEq

/-- `flag === true`. -/
def isTrue (flag : Option Bool) : Bool := flag == some true

/-- `Number(value)` of a bigint: the closest double, ties to the even one. -/
def toNumber (value : Nat) : Nat :=
  let unit := 2 ^ (value.log2 - 52)
  let below := value / unit
  let rest := value % unit
  if unit < 2 * rest ∨ (2 * rest = unit ∧ below % 2 = 1) then (below + 1) * unit else below * unit

theorem toNumber_of_le {value : Nat} (small : value ≤ 2 ^ 53) : toNumber value = value := by
  cases Nat.lt_or_eq_of_le small with
  | inl less =>
      have noShift : value.log2 - 52 = 0 := by
        cases Nat.eq_zero_or_pos value with
        | inl zero => simp [zero]
        | inr positive =>
            have : value.log2 < 53 := (Nat.log2_lt (Nat.pos_iff_ne_zero.mp positive)).mpr less
            omega
      simp [toNumber, noShift, Nat.mod_one]
  | inr equal =>
      subst equal
      decide

/-- What identifies an object of a backend. -/
structure FsIdentity where
  a : Nat
  b : Nat
  deriving Repr, DecidableEq

structure MetadataHashValue where
  lower : Nat
  upper : Nat
  deriving Repr, DecidableEq

def fnvRound (h byte : Nat) : Nat := ((h ^^^ byte) * 0x100000001b3) % 2 ^ 64

def fnvOffset : Nat := 0xcbf29ce484222325

/-- FNV-1a over the bytes of the words, the lowest byte of each word first. -/
def fnv64 (words : List Nat) : Nat :=
  words.foldl
    (fun h w => (List.range 8).foldl (fun h i => fnvRound h ((w >>> (i * 8)) &&& 0xff)) h)
    fnvOffset

def hashIdentity (id : FsIdentity) : MetadataHashValue where
  lower := fnv64 [id.a, id.b]
  upper := fnv64 [id.b ^^^ 0x9e3779b97f4a7c15, id.a]

/-- The calls of `FsBackend`, with their arguments. -/
inductive BackendCall (Handle : Type) where
  | openAt (base : Handle) (segments : List String) (opts : OpenOptions)
  | close (h : Handle)
  | stat (h : Handle)
  | statAt (base : Handle) (segments : List String) (follow : Bool)
  | read (h : Handle) (length offset : Nat)
  | write (h : Handle) (buffer : List UInt8) (offset : Nat)
  | append (h : Handle) (buffer : List UInt8)
  | setSize (h : Handle) (size : Nat)
  | setTimes (h : Handle) (atime mtime : TimeSpec)
  | setTimesAt (base : Handle) (segments : List String) (follow : Bool) (atime mtime : TimeSpec)
  | syncAll (h : Handle)
  | syncData (h : Handle)
  | readDirectory (h : Handle)
  | createDirectoryAt (base : Handle) (segments : List String)
  | removeDirectoryAt (base : Handle) (segments : List String)
  | unlinkFileAt (base : Handle) (segments : List String)
  | renameAt (oldBase : Handle) (oldSegments : List String) (newBase : Handle)
      (newSegments : List String)
  | linkAt (oldBase : Handle) (oldSegments : List String) (follow : Bool) (newBase : Handle)
      (newSegments : List String)
  | symlinkAt (target : String) (base : Handle) (segments : List String)
  | readlinkAt (base : Handle) (segments : List String)
  | identity (h : Handle)
  | identityAt (base : Handle) (segments : List String) (follow : Bool)
  | isSame (a b : Handle)
  deriving Repr, DecidableEq

/-- `newTimestampToSpec`. -/
def newTimestampToSpec : NewTimestampValue → TimeSpec
  | .noChange => .noChange
  | .now => .now
  | .timestamp value => .timestamp (value.seconds * 1000000000 + value.nanoseconds)

/-- The loop of `parsePath` over the segments; `out` holds the segments so far. -/
def resolveSegments (shape : ErrShape) : List String → List String → Except ErrorPayload (List String)
  | [], out => return out
  | seg :: rest, out =>
      if seg = "" ∨ seg = "." then resolveSegments shape rest out
      else if seg = ".." then
        if out = [] then throw (shape .notPermitted)
        else resolveSegments shape rest out.dropLast
      else resolveSegments shape rest (out ++ [seg])

def parsePath (path : String) (shape : ErrShape) : Except ErrorPayload (List String) :=
  if Char.ofNat 0 ∈ path.toList then throw (shape .invalid)
  else if path.toList.head? = some '/' then throw (shape .notPermitted)
  else resolveSegments shape ((path.toList.splitOn '/').map String.ofList) []

def requireFinal (segments : List String) (shape : ErrShape) :
    Except ErrorPayload (List String) :=
  if segments = [] then throw (shape .invalid) else return segments

structure Core (Handle : Type) where
  h : Handle
  type : DescriptorType
  flags : DescriptorFlagsValue
  deriving Repr, DecidableEq

/-- Where the next chunk of a write stream goes. -/
inductive WriteTarget where
  | cursor (offset : Nat)
  | append
  deriving Repr, DecidableEq

/-- What feeds the chunks of a write stream: the synchronous stream of 0.2, the one over an
asynchronous backend, or the loop over the stream of the guest in 0.3. -/
inductive WriteSurface where
  | outputStream
  | sinkOutputStream
  | future
  deriving Repr, DecidableEq

structure FileWriter (Handle : Type) where
  surface : WriteSurface
  h : Handle
  target : WriteTarget
  deriving Repr, DecidableEq

def FileWriter.call {Handle : Type} (writer : FileWriter Handle) (chunk : List UInt8) :
    BackendCall Handle :=
  match writer.target with
  | .cursor offset => .write writer.h chunk offset
  | .append => .append writer.h chunk

/-- `cursor += count`, as an addition of doubles; an append has no cursor. -/
def FileWriter.advance {Handle : Type} (writer : FileWriter Handle) (count : Nat) :
    FileWriter Handle :=
  match writer.target with
  | .cursor offset => { writer with target := .cursor (toNumber (offset + count)) }
  | .append => writer

structure FileReader (Handle : Type) where
  h : Handle
  cursor : Nat
  deriving Repr, DecidableEq

def FileReader.call {Handle : Type} (reader : FileReader Handle) (length : Nat) :
    BackendCall Handle := .read reader.h length reader.cursor

def FileReader.advance {Handle : Type} (reader : FileReader Handle) (count : Nat) :
    FileReader Handle := { reader with cursor := toNumber (reader.cursor + count) }

/-- What a descriptor method does once its checks pass: nothing, one backend call, an open whose
result becomes a descriptor with `flags`, or a stream. -/
inductive Effect (Handle : Type) where
  | done
  | call (call : BackendCall Handle)
  | opens (base : Handle) (segments : List String) (opts : OpenOptions)
      (flags : DescriptorFlagsValue)
  | reads (reader : FileReader Handle)
  | writes (writer : FileWriter Handle)
  deriving Repr, DecidableEq

/-- What `makeFilesystem` closes over: the grant of the package, and what the backend offers. -/
structure Provider where
  writable : Bool
  isSync : Bool
  hasLinkAt : Bool
  hasSymlinkAt : Bool
  hasReadlinkAt : Bool
  deriving Repr, DecidableEq

def decodeOpen (pf : PathFlagsValue) (of : OpenFlagsValue) (df : RequestedFlags) : OpenOptions where
  follow := isTrue pf.symlinkFollow
  create := isTrue of.create
  directory := isTrue of.directory
  exclusive := isTrue of.exclusive
  truncate := isTrue of.truncate
  read := isTrue df.read
  write := isTrue df.write || isTrue df.mutateDirectory

namespace Provider

variable {Handle : Type} (provider : Provider)

def flagsValue (df : RequestedFlags) : DescriptorFlagsValue where
  read := isTrue df.read
  write := provider.writable && isTrue df.write
  fileIntegritySync := isTrue df.fileIntegritySync
  dataIntegritySync := isTrue df.dataIntegritySync
  requestedWriteSync := isTrue df.requestedWriteSync
  mutateDirectory := provider.writable && isTrue df.mutateDirectory

/-- `PREOPEN_FLAGS`. -/
def preopenFlags : DescriptorFlagsValue :=
  provider.flagsValue
    { read := some true
      write := some true
      fileIntegritySync := none
      dataIntegritySync := none
      requestedWriteSync := none
      mutateDirectory := some true }

def requireWritable (shape : ErrShape) : Except ErrorPayload Unit :=
  if provider.writable then return () else throw (shape .readOnly)

/-- The opens that ask for write access, or for a file to be created or truncated. -/
def asksToMutate (of : OpenFlagsValue) (df : RequestedFlags) : Bool :=
  isTrue df.write || isTrue df.mutateDirectory || isTrue of.create || isTrue of.truncate ||
    isTrue of.exclusive

def requireOpenAllowed (of : OpenFlagsValue) (df : RequestedFlags) (shape : ErrShape) :
    Except ErrorPayload Unit :=
  if provider.writable then return ()
  else if asksToMutate of df then throw (shape .readOnly)
  else return ()

def requireFile (c : Core Handle) (shape : ErrShape) : Except ErrorPayload Unit :=
  if c.type = .directory then throw (shape .isDirectory) else return ()

def requireDir (c : Core Handle) (shape : ErrShape) : Except ErrorPayload Unit :=
  if c.type = .directory then return () else throw (shape .notDirectory)

def requireRead (c : Core Handle) (shape : ErrShape) : Except ErrorPayload Unit :=
  if c.flags.read then return () else throw (shape .badDescriptor)

def requireFileWrite (c : Core Handle) (shape : ErrShape) : Except ErrorPayload Unit :=
  if c.flags.write then return () else throw (shape .badDescriptor)

def requireDirMutate (c : Core Handle) (shape : ErrShape) : Except ErrorPayload Unit :=
  if c.flags.mutateDirectory then return () else throw (shape .readOnly)

/-- `backend.linkAt === undefined` and its kind. -/
def requireOffered (offered : Bool) (shape : ErrShape) : Except ErrorPayload Unit :=
  if offered then return () else throw (shape .unsupported)

/-! ## The methods, with the error shape of the track -/

variable (shape : ErrShape) (c : Core Handle)

def readViaStream (offset : Nat) : Except ErrorPayload (Effect Handle) := do
  requireFile c shape
  requireRead c shape
  return .reads { h := c.h, cursor := toNumber offset }

def writeViaStream (surface : WriteSurface) (offset : Nat) :
    Except ErrorPayload (Effect Handle) := do
  provider.requireWritable shape
  requireFile c shape
  requireFileWrite c shape
  return .writes { surface, h := c.h, target := .cursor (toNumber offset) }

def appendViaStream (surface : WriteSurface) : Except ErrorPayload (Effect Handle) := do
  provider.requireWritable shape
  requireFile c shape
  requireFileWrite c shape
  return .writes { surface, h := c.h, target := .append }

def getFlags : DescriptorFlagsValue := c.flags

def advise : Except ErrorPayload (Effect Handle) := do
  requireFile c shape
  return .done

def syncData : Except ErrorPayload (Effect Handle) := return .call (.syncData c.h)

def setSize (size : Nat) : Except ErrorPayload (Effect Handle) := do
  provider.requireWritable shape
  requireFileWrite c shape
  return .call (.setSize c.h (toNumber size))

def setTimes (atime mtime : NewTimestampValue) : Except ErrorPayload (Effect Handle) := do
  provider.requireWritable shape
  if c.type = .directory then requireDirMutate c shape else requireFileWrite c shape
  return .call (.setTimes c.h (newTimestampToSpec atime) (newTimestampToSpec mtime))

def read (length offset : Nat) : Except ErrorPayload (Effect Handle) := do
  requireFile c shape
  requireRead c shape
  return .call (.read c.h (toNumber length) (toNumber offset))

def write (buffer : List UInt8) (offset : Nat) : Except ErrorPayload (Effect Handle) := do
  provider.requireWritable shape
  requireFile c shape
  requireFileWrite c shape
  return .call (.write c.h buffer (toNumber offset))

def readDirectory : Except ErrorPayload (Effect Handle) := do
  requireDir c shape
  return .call (.readDirectory c.h)

def sync : Except ErrorPayload (Effect Handle) := return .call (.syncAll c.h)

def createDirectoryAt (path : String) : Except ErrorPayload (Effect Handle) := do
  provider.requireWritable shape
  requireDir c shape
  requireDirMutate c shape
  let segments ← requireFinal (← parsePath path shape) shape
  return .call (.createDirectoryAt c.h segments)

def stat : Except ErrorPayload (Effect Handle) := return .call (.stat c.h)

def statAt (pathFlags : PathFlagsValue) (path : String) : Except ErrorPayload (Effect Handle) := do
  let segments ← parsePath path shape
  return .call (.statAt c.h segments (isTrue pathFlags.symlinkFollow))

def setTimesAt (pathFlags : PathFlagsValue) (path : String) (atime mtime : NewTimestampValue) :
    Except ErrorPayload (Effect Handle) := do
  provider.requireWritable shape
  requireDir c shape
  requireDirMutate c shape
  let segments ← parsePath path shape
  return .call (.setTimesAt c.h segments (isTrue pathFlags.symlinkFollow)
    (newTimestampToSpec atime) (newTimestampToSpec mtime))

def linkAt (oldPathFlags : PathFlagsValue) (oldPath : String) (newDescriptor : Core Handle)
    (newPath : String) : Except ErrorPayload (Effect Handle) := do
  provider.requireWritable shape
  requireOffered provider.hasLinkAt shape
  requireDir c shape
  requireDirMutate c shape
  requireDir newDescriptor shape
  requireDirMutate newDescriptor shape
  let oldSegments ← requireFinal (← parsePath oldPath shape) shape
  let newSegments ← requireFinal (← parsePath newPath shape) shape
  return .call (.linkAt c.h oldSegments (isTrue oldPathFlags.symlinkFollow) newDescriptor.h
    newSegments)

def openAt (pathFlags : PathFlagsValue) (path : String) (openFlags : OpenFlagsValue)
    (flags : RequestedFlags) : Except ErrorPayload (Effect Handle) := do
  provider.requireOpenAllowed openFlags flags shape
  requireDir c shape
  if asksToMutate openFlags flags then requireDirMutate c shape
  let segments ← parsePath path shape
  return .opens c.h segments (decodeOpen pathFlags openFlags flags) (provider.flagsValue flags)

def readlinkAt (path : String) : Except ErrorPayload (Effect Handle) := do
  requireOffered provider.hasReadlinkAt shape
  let segments ← requireFinal (← parsePath path shape) shape
  return .call (.readlinkAt c.h segments)

def removeDirectoryAt (path : String) : Except ErrorPayload (Effect Handle) := do
  provider.requireWritable shape
  requireDir c shape
  requireDirMutate c shape
  let segments ← requireFinal (← parsePath path shape) shape
  return .call (.removeDirectoryAt c.h segments)

def renameAt (oldPath : String) (newDescriptor : Core Handle) (newPath : String) :
    Except ErrorPayload (Effect Handle) := do
  provider.requireWritable shape
  requireDir c shape
  requireDirMutate c shape
  requireDir newDescriptor shape
  requireDirMutate newDescriptor shape
  let oldSegments ← requireFinal (← parsePath oldPath shape) shape
  let newSegments ← requireFinal (← parsePath newPath shape) shape
  return .call (.renameAt c.h oldSegments newDescriptor.h newSegments)

def symlinkAt (oldPath newPath : String) : Except ErrorPayload (Effect Handle) := do
  provider.requireWritable shape
  requireOffered provider.hasSymlinkAt shape
  requireDir c shape
  requireDirMutate c shape
  -- The old path is the contents of the link, not a path that is looked up.
  let segments ← requireFinal (← parsePath newPath shape) shape
  return .call (.symlinkAt oldPath c.h segments)

def unlinkFileAt (path : String) : Except ErrorPayload (Effect Handle) := do
  provider.requireWritable shape
  requireDir c shape
  requireDirMutate c shape
  let segments ← requireFinal (← parsePath path shape) shape
  return .call (.unlinkFileAt c.h segments)

def isSameObject (other : Core Handle) : Except ErrorPayload (Effect Handle) :=
  return .call (.isSame c.h other.h)

def metadataHash : Except ErrorPayload (Effect Handle) := return .call (.identity c.h)

def metadataHashAt (pathFlags : PathFlagsValue) (path : String) :
    Except ErrorPayload (Effect Handle) := do
  let segments ← parsePath path shape
  return .call (.identityAt c.h segments (isTrue pathFlags.symlinkFollow))

end Provider

/-! ## The two tracks -/

inductive Track where
  | wasi02
  | wasi03
  deriving Repr, DecidableEq

/-- The methods of a descriptor with their arguments, other than the second descriptor of `linkAt`,
`renameAt` and `isSameObject`. -/
inductive Operation where
  | readViaStream (offset : Nat)
  | writeViaStream (offset : Nat)
  | appendViaStream
  | advise
  | syncData
  | setSize (size : Nat)
  | setTimes (atime mtime : NewTimestampValue)
  | read (length offset : Nat)
  | write (buffer : List UInt8) (offset : Nat)
  | readDirectory
  | sync
  | createDirectoryAt (path : String)
  | stat
  | statAt (pathFlags : PathFlagsValue) (path : String)
  | setTimesAt (pathFlags : PathFlagsValue) (path : String) (atime mtime : NewTimestampValue)
  | linkAt (oldPathFlags : PathFlagsValue) (oldPath newPath : String)
  | openAt (pathFlags : PathFlagsValue) (path : String) (openFlags : OpenFlagsValue)
      (flags : RequestedFlags)
  | readlinkAt (path : String)
  | removeDirectoryAt (path : String)
  | renameAt (oldPath newPath : String)
  | symlinkAt (oldPath newPath : String)
  | unlinkFileAt (path : String)
  | isSameObject
  | metadataHash
  | metadataHashAt (pathFlags : PathFlagsValue) (path : String)
  deriving Repr, DecidableEq

section Tracks

variable {Handle : Type} (provider : Provider) (c other : Core Handle)

def Operation.takesTwo : Operation → Bool
  | .linkAt .. | .renameAt .. | .isSameObject => true
  | _ => false

/-- The methods that both descriptor classes share; `other` is the second descriptor. -/
def Provider.invoke (shape : ErrShape) (surface : WriteSurface) :
    Operation → Except ErrorPayload (Effect Handle)
  | .readViaStream offset => readViaStream shape c offset
  | .writeViaStream offset => provider.writeViaStream shape c surface offset
  | .appendViaStream => provider.appendViaStream shape c surface
  | .advise => advise shape c
  | .syncData => syncData c
  | .setSize size => provider.setSize shape c size
  | .setTimes atime mtime => provider.setTimes shape c atime mtime
  | .read length offset => read shape c length offset
  | .write buffer offset => provider.write shape c buffer offset
  | .readDirectory => readDirectory shape c
  | .sync => sync c
  | .createDirectoryAt path => provider.createDirectoryAt shape c path
  | .stat => stat c
  | .statAt pathFlags path => statAt shape c pathFlags path
  | .setTimesAt pathFlags path atime mtime => provider.setTimesAt shape c pathFlags path atime mtime
  | .linkAt oldPathFlags oldPath newPath =>
      provider.linkAt shape c oldPathFlags oldPath other newPath
  | .openAt pathFlags path openFlags flags =>
      provider.openAt shape c pathFlags path openFlags flags
  | .readlinkAt path => provider.readlinkAt shape c path
  | .removeDirectoryAt path => provider.removeDirectoryAt shape c path
  | .renameAt oldPath newPath => provider.renameAt shape c oldPath other newPath
  | .symlinkAt oldPath newPath => provider.symlinkAt shape c oldPath newPath
  | .unlinkFileAt path => provider.unlinkFileAt shape c path
  | .isSameObject => isSameObject c other
  | .metadataHash => metadataHash c
  | .metadataHashAt pathFlags path => metadataHashAt shape c pathFlags path

def Descriptor02.invoke : Operation → Except ErrorPayload (Effect Handle) :=
  provider.invoke c other err02 (if provider.isSync then .outputStream else .sinkOutputStream)

/-- `Descriptor03` has no positional `read` and `write`. -/
def Descriptor03.invoke : Operation → Except ErrorPayload (Effect Handle)
  | .read _ _ | .write _ _ => return .done
  | operation => provider.invoke c other err03 .future operation

def Track.invoke : Track → Operation → Except ErrorPayload (Effect Handle)
  | .wasi02 => Descriptor02.invoke provider c other
  | .wasi03 => Descriptor03.invoke provider c other

end Tracks

end Polyengine.Wasi
