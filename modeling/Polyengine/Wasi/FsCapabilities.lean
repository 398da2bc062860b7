import Mathlib.Logic.Relation
import Polyengine.Library.Transition
import Polyengine.Wasi.FsProvider

/-!
# Filesystem capabilities

The descriptors of one provider over a run: the guest calls their methods in any order, opens become
descriptors when the backend answers, and streams write when their surface hands them a chunk. The
record of the backend calls says which descriptors each was made through.
-/

set_option autoImplicit false

namespace Polyengine.Wasi

open Polyengine.Library

variable {Handle : Type}

namespace BackendCall

def mutating : BackendCall Handle → Bool
  | .openAt _ _ opts => opts.write || opts.create || opts.truncate || opts.exclusive
  | .write .. | .append .. | .setSize .. | .setTimes .. | .setTimesAt .. => true
  | .createDirectoryAt .. | .removeDirectoryAt .. | .unlinkFileAt .. => true
  | .renameAt .. | .linkAt .. | .symlinkAt .. => true
  | .close _ | .stat _ | .statAt .. | .read .. | .syncAll _ | .syncData _ => false
  | .readDirectory _ | .readlinkAt .. | .identity _ | .identityAt .. | .isSame .. => false

/-- The calls that change two directories. -/
def twoEnded : BackendCall Handle → Bool
  | .renameAt .. | .linkAt .. => true
  | _ => false

def setsSize : BackendCall Handle → Bool
  | .setSize .. => true
  | _ => false

end BackendCall

/-! ## The machine -/

/-- A descriptor that a guest holds, and the descriptor that it was opened through. -/
structure OpenDescriptor (Handle : Type) where
  track : Track
  base : Option Nat
  core : Core Handle
  deriving Repr, DecidableEq

/-- An open whose answer the backend has not given yet. -/
structure Opening where
  track : Track
  base : Nat
  flags : DescriptorFlagsValue
  deriving Repr, DecidableEq

structure Invocation (Handle : Type) where
  through : List Nat
  call : BackendCall Handle
  deriving Repr, DecidableEq

structure FsState (Handle : Type) where
  descriptors : List (OpenDescriptor Handle)
  opening : List Opening
  readers : List (Nat × FileReader Handle)
  writers : List (Nat × FileWriter Handle)
  invoked : List (Invocation Handle)
  deriving Repr, DecidableEq

inductive FsAction (Handle : Type) where
  | getDirectories (track : Track)
  | invoke (d other : Nat) (operation : Operation)
  | opened (opening : Nat) (handle : Handle) (type : DescriptorType)
  | openFailed (opening : Nat)
  | readChunk (reader length : Nat)
  | readDone (reader count : Nat)
  | writeChunk (writer : Nat) (chunk : List UInt8)
  | written (writer count : Nat)
  | dispose (d : Nat)
  deriving Repr, DecidableEq

namespace FsState

def start : FsState Handle where
  descriptors := []
  opening := []
  readers := []
  writers := []
  invoked := []

def log (state : FsState Handle) (through : List Nat) (call : BackendCall Handle) :
    FsState Handle :=
  { state with invoked := state.invoked ++ [{ through, call }] }

/-- Carry out what a method of descriptor `d` decided on. -/
def perform (state : FsState Handle) (track : Track) (d : Nat) (through : List Nat) :
    Effect Handle → FsState Handle
  | .done => state
  | .call call => state.log through call
  | .opens base segments opts flags =>
      { state.log through (.openAt base segments opts) with
        opening := state.opening ++ [{ track, base := d, flags }] }
  | .reads reader => { state with readers := state.readers ++ [(d, reader)] }
  | .writes writer => { state with writers := state.writers ++ [(d, writer)] }

def second (state : FsState Handle) (opened : OpenDescriptor Handle) (other : Nat)
    (operation : Operation) : Option (OpenDescriptor Handle) :=
  if operation.takesTwo then
    (state.descriptors[other]?).filter fun second => second.track = opened.track
  else some opened

/-- The descriptors that the call of an operation is made through. -/
def ends (d other : Nat) (operation : Operation) : List Nat :=
  if operation.takesTwo then [d, other] else [d]

def invoke (provider : Provider) (d other : Nat) (operation : Operation)
    (state : FsState Handle) : FsState Handle :=
  match state.descriptors[d]? with
  | none => state
  | some opened =>
      match state.second opened other operation with
      | none => state
      | some second =>
          match opened.track.invoke provider opened.core second.core operation with
          | .error _ => state
          | .ok effect => state.perform opened.track d (ends d other operation) effect

/-- One step: a call of the guest, an answer of the backend, or the progress of a stream. -/
def step (provider : Provider) (preopens : List (Handle × String)) (action : FsAction Handle)
    (state : FsState Handle) : FsState Handle :=
  match action with
  | .getDirectories track =>
      { state with
        descriptors := state.descriptors ++ preopens.map fun preopen =>
          { track
            base := none
            core :=
              { h := preopen.1
                type := .directory
                flags := provider.preopenFlags } } }
  | .invoke d other operation => state.invoke provider d other operation
  | .opened opening handle type =>
      match state.opening[opening]? with
      | none => state
      | some pending =>
          { state with
            opening := state.opening.eraseIdx opening
            descriptors := state.descriptors ++
              [{ track := pending.track
                 base := some pending.base
                 core :=
                  { h := handle
                    type
                    flags := pending.flags } }] }
  | .openFailed opening => { state with opening := state.opening.eraseIdx opening }
  | .readChunk reader length =>
      match state.readers[reader]? with
      | none => state
      | some (d, stream) => state.log [d] (stream.call length)
  | .readDone reader count =>
      { state with
        readers := state.readers.modify reader fun entry => (entry.1, entry.2.advance count) }
  | .writeChunk writer chunk =>
      match state.writers[writer]? with
      | none => state
      | some (d, stream) => state.log [d] (stream.call chunk)
  | .written writer count =>
      { state with
        writers := state.writers.modify writer fun entry => (entry.1, entry.2.advance count) }
  | .dispose d =>
      match state.descriptors[d]? with
      | none => state
      | some opened => state.log [d] (.close opened.core.h)

end FsState

/-! ## What a method may do -/

/-- The permission that a descriptor needs for a call that changes something. The size of a directory
is set with the permission of a file. -/
def Permits (c : Core Handle) (call : BackendCall Handle) : Prop :=
  if c.type = .directory then
    c.flags.mutateDirectory = true ∨ (call.setsSize = true ∧ c.flags.write = true)
  else c.flags.write = true

/-- The flags let a descriptor change something. -/
def DescriptorFlagsValue.mutable (flags : DescriptorFlagsValue) : Bool :=
  flags.write || flags.mutateDirectory

/-- What the calls through descriptor `c` rest on. -/
def Grounded (provider : Provider) (c : Core Handle) (call : BackendCall Handle) : Prop :=
  (call.mutating = true → provider.writable = true ∧ Permits c call) ∧
    (call.twoEnded = true → c.flags.mutateDirectory = true)

/-- An effect of a method of `c`, where `second` is the other descriptor of the operation. -/
def Effect.Grounded (provider : Provider) (c second : Core Handle) : Effect Handle → Prop
  | .done => True
  | .call request => Wasi.Grounded provider c request ∧ Wasi.Grounded provider second request
  | .opens base segments opts flags =>
      Wasi.Grounded provider c (.openAt base segments opts) ∧
        Wasi.Grounded provider second (.openAt base segments opts) ∧
        (flags.mutable = true → provider.writable = true ∧ c.flags.mutateDirectory = true)
  | .reads _ => True
  | .writes _ => provider.writable = true ∧ c.type ≠ .directory ∧ c.flags.write = true

theorem mutable_eq_false {flags : DescriptorFlagsValue} :
    flags.mutable = false ↔ flags.write = false ∧ flags.mutateDirectory = false := by
  simp [DescriptorFlagsValue.mutable]

theorem Grounded.mutating_eq_false {provider : Provider} {c : Core Handle}
    {call : BackendCall Handle} (grounded : Grounded provider c call) (none : c.flags.mutable = false) :
    call.mutating = false := by
  obtain ⟨unwritten, unmutable⟩ := mutable_eq_false.mp none
  cases mutating : call.mutating with
  | false => rfl
  | true =>
      have permits := (grounded.1 mutating).2
      simp [Permits, unwritten, unmutable] at permits

section Methods

variable (provider : Provider) (shape : ErrShape) (c second : Core Handle)

/-- What a computation of a method gives when its checks pass. -/
abbrev Gives {Result : Type} (checks : Except ErrorPayload Result) (post : Result → Prop) : Prop :=
  Fallible.Satisfies (fun _ => True) checks post

open Provider

@[simp] theorem requireWritable_gives (post : Unit → Prop) :
    Gives (provider.requireWritable shape) post ↔ (provider.writable = true → post ()) := by
  cases granted : provider.writable <;> simp [Gives, requireWritable, granted]

@[simp] theorem requireFile_gives (post : Unit → Prop) :
    Gives (requireFile c shape) post ↔ (c.type ≠ .directory → post ()) := by
  simp [Gives, requireFile]

@[simp] theorem requireDir_gives (post : Unit → Prop) :
    Gives (requireDir c shape) post ↔ (c.type = .directory → post ()) := by
  simp [Gives, requireDir]

@[simp] theorem requireFileWrite_gives (post : Unit → Prop) :
    Gives (requireFileWrite c shape) post ↔ (c.flags.write = true → post ()) := by
  simp [Gives, requireFileWrite]

@[simp] theorem requireDirMutate_gives (post : Unit → Prop) :
    Gives (requireDirMutate c shape) post ↔ (c.flags.mutateDirectory = true → post ()) := by
  simp [Gives, requireDirMutate]

@[simp] theorem gives_true {Result : Type} (checks : Except ErrorPayload Result) :
    Gives checks (fun _ => True) := by
  cases checks <;> trivial

theorem Grounded.of_readOnly {call : BackendCall Handle} (reads : call.mutating = false)
    (single : call.twoEnded = false) : Grounded provider c call := by
  constructor
  · intro changes
    simp [reads] at changes
  · intro paired
    simp [single] at paired

theorem Grounded.of_directory {call : BackendCall Handle} (granted : provider.writable = true)
    (directory : c.type = .directory) (mutable : c.flags.mutateDirectory = true) :
    Grounded provider c call := by
  constructor
  · intro _
    exact ⟨granted, by simp [Permits, directory, mutable]⟩
  · intro _
    exact mutable

theorem Grounded.of_file {call : BackendCall Handle} (granted : provider.writable = true)
    (file : c.type ≠ .directory) (writes : c.flags.write = true) (single : call.twoEnded = false) :
    Grounded provider c call := by
  constructor
  · intro _
    exact ⟨granted, by simp [Permits, file, writes]⟩
  · intro paired
    simp [single] at paired

/-! ### The methods that change something -/

theorem writeViaStream_grounded (surface : WriteSurface) (offset : Nat) :
    Gives (provider.writeViaStream shape c surface offset) (Effect.Grounded provider c second) := by
  simp +contextual [Provider.writeViaStream, Effect.Grounded]

theorem appendViaStream_grounded (surface : WriteSurface) :
    Gives (provider.appendViaStream shape c surface) (Effect.Grounded provider c second) := by
  simp +contextual [Provider.appendViaStream, Effect.Grounded]

theorem write_grounded (buffer : List UInt8) (offset : Nat) :
    Gives (provider.write shape c buffer offset) (Effect.Grounded provider c c) := by
  simp only [Provider.write, Fallible.satisfies_bind, requireWritable_gives, requireFile_gives,
    requireFileWrite_gives, Fallible.satisfies_pure, Effect.Grounded, and_self]
  intro granted file writes
  exact .of_file provider c granted file writes rfl

theorem setSize_grounded (size : Nat) :
    Gives (provider.setSize shape c size) (Effect.Grounded provider c c) := by
  simp +contextual [Provider.setSize, Effect.Grounded, Grounded, Permits, BackendCall.setsSize,
    BackendCall.twoEnded]

theorem setTimes_grounded (atime mtime : NewTimestampValue) :
    Gives (provider.setTimes shape c atime mtime) (Effect.Grounded provider c c) := by
  by_cases directory : c.type = .directory
  · simp +contextual [Provider.setTimes, Effect.Grounded, directory, Grounded.of_directory]
  · simp only [Provider.setTimes, directory, if_false, Fallible.satisfies_bind,
      requireWritable_gives, requireFileWrite_gives, Fallible.satisfies_pure, Effect.Grounded,
      and_self]
    intro granted writes
    exact .of_file provider c granted directory writes rfl

theorem createDirectoryAt_grounded (path : String) :
    Gives (provider.createDirectoryAt shape c path) (Effect.Grounded provider c c) := by
  simp +contextual [Provider.createDirectoryAt, Effect.Grounded, Grounded.of_directory]

theorem removeDirectoryAt_grounded (path : String) :
    Gives (provider.removeDirectoryAt shape c path) (Effect.Grounded provider c c) := by
  simp +contextual [Provider.removeDirectoryAt, Effect.Grounded, Grounded.of_directory]

theorem unlinkFileAt_grounded (path : String) :
    Gives (provider.unlinkFileAt shape c path) (Effect.Grounded provider c c) := by
  simp +contextual [Provider.unlinkFileAt, Effect.Grounded, Grounded.of_directory]

theorem setTimesAt_grounded (pathFlags : PathFlagsValue) (path : String)
    (atime mtime : NewTimestampValue) :
    Gives (provider.setTimesAt shape c pathFlags path atime mtime)
      (Effect.Grounded provider c c) := by
  simp +contextual [Provider.setTimesAt, Effect.Grounded, Grounded.of_directory]

theorem symlinkAt_grounded (oldPath newPath : String) :
    Gives (provider.symlinkAt shape c oldPath newPath) (Effect.Grounded provider c c) := by
  simp +contextual [Provider.symlinkAt, Effect.Grounded, Grounded.of_directory]

theorem linkAt_grounded (oldPathFlags : PathFlagsValue) (oldPath newPath : String) :
    Gives (provider.linkAt shape c oldPathFlags oldPath second newPath)
      (Effect.Grounded provider c second) := by
  simp +contextual [Provider.linkAt, Effect.Grounded, Grounded.of_directory]

theorem renameAt_grounded (oldPath newPath : String) :
    Gives (provider.renameAt shape c oldPath second newPath)
      (Effect.Grounded provider c second) := by
  simp +contextual [Provider.renameAt, Effect.Grounded, Grounded.of_directory]

theorem decodeOpen_readOnly {openFlags : OpenFlagsValue} {flags : RequestedFlags}
    (reads : Provider.asksToMutate openFlags flags = false) (pathFlags : PathFlagsValue)
    (base : Handle) (segments : List String) :
    (BackendCall.openAt base segments (decodeOpen pathFlags openFlags flags)).mutating = false := by
  simp only [Provider.asksToMutate, Bool.or_eq_false_iff] at reads
  simp [BackendCall.mutating, decodeOpen, reads]

theorem flagsValue_mutable (openFlags : OpenFlagsValue) {flags : RequestedFlags}
    (mutable : (provider.flagsValue flags).mutable = true) :
    provider.writable = true ∧ Provider.asksToMutate openFlags flags = true := by
  simp only [DescriptorFlagsValue.mutable, Provider.flagsValue, Bool.or_eq_true,
    Bool.and_eq_true] at mutable
  cases mutable with
  | inl writes => exact ⟨writes.1, by simp [Provider.asksToMutate, writes.2]⟩
  | inr changes => exact ⟨changes.1, by simp [Provider.asksToMutate, changes.2]⟩

theorem openAt_grounded (pathFlags : PathFlagsValue) (path : String) (openFlags : OpenFlagsValue)
    (flags : RequestedFlags) :
    Gives (provider.openAt shape c pathFlags path openFlags flags)
      (Effect.Grounded provider c c) := by
  cases asks : Provider.asksToMutate openFlags flags with
  | false =>
      have unmarked : (provider.flagsValue flags).mutable = false := by
        rw [Bool.eq_false_iff]
        intro mutable
        simp [(flagsValue_mutable provider openFlags mutable).2] at asks
      have reads : ∀ segments, Grounded provider c
          (.openAt c.h segments (decodeOpen pathFlags openFlags flags)) := fun segments =>
        .of_readOnly provider c (decodeOpen_readOnly asks pathFlags c.h segments) rfl
      simp [Provider.openAt, Effect.Grounded, asks, reads, unmarked, Provider.requireOpenAllowed]
  | true =>
      cases granted : provider.writable with
      | false => simp [Provider.openAt, Provider.requireOpenAllowed, asks, granted]
      | true =>
          simp +contextual [Provider.openAt, Provider.requireOpenAllowed, asks, granted,
            Effect.Grounded, Grounded.of_directory]

/-! ### All methods -/

theorem Provider.invoke_grounded (surface : WriteSurface) (operation : Operation)
    (alone : operation.takesTwo = false → second = c) :
    Gives (provider.invoke c second shape surface operation)
      (Effect.Grounded provider c second) := by
  cases operation with
  | writeViaStream offset => exact writeViaStream_grounded provider shape c second surface offset
  | appendViaStream => exact appendViaStream_grounded provider shape c second surface
  | linkAt oldPathFlags oldPath newPath =>
      exact linkAt_grounded provider shape c second oldPathFlags oldPath newPath
  | renameAt oldPath newPath => exact renameAt_grounded provider shape c second oldPath newPath
  | openAt pathFlags path openFlags flags =>
      exact alone rfl ▸ openAt_grounded provider shape c pathFlags path openFlags flags
  | setSize size => exact alone rfl ▸ setSize_grounded provider shape c size
  | setTimes atime mtime => exact alone rfl ▸ setTimes_grounded provider shape c atime mtime
  | write buffer offset => exact alone rfl ▸ write_grounded provider shape c buffer offset
  | createDirectoryAt path => exact alone rfl ▸ createDirectoryAt_grounded provider shape c path
  | removeDirectoryAt path => exact alone rfl ▸ removeDirectoryAt_grounded provider shape c path
  | unlinkFileAt path => exact alone rfl ▸ unlinkFileAt_grounded provider shape c path
  | setTimesAt pathFlags path atime mtime =>
      exact alone rfl ▸ setTimesAt_grounded provider shape c pathFlags path atime mtime
  | symlinkAt oldPath newPath =>
      exact alone rfl ▸ symlinkAt_grounded provider shape c oldPath newPath
  | _ =>
      simp [Provider.invoke, Provider.readViaStream, Provider.advise, Provider.syncData,
        Provider.read, Provider.readDirectory, Provider.sync, Provider.stat, Provider.statAt,
        Provider.readlinkAt, Provider.isSameObject, Provider.metadataHash,
        Provider.metadataHashAt, Effect.Grounded, Grounded, BackendCall.mutating,
        BackendCall.twoEnded]

theorem Track.invoke_shared (track : Track) (operation : Operation) :
    (∃ shape surface, track.invoke provider c second operation =
      provider.invoke c second shape surface operation) ∨
      track.invoke provider c second operation = .ok .done := by
  cases track with
  | wasi02 => exact .inl ⟨_, _, rfl⟩
  | wasi03 =>
      cases operation with
      | read length offset => exact .inr rfl
      | write buffer offset => exact .inr rfl
      | _ => exact .inl ⟨err03, .future, rfl⟩

theorem Track.invoke_grounded (track : Track) (operation : Operation)
    (alone : operation.takesTwo = false → second = c) :
    Gives (track.invoke provider c second operation) (Effect.Grounded provider c second) := by
  cases Track.invoke_shared provider c second track operation with
  | inl shared =>
      obtain ⟨shape, surface, same⟩ := shared
      rw [same]
      exact provider.invoke_grounded shape c second surface operation alone
  | inr missing =>
      rw [missing]
      trivial

def Effect.resizes : Effect Handle → Bool
  | .call request => request.setsSize
  | _ => false

theorem Provider.invoke_resizes (surface : WriteSurface) (operation : Operation) :
    Gives (provider.invoke c second shape surface operation) fun effect =>
      effect.resizes = true → ∃ size, operation = .setSize size := by
  cases operation with
  | setSize size =>
      simp [Provider.invoke, Provider.setSize]
  | setTimes atime mtime =>
      by_cases directory : c.type = .directory <;>
        simp [Provider.invoke, Provider.setTimes, directory, Effect.resizes, BackendCall.setsSize]
  | openAt pathFlags path openFlags flags =>
      cases asks : Provider.asksToMutate openFlags flags <;>
        simp [Provider.invoke, Provider.openAt, asks, Effect.resizes]
  | _ =>
      simp [Provider.invoke, Provider.readViaStream, Provider.advise, Provider.syncData,
        Provider.read, Provider.readDirectory, Provider.sync, Provider.stat, Provider.statAt,
        Provider.readlinkAt, Provider.isSameObject, Provider.metadataHash,
        Provider.metadataHashAt, Provider.writeViaStream, Provider.appendViaStream,
        Provider.linkAt, Provider.renameAt, Provider.write, Provider.createDirectoryAt,
        Provider.removeDirectoryAt, Provider.unlinkFileAt, Provider.setTimesAt,
        Provider.symlinkAt, Effect.resizes, BackendCall.setsSize]

theorem Track.invoke_resizes (track : Track) (operation : Operation) :
    Gives (track.invoke provider c second operation) fun effect =>
      effect.resizes = true → ∃ size, operation = .setSize size := by
  cases Track.invoke_shared provider c second track operation with
  | inl shared =>
      obtain ⟨shape, surface, same⟩ := shared
      rw [same]
      exact provider.invoke_resizes shape c second surface operation
  | inr missing =>
      rw [missing]
      exact nofun

theorem Track.invoke_setSize (track : Track) (size : Nat) (granted : provider.writable = true)
    (writes : c.flags.write = true) :
    track.invoke provider c second (.setSize size) = .ok (.call (.setSize c.h (toNumber size))) := by
  cases track <;>
    simp [Track.invoke, Descriptor02.invoke, Descriptor03.invoke, Provider.invoke,
      Provider.setSize, Provider.requireWritable, Provider.requireFileWrite, granted, writes] <;> rfl

end Methods

/-! ## Runs -/

/-- A directory descriptor through which nothing may be changed. -/
def OpenDescriptor.Confined (opened : OpenDescriptor Handle) : Prop :=
  opened.core.type = .directory ∧ opened.core.flags.mutateDirectory = false

namespace FsState

/-- Descriptor `d` is an open-at result of descriptor `base`. -/
def OpenedFrom (state : FsState Handle) (base d : Nat) : Prop :=
  ∃ opened, state.descriptors[d]? = some opened ∧ opened.base = some base

/-- Every permission in use goes back to the grant of the package, and along opens to a directory
with `mutate-directory`. -/
structure Guarded (provider : Provider) (state : FsState Handle) : Prop where
  granted : ∀ opened ∈ state.descriptors, opened.core.flags.mutable = true →
    provider.writable = true
  inherited : ∀ opened ∈ state.descriptors, ∀ base, opened.base = some base →
    opened.core.flags.mutable = true →
    ∃ parent, state.descriptors[base]? = some parent ∧ parent.core.flags.mutateDirectory = true
  opening : ∀ pending ∈ state.opening, pending.flags.mutable = true → provider.writable = true ∧
    ∃ parent, state.descriptors[pending.base]? = some parent ∧
      parent.core.flags.mutateDirectory = true
  readers : ∀ entry ∈ state.readers, ∃ opened, state.descriptors[entry.1]? = some opened
  writers : ∀ entry ∈ state.writers, provider.writable = true ∧
    ∃ opened, state.descriptors[entry.1]? = some opened ∧ opened.core.type ≠ .directory ∧
      opened.core.flags.write = true
  attributed : ∀ made ∈ state.invoked, made.through ≠ []
  invoked : ∀ made ∈ state.invoked, ∀ d ∈ made.through,
    ∃ opened, state.descriptors[d]? = some opened ∧ Grounded provider opened.core made.call

variable {provider : Provider} {state : FsState Handle}

theorem start_guarded : Guarded provider (start : FsState Handle) := by
  constructor <;> simp [start]

theorem Guarded.log (guarded : state.Guarded provider) {through : List Nat}
    {call : BackendCall Handle} (attributed : through ≠ [])
    (grounded : ∀ d ∈ through, ∃ opened, state.descriptors[d]? = some opened ∧
      Grounded provider opened.core call) :
    (state.log through call).Guarded provider where
  granted := guarded.granted
  inherited := guarded.inherited
  opening := guarded.opening
  readers := guarded.readers
  writers := guarded.writers
  attributed := by
    intro made member
    cases List.mem_append.mp member with
    | inl earlier => exact guarded.attributed made earlier
    | inr latest =>
        cases List.mem_singleton.mp latest
        exact attributed
  invoked := by
    intro made member
    cases List.mem_append.mp member with
    | inl earlier => exact guarded.invoked made earlier
    | inr latest =>
        cases List.mem_singleton.mp latest
        exact grounded

theorem kept {descriptors added : List (OpenDescriptor Handle)} {d : Nat}
    {opened : OpenDescriptor Handle} (found : descriptors[d]? = some opened) :
    (descriptors ++ added)[d]? = some opened := by
  obtain ⟨inside, _⟩ := List.getElem?_eq_some_iff.mp found
  rw [List.getElem?_append_left inside]
  exact found

theorem Guarded.extend (guarded : state.Guarded provider)
    (added : List (OpenDescriptor Handle))
    (granted : ∀ opened ∈ added, opened.core.flags.mutable = true → provider.writable = true)
    (inherited : ∀ opened ∈ added, ∀ base, opened.base = some base →
      opened.core.flags.mutable = true → ∃ parent, state.descriptors[base]? = some parent ∧
        parent.core.flags.mutateDirectory = true) :
    ({ state with descriptors := state.descriptors ++ added } : FsState Handle).Guarded provider where
  granted := by
    intro opened member
    cases List.mem_append.mp member with
    | inl earlier => exact guarded.granted opened earlier
    | inr latest => exact granted opened latest
  inherited := by
    intro opened member base based mutable
    have found : ∃ parent, state.descriptors[base]? = some parent ∧
        parent.core.flags.mutateDirectory = true := by
      cases List.mem_append.mp member with
      | inl earlier => exact guarded.inherited opened earlier base based mutable
      | inr latest => exact inherited opened latest base based mutable
    obtain ⟨parent, parentFound, changes⟩ := found
    exact ⟨parent, kept parentFound, changes⟩
  opening := by
    intro pending member mutable
    obtain ⟨allowed, parent, parentFound, changes⟩ := guarded.opening pending member mutable
    exact ⟨allowed, parent, kept parentFound, changes⟩
  readers := by
    intro entry member
    obtain ⟨opened, found⟩ := guarded.readers entry member
    exact ⟨opened, kept found⟩
  writers := by
    intro entry member
    obtain ⟨allowed, opened, found, file, writes⟩ := guarded.writers entry member
    exact ⟨allowed, opened, kept found, file, writes⟩
  attributed := guarded.attributed
  invoked := by
    intro made member d between
    obtain ⟨opened, found, grounded⟩ := guarded.invoked made member d between
    exact ⟨opened, kept found, grounded⟩

theorem Guarded.forget (guarded : state.Guarded provider) (opening : Nat) :
    ({ state with opening := state.opening.eraseIdx opening } : FsState Handle).Guarded provider where
  granted := guarded.granted
  inherited := guarded.inherited
  opening pending member := guarded.opening pending (List.mem_of_mem_eraseIdx member)
  readers := guarded.readers
  writers := guarded.writers
  attributed := guarded.attributed
  invoked := guarded.invoked

theorem perform_guarded (guarded : state.Guarded provider) {track : Track} {d : Nat}
    {through : List Nat} {opened second : OpenDescriptor Handle} {effect : Effect Handle}
    (found : state.descriptors[d]? = some opened) (attributed : through ≠ [])
    (between : ∀ e ∈ through, state.descriptors[e]? = some opened ∨
      state.descriptors[e]? = some second)
    (grounded : effect.Grounded provider opened.core second.core) :
    (state.perform track d through effect).Guarded provider := by
  have logged : ∀ {call : BackendCall Handle}, Grounded provider opened.core call →
      Grounded provider second.core call → (state.log through call).Guarded provider := by
    intro call first last
    apply guarded.log attributed
    intro e member
    cases between e member with
    | inl atFirst => exact ⟨opened, atFirst, first⟩
    | inr atLast => exact ⟨second, atLast, last⟩
  cases effect with
  | done => exact guarded
  | call call => exact logged grounded.1 grounded.2
  | opens base segments opts flags =>
      obtain ⟨first, last, inherits⟩ := grounded
      exact
        { logged first last with
          opening := by
            intro pending member mutable
            cases List.mem_append.mp member with
            | inl earlier => exact guarded.opening pending earlier mutable
            | inr latest =>
                cases List.mem_singleton.mp latest
                obtain ⟨allowed, changes⟩ := inherits mutable
                exact ⟨allowed, opened, found, changes⟩ }
  | reads reader =>
      exact
        { guarded with
          readers := by
            intro entry member
            cases List.mem_append.mp member with
            | inl earlier => exact guarded.readers entry earlier
            | inr latest =>
                cases List.mem_singleton.mp latest
                exact ⟨opened, found⟩ }
  | writes writer =>
      exact
        { guarded with
          writers := by
            intro entry member
            cases List.mem_append.mp member with
            | inl earlier => exact guarded.writers entry earlier
            | inr latest =>
                cases List.mem_singleton.mp latest
                exact ⟨grounded.1, opened, found, grounded.2⟩ }

theorem invoke_guarded (guarded : state.Guarded provider) (d other : Nat)
    (operation : Operation) : (state.invoke provider d other operation).Guarded provider := by
  unfold invoke
  cases found : state.descriptors[d]? with
  | none => exact guarded
  | some opened =>
      simp only
      cases chosen : state.second opened other operation with
      | none => exact guarded
      | some second =>
          simp only
          have alone : operation.takesTwo = false → second.core = opened.core := by
            intro single
            simp only [FsState.second, single, Bool.false_eq_true, if_false,
              Option.some.injEq] at chosen
            rw [chosen]
          have between : ∀ e ∈ ends d other operation, state.descriptors[e]? = some opened ∨
              state.descriptors[e]? = some second := by
            intro e member
            cases paired : operation.takesTwo with
            | false =>
                simp only [ends, paired, Bool.false_eq_true, if_false, List.mem_singleton] at member
                exact .inl (member ▸ found)
            | true =>
                simp only [FsState.second, paired, if_true, Option.filter_eq_some_iff] at chosen
                simp only [ends, paired, if_true, List.mem_cons, List.not_mem_nil, or_false]
                  at member
                cases member with
                | inl first => exact .inl (first ▸ found)
                | inr last => exact .inr (last ▸ chosen.1)
          have attributed : ends d other operation ≠ [] := by
            unfold ends
            split
            · exact List.cons_ne_nil _ _
            · exact List.cons_ne_nil _ _
          have method :=
            opened.track.invoke_grounded provider opened.core second.core operation alone
          cases ran : opened.track.invoke provider opened.core second.core operation with
          | error payload => exact guarded
          | ok effect => exact perform_guarded guarded found attributed between (method.of_ok ran)

theorem sameDescriptor {Stream : Type} {entries : List (Nat × Stream)} {index : Nat}
    (progress : Stream → Stream) {entry : Nat × Stream}
    (member : entry ∈ entries.modify index fun old => (old.1, progress old.2)) :
    ∃ old ∈ entries, old.1 = entry.1 := by
  obtain ⟨position, found⟩ := List.mem_iff_getElem?.mp member
  rw [List.getElem?_modify] at found
  cases before : entries[position]? with
  | none => simp [before] at found
  | some old =>
      have same : old.1 = entry.1 := by
        simp only [before] at found
        split at found
        · exact (congrArg Prod.fst (Option.some.inj found) :)
        · exact (congrArg Prod.fst (Option.some.inj found) :)
      exact ⟨old, List.mem_of_getElem? before, same⟩

theorem step_guarded (preopens : List (Handle × String)) (action : FsAction Handle)
    (state : FsState Handle) (guarded : state.Guarded provider) :
    (step provider preopens action state).Guarded provider := by
  cases action with
  | getDirectories track =>
      apply guarded.extend
      · intro opened member mutable
        obtain ⟨preopen, _, rfl⟩ := List.mem_map.mp member
        exact (flagsValue_mutable provider ⟨none, none, none, none⟩ mutable).1
      · intro opened member base based
        obtain ⟨preopen, _, rfl⟩ := List.mem_map.mp member
        cases based
  | invoke d other operation => exact invoke_guarded guarded d other operation
  | opened opening handle type =>
      simp only [step]
      cases waiting : state.opening[opening]? with
      | none => exact guarded
      | some pending =>
          have member : pending ∈ state.opening := List.mem_of_getElem? waiting
          apply (guarded.forget opening).extend
          · intro opened added mutable
            cases List.mem_singleton.mp added
            exact (guarded.opening pending member mutable).1
          · intro opened added base based mutable
            cases List.mem_singleton.mp added
            cases based
            exact (guarded.opening pending member mutable).2
  | openFailed opening => exact guarded.forget opening
  | readChunk reader length =>
      simp only [step]
      cases reading : state.readers[reader]? with
      | none => exact guarded
      | some entry =>
          obtain ⟨opened, found⟩ := guarded.readers entry (List.mem_of_getElem? reading)
          apply guarded.log (List.cons_ne_nil _ _)
          intro d member
          cases List.mem_singleton.mp member
          exact ⟨opened, found, .of_readOnly provider opened.core rfl rfl⟩
  | readDone reader count =>
      exact
        { guarded with
          readers := by
            intro entry member
            obtain ⟨old, oldMember, same⟩ := sameDescriptor (fun reader : FileReader Handle => reader.advance count) member
            exact same ▸ guarded.readers old oldMember }
  | writeChunk writer chunk =>
      simp only [step]
      cases writing : state.writers[writer]? with
      | none => exact guarded
      | some entry =>
          obtain ⟨allowed, opened, found, file, writes⟩ :=
            guarded.writers entry (List.mem_of_getElem? writing)
          apply guarded.log (List.cons_ne_nil _ _)
          intro d member
          cases List.mem_singleton.mp member
          have single : (entry.2.call chunk).twoEnded = false := by
            unfold FileWriter.call
            cases entry.2.target <;> rfl
          exact ⟨opened, found, .of_file provider opened.core allowed file writes single⟩
  | written writer count =>
      exact
        { guarded with
          writers := by
            intro entry member
            obtain ⟨old, oldMember, same⟩ := sameDescriptor (fun writer : FileWriter Handle => writer.advance count) member
            exact same ▸ guarded.writers old oldMember }
  | dispose d =>
      simp only [step]
      cases found : state.descriptors[d]? with
      | none => exact guarded
      | some opened =>
          apply guarded.log (List.cons_ne_nil _ _)
          intro e member
          cases List.mem_singleton.mp member
          exact ⟨opened, found, .of_readOnly provider opened.core rfl rfl⟩

/-! ## No escalation -/

/-- The package grants nothing that it was not given, and a directory without `mutate-directory`
leads to no permission and to no change, neither itself nor through what is opened from it. -/
structure NeverEscalates (provider : Provider) (state : FsState Handle) : Prop where
  readOnlyCalls : provider.writable = false → ∀ made ∈ state.invoked, made.call.mutating = false
  readOnlyFlags : provider.writable = false → ∀ opened ∈ state.descriptors,
    (Provider.getFlags opened.core).write = false ∧
      (Provider.getFlags opened.core).mutateDirectory = false
  confinedFlags : ∀ base confined, state.descriptors[base]? = some confined →
    confined.Confined → ∀ d opened, Relation.TransGen state.OpenedFrom base d →
      state.descriptors[d]? = some opened →
      (Provider.getFlags opened.core).write = false ∧
        (Provider.getFlags opened.core).mutateDirectory = false
  confinedCalls : ∀ base confined, state.descriptors[base]? = some confined →
    confined.Confined → ∀ d, Relation.ReflTransGen state.OpenedFrom base d →
      ∀ made ∈ state.invoked, d ∈ made.through → made.call.mutating = false
  bothEnds : ∀ made ∈ state.invoked, made.call.twoEnded = true → ∀ d ∈ made.through,
    ∃ opened, state.descriptors[d]? = some opened ∧ opened.core.flags.mutateDirectory = true

def NoneThroughConfined (state : FsState Handle) : Prop :=
  ∀ made ∈ state.invoked, ∀ d ∈ made.through, ∀ opened, state.descriptors[d]? = some opened →
    opened.Confined → made.call.mutating = false

/-- A set-size on a directory descriptor that has `write` but not `mutate-directory`. -/
def SizesDirectory (action : FsAction Handle) (state : FsState Handle) : Prop :=
  ∃ d other size opened, action = .invoke d other (.setSize size) ∧
    state.descriptors[d]? = some opened ∧ opened.Confined ∧ opened.core.flags.write = true

theorem Guarded.confined_chain (guarded : state.Guarded provider) {base d : Nat}
    {confined : OpenDescriptor Handle} (found : state.descriptors[base]? = some confined)
    (unmutable : confined.core.flags.mutateDirectory = false)
    (chain : Relation.TransGen state.OpenedFrom base d) :
    ∀ opened, state.descriptors[d]? = some opened → opened.core.flags.mutable = false := by
  induction chain with
  | single openedFrom =>
      intro opened openedFound
      obtain ⟨_, childFound, based⟩ := openedFrom
      cases childFound.symm.trans openedFound
      cases mutable : opened.core.flags.mutable with
      | false => rfl
      | true =>
          obtain ⟨parent, parentFound, changes⟩ :=
            guarded.inherited opened (List.mem_of_getElem? openedFound) base based mutable
          cases parentFound.symm.trans found
          simp [unmutable] at changes
  | tail _ openedFrom ih =>
      intro opened openedFound
      obtain ⟨_, childFound, based⟩ := openedFrom
      cases childFound.symm.trans openedFound
      cases mutable : opened.core.flags.mutable with
      | false => rfl
      | true =>
          obtain ⟨parent, parentFound, changes⟩ :=
            guarded.inherited opened (List.mem_of_getElem? openedFound) _ based mutable
          have none := (mutable_eq_false.mp (ih parent parentFound)).2
          simp [none] at changes

theorem Guarded.neverEscalates_iff (guarded : state.Guarded provider) :
    NeverEscalates provider state ↔ state.NoneThroughConfined := by
  constructor
  · intro never made member d between opened found confined
    exact never.confinedCalls d opened found confined d .refl made member between
  · intro through
    exact
      { readOnlyCalls := by
          intro readOnly made member
          obtain ⟨d, between⟩ := List.exists_mem_of_ne_nil _ (guarded.attributed made member)
          obtain ⟨opened, openedFound, grounded⟩ := guarded.invoked made member d between
          cases mutating : made.call.mutating with
          | false => rfl
          | true => simp [(grounded.1 mutating).1] at readOnly
        readOnlyFlags := by
          intro readOnly opened member
          apply mutable_eq_false.mp
          cases mutable : opened.core.flags.mutable with
          | false => exact mutable
          | true => simp [guarded.granted opened member mutable] at readOnly
        confinedFlags := by
          intro base confined found isConfined d opened chain openedFound
          exact mutable_eq_false.mp (guarded.confined_chain found isConfined.2 chain opened openedFound)
        confinedCalls := by
          intro base confined found isConfined d chain made member between
          cases Relation.reflTransGen_iff_eq_or_transGen.mp chain with
          | inl same => exact through made member d between confined (same ▸ found) isConfined
          | inr proper =>
              obtain ⟨opened, openedFound, grounded⟩ := guarded.invoked made member d between
              exact Grounded.mutating_eq_false grounded
                (guarded.confined_chain found isConfined.2 proper opened openedFound)
        bothEnds := by
          intro made member paired d between
          obtain ⟨opened, openedFound, grounded⟩ := guarded.invoked made member d between
          exact ⟨opened, openedFound, grounded.2 paired⟩ }

/-- The descriptors and the record of calls of `next` go on from those of `state`. -/
structure Extends (state next : FsState Handle) : Prop where
  invoked : ∀ made ∈ state.invoked, made ∈ next.invoked
  descriptors : ∀ (d : Nat) opened, state.descriptors[d]? = some opened →
    next.descriptors[d]? = some opened

theorem Extends.refl (state : FsState Handle) : state.Extends state where
  invoked _ member := member
  descriptors _ _ found := found

theorem log_extends (state : FsState Handle) (through : List Nat) (call : BackendCall Handle) :
    state.Extends (state.log through call) where
  invoked _ member := List.mem_append_left _ member
  descriptors _ _ found := found

theorem step_extends (provider : Provider) (preopens : List (Handle × String))
    (action : FsAction Handle) (state : FsState Handle) :
    state.Extends (step provider preopens action state) := by
  cases action with
  | getDirectories track => exact ⟨fun _ member => member, fun _ _ found => kept found⟩
  | invoke d other operation =>
      simp only [step, invoke]
      split
      · exact .refl state
      · split
        · exact .refl state
        · split
          · exact .refl state
          · rename_i effect _
            cases effect with
            | done => exact .refl state
            | call call => exact log_extends state _ call
            | opens base segments opts flags => exact { log_extends state _ _ with }
            | reads reader => exact { Extends.refl state with }
            | writes writer => exact { Extends.refl state with }
  | opened opening handle type =>
      simp only [step]
      split
      · exact .refl state
      · exact ⟨fun _ member => member, fun _ _ found => kept found⟩
  | openFailed opening => exact { Extends.refl state with }
  | readChunk reader length =>
      simp only [step]
      split
      · exact .refl state
      · exact log_extends state _ _
  | readDone reader count => exact { Extends.refl state with }
  | writeChunk writer chunk =>
      simp only [step]
      split
      · exact .refl state
      · exact log_extends state _ _
  | written writer count => exact { Extends.refl state with }
  | dispose d =>
      simp only [step]
      split
      · exact .refl state
      · exact log_extends state _ _

theorem step_resizes (provider : Provider) (preopens : List (Handle × String))
    (action : FsAction Handle) (state : FsState Handle) :
    ∀ made ∈ (step provider preopens action state).invoked, made.call.setsSize = true →
      made ∈ state.invoked ∨
        ∃ d other size opened, action = .invoke d other (.setSize size) ∧ made.through = [d] ∧
          state.descriptors[d]? = some opened := by
  have logged : ∀ {through : List Nat} {call : BackendCall Handle}, call.setsSize = false →
      ∀ made ∈ (state.log through call).invoked, made.call.setsSize = true →
        made ∈ state.invoked := by
    intro through call other made member resizes
    cases List.mem_append.mp member with
    | inl earlier => exact earlier
    | inr latest =>
        cases List.mem_singleton.mp latest
        simp [other] at resizes
  intro made member resizes
  cases action with
  | invoke d other operation =>
      simp only [step, invoke] at member
      split at member
      · exact .inl member
      · split at member
        · exact .inl member
        · rename_i opened found _ second _
          have method :=
            Track.invoke_resizes provider opened.core second.core opened.track operation
          split at member
          · exact .inl member
          · rename_i effect ran
            cases effect with
            | done => exact .inl member
            | call call =>
                cases isResize : call.setsSize with
                | false => exact .inl (logged isResize made member resizes)
                | true =>
                    obtain ⟨size, rfl⟩ := method.of_ok ran isResize
                    cases List.mem_append.mp member with
                    | inl earlier => exact .inl earlier
                    | inr latest =>
                        cases List.mem_singleton.mp latest
                        exact .inr ⟨d, other, size, opened, rfl, rfl, found⟩
            | opens base segments opts flags => exact .inl (logged rfl made member resizes)
            | reads reader => exact .inl member
            | writes writer => exact .inl member
  | getDirectories track => exact .inl member
  | opened opening handle type =>
      simp only [step] at member
      split at member
      · exact .inl member
      · exact .inl member
  | openFailed opening => exact .inl member
  | readChunk reader length =>
      simp only [step] at member
      split at member
      · exact .inl member
      · exact .inl (logged rfl made member resizes)
  | readDone reader count => exact .inl member
  | writeChunk writer chunk =>
      simp only [step] at member
      split at member
      · exact .inl member
      · rename_i entry _
        have writes : (entry.call chunk).setsSize = false := by
          unfold FileWriter.call
          cases entry.target <;> rfl
        exact .inl (logged writes made member resizes)
  | written writer count => exact .inl member
  | dispose d =>
      simp only [step] at member
      split at member
      · exact .inl member
      · exact .inl (logged rfl made member resizes)

theorem noneThroughConfined_step (preopens : List (Handle × String)) (action : FsAction Handle)
    (guarded : state.Guarded provider) (none : state.NoneThroughConfined) :
    (step provider preopens action state).NoneThroughConfined ↔ ¬SizesDirectory action state := by
  have extended := step_extends provider preopens action state
  have nextGuarded := step_guarded preopens action state guarded
  constructor
  · intro holds sized
    obtain ⟨d, other, size, opened, rfl, found, confined, writes⟩ := sized
    have granted : provider.writable = true :=
      guarded.granted opened (List.mem_of_getElem? found) (by
        simp [DescriptorFlagsValue.mutable, writes])
    have logged : ({ through := [d], call := .setSize opened.core.h (toNumber size) } :
        Invocation Handle) ∈ (step provider preopens (.invoke d other (.setSize size)) state).invoked := by
      simp [step, invoke, found, second, Operation.takesTwo,
        Track.invoke_setSize provider opened.core opened.core opened.track size granted writes,
        perform, ends, log]
    have unchanged := holds _ logged d (List.mem_singleton.mpr rfl) opened
      (extended.descriptors d opened found) confined
    simp [BackendCall.mutating] at unchanged
  · intro unsized made member d between opened found confined
    obtain ⟨other, otherFound, grounded⟩ := nextGuarded.invoked made member d between
    cases otherFound.symm.trans found
    cases mutating : made.call.mutating with
    | false => rfl
    | true =>
        -- Of the calls that change something, a confined directory permits only a set-size.
        have permits := (grounded.1 mutating).2
        simp only [Permits, confined.1, confined.2, if_true, Bool.false_eq_true, false_or] at permits
        obtain ⟨resizes, writes⟩ := permits
        cases step_resizes provider preopens action state made member resizes with
        | inl earlier =>
            obtain ⟨before, beforeFound, _⟩ := guarded.invoked made earlier d between
            cases (extended.descriptors d before beforeFound).symm.trans found
            have unchanged := none made earlier d between opened beforeFound confined
            simp [mutating] at unchanged
        | inr latest =>
            obtain ⟨e, other, size, before, rfl, through, beforeFound⟩ := latest
            rw [through, List.mem_singleton] at between
            subst between
            cases (extended.descriptors d before beforeFound).symm.trans found
            exact absurd ⟨d, other, size, opened, rfl, beforeFound, confined, writes⟩ unsized

/-- Capabilities never escalate in exactly the runs that do not set the size of a directory through a
descriptor with `write` but without `mutate-directory`. -/
theorem run_neverEscalates_iff (provider : Provider) (preopens : List (Handle × String))
    (actions : List (FsAction Handle)) :
    NeverEscalates provider (Transition.runAll (step provider preopens) actions start) ↔
      Transition.Throughout (step provider preopens)
        (fun action state => ¬SizesDirectory action state) actions start := by
  have guarded : (Transition.runAll (step provider preopens) actions start).Guarded provider :=
    Transition.runAll_invariant (step_guarded preopens) actions start_guarded
  rw [guarded.neverEscalates_iff]
  apply Transition.runAll_iff_throughout (step_guarded preopens)
  · intro action state guarded none
    exact noneThroughConfined_step preopens action guarded none
  · intro action state guarded holds made member d between opened found
    have extended := step_extends provider preopens action state
    exact holds made (extended.invoked made member) d between opened
      (extended.descriptors d opened found)
  · exact start_guarded
  · intro made member
    cases member

theorem run_confinedCalls (provider : Provider) (preopens : List (Handle × String))
    (actions : List (FsAction Handle)) {reached : FsState Handle}
    (ran : Transition.runAll (step provider preopens) actions start = reached) {base d : Nat}
    {confined : OpenDescriptor Handle} (found : reached.descriptors[base]? = some confined)
    (isConfined : confined.Confined) (chain : Relation.ReflTransGen reached.OpenedFrom base d)
    {made : Invocation Handle} (member : made ∈ reached.invoked) (between : d ∈ made.through)
    (mutating : made.call.mutating = true) :
    d = base ∧ made.call.setsSize = true ∧ confined.core.flags.write = true := by
  have guarded : reached.Guarded provider :=
    ran ▸ Transition.runAll_invariant (step_guarded preopens) actions start_guarded
  obtain ⟨opened, openedFound, grounded⟩ := guarded.invoked made member d between
  cases Relation.reflTransGen_iff_eq_or_transGen.mp chain with
  | inl same =>
      subst same
      cases openedFound.symm.trans found
      have permits := (grounded.1 mutating).2
      simp only [Permits, isConfined.1, isConfined.2, if_true, Bool.false_eq_true, false_or]
        at permits
      exact ⟨rfl, permits⟩
  | inr proper =>
      have unchanged := Grounded.mutating_eq_false grounded
        (guarded.confined_chain found isConfined.2 proper opened openedFound)
      simp [mutating] at unchanged

/-- A directory opened with `write` alone, whose size is then set. -/
def sizedDirectory : List (FsAction Nat) :=
  [.getDirectories .wasi02,
    .invoke 0 0 (.openAt ⟨some true⟩ "sub" ⟨none, some true, none, none⟩
      ⟨some true, some true, none, none, none, none⟩),
    .opened 0 1 .directory,
    .invoke 1 1 (.setSize 0)]

/-- The whole package of the node backend. -/
def writablePackage : Provider where
  writable := true
  isSync := true
  hasLinkAt := true
  hasSymlinkAt := true
  hasReadlinkAt := true

theorem sizedDirectory_escalates :
    ¬NeverEscalates writablePackage
      (Transition.runAll (step writablePackage [(0, "/")]) sizedDirectory start) := by
  intro never
  have unchanged := never.confinedCalls 1 _ rfl ⟨rfl, rfl⟩ 1 .refl
    { through := [1], call := .setSize 1 0 } (by decide) (by decide)
  simp [BackendCall.mutating] at unchanged

end FsState

end Polyengine.Wasi
