import Polyengine.Wasi.FedInputStream
import Polyengine.Wasi.FsProvider

/-!
# File reads

The reads of a file over both backends: the descriptor method, the streams of 0.2 over a synchronous
and over an asynchronous backend, and the stream of 0.3. The content of the file stays as it is; the
platform may move fewer bytes than it was asked for and refuses what is too large.
-/

set_option autoImplicit false

namespace Polyengine.Wasi

open Polyengine.Library

/-! ## Doubles -/

theorem le_toNumber {value : Nat} (large : 2 ^ 53 ≤ value) : 2 ^ 53 ≤ toNumber value := by
  have positive : value ≠ 0 := by omega
  have long : 53 ≤ value.log2 := (Nat.le_log2 positive).mpr large
  have split : 2 ^ value.log2 = 2 ^ 52 * 2 ^ (value.log2 - 52) := by
    rw [← Nat.pow_add]
    congr 1
    omega
  have above : 2 ^ 52 ≤ value / 2 ^ (value.log2 - 52) := by
    rw [Nat.le_div_iff_mul_le (Nat.two_pow_pos _), ← split]
    exact Nat.log2_self_le positive
  have down : 2 ^ 53 ≤ value / 2 ^ (value.log2 - 52) * 2 ^ (value.log2 - 52) := by
    calc 2 ^ 53 ≤ 2 ^ value.log2 := Nat.pow_le_pow_right (by decide) long
      _ = 2 ^ 52 * 2 ^ (value.log2 - 52) := split
      _ ≤ _ := Nat.mul_le_mul_right _ above
  unfold toNumber
  simp only
  split
  · rw [Nat.add_mul]
    omega
  · exact down

theorem toNumber_cases (value : Nat) :
    toNumber value = value ∨ (2 ^ 53 ≤ value ∧ 2 ^ 53 ≤ toNumber value) := by
  cases Nat.le_total value (2 ^ 53) with
  | inl small => exact .inl (toNumber_of_le small)
  | inr large => exact .inr ⟨large, le_toNumber large⟩

/-! ## The backends -/

/-- What the platform refuses by length and position: it may do so only for more than `2 ^ 32` bytes
and for positions that are not safe integers. -/
structure ReadPlatform where
  refuses : Nat → Nat → Bool
  within : ∀ length offset, length ≤ 2 ^ 32 → offset < 2 ^ 53 → refuses length offset = false
  message : String

inductive ReadBackend where
  | node
  | web
  deriving Repr, DecidableEq

namespace ReadBackend

variable (platform : ReadPlatform) (content : List UInt8)

def isSync : ReadBackend → Bool
  | .node => true
  | .web => false

/-- `fs.readSync`: it moves some of the bytes that it is asked for, and one of them at least. -/
def readSync (length offset granted : Nat) : List UInt8 :=
  (content.drop offset).take (min (max 1 granted) length)

/-- `read` of the backend. The first one allocates the length that it is asked for; the second one
asks for what the file has. -/
def read (backend : ReadBackend) (length offset granted : Nat) : Except FsErrorCode (List UInt8) :=
  match backend with
  | .node =>
      if platform.refuses length offset then throw .io
      else return readSync content length offset granted
  | .web =>
      if content.length ≤ offset ∨ length = 0 then return []
      else
        let finish := min (toNumber (offset + length)) content.length
        if platform.refuses (finish - offset) offset then throw .io
        else return (content.take finish).drop offset

def Serves (backend : ReadBackend) (length offset : Nat) : Prop :=
  match backend with
  | .node => platform.refuses length offset = false
  | .web => content.length ≤ offset ∨ length = 0 ∨
      platform.refuses (min (offset + length) content.length - offset) offset = false

end ReadBackend

/-! ## The methods -/

section Methods

variable {Handle : Type} (platform : ReadPlatform) (content : List UInt8) (backend : ReadBackend)

/-- `Descriptor02.read`. -/
def Descriptor02.read (c : Core Handle) (length offset granted : Nat) :
    Except ErrorPayload (List UInt8 × Bool) := do
  Provider.requireFile c err02
  Provider.requireRead c err02
  let n := toNumber length
  match backend.read platform content n (toNumber offset) granted with
  | .ok bytes => return (bytes, decide (0 < n) && bytes.isEmpty)
  | .error code => throw (err02 code)

inductive ReadFailure where
  | closed
  | lastOperationFailed (code : FsErrorCode)
  deriving Repr, DecidableEq

structure SyncFileInputStream (Handle : Type) where
  reader : FileReader Handle
  closed : Bool
  deriving Repr, DecidableEq

/-- `read`, and with it `blockingRead`, `skip` and `blockingSkip`. -/
def SyncFileInputStream.read (stream : SyncFileInputStream Handle) (len granted : Nat) :
    Except ReadFailure (List UInt8) × SyncFileInputStream Handle :=
  if stream.closed then (.error .closed, stream)
  else
    let n := toNumber len
    match backend.read platform content n stream.reader.cursor granted with
    | .error code => (.error (.lastOperationFailed code), stream)
    | .ok bytes =>
        let moved := { stream with reader := stream.reader.advance bytes.length }
        if 0 < n ∧ bytes = [] then (.error .closed, moved) else (.ok bytes, moved)

def readChunk : Nat := 65536

/-- The generator `readFrom`, that has returned or thrown, or is at the next read. -/
structure ReadFrom (Handle : Type) where
  reader : FileReader Handle
  finished : Bool
  deriving Repr, DecidableEq

/-- What a pull of the generator yields: a chunk, the end, or an error. -/
inductive Pulled where
  | chunk (bytes : List UInt8)
  | done
  | failed (code : FsErrorCode)
  deriving Repr, DecidableEq

def ReadFrom.pull (source : ReadFrom Handle) (granted : Nat) : Pulled × ReadFrom Handle :=
  if source.finished then (.done, source)
  else
    match backend.read platform content readChunk source.reader.cursor granted with
    | .error code => (.failed code, { source with finished := true })
    | .ok bytes =>
        if bytes = [] then (.done, { source with finished := true })
        else (.chunk bytes, { source with reader := source.reader.advance bytes.length })

def Pulled.event : Pulled → Io.SourceEvent
  | .chunk bytes => .chunk bytes
  | .done => .done
  | .failed _ => .failed (.native platform.message)

end Methods

/-! ## The streams in use -/

section Uses

variable {Handle : Type} (platform : ReadPlatform) (content : List UInt8) (backend : ReadBackend)

/-- A synchronous stream and the bytes that its reads returned or skipped. -/
structure SyncUse (Handle : Type) where
  stream : SyncFileInputStream Handle
  delivered : List UInt8
  deriving Repr, DecidableEq

namespace SyncUse

def start (reader : FileReader Handle) : SyncUse Handle where
  stream := ⟨reader, false⟩
  delivered := []

inductive Action where
  | read (len granted : Nat)
  | dispose
  deriving Repr, DecidableEq

def step : Action → SyncUse Handle → SyncUse Handle
  | .read len granted, use =>
      let (outcome, stream) := use.stream.read platform content backend len granted
      { stream, delivered := use.delivered ++ outcome.toOption.getD [] }
  | .dispose, use => { use with stream := { use.stream with closed := true } }

end SyncUse

/-- A stream over an asynchronous backend, with the generator that feeds it. -/
structure FedUse (Handle : Type) where
  run : Io.FedInputStream.Run
  source : ReadFrom Handle
  deriving Repr, DecidableEq

namespace FedUse

def start (reader : FileReader Handle) (highWater : Nat) : FedUse Handle where
  run := .start highWater
  source := ⟨reader, false⟩

/-- The backend answers the read that the feed awaits, a generator that was stopped has ended, or
the guest and the loop of the feed go on. -/
inductive Action where
  | pull (granted : Nat)
  | sourceStopped
  | feedResumes
  | read (len : Nat)
  | blockingRead (id len : Nat)
  | wake (id : Nat)
  | dispose
  deriving Repr, DecidableEq

def step : Action → FedUse Handle → FedUse Handle
  | .pull granted, use =>
      if use.run.stream.feed = .pulling then
        let (pulled, source) := use.source.pull platform content backend granted
        { run := Io.FedInputStream.step (.source (pulled.event platform)) use.run, source }
      else use
  | .sourceStopped, use =>
      { use with run := Io.FedInputStream.step (.sourceStopped none) use.run }
  | .feedResumes, use => { use with run := Io.FedInputStream.step .feedResumes use.run }
  | .read len, use => { use with run := Io.FedInputStream.step (.read len) use.run }
  | .blockingRead id len, use =>
      { use with run := Io.FedInputStream.step (.blockingRead id len) use.run }
  | .wake id, use => { use with run := Io.FedInputStream.step (.wake id) use.run }
  | .dispose, use => { use with run := Io.FedInputStream.step .dispose use.run }

end FedUse

/-- The stream of 0.3 with its future. A generator that is dropped before its first pull never runs
the block that settles the future. -/
structure SourceUse (Handle : Type) where
  source : ReadFrom Handle
  started : Bool
  dropped : Bool
  delivered : List UInt8
  settled : Option (Except ErrorPayload Unit)
  deriving Repr, DecidableEq

namespace SourceUse

def start (reader : FileReader Handle) : SourceUse Handle where
  source := ⟨reader, false⟩
  started := false
  dropped := false
  delivered := []
  settled := none

/-- The first settlement of the future counts. -/
def settle (use : SourceUse Handle) (result : Except ErrorPayload Unit) : SourceUse Handle :=
  { use with settled := use.settled.or (some result) }

inductive Action where
  | pull (granted : Nat)
  | drop
  deriving Repr, DecidableEq

def step : Action → SourceUse Handle → SourceUse Handle
  | .pull granted, use =>
      if use.dropped then use
      else
        let (pulled, source) := use.source.pull platform content backend granted
        let pulledUse := { use with source, started := true }
        match pulled with
        | .chunk bytes => { pulledUse with delivered := use.delivered ++ bytes }
        | .done => pulledUse.settle (.ok ())
        | .failed code => pulledUse.settle (.error (err03 code))
  | .drop, use =>
      let droppedUse := { use with dropped := true }
      if use.started then droppedUse.settle (.ok ()) else droppedUse

end SourceUse

end Uses

/-! ## What a read must give -/

/-- A position that a cursor stands for: the cursor has it, or both are past the end. -/
def Tracks (content : List UInt8) (cursor position : Nat) : Prop :=
  cursor = position ∨ (content.length ≤ cursor ∧ content.length ≤ position)

/-- The bytes of the file from a position on, as many as were asked for at most, and none only at
the end or when none were asked for. -/
structure Reads (content : List UInt8) (position length : Nat) (bytes : List UInt8) : Prop where
  inOrder : bytes <+: content.drop position
  bounded : bytes.length ≤ length
  some : bytes = [] → length = 0 ∨ content.length ≤ position

/-- The answer of the descriptor method: the end is reported at the end only, and always by a read
that asks for bytes. -/
def DescriptorReads (content : List UInt8) (position length : Nat) :
    Except ErrorPayload (List UInt8 × Bool) → Prop
  | .ok (bytes, atEnd) =>
      Reads content position length bytes ∧
        (atEnd = true ↔ 0 < length ∧ content.length ≤ position)
  | .error _ => False

/-- The answer of a stream that is not disposed. -/
def StreamReads (content : List UInt8) (position length : Nat) :
    Except ReadFailure (List UInt8) → Prop
  | .ok bytes => Reads content position length bytes ∧ (bytes = [] → length = 0)
  | .error .closed => 0 < length ∧ content.length ≤ position
  | .error (.lastOperationFailed _) => False

/-- What a generator that has not ended yields next. -/
def PullReads (content : List UInt8) (position : Nat) : Pulled → Prop
  | .chunk bytes => Reads content position readChunk bytes ∧ bytes ≠ []
  | .done => content.length ≤ position
  | .failed _ => False

/-- The answer of a stream over an asynchronous backend: nothing is returned as long as nothing has
arrived, and the end is reported from its arrival on. -/
def FedReads (content : List UInt8) (position length : Nat) (arrived ended : Bool) :
    Except Io.Failure (List UInt8) → Prop
  | .ok bytes => bytes <+: content.drop position ∧ bytes.length ≤ length ∧
      (bytes = [] → length = 0 ∨ arrived = false) ∧
      (ended = true → position < content.length)
  | .error failure => failure = .closed ∧ content.length ≤ position

section Proofs

variable {platform : ReadPlatform} {content : List UInt8} {backend : ReadBackend}

theorem Tracks.end_iff {cursor position : Nat} (tracks : Tracks content cursor position) :
    content.length ≤ cursor ↔ content.length ≤ position := by
  rcases tracks with same | ⟨past, pastToo⟩
  · rw [same]
  · exact ⟨fun _ => pastToo, fun _ => past⟩

theorem Tracks.drop_eq {cursor position : Nat} (tracks : Tracks content cursor position) :
    content.drop cursor = content.drop position := by
  rcases tracks with same | ⟨past, pastToo⟩
  · rw [same]
  · rw [List.drop_eq_nil_iff.mpr past, List.drop_eq_nil_iff.mpr pastToo]

theorem tracks_toNumber (small : content.length < 2 ^ 53) (position : Nat) :
    Tracks content (toNumber position) position := by
  rcases toNumber_cases position with exact | ⟨large, largeToo⟩
  · exact .inl exact
  · exact .inr ⟨by omega, by omega⟩

theorem Tracks.advance (small : content.length < 2 ^ 53) {cursor position : Nat}
    (tracks : Tracks content cursor position) (count : Nat) :
    Tracks content (toNumber (cursor + count)) (position + count) := by
  have moved : Tracks content (cursor + count) (position + count) := by
    rcases tracks with same | ⟨past, pastToo⟩
    · exact .inl (by rw [same])
    · exact .inr ⟨by omega, by omega⟩
  rcases toNumber_cases (cursor + count) with exact | ⟨large, largeToo⟩
  · rw [exact]
    exact moved
  · exact .inr ⟨by omega, moved.end_iff.mp (by omega)⟩

theorem Reads.tracks {cursor position length : Nat} {bytes : List UInt8}
    (tracks : Tracks content cursor position) (reads : Reads content cursor length bytes) :
    Reads content position length bytes where
  inOrder := tracks.drop_eq ▸ reads.inOrder
  bounded := reads.bounded
  some := fun empty => (reads.some empty).imp_right tracks.end_iff.mp

theorem Reads.ofNumber (small : content.length < 2 ^ 53) {position length : Nat}
    {bytes : List UInt8} (reads : Reads content position (toNumber length) bytes) :
    Reads content position length bytes := by
  have within : bytes.length ≤ content.length := by
    have := reads.inOrder.length_le
    rw [List.length_drop] at this
    omega
  rcases toNumber_cases length with exact | ⟨large, largeToo⟩
  · rw [exact] at reads
    exact reads
  · refine ⟨reads.inOrder, by omega, ?_⟩
    intro empty
    rcases reads.some empty with none | past
    · omega
    · exact .inr past

theorem toNumber_pos_iff {length : Nat} : 0 < toNumber length ↔ 0 < length := by
  rcases toNumber_cases length with exact | ⟨large, largeToo⟩
  · rw [exact]
  · omega

/-! ## The backends -/

theorem reads_readSync (length offset granted : Nat) :
    Reads content offset length (ReadBackend.readSync content length offset granted) where
  inOrder := List.take_prefix _ _
  bounded := by
    rw [ReadBackend.readSync, List.length_take]
    omega
  some := by
    intro empty
    have none := congrArg List.length empty
    rw [ReadBackend.readSync, List.length_take, List.length_drop, List.length_nil] at none
    omega

theorem min_toNumber (small : content.length < 2 ^ 53) (value : Nat) :
    min (toNumber value) content.length = min value content.length := by
  rcases toNumber_cases value with exact | ⟨large, largeToo⟩
  · rw [exact]
  · omega

theorem reads_slice {length offset : Nat} (inside : offset < content.length) :
    Reads content offset length
      ((content.take (min (offset + length) content.length)).drop offset) where
  inOrder := by
    rw [List.drop_take]
    exact List.take_prefix _ _
  bounded := by
    rw [List.length_drop, List.length_take]
    omega
  some := by
    intro empty
    have none := congrArg List.length empty
    rw [List.length_drop, List.length_take, List.length_nil] at none
    omega

theorem ReadBackend.read_cases (small : content.length < 2 ^ 53) (length offset granted : Nat) :
    (backend.Serves platform content length offset ∧
      ∃ bytes, backend.read platform content length offset granted = .ok bytes ∧
        Reads content offset length bytes) ∨
    (¬backend.Serves platform content length offset ∧
      ∃ code, backend.read platform content length offset granted = .error code) := by
  cases backend with
  | node =>
      cases refused : platform.refuses length offset with
      | false =>
          left
          refine ⟨refused, readSync content length offset granted, ?_, reads_readSync _ _ _⟩
          simp [read, refused, pure, Except.pure]
      | true =>
          right
          refine ⟨fun served => ?_, .io, ?_⟩
          · exact Bool.noConfusion (refused.symm.trans served)
          · simp [read, refused, throw, throwThe, MonadExceptOf.throw]
  | web =>
      by_cases nothing : content.length ≤ offset ∨ length = 0
      · left
        refine ⟨nothing.imp_right .inl, [], ?_, ?_⟩
        · simp [read, nothing, pure, Except.pure]
        · exact ⟨List.nil_prefix, Nat.zero_le _, fun _ => nothing.symm⟩
      · have inside : offset < content.length := by omega
        have asked : length ≠ 0 := by omega
        cases refused :
            platform.refuses (min (offset + length) content.length - offset) offset with
        | false =>
            left
            refine ⟨.inr (.inr refused), _, ?_, reads_slice inside⟩
            simp [read, nothing, min_toNumber small, refused, pure, Except.pure]
        | true =>
            right
            refine ⟨?_, .io, ?_⟩
            · simp [Serves, inside, asked, refused]
            · simp [read, nothing, min_toNumber small, refused, throw, throwThe,
                MonadExceptOf.throw]

theorem ReadBackend.serves_readChunk (small : content.length < 2 ^ 53) (offset : Nat) :
    ReadBackend.web.Serves platform content readChunk offset := by
  by_cases past : content.length ≤ offset
  · exact .inl past
  · refine .inr (.inr (platform.within _ _ ?_ ?_))
    · have chunk : readChunk = 65536 := rfl
      omega
    · omega

/-! ## The descriptor method -/

variable {Handle : Type}

theorem Descriptor02.read_iff (small : content.length < 2 ^ 53) {c : Core Handle}
    (file : c.type ≠ .directory) (readable : c.flags.read = true) (length offset granted : Nat) :
    DescriptorReads content offset length
        (Descriptor02.read platform content backend c length offset granted) ↔
      backend.Serves platform content (toNumber length) (toNumber offset) := by
  have passed : Descriptor02.read platform content backend c length offset granted =
      match backend.read platform content (toNumber length) (toNumber offset) granted with
      | .ok bytes => .ok (bytes, decide (0 < toNumber length) && bytes.isEmpty)
      | .error code => .error (err02 code) := by
    simp [Descriptor02.read, Provider.requireFile, Provider.requireRead, file, readable]
    rfl
  rw [passed]
  rcases @ReadBackend.read_cases platform content backend small (toNumber length)
    (toNumber offset) granted with ⟨served, bytes, answered, reads⟩ | ⟨refused, code, failed⟩
  · have exact : Reads content offset length bytes :=
      (reads.tracks (tracks_toNumber small offset)).ofNumber small
    rw [answered]
    refine iff_of_true ⟨exact, ?_⟩ served
    rw [Bool.and_eq_true, decide_eq_true_eq, toNumber_pos_iff, List.isEmpty_iff]
    constructor
    · intro ⟨asked, empty⟩
      have past := (exact.some empty).resolve_left (Nat.pos_iff_ne_zero.mp asked)
      exact ⟨asked, past⟩
    · intro ⟨asked, past⟩
      have nothing := exact.inOrder
      rw [List.drop_eq_nil_iff.mpr past, List.prefix_nil] at nothing
      exact ⟨asked, nothing⟩
  · rw [failed]
    exact iff_of_false id refused

/-! ## The synchronous stream -/

theorem prefix_append {offset : Nat} {delivered bytes : List UInt8}
    (before : delivered <+: content.drop offset)
    (next : bytes <+: content.drop (offset + delivered.length)) :
    delivered ++ bytes <+: content.drop offset := by
  obtain ⟨rest, whole⟩ := before
  rw [← List.drop_drop, ← whole, List.drop_left] at next
  rw [← whole]
  exact (List.prefix_append_right_inj delivered).mpr next

theorem SyncFileInputStream.read_cases (small : content.length < 2 ^ 53)
    {stream : SyncFileInputStream Handle} (opened : stream.closed = false) {position : Nat}
    (tracks : Tracks content stream.reader.cursor position) (len granted : Nat) :
    (backend.Serves platform content (toNumber len) stream.reader.cursor ∧
      ∃ bytes, (stream.read platform content backend len granted).2 =
          { stream with reader := stream.reader.advance bytes.length } ∧
        (stream.read platform content backend len granted).1.toOption.getD [] = bytes ∧
        bytes <+: content.drop position ∧
        StreamReads content position len (stream.read platform content backend len granted).1) ∨
    (¬backend.Serves platform content (toNumber len) stream.reader.cursor ∧
      ∃ code, stream.read platform content backend len granted =
        (.error (.lastOperationFailed code), stream)) := by
  rcases @ReadBackend.read_cases platform content backend small (toNumber len)
    stream.reader.cursor granted with ⟨served, bytes, answered, reads⟩ | ⟨refused, code, failed⟩
  · left
    have exact : Reads content position len bytes := (reads.tracks tracks).ofNumber small
    refine ⟨served, bytes, ?_⟩
    by_cases ended : 0 < toNumber len ∧ bytes = []
    · obtain ⟨asked, rfl⟩ := ended
      have positive : 0 < len := toNumber_pos_iff.mp asked
      have past := (exact.some rfl).resolve_left (Nat.pos_iff_ne_zero.mp positive)
      simp [SyncFileInputStream.read, opened, answered, asked, StreamReads, positive, past,
        Except.toOption]
    · have returns : stream.read platform content backend len granted =
          (.ok bytes, { stream with reader := stream.reader.advance bytes.length }) := by
        simp only [SyncFileInputStream.read, opened, Bool.false_eq_true, if_false, answered,
          if_neg ended]
      rw [returns]
      refine ⟨rfl, rfl, exact.inOrder, exact, ?_⟩
      intro empty
      have unasked : ¬0 < toNumber len := fun asked => ended ⟨asked, empty⟩
      rw [toNumber_pos_iff] at unasked
      omega
  · right
    refine ⟨refused, code, ?_⟩
    simp [SyncFileInputStream.read, opened, failed]

namespace SyncUse

/-- The cursor stands behind the bytes that were delivered, which are the next ones of the file. -/
structure Sound (content : List UInt8) (offset : Nat) (use : SyncUse Handle) : Prop where
  delivered : use.delivered <+: content.drop offset
  tracks : Tracks content use.stream.reader.cursor (offset + use.delivered.length)

theorem start_sound (small : content.length < 2 ^ 53) (h : Handle) (offset : Nat) :
    (start ⟨h, toNumber offset⟩).Sound content offset where
  delivered := List.nil_prefix
  tracks := tracks_toNumber small offset

theorem step_sound (small : content.length < 2 ^ 53) {offset : Nat} (action : Action)
    (use : SyncUse Handle) (sound : use.Sound content offset) :
    (step platform content backend action use).Sound content offset := by
  cases action with
  | dispose => exact ⟨sound.delivered, sound.tracks⟩
  | read len granted =>
      cases closed : use.stream.closed with
      | true =>
          simp only [step, SyncFileInputStream.read, closed, if_true, Except.toOption,
            Option.getD_none, List.append_nil]
          exact sound
      | false =>
          rcases @SyncFileInputStream.read_cases platform content backend _ small _ closed _
            sound.tracks len granted with
            ⟨_, bytes, moved, returned, next, _⟩ | ⟨_, code, failed⟩
          · simp only [step]
            rw [moved, returned]
            refine ⟨prefix_append sound.delivered next, ?_⟩
            simp only [FileReader.advance, List.length_append]
            rw [← Nat.add_assoc]
            exact sound.tracks.advance small bytes.length
          · simp only [step, failed, Except.toOption, Option.getD_none, List.append_nil]
            exact sound

theorem Sound.reads_iff (small : content.length < 2 ^ 53) {offset : Nat} {use : SyncUse Handle}
    (sound : use.Sound content offset) (opened : use.stream.closed = false) (len granted : Nat) :
    StreamReads content (offset + use.delivered.length) len
        (use.stream.read platform content backend len granted).1 ↔
      backend.Serves platform content (toNumber len) use.stream.reader.cursor := by
  rcases @SyncFileInputStream.read_cases platform content backend _ small _ opened _
    sound.tracks len granted with ⟨served, bytes, _, _, _, reads⟩ | ⟨refused, code, failed⟩
  · exact iff_of_true reads served
  · rw [failed]
    exact iff_of_false id refused

end SyncUse

/-! ## The generator -/

theorem ReadFrom.pull_cases (small : content.length < 2 ^ 53) {source : ReadFrom Handle}
    (going : source.finished = false) {position : Nat}
    (tracks : Tracks content source.reader.cursor position) (granted : Nat) :
    (backend.Serves platform content readChunk source.reader.cursor ∧
      ((∃ bytes, source.pull platform content backend granted =
          (.chunk bytes, { source with reader := source.reader.advance bytes.length }) ∧
          Reads content position readChunk bytes ∧ bytes ≠ []) ∨
        (source.pull platform content backend granted = (.done, { source with finished := true }) ∧
          content.length ≤ position))) ∨
    (¬backend.Serves platform content readChunk source.reader.cursor ∧
      ∃ code, source.pull platform content backend granted =
        (.failed code, { source with finished := true })) := by
  rcases @ReadBackend.read_cases platform content backend small readChunk
    source.reader.cursor granted with ⟨served, bytes, answered, reads⟩ | ⟨refused, code, failed⟩
  · refine .inl ⟨served, ?_⟩
    have exact : Reads content position readChunk bytes := reads.tracks tracks
    by_cases empty : bytes = []
    · refine .inr ⟨?_, (exact.some empty).resolve_left (by decide)⟩
      simp [ReadFrom.pull, going, answered, empty]
    · refine .inl ⟨bytes, ?_, exact, empty⟩
      simp [ReadFrom.pull, going, answered, empty]
  · refine .inr ⟨refused, code, ?_⟩
    simp [ReadFrom.pull, going, failed]

theorem ReadFrom.pull_iff (small : content.length < 2 ^ 53) {source : ReadFrom Handle}
    (going : source.finished = false) {position : Nat}
    (tracks : Tracks content source.reader.cursor position) (granted : Nat) :
    PullReads content position (source.pull platform content backend granted).1 ↔
      backend.Serves platform content readChunk source.reader.cursor := by
  rcases @ReadFrom.pull_cases platform content backend _ small _ going _ tracks granted with
    ⟨served, ⟨bytes, chunk, reads, some⟩ | ⟨done, past⟩⟩ | ⟨refused, code, failed⟩
  · rw [chunk]
    exact iff_of_true ⟨reads, some⟩ served
  · rw [done]
    exact iff_of_true past served
  · rw [failed]
    exact iff_of_false id refused

namespace SourceUse

/-- The generator stands behind the bytes that were delivered, and a future that was settled with
success is that of a stream that was dropped or is at the end. -/
structure Sound (content : List UInt8) (offset : Nat) (use : SourceUse Handle) : Prop where
  delivered : use.delivered <+: content.drop offset
  tracks : Tracks content use.source.reader.cursor (offset + use.delivered.length)
  running : use.source.finished = false → use.dropped = false → use.settled = none
  finished : use.source.finished = true → use.settled ≠ none
  settled : use.settled = some (.ok ()) →
    use.dropped = true ∨ content.length ≤ offset + use.delivered.length

theorem start_sound (small : content.length < 2 ^ 53) (h : Handle) (offset : Nat) :
    (start ⟨h, toNumber offset⟩).Sound content offset where
  delivered := List.nil_prefix
  tracks := tracks_toNumber small offset
  running := fun _ _ => rfl
  finished := nofun
  settled := nofun

theorem step_sound (small : content.length < 2 ^ 53) {offset : Nat} (action : Action)
    (use : SourceUse Handle) (sound : use.Sound content offset) :
    (step platform content backend action use).Sound content offset := by
  cases action with
  | drop =>
      simp only [step]
      split
      · refine ⟨sound.delivered, sound.tracks, nofun, ?_, fun _ => .inl rfl⟩
        intro _ unsettled
        cases held : use.settled <;> simp [settle, held] at unsettled
      · exact ⟨sound.delivered, sound.tracks, nofun, sound.finished, fun _ => .inl rfl⟩
  | pull granted =>
      cases dropped : use.dropped with
      | true => simpa [step, dropped] using sound
      | false =>
          cases finished : use.source.finished with
          | true =>
              obtain ⟨result, held⟩ := Option.ne_none_iff_exists'.mp (sound.finished finished)
              simp only [step, dropped, Bool.false_eq_true, if_false, ReadFrom.pull, finished,
                if_true, settle, held, Option.some_or]
              refine ⟨sound.delivered, sound.tracks, ?_, nofun, ?_⟩
              · intro going
                exact absurd (finished.symm.trans going) (by decide)
              · intro succeeded
                exact .inr ((sound.settled (held.trans succeeded)).resolve_left
                  (by simp [dropped]))
          | false =>
              have unsettled : use.settled = none := sound.running finished dropped
              rcases @ReadFrom.pull_cases platform content backend _ small _ finished _
                sound.tracks granted with
                ⟨_, ⟨bytes, chunk, reads, _⟩ | ⟨done, past⟩⟩ | ⟨_, code, failed⟩
              · simp only [step, dropped, Bool.false_eq_true, if_false, chunk]
                refine ⟨prefix_append sound.delivered reads.inOrder, ?_, fun _ _ => unsettled,
                  ?_, ?_⟩
                · simp only [FileReader.advance, List.length_append]
                  rw [← Nat.add_assoc]
                  exact sound.tracks.advance small bytes.length
                · intro ended
                  exact absurd (finished.symm.trans ended) (by decide)
                · intro succeeded
                  rw [unsettled] at succeeded
                  cases succeeded
              · simp only [step, dropped, Bool.false_eq_true, if_false, done, settle, unsettled,
                  Option.none_or]
                exact ⟨sound.delivered, sound.tracks, nofun, nofun, fun _ => .inr past⟩
              · simp only [step, dropped, Bool.false_eq_true, if_false, failed, settle, unsettled,
                  Option.none_or]
                exact ⟨sound.delivered, sound.tracks, nofun, nofun, nofun⟩

end SourceUse

namespace FedUse

open Io (FedInputStream)

/-- The generator stands behind the bytes that it yielded, and it has not failed; the stream has
heard of an end if the generator is at the end. -/
structure Sound (content : List UInt8) (offset : Nat) (use : FedUse Handle) : Prop where
  run : use.run.Sound
  yielded : use.run.yielded.flatten <+: content.drop offset
  tracks : Tracks content use.source.reader.cursor (offset + use.run.yielded.flatten.length)
  unfailed : use.run.stream.failure = .undefined
  finished : use.source.finished = true → use.run.stream.feed = .ended
  ended : use.run.stream.eof = true →
    content.length ≤ offset + use.run.yielded.flatten.length

theorem start_sound (small : content.length < 2 ^ 53) (h : Handle) (offset highWater : Nat) :
    (start ⟨h, toNumber offset⟩ highWater).Sound content offset where
  run := FedInputStream.Run.start_sound highWater
  yielded := List.nil_prefix
  tracks := tracks_toNumber small offset
  unfailed := rfl
  finished := nofun
  ended := nofun

theorem Sound.leaves {offset : Nat} {use : FedUse Handle} (sound : use.Sound content offset)
    {run : FedInputStream.Run} (kept : run.Sound)
    (leaves : FedInputStream.Run.Leaves use.run run) :
    ({ use with run } : FedUse Handle).Sound content offset where
  run := kept
  yielded := leaves.yielded ▸ sound.yielded
  tracks := leaves.yielded ▸ sound.tracks
  unfailed := leaves.failure.trans sound.unfailed
  finished := fun finished => leaves.ended (sound.finished finished)
  ended := fun ended => leaves.yielded ▸ sound.ended (leaves.eof ▸ ended)

theorem fed_chunk (stream : FedInputStream) (bytes : List UInt8) :
    (stream.fed (.chunk bytes)).eof = stream.eof ∧
      (stream.fed (.chunk bytes)).failure = stream.failure := by
  simp only [FedInputStream.fed]
  split
  · exact ⟨rfl, rfl⟩
  · split
    · exact ⟨rfl, rfl⟩
    · simp [FedInputStream.push, FedInputStream.signal]

theorem pull_sound (small : content.length < 2 ^ 53) {offset : Nat} {use : FedUse Handle}
    (sound : use.Sound content offset) (granted : Nat) :
    (step platform content .web (.pull granted) use).Sound content offset := by
  by_cases pulling : use.run.stream.feed = .pulling
  · have going : use.source.finished = false := by
      by_contra finished
      have ended := sound.finished (eq_true_of_ne_false finished)
      rw [pulling] at ended
      cases ended
    have served : ReadBackend.web.Serves platform content readChunk use.source.reader.cursor :=
      ReadBackend.serves_readChunk small _
    have fed (event : Io.SourceEvent) := FedInputStream.Run.step_sound (.source event) use.run
      sound.run
    simp only [step, pulling, if_true]
    rcases @ReadFrom.pull_cases platform content .web _ small _ going _ sound.tracks granted with
      ⟨_, ⟨bytes, chunk, reads, _⟩ | ⟨done, past⟩⟩ | ⟨refused, _⟩
    · specialize fed (.chunk bytes)
      rw [chunk]
      simp only [FedInputStream.step, pulling, if_true, FedInputStream.Run.onStream] at fed ⊢
      have appended : (use.run.yielded ++ (Io.SourceEvent.chunk bytes).chunks).flatten =
          use.run.yielded.flatten ++ bytes := by simp [Io.SourceEvent.chunks]
      refine ⟨fed, ?_, ?_, (fed_chunk _ _).2.trans sound.unfailed, ?_, ?_⟩
      · simp only [Pulled.event, appended]
        exact prefix_append sound.yielded reads.inOrder
      · simp only [Pulled.event, appended, FileReader.advance, List.length_append]
        rw [← Nat.add_assoc]
        exact sound.tracks.advance small bytes.length
      · intro finished
        exact absurd (going.symm.trans finished) (by decide)
      · intro ended
        have before := sound.ended ((fed_chunk _ _).1 ▸ ended)
        simp only [Pulled.event, appended, List.length_append]
        omega
    · specialize fed .done
      rw [done]
      have same : use.run.yielded ++ Io.SourceEvent.done.chunks = use.run.yielded :=
        List.append_nil _
      simp only [FedInputStream.step, pulling, if_true, FedInputStream.Run.onStream, Pulled.event,
        same] at fed ⊢
      exact ⟨fed, sound.yielded, sound.tracks, sound.unfailed, fun _ => rfl, fun _ => past⟩
    · exact absurd served refused
  · simp only [step, pulling, if_false]
    exact sound

theorem step_sound (small : content.length < 2 ^ 53) {offset : Nat} (action : Action)
    (use : FedUse Handle) (sound : use.Sound content offset) :
    (step platform content .web action use).Sound content offset := by
  have quiet {call : FedInputStream.Action} (unyielded : ∀ event, call ≠ .source event)
      (unfailed : ∀ reason, call ≠ .sourceStopped (some reason)) :
      ({ use with run := FedInputStream.step call use.run } : FedUse Handle).Sound content offset :=
    sound.leaves (FedInputStream.Run.step_sound call use.run sound.run)
      (FedInputStream.Run.step_leaves use.run unyielded unfailed)
  cases action with
  | pull granted => exact pull_sound small sound granted
  | sourceStopped => exact quiet nofun nofun
  | feedResumes => exact quiet nofun nofun
  | read len => exact quiet nofun nofun
  | blockingRead id len => exact quiet nofun nofun
  | wake id => exact quiet nofun nofun
  | dispose => exact quiet nofun nofun

theorem Sound.pulls (small : content.length < 2 ^ 53) {offset : Nat} {use : FedUse Handle}
    (sound : use.Sound content offset) (pulling : use.run.stream.feed = .pulling) (granted : Nat) :
    PullReads content (offset + use.run.yielded.flatten.length)
      (use.source.pull platform content .web granted).1 := by
  have going : use.source.finished = false := by
    by_contra finished
    have ended := sound.finished (eq_true_of_ne_false finished)
    rw [pulling] at ended
    cases ended
  exact (ReadFrom.pull_iff small going sound.tracks granted).mpr
    (ReadBackend.serves_readChunk small _)

theorem Sound.reads {offset : Nat} {use : FedUse Handle} (sound : use.Sound content offset)
    (opened : use.run.stream.closed = false) (len : Nat) :
    FedReads content (offset + use.run.returned.length) len use.run.stream.ready
      use.run.stream.eof (use.run.stream.read len).1 := by
  have complete := sound.run.complete opened
  have takes := FedInputStream.read_takes use.run.stream len
  have moved := takes.bytes sound.run.stream
  have counted := sound.run.stream.counted
  have within := sound.yielded.length_le
  have lengths := congrArg List.length complete
  rw [List.length_append, ← counted] at lengths
  rw [List.length_drop] at within
  have rest : use.run.stream.buffer.flatten <+:
      content.drop (offset + use.run.returned.length) := by
    rw [← List.drop_drop]
    obtain ⟨later, whole⟩ := sound.yielded
    rw [← whole, ← complete, List.append_assoc, List.drop_left]
    exact List.prefix_append _ _
  cases outcome : (use.run.stream.read len).1 with
  | error failure =>
      have empty := (FedInputStream.read_error outcome).resolve_left (by simp [opened])
      have ended : failure = .closed ∧ use.run.stream.eof = true := by
        simp only [FedInputStream.read, opened, Bool.false_eq_true, if_false, empty,
          Nat.lt_irrefl, sound.unfailed, ne_eq, not_true_eq_false] at outcome
        split at outcome
        case isTrue eof => exact ⟨by simpa [eq_comm] using outcome, eof⟩
        case isFalse => cases outcome
      have past := sound.ended ended.2
      exact ⟨ended.1, by omega⟩
  | ok bytes =>
      rw [outcome] at moved
      have next : bytes <+: content.drop (offset + use.run.returned.length) :=
        (moved ▸ List.prefix_append bytes _).trans rest
      rcases FedInputStream.read_ok sound.run.stream outcome with ⟨some, length⟩ | ⟨none, unready⟩
      · refine ⟨next, by omega, ?_, fun _ => by omega⟩
        intro empty
        rw [empty, List.length_nil] at length
        omega
      · refine ⟨next, by rw [none]; exact Nat.zero_le _, fun _ => .inr unready, ?_⟩
        intro eof
        simp [FedInputStream.ready, eof] at unready

end FedUse

end Proofs

def strictPlatform : ReadPlatform where
  refuses := fun length offset => decide (2 ^ 32 < length ∨ 2 ^ 53 ≤ offset)
  within := by
    intro length offset short low
    exact decide_eq_false (by omega)
  message := "Invalid typed array length"

/-- A descriptor of a file, with the right to read. -/
def readableFile : Core Nat where
  h := 0
  type := .regularFile
  flags :=
    { read := true
      write := false
      fileIntegritySync := false
      dataIntegritySync := false
      requestedWriteSync := false
      mutateDirectory := false }

end Polyengine.Wasi
