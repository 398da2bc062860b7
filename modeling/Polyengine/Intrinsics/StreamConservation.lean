import Polyengine.Intrinsics.StreamReachable
import Polyengine.Library.Grouping

/-!
# Stream conservation

What the reader's buffers received, copy by copy, is what the writer's buffers gave away, copy by
copy. Nothing is lost or doubled in between, and both sides are told the same total.
-/

set_option autoImplicit false

namespace Polyengine.Intrinsics.StreamInvariant

open Polyengine.Cabi Polyengine.Library Polyengine.Task Polyengine.Task.Streams
open Polyengine.Intrinsics.StreamBuiltins Polyengine.Intrinsics.StreamRun

variable {layer : ElementLayer}

def elementsFrom (transfers : List (Transfer layer)) (ref : BufferRef) : List layer.Value :=
  (transfers.filter fun t => t.source = ref).flatMap (·.values)

def elementsInto (transfers : List (Transfer layer)) (ref : BufferRef) : List layer.Value :=
  (transfers.filter fun t => t.target = ref).flatMap (·.values)

/-- The consumed parts of the writer's buffers, in call order. -/
def consumedElements (s : State layer) : List layer.Value :=
  (List.range (s.copies .writable)).flatMap fun n => elementsFrom s.transfers ⟨.writable, n⟩

/-- The filled parts of the reader's buffers, in call order. -/
def receivedElements (s : State layer) : List layer.Value :=
  (List.range (s.copies .readable)).flatMap fun n => elementsInto s.transfers ⟨.readable, n⟩

/-- The address of the `n`th element of a buffer. -/
def elementAddress (memories : Nat → MemInst) (buffer : GuestBuffer layer.Elem)
    (elem : layer.Elem) (n : Nat) : Nat :=
  buffer.base + n * layer.elemSize elem (memories buffer.memory).ptrType

/-- A transfer read its elements right behind those taken from the same buffer before, as they
stood in memory at that moment, and wrote them right behind those put into the target before. -/
structure Transfer.Consecutive (s : State layer) (earlier : List (Transfer layer))
    (t : Transfer layer) : Prop where
  read : ∀ elem, (s.buffers t.source).t = some elem →
    layer.loadListFromValidRange (s.buffers t.source).inst
      (t.before (s.buffers t.source).memory) elem
      (elementAddress t.before (s.buffers t.source) elem (elementsFrom earlier t.source).length)
      t.values.length = .ok t.values
  blank : (s.buffers t.source).t = none → ∀ v ∈ t.values, v = layer.null
  written : ∀ elem, (s.buffers t.target).t = some elem →
    layer.storeListIntoValidRange (s.buffers t.target).inst elem
      (t.before (s.buffers t.target).memory)
      (elementAddress t.before (s.buffers t.target) elem (elementsInto earlier t.target).length)
      t.values = .ok (t.after (s.buffers t.target).memory)

/-- Conservation of a stream. -/
structure Conserved (s : State layer) : Prop where
  elements : receivedElements s = consumedElements s
  consumed : ∀ n, (elementsFrom s.transfers ⟨.writable, n⟩).length =
    (s.buffers ⟨.writable, n⟩).progress
  filled : ∀ n, (elementsInto s.transfers ⟨.readable, n⟩).length =
    (s.buffers ⟨.readable, n⟩).progress
  bounded : ∀ ref, (s.buffers ref).progress ≤ (s.buffers ref).length
  consecutive : ∀ earlier t later, s.transfers = earlier ++ t :: later →
    Transfer.Consecutive s earlier t
  totals : reportedTotal s .readable + unreported s .readable =
    reportedTotal s .writable + unreported s .writable

section

variable {s : State layer}

theorem elementsFrom_grouped (accounting : Accounting s) {transfers : List (Transfer layer)}
    (sub : ∀ t ∈ transfers, t ∈ s.transfers) (n : Nat) :
    transfers.filter (fun t => t.source = ⟨.writable, n⟩) =
      grouped (fun t => t.source.number) transfers n := by
  refine List.filter_congr fun t member => ?_
  have side := (accounting.ends_ t (sub t member)).1.1
  cases source : t.source with
  | mk place number =>
      rw [source] at side
      simp only at side
      simp [side, source]

theorem elementsInto_grouped (accounting : Accounting s) {transfers : List (Transfer layer)}
    (sub : ∀ t ∈ transfers, t ∈ s.transfers) (n : Nat) :
    transfers.filter (fun t => t.target = ⟨.readable, n⟩) =
      grouped (fun t => t.target.number) transfers n := by
  refine List.filter_congr fun t member => ?_
  have side := (accounting.ends_ t (sub t member)).2.1
  cases target : t.target with
  | mk place number =>
      rw [target] at side
      simp only at side
      simp [side, target]

theorem consumedElements_eq (accounting : Accounting s) :
    consumedElements s = s.transfers.flatMap (·.values) := by
  have ordered : KeyOrdered (fun t : Transfer layer => t.source.number) s.transfers :=
    accounting.ordered.imp fun both => both.1
  have whole := ordered.flatMap_grouped fun t member => (accounting.ends_ t member).1.2
  calc consumedElements s
      = (List.range (s.copies .writable)).flatMap fun n =>
          (grouped (fun t => t.source.number) s.transfers n).flatMap (·.values) := by
        refine List.flatMap_congr fun n _ => ?_
        rw [elementsFrom, elementsFrom_grouped accounting fun _ member => member]
    _ = s.transfers.flatMap (·.values) := by rw [← List.flatMap_assoc, whole]

theorem receivedElements_eq (accounting : Accounting s) :
    receivedElements s = s.transfers.flatMap (·.values) := by
  have ordered : KeyOrdered (fun t : Transfer layer => t.target.number) s.transfers :=
    accounting.ordered.imp fun both => both.2
  have whole := ordered.flatMap_grouped fun t member => (accounting.ends_ t member).2.2
  calc receivedElements s
      = (List.range (s.copies .readable)).flatMap fun n =>
          (grouped (fun t => t.target.number) s.transfers n).flatMap (·.values) := by
        refine List.flatMap_congr fun n _ => ?_
        rw [elementsInto, elementsInto_grouped accounting fun _ member => member]
    _ = s.transfers.flatMap (·.values) := by rw [← List.flatMap_assoc, whole]

theorem movedThrough_writable (accounting : Accounting s) {transfers : List (Transfer layer)}
    (sub : ∀ t ∈ transfers, t ∈ s.transfers) {ref : BufferRef} (side : ref.side = .writable) :
    movedThrough transfers ref = (elementsFrom transfers ref).length := by
  have same : transfers.filter (fun t => t.source = ref ∨ t.target = ref) =
      transfers.filter fun t => t.source = ref := by
    refine List.filter_congr fun t member => ?_
    have readable := (accounting.ends_ t (sub t member)).2.1
    have other : t.target ≠ ref := by
      rintro rfl
      simp [readable] at side
    simp [other]
  rw [movedThrough, elementsFrom, List.length_flatMap, same]

theorem movedThrough_readable (accounting : Accounting s) {transfers : List (Transfer layer)}
    (sub : ∀ t ∈ transfers, t ∈ s.transfers) {ref : BufferRef} (side : ref.side = .readable) :
    movedThrough transfers ref = (elementsInto transfers ref).length := by
  have same : transfers.filter (fun t => t.source = ref ∨ t.target = ref) =
      transfers.filter fun t => t.target = ref := by
    refine List.filter_congr fun t member => ?_
    have writable := (accounting.ends_ t (sub t member)).1.1
    have other : t.source ≠ ref := by
      rintro rfl
      simp [writable] at side
    simp [other]
  rw [movedThrough, elementsInto, List.length_flatMap, same]

theorem copiedTotal_writable (accounting : Accounting s) :
    copiedTotal s .writable = (consumedElements s).length := by
  rw [copiedTotal, consumedElements, List.length_flatMap]
  refine congrArg List.sum (List.map_congr_left fun n _ => ?_)
  rw [accounting.progress, movedThrough_writable accounting (fun _ member => member) rfl]

theorem copiedTotal_readable (accounting : Accounting s) :
    copiedTotal s .readable = (receivedElements s).length := by
  rw [copiedTotal, receivedElements, List.length_flatMap]
  refine congrArg List.sum (List.map_congr_left fun n _ => ?_)
  rw [accounting.progress, movedThrough_readable accounting (fun _ member => member) rfl]

theorem Transfer.Traced.consecutive (accounting : Accounting s)
    {earlier later : List (Transfer layer)} {t : Transfer layer}
    (split : s.transfers = earlier ++ t :: later) (traced : Transfer.Traced s earlier t) :
    Transfer.Consecutive s earlier t := by
  have member : t ∈ s.transfers := by simp [split]
  have sub : ∀ other ∈ earlier, other ∈ s.transfers := fun other before => by
    simp [split, before]
  have sides := accounting.ends_ t member
  have source := traced.sourceProgress.trans (movedThrough_writable accounting sub sides.1.1)
  have target := traced.targetProgress.trans (movedThrough_readable accounting sub sides.2.1)
  refine
    { read := fun elem present => ?_, blank := fun absent v inside => ?_,
      written := fun elem present => ?_ }
  · have present' : t.sourceBuffer.t = some elem := traced.sourceArea.t.trans present
    have loaded := traced.faithful.loaded elem present'
    rw [traced.sourceCursor elem present', traced.sourceArea.base, traced.sourceArea.memory,
      traced.sourceArea.inst, source] at loaded
    exact loaded
  · have blank := traced.faithful.blank (traced.sourceArea.t.trans absent)
    rw [blank] at inside
    exact List.eq_of_mem_replicate inside
  · have present' : t.targetBuffer.t = some elem := traced.targetArea.t.trans present
    have stored := traced.faithful.stored elem present'
    rw [traced.targetCursor elem present', traced.targetArea.base, traced.targetArea.memory,
      traced.targetArea.inst, target] at stored
    exact stored

end

/-- Whatever the interleaving, a stream conserves its elements. -/
theorem stream_conserves {s : State layer} (reachable : Reachable s) (stream : s.kind = .stream) :
    Conserved s := by
  have accounting := (Reachable.stable reachable).inv.accounting
  have elements : receivedElements s = consumedElements s :=
    (receivedElements_eq accounting).trans (consumedElements_eq accounting).symm
  refine
    { elements
      consumed := fun n => ?_
      filled := fun n => ?_
      bounded := fun ref => (accounting.bounded ref).1
      consecutive := fun earlier t later split =>
        (accounting.traced earlier t later split).consecutive accounting split
      totals := ?_ }
  · rw [accounting.progress, movedThrough_writable accounting (fun _ member => member) rfl]
  · rw [accounting.progress, movedThrough_readable accounting (fun _ member => member) rfl]
  · rw [← accounting.totals stream, ← accounting.totals stream,
      copiedTotal_readable accounting, copiedTotal_writable accounting, elements]

/-! ## A partial copy -/

/-- Streams of `u8`, each element one byte of memory. -/
@[reducible] def byteLayer : ElementLayer where
  Elem := Unit
  Value := Option UInt8
  null := none
  isNull := Option.isNone
  isNull_null := rfl
  equalLocal _ _ := true
  equalUnderlying _ _ := true
  isNumber _ := true
  isChar _ := false
  fmtValType t := if t.isSome then "u8" else "null"
  alignment _ _ := 1
  elemSize _ _ := 1
  load _ mem ptr _ :=
    if ptr < mem.length then .ok (some (mem.byte ptr))
    else .error (.assertion "load out of bounds")
  store _ mem v ptr _ :=
    match v with
    | none => .error (.trap "not a number")
    | some byte =>
        if ptr < mem.length then .ok { mem with byte := Function.update mem.byte ptr byte }
        else .error (.assertion "store out of bounds")
  store_addrType := by
    intro inst mem stored v ptr t success
    cases v with
    | none => cases success
    | some byte =>
        simp only at success
        split at success
        · cases success; rfl
        · cases success

/-- Two instances with memories of eight bytes; the first holds 1, 2, 3, 4. -/
def twoInstances : Environment where
  tables _ := Table.empty
  memories memory :=
    { length := 8, addrType := .i32,
      byte := fun ptr => if memory = 0 ∧ ptr < 4 then UInt8.ofNat (ptr + 1) else 0 }
  mayLeave _ := true
  poisoned _ := false

theorem twoInstances_valid : twoInstances.Valid where
  tables _ := Table.empty_valid
  unknown _ _ _ := by simp [twoInstances]

def stateAfter (kind : Kind) (actions : List (Action byteLayer)) : Option (State byteLayer) :=
  match (do
      let _ ← createNew kind 0
      Transition.run step actions).run (State.create twoInstances kind (some ())) with
  | .ok (_, s) => some s
  | .error _ => none

theorem stateAfter_reachable {kind : Kind} {actions : List (Action byteLayer)}
    {s : State byteLayer} (after : stateAfter kind actions = some s) : Reachable s := by
  simp only [stateAfter, StateT.run_bind] at after
  cases created : (createNew kind 0).run
      (State.create twoInstances kind (some ()) : State byteLayer) with
  | error failure => simp [created, bind, Except.bind] at after
  | ok outcome =>
      cases ran : (Transition.run step actions).run outcome.2 with
      | error failure => simp [created, ran, bind, Except.bind] at after
      | ok reached =>
          simp only [created, ran, bind, Except.bind, Option.some.injEq] at after
          subst after
          exact ⟨twoInstances, kind, some (), 0, outcome.1, outcome.2, twoInstances_valid, rfl,
            created, actions, reached.1, ran⟩

/-- A copy of the bytes from `ptr` on, by the instance that has the memory of its own number. -/
def byteCopy (inst i ptr n : Nat) : CopyCall Unit :=
  { elem := some (), inst, i, ptr, n, async := true, memory := some inst, jspi := false }

/-- The writer offers 1, 2, 3, of which the reader takes one; the writer gives up and offers 4. -/
def partialCopy : List (Action byteLayer) :=
  [.transfer .stream 0 1 (some ()) (some ()) 1,
   .copy .stream .writable (byteCopy 0 2 0 3),
   .copy .stream .readable (byteCopy 1 1 0 1),
   .cancel .stream .writable { elem := some (), inst := 0, i := 2, async := true, jspi := false },
   .copy .stream .writable (byteCopy 0 2 3 1),
   .copy .stream .readable (byteCopy 1 1 1 1)]

theorem stream_conserves_partialCopy :
    ∃ s : State byteLayer, stateAfter .stream partialCopy = some s ∧
      receivedElements s = [some 1, some 4] ∧ Conserved s := by
  have facts : (stateAfter .stream partialCopy).map (fun s => (s.kind, receivedElements s)) =
      some (.stream, [some 1, some 4]) := by decide +kernel
  obtain ⟨s, after, both⟩ := Option.map_eq_some_iff.mp facts
  simp only [Prod.mk.injEq] at both
  exact ⟨s, after, both.2, stream_conserves (stateAfter_reachable after) both.1⟩

def offered (s : State layer) (ref : BufferRef) : Except Failure (List layer.Value) :=
  match (s.buffers ref).t with
  | none => pure (List.replicate (s.buffers ref).length layer.null)
  | some elem =>
      layer.loadListFromValidRange (s.buffers ref).inst (s.memories (s.buffers ref).memory) elem
        (s.buffers ref).base (s.buffers ref).length

/-- The elements of the writer's buffers, in call order. -/
def offeredElements (s : State layer) : Except Failure (List layer.Value) := do
  let parts ← (List.range (s.copies .writable)).mapM fun n => offered s ⟨.writable, n⟩
  pure parts.flatten

/-- A reader does not receive a prefix of what the writer's buffers offer. -/
theorem received_not_prefix_of_offered :
    ¬∀ (s : State byteLayer) (contents : List (Option UInt8)), Reachable s → s.kind = .stream →
      offeredElements s = .ok contents → receivedElements s <+: contents := by
  intro prefixes
  have facts : (stateAfter .stream partialCopy).map (fun s =>
      (s.kind, receivedElements s, (offeredElements s).toOption)) =
      some (.stream, [some 1, some 4], some [some 1, some 2, some 3, some 4]) := by decide +kernel
  obtain ⟨s, after, all⟩ := Option.map_eq_some_iff.mp facts
  simp only [Prod.mk.injEq] at all
  obtain ⟨kind, received, contents⟩ := all
  have whole : offeredElements s = .ok [some 1, some 2, some 3, some 4] := by
    cases loaded : offeredElements s with
    | error failure => simp [loaded, Except.toOption] at contents
    | ok values =>
        simp only [loaded, Except.toOption, Option.some.injEq] at contents
        rw [contents]
  have wrong := prefixes s _ (stateAfter_reachable after) kind whole
  rw [received] at wrong
  revert wrong
  decide

end Polyengine.Intrinsics.StreamInvariant
