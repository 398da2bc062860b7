import Polyengine.Cabi.CustodyCleanup
import Polyengine.Cabi.LowerEmissions

/-!
# Pairing acquisitions with insertions

Acquiring the values of a list and lowering them traverse the types separately, one over the values
and the other flat or through memory. Both meet the owned leaves in the same order, so the insertions
of a lowering describe the acquisitions one by one.
-/

set_option autoImplicit false

namespace Polyengine.Cabi

open Polyengine.Library Command PreparedCustody

/-- The leaf of an owned handle: how its acquisition is cleaned up. -/
def custodyLeaf : DespecializedValType → Value → List Cleanup
  | .own rt, v =>
      match asRep v with
      | .ok rep => [.callDtor rt rep]
      | .error _ => []
  | .stream _, v | .future _, v =>
      match asShared v with
      | .ok shared => [.dropShared shared]
      | .error _ => []
  | _, _ => []

/-- The entry of a table is the handle of the acquired leaf. -/
def Describes : Cleanup → HandleEntry → Prop
  | .callDtor rt rep, entry => ∃ object, entry = .resource object rt rep true none
  | .dropShared shared, entry => entry = .readableEnd shared

section Acquire

variable {State : Type} {checkpoint : Command State Failure Unit}

/-- What an acquisition records: new acquisitions without an insertion, and nothing else. -/
def acquisitions : Ledger (PreparedCustody × State) Cleanup where
  holds := fun _ => True
  records := fun cleanups state next =>
    next.1 = { state.1 with acquired := state.1.acquired ++ cleanups.map fun c => ⟨c, none⟩ }
  refl := by
    intro state
    simp
  trans := by
    intro items later first middle last before after
    rw [after, before, List.map_append, List.append_assoc]

theorem acquireLeaf_emits (cleanup : Cleanup) :
    acquisitions.Emits (fun _ => True) [cleanup] (acquireLeaf checkpoint cleanup) fun _ => True := by
  rintro ⟨custody, state⟩ _
  cases ran : checkpoint.outcome state with
  | mk result next =>
      simp only [acquireLeaf, ensures_bind, ensures_get, ran, ensures_set, ensures_lift]
      cases result with
      | error failure => exact ⟨trivial, [], List.nil_prefix, acquisitions.refl _⟩
      | ok _ =>
          simp only [Fallible.satisfies_ok, PreparedCustody.acquire]
          split
          · exact ⟨trivial, [], List.nil_prefix, acquisitions.refl _⟩
          · exact ⟨trivial, trivial, rfl⟩

theorem leavesOfFields_silent {fields : List DespecializedFieldType}
    (without : hasRawCustodyRecord fields = false)
    (silent : ∀ field ∈ fields, hasRawCustody field.type = false →
      ∀ v, leavesOf custodyLeaf field.type v = []) (v : Value) :
    leavesOfFields custodyLeaf fields v = [] := by
  induction fields with
  | nil => rw [leavesOfFields]
  | cons first rest ih =>
      obtain ⟨label, type⟩ := first
      rw [hasRawCustodyRecord, Bool.or_eq_false_iff] at without
      rw [leavesOfFields, ih without.2 fun field member => silent field (List.mem_cons_of_mem _ member)]
      cases propertyOf v label with
      | error _ => rfl
      | ok value =>
          rw [List.append_nil]
          exact silent ⟨label, type⟩ List.mem_cons_self without.1 value

theorem leavesOfCase_silent {cases' : List DespecializedCaseType}
    (without : hasRawCustodyVariant cases' = false)
    (silent : ∀ case ∈ cases', ∀ type, case.type = some type → hasRawCustody type = false →
      ∀ v, leavesOf custodyLeaf type v = []) (kind : String) (value : Value) :
    leavesOfCase custodyLeaf cases' kind value = [] := by
  induction cases' with
  | nil => rw [leavesOfCase]
  | cons first rest ih =>
      obtain ⟨label, content⟩ := first
      cases content with
      | none =>
          rw [hasRawCustodyVariant] at without
          have later := ih without fun case member => silent case (List.mem_cons_of_mem _ member)
          rw [leavesOfCase, later]
          exact ite_self _
      | some type =>
          rw [hasRawCustodyVariant, Bool.or_eq_false_iff] at without
          have here := silent ⟨label, some type⟩ List.mem_cons_self type rfl without.1 value
          have later := ih without.2 fun case member => silent case (List.mem_cons_of_mem _ member)
          rw [leavesOfCase, later, here]
          exact ite_self _

theorem ValidType.custody_silent {handles : Prop} {d : DespecializedValType}
    (valid : ValidType handles d) (without : hasRawCustody d = false) (v : Value) :
    leavesOf custodyLeaf d v = [] := by
  induction valid generalizing v with
  | prim kind => exact leavesOf_prim custodyLeaf kind v
  | @list element length _ _ ih =>
      rw [hasRawCustody] at without
      rw [leavesOf]
      cases arrayLike v with
      | error _ => rfl
      | ok elements =>
          rw [List.flatMap_eq_nil_iff]
          intro e _
          exact ih without e
  | record _ _ _ ih =>
      rw [hasRawCustody] at without
      rw [leavesOf]
      exact leavesOfFields_silent without ih v
  | variant _ _ _ _ ih =>
      rw [hasRawCustody] at without
      cases v with
      | variant kind value =>
          rw [leavesOf]
          exact leavesOfCase_silent without ih kind value
      | _ => rw [leavesOf] <;> simp
  | flags _ _ _ => cases v <;> rw [leavesOf] <;> simp
  | @handle d _ isHandle =>
      rw [leavesOf_handle custodyLeaf isHandle]
      cases d with
      | borrow rt => rfl
      | errorContext => rfl
      | own | stream | future => cases without
      | _ => cases isHandle

theorem acquireElements_emits {element : DespecializedValType}
    {acquireElement : Value → Acquiring State Unit}
    (acquires : ∀ v, acquisitions.Emits (fun _ => True) (leavesOf custodyLeaf element v)
      (acquireElement v) fun _ => True) (elements : List Value) :
    acquisitions.Emits (fun _ => True) (elements.flatMap (leavesOf custodyLeaf element))
      (acquireElements acquireElement elements) fun _ => True := by
  induction elements with
  | nil => exact .pure trivial
  | cons e rest ih =>
      rw [acquireElements, List.flatMap_cons]
      exact (acquires e).bind fun _ _ => ih

theorem acquireFields_emits {fields : List DespecializedFieldType}
    (acquires : ∀ field ∈ fields, ∀ v, acquisitions.Emits (fun _ => True)
      (leavesOf custodyLeaf field.type v) (acquireRawValue checkpoint v field.type) fun _ => True)
    (v : Value) :
    acquisitions.Emits (fun _ => True) (leavesOfFields custodyLeaf fields v)
      (acquireFields checkpoint v fields) fun _ => True := by
  induction fields with
  | nil =>
      rw [acquireFields, leavesOfFields]
      exact .pure trivial
  | cons first rest ih =>
      obtain ⟨label, type⟩ := first
      have later := ih fun field member => acquires field (List.mem_cons_of_mem _ member)
      rw [acquireFields, leavesOfFields]
      cases read : propertyOf v label with
      | error failure => exact .throw trivial _
      | ok value =>
          exact (acquires ⟨label, type⟩ List.mem_cons_self value).bind fun _ _ => later

theorem acquireCase_emits {cases' : List DespecializedCaseType}
    (acquires : ∀ case ∈ cases', ∀ type, case.type = some type → ∀ v,
      acquisitions.Emits (fun _ => True) (leavesOf custodyLeaf type v)
        (acquireRawValue checkpoint v type) fun _ => True) (kind : String) (value : Value) :
    acquisitions.Emits (fun _ => True) (leavesOfCase custodyLeaf cases' kind value)
      (acquireCase checkpoint kind value cases') fun _ => True := by
  induction cases' with
  | nil =>
      rw [acquireCase, leavesOfCase]
      exact .pure trivial
  | cons first rest ih =>
      obtain ⟨label, content⟩ := first
      have later := ih fun case member => acquires case (List.mem_cons_of_mem _ member)
      cases content with
      | none =>
          rw [acquireCase, leavesOfCase]
          split
          · exact .pure trivial
          · exact later
      | some type =>
          rw [acquireCase, leavesOfCase]
          split
          · exact acquires ⟨label, some type⟩ List.mem_cons_self type rfl value
          · exact later

theorem acquireRawValue_without {d : DespecializedValType} (without : hasRawCustody d = false)
    (v : Value) : acquireRawValue checkpoint v d = pure () := by
  rw [acquireRawValue.eq_def, without]
  rfl

theorem acquireRawValue_traversed {handles : Prop} {d : DespecializedValType}
    (valid : ValidType handles d) {v : Value}
    (traversed : hasRawCustody d = true → acquisitions.Emits (fun _ => True)
      (leavesOf custodyLeaf d v) (acquireRawValue checkpoint v d) fun _ => True) :
    acquisitions.Emits (fun _ => True) (leavesOf custodyLeaf d v) (acquireRawValue checkpoint v d)
      fun _ => True := by
  cases owned : hasRawCustody d with
  | true => exact traversed owned
  | false =>
      rw [valid.custody_silent owned, acquireRawValue_without owned]
      exact .pure trivial

theorem acquireRawValue_emits {handles : Prop} {d : DespecializedValType}
    (valid : ValidType handles d) (v : Value) :
    acquisitions.Emits (fun _ => True) (leavesOf custodyLeaf d v) (acquireRawValue checkpoint v d)
      fun _ => True := by
  induction valid generalizing v with
  | prim kind =>
      have whole : ValidType handles (.prim kind) := .prim kind
      apply acquireRawValue_traversed whole
      intro owned
      cases owned
  | @list element length valid bounds ih =>
      apply acquireRawValue_traversed (.list valid bounds)
      intro owned
      rw [acquireRawValue, if_pos owned]
      cases listed : arrayLike v with
      | error failure => exact .throw trivial _
      | ok elements =>
          rw [leavesOf_list custodyLeaf listed]
          exact acquireElements_emits ih elements
  | record nonempty distinct valid ih =>
      apply acquireRawValue_traversed (.record nonempty distinct valid)
      intro owned
      rw [acquireRawValue, if_pos owned, leavesOf]
      exact acquireFields_emits ih v
  | variant nonempty bound distinct valid ih =>
      apply acquireRawValue_traversed (.variant nonempty bound distinct valid)
      intro owned
      cases v with
      | variant kind value =>
          rw [acquireRawValue, if_pos owned, leavesOf]
          exact acquireCase_emits ih kind value
      | _ =>
          rw [acquireRawValue, if_pos owned]
          · exact .throw trivial _
          all_goals simp
  | flags nonempty bound distinct =>
      have whole : ValidType handles (.flags _) := .flags nonempty bound distinct
      apply acquireRawValue_traversed whole
      intro owned
      cases owned
  | @handle d admitted isHandle =>
      apply acquireRawValue_traversed (.handle admitted isHandle)
      intro owned
      rw [leavesOf_handle custodyLeaf isHandle]
      cases d with
      | own rt =>
          rw [acquireRawValue, if_pos owned, custodyLeaf]
          cases asRep v with
          | error failure => exact .throw trivial _
          | ok rep => exact acquireLeaf_emits _
      | stream element | future element =>
          rw [acquireRawValue, if_pos owned, custodyLeaf]
          cases asShared v with
          | error failure => exact .throw trivial _
          | ok shared => exact acquireLeaf_emits _
      | borrow | errorContext => cases owned
      | _ => cases isHandle

theorem acquireRawValues_emits {ts : List ValType} {handles : Prop}
    (valid : ∀ t ∈ ts, ValidType handles (despecialize t)) (vs : List Value) :
    acquisitions.Emits (fun _ => True) (leavesOfAll custodyLeaf (ts.map despecialize) vs)
      (acquireRawValues checkpoint vs ts) fun _ => True := by
  induction ts generalizing vs with
  | nil => cases vs <;> exact .pure trivial
  | cons t ts ih =>
      cases vs with
      | nil => exact .pure trivial
      | cons v vs =>
          rw [acquireRawValues, List.map_cons, leavesOfAll]
          refine (acquireRawValue_emits (valid t List.mem_cons_self) v).bind ?_
          intro _ _
          exact ih (fun t member => valid t (List.mem_cons_of_mem _ member)) vs

end Acquire

section Lower

variable {Host Guest : Type}

/-- The insertions in order, as the custody takes note of them. -/
def PreparedCustody.insertedAll (custody : PreparedCustody) (insertions : List Insertion) :
    PreparedCustody :=
  insertions.foldl PreparedCustody.inserted custody

structure Stays (handles next : Handles Host) : Prop where
  valid : (∀ inst, (handles.tables inst).Valid) → ∀ inst, (next.tables inst).Valid
  held : ∀ insertion : Insertion, insertion.Held handles → insertion.Held next

theorem Stays.of_tables {handles next : Handles Host} (tables : next.tables = handles.tables) :
    Stays handles next := by
  constructor
  · intro valid
    rwa [tables]
  · intro insertion held
    unfold Insertion.Held at held ⊢
    rwa [tables]

/-- What lowering records in the custody of the world: an insertion for every owned leaf, in order,
into the table of the destination, where it and all that was there stay. -/
def insertions (cx : HandleContext Host) : Ledger (HandleState Host Guest) Cleanup where
  holds := fun world => ∀ inst, (world.handles.tables inst).Valid
  records := fun cleanups world next => ∃ inserted : List Insertion,
    List.Forall₂ (fun cleanup insertion => Describes cleanup insertion.entry ∧
      cx.inst = some insertion.table) cleanups inserted ∧
    next.custody = world.custody.map (·.insertedAll inserted) ∧
    (∀ insertion ∈ inserted, insertion.Held next.handles) ∧ Stays world.handles next.handles
  refl := by
    intro world
    refine ⟨[], .nil, ?_, ?_, .of_tables rfl⟩
    · cases world.custody <;> rfl
    · intro insertion member
      cases member
  trans := by
    intro items later first middle last before after
    obtain ⟨inserted, describes, custody, held, kept⟩ := before
    obtain ⟨inserted', describes', custody', held', kept'⟩ := after
    refine ⟨inserted ++ inserted', List.rel_append describes describes', ?_, ?_, ?_⟩
    · rw [custody', custody]
      cases first.custody with
      | none => rfl
      | some prepared =>
          simp only [Option.map_some, PreparedCustody.insertedAll, List.foldl_append]
    · intro insertion member
      cases List.mem_append.mp member with
      | inl early => exact kept'.held insertion (held insertion early)
      | inr late => exact held' insertion late
    · constructor
      · intro valid
        exact kept'.valid (kept.valid valid)
      · intro insertion here
        exact kept'.held insertion (kept.held insertion here)

variable {cx : HandleContext Host} {permitted : Failure → Prop}

theorem insertions_silent {world next : HandleState Host Guest}
    (custody : next.custody = world.custody)
    (tables : next.handles.tables = world.handles.tables) :
    (insertions cx).records [] world next := by
  refine ⟨[], .nil, ?_, ?_, .of_tables tables⟩
  · rw [custody]
    cases world.custody <;> rfl
  · intro insertion member
    cases member

theorem modifyHandles_emits {change : Handles Host → Handles Host}
    (tables : ∀ handles, (change handles).tables = handles.tables) :
    (insertions cx).Emits permitted [] (modifyHandles change : Handling Host Guest Unit)
      fun _ => True := by
  intro world valid
  refine ⟨trivial, ?_, insertions_silent rfl (tables _)⟩
  intro inst
  dsimp only
  rw [tables]
  exact valid inst

structure Added (inst : Nat) (e : HandleEntry) (world : HandleState Host Guest) (i : Nat)
    (next : HandleState Host Guest) : Prop where
  small : i < 2 ^ 32
  custody : next.custody = world.custody
  valid : ∀ inst, (next.handles.tables inst).Valid
  entry : (next.handles.tables inst).entry i = some e
  kept : Stays world.handles next.handles

theorem addHandle_ensures {world : HandleState Host Guest}
    (valid : ∀ inst, (world.handles.tables inst).Valid) (inst : Nat) (e : HandleEntry) :
    Ensures (fun failure next => OffLanes failure ∧ next = world) (addHandle inst e)
      (fun i next => Added inst e world i next) world := by
  simp only [addHandle, ensures_bind, ensures_get, ensures_lift, Handles.addEntry,
    Fallible.satisfies_bind]
  cases added : (world.handles.tables inst).add e with
  | error failure =>
      have trapped := TenuredTable.add_error_isTrap (valid inst) added
      exact ⟨.of_isTrap trapped, trivial⟩
  | ok outcome =>
      obtain ⟨i, table⟩ := outcome
      obtain ⟨vacant, valid', entries, tenures, bound⟩ := TenuredTable.add_ok (valid inst) added
      have small : Table.maxLength < 2 ^ 32 := by decide
      have remains : ∀ other, ((world.handles.setTable inst table).tables other).Valid := by
        intro other
        by_cases same : other = inst
        · subst same
          simpa [Handles.setTable] using valid'
        · simpa [Handles.setTable, Function.update_of_ne same] using valid other
      constructor
      · omega
      · rfl
      · exact remains
      · simp [Handles.setTable, entries]
      · constructor
        · intro _
          exact remains
        · intro insertion held
          unfold Insertion.Held at held ⊢
          by_cases same : insertion.table = inst
          · subst same
            obtain ⟨live, current⟩ := held
            have other : insertion.index ≠ i := by
              intro same
              rw [← same, live] at vacant
              cases vacant
            simp only [Handles.setTable, Function.update_self]
            constructor
            · rw [entries, if_neg other]
              exact live
            · rw [tenures, if_neg other]
              exact current
          · simpa [Handles.setTable, Function.update_of_ne same] using held

theorem addHandle_emits (lax : ∀ failure, OffLanes failure → permitted failure) (inst : Nat)
    (e : HandleEntry) :
    (insertions cx).Emits permitted [] (addHandle inst e : Handling Host Guest Nat)
      fun i => i < 2 ^ 32 := by
  intro world valid
  refine (addHandle_ensures valid inst e).mono ?_ ?_
  · intro failure next failed
    obtain ⟨offLanes, rfl⟩ := failed
    exact ⟨lax failure offLanes, [], List.nil_prefix, (insertions cx).refl _⟩
  · intro i next added
    refine ⟨added.small, added.valid, [], .nil, ?_, ?_, added.kept⟩
    · rw [added.custody]
      cases world.custody <;> rfl
    · intro insertion member
      cases member

def HandleContext.StopsWith (cx : HandleContext Host) (permitted : Failure → Prop) : Prop :=
  ∀ checkpoint, cx.checkpoint = some checkpoint → ∀ handles failure,
    checkpoint handles = .error failure → permitted failure

theorem runCheckpoint_ensures (stops : cx.StopsWith permitted) (world : HandleState Host Guest) :
    Ensures (fun failure next => permitted failure ∧ next = world) cx.runCheckpoint
      (fun _ next => next = world) world := by
  rw [HandleContext.runCheckpoint]
  cases stop : cx.checkpoint with
  | none => rfl
  | some checkpoint =>
      simp only [ensures_bind, ensures_get, ensures_lift]
      cases ran : checkpoint world.handles with
      | error failure => exact ⟨stops checkpoint stop _ failure ran, trivial⟩
      | ok _ => trivial

theorem runCheckpoint_emits (stops : cx.StopsWith permitted) :
    (insertions cx).Emits permitted [] (cx.runCheckpoint : Handling Host Guest Unit)
      fun _ => True := by
  intro world valid
  refine (runCheckpoint_ensures stops world).mono ?_ ?_
  · rintro failure next ⟨allowed, rfl⟩
    exact ⟨allowed, [], List.nil_prefix, (insertions cx).refl next⟩
  · rintro _ next rfl
    exact ⟨trivial, valid, (insertions cx).refl next⟩

theorem insertEntry_emits (lax : ∀ failure, OffLanes failure → permitted failure)
    (stops : cx.StopsWith permitted) {inst : Nat} (destination : cx.inst = some inst)
    {e : HandleEntry} {cleanup : Cleanup} (describes : Describes cleanup e)
    {settle : Nat → Handles Host → Handles Host}
    (tables : ∀ i handles, (settle i handles).tables = handles.tables) :
    (insertions cx).Emits permitted [cleanup] (do
      let i ← addHandle inst e
      modifyHandles (settle i)
      custodyInserted inst i e
      cx.runCheckpoint
      return i : Handling Host Guest Nat) fun i => i < 2 ^ 32 := by
  intro world valid
  rw [ensures_bind]
  refine (addHandle_ensures valid inst e).mono ?_ ?_
  · intro failure next failed
    obtain ⟨offLanes, rfl⟩ := failed
    exact ⟨lax failure offLanes, [], List.nil_prefix, (insertions cx).refl _⟩
  · intro i next added
    have recorded : ∀ final : HandleState Host Guest,
        final.handles.tables = next.handles.tables →
        final.custody = next.custody.map (fun custody => custody.inserted
          { table := inst, index := i, entry := e,
            tenure := (next.handles.tables inst).tenureAt i }) →
        (∀ other, (final.handles.tables other).Valid) ∧
          (insertions cx).records [cleanup] world final := by
      intro final sameTables custody
      have described : List.Forall₂ (fun cleanup insertion => Describes cleanup insertion.entry ∧
          cx.inst = some insertion.table) [cleanup]
          [Insertion.mk inst i e ((next.handles.tables inst).tenureAt i)] :=
        .cons ⟨describes, destination⟩ .nil
      refine ⟨fun other => by rw [sameTables]; exact added.valid other, _, described, ?_, ?_, ?_⟩
      · rw [custody, added.custody]
        rfl
      · intro insertion member
        rw [List.mem_singleton.mp member]
        unfold Insertion.Held
        rw [sameTables]
        exact ⟨added.entry, rfl⟩
      · have settled : Stays next.handles final.handles := .of_tables sameTables
        exact ⟨fun valid => settled.valid (added.kept.valid valid),
          fun insertion held => settled.held insertion (added.kept.held insertion held)⟩
    simp only [modifyHandles, custodyInserted, ensures_bind, ensures_modify, tables]
    refine (runCheckpoint_ensures stops _).mono ?_ ?_
    · rintro failure final ⟨allowed, rfl⟩
      exact ⟨allowed, [cleanup], List.prefix_rfl, (recorded _ (tables i _) rfl).2⟩
    · rintro _ final rfl
      exact ⟨added.small, recorded _ (tables i _) rfl⟩

theorem modifyHandles_id :
    (modifyHandles fun handles => handles : Handling Host Guest Unit) = pure () := rfl

theorem requireInst_emits (lax : ∀ failure, OffLanes failure → permitted failure) :
    (insertions cx).Emits permitted [] (cx.requireInst : Handling Host Guest Nat)
      fun inst => cx.inst = some inst := by
  rw [HandleContext.requireInst]
  cases destination : cx.inst with
  | none => exact .throw (lax _ (.assertion (by decide))) []
  | some inst => exact .pure rfl

theorem handlingAssert_emits (lax : ∀ failure, OffLanes failure → permitted failure)
    {condition : Prop} [Decidable condition] {message : String} (absent : message ∉ laneMessages) :
    (insertions cx).Emits permitted [] (assert_ condition message : Handling Host Guest Unit)
      fun _ => True := by
  rw [assert_]
  apply Ledger.Emits.ite
  · intro _
    exact .pure trivial
  · intro _
    exact .throw (lax _ (.assertion absent)) []

section

variable (lax : ∀ failure, OffLanes failure → permitted failure) (stops : cx.StopsWith permitted)

include lax stops

theorem lowerOwn_emits (rep rt : Nat) :
    (insertions cx).Emits permitted [.callDtor rt rep]
      (cx.lowerOwn rep rt : Handling Host Guest Nat) fun i => i < 2 ^ 32 := by
  have created : (insertions cx).Emits permitted []
      (newResourceHandle rt rep true none : Handling Host Guest HandleEntry)
      fun h => ∃ object, h = .resource object rt rep true none := by
    intro world valid
    exact ⟨⟨_, rfl⟩, valid, insertions_silent rfl rfl⟩
  rw [HandleContext.lowerOwn]
  refine created.after ?_
  rintro h ⟨object, rfl⟩
  refine (requireInst_emits lax).after ?_
  intro inst destination
  have describes : Describes (.callDtor rt rep) (.resource object rt rep true none) := ⟨object, rfl⟩
  have unsettled : ∀ (_ : Nat) (handles : Handles Host), handles.tables = handles.tables :=
    fun _ _ => rfl
  have inserted := @insertEntry_emits _ Guest _ _ lax stops _ destination _ _ describes _ unsettled
  simpa only [modifyHandles_id, pure_bind] using inserted

theorem lowerBorrow_emits (rep rt : Nat) :
    (insertions cx).Emits permitted [] (cx.lowerBorrow rep rt : Handling Host Guest Nat)
      fun i => rep < 2 ^ 32 → i < 2 ^ 32 := by
  have refused : (insertions cx).Emits permitted []
      (throw (Failure.assertion "lowering a borrow requires a task borrow scope") :
        Handling Host Guest Nat) fun i => rep < 2 ^ 32 → i < 2 ^ 32 :=
    .throw (lax _ (.assertion (by decide))) []
  rw [HandleContext.lowerBorrow]
  cases cx.borrowScope with
  | none => exact refused
  | some borrowScope =>
      cases borrowScope with
      | subtask scope => exact refused
      | task scope =>
          apply Ledger.Emits.ite
          · intro _
            exact .pure fun small => small
          · intro _
            have created : (insertions cx).Emits permitted []
                (newResourceHandle rt rep false (some scope) : Handling Host Guest HandleEntry)
                fun _ => True := by
              intro world valid
              exact ⟨trivial, valid, insertions_silent rfl rfl⟩
            refine created.after ?_
            intro h _
            refine (modifyHandles_emits ?_).after ?_
            · intro handles
              rfl
            intro _ _
            refine (requireInst_emits lax).after ?_
            intro inst _
            refine (addHandle_emits lax inst h).after ?_
            intro i small
            refine (runCheckpoint_emits stops).after ?_
            intro _ _
            exact .pure fun _ => small

omit stops in
theorem bindStore_emits (v inst : Nat) :
    (insertions cx).Emits permitted [] (cx.bindStore v inst : Handling Host Guest Unit)
      fun _ => True := by
  rw [HandleContext.bindStore]
  apply Ledger.Emits.get.after
  intro world _
  dsimp only
  cases (world.handles.shared v).boundStore with
  | some store =>
      apply Ledger.Emits.ite
      · intro _
        exact .pure trivial
      · intro _
        exact .throw (lax _ (.thrown _)) []
  | none =>
      apply modifyHandles_emits
      intro handles
      rfl

omit stops in
theorem claimReadableEnd_emits (v : Nat) (element : Option DespecializedValType) :
    (insertions cx).Emits permitted []
      (HandleContext.claimReadableEnd v element : Handling Host Guest Unit) fun _ => True := by
  rw [HandleContext.claimReadableEnd]
  apply Ledger.Emits.get.after
  intro world _
  refine (handlingAssert_emits lax (by decide)).after ?_
  intro _ _
  apply modifyHandles_emits
  intro handles
  rfl

theorem lowerAsyncValue_emits (kind : Task.Streams.Kind) (v : Nat)
    (element : Option DespecializedValType) :
    (insertions cx).Emits permitted [.dropShared v]
      (cx.lowerAsyncValue kind v element : Handling Host Guest Nat) fun i => i < 2 ^ 32 := by
  rw [HandleContext.lowerAsyncValue]
  apply Ledger.Emits.get.after
  intro world _
  refine (handlingAssert_emits lax (by decide)).after ?_
  intro _ _
  refine (handlingAssert_emits lax (by decide)).after ?_
  intro _ _
  refine (handlingAssert_emits lax (by decide)).after ?_
  intro _ _
  cases destination : cx.inst with
  | none => exact .throw (lax _ (.assertion (by decide))) _
  | some inst =>
      refine (bindStore_emits lax v inst).after ?_
      intro _ _
      refine (modifyHandles_emits ?_).after ?_
      · intro handles
        rfl
      intro _ _
      refine (runCheckpoint_emits stops).after ?_
      intro _ _
      refine (claimReadableEnd_emits lax v element).after ?_
      intro _ _
      have describes : Describes (.dropShared v) (.readableEnd v) := rfl
      apply insertEntry_emits lax stops destination describes
      intro i handles
      rfl

omit stops in
theorem lowerErrorContext_emits (v : Nat) :
    (insertions cx).Emits permitted [] (cx.lowerErrorContext v : Handling Host Guest Nat)
      fun i => i < 2 ^ 32 := by
  rw [HandleContext.lowerErrorContext]
  cases cx.inst with
  | none => exact .throw (lax _ (.assertion (by decide))) []
  | some inst => exact addHandle_emits lax inst _

omit stops in
theorem asRep_emits (v : Value) :
    (insertions cx).Emits permitted [] (liftM (asRep v) : Handling Host Guest Nat)
      fun rep => asRep v = .ok rep := by
  apply Ledger.Emits.lift
  rw [Fallible.satisfies_iff]
  refine ⟨fun _ read => read, fun failure failed => lax failure ?_⟩
  rw [asRep.eq_def] at failed
  split at failed
  · split at failed
    · cases failed
    · cases failed
      exact illTyped_offLanes
  · cases failed
    exact illTyped_offLanes

omit stops in
theorem asShared_emits (v : Value) :
    (insertions cx).Emits permitted [] (liftM (asShared v) : Handling Host Guest Nat)
      fun shared => asShared v = .ok shared := by
  apply Ledger.Emits.lift
  rw [Fallible.satisfies_iff]
  refine ⟨fun _ read => read, fun failure failed => lax failure ?_⟩
  rw [asShared.eq_def] at failed
  split at failed
  · cases failed
  · cases failed
    exact illTyped_offLanes

theorem lowerHandle_emits {d : DespecializedValType} (isHandle : d.isHandle = true) (v : Value) :
    (insertions cx).Emits permitted (custodyLeaf d v)
      (cx.lowerHandle d v : Handling Host Guest Nat) fun i => HasType .none d v → i < 2 ^ 32 := by
  cases d with
  | own rt =>
      refine (asRep_emits lax v).after ?_
      intro rep read
      rw [custodyLeaf, read]
      exact (lowerOwn_emits lax stops rep rt).imp fun _ small _ => small
  | borrow rt =>
      refine (asRep_emits lax v).after ?_
      intro rep read
      refine (lowerBorrow_emits lax stops rep rt).imp ?_
      intro i small has
      cases has with
      | @borrow _ rep' bound =>
          have same : rep' = rep := by simpa [asRep] using read
          exact small (same ▸ bound)
  | stream element | future element =>
      refine (asShared_emits lax v).after ?_
      intro shared read
      rw [custodyLeaf, read]
      exact (lowerAsyncValue_emits lax stops _ shared element).imp fun _ small _ => small
  | errorContext =>
      refine (asShared_emits lax v).after ?_
      intro shared _
      exact (lowerErrorContext_emits lax shared).imp fun _ small _ => small
  | _ => cases isHandle

end

/-- The pointer width and the valid tables that a lowering keeps, and the insertions it records. -/
def lowerings (cx : HandleContext Host) (ptrType : PtrType) :
    Ledger (CxState (HandleState Host Guest)) Cleanup where
  holds := fun state => lanePtrType state.memory = ptrType ∧ (insertions cx).holds state.world
  records := fun cleanups state next => (insertions cx).records cleanups state.world next.world
  refl := fun state => (insertions cx).refl state.world
  trans := fun before after => (insertions cx).trans before after

theorem onWorld_emits {ptrType : PtrType} {Result : Type} {cleanups : List Cleanup}
    {command : Handling Host Guest Result} {post : Result → Prop}
    (emits : (insertions cx).Emits permitted cleanups command post) :
    (lowerings cx ptrType).Emits permitted cleanups (onWorld command) post := by
  rintro state ⟨width, valid⟩
  rw [ensures_onWorld]
  refine (emits state.world valid).mono ?_ ?_
  · intro failure world failed
    exact failed
  · rintro result world ⟨established, running, recorded⟩
    exact ⟨established, ⟨width, running⟩, recorded⟩

theorem callRealloc_emits (lax : ∀ failure, OffLanes failure → permitted failure)
    (ptrType : PtrType)
    (realloc : Nat → Nat → Nat → Nat → Option MemInst → Guest → ReallocOutcome Guest)
    (old oldByteLength alignment newByteLength : Nat) :
    (lowerings cx ptrType).Emits permitted []
      (callRealloc realloc old oldByteLength alignment newByteLength :
        Cx (HandleState Host Guest) Nat) fun ptr => ptr < 2 ^ 32 := by
  rintro state ⟨width, valid⟩
  simp only [callRealloc, ensures_bind, ensures_get, ensures_set]
  have width' : ∀ length byte, lanePtrType (state.memory.map fun mem =>
      { mem with length := length, byte := byte }) = ptrType := by
    intro length byte
    cases present : state.memory with
    | none =>
        rw [present] at width
        exact width
    | some mem =>
        rw [present] at width
        exact width
  cases (realloc old oldByteLength alignment newByteLength state.memory state.world.guest).result with
  | error message =>
      exact ⟨lax _ (.trap message), [], List.nil_prefix, insertions_silent rfl rfl⟩
  | ok n =>
      refine ⟨?_, ⟨width' _ _, valid⟩, insertions_silent rfl rfl⟩
      exact LittleEndian.wrap_lt 32 n

theorem callContext_law (options : Options Guest)
    (lax : ∀ failure, OffLanes failure → permitted failure) (stops : cx.StopsWith permitted)
    (ptrType : PtrType) :
    LowerLaw (callContext options cx) (lowerings cx ptrType) permitted custodyLeaf ptrType where
  own := lax
  ptrType := fun state running => running.1
  write := by
    rintro state mem mem' ⟨width, valid⟩ present ⟨_, sameWidth⟩
    refine ⟨⟨?_, valid⟩, (insertions cx).refl state.world⟩
    rw [present] at width
    simpa [lanePtrType, MemInst.ptrType, sameWidth] using width
  reallocate := by
    intro old oldByteLength alignment newByteLength
    have called := fun realloc =>
      @callRealloc_emits Host Guest cx permitted lax ptrType realloc old oldByteLength alignment
        newByteLength
    have mayLeave : ∀ flag, (lowerings cx ptrType).Emits permitted []
        (modify fun state => { state with mayLeave := flag } : Cx (HandleState Host Guest) PUnit)
        fun _ => True := by
      intro flag state running
      exact ⟨trivial, running, (insertions cx).refl state.world⟩
    rw [LiftLowerContext.reallocate]
    cases provided : (callContext options cx).realloc with
    | none => exact .throw (lax _ (.trap _)) []
    | some realloc =>
        obtain ⟨guest, _, rfl⟩ := Option.map_eq_some_iff.mp provided
        apply Ledger.Emits.ite
        · intro _
          apply Ledger.Emits.get.after
          intro state _
          have permission : (lowerings cx ptrType).Emits permitted []
              (assert_ (state.mayLeave = true) "realloc with may_leave already false" :
                Cx (HandleState Host Guest) Unit) fun _ => True := by
            rw [assert_]
            apply Ledger.Emits.ite
            · intro _
              exact .pure trivial
            · intro _
              exact .throw (lax _ (.assertion (by decide))) []
          refine permission.after ?_
          intro _ _
          refine (mayLeave false).after ?_
          intro _ _
          refine (called guest).after ?_
          intro ptr small
          refine (mayLeave true).after ?_
          intro _ _
          simp only [callContext]
          cases cx.checkpoint with
          | none => exact .pure small
          | some checkpoint =>
              refine (onWorld_emits (runCheckpoint_emits stops)).after ?_
              intro _ _
              exact .pure small
        · intro _
          exact called guest
  handle := by
    intro d v isHandle
    exact onWorld_emits (lowerHandle_emits lax stops isHandle v)

end Lower

section Pairing

variable {Host Guest : Type}

theorem modify_middle {Entry : Type} (front : List Entry) (e : Entry) (rest : List Entry)
    (change : Entry → Entry) :
    (front ++ e :: rest).modify front.length change = front ++ change e :: rest := by
  induction front with
  | nil => rfl
  | cons first front ih => simpa using ih

theorem insertedAll_eq {custody : PreparedCustody} {front : List Acquisition}
    {done rest : List Cleanup} {inserted : List Insertion}
    (acquired : custody.acquired = front ++ (done ++ rest).map fun c => ⟨c, none⟩)
    (cursor : custody.insertCursor = front.length) (same : done.length = inserted.length) :
    custody.insertedAll inserted =
      { custody with
        acquired := front ++ (List.zipWith (fun c i => ⟨c, some i⟩) done inserted ++
          rest.map fun c => ⟨c, none⟩)
        insertCursor := front.length + done.length } := by
  induction inserted generalizing custody front done with
  | nil =>
      rw [List.eq_nil_of_length_eq_zero same] at acquired ⊢
      rw [List.nil_append] at acquired
      rw [PreparedCustody.insertedAll, List.foldl_nil, List.zipWith_nil_left, List.nil_append,
        ← acquired, List.length_nil, Nat.add_zero, ← cursor]
  | cons insertion inserted ih =>
      cases done with
      | nil => cases same
      | cons cleanup done =>
          rw [List.cons_append, List.map_cons] at acquired
          have filled : (custody.inserted insertion).acquired =
              (front ++ [⟨cleanup, some insertion⟩]) ++ (done ++ rest).map fun c => ⟨c, none⟩ := by
            rw [PreparedCustody.inserted, acquired, cursor, modify_middle, List.append_assoc]
            rfl
          have advanced : (custody.inserted insertion).insertCursor =
              (front ++ [(⟨cleanup, some insertion⟩ : Acquisition)]).length := by
            rw [PreparedCustody.inserted, cursor, List.length_append]
            rfl
          have later := ih filled advanced (Nat.succ.inj same)
          rw [PreparedCustody.insertedAll, List.foldl_cons, ← PreparedCustody.insertedAll, later]
          simp only [PreparedCustody.inserted, List.zipWith_cons_cons, List.append_assoc,
            List.cons_append, List.nil_append, List.length_append, List.length_cons,
            List.length_nil]
          congr 1
          omega

/-- The insertions that a custody took note of describe its first acquisitions one by one, in the
table of the destination, which holds them; the acquisitions behind the cursor wait. -/
def Paired (cx : HandleContext Host) (custody : PreparedCustody) (handles : Handles Host) : Prop :=
  ∃ (done rest : List Cleanup) (inserted : List Insertion),
    custody.acquired = List.zipWith (fun cleanup insertion => ⟨cleanup, some insertion⟩) done inserted ++
      rest.map (fun cleanup => ⟨cleanup, none⟩) ∧
    custody.insertCursor = done.length ∧
    List.Forall₂ (fun cleanup insertion => Describes cleanup insertion.entry ∧
      cx.inst = some insertion.table) done inserted ∧
    ∀ insertion ∈ inserted, insertion.Held handles

theorem map_cleanup_zipWith {done : List Cleanup} {inserted : List Insertion}
    (same : done.length = inserted.length) :
    (List.zipWith (fun c i => (⟨c, some i⟩ : Acquisition)) done inserted).map (·.cleanup) = done := by
  induction done generalizing inserted with
  | nil => rfl
  | cons cleanup done ih =>
      cases inserted with
      | nil => cases same
      | cons insertion inserted =>
          rw [List.zipWith_cons_cons, List.map_cons, ih (Nat.succ.inj same)]

theorem Paired.of_records {cx : HandleContext Host} {cleanups done : List Cleanup}
    {custody : PreparedCustody} (acquired : custody.acquired = cleanups.map fun c => ⟨c, none⟩)
    (cursor : custody.insertCursor = 0) {world next : HandleState Host Guest}
    (held : world.custody = some custody) (within : done <+: cleanups)
    (recorded : (insertions cx).records done world next) :
    ∃ custody', next.custody = some custody' ∧ Paired cx custody' next.handles ∧
      custody'.acquired.map (·.cleanup) = cleanups ∧ custody'.finished = custody.finished ∧
      custody'.insertCursor = done.length := by
  obtain ⟨inserted, describes, taken, stay, _⟩ := recorded
  obtain ⟨rest, rfl⟩ := within
  have same := describes.length_eq
  have filled := @insertedAll_eq custody [] done rest inserted acquired cursor same
  refine ⟨custody.insertedAll inserted, ?_, ⟨done, rest, inserted, ?_, ?_, describes, stay⟩, ?_, ?_, ?_⟩
  · rw [taken, held]
    rfl
  · rw [filled]
    rfl
  · rw [filled]
    exact Nat.zero_add _
  · rw [filled, List.nil_append, List.map_append, map_cleanup_zipWith same, List.map_map]
    exact congrArg _ (List.map_id rest)
  · rw [filled]
  · rw [filled]
    exact Nat.zero_add _

theorem Paired.recognized {cx : HandleContext Host} {custody : PreparedCustody}
    {handles : Handles Host} (paired : Paired cx custody handles)
    (valid : ∀ inst, (handles.tables inst).Valid) {a : Acquisition} (member : a ∈ custody.acquired)
    {insertion : Insertion} (inserted : a.insertion = some insertion)
    (operations : List (TenuredTable.Operation HandleEntry)) :
    (operations.foldl TenuredTable.step (handles.tables insertion.table)).Holds insertion.index
      insertion.tenure insertion.entry ↔ .remove insertion.index ∉ operations := by
  obtain ⟨done, rest, all, acquired, _, _, stay⟩ := paired
  apply TenuredTable.holds_iff_not_removed (valid _)
  apply stay
  rw [acquired] at member
  cases List.mem_append.mp member with
  | inl early =>
      obtain ⟨i, inside, same⟩ := List.mem_iff_getElem.mp early
      rw [List.getElem_zipWith] at same
      subst same
      cases inserted
      exact List.getElem_mem _
  | inr late =>
      obtain ⟨cleanup, _, rfl⟩ := List.mem_map.mp late
      cases inserted

/-- A cleanup takes each acquisition once, in reverse order, and finishes the custody, so that
another cleanup does nothing. -/
def CleanedUp (Host : Type) (custody : PreparedCustody) : Prop :=
  ∀ (dispose : Cleanup → Command (Handles Host) Failure Unit) (primary : Bool)
    (handles : Handles Host), ∃ disposed finished final,
      Cleans dispose custody.acquired.reverse handles disposed final ∧
      ((cleanup dispose primary).outcome (custody, handles)).2 = (finished, final) ∧
      ∀ (dispose' : Cleanup → Command (Handles Host) Failure Unit) (primary' : Bool)
        (handles' : Handles Host),
        (cleanup dispose' primary').outcome (finished, handles') = (.ok (), (finished, handles'))

theorem CleanedUp.of_unfinished {custody : PreparedCustody}
    (unfinished : custody.finished = false) : CleanedUp Host custody := by
  intro dispose primary handles
  obtain ⟨disposed, final, cleans, reached⟩ := cleanup_cleans dispose primary unfinished handles
  refine ⟨disposed, _, final, cleans, reached, ?_⟩
  intro dispose' primary' handles'
  exact cleanup_finished dispose' primary' rfl handles'

/-- Acquiring the owned leaves of a list of values and lowering the values, flat or spilled, with a
checkpoint or a trap anywhere: the insertions describe the acquisitions in order, all of them when
the lowering succeeds, and stay recognizable in their table. A cleanup, whatever became of the
handles in between, takes each acquisition once. -/
theorem custody_paired {ts : List ValType} (valid : ∀ t ∈ ts, ValidType True (despecialize t))
    {vs : List Value} (same : vs.length = ts.length) {State : Type}
    {checkpoint : Command State Failure Unit} {before after : State} {custody : PreparedCustody}
    (acquired : (acquireRawValues checkpoint vs ts).outcome (PreparedCustody.empty, before) =
      (.ok (), (custody, after)))
    (options : Options Guest) (cx : HandleContext Host) (maxFlat : Nat)
    (outParam : Option ValueIter) {state : CxState (HandleState Host Guest)}
    (tables : ∀ inst, (state.world.handles.tables inst).Valid)
    (held : state.world.custody = some custody) :
    let (result, next) :=
      (lowerFlatValues (callContext options cx) maxFlat vs ts outParam).outcome state
    ∃ custody', next.world.custody = some custody' ∧
      custody'.acquired.map (·.cleanup) = custody.acquired.map (·.cleanup) ∧
      Paired cx custody' next.world.handles ∧
      (∀ lanes, result = .ok lanes → custody'.insertCursor = custody'.acquired.length) ∧
      (∀ a ∈ custody'.acquired, ∀ insertion, a.insertion = some insertion →
        ∀ operations : List (TenuredTable.Operation HandleEntry),
          (operations.foldl TenuredTable.step (next.world.handles.tables insertion.table)).Holds
            insertion.index insertion.tenure insertion.entry ↔
          .remove insertion.index ∉ operations) ∧
      CleanedUp Host custody' := by
  have recorded := ((acquireRawValues_emits valid vs) (PreparedCustody.empty, before) trivial).of_ok
    acquired
  obtain ⟨_, _, started⟩ := recorded
  have made : custody = { PreparedCustody.empty with
      acquired := (leavesOfAll custodyLeaf (ts.map despecialize) vs).map fun c => ⟨c, none⟩ } :=
    started
  have fresh : custody.acquired =
      (leavesOfAll custodyLeaf (ts.map despecialize) vs).map fun c => ⟨c, none⟩ := by rw [made]
  have cursor : custody.insertCursor = 0 := by
    rw [made]
    rfl
  have unfinished : custody.finished = false := by
    rw [made]
    rfl
  have names : custody.acquired.map (·.cleanup) =
      leavesOfAll custodyLeaf (ts.map despecialize) vs := by
    rw [fresh, List.map_map]
    exact List.map_id _
  have law : LowerLaw (callContext options cx) (lowerings cx (lanePtrType state.memory))
      (fun _ => True) custodyLeaf (lanePtrType state.memory) :=
    callContext_law options (fun _ _ => trivial) (fun _ _ _ _ _ => trivial) _
  have untyped : ¬False → ∀ failure : Failure, (fun _ => True) failure := fun _ _ => trivial
  have taken : ∀ vi, outParam = some vi → Fallible.Satisfies (fun _ => True)
      (vi.next (lanePtrType state.memory).core) fun _ => True := by
    intro vi _
    rw [Fallible.satisfies_iff]
    exact ⟨fun _ _ => trivial, fun _ _ => trivial⟩
  have emits := lowerFlatValues_emits law untyped valid same False.elim maxFlat (fun _ => taken)
    state ⟨rfl, tables⟩
  cases ran : (lowerFlatValues (callContext options cx) maxFlat vs ts outParam).outcome state with
  | mk result next =>
      have settled : ∃ done, done <+: leavesOfAll custodyLeaf (ts.map despecialize) vs ∧
          (insertions cx).records done state.world next.world ∧
          ∀ lanes, result = .ok lanes →
            done = leavesOfAll custodyLeaf (ts.map despecialize) vs := by
        cases result with
        | error failure =>
            obtain ⟨_, done, within, recorded⟩ := emits.of_error ran
            refine ⟨done, within, recorded, ?_⟩
            intro lanes impossible
            cases impossible
        | ok lanes =>
            obtain ⟨_, _, recorded⟩ := emits.of_ok ran
            exact ⟨_, List.prefix_rfl, recorded, fun _ _ => rfl⟩
      obtain ⟨done, within, recorded, complete⟩ := settled
      obtain ⟨custody', present, paired, cleanups, finished, counted⟩ :=
        Paired.of_records fresh cursor held within recorded
      have remains : ∀ inst, (next.world.handles.tables inst).Valid := by
        obtain ⟨_, _, _, _, stays⟩ := recorded
        exact stays.valid tables
      refine ⟨custody', present, cleanups.trans names.symm, paired, ?_, ?_, ?_⟩
      · intro lanes ok
        rw [counted, complete lanes ok, ← cleanups, List.length_map]
      · intro a member insertion inserted operations
        exact paired.recognized remains member inserted operations
      · exact .of_unfinished (finished.trans unfinished)

/-- An instance without handles. -/
def noHandles : Handles Unit where
  tables := fun _ => TenuredTable.empty
  nextObject := 0
  numLends := fun _ => 0
  lenders := fun _ => []
  numBorrows := fun _ => 0
  shared := fun _ =>
    { kind := .stream, t := none, dropped := false, boundStore := none, index := none, elem := none,
      state := .idle, inWaitableSet := false, idleDropNotified := false }
  host := ()

/-- Lowering into the first instance, without hooks. -/
def plainContext : HandleContext Unit where
  inst := some 0
  borrowScope := none
  checkpoint := none
  impl := fun _ => none
  storeOf := fun _ => 0
  valTypeEqual := fun _ _ => true
  sameElemType := fun _ _ => true
  onLowered := fun _ _ host => host
  onLifted := fun _ _ host => host
  onDropped := fun _ host => host

def plainOptions : Options Unit where
  stringEncoding := .utf8
  realloc := none
  littleEndian := true
  byteOffset := 0

/-- An optional resource and a stream, lowered flat: both insertions follow their acquisitions. -/
theorem custody_paired_resourceAndStream :
    ∃ custody', ((lowerFlatValues (callContext plainOptions plainContext) MAX_FLAT_PARAMS
        [.variant "some" (.number 7), .token 5] [.option (.own 3), .stream none] none).outcome
        { memory := none, mayLeave := true,
          world :=
            { handles := noHandles
              custody := some { PreparedCustody.empty with
                acquired := [⟨.callDtor 3 7, none⟩, ⟨.dropShared 5, none⟩] }
              guest := () } }).2.world.custody = some custody' ∧
      custody'.insertCursor = 2 ∧ CleanedUp Unit custody' := by
  have valid : ∀ t ∈ [ValType.option (.own 3), .stream none], ValidType True (despecialize t) := by
    intro t member
    rcases List.mem_pair.mp member with rfl | rfl
    · refine .variant (by simp) (by simp) (by simp) ?_
      intro case member type payload
      rcases List.mem_pair.mp member with rfl | rfl
      · cases payload
      · cases payload
        exact .handle trivial rfl
    · exact .handle trivial rfl
  have paired := @custody_paired Unit Unit [.option (.own 3), .stream none] valid
    [.variant "some" (.number 7), .token 5] rfl Unit (pure ()) () () _ rfl plainOptions plainContext
    MAX_FLAT_PARAMS none
    { memory := none, mayLeave := true,
      world :=
        { handles := noHandles
          custody := some { PreparedCustody.empty with
            acquired := [⟨.callDtor 3 7, none⟩, ⟨.dropShared 5, none⟩] }
          guest := () } } (fun _ => TenuredTable.empty_valid) rfl
  obtain ⟨custody', present, cleanups, _, complete, _, cleaned⟩ := paired
  refine ⟨custody', present, ?_, cleaned⟩
  rw [complete _ rfl, ← List.length_map (·.cleanup), cleanups]
  rfl

end Pairing

end Polyengine.Cabi
