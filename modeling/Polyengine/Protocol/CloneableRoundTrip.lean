import Polyengine.Library.Fallible
import Polyengine.Protocol.Cloneable

/-!
# The round trip through a structured clone

What `fromCloneable` makes of a cloned `toCloneable` result agrees with the original value for
everything that a matcher can see.
-/

set_option autoImplicit false

namespace Polyengine.Protocol

open Polyengine.Library

variable {Ref : Type}

/-! ## Agreement -/

/-- The cause that crosses: an exit unwind brings none, and the two failures of a peer or a producer
always own one. -/
def carriedCause (kind : ErrorKind (HostValue Ref)) (cause : Option (HostValue Ref)) :
    Option (HostValue Ref) :=
  match kind with
  | .wasiExit .. => none
  | .peerTrapped _ | .streamProducer => some (cause.getD (.primitive .undefined))
  | _ => cause

mutual

/-- A value and what it has become on the other side. -/
inductive Agrees : HostValue Ref → HostValue Unit → Prop where
  | primitive (p : Primitive) : Agrees (.primitive p) (.primitive p)
  | binary (content : Nat) : Agrees (.binary content) (.binary content)
  | exotic (content : Nat) : Agrees (.exotic content) (.exotic content)
  | array {ref : Ref} {elements : List (Option (HostValue Ref))}
      {later : List (Option (HostValue Unit))} (elementwise : AgreesElements elements later) :
      Agrees (.array ref elements) (.array () later)
  | object {ref : Ref} {proto : Prototype} {entries : List (JsString × HostValue Ref)}
      {later : List (JsString × HostValue Unit)} (plain : proto = .ordinary ∨ proto = .null)
      (entrywise : AgreesEntries entries later) :
      Agrees (.object ref proto entries) (.object () .ordinary later)
  | errorContext (ref : Ref) (message : JsString) :
      Agrees (.errorContext ref message) (.errorContext () message)
  | error {ref : Ref} {kind : ErrorKind (HostValue Ref)} {laterKind : ErrorKind (HostValue Unit)}
      {report laterReport : Report} {cause : Option (HostValue Ref)}
      {laterCause : Option (HostValue Unit)} (kinds : AgreesKind kind laterKind)
      (message : laterReport.message = report.message)
      (stack : ∀ stack, report.stack = some stack → laterReport.stack = some stack)
      (causes : AgreesOption (carriedCause kind cause) laterCause) :
      Agrees (.error ref kind report cause) (.error () laterKind laterReport laterCause)

/-- The same brand with the same fields; an unbranded error has its name. -/
inductive AgreesKind : ErrorKind (HostValue Ref) → ErrorKind (HostValue Unit) → Prop where
  | componentException {payload : HostValue Ref} {later : HostValue Unit}
      (payloads : Agrees payload later) :
      AgreesKind (.componentException payload) (.componentException later)
  | trap : AgreesKind .trap .trap
  | dropped : AgreesKind .dropped .dropped
  | invalidHandle : AgreesKind .invalidHandle .invalidHandle
  | peerTrapped (progress : Option Double) : AgreesKind (.peerTrapped progress) (.peerTrapped progress)
  | streamProducer : AgreesKind .streamProducer .streamProducer
  | wasiExit (ok code : Primitive) : AgreesKind (.wasiExit ok code) (.wasiExit ok code)
  | plain (name : JsString) : AgreesKind (.plain name) (.plain name)

inductive AgreesOption : Option (HostValue Ref) → Option (HostValue Unit) → Prop where
  | absent : AgreesOption none none
  | present {v : HostValue Ref} {later : HostValue Unit} (agrees : Agrees v later) :
      AgreesOption (some v) (some later)

inductive AgreesElements :
    List (Option (HostValue Ref)) → List (Option (HostValue Unit)) → Prop where
  | nil : AgreesElements [] []
  | cons {element : Option (HostValue Ref)} {later : Option (HostValue Unit)}
      {rest : List (Option (HostValue Ref))} {laterRest : List (Option (HostValue Unit))}
      (first : AgreesOption element later) (others : AgreesElements rest laterRest) :
      AgreesElements (element :: rest) (later :: laterRest)

inductive AgreesEntries :
    List (JsString × HostValue Ref) → List (JsString × HostValue Unit) → Prop where
  | nil : AgreesEntries [] []
  | cons {key : JsString} {v : HostValue Ref} {later : HostValue Unit}
      {rest : List (JsString × HostValue Ref)} {laterRest : List (JsString × HostValue Unit)}
      (first : Agrees v later) (others : AgreesEntries rest laterRest) :
      AgreesEntries ((key, v) :: rest) ((key, later) :: laterRest)

end

mutual

/-- No object has an own `__proto__`, and the causes that go into a message have a string. -/
def Regular : HostValue Ref → Prop
  | .array _ elements => RegularElements elements
  | .object _ _ entries => RegularEntries entries
  | .error _ kind _ cause =>
      match kind with
      | .componentException payload => Regular payload ∧ RegularOption cause
      | .peerTrapped _ | .streamProducer =>
          RegularOption cause ∧ ∀ v, cause = some v → stringifies v = true
      | .wasiExit .. => True
      | .trap | .dropped | .invalidHandle | .plain _ => RegularOption cause
  | _ => True

def RegularOption : Option (HostValue Ref) → Prop
  | none => True
  | some v => Regular v

def RegularElements : List (Option (HostValue Ref)) → Prop
  | [] => True
  | none :: rest => RegularElements rest
  | some element :: rest => Regular element ∧ RegularElements rest

def RegularEntries : List (JsString × HostValue Ref) → Prop
  | [] => True
  | (key, v) :: rest => key ≠ units "__proto__" ∧ Regular v ∧ RegularEntries rest

end

section

attribute [local simp] Regular RegularOption RegularElements RegularEntries

end

/-! ## Keys -/

theorem units_injective : Function.Injective units := by
  intro a b same
  have lists : a.toList = b.toList := by
    have decoded := congrArg Utf16.scalars same
    simpa [units] using decoded
  exact String.toList_inj.mp lists

@[simp] theorem units_inj {a b : String} : units a = units b ↔ a = b := units_injective.eq_iff

@[simp] theorem units_beq (a b : String) : (units a == units b) = decide (a = b) := by
  by_cases same : a = b <;> simp [same]

/-! ## Strings of causes -/

mutual

theorem Agrees.stringifies {v : HostValue Ref} {later : HostValue Unit} (agrees : Agrees v later)
    (holds : stringifies v = true) : Protocol.stringifies later = true := by
  cases agrees with
  | primitive p => simp [Protocol.stringifies]
  | binary content => simp [Protocol.stringifies]
  | exotic content => simp [Protocol.stringifies]
  | errorContext ref message => simp [Protocol.stringifies]
  | error => simp [Protocol.stringifies]
  | array elementwise =>
      simp only [Protocol.stringifies] at holds ⊢
      exact elementwise.stringify holds
  | object plain entrywise =>
      simp only [Protocol.stringifies, decide_eq_true_eq] at holds ⊢
      exact ⟨by decide, entrywise.keys ▸ holds.2⟩

theorem AgreesElements.stringify {elements : List (Option (HostValue Ref))}
    {later : List (Option (HostValue Unit))} (agrees : AgreesElements elements later)
    (holds : elementsStringify elements = true) : elementsStringify later = true := by
  cases agrees with
  | nil => rfl
  | cons first others =>
      cases first with
      | absent =>
          simp only [elementsStringify] at holds ⊢
          exact others.stringify holds
      | present element =>
          simp only [elementsStringify, Bool.and_eq_true] at holds ⊢
          exact ⟨element.stringifies holds.1, others.stringify holds.2⟩

theorem AgreesEntries.keys {entries : List (JsString × HostValue Ref)}
    {later : List (JsString × HostValue Unit)} (agrees : AgreesEntries entries later) :
    entries.map (·.1) = later.map (·.1) := by
  cases agrees with
  | nil => rfl
  | cons first others => simp only [List.map_cons, others.keys]

end

/-! ## Envelopes -/

theorem describeCause_ok {path : Path} {v : HostValue Unit} (holds : stringifies v = true) :
    describeCause path v = .ok () := by
  cases v <;> simp [describeCause, holds]

@[simp] theorem structuredClone_text (s : JsString) : structuredClone (text s) = text s := by
  simp [text, structuredClone]

@[simp] theorem structuredClone_primitive (p : Primitive) :
    structuredClone (.primitive p) = .primitive p := by
  simp [structuredClone]

@[simp] theorem lookup_stackEntry (key : String) (report : Report) :
    (stackEntry report).lookup (units key) =
      if key = "stack" then report.stack.map text else none := by
  unfold stackEntry
  cases report.stack with
  | none => simp
  | some stack => by_cases same : key = "stack" <;> simp [List.lookup_cons, same]

@[simp] theorem lookup_optionalEntry (key other : String) (data : Option Data) :
    (optionalEntry other data).lookup (units key) = if key = other then data else none := by
  unfold optionalEntry
  cases data with
  | none => simp
  | some data => by_cases same : key = other <;> simp [List.lookup_cons, same]

section

variable (site : JsString) (path : Path) (entries : List (JsString × Data))

theorem lookup_fields (key : JsString) :
    (decodeEntries site path (cloneEntries entries)).lookup key =
      (entries.lookup key).map fun data =>
        (structuredClone data, decode site (path ++ [.key key]) (structuredClone data)) := by
  induction entries with
  | nil => simp [cloneEntries, decodeEntries]
  | cons entry rest ih =>
      obtain ⟨other, data⟩ := entry
      by_cases same : key = other
      · simp [cloneEntries, decodeEntries, same]
      · have differs : (key == other) = false := by simpa using same
        simp only [cloneEntries, decodeEntries, List.lookup_cons, differs]
        exact ih

theorem data_fields (key : String) :
    Fields.data (decodeEntries site path (cloneEntries entries)) key =
      (entries.lookup (units key)).map structuredClone := by
  rw [Fields.data, lookup_fields, Option.map_map]
  rfl

theorem primitive_fields (key : String) :
    Fields.primitive (decodeEntries site path (cloneEntries entries)) key =
      match entries.lookup (units key) with
      | some (.primitive p) => p
      | _ => .undefined := by
  rw [Fields.primitive, data_fields]
  cases entries.lookup (units key) with
  | none => rfl
  | some data => cases data <;> simp [structuredClone]

theorem mem_cloneEntries (key : JsString) :
    key ∈ (cloneEntries entries).map (·.1) ↔ key ∈ entries.map (·.1) := by
  induction entries with
  | nil => simp [cloneEntries]
  | cons entry rest ih =>
      obtain ⟨other, data⟩ := entry
      simp only [cloneEntries, List.map_cons, List.mem_cons, ih]

variable {site path entries}

theorem report_fields {report : Report}
    (message : entries.lookup (units "message") = some (text report.message))
    (stack : entries.lookup (units "stack") = report.stack.map text) :
    Fields.message (decodeEntries site path (cloneEntries entries)) = report.message ∧
      Fields.stack (decodeEntries site path (cloneEntries entries)) site =
        report.stack.getD site := by
  constructor
  · rw [Fields.message, data_fields, message]
    simp [text]
  · rw [Fields.stack, data_fields, stack]
    cases report.stack <;> simp [text]

end

theorem decode_envelope (site : JsString) (path : Path) (tag : JsString)
    (fields : List (JsString × Data)) :
    decode site path (structuredClone (envelope tag fields)) =
      rehydrate site path (some (text tag))
        (decodeEntries site path (cloneEntries ((TAG, text tag) :: fields))) := by
  have tagged : TAG ∈ (cloneEntries ((TAG, text tag) :: fields)).map (·.1) := by
    rw [mem_cloneEntries]
    exact List.mem_cons_self
  have found : (cloneEntries ((TAG, text tag) :: fields)).lookup TAG = some (text tag) := by
    simp [cloneEntries]
  rw [envelope, structuredClone, decode, if_neg (by decide), if_pos tagged, found]

/-! ## Values and their data -/

def Trips (v : HostValue Ref) (data : Data) : Prop :=
  ∀ (site : JsString) (path : Path),
    ∃ later, decode site path (structuredClone data) = .ok later ∧ Agrees v later

inductive TripsOption : Option (HostValue Ref) → Option Data → Prop where
  | absent : TripsOption none none
  | present {v : HostValue Ref} {data : Data} (trips : Trips v data) :
      TripsOption (some v) (some data)

section

variable {cause : Option (HostValue Ref)} {data : Option Data} {entries : List (JsString × Data)}

theorem TripsOption.restoreCause (trips : TripsOption cause data)
    (found : entries.lookup (units "cause") = data) (site : JsString) (path : Path) :
    ∃ later, Fields.cause (decodeEntries site path (cloneEntries entries)) = .ok later ∧
      AgreesOption cause later := by
  rw [Fields.cause, lookup_fields, found]
  cases trips with
  | absent => exact ⟨none, rfl, .absent⟩
  | present trips =>
      obtain ⟨later, decoded, agrees⟩ := trips site (path ++ [.key (units "cause")])
      refine ⟨some later, ?_, .present agrees⟩
      simp only [Option.map_some, decoded]
      rfl

theorem TripsOption.decoded (trips : TripsOption cause data)
    (found : entries.lookup (units "cause") = data) (site : JsString) (path : Path)
    (strings : ∀ v, cause = some v → stringifies v = true) :
    ∃ later, Fields.decoded (decodeEntries site path (cloneEntries entries)) "cause" = .ok later ∧
      Agrees (cause.getD (.primitive .undefined)) later ∧ stringifies later = true := by
  rw [Fields.decoded, lookup_fields, found]
  cases trips with
  | absent => exact ⟨_, rfl, .primitive .undefined, by simp [stringifies]⟩
  | present trips =>
      obtain ⟨later, decoded, agrees⟩ := trips site (path ++ [.key (units "cause")])
      exact ⟨later, decoded, agrees, agrees.stringifies (strings _ rfl)⟩

end

/-! ## Errors -/

section

variable {ref : Ref} {report : Report} {cause : Option (HostValue Ref)} {data : Option Data}

theorem Agrees.reported {kind : ErrorKind (HostValue Ref)} {laterKind : ErrorKind (HostValue Unit)}
    (kinds : AgreesKind kind laterKind) (site : JsString) {laterCause : Option (HostValue Unit)}
    (causes : AgreesOption (carriedCause kind cause) laterCause) :
    Agrees (.error ref kind report cause)
      (.error () laterKind ⟨report.message, some (report.stack.getD site)⟩ laterCause) := by
  refine .error kinds rfl (fun stack present => ?_) causes
  rw [present]
  rfl

def errorFields (report : Report) (data : Option Data) : List (JsString × Data) :=
  (units "message", text report.message) :: stackEntry report ++ optionalEntry "cause" data

theorem failure_trips {kind : ErrorKind (HostValue Ref)} {laterKind : ErrorKind (HostValue Unit)}
    (kinds : kind = .trap ∧ laterKind = .trap ∨ kind = .dropped ∧ laterKind = .dropped ∨
      kind = .invalidHandle ∧ laterKind = .invalidHandle) (trips : TripsOption cause data) :
    Trips (.error ref kind report cause) (envelope kind.tag (errorFields report data)) := by
  intro site path
  have found : ((TAG, text kind.tag) :: errorFields report data).lookup (units "cause") = data := by
    simp [errorFields, TAG, List.lookup_append, List.lookup_cons]
  have message : ((TAG, text kind.tag) :: errorFields report data).lookup (units "message") =
      some (text report.message) := by
    simp [errorFields, TAG, List.lookup_cons]
  have stack : ((TAG, text kind.tag) :: errorFields report data).lookup (units "stack") =
      report.stack.map text := by
    simp [errorFields, TAG, List.lookup_append, List.lookup_cons]
  obtain ⟨later, restored, agrees⟩ := trips.restoreCause found site path
  obtain ⟨isMessage, isStack⟩ := @report_fields site path _ _ message stack
  refine ⟨.error () laterKind ⟨report.message, some (report.stack.getD site)⟩ later, ?_, ?_⟩
  · rw [decode_envelope]
    generalize decodeEntries site path _ = fields at restored isMessage isStack ⊢
    unfold rehydrate
    rw [isMessage, isStack, restored]
    obtain ⟨rfl, rfl⟩ | ⟨rfl, rfl⟩ | ⟨rfl, rfl⟩ := kinds
    · simp [text, ErrorKind.tag]
    · simp [text, ErrorKind.tag]
    · simp [text, ErrorKind.tag]
  · obtain ⟨rfl, rfl⟩ | ⟨rfl, rfl⟩ | ⟨rfl, rfl⟩ := kinds
    · exact .reported .trap site agrees
    · exact .reported .dropped site agrees
    · exact .reported .invalidHandle site agrees

theorem plain_trips (name : JsString) (trips : TripsOption cause data) :
    Trips (.error ref (.plain name) report cause)
      (envelope (units "error") ((units "name", text name) :: errorFields report data)) := by
  intro site path
  have found : ((TAG, text (units "error")) :: (units "name", text name) ::
      errorFields report data).lookup (units "cause") = data := by
    simp [errorFields, TAG, List.lookup_append, List.lookup_cons]
  have message : ((TAG, text (units "error")) :: (units "name", text name) ::
      errorFields report data).lookup (units "message") = some (text report.message) := by
    simp [errorFields, TAG, List.lookup_cons]
  have stack : ((TAG, text (units "error")) :: (units "name", text name) ::
      errorFields report data).lookup (units "stack") = report.stack.map text := by
    simp [errorFields, TAG, List.lookup_append, List.lookup_cons]
  have isName := data_fields site path ((TAG, text (units "error")) ::
    (units "name", text name) :: errorFields report data) "name"
  have named : ((TAG, text (units "error")) :: (units "name", text name) ::
      errorFields report data).lookup (units "name") = some (text name) := by
    simp [TAG, List.lookup_cons]
  rw [named, Option.map_some, structuredClone_text] at isName
  obtain ⟨later, restored, agrees⟩ := trips.restoreCause found site path
  obtain ⟨isMessage, isStack⟩ := @report_fields site path _ _ message stack
  refine ⟨.error () (.plain name) ⟨report.message, some (report.stack.getD site)⟩ later, ?_,
    .reported (.plain name) site agrees⟩
  rw [decode_envelope]
  generalize decodeEntries site path _ = fields at restored isMessage isStack isName ⊢
  unfold rehydrate
  rw [isMessage, isStack, restored, isName]
  simp [text]

theorem componentException_trips {payload : HostValue Ref} {payloadData : Data}
    (payloads : Trips payload payloadData) (trips : TripsOption cause data) :
    Trips (.error ref (.componentException payload) report cause)
      (envelope (units "polyengine.componentException/1")
        (errorFields report data ++ [(units "payload", payloadData)])) := by
  intro site path
  have found : ((TAG, text (units "polyengine.componentException/1")) ::
      (errorFields report data ++ [(units "payload", payloadData)])).lookup (units "cause") =
        data := by
    simp [errorFields, TAG, List.lookup_append, List.lookup_cons]
  have message : ((TAG, text (units "polyengine.componentException/1")) ::
      (errorFields report data ++ [(units "payload", payloadData)])).lookup (units "message") =
        some (text report.message) := by
    simp [errorFields, TAG, List.lookup_cons]
  have stack : ((TAG, text (units "polyengine.componentException/1")) ::
      (errorFields report data ++ [(units "payload", payloadData)])).lookup (units "stack") =
        report.stack.map text := by
    simp [errorFields, TAG, List.lookup_append, List.lookup_cons]
  have paid : ((TAG, text (units "polyengine.componentException/1")) ::
      (errorFields report data ++ [(units "payload", payloadData)])).lookup (units "payload") =
        some payloadData := by
    simp [errorFields, TAG, List.lookup_append, List.lookup_cons]
  obtain ⟨laterPayload, decoded, payloadAgrees⟩ :=
    payloads site (path ++ [.key (units "payload")])
  have isPayload : Fields.decoded (decodeEntries site path (cloneEntries
      ((TAG, text (units "polyengine.componentException/1")) ::
        (errorFields report data ++ [(units "payload", payloadData)])))) "payload" =
          .ok laterPayload := by
    rw [Fields.decoded, lookup_fields, paid, Option.map_some]
    exact decoded
  obtain ⟨later, restored, agrees⟩ := trips.restoreCause found site path
  obtain ⟨isMessage, isStack⟩ := @report_fields site path _ _ message stack
  refine ⟨.error () (.componentException laterPayload)
    ⟨report.message, some (report.stack.getD site)⟩ later, ?_,
    .reported (.componentException payloadAgrees) site agrees⟩
  rw [decode_envelope]
  generalize decodeEntries site path _ = fields at restored isMessage isStack isPayload ⊢
  unfold rehydrate
  rw [isMessage, isStack, isPayload, restored]
  simp [text, bind, Except.bind, pure, Except.pure]

theorem peerTrapped_trips (progress : Option Double) (trips : TripsOption cause data)
    (strings : ∀ v, cause = some v → stringifies v = true) :
    Trips (.error ref (.peerTrapped progress) report cause)
      (envelope (units "polyengine.peerTrapped/1") (errorFields report data ++
        optionalEntry "progress" (progress.map fun d => .primitive (.number d)))) := by
  intro site path
  generalize isExtra : optionalEntry "progress"
    (progress.map fun d => Data.primitive (.number d)) = extra
  have found : ((TAG, text (units "polyengine.peerTrapped/1")) ::
      (errorFields report data ++ extra)).lookup (units "cause") = data := by
    simp [← isExtra, errorFields, TAG, List.lookup_append, List.lookup_cons]
  have message : ((TAG, text (units "polyengine.peerTrapped/1")) ::
      (errorFields report data ++ extra)).lookup (units "message") =
        some (text report.message) := by
    simp [errorFields, TAG, List.lookup_cons]
  have stack : ((TAG, text (units "polyengine.peerTrapped/1")) ::
      (errorFields report data ++ extra)).lookup (units "stack") = report.stack.map text := by
    simp [← isExtra, errorFields, TAG, List.lookup_append, List.lookup_cons]
  have made : ((TAG, text (units "polyengine.peerTrapped/1")) ::
      (errorFields report data ++ extra)).lookup (units "progress") =
        progress.map fun d => .primitive (.number d) := by
    simp [← isExtra, errorFields, TAG, List.lookup_append, List.lookup_cons]
  have isProgress := primitive_fields site path ((TAG, text (units "polyengine.peerTrapped/1")) ::
    (errorFields report data ++ extra)) "progress"
  rw [made] at isProgress
  obtain ⟨later, decoded, agrees, string⟩ := trips.decoded found site path strings
  obtain ⟨isMessage, isStack⟩ := @report_fields site path _ _ message stack
  refine ⟨.error () (.peerTrapped progress) ⟨report.message, some (report.stack.getD site)⟩
    (some later), ?_, .reported (.peerTrapped progress) site (.present agrees)⟩
  rw [decode_envelope]
  generalize decodeEntries site path _ = fields at decoded isMessage isStack isProgress ⊢
  unfold rehydrate
  rw [isMessage, isStack, decoded, isProgress]
  cases progress with
  | none => simp [text, bind, Except.bind, pure, Except.pure, describeCause_ok string]
  | some d => simp [text, bind, Except.bind, pure, Except.pure, describeCause_ok string]

theorem streamProducer_trips (trips : TripsOption cause data)
    (strings : ∀ v, cause = some v → stringifies v = true) :
    Trips (.error ref .streamProducer report cause)
      (envelope (units "polyengine.streamProducer/1") (errorFields report data)) := by
  intro site path
  have found : ((TAG, text (units "polyengine.streamProducer/1")) ::
      errorFields report data).lookup (units "cause") = data := by
    simp [errorFields, TAG, List.lookup_append, List.lookup_cons]
  have message : ((TAG, text (units "polyengine.streamProducer/1")) ::
      errorFields report data).lookup (units "message") = some (text report.message) := by
    simp [errorFields, TAG, List.lookup_cons]
  have stack : ((TAG, text (units "polyengine.streamProducer/1")) ::
      errorFields report data).lookup (units "stack") = report.stack.map text := by
    simp [errorFields, TAG, List.lookup_append, List.lookup_cons]
  obtain ⟨later, decoded, agrees, string⟩ := trips.decoded found site path strings
  obtain ⟨isMessage, isStack⟩ := @report_fields site path _ _ message stack
  refine ⟨.error () .streamProducer ⟨report.message, some (report.stack.getD site)⟩ (some later),
    ?_, .reported .streamProducer site (.present agrees)⟩
  rw [decode_envelope]
  generalize decodeEntries site path _ = fields at decoded isMessage isStack ⊢
  unfold rehydrate
  rw [isMessage, isStack, decoded]
  simp [text, bind, Except.bind, pure, Except.pure, describeCause_ok string]

theorem wasiExit_trips (ok code : Primitive) :
    Trips (.error ref (.wasiExit ok code) report cause)
      (envelope (units "polyengine.wasiExit/1") ((units "message", text report.message) ::
        (units "ok", .primitive ok) :: stackEntry report ++
          optionalEntry "code" (if code = .undefined then none else some (.primitive code)))) := by
  intro site path
  generalize isEntries : (TAG, text (units "polyengine.wasiExit/1")) ::
    ((units "message", text report.message) :: (units "ok", Data.primitive ok) ::
      stackEntry report ++ optionalEntry "code"
        (if code = .undefined then none else some (.primitive code))) = entries
  have message : entries.lookup (units "message") = some (text report.message) := by
    simp [← isEntries, TAG, List.lookup_cons]
  have stack : entries.lookup (units "stack") = report.stack.map text := by
    simp [← isEntries, TAG, List.lookup_append, List.lookup_cons]
  have isOk := primitive_fields site path entries "ok"
  have isCode := primitive_fields site path entries "code"
  have foundOk : entries.lookup (units "ok") = some (.primitive ok) := by
    simp [← isEntries, TAG, List.lookup_cons]
  have foundCode : entries.lookup (units "code") =
      if code = .undefined then none else some (.primitive code) := by
    simp [← isEntries, TAG, List.lookup_append, List.lookup_cons]
  have code_eq : Fields.primitive (decodeEntries site path (cloneEntries entries)) "code" =
      code := by
    rw [isCode, foundCode]
    by_cases undefined : code = .undefined <;> simp [undefined]
  rw [foundOk] at isOk
  obtain ⟨isMessage, isStack⟩ := @report_fields site path _ _ message stack
  refine ⟨.error () (.wasiExit ok code) ⟨report.message, some (report.stack.getD site)⟩ none, ?_,
    .reported (.wasiExit ok code) site .absent⟩
  rw [decode_envelope, isEntries]
  generalize decodeEntries site path _ = fields at isMessage isStack isOk code_eq ⊢
  unfold rehydrate
  rw [isMessage, isStack, isOk, code_eq]
  simp [text, pure, Except.pure]

theorem errorContext_trips (message : JsString) :
    Trips (.errorContext ref message)
      (envelope (units "polyengine.errorContext/1") [(units "message", text message)]) := by
  intro site path
  have isMessage := data_fields site path [(TAG, text (units "polyengine.errorContext/1")),
    (units "message", text message)] "message"
  have found : [(TAG, text (units "polyengine.errorContext/1")),
      (units "message", text message)].lookup (units "message") = some (text message) := by
    simp [TAG, List.lookup_cons]
  rw [found, Option.map_some, structuredClone_text] at isMessage
  refine ⟨.errorContext () message, ?_, .errorContext ref message⟩
  rw [decode_envelope]
  generalize decodeEntries site path _ = fields at isMessage ⊢
  unfold rehydrate Fields.message
  rw [isMessage]
  simp [text, pure, Except.pure]

end

/-! ## The round trip -/

def TripsEntries (entries : List (JsString × HostValue Ref)) (added : List (JsString × Data)) :
    Prop :=
  ∀ (site : JsString) (path : Path) (out : List (JsString × HostValue Unit)),
    ∃ later, Fields.assignAll (decodeEntries site path (cloneEntries added)) (.ordinary, out) =
      .ok (.ordinary, out ++ later) ∧ AgreesEntries entries later

def TripsElements (elements : List (Option (HostValue Ref))) (encoded : List (Option Data)) : Prop :=
  ∀ (site : JsString) (path : Path) (i : Nat),
    ∃ later, decodeElements site path i (cloneElements encoded) = .ok later ∧
      AgreesElements elements later

theorem TripsEntries.cons {key : JsString} {v : HostValue Ref} {data : Data}
    {rest : List (JsString × HostValue Ref)} {added : List (JsString × Data)}
    (ownKey : key ≠ units "__proto__") (trips : Trips v data) (others : TripsEntries rest added) :
    TripsEntries ((key, v) :: rest) ((key, data) :: added) := by
  intro site path out
  obtain ⟨later, decoded, agrees⟩ := trips site (path ++ [.key key])
  obtain ⟨laterRest, assigned, othersAgree⟩ := others site path (out ++ [(key, later)])
  refine ⟨(key, later) :: laterRest, ?_, .cons agrees othersAgree⟩
  simp only [cloneEntries, decodeEntries, Fields.assignAll, decoded, bind, Except.bind,
    if_neg ownKey]
  rw [assigned, List.append_assoc]
  rfl

theorem TripsElements.cons {element : Option (HostValue Ref)} {encoded : Option Data}
    {rest : List (Option (HostValue Ref))} {encodedRest : List (Option Data)}
    (trips : TripsOption element encoded) (others : TripsElements rest encodedRest) :
    TripsElements (element :: rest) (encoded :: encodedRest) := by
  intro site path i
  obtain ⟨laterRest, decodedRest, othersAgree⟩ := others site path (i + 1)
  cases trips with
  | absent =>
      refine ⟨none :: laterRest, ?_, .cons .absent othersAgree⟩
      simp only [cloneElements, decodeElements, decodedRest]
      rfl
  | present trips =>
      obtain ⟨later, decoded, agrees⟩ := trips site (path ++ [.index i])
      refine ⟨some later :: laterRest, ?_, .cons (.present agrees) othersAgree⟩
      simp only [cloneElements, decodeElements, decoded, decodedRest]
      rfl

theorem object_trips {ref : Ref} {proto encodedProto : Prototype}
    {entries : List (JsString × HostValue Ref)} {added : List (JsString × Data)}
    (plain : proto = .ordinary ∨ proto = .null) (untagged : TAG ∉ added.map (·.1))
    (trips : TripsEntries entries added) :
    Trips (.object ref proto entries) (.object encodedProto added) := by
  intro site path
  obtain ⟨later, assigned, agrees⟩ := trips site path []
  refine ⟨.object () .ordinary later, ?_, .object plain agrees⟩
  have untagged' : TAG ∉ (cloneEntries added).map (·.1) := by rwa [mem_cloneEntries]
  rw [structuredClone, decode, if_neg (by decide), if_neg untagged', assigned]
  rfl

variable [DecidableEq Ref]

mutual

theorem encode_trips (v : HostValue Ref) {seen : List Ref} {path : Path} {data : Data}
    (encoded : encode seen path v = .ok data) (regular : Regular v) : Trips v data := by
  cases v with
  | primitive p =>
      simp only [encode, Except.ok.injEq] at encoded
      subst encoded
      exact fun site path => ⟨.primitive p, by simp [decode], .primitive p⟩
  | function => simp [encode] at encoded
  | symbol => simp [encode] at encoded
  | realmLocal => simp [encode] at encoded
  | binary content =>
      simp only [encode, Except.ok.injEq] at encoded
      subst encoded
      exact fun site path =>
        ⟨.binary content, by simp [structuredClone, decode], .binary content⟩
  | exotic content =>
      simp only [encode, Except.ok.injEq] at encoded
      subst encoded
      exact fun site path =>
        ⟨.exotic content, by simp [structuredClone, decode], .exotic content⟩
  | errorContext ref message =>
      simp only [encode] at encoded
      split at encoded
      · cases encoded
      · cases encoded
        exact errorContext_trips message
  | array ref elements =>
      simp only [encode] at encoded
      split at encoded
      · cases encoded
      · obtain ⟨items, encodedItems, same⟩ := Fallible.bind_ok encoded
        cases same
        simp only [Regular] at regular
        have trips := encodeElements_trips elements encodedItems regular
        intro site path
        obtain ⟨later, decoded, agrees⟩ := trips site path 0
        refine ⟨.array () later, ?_, .array agrees⟩
        simp only [structuredClone, decode, decoded]
        rfl
  | object ref proto entries =>
      simp only [encode] at encoded
      split at encoded
      · cases encoded
      split at encoded
      · cases encoded
      split at encoded
      · cases encoded
      case isFalse plain =>
          split at encoded
          · cases encoded
          case isFalse untagged =>
              obtain ⟨⟨encodedProto, out⟩, encodedEntries, same⟩ := Fallible.bind_ok encoded
              cases same
              simp only [Regular] at regular
              obtain ⟨added, rfl, keys, trips⟩ :=
                encodeEntries_trips entries encodedEntries regular
              refine object_trips ?_ (keys ▸ untagged) trips
              by_contra neither
              exact plain (not_or.mp neither)
  | error ref kind report cause =>
      have unseen : ref ∉ seen := by
        intro member
        cases kind <;> simp [encode, member] at encoded
      cases kind with
      | componentException payload =>
          simp only [encode, if_neg unseen] at encoded
          obtain ⟨causeEntries, encodedCause, encoded⟩ := Fallible.bind_ok encoded
          obtain ⟨payloadData, encodedPayload, same⟩ := Fallible.bind_ok encoded
          cases same
          simp only [Regular] at regular
          obtain ⟨data, rfl, trips⟩ := encodeCause_trips cause encodedCause regular.2
          exact componentException_trips (encode_trips payload encodedPayload regular.1) trips
      | trap =>
          simp only [encode, if_neg unseen] at encoded
          obtain ⟨causeEntries, encodedCause, same⟩ := Fallible.bind_ok encoded
          cases same
          simp only [Regular] at regular
          obtain ⟨data, rfl, trips⟩ := encodeCause_trips cause encodedCause regular
          exact failure_trips (.inl ⟨rfl, rfl⟩) trips
      | dropped =>
          simp only [encode, if_neg unseen] at encoded
          obtain ⟨causeEntries, encodedCause, same⟩ := Fallible.bind_ok encoded
          cases same
          simp only [Regular] at regular
          obtain ⟨data, rfl, trips⟩ := encodeCause_trips cause encodedCause regular
          exact failure_trips (.inr (.inl ⟨rfl, rfl⟩)) trips
      | invalidHandle =>
          simp only [encode, if_neg unseen] at encoded
          obtain ⟨causeEntries, encodedCause, same⟩ := Fallible.bind_ok encoded
          cases same
          simp only [Regular] at regular
          obtain ⟨data, rfl, trips⟩ := encodeCause_trips cause encodedCause regular
          exact failure_trips (.inr (.inr ⟨rfl, rfl⟩)) trips
      | peerTrapped progress =>
          simp only [encode, if_neg unseen] at encoded
          obtain ⟨causeEntries, encodedCause, same⟩ := Fallible.bind_ok encoded
          cases same
          simp only [Regular] at regular
          obtain ⟨data, rfl, trips⟩ := encodeCause_trips cause encodedCause regular.1
          exact peerTrapped_trips progress trips regular.2
      | streamProducer =>
          simp only [encode, if_neg unseen] at encoded
          obtain ⟨causeEntries, encodedCause, same⟩ := Fallible.bind_ok encoded
          cases same
          simp only [Regular] at regular
          obtain ⟨data, rfl, trips⟩ := encodeCause_trips cause encodedCause regular.1
          exact streamProducer_trips trips regular.2
      | wasiExit ok code =>
          simp only [encode, if_neg unseen] at encoded
          cases encoded
          exact wasiExit_trips ok code
      | plain name =>
          simp only [encode, if_neg unseen] at encoded
          obtain ⟨causeEntries, encodedCause, same⟩ := Fallible.bind_ok encoded
          cases same
          simp only [Regular] at regular
          obtain ⟨data, rfl, trips⟩ := encodeCause_trips cause encodedCause regular
          exact plain_trips name trips

theorem encodeElements_trips (elements : List (Option (HostValue Ref))) {seen : List Ref}
    {path : Path} {i : Nat} {data : List (Option Data)}
    (encoded : encodeElements seen path i elements = .ok data)
    (regular : RegularElements elements) : TripsElements elements data := by
  match elements with
  | [] =>
      simp only [encodeElements, Except.ok.injEq] at encoded
      subst encoded
      exact fun site path i => ⟨[], by simp [cloneElements, decodeElements], .nil⟩
  | none :: rest =>
      simp only [encodeElements] at encoded
      obtain ⟨others, encodedRest, same⟩ := Fallible.bind_ok encoded
      cases same
      simp only [RegularElements] at regular
      exact .cons .absent (encodeElements_trips rest encodedRest regular)
  | some element :: rest =>
      simp only [encodeElements] at encoded
      obtain ⟨first, encodedFirst, encoded⟩ := Fallible.bind_ok encoded
      obtain ⟨others, encodedRest, same⟩ := Fallible.bind_ok encoded
      cases same
      simp only [RegularElements] at regular
      exact .cons (.present (encode_trips element encodedFirst regular.1))
        (encodeElements_trips rest encodedRest regular.2)

theorem encodeEntries_trips (entries : List (JsString × HostValue Ref)) {seen : List Ref}
    {path : Path} {out after : Prototype × List (JsString × Data)}
    (encoded : encodeEntries seen path out entries = .ok after)
    (regular : RegularEntries entries) :
    ∃ added, after.2 = out.2 ++ added ∧ entries.map (·.1) = added.map (·.1) ∧
      TripsEntries entries added := by
  match entries with
  | [] =>
      simp only [encodeEntries, Except.ok.injEq] at encoded
      subst encoded
      refine ⟨[], (List.append_nil _).symm, rfl, fun site path out => ⟨[], ?_, .nil⟩⟩
      simp [cloneEntries, decodeEntries, Fields.assignAll]
  | (key, v) :: rest =>
      simp only [encodeEntries] at encoded
      obtain ⟨data, encodedValue, encodedRest⟩ := Fallible.bind_ok encoded
      simp only [RegularEntries] at regular
      obtain ⟨ownKey, regularValue, regularRest⟩ := regular
      obtain ⟨added, isAfter, keys, trips⟩ := encodeEntries_trips rest encodedRest regularRest
      refine ⟨(key, data) :: added, ?_, by simp [keys],
        .cons ownKey (encode_trips v encodedValue regularValue) trips⟩
      have assigned : assign out key data = (out.1, out.2 ++ [(key, data)]) := if_neg ownKey
      rw [isAfter, assigned, List.append_assoc]
      rfl

theorem encodeCause_trips (cause : Option (HostValue Ref)) {seen : List Ref} {path : Path}
    {added : List (JsString × Data)} (encoded : encodeCause seen path cause = .ok added)
    (regular : RegularOption cause) :
    ∃ data, added = optionalEntry "cause" data ∧ TripsOption cause data := by
  match cause with
  | none =>
      simp only [encodeCause, Except.ok.injEq] at encoded
      exact ⟨none, encoded.symm, .absent⟩
  | some v =>
      simp only [encodeCause] at encoded
      obtain ⟨data, encodedValue, same⟩ := Fallible.bind_ok encoded
      cases same
      simp only [RegularOption] at regular
      exact ⟨some data, rfl, .present (encode_trips v encodedValue regular)⟩

end

/-- Every value that `toCloneable` accepts, with no own `__proto__` and with causes that have a
string, agrees with what comes out on the other side of a structured clone. -/
theorem fromCloneable_agrees (site : JsString) (v : HostValue Ref) (data : Data)
    (accepted : toCloneable v = .ok data) (regular : Regular v) :
    ∃ later, fromCloneable site (structuredClone data) = .ok later ∧ Agrees v later :=
  encode_trips v accepted regular site []

/-- A peer failure in a list, with a poisoning record and the trap below it as its causes. -/
theorem fromCloneable_agrees_peerTrapped :
    ∃ later, fromCloneable [] (structuredClone (.array [some (envelope
        (units "polyengine.peerTrapped/1") [(units "message", text [7]),
          (units "cause", envelope (units "error") [(units "name", text [1]),
            (units "message", text [2]), (units "cause",
              envelope (units "polyengine.trap/1") [(units "message", text [3])])])]), none])) =
        .ok later ∧
      Agrees (.array 0 [some (.error 1 (.peerTrapped none) ⟨[7], none⟩
        (some (.error 2 (.plain [1]) ⟨[2], none⟩ (some (.error 3 .trap ⟨[3], none⟩ none))))),
        none]) later :=
  fromCloneable_agrees [] _ _ rfl
    (by simp [Regular, RegularElements, RegularOption, stringifies])

/-- The cause of an exit unwind does not cross. -/
theorem exit_loses_cause :
    ∃ data, toCloneable (.error 0 (.wasiExit (.boolean true) .undefined) ⟨[7], none⟩
        (some (.error 1 .trap ⟨[3], none⟩ none))) = .ok data ∧
      fromCloneable [] (structuredClone data) =
        .ok (.error () (.wasiExit (.boolean true) .undefined) ⟨[7], some []⟩ none) :=
  ⟨_, rfl, rfl⟩

end Polyengine.Protocol
