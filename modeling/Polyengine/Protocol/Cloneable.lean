import Polyengine.Library.Double
import Polyengine.Library.Utf16

/-!
# Structured-clone-safe forms

`toCloneable` turns embedder values into plain data in which the branded errors are tagged envelopes,
and `fromCloneable` makes local values of the data that a structured clone delivers.
-/

set_option autoImplicit false

namespace Polyengine.Protocol

open Polyengine.Library

abbrev JsString := List UInt16

/-- The code units of a key or of a tag. -/
def units (text : String) : JsString := Utf16.encode text.toList

/-! ## Values -/

inductive Primitive where
  | undefined
  | null
  | boolean (b : Bool)
  | number (d : Double)
  | bigint (n : Int)
  | string (text : JsString)
  deriving DecidableEq

/-- The prototype of an object that is neither an array nor branded; a foreign one is named. -/
inductive Prototype where
  | ordinary
  | null
  | foreign (name : JsString)
  deriving DecidableEq

/-- What every error carries, with its stack where there is one. -/
structure Report where
  message : JsString
  stack : Option JsString
  deriving DecidableEq

/-- The brand of an error with the fields that go with it; `plain` is an unbranded `Error`. An absent
`code` reads as undefined. -/
inductive ErrorKind (Value : Type) where
  | componentException (payload : Value)
  | trap
  | dropped
  | invalidHandle
  | peerTrapped (progress : Option Double)
  | streamProducer
  | wasiExit (ok code : Primitive)
  | plain (name : JsString)

/-- Values as the embedder has them. `Ref` is the identity of an object, by which a reference can be
shared; the holes of an array are `none`, and so is an absent `cause`. -/
inductive HostValue (Ref : Type) where
  | primitive (p : Primitive)
  | function
  | symbol
  | binary (content : Nat)
  | exotic (content : Nat)
  | realmLocal
  | array (ref : Ref) (elements : List (Option (HostValue Ref)))
  | object (ref : Ref) (proto : Prototype) (entries : List (JsString × HostValue Ref))
  | errorContext (ref : Ref) (message : JsString)
  | error (ref : Ref) (kind : ErrorKind (HostValue Ref)) (report : Report)
      (cause : Option (HostValue Ref))

/-- Cloneable data. -/
inductive Data where
  | primitive (p : Primitive)
  | binary (content : Nat)
  | exotic (content : Nat)
  | array (elements : List (Option Data))
  | object (proto : Prototype) (entries : List (JsString × Data))

inductive PathStep where
  | key (key : JsString)
  | index (i : Nat)
  deriving DecidableEq

/-- The way from the value to a part of it. -/
abbrev Path := List PathStep

inductive CloneFailure where
  | typeError (path : Path) (detail : String)
  | invalidHandle (path : Path) (detail : String)

/-- The envelope tag property. -/
def TAG : JsString := units "polyengine.cloneable/1"

/-- The key of the realm-local pill. -/
def REALM_LOCAL : JsString := units "polyengine.realmLocal/1"

/-- `Symbol.keyFor` of the brand, or the tag of an unbranded error. -/
def ErrorKind.tag {Value : Type} : ErrorKind Value → JsString
  | .componentException _ => units "polyengine.componentException/1"
  | .trap => units "polyengine.trap/1"
  | .dropped => units "polyengine.dropped/1"
  | .invalidHandle => units "polyengine.invalidHandle/1"
  | .peerTrapped _ => units "polyengine.peerTrapped/1"
  | .streamProducer => units "polyengine.streamProducer/1"
  | .wasiExit _ _ => units "polyengine.wasiExit/1"
  | .plain _ => units "error"

/-! ## Encoding -/

def refuseFunction (path : Path) : CloneFailure :=
  .typeError path "is a function, which structured clone cannot carry"

def refuseSymbol (path : Path) : CloneFailure :=
  .typeError path "is a symbol, which structured clone cannot carry"

def refuseCycle (path : Path) : CloneFailure := .typeError path "is a cyclic reference"

def refuseTag (path : Path) : CloneFailure := .typeError path "already carries the envelope tag"

def refusePrototype (path : Path) : CloneFailure :=
  .typeError path "has a prototype the cloneable form does not cover"

def refuseRealmLocal (path : Path) : CloneFailure :=
  .invalidHandle path "is realm-local and cannot be made cloneable"

def text (s : JsString) : Data := .primitive (.string s)

/-- `withStack`. -/
def stackEntry (report : Report) : List (JsString × Data) :=
  match report.stack with
  | some stack => [(units "stack", text stack)]
  | none => []

/-- An optional field of an envelope. -/
def optionalEntry (key : String) : Option Data → List (JsString × Data)
  | some data => [(units key, data)]
  | none => []

def envelope (tag : JsString) (fields : List (JsString × Data)) : Data :=
  .object .ordinary ((TAG, text tag) :: fields)

/-- `out[key] = value` on a fresh object with a new key. Assigning to `__proto__` makes no property:
it sets the prototype if the value is an object or null. -/
def assign (out : Prototype × List (JsString × Data)) (key : JsString) (value : Data) :
    Prototype × List (JsString × Data) :=
  if key = units "__proto__" then
    match value with
    | .primitive .null => (.null, out.2)
    | .primitive _ => out
    | _ => (.foreign [], out.2)
  else (out.1, out.2 ++ [(key, value)])

section

variable {Ref : Type} [DecidableEq Ref]

mutual

/-- `encode`; `seen` are the objects that the value is part of. -/
def encode (seen : List Ref) (path : Path) : HostValue Ref → Except CloneFailure Data
  | .primitive p => .ok (.primitive p)
  | .function => .error (refuseFunction path)
  | .symbol => .error (refuseSymbol path)
  | .binary content => .ok (.binary content)
  | .exotic content => .ok (.exotic content)
  | .realmLocal => .error (refuseRealmLocal path)
  | .array ref elements =>
      if ref ∈ seen then .error (refuseCycle path)
      else return .array (← encodeElements (ref :: seen) path 0 elements)
  | .object ref proto entries =>
      if ref ∈ seen then .error (refuseCycle path)
      else if REALM_LOCAL ∈ entries.map (·.1) then .error (refuseRealmLocal path)
      else if proto ≠ .ordinary ∧ proto ≠ .null then .error (refusePrototype path)
      else if TAG ∈ entries.map (·.1) then .error (refuseTag path)
      else do
        let (proto, out) ← encodeEntries (ref :: seen) path (.ordinary, []) entries
        return .object proto out
  | .errorContext ref message =>
      if ref ∈ seen then .error (refuseCycle path)
      else return envelope (units "polyengine.errorContext/1") [(units "message", text message)]
  | .error ref kind report cause =>
      if ref ∈ seen then .error (refuseCycle path)
      else
        match kind with
        | .componentException payload => do
            let cause ← encodeCause (ref :: seen) path cause
            let payload ← encode (ref :: seen) (path ++ [.key (units "payload")]) payload
            return envelope (units "polyengine.componentException/1")
              ((units "message", text report.message) :: stackEntry report ++ cause ++
                [(units "payload", payload)])
        | .peerTrapped progress => do
            let cause ← encodeCause (ref :: seen) path cause
            return envelope (units "polyengine.peerTrapped/1")
              ((units "message", text report.message) :: stackEntry report ++ cause ++
                optionalEntry "progress" (progress.map fun d => .primitive (.number d)))
        | .wasiExit ok code =>
            return envelope (units "polyengine.wasiExit/1")
              ((units "message", text report.message) :: (units "ok", .primitive ok) ::
                stackEntry report ++
                  optionalEntry "code" (if code = .undefined then none else some (.primitive code)))
        | .plain name => do
            let cause ← encodeCause (ref :: seen) path cause
            return envelope (units "error")
              ((units "name", text name) :: (units "message", text report.message) ::
                stackEntry report ++ cause)
        | .trap | .dropped | .invalidHandle | .streamProducer => do
            let cause ← encodeCause (ref :: seen) path cause
            return envelope kind.tag
              ((units "message", text report.message) :: stackEntry report ++ cause)

/-- The elements of an array; `map` keeps its holes. -/
def encodeElements (seen : List Ref) (path : Path) (i : Nat) :
    List (Option (HostValue Ref)) → Except CloneFailure (List (Option Data))
  | [] => .ok []
  | none :: rest => return none :: (← encodeElements seen path (i + 1) rest)
  | some element :: rest => do
      let element ← encode seen (path ++ [.index i]) element
      return some element :: (← encodeElements seen path (i + 1) rest)

/-- The loop over the own properties of a plain object. -/
def encodeEntries (seen : List Ref) (path : Path) (out : Prototype × List (JsString × Data)) :
    List (JsString × HostValue Ref) → Except CloneFailure (Prototype × List (JsString × Data))
  | [] => .ok out
  | (key, value) :: rest => do
      let value ← encode seen (path ++ [.key key]) value
      encodeEntries seen path (assign out key value) rest

/-- The `cause` of an error, where the property is there. -/
def encodeCause (seen : List Ref) (path : Path) :
    Option (HostValue Ref) → Except CloneFailure (List (JsString × Data))
  | none => .ok []
  | some cause => return [(units "cause", ← encode seen (path ++ [.key (units "cause")]) cause)]

end

end

/-- `toCloneable`. -/
def toCloneable {Ref : Type} [DecidableEq Ref] (v : HostValue Ref) : Except CloneFailure Data :=
  encode [] [] v

mutual

/-- `structuredClone` gives every object the ordinary prototype. -/
def structuredClone : Data → Data
  | .primitive p => .primitive p
  | .binary content => .binary content
  | .exotic content => .exotic content
  | .array elements => .array (cloneElements elements)
  | .object _ entries => .object .ordinary (cloneEntries entries)

def cloneElements : List (Option Data) → List (Option Data)
  | [] => []
  | none :: rest => none :: cloneElements rest
  | some element :: rest => some (structuredClone element) :: cloneElements rest

def cloneEntries : List (JsString × Data) → List (JsString × Data)
  | [] => []
  | (key, value) :: rest => (key, structuredClone value) :: cloneEntries rest

end

/-! ## Decoding -/

mutual

def unchanged : Data → HostValue Unit
  | .primitive p => .primitive p
  | .binary content => .binary content
  | .exotic content => .exotic content
  | .array elements => .array () (unchangedElements elements)
  | .object proto entries => .object () proto (unchangedEntries entries)

def unchangedElements : List (Option Data) → List (Option (HostValue Unit))
  | [] => []
  | none :: rest => none :: unchangedElements rest
  | some element :: rest => some (unchanged element) :: unchangedElements rest

def unchangedEntries : List (JsString × Data) → List (JsString × HostValue Unit)
  | [] => []
  | (key, value) :: rest => (key, unchanged value) :: unchangedEntries rest

end

section

variable {Ref : Type}

mutual

/-- Whether `String(v)` returns: an own `toString` is data, and without one to call an object has no
string. -/
def stringifies : HostValue Ref → Bool
  | .array _ elements => elementsStringify elements
  | .object _ proto entries => decide (proto ≠ .null ∧ units "toString" ∉ entries.map (·.1))
  | _ => true

def elementsStringify : List (Option (HostValue Ref)) → Bool
  | [] => true
  | none :: rest => elementsStringify rest
  | some element :: rest => stringifies element && elementsStringify rest

end

end

/-- The fields of an object in the decoder: the data and what decoding it comes to. -/
abbrev Fields := List (JsString × Data × Except CloneFailure (HostValue Unit))

namespace Fields

def data (fields : Fields) (key : String) : Option Data := (fields.lookup (units key)).map (·.1)

/-- `decode` of a field, with undefined for one that is not there. -/
def decoded (fields : Fields) (key : String) : Except CloneFailure (HostValue Unit) :=
  match fields.lookup (units key) with
  | some (_, result) => result
  | none => .ok (.primitive .undefined)

/-- `env.message`. -/
def message (fields : Fields) : JsString :=
  match fields.data "message" with
  | some (.primitive (.string message)) => message
  | _ => []

/-- `restoreStack`; an error that brings no stack has the one of the place where it is made. -/
def stack (fields : Fields) (site : JsString) : JsString :=
  match fields.data "stack" with
  | some (.primitive (.string stack)) => stack
  | _ => site

/-- `restoreCause`. -/
def cause (fields : Fields) : Except CloneFailure (Option (HostValue Unit)) :=
  match fields.lookup (units "cause") with
  | some (_, result) => return some (← result)
  | none => .ok none

def primitive (fields : Fields) (key : String) : Primitive :=
  match fields.data key with
  | some (.primitive p) => p
  | _ => .undefined

/-- The decoded properties of a plain object, assigned one by one. -/
def assignAll : Fields → Prototype × List (JsString × HostValue Unit) →
    Except CloneFailure (Prototype × List (JsString × HostValue Unit))
  | [], out => .ok out
  | (key, _, result) :: rest, out => do
      let value ← result
      if key = units "__proto__" then
        match value with
        | .primitive .null => assignAll rest (.null, out.2)
        | .primitive _ => assignAll rest out
        | _ => assignAll rest (.foreign [], out.2)
      else assignAll rest (out.1, out.2 ++ [(key, value)])

end Fields

/-- The constructors of `PeerTrappedError` and `StreamProducerError` put the cause into a message. -/
def describeCause (path : Path) : HostValue Unit → Except CloneFailure Unit
  | .error .. => .ok ()
  | cause =>
      if stringifies cause then .ok ()
      else .error (.typeError path "Cannot convert object to primitive value")

/-- `rehydrate`; `site` is the stack of an error made here. -/
def rehydrate (site : JsString) (path : Path) (tag : Option Data) (fields : Fields) :
    Except CloneFailure (HostValue Unit) :=
  let report : Report := ⟨fields.message, some (fields.stack site)⟩
  match tag with
  | some (.primitive (.string tag)) =>
      if tag = units "polyengine.componentException/1" then do
        let payload ← fields.decoded "payload"
        let cause ← fields.cause
        return .error () (.componentException payload) report cause
      else if tag = units "polyengine.trap/1" then
        return .error () .trap report (← fields.cause)
      else if tag = units "polyengine.dropped/1" then
        return .error () .dropped report (← fields.cause)
      else if tag = units "polyengine.invalidHandle/1" then
        return .error () .invalidHandle report (← fields.cause)
      else if tag = units "polyengine.peerTrapped/1" then do
        let cause ← fields.decoded "cause"
        let progress :=
          match fields.primitive "progress" with
          | .number d => some d
          | _ => none
        describeCause path cause
        return .error () (.peerTrapped progress) report (some cause)
      else if tag = units "polyengine.streamProducer/1" then do
        let cause ← fields.decoded "cause"
        describeCause path cause
        return .error () .streamProducer report (some cause)
      else if tag = units "polyengine.errorContext/1" then
        return .errorContext () fields.message
      else if tag = units "polyengine.wasiExit/1" then
        return .error () (.wasiExit (fields.primitive "ok") (fields.primitive "code")) report none
      else if tag = units "error" then do
        let name :=
          match fields.data "name" with
          | some (.primitive (.string name)) => name
          | _ => units "Error"
        return .error () (.plain name) report (← fields.cause)
      else .error (.typeError path "carries an unknown cloneable tag")
  | _ => .error (.typeError path "carries an unknown cloneable tag")

mutual

def decode (site : JsString) (path : Path) : Data → Except CloneFailure (HostValue Unit)
  | .primitive p => .ok (.primitive p)
  | .binary content => .ok (.binary content)
  | .exotic content => .ok (.exotic content)
  | .array elements => return .array () (← decodeElements site path 0 elements)
  | .object proto entries =>
      let fields := decodeEntries site path entries
      if proto ≠ .ordinary ∧ proto ≠ .null then .ok (unchanged (.object proto entries))
      else if TAG ∈ entries.map (·.1) then rehydrate site path (entries.lookup TAG) fields
      else do
        let (proto, out) ← fields.assignAll (.ordinary, [])
        return .object () proto out

def decodeElements (site : JsString) (path : Path) (i : Nat) :
    List (Option Data) → Except CloneFailure (List (Option (HostValue Unit)))
  | [] => .ok []
  | none :: rest => return none :: (← decodeElements site path (i + 1) rest)
  | some element :: rest => do
      let element ← decode site (path ++ [.index i]) element
      return some element :: (← decodeElements site path (i + 1) rest)

/-- What decoding each property comes to; the first failure among those that are used is thrown. -/
def decodeEntries (site : JsString) (path : Path) : List (JsString × Data) → Fields
  | [] => []
  | (key, value) :: rest =>
      (key, value, decode site (path ++ [.key key]) value) :: decodeEntries site path rest

end

/-- `fromCloneable`. -/
def fromCloneable (site : JsString) (data : Data) : Except CloneFailure (HostValue Unit) :=
  decode site [] data

section

attribute [local simp] encode encodeElements encodeEntries encodeCause structuredClone
  cloneElements cloneEntries stringifies elementsStringify Fields.assignAll decode
  decodeElements decodeEntries ErrorKind.tag

end

end Polyengine.Protocol
