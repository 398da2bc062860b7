import Polyengine.Cabi.Strings

/-!
# HTTP fields

The fields that a guest builds and the headers that the platform carries, and the conversions between
field values and header values in both directions.
-/

set_option autoImplicit false

namespace Polyengine.Wasi.HttpFields

open Polyengine.Cabi

abbrev Name := List Char

/-! ## Field syntax -/

def isTokenChar (c : Char) : Bool := c.isAlphanum || "!#$%&'*+.^_|~-".toList.contains c || c = Char.ofNat 0x60

/-- `FIELD_NAME`. -/
def isToken (name : Name) : Bool := name ≠ [] && name.all isTokenChar

def validFieldValue (v : List UInt8) : Bool :=
  !v.any fun b => b = 0x00 || b = 0x0a || b = 0x0d

inductive HeaderError where
  | invalidSyntax
  | immutable
  deriving Repr, DecidableEq

/-! ## Fields -/

/-- Entries in original casing and insertion order. -/
structure Fields where
  entries : List (Name × List UInt8)
  mutable : Bool
  deriving Repr, DecidableEq

namespace Fields

section

variable (toLowerCase : Name → Name)

def new : Fields := ⟨[], true⟩

def checkEntry (name : Name) (value : List UInt8) : Except HeaderError Unit :=
  if isToken name = false then .error .invalidSyntax
  else if validFieldValue value = false then .error .invalidSyntax
  else .ok ()

def fromList (entries : List (Name × List UInt8)) : Except HeaderError Fields := do
  entries.forM fun (name, value) => checkEntry name value
  return ⟨entries, true⟩

def get (fields : Fields) (name : Name) : List (List UInt8) :=
  (fields.entries.filter fun (k, _) => toLowerCase k = toLowerCase name).map Prod.snd

def has (fields : Fields) (name : Name) : Bool :=
  fields.entries.any fun (k, _) => toLowerCase k = toLowerCase name

def requireMutableFields (fields : Fields) : Except HeaderError Unit :=
  if fields.mutable then .ok () else .error .immutable

def without (fields : Fields) (name : Name) : List (Name × List UInt8) :=
  fields.entries.filter fun (k, _) => toLowerCase k ≠ toLowerCase name

def set (fields : Fields) (name : Name) (value : List (List UInt8)) : Except HeaderError Fields := do
  fields.requireMutableFields
  if isToken name = false then throw .invalidSyntax
  if value.all validFieldValue = false then throw .invalidSyntax
  return { fields with
    entries := fields.without toLowerCase name ++ value.map fun one => (name, one) }

def delete (fields : Fields) (name : Name) : Except HeaderError Fields := do
  fields.requireMutableFields
  return { fields with entries := fields.without toLowerCase name }

def getAndDelete (fields : Fields) (name : Name) :
    Except HeaderError (List (List UInt8) × Fields) := do
  fields.requireMutableFields
  return (fields.get toLowerCase name, { fields with entries := fields.without toLowerCase name })

def append (fields : Fields) (name : Name) (value : List UInt8) : Except HeaderError Fields := do
  fields.requireMutableFields
  checkEntry name value
  return { fields with entries := fields.entries ++ [(name, value)] }

def clone (fields : Fields) : Fields := ⟨fields.entries, true⟩

end

end Fields

/-! ## Text codecs -/

/-- The state of a UTF-8 decoder inside a sequence: the bytes needed, the code point so far and the
range of the next byte. -/
structure DecoderState where
  needed : Nat
  codePoint : Nat
  lower : UInt8
  upper : UInt8
  deriving Repr, DecidableEq

def replacement : Nat := 0xfffd

/-- Between sequences. -/
def idle : DecoderState := ⟨0, 0, 0x80, 0xbf⟩

/-- The code points that a first byte decodes to, and the state after it. -/
def decodeLead (b : UInt8) : List Nat × DecoderState :=
  if b < 0x80 then ([b.toNat], idle)
  else
    match utf8Width b with
    | none => ([replacement], idle)
    | some (needed, lower, upper) =>
        ([], ⟨needed, b.toNat % 2 ^ (6 - needed), lower, upper⟩)

def decodeByte (state : DecoderState) (b : UInt8) : List Nat × DecoderState :=
  if state.needed = 0 then decodeLead b
  else if b < state.lower ∨ state.upper < b then
    let (points, next) := decodeLead b
    (replacement :: points, next)
  else
    let codePoint := state.codePoint * 64 + b.toNat % 64
    if state.needed = 1 then ([codePoint], idle)
    else ([], ⟨state.needed - 1, codePoint, 0x80, 0xbf⟩)

def decodeFrom (state : DecoderState) : List UInt8 → List Nat
  | [] => if state.needed = 0 then [] else [replacement]
  | b :: rest =>
      let (points, next) := decodeByte state b
      points ++ decodeFrom next rest

/-- `decoder.decode`: the code points of the text, without a byte order mark. -/
def decode (value : List UInt8) : List Nat :=
  match value with
  | 0xef :: 0xbb :: 0xbf :: rest => decodeFrom idle rest
  | value => decodeFrom idle value

/-- `encoder.encode` of a string of code points below `0x100`. -/
def encode (value : List UInt8) : List UInt8 :=
  value.flatMap fun b => String.utf8EncodeChar (Char.ofNat b.toNat)

/-! ## Headers -/

/-- The headers of the platform: names, and values of a byte for each character. -/
structure Headers where
  list : List (Name × List UInt8)
  deriving Repr, DecidableEq

def lower (name : Name) : Name := name.map Char.toLower

def isWhitespace (b : UInt8) : Bool := b = 0x09 || b = 0x0a || b = 0x0d || b = 0x20

/-- A value without whitespace around it. -/
def normalize (value : List UInt8) : List UInt8 :=
  (((value.dropWhile isWhitespace).reverse).dropWhile isWhitespace).reverse

/-- The conversion to a byte string, which fails above `0xff`. -/
def toByteString (value : List Nat) : Option (List UInt8) :=
  if ∀ point ∈ value, point ≤ 0xff then some (value.map UInt8.ofNat) else none

namespace Headers

def append (headers : Headers) (name : Name) (value : List Nat) : Option Headers := do
  let bytes ← toByteString value
  let bytes := normalize bytes
  if isToken name && validFieldValue bytes then return ⟨headers.list ++ [(name, bytes)]⟩ else none

def values (headers : Headers) (name : Name) : List (List UInt8) :=
  (headers.list.filter fun (k, _) => lower k = lower name).map Prod.snd

/-- The values of a name, joined with a comma and a space. -/
def get (headers : Headers) (name : Name) : Option (List UInt8) :=
  if headers.values name = [] then none
  else some ([0x2c, 0x20].intercalate (headers.values name))

end Headers

/-- The conversion of `send`, unless the platform refuses a header. -/
def sendHeaders (entries : List (Name × List UInt8)) : Option Headers :=
  entries.foldlM (fun headers (name, value) => headers.append name (decode value)) ⟨[]⟩

def fieldsFromFetchHeaders (headers : List (Name × List UInt8)) : Fields where
  entries := headers.map fun (name, value) => (name, encode value)
  mutable := false

end Polyengine.Wasi.HttpFields
