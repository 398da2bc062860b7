import Mathlib.Data.List.Lex
import Mathlib.Data.Sum.Order
import Mathlib.Logic.Function.Basic
import Mathlib.Order.WithBot
import Polyengine.Library.Rounding

/-!
# Versions of interfaces

The parsing of interface ids, their compatibility tracks and the order of versions, and the table that
imports are resolved in.
-/

set_option autoImplicit false

namespace Polyengine.Embedder.Version

open Polyengine.Library.Rounding

/-- A string of the source. -/
abbrev Text := List Char

/-! ## Numbers -/

/-- `Infinity`, above every finite double. -/
def infinity : Nat := 2 ^ 1024

/-- The double closest to a natural number. -/
def double (n : Nat) : Nat := min (roundTo 53 n) infinity

/-- The number that digits denote. -/
def natOf (digits : Text) : Nat := Nat.ofDigitChars 10 digits 0

/-- `Number(digits)`. -/
def number (digits : Text) : Nat := double (natOf digits)

/-- The number with the fewest significant digits that the double is closest to. -/
def shortest (x : Nat) : Nat :=
  let zeros := (List.range ((Nat.toDigits 10 x).length + 1)).reverse
  ((zeros.map fun count => roundMultiple (10 ^ count) x).find? fun y => double y = x).getD x

/-- `${x}` of a double that is a natural number. -/
def numberText (x : Nat) : Text :=
  if infinity ≤ x then "Infinity".toList
  else
    let digits := Nat.toDigits 10 (shortest x)
    if digits.length ≤ 21 then digits
    else
      let exponent := Nat.toDigits 10 (digits.length - 1)
      match (digits.reverse.dropWhile (· = '0')).reverse with
      | [] => digits
      | [first] => first :: 'e' :: '+' :: exponent
      | first :: rest => first :: '.' :: rest ++ 'e' :: '+' :: exponent

/-! ## Parsing -/

structure Semver where
  major : Nat
  minor : Nat
  patch : Nat
  prerelease : List Text
  build : Option Text
  deriving Repr, DecidableEq

structure ParsedId where
  base : Text
  version : Option Text
  semver : Option Semver
  deriving Repr, DecidableEq

/-- `[0-9A-Za-z.-]`. -/
def isTagChar (c : Char) : Bool := c.isAlphanum || c = '.' || c = '-'

/-- `\d+`, and what follows. -/
def digits (text : Text) : Option (Text × Text) :=
  let found := text.takeWhile Char.isDigit
  if found = [] then none else some (found, text.dropWhile Char.isDigit)

/-- `\.`, and what follows. -/
def dot : Text → Option Text
  | '.' :: rest => some rest
  | _ => none

/-- `(?:-([0-9A-Za-z.-]+))?` for a mark, and what follows. -/
def tag (mark : Char) (text : Text) : Option Text × Text :=
  match text with
  | [] => (none, [])
  | c :: rest =>
      let found := rest.takeWhile isTagChar
      if c = mark ∧ found ≠ [] then (some found, rest.dropWhile isTagChar) else (none, c :: rest)

/-- The groups of a match of `SEMVER`. -/
structure Groups where
  major : Text
  minor : Text
  patch : Text
  prerelease : Option Text
  build : Option Text
  deriving Repr, DecidableEq

/-- `SEMVER.exec`. -/
def execSemver (v : Text) : Option Groups := do
  let (major, rest) ← digits v
  let rest ← dot rest
  let (minor, rest) ← digits rest
  let rest ← dot rest
  let (patch, rest) ← digits rest
  let (prerelease, rest) := tag '-' rest
  let (build, rest) := tag '+' rest
  if rest = [] then some ⟨major, minor, patch, prerelease, build⟩ else none

/-- A version whose numbers are read by `number`. -/
def Groups.semver (number : Text → Nat) (groups : Groups) : Semver where
  major := number groups.major
  minor := number groups.minor
  patch := number groups.patch
  prerelease := (groups.prerelease.map (List.splitOn '.')).getD []
  build := groups.build

def parseSemver (v : Text) : Option Semver := (execSemver v).map (Groups.semver number)

def splitLast (mark : Char) : Text → Option (Text × Text)
  | [] => none
  | c :: rest =>
      match splitLast mark rest with
      | some (before, after) => some (c :: before, after)
      | none => if c = mark then some ([], rest) else none

def parseInterfaceId (id : Text) : ParsedId :=
  match splitLast '@' id with
  | none => ⟨id, none, none⟩
  | some (base, version) => ⟨base, some version, parseSemver version⟩

def trackKeyOf (base : Text) (v : Semver) : Option Text :=
  if v.prerelease ≠ [] then none
  else if 0 < v.major then some (base ++ '@' :: numberText v.major)
  else if 0 < v.minor then some (base ++ '@' :: '0' :: '.' :: numberText v.minor)
  else none

def trackKey (id : Text) : Option Text :=
  let p := parseInterfaceId id
  p.semver.bind (trackKeyOf p.base)

/-- `/^\d+$/`. -/
def isNumeric (text : Text) : Bool := text ≠ [] && text.all Char.isDigit

def asTrackKeySpelling (id : Text) : Option Text :=
  let p := parseInterfaceId id
  match p.version, p.semver with
  | some version, none =>
      if isNumeric version then if version = ['0'] then none else some id
      else
        match version with
        | '0' :: '.' :: minor => if isNumeric minor then some id else none
        | _ => none
  | _, _ => none

/-! ## The order of versions -/

/-- The loop over the identifiers; only the sign of a comparison counts. -/
def compareIdentifiers : List Text → List Text → Int
  | [], [] => 0
  | [], _ :: _ => -1
  | _ :: _, [] => 1
  | x :: xs, y :: ys =>
      if isNumeric x && isNumeric y then
        if number x ≠ number y then number x - number y else compareIdentifiers xs ys
      else if isNumeric x ≠ isNumeric y then if isNumeric x then -1 else 1
      else if x ≠ y then if x < y then -1 else 1
      else compareIdentifiers xs ys

def compareSemver (a b : Semver) : Int :=
  if a.major ≠ b.major then a.major - b.major
  else if a.minor ≠ b.minor then a.minor - b.minor
  else if a.patch ≠ b.patch then a.patch - b.patch
  else if a.prerelease = [] ∧ b.prerelease = [] then 0
  else if a.prerelease = [] then 1
  else if b.prerelease = [] then -1
  else compareIdentifiers a.prerelease b.prerelease

/-! ## The table of imports -/

inductive Failure where
  | registration (message : Text)
  | resolution (message : Text)
  deriving Repr, DecidableEq

structure TrackClaim where
  key : Text
  version : Option Semver
  deriving Repr, DecidableEq

variable {Value : Type}

structure ImportResolver (Value : Type) where
  exact : List (Text × Value)
  tracks : Text → Option TrackClaim
  unversioned : Text → Option Text

namespace ImportResolver

def empty : ImportResolver Value where
  exact := []
  tracks := fun _ => none
  unversioned := fun _ => none

def setTrack (resolver : ImportResolver Value) (track : Text) (claim : TrackClaim) :
    ImportResolver Value :=
  { resolver with tracks := Function.update resolver.tracks track (some claim) }

/-- `#claim`. -/
def claim (resolver : ImportResolver Value) (track : Text) (claim : TrackClaim) :
    Except Failure (ImportResolver Value) :=
  match resolver.tracks track with
  | none => .ok (resolver.setTrack track claim)
  | some held =>
      match held.version, claim.version with
      | some heldVersion, some version =>
          if 0 < compareSemver version heldVersion then .ok (resolver.setTrack track claim)
          else .ok resolver
      | none, none =>
          .error (.registration ("compatibility track '".toList ++ track ++
            "' is claimed twice ('".toList ++ held.key ++ "' and '".toList ++ claim.key ++
            "')".toList))
      | none, some _ => .error (ambiguous track held.key claim.key)
      | some _, none => .error (ambiguous track claim.key held.key)
where
  ambiguous (track t f : Text) : Failure :=
    .registration ("import registration is ambiguous on compatibility track '".toList ++ track ++
      "': the track key '".toList ++ t ++ "' and the full version '".toList ++ f ++
      "' are both registered. Register one or the other, never both.".toList)

/-- `#register`. -/
def register (resolver : ImportResolver Value) (key : Text) :
    Except Failure (ImportResolver Value) :=
  match asTrackKeySpelling key with
  | some track => resolver.claim track ⟨key, none⟩
  | none =>
      let p := parseInterfaceId key
      match p.version with
      | some version =>
          if version = ['0'] then
            .error (.registration ("import key '".toList ++ key ++
              "': '@0' is not a compatibility track. Major 0 tracks the MINOR version (`@0.2`), ".toList ++
              "so no version canonicalizes to '@0' and this registration could never be resolved.".toList))
          else
            match p.semver with
            | none => .ok resolver
            | some semver =>
                match trackKeyOf p.base semver with
                | none => .ok resolver
                | some track => resolver.claim track ⟨key, some semver⟩
      | none =>
          if p.base.contains '/' || p.base.contains ':' then
            .ok { resolver with
              unversioned := Function.update resolver.unversioned p.base (some key) }
          else .ok resolver

/-- One entry of the record. -/
def add (resolver : ImportResolver Value) (entry : Text × Value) :
    Except Failure (ImportResolver Value) :=
  if (resolver.exact.lookup entry.1).isSome then
    .error (.registration ("duplicate import key '".toList ++ entry.1 ++ "'".toList))
  else { resolver with exact := resolver.exact ++ [entry] }.register entry.1

/-- The constructor, over the entries of the record in the order of `Object.keys`. -/
def create (record : List (Text × Value)) : Except Failure (ImportResolver Value) :=
  record.foldlM add empty

def resolve (resolver : ImportResolver Value) (id : Text) :
    Except Failure (Option (Text × Option Value)) :=
  match resolver.exact.lookup id with
  | some value => .ok (some (id, some value))
  | none =>
      let p := parseInterfaceId id
      match p.version, p.semver with
      | some version, some semver =>
          match (trackKeyOf p.base semver).bind resolver.tracks with
          | some claim => .ok (some (claim.key, resolver.exact.lookup claim.key))
          | none =>
              match resolver.unversioned p.base with
              | some un =>
                  .error (.resolution ("import '".toList ++ id ++
                    "' is versioned but the only registration for '".toList ++ p.base ++
                    "' is the unversioned key '".toList ++ un ++
                    "'. Version-agnostic folding is banned (contracts/embedder-api.md ".toList ++
                    "§\"Version canonicalization\"): register '".toList ++ p.base ++ '@' :: version ++
                    "' or the compatibility-track key '".toList ++
                    (trackKeyOf p.base semver).getD (p.base ++ '@' :: version) ++ "'.".toList))
              | none => .ok none
      | none, _ =>
          let near := (resolver.exact.map Prod.fst).filter fun k =>
            (parseInterfaceId k).base = p.base
          if near ≠ [] then
            .error (.resolution ("import '".toList ++ id ++
              "' is unversioned but the registrations for it are versioned (".toList ++
              (", ".toList).intercalate near ++
              "). Version-agnostic folding is banned (contracts/embedder-api.md ".toList ++
              "§\"Version canonicalization\").".toList))
          else .ok none
      | some _, none => .ok none

end ImportResolver

end Polyengine.Embedder.Version
