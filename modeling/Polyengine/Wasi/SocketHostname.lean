import Mathlib.Data.List.Basic
import Polyengine.Library.Numeral
import Polyengine.Wasi.SocketAddress

/-!
# Socket addresses as text

The hostnames that the platform is given and gives back, and the names that `resolve-addresses` answers
without a resolver.
-/

set_option autoImplicit false

namespace Polyengine.Wasi.Sockets.Hostname

open Polyengine.Library Numeral

abbrev Text := List Char

def join (mark : Char) (pieces : List Text) : Text := [mark].intercalate pieces

/-- `ipHostname`. -/
def ipHostname : IpSocketAddress → Text
  | .ipv4 _ address => join '.' (address.map (Nat.toDigits 10))
  | .ipv6 _ _ address _ => join ':' (address.map (Nat.toDigits 16))

/-- The `other` error of a hostname that is not an address. -/
structure Unparseable where
  family : IpAddressFamily
  hostname : Text
  deriving Repr, DecidableEq

/-- A piece that converts to an integer of a byte. -/
def readOctet (piece : Text) : Option Nat :=
  match number piece with
  | some (.ofNat value) => if value ≤ 255 then some value else none
  | _ => none

/-- Four pieces that convert to bytes. -/
def readQuad (text : Text) : Option (List Nat) :=
  match (text.splitOn '.').mapM readOctet with
  | some octets => if octets.length = 4 then some octets else none
  | none => none

/-- The scope of a zone that converts to an integer, and zero of any other. -/
def readZone (zone : Text) : Nat :=
  match number zone with
  | some (.ofNat value) => value
  | _ => 0

/-- `parseGroup`: one to four hexadecimal digits. -/
def parseGroup (piece : Text) : Option Nat :=
  if piece.length = 0 ∨ 4 < piece.length then none else radixValue 16 piece

/-- The parts before and after the first `::`. -/
def splitDouble : Text → Option (Text × Text)
  | [] => none
  | ':' :: ':' :: rest => some ([], rest)
  | c :: rest => (splitDouble rest).map fun (before, after) => (c :: before, after)

/-- The parts between colons; an empty text has none. -/
def parts (text : Text) : List Text := if text = [] then [] else text.splitOn ':'

/-- Pieces that end in a dotted quad, without it and with its two groups. -/
def takeQuad (pieces : List Text) : Option (List Text × List Nat) :=
  match pieces.getLast? with
  | none => some (pieces, [])
  | some last =>
      if last.contains '.' then
        match readQuad last with
        | some [a, b, c, d] => some (pieces.dropLast, [a * 256 + b, c * 256 + d])
        | _ => none
      else some (pieces, [])

/-- The pieces before and after `::` and the groups of a quad, which is sought in the tail, and in the
head where there is no tail. -/
def takeTail (head tail : List Text) : Option (List Text × List Text × List Nat) :=
  if tail = [] then (takeQuad head).map fun (pieces, v4Tail) => (pieces, [], v4Tail)
  else (takeQuad tail).map fun (tailPieces, v4Tail) => (head, tailPieces, v4Tail)

/-- The groups around the zeros of `::`. -/
def padded (headGroups tailGroups : List Nat) : Option (List Nat) :=
  let total := headGroups.length + tailGroups.length
  if 7 < total then none else some (headGroups ++ List.replicate (8 - total) 0 ++ tailGroups)

def parseGroups (host : Text) : Option (List Nat) :=
  match splitDouble host with
  | some (before, after) =>
      if (splitDouble (':' :: after)).isSome then none
      else do
        let (pieces, tailPieces, v4Tail) ← takeTail (parts before) (parts after)
        let headGroups ← pieces.mapM parseGroup
        let tailGroups ← tailPieces.mapM parseGroup
        padded headGroups (tailGroups ++ v4Tail)
  | none => do
      let (pieces, v4Tail) ← takeQuad (host.splitOn ':')
      let headGroups ← pieces.mapM parseGroup
      let groups := headGroups ++ v4Tail
      if groups.length = 8 then some groups else none

/-- The host before the first percent sign, and the zone after it. -/
def splitZone : Text → Text × Option Text
  | [] => ([], none)
  | c :: rest =>
      if c = '%' then ([], some rest)
      else
        let (host, zone) := splitZone rest
        (c :: host, zone)

def parseIpv6Hostname (hostname : Text) : Option (List Nat × Nat) := do
  let (host, zone) := splitZone hostname
  let scopeId := (zone.map readZone).getD 0
  let groups ← parseGroups host
  return (groups, scopeId)

/-- `parseNetAddr` of a hostname and a port. -/
def parseNetAddr (hostname : Text) (port : Nat) : Except Unparseable IpSocketAddress :=
  if hostname.contains ':' then
    match parseIpv6Hostname hostname with
    | some (groups, scopeId) => .ok (.ipv6 port 0 groups scopeId)
    | none => .error ⟨.ipv6, hostname⟩
  else
    match readQuad hostname with
    | some octets => .ok (.ipv4 port octets)
    | none => .error ⟨.ipv4, hostname⟩

/-! ## Names to resolve -/

/-- `name.slice(1, -1)`. A last character of two code units leaves one of them, which is a character
of no address, as the replacement character is. -/
def sliceEnds (name : Text) : Text :=
  match name.tail.getLast? with
  | some last =>
      if 0xffff < last.toNat then name.tail.dropLast ++ [Char.ofNat 0xfffd] else name.tail.dropLast
  | none => []

/-- What `resolveAddresses` does with a name. -/
inductive Resolution where
  | invalidArgument
  | literal (kind : IpAddressFamily) (address : List Nat)
  | resolver (name : Text)
  deriving Repr, DecidableEq

/-- `resolveAddresses`, in both versions of the interface. -/
def resolveAddresses (name : Text) : Resolution :=
  if name = [] then .invalidArgument
  else
    let bare := if name.head? = some '[' then sliceEnds name else name
    match parseNetAddr bare 0 with
    | .ok parsed => .literal parsed.kind parsed.address
    | .error _ => .resolver name

end Polyengine.Wasi.Sockets.Hostname
