import Mathlib.Tactic.Common

/-!
# Socket addresses

The `ip-socket-address` of the socket interfaces, the addresses of the platform, and the checks
that both 0.2 socket kinds make of an address.
-/

set_option autoImplicit false

namespace Polyengine.Wasi.Sockets

/-- The `error-code` enum of `wasi:sockets/network@0.2`. -/
inductive SocketErrorCode02 where
  | unknown
  | accessDenied
  | notSupported
  | invalidArgument
  | outOfMemory
  | timeout
  | concurrencyConflict
  | notInProgress
  | wouldBlock
  | invalidState
  | newSocketLimit
  | addressNotBindable
  | addressInUse
  | remoteUnreachable
  | connectionRefused
  | connectionReset
  | connectionAborted
  | datagramTooLarge
  | nameUnresolvable
  | temporaryResolverFailure
  | permanentResolverFailure
  deriving Repr, DecidableEq

/-- The kinds of the 0.3 `error-code`, which every failure of the platform is mapped to first. -/
inductive SocketErrorKind where
  | accessDenied
  | notSupported
  | invalidArgument
  | outOfMemory
  | timeout
  | invalidState
  | addressNotBindable
  | addressInUse
  | remoteUnreachable
  | connectionRefused
  | connectionBroken
  | connectionReset
  | connectionAborted
  | datagramTooLarge
  | other
  deriving Repr, DecidableEq

/-- `toCode02` of a platform failure: `KIND_TO_02`, and `unknown` for what it does not list. -/
def toCode02 : SocketErrorKind → SocketErrorCode02
  | .accessDenied => .accessDenied
  | .notSupported => .notSupported
  | .invalidArgument => .invalidArgument
  | .outOfMemory => .outOfMemory
  | .timeout => .timeout
  | .invalidState => .invalidState
  | .addressNotBindable => .addressNotBindable
  | .addressInUse => .addressInUse
  | .remoteUnreachable => .remoteUnreachable
  | .connectionRefused => .connectionRefused
  | .connectionBroken => .connectionReset
  | .connectionReset => .connectionReset
  | .connectionAborted => .connectionAborted
  | .datagramTooLarge => .datagramTooLarge
  | .other => .unknown

/-- A branded error of a socket call, or an unbranded throw, which is a trap. -/
inductive SocketFailure where
  | err02 (code : SocketErrorCode02) (detail : String)
  | trap (message : String)
  deriving Repr, DecidableEq

inductive IpAddressFamily where
  | ipv4
  | ipv6
  deriving Repr, DecidableEq

def IpAddressFamily.text : IpAddressFamily → String
  | .ipv4 => "ipv4"
  | .ipv6 => "ipv6"

inductive IpSocketAddress where
  | ipv4 (port : Nat) (address : List Nat)
  | ipv6 (port flowInfo : Nat) (address : List Nat) (scopeId : Nat)
  deriving Repr, DecidableEq

namespace IpSocketAddress

def kind : IpSocketAddress → IpAddressFamily
  | .ipv4 .. => .ipv4
  | .ipv6 .. => .ipv6

def port : IpSocketAddress → Nat
  | .ipv4 port _ => port
  | .ipv6 port _ _ _ => port

def address : IpSocketAddress → List Nat
  | .ipv4 _ address => address
  | .ipv6 _ _ address _ => address

def scopeId : IpSocketAddress → Nat
  | .ipv4 .. => 0
  | .ipv6 _ _ _ scopeId => scopeId

end IpSocketAddress

/-- An address of the platform: the parts that its hostname spells, and the port. -/
structure NetAddr where
  kind : IpAddressFamily
  address : List Nat
  scopeId : Nat
  port : Nat
  deriving Repr, DecidableEq

/-- `ipHostname` with the port: neither flow information nor a scope is spelled. -/
def toNetAddr (address : IpSocketAddress) : NetAddr where
  kind := address.kind
  address := address.address
  scopeId := 0
  port := address.port

/-- `parseNetAddr`; flow information is not observable. -/
def parseNetAddr (addr : NetAddr) : IpSocketAddress :=
  match addr.kind with
  | .ipv4 => .ipv4 addr.port addr.address
  | .ipv6 => .ipv6 addr.port 0 addr.address addr.scopeId

/-- `sameSocketAddress`: the same family, address and port. -/
def sameSocketAddress (a b : IpSocketAddress) : Bool :=
  decide (a.kind = b.kind ∧ a.port = b.port ∧ a.address = b.address)

def isUnspecified (addr : IpSocketAddress) : Bool := addr.address.all fun part => part == 0

def isV4MappedV6 (groups : List Nat) : Bool :=
  (groups.take 5).all (fun group => group == 0) && groups[5]? == some 0xffff

/-- The deprecated IPv4-compatible range without `::` and `::1`. -/
def isDeprecatedV4CompatibleV6 (groups : List Nat) : Bool :=
  (groups.take 6).all (fun group => group == 0) &&
    !(groups[6]? == some 0 && groups[7]? == some 0) &&
    !(groups[6]? == some 0 && groups[7]? == some 1)

def isValidAddressFamily (family : IpAddressFamily) (addr : IpSocketAddress) : Bool :=
  match family with
  | .ipv4 => decide (addr.kind = .ipv4)
  | .ipv6 =>
      decide (addr.kind = .ipv6) && !isV4MappedV6 addr.address &&
        !isDeprecatedV4CompatibleV6 addr.address

def validateRemote (family : IpAddressFamily) (remote : IpSocketAddress) (what : String) :
    Except SocketFailure Unit := do
  if isValidAddressFamily family remote = false ∨ isUnspecified remote = true ∨
      remote.port = 0 then
    throw (.err02 .invalidArgument s!"{what}: the remote address must be a specific address and non-zero port in the socket's family ({family.text})")
  if remote.kind = .ipv6 ∧ remote.scopeId ≠ 0 then
    throw (.err02 .notSupported s!"{what}: non-zero scope-id")

theorem toCode02_ne_wouldBlock (kind : SocketErrorKind) : toCode02 kind ≠ .wouldBlock := by
  cases kind <;> decide

end Polyengine.Wasi.Sockets
