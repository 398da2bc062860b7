import Mathlib.Data.List.Infix
import Polyengine.Library.Fallible
import Polyengine.Library.Transition

/-!
# The transmission future of an HTTP request

A request that a guest constructs owns a transmission future. `send`, `consume-body` and the disposal
of the request act on it in any order, and `send` waits for steps outside this code: the policy, the
stream of the body, the trailers and the transport.
-/

set_option autoImplicit false

namespace Polyengine.Wasi.Http

open Polyengine.Library

inductive ErrorValue where
  | absent
  | text (value : String)
  | dnsError
  deriving Repr, DecidableEq

structure ErrorCode where
  kind : String
  value : ErrorValue
  deriving Repr, DecidableEq

/-- `result<_, error-code>` as a value. -/
inductive HttpResult where
  | ok
  | err (value : ErrorCode)
  deriving Repr, DecidableEq

abbrev Fields := List (String × List UInt8)

inductive TrailersResult where
  | ok (value : Option Fields)
  | err (value : ErrorCode)
  deriving Repr, DecidableEq

inductive Scheme where
  | HTTP
  | HTTPS
  | other (value : String)
  deriving Repr, DecidableEq

/-- The fields of `Request` that `send` reads before the transport. -/
structure Request where
  scheme : Option Scheme
  authority : Option String
  pathWithQuery : Option String
  headers : Fields
  hasContents : Bool
  deriving Repr, DecidableEq

/-- The `allowRequest` option. -/
inductive AllowRequest where
  | unset
  | always
  | never
  | callback
  deriving Repr, DecidableEq

/-- The constructors of the platform that may throw. -/
structure Platform where
  acceptsHeader : String → List UInt8 → Bool
  parsesUrl : String → Bool

/-- What a transport fails with: a component exception, the timeout, or another value. `error` has
the messages along the chain of causes; the text of an `unprintable` value cannot be taken. -/
inductive FetchFailure where
  | component (payload : ErrorCode)
  | timedOut
  | error (parts : List String)
  | value (text : String)
  | unprintable
  deriving Repr, DecidableEq

def includes (message word : String) : Bool := decide (word.toList <:+: message.toList)

/-- `mapFetchError`, unless the value has no text. -/
def mapFetchError (parts : List String) (text : String) : ErrorCode :=
  let message := parts.head?.getD text
  let m := (String.intercalate " | " parts).toLower
  if includes m "refused" then ⟨"connection-refused", .absent⟩
  else if includes m "dns error" || includes m "name not resolved" || includes m "getaddrinfo" then
    ⟨"DNS-error", .dnsError⟩
  else if includes m "timed out" || includes m "timeout" then ⟨"connection-timeout", .absent⟩
  else if includes m "tls" || includes m "certificate" || includes m "ssl" then
    ⟨"TLS-protocol-error", .absent⟩
  else if includes m "reset" then ⟨"connection-terminated", .absent⟩
  else ⟨"internal-error", .text message⟩

/-- Where `send` waits. -/
inductive SendStage where
  | policy
  | contents
  | trailers
  | transport
  deriving Repr, DecidableEq

/-- The ways in which `send` ends. -/
inductive SendExit where
  | unsupportedScheme
  | noAuthority
  | headerRefused
  | urlInvalid
  | denied
  | contentsFailed
  | trailersRejected
  | trailersFailed (value : ErrorCode)
  | trailersPresent
  | transportFailed (code : ErrorCode)
  | transportUnprintable
  | responded
  deriving Repr, DecidableEq

/-- What the transmission future is settled with on the way out, if it is. -/
def SendExit.settles : SendExit → Option HttpResult
  | .denied => some (.err ⟨"HTTP-request-denied", .absent⟩)
  | .trailersFailed value => some (.err value)
  | .trailersPresent =>
      some (.err ⟨"internal-error", .text "fetch cannot transmit request trailers"⟩)
  | .transportFailed code => some (.err code)
  | .responded => some .ok
  | .unsupportedScheme | .noAuthority | .headerRefused | .urlInvalid => none
  | .contentsFailed | .trailersRejected | .transportUnprintable => none

def schemeText : Option Scheme → String
  | none => "https"
  | some .HTTP => "http"
  | some .HTTPS => "https"
  | some (.other value) => value.toLower

def urlText (scheme authority : String) (pathWithQuery : Option String) : String :=
  let path := pathWithQuery.getD ""
  scheme ++ "://" ++ authority ++
    (if path.toList.head? = some '/' ∨ path = "" then path else "/" ++ path)

def appendHeaders (platform : Platform) : Fields → Except SendExit Unit
  | [] => return ()
  | (name, value) :: rest =>
      if platform.acceptsHeader name value then appendHeaders platform rest
      else throw .headerRefused

def Request.allowed (request : Request) : SendStage :=
  if request.hasContents then .contents else .trailers

/-- `send` up to its first `await`. -/
def Request.assemble (platform : Platform) (policy : AllowRequest) (request : Request) :
    Except SendExit SendStage := do
  let scheme := schemeText request.scheme
  if scheme ≠ "http" ∧ scheme ≠ "https" then throw .unsupportedScheme
  match request.authority with
  | none => throw .noAuthority
  | some authority =>
      appendHeaders platform request.headers
      match policy with
      | .unset | .always => return request.allowed
      | .never => throw .denied
      | .callback =>
          if platform.parsesUrl (urlText scheme authority request.pathWithQuery) then return .policy
          else throw .urlInvalid

/-- A request with its transmission future. The last three fields record what happened outside: that
the transport or a consumer of the body accepted the request, and that `send` left the future
pending. -/
structure RequestState where
  sent : Bool
  consumed : Bool
  disposed : Bool
  stage : Option SendStage
  exit : Option SendExit
  consumerPending : Bool
  transmission : Option HttpResult
  transportAccepted : Bool
  consumerAccepted : Bool
  leftPending : Bool
  deriving Repr, DecidableEq

namespace RequestState

/-- `Request.new`. -/
def new : RequestState where
  sent := false
  consumed := false
  disposed := false
  stage := none
  exit := none
  consumerPending := false
  transmission := none
  transportAccepted := false
  consumerAccepted := false
  leftPending := false

/-- A promise keeps the result that it is resolved with first. -/
def settleTransmission (result : HttpResult) (state : RequestState) : RequestState :=
  { state with transmission := some (state.transmission.getD result) }

/-- `send` ends, and settles the transmission future if this exit does. -/
def leave (exit : SendExit) (state : RequestState) : RequestState :=
  let transmission :=
    match exit.settles with
    | none => state.transmission
    | some result => some (state.transmission.getD result)
  { state with
    stage := none
    exit := some exit
    transmission
    leftPending := state.leftPending || transmission.isNone }

def send (platform : Platform) (policy : AllowRequest) (request : Request) (state : RequestState) :
    RequestState :=
  if state.sent || state.consumed then state
  else
    let state := { state with sent := true }
    match request.assemble platform policy with
    | .ok stage => { state with stage := some stage }
    | .error exit => state.leave exit

/-- `allowRequest` answers, or throws. -/
def policyDecided (request : Request) (allows : Option Bool) (state : RequestState) : RequestState :=
  match state.stage, allows with
  | some .policy, some true => { state with stage := some request.allowed }
  | some .policy, _ => state.leave .denied
  | _, _ => state

/-- `collectBody` ends. -/
def contentsDrained (succeeds : Bool) (state : RequestState) : RequestState :=
  if state.stage = some .contents then
    if succeeds then { state with stage := some .trailers } else state.leave .contentsFailed
  else state

def trailersResolved (result : Option TrailersResult) (state : RequestState) : RequestState :=
  if state.stage = some .trailers then
    match result with
    | none => state.leave .trailersRejected
    | some (.err value) => state.leave (.trailersFailed value)
    | some (.ok (some _)) => state.leave .trailersPresent
    | some (.ok none) => { state with stage := some .transport }
  else state

def transported (failure : Option FetchFailure) (state : RequestState) : RequestState :=
  if state.stage = some .transport then
    match failure with
    | none => { state with transportAccepted := true }.leave .responded
    | some (.component payload) => state.leave (.transportFailed payload)
    | some .timedOut => state.leave (.transportFailed ⟨"connection-read-timeout", .absent⟩)
    | some (.error parts) => state.leave (.transportFailed (mapFetchError parts ""))
    | some (.value text) => state.leave (.transportFailed (mapFetchError [] text))
    | some .unprintable => state.leave .transportUnprintable
  else state

/-- `consumeStoredBody`. -/
def consumeBody (state : RequestState) : RequestState :=
  if state.consumed then state else { state with consumed := true, consumerPending := true }

/-- The result future that was passed to `consume-body` resolves, or rejects. -/
def consumerReported (result : Option HttpResult) (state : RequestState) : RequestState :=
  if state.consumerPending then
    let reported : HttpResult := result.getD (.err ⟨"internal-error", .text "consumer failed"⟩)
    { state with
      consumerPending := false
      consumerAccepted := state.consumerAccepted || decide (reported = HttpResult.ok) }.settleTransmission reported
  else state

/-- `[Symbol.dispose]`. -/
def dispose (state : RequestState) : RequestState :=
  let state := { state with disposed := true }
  if state.sent || state.consumed then state
  else
    state.settleTransmission (.err ⟨"internal-error", .text "request dropped without being sent"⟩)

inductive Action where
  | send
  | policyDecided (allows : Option Bool)
  | contentsDrained (succeeds : Bool)
  | trailersResolved (result : Option TrailersResult)
  | transported (failure : Option FetchFailure)
  | consumeBody
  | consumerReported (result : Option HttpResult)
  | dispose
  deriving Repr, DecidableEq

def step (platform : Platform) (policy : AllowRequest) (request : Request) :
    Action → RequestState → RequestState
  | .send => send platform policy request
  | .policyDecided allows => policyDecided request allows
  | .contentsDrained succeeds => contentsDrained succeeds
  | .trailersResolved result => trailersResolved result
  | .transported failure => transported failure
  | .consumeBody => consumeBody
  | .consumerReported result => consumerReported result
  | .dispose => dispose

end RequestState

end Polyengine.Wasi.Http
