import Polyengine.Library.UrlParts
import Polyengine.Wasi.HttpTransmission

/-!
# The target of an HTTP request

Scheme, authority and path are accepted on their own and put together by `send`; the policy and the
transport then take the parts from the URL. The parts are those of the request unless the parser skips
or cuts the authority, or removes something at the end.
-/

set_option autoImplicit false

namespace Polyengine.Wasi.Http

open Polyengine.Library

/-! ## Setters -/

namespace Request

def setPathWithQuery (pathWithQuery : Option String) (request : Request) : Option Request :=
  if pathWithQuery.any fun text => text.toList.any (" \t\r\n#".toList.contains ·) then none
  else some { request with pathWithQuery }

/-- `/^[A-Za-z][A-Za-z0-9+.-]*$/`. -/
def isSchemeText : List Char → Bool
  | [] => false
  | c :: rest => c.isAlpha && rest.all fun c => c.isAlphanum || c = '+' || c = '.' || c = '-'

def setScheme (scheme : Option Scheme) (request : Request) : Option Request :=
  match scheme with
  | some (.other value) =>
      if isSchemeText value.toList then some { request with scheme } else none
  | _ => some { request with scheme }

/-- The expression is tested without the first at sign. -/
def setAuthority (authority : Option String) (request : Request) : Option Request :=
  if authority.any fun text => (text.toList.erase '@').any (" \t\r\n/#?@".toList.contains ·) then none
  else some { request with authority }

inductive Built : Request → Prop where
  | new (headers : Fields) (hasContents : Bool) : Built ⟨none, none, none, headers, hasContents⟩
  | setPathWithQuery {request next : Request} {pathWithQuery : Option String} :
      Built request → request.setPathWithQuery pathWithQuery = some next → Built next
  | setScheme {request next : Request} {scheme : Option Scheme} :
      Built request → request.setScheme scheme = some next → Built next
  | setAuthority {request next : Request} {authority : Option String} :
      Built request → request.setAuthority authority = some next → Built next

end Request

/-! ## The URL of a request -/

section

-- The parts that the parser accepts: it refuses a host or a port that it cannot read.
variable (accepts : UrlParts → Bool)

/-- `new URL`. -/
def parseUrl (url : String) : Option UrlParts := (UrlParts.read url.toList).filter accepts

/-- A user name or a password that is not empty. -/
def includesCredentials (parts : UrlParts) : Bool :=
  match parts.userinfo with
  | none => false
  | some userinfo => userinfo ≠ [] && userinfo ≠ [':']

/-- The URL of `new Request`, which refuses credentials. -/
def requestUrl (url : String) : Option UrlParts :=
  (parseUrl accepts url).filter (!includesCredentials ·)

def urlPlatform (acceptsHeader : String → List UInt8 → Bool) : Platform where
  acceptsHeader
  parsesUrl url := (parseUrl accepts url).isSome

end

namespace Request

/-- The URL that `send` puts together. -/
def url (request : Request) : Option String :=
  if schemeText request.scheme ≠ "http" ∧ schemeText request.scheme ≠ "https" then none
  else request.authority.map fun authority =>
    urlText (schemeText request.scheme) authority request.pathWithQuery

end Request

/-- The path of the URL. -/
def pathText (pathWithQuery : Option String) : List Char :=
  let path := (pathWithQuery.getD "").toList
  if path.head? = some '/' ∨ path = [] then path else '/' :: path

/-- Some run over the request waits at a stage of `send`. -/
def Reaches (platform : Platform) (policy : AllowRequest) (request : Request) (stage : SendStage) :
    Prop :=
  ∃ actions, (Transition.runAll (RequestState.step platform policy request) actions
    RequestState.new).stage = some stage

section

variable (accepts : UrlParts → Bool) (acceptsHeader : String → List UInt8 → Bool)
  (policy : AllowRequest) (request : Request) (parts : UrlParts)

/-- The parts of the URL that `allowRequest` is given. -/
def GivenToPolicy : Prop :=
  Reaches (urlPlatform accepts acceptsHeader) policy request .policy ∧
    request.url.bind (parseUrl accepts) = some parts

def GivenToFetch : Prop :=
  Reaches (urlPlatform accepts acceptsHeader) policy request .transport ∧
    request.url.bind (requestUrl accepts) = some parts

end

def Request.ownParts (request : Request) : Option UrlParts :=
  request.authority.bind fun authority =>
    UrlParts.ofTexts (schemeText request.scheme).toList authority.toList
      (pathText request.pathWithQuery)

def TargetIntegrity (accepts : UrlParts → Bool) (request : Request) : Prop :=
  ∀ acceptsHeader policy parts,
    GivenToPolicy accepts acceptsHeader policy request parts ∨
      GivenToFetch accepts acceptsHeader policy request parts →
    request.ownParts = some parts

def Request.TargetWhole (request : Request) : Prop :=
  ∀ authority, request.authority = some authority →
    UrlParts.Whole authority.toList (pathText request.pathWithQuery)

/-! ## Accepted parts -/

/-- What the setters exclude and the parser would remove. -/
structure Request.Plain (request : Request) : Prop where
  authority : ∀ text, request.authority = some text →
    ∀ c ∈ text.toList, UrlParts.isTabOrNewline c = false
  path : ∀ c ∈ pathText request.pathWithQuery, UrlParts.isTabOrNewline c = false

theorem pathText_mem {pathWithQuery : Option String} {c : Char} (member : c ∈ pathText pathWithQuery) :
    c = '/' ∨ ∃ text, pathWithQuery = some text ∧ c ∈ text.toList := by
  have inside : c ∈ (pathWithQuery.getD "").toList → ∃ text, pathWithQuery = some text ∧
      c ∈ text.toList := by
    cases pathWithQuery with
    | none => exact fun none => absurd none (List.not_mem_nil)
    | some text => exact fun there => ⟨text, rfl, there⟩
  unfold pathText at member
  simp only at member
  split at member
  · exact .inr (inside member)
  · obtain slash | there := List.mem_cons.mp member
    · exact .inl slash
    · exact .inr (inside there)

theorem isTabOrNewline_of_excluded {c : Char} {excluded : String}
    (clean : excluded.toList.contains c = false)
    (covers : ['\t', '\n', '\r'].all (excluded.toList.contains ·) = true) :
    UrlParts.isTabOrNewline c = false := by
  by_contra tab
  simp only [UrlParts.isTabOrNewline, Bool.not_eq_false, Bool.or_eq_true, decide_eq_true_iff,
    or_assoc] at tab
  have there : excluded.toList.contains c = true := by
    apply List.all_eq_true.mp covers
    obtain rfl | rfl | rfl := tab <;> decide
  rw [clean] at there
  cases there

theorem Request.Built.plain {request : Request} (built : request.Built) : request.Plain := by
  induction built with
  | new headers hasContents =>
      refine ⟨nofun, fun c member => ?_⟩
      exact absurd member (List.not_mem_nil)
  | @setPathWithQuery request next pathWithQuery _ set ih =>
      unfold Request.setPathWithQuery at set
      split at set
      · cases set
      case isFalse clean =>
        cases set
        refine ⟨ih.authority, fun c member => ?_⟩
        obtain rfl | ⟨text, named, inside⟩ := pathText_mem member
        · rfl
        · simp only at named
          rw [named, Option.any_some, Bool.not_eq_true, List.any_eq_false] at clean
          have absent := clean c inside
          rw [Bool.not_eq_true] at absent
          exact isTabOrNewline_of_excluded absent (by decide)
  | @setScheme request next scheme _ set ih =>
      unfold Request.setScheme at set
      split at set
      · split at set
        · cases set
          exact ⟨ih.authority, ih.path⟩
        · cases set
      · cases set
        exact ⟨ih.authority, ih.path⟩
  | @setAuthority request next authority _ set ih =>
      unfold Request.setAuthority at set
      split at set
      · cases set
      case isFalse clean =>
        cases set
        refine ⟨fun text named c inside => ?_, ih.path⟩
        simp only at named
        rw [named, Option.any_some, Bool.not_eq_true, List.any_eq_false] at clean
        by_cases sign : c = '@'
        · rw [sign]
          rfl
        · have absent := clean c ((List.mem_erase_of_ne sign).mpr inside)
          rw [Bool.not_eq_true] at absent
          exact isTabOrNewline_of_excluded absent (by decide)

theorem urlText_toList (scheme authority : String) (pathWithQuery : Option String) :
    (urlText scheme authority pathWithQuery).toList =
      UrlParts.written scheme.toList authority.toList (pathText pathWithQuery) := by
  have nothing : ∀ path : String, path = "" ↔ path.toList = [] := fun path => by simp
  unfold urlText pathText UrlParts.written
  simp only [nothing, String.toList_append]
  split <;> simp

theorem pathText_head (pathWithQuery : Option String) :
    ∀ c ∈ (pathText pathWithQuery).head?, UrlParts.endsAuthority c = true := by
  intro c first
  have slash : c = '/' := by
    unfold pathText at first
    simp only at first
    split at first
    case isTrue starts =>
      obtain slash | empty := starts
      · rw [slash] at first
        cases first
        rfl
      · rw [empty] at first
        cases first
    case isFalse =>
      cases first
      rfl
  rw [slash]
  rfl

/-! ## What is reached -/

theorem Request.allowed_ne_policy (request : Request) : request.allowed ≠ .policy := by
  unfold Request.allowed
  split <;> decide

theorem Request.assemble_url {platform : Platform} {policy : AllowRequest} {request : Request}
    {stage : SendStage} (made : request.assemble platform policy = .ok stage) :
    ∃ text, request.url = some text ∧ (stage = .policy → platform.parsesUrl text = true) := by
  unfold Request.assemble at made
  unfold Request.url
  by_cases scheme : schemeText request.scheme ≠ "http" ∧ schemeText request.scheme ≠ "https"
  · simp only [if_pos scheme, bind, Except.bind, throw, throwThe, MonadExceptOf.throw] at made
    cases made
  · rw [if_neg scheme]
    simp only [if_neg scheme] at made
    cases named : request.authority with
    | none =>
        simp only [named] at made
        cases made
    | some authority =>
        simp only [named] at made
        refine ⟨_, rfl, fun isPolicy => ?_⟩
        cases appended : appendHeaders platform request.headers with
        | error exit =>
            simp only [appended] at made
            cases made
        | ok done =>
            rw [appended] at made
            cases policy with
            | unset =>
                cases made
                exact absurd isPolicy request.allowed_ne_policy
            | always =>
                cases made
                exact absurd isPolicy request.allowed_ne_policy
            | never => cases made
            | callback =>
                by_cases parses : platform.parsesUrl
                    (urlText (schemeText request.scheme) authority request.pathWithQuery) = true
                · exact parses
                · simp only [bind, Except.bind, if_neg parses] at made
                  cases made

theorem Request.assemble_callback {platform : Platform} {request : Request} {text : String}
    (named : request.url = some text) (appended : appendHeaders platform request.headers = .ok ())
    (parses : platform.parsesUrl text = true) :
    request.assemble platform .callback = .ok .policy := by
  unfold Request.url at named
  by_cases scheme : schemeText request.scheme ≠ "http" ∧ schemeText request.scheme ≠ "https"
  · rw [if_pos scheme] at named
    cases named
  · rw [if_neg scheme] at named
    obtain ⟨authority, here, rfl⟩ := Option.map_eq_some_iff.mp named
    unfold Request.assemble
    simp only [scheme, if_false, here, appended, parses]
    rfl

/-- `send` waits only after it put a URL together, and at the policy only after it parsed that. -/
def Assembled (platform : Platform) (policy : AllowRequest) (request : Request)
    (state : RequestState) : Prop :=
  ∀ stage, state.stage = some stage →
    ∃ first, request.assemble platform policy = .ok first ∧ (stage = .policy → first = .policy)

theorem Assembled.advance {platform : Platform} {policy : AllowRequest} {request : Request}
    {state next : RequestState} {waiting stage : SendStage}
    (assembled : Assembled platform policy request state) (here : state.stage = some waiting)
    (there : next.stage = some stage) (past : stage ≠ .policy) :
    Assembled platform policy request next := by
  intro found same
  obtain ⟨first, made, _⟩ := assembled waiting here
  rw [there, Option.some.injEq] at same
  exact ⟨first, made, fun isPolicy => absurd (same.trans isPolicy) past⟩

theorem Assembled.kept {platform : Platform} {policy : AllowRequest} {request : Request}
    {state next : RequestState} (assembled : Assembled platform policy request state)
    (same : next.stage = state.stage) : Assembled platform policy request next := by
  intro stage found
  exact assembled stage (same.symm.trans found)

theorem Assembled.left {platform : Platform} {policy : AllowRequest} {request : Request}
    {next : RequestState} (left : next.stage = none) : Assembled platform policy request next := by
  intro stage found
  rw [left] at found
  cases found

theorem step_assembled {platform : Platform} {policy : AllowRequest} {request : Request}
    (action : RequestState.Action) (state : RequestState)
    (assembled : Assembled platform policy request state) :
    Assembled platform policy request (RequestState.step platform policy request action state) := by
  cases action with
  | send =>
      rw [RequestState.step, RequestState.send]
      split
      · exact assembled
      · simp only
        cases made : request.assemble platform policy with
        | error exit => exact .left rfl
        | ok stage =>
            intro found same
            cases same
            exact ⟨stage, made, id⟩
  | policyDecided allows =>
      rw [RequestState.step]
      unfold RequestState.policyDecided
      split
      case h_1 waiting => exact assembled.advance waiting rfl request.allowed_ne_policy
      case h_2 => exact .left rfl
      case h_3 => exact assembled
  | contentsDrained succeeds =>
      rw [RequestState.step]
      unfold RequestState.contentsDrained
      split
      case isTrue waiting =>
        split
        · exact assembled.advance waiting rfl (by decide)
        · exact .left rfl
      case isFalse => exact assembled
  | trailersResolved result =>
      rw [RequestState.step]
      unfold RequestState.trailersResolved
      split
      case isTrue waiting =>
        split
        · exact .left rfl
        · exact .left rfl
        · exact .left rfl
        · exact assembled.advance waiting rfl (by decide)
      case isFalse => exact assembled
  | transported failure =>
      rw [RequestState.step]
      unfold RequestState.transported
      split
      case isTrue =>
        split <;> exact .left rfl
      case isFalse => exact assembled
  | consumeBody =>
      apply assembled.kept
      rw [RequestState.step]
      unfold RequestState.consumeBody
      split <;> rfl
  | consumerReported result =>
      apply assembled.kept
      rw [RequestState.step]
      unfold RequestState.consumerReported
      split <;> rfl
  | dispose =>
      apply assembled.kept
      rw [RequestState.step]
      unfold RequestState.dispose
      simp only
      split <;> rfl

theorem Reaches.assembled {platform : Platform} {policy : AllowRequest} {request : Request}
    {stage : SendStage} (reached : Reaches platform policy request stage) :
    ∃ first, request.assemble platform policy = .ok first ∧ (stage = .policy → first = .policy) := by
  obtain ⟨actions, waiting⟩ := reached
  exact Transition.runAll_invariant step_assembled actions (.left rfl) stage waiting

/-! ## Integrity of the target -/

theorem Request.url_eq {request : Request} {text : String} (named : request.url = some text) :
    ∃ authority, request.authority = some authority ∧
      (schemeText request.scheme).toList ∈ UrlParts.hostSchemes ∧
      text.toList = UrlParts.written (schemeText request.scheme).toList authority.toList
        (pathText request.pathWithQuery) := by
  unfold Request.url at named
  split at named
  · cases named
  case isFalse scheme =>
    obtain ⟨authority, here, rfl⟩ := Option.map_eq_some_iff.mp named
    refine ⟨authority, here, ?_, urlText_toList _ _ _⟩
    rw [not_and_or, not_not, not_not] at scheme
    obtain http | https := scheme
    · rw [http]
      decide
    · rw [https]
      decide

theorem Request.own_iff {request : Request} {text : String} (plain : request.Plain)
    (named : request.url = some text) (accepts : UrlParts → Bool) :
    (∀ parts, parseUrl accepts text = some parts → request.ownParts = some parts) ↔
      request.TargetWhole ∨ parseUrl accepts text = none := by
  obtain ⟨authority, here, isScheme, written⟩ := request.url_eq named
  have clean : ∀ c ∈ authority.toList ++ pathText request.pathWithQuery,
      UrlParts.isTabOrNewline c = false := by
    intro c member
    obtain front | back := List.mem_append.mp member
    · exact plain.authority authority here c front
    · exact plain.path c back
  have own := @UrlParts.accepted_own_iff accepts _ _ _ isScheme clean
    (pathText_head request.pathWithQuery)
  unfold parseUrl Request.ownParts Request.TargetWhole
  rw [written, here, Option.bind_some, own]
  simp only [Option.some.injEq, forall_eq']

theorem given_same {accepts : UrlParts → Bool} {acceptsHeader : String → List UInt8 → Bool}
    {policy : AllowRequest} {request : Request} {policyParts fetchParts : UrlParts}
    (toPolicy : GivenToPolicy accepts acceptsHeader policy request policyParts)
    (toFetch : GivenToFetch accepts acceptsHeader policy request fetchParts) :
    policyParts = fetchParts := by
  obtain ⟨text, named, parsed⟩ := Option.bind_eq_some_iff.mp toPolicy.2
  obtain ⟨other, otherNamed, requested⟩ := Option.bind_eq_some_iff.mp toFetch.2
  have same : text = other := Option.some.inj (named.symm.trans otherNamed)
  subst same
  unfold requestUrl at requested
  rw [parsed] at requested
  exact (Option.some.inj (Option.filter_eq_some_iff.mp requested).1)

theorem given_parsed {accepts : UrlParts → Bool} {acceptsHeader : String → List UInt8 → Bool}
    {policy : AllowRequest} {request : Request} {parts : UrlParts}
    (given : GivenToPolicy accepts acceptsHeader policy request parts ∨
      GivenToFetch accepts acceptsHeader policy request parts) :
    ∃ text, request.url = some text ∧ parseUrl accepts text = some parts := by
  obtain toPolicy | toFetch := given
  · exact Option.bind_eq_some_iff.mp toPolicy.2
  · obtain ⟨text, named, requested⟩ := Option.bind_eq_some_iff.mp toFetch.2
    exact ⟨text, named, (Option.filter_eq_some_iff.mp requested).1⟩

theorem policy_given {accepts : UrlParts → Bool} {request : Request} {text : String}
    {parts : UrlParts} (named : request.url = some text) (parsed : parseUrl accepts text = some parts) :
    GivenToPolicy accepts (fun _ _ => true) .callback request parts := by
  refine ⟨⟨[.send], ?_⟩, ?_⟩
  · have appended : appendHeaders (urlPlatform accepts fun _ _ => true) request.headers = .ok () := by
      rw [appendHeaders_eq, if_pos]
      exact List.all_eq_true.mpr fun _ _ => rfl
    have parses : (urlPlatform accepts fun _ _ => true).parsesUrl text = true :=
      congrArg Option.isSome parsed
    have made := request.assemble_callback named appended parses
    rw [Transition.runAll, List.foldl_cons, List.foldl_nil, RequestState.step, RequestState.send]
    simp only [RequestState.new, made]
    rfl
  · rw [named, Option.bind_some, parsed]

/-- A policy and a transport are given the same parts, and nothing where the parser refuses the URL; these
are the parts of the request exactly where its authority and its path are read as they are. -/
theorem target_integrity_iff (accepts : UrlParts → Bool) (request : Request) (built : request.Built) :
    (∀ acceptsHeader policy policyParts fetchParts,
      GivenToPolicy accepts acceptsHeader policy request policyParts →
        GivenToFetch accepts acceptsHeader policy request fetchParts → policyParts = fetchParts) ∧
      (request.url.bind (parseUrl accepts) = none → ∀ acceptsHeader policy,
        ¬Reaches (urlPlatform accepts acceptsHeader) policy request .policy ∧
          ∀ parts, ¬GivenToFetch accepts acceptsHeader policy request parts) ∧
      (TargetIntegrity accepts request ↔
        request.TargetWhole ∨ request.url.bind (parseUrl accepts) = none) := by
  refine ⟨fun _ _ _ _ => given_same, fun refused acceptsHeader policy => ⟨?_, ?_⟩, ?_⟩
  · intro reached
    obtain ⟨first, made, isPolicy⟩ := reached.assembled
    obtain ⟨text, named, parses⟩ := request.assemble_url made
    rw [named, Option.bind_some] at refused
    have found : (parseUrl accepts text).isSome = true := parses (isPolicy rfl)
    rw [refused] at found
    cases found
  · intro parts toFetch
    obtain ⟨text, named, parsed⟩ := given_parsed (.inr toFetch)
    rw [named, Option.bind_some, parsed] at refused
    cases refused
  · cases named : request.url with
    | none =>
        simp only [Option.bind_none, or_true, iff_true]
        intro acceptsHeader policy parts given
        obtain ⟨text, other, _⟩ := given_parsed given
        rw [named] at other
        cases other
    | some text =>
        rw [Option.bind_some, ← request.own_iff built.plain named accepts]
        constructor
        · intro integrity parts parsed
          exact integrity _ _ parts (.inl (policy_given named parsed))
        · intro own acceptsHeader policy parts given
          obtain ⟨other, otherNamed, parsed⟩ := given_parsed given
          rw [named, Option.some.injEq] at otherNamed
          subst otherNamed
          exact own parts parsed

/-- A request over HTTPS. -/
def targetRequest (authority path : String) : Request := ⟨none, some authority, some path, [], false⟩

theorem targetRequest_built {authority path : String}
    (validAuthority : Request.setAuthority (some authority) ⟨none, none, none, [], false⟩ =
      some ⟨none, some authority, none, [], false⟩)
    (validPath : Request.setPathWithQuery (some path) ⟨none, some authority, none, [], false⟩ =
      some (targetRequest authority path)) : (targetRequest authority path).Built :=
  .setPathWithQuery (.setAuthority (.new [] false) validAuthority) validPath

theorem targetRequest_given {accepts : UrlParts → Bool} {authority path : String} {parts : UrlParts}
    (requested : (targetRequest authority path).url.bind (requestUrl accepts) = some parts) :
    GivenToFetch accepts (fun _ _ => true) .unset (targetRequest authority path) parts :=
  ⟨⟨[.send, .trailersResolved (some (.ok none))], rfl⟩, requested⟩

/-- An authority without a backslash is whole. -/
theorem target_integrity_plain : TargetIntegrity (fun _ => true) (targetRequest "h" "/x") :=
  (target_integrity_iff (fun _ => true) (targetRequest "h" "/x")
    (targetRequest_built (by decide) (by decide))).2.2.mpr (.inl (by
      rintro authority ⟨⟩
      refine ⟨by decide, fun c member => ?_, fun c last => ?_⟩
      · obtain rfl : c = 'h' := by simpa using member
        decide
      · have isLast : some 'x' = some c := last
        cases isLast
        decide))

/-- Where the authority is empty, the path names the host; a backslash ends the authority. -/
theorem authority_misread :
    (∃ parts, (targetRequest "" "/internal/x").Built ∧
      GivenToFetch (fun _ => true) (fun _ _ => true) .unset (targetRequest "" "/internal/x") parts ∧
      parts.host = "internal".toList ∧ parts.path = "/x".toList ∧
      (targetRequest "" "/internal/x").ownParts ≠ some parts) ∧
    ∃ parts, (targetRequest "a\\b" "/x").Built ∧
      GivenToFetch (fun _ => true) (fun _ _ => true) .unset (targetRequest "a\\b" "/x") parts ∧
      parts.host = "a".toList ∧ parts.path = "\\b/x".toList ∧
      (targetRequest "a\\b" "/x").ownParts ≠ some parts := by
  constructor
  · refine ⟨⟨"https".toList, none, "internal".toList, none, "/x".toList, none, none⟩,
      targetRequest_built (by decide) (by decide), targetRequest_given ?_, rfl, rfl,
      by decide⟩
    decide
  · refine ⟨⟨"https".toList, none, "a".toList, none, "\\b/x".toList, none, none⟩,
      targetRequest_built (by decide) (by decide), targetRequest_given ?_, rfl, rfl,
      by decide⟩
    decide

end Polyengine.Wasi.Http
