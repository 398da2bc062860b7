import Polyengine.Wasi.HttpSend

/-!
# Settlement of the transmission future

Which runs over a request leave its transmission future settled: all but those in which `send` ends at
an exit that forgets it while nothing else has settled it and no consumer will.
-/

set_option autoImplicit false

namespace Polyengine.Wasi.Http

open Polyengine.Library

/-- The requests that `send` refuses before the policy decides. -/
def Request.Unsendable (platform : Platform) (policy : AllowRequest) (request : Request) : Prop :=
  (schemeText request.scheme ≠ "http" ∧ schemeText request.scheme ≠ "https") ∨
    request.authority = none ∨
    (∃ header ∈ request.headers, platform.acceptsHeader header.1 header.2 = false) ∨
    (policy = .callback ∧ ∃ authority, request.authority = some authority ∧
      platform.parsesUrl
        (urlText (schemeText request.scheme) authority request.pathWithQuery) = false)

theorem appendHeaders_eq (platform : Platform) (headers : Fields) :
    appendHeaders platform headers =
      if headers.all fun header => platform.acceptsHeader header.1 header.2 then .ok ()
      else .error .headerRefused := by
  induction headers with
  | nil => rfl
  | cons header rest ih =>
      obtain ⟨name, value⟩ := header
      rw [appendHeaders, ih, List.all_cons]
      cases platform.acceptsHeader name value with
      | false => rfl
      | true => rfl

theorem Request.assemble_spec (platform : Platform) (policy : AllowRequest) (request : Request) :
    match request.assemble platform policy with
    | .ok _ => ¬request.Unsendable platform policy
    | .error exit => exit.settles = none ↔ request.Unsendable platform policy := by
  by_cases scheme : schemeText request.scheme ≠ "http" ∧ schemeText request.scheme ≠ "https"
  · have refused : request.assemble platform policy = .error .unsupportedScheme := by
      simp [Request.assemble, scheme]
      rfl
    simp [refused, SendExit.settles, Request.Unsendable, scheme]
  · cases named : request.authority with
    | none =>
        have refused : request.assemble platform policy = .error .noAuthority := by
          simp only [Request.assemble, scheme, named]
          rfl
        simp [refused, SendExit.settles, Request.Unsendable, named]
    | some authority =>
        have headers := appendHeaders_eq platform request.headers
        cases accepted : request.headers.all fun header => platform.acceptsHeader header.1 header.2 with
        | false =>
            rw [accepted] at headers
            have refused : request.assemble platform policy = .error .headerRefused := by
              simp only [Request.assemble, scheme, named, headers]
              rfl
            simp only [refused, SendExit.settles, true_iff]
            simp only [List.all_eq_false, Bool.not_eq_true] at accepted
            exact .inr (.inr (.inl accepted))
        | true =>
            rw [accepted] at headers
            have kept : ¬∃ header ∈ request.headers,
                platform.acceptsHeader header.1 header.2 = false := by
              intro refused
              obtain ⟨header, member, rejected⟩ := refused
              have taken := List.all_eq_true.mp accepted header member
              simp [rejected] at taken
            have unsendable : request.Unsendable platform policy ↔ policy = .callback ∧
                platform.parsesUrl
                  (urlText (schemeText request.scheme) authority request.pathWithQuery) = false := by
              simp [Request.Unsendable, scheme, named, kept]
            rw [unsendable]
            cases policy with
            | unset => simp [Request.assemble, scheme, named, headers]
            | always => simp [Request.assemble, scheme, named, headers]
            | never =>
                simp only [Request.assemble, scheme, named, headers]
                exact iff_of_false nofun nofun
            | callback =>
                cases parsed : platform.parsesUrl
                  (urlText (schemeText request.scheme) authority request.pathWithQuery) with
                | false =>
                    simp only [Request.assemble, scheme, named, headers, parsed]
                    exact iff_of_true rfl (by simp)
                | true => simp [Request.assemble, scheme, named, headers, parsed]

namespace RequestState

variable {platform : Platform} {policy : AllowRequest} {request : Request}

/-- A step at which `send` ends and leaves the transmission future pending. -/
def Forgets (platform : Platform) (policy : AllowRequest) (request : Request) (action : Action)
    (state : RequestState) : Prop :=
  state.transmission = none ∧
    match action with
    | .send =>
        state.sent = false ∧ state.consumed = false ∧ request.Unsendable platform policy
    | .contentsDrained succeeds => state.stage = some .contents ∧ succeeds = false
    | .trailersResolved result => state.stage = some .trailers ∧ result = none
    | .transported failure => state.stage = some .transport ∧ failure = some .unprintable
    | _ => False

/-- What holds between the steps of a run. -/
structure Sound (state : RequestState) : Prop where
  staged : state.stage ≠ none → state.sent = true
  pending : state.consumerPending = true → state.consumed = true
  left : state.leftPending = true →
    state.sent = true ∧ state.stage = none ∧ (state.transmission = none ∨ state.consumed = true)
  answered : state.sent = true → state.stage = none → state.leftPending = false →
    state.transmission ≠ none
  consumed : state.consumed = true → state.consumerPending = false → state.transmission ≠ none
  disposed : state.disposed = true → state.sent = true ∨ state.consumed = true ∨
    state.transmission ≠ none
  accepted : state.transmission = some .ok →
    state.transportAccepted = true ∨ state.consumerAccepted = true

theorem new_sound : new.Sound := by
  constructor <;> simp [new]

theorem Sound.leave {state : RequestState} (sound : state.Sound)
    (fresh : state.leftPending = false) (exit : SendExit)
    (accepts : exit.settles = some .ok → state.transportAccepted = true) :
    ({ state with sent := true }.leave exit).Sound where
  staged := by simp [RequestState.leave]
  pending := sound.pending
  left := by
    intro left
    refine ⟨rfl, rfl, .inl ?_⟩
    simpa [RequestState.leave, fresh] using left
  answered := by
    intro _ _ kept missing
    simp [RequestState.leave, fresh] at kept missing
    simp [missing] at kept
  consumed := by
    intro consumed reported
    have settled := sound.consumed consumed reported
    unfold RequestState.leave
    cases exit.settles <;> simp [settled]
  disposed := fun _ => .inl rfl
  accepted := by
    intro ok
    cases result : exit.settles with
    | none =>
        simp only [RequestState.leave, result] at ok
        exact sound.accepted ok
    | some outcome =>
        simp only [RequestState.leave, result] at ok
        cases settled : state.transmission with
        | none =>
            simp only [settled, Option.getD_none] at ok
            exact .inl (accepts (result.trans ok))
        | some earlier =>
            simp only [settled, Option.getD_some] at ok
            exact sound.accepted (settled.trans ok)

theorem Sound.waiting {state : RequestState} (sound : state.Sound) {stage : SendStage}
    (staged : state.stage = some stage) : state.sent = true ∧ state.leftPending = false := by
  constructor
  · exact sound.staged (by simp [staged])
  · cases left : state.leftPending with
    | false => rfl
    | true =>
        have ended := (sound.left left).2.1
        simp [staged] at ended

theorem Sound.leave_waiting {state : RequestState} (sound : state.Sound) {stage : SendStage}
    (staged : state.stage = some stage) (exit : SendExit) (fails : exit.settles ≠ some .ok) :
    (state.leave exit).Sound := by
  obtain ⟨sent, fresh⟩ := sound.waiting staged
  have same : { state with sent := true } = state := by rw [← sent]
  have left := sound.leave fresh exit fun ok => absurd ok fails
  rwa [same] at left

theorem Sound.advance {state : RequestState} (sound : state.Sound)
    (fresh : state.leftPending = false) (stage : SendStage) :
    ({ state with sent := true, stage := some stage } : RequestState).Sound where
  staged _ := rfl
  pending := sound.pending
  left := by simp [fresh]
  answered := nofun
  consumed := sound.consumed
  disposed _ := .inl rfl
  accepted := sound.accepted

theorem Sound.advance_waiting {state : RequestState} (sound : state.Sound) {stage : SendStage}
    (staged : state.stage = some stage) (next : SendStage) :
    ({ state with stage := some next } : RequestState).Sound := by
  obtain ⟨sent, fresh⟩ := sound.waiting staged
  have same : ({ state with sent := true, stage := some next } : RequestState) =
      { state with stage := some next } := by rw [← sent]
  exact same ▸ sound.advance fresh next

theorem assemble_fails (platform : Platform) (policy : AllowRequest) (request : Request) :
    Fallible.Satisfies (fun exit => exit.settles ≠ some .ok) (request.assemble platform policy)
      fun _ => True := by
  have headers : Fallible.Satisfies (fun exit => exit.settles ≠ some .ok)
      (appendHeaders platform request.headers) fun _ => True := by
    rw [appendHeaders_eq]
    split
    · trivial
    · simp [SendExit.settles]
  simp only [Request.assemble, Fallible.satisfies_bind, Fallible.satisfies_ite,
    Fallible.satisfies_throw]
  constructor
  · simp [SendExit.settles]
  · intro _
    cases request.authority with
    | none => simp [SendExit.settles]
    | some authority =>
        simp only [Fallible.satisfies_bind]
        apply headers.imp
        intro _ _
        cases policy with
        | unset => trivial
        | always => trivial
        | never => simp [SendExit.settles]
        | callback =>
            simp only [Fallible.satisfies_ite, Fallible.satisfies_throw]
            exact ⟨fun _ => trivial, fun _ => by simp [SendExit.settles]⟩

theorem settle_ok {state : RequestState} {result : HttpResult}
    (ok : (state.settleTransmission result).transmission = some .ok) :
    state.transmission = some .ok ∨ result = .ok := by
  cases settled : state.transmission with
  | none =>
      simp only [settleTransmission, settled, Option.getD_none, Option.some.injEq] at ok
      exact .inr ok
  | some earlier =>
      simp only [settleTransmission, settled, Option.getD_some] at ok
      exact .inl ok

theorem step_sound (action : Action) (state : RequestState) (sound : state.Sound) :
    (step platform policy request action state).Sound := by
  cases action with
  | send =>
      simp only [step, send]
      cases used : state.sent || state.consumed with
      | true => exact sound
      | false =>
          have unsent : state.sent = false := (Bool.or_eq_false_iff.mp used).1
          have fresh : state.leftPending = false := by
            cases left : state.leftPending with
            | false => rfl
            | true => simp [(sound.left left).1] at unsent
          have fails := assemble_fails platform policy request
          cases assembled : request.assemble platform policy with
          | ok stage => exact sound.advance fresh stage
          | error exit =>
              exact sound.leave fresh exit fun ok => absurd ok (fails.of_error assembled)
  | policyDecided allows =>
      simp only [step, policyDecided]
      by_cases staged : state.stage = some .policy
      · rw [staged]
        cases allows with
        | none => exact sound.leave_waiting staged .denied nofun
        | some allowed =>
            cases allowed with
            | true => exact sound.advance_waiting staged request.allowed
            | false => exact sound.leave_waiting staged .denied nofun
      · split
        · contradiction
        · contradiction
        · exact sound
  | contentsDrained succeeds =>
      simp only [step, contentsDrained]
      by_cases staged : state.stage = some .contents
      · rw [if_pos staged]
        cases succeeds with
        | true => exact sound.advance_waiting staged .trailers
        | false => exact sound.leave_waiting staged .contentsFailed nofun
      · rw [if_neg staged]
        exact sound
  | trailersResolved result =>
      simp only [step, trailersResolved]
      by_cases staged : state.stage = some .trailers
      · rw [if_pos staged]
        cases result with
        | none => exact sound.leave_waiting staged .trailersRejected nofun
        | some resolved =>
            cases resolved with
            | err value => exact sound.leave_waiting staged (.trailersFailed value) nofun
            | ok fields =>
                cases fields with
                | none => exact sound.advance_waiting staged .transport
                | some fields => exact sound.leave_waiting staged .trailersPresent nofun
      · rw [if_neg staged]
        exact sound
  | transported failure =>
      simp only [step, transported]
      by_cases staged : state.stage = some .transport
      · rw [if_pos staged]
        cases failure with
        | none =>
            have answered : ({ state with transportAccepted := true } : RequestState).Sound :=
              { sound with accepted := fun _ => .inl rfl }
            obtain ⟨sent, fresh⟩ := sound.waiting staged
            have same : ({ state with transportAccepted := true, sent := true } : RequestState) =
                { state with transportAccepted := true } := by rw [← sent]
            exact same ▸ answered.leave fresh .responded fun _ => rfl
        | some failure =>
            cases failure with
            | unprintable => exact sound.leave_waiting staged .transportUnprintable nofun
            | component payload => exact sound.leave_waiting staged (.transportFailed payload) nofun
            | timedOut => exact sound.leave_waiting staged (.transportFailed _) nofun
            | error parts => exact sound.leave_waiting staged (.transportFailed _) nofun
            | value text => exact sound.leave_waiting staged (.transportFailed _) nofun
      · rw [if_neg staged]
        exact sound
  | consumeBody =>
      simp only [step, consumeBody]
      cases consumed : state.consumed with
      | true => exact sound
      | false =>
          exact
            { staged := sound.staged
              pending := fun _ => rfl
              left := by
                intro left
                obtain ⟨sent, ended, _⟩ := sound.left left
                exact ⟨sent, ended, .inr rfl⟩
              answered := sound.answered
              consumed := nofun
              disposed := fun _ => .inr (.inl rfl)
              accepted := sound.accepted }
  | consumerReported result =>
      simp only [step, consumerReported]
      cases pending : state.consumerPending with
      | false => simpa [pending] using sound
      | true =>
          have consumed := sound.pending pending
          exact
            { staged := sound.staged
              pending := nofun
              left := by
                intro left
                obtain ⟨sent, ended, _⟩ := sound.left left
                exact ⟨sent, ended, .inr consumed⟩
              answered := by simp [settleTransmission]
              consumed := by simp [settleTransmission]
              disposed := fun _ => .inr (.inl consumed)
              accepted := by
                intro ok
                cases settle_ok ok with
                | inl earlier =>
                    cases sound.accepted earlier with
                    | inl transport => exact .inl transport
                    | inr consumer => exact .inr (by simp [settleTransmission, consumer])
                | inr reported => exact .inr (by simp [settleTransmission, reported]) }
  | dispose =>
      simp only [step, dispose]
      cases used : state.sent || state.consumed with
      | true =>
          have known : state.sent = true ∨ state.consumed = true := Bool.or_eq_true_iff.mp used
          exact { sound with disposed := fun _ => known.imp_right .inl }
      | false =>
          exact
            { staged := sound.staged
              pending := sound.pending
              left := by
                intro left
                simp [(sound.left left).1] at used
              answered := by simp [settleTransmission]
              consumed := by simp [settleTransmission]
              disposed := by simp [settleTransmission]
              accepted := by
                intro ok
                cases settle_ok ok with
                | inl earlier => exact sound.accepted earlier
                | inr reported => cases reported }

theorem leave_leftPending {state : RequestState} (fresh : state.leftPending = false)
    (exit : SendExit) :
    (state.leave exit).leftPending = false ↔
      ¬(state.transmission = none ∧ exit.settles = none) := by
  cases result : exit.settles <;> cases settled : state.transmission <;>
    simp [RequestState.leave, fresh, result, settled]

theorem step_leftPending (action : Action) (state : RequestState)
    (fresh : state.leftPending = false) :
    (step platform policy request action state).leftPending = false ↔
      ¬Forgets platform policy request action state := by
  cases action with
  | send =>
      have assembled := request.assemble_spec platform policy
      cases used : state.sent || state.consumed with
      | true =>
          have known := Bool.or_eq_true_iff.mp used
          have kept : ¬Forgets platform policy request .send state := by
            intro forgets
            cases known with
            | inl sent => simp [forgets.2.1] at sent
            | inr consumed => simp [forgets.2.2.1] at consumed
          simp [step, send, used, fresh, kept]
      | false =>
          obtain ⟨unsent, unconsumed⟩ := Bool.or_eq_false_iff.mp used
          simp only [step, send, Forgets, unsent, unconsumed, true_and]
          cases result : request.assemble platform policy with
          | ok stage =>
              rw [result] at assembled
              simp [fresh, assembled]
          | error exit =>
              rw [result] at assembled
              exact (leave_leftPending fresh exit).trans
                (not_congr (and_congr_right fun _ => assembled))
  | policyDecided allows =>
      have kept : ¬Forgets platform policy request (.policyDecided allows) state := fun forgets =>
        forgets.2
      simp only [step, policyDecided, kept, not_false_eq_true, iff_true]
      split
      · exact fresh
      · exact (leave_leftPending fresh .denied).mpr nofun
      · exact fresh
  | contentsDrained succeeds =>
      simp only [step, contentsDrained, Forgets]
      by_cases staged : state.stage = some .contents
      · rw [if_pos staged]
        cases succeeds with
        | true => simp [fresh]
        | false =>
            have left := leave_leftPending fresh .contentsFailed
            simpa [staged, SendExit.settles] using left
      · simp [staged, fresh]
  | trailersResolved result =>
      simp only [step, trailersResolved, Forgets]
      by_cases staged : state.stage = some .trailers
      · rw [if_pos staged]
        cases result with
        | none =>
            have left := leave_leftPending fresh .trailersRejected
            simpa [staged, SendExit.settles] using left
        | some resolved =>
            cases resolved with
            | err value =>
                have left := leave_leftPending fresh (.trailersFailed value)
                simpa [SendExit.settles] using left
            | ok fields =>
                cases fields with
                | none => simp [fresh]
                | some fields =>
                    have left := leave_leftPending fresh .trailersPresent
                    simpa [SendExit.settles] using left
      · simp [staged, fresh]
  | transported failure =>
      simp only [step, transported, Forgets]
      by_cases staged : state.stage = some .transport
      · rw [if_pos staged]
        cases failure with
        | none =>
            have answered : ({ state with transportAccepted := true } : RequestState).leftPending =
                false := fresh
            simpa [SendExit.settles] using leave_leftPending answered .responded
        | some failure =>
            cases failure with
            | unprintable =>
                have left := leave_leftPending fresh .transportUnprintable
                simpa [staged, SendExit.settles] using left
            | component payload =>
                simpa [SendExit.settles] using leave_leftPending fresh (.transportFailed payload)
            | timedOut =>
                simpa [SendExit.settles] using leave_leftPending fresh (.transportFailed _)
            | error parts =>
                simpa [SendExit.settles] using leave_leftPending fresh (.transportFailed _)
            | value text =>
                simpa [SendExit.settles] using leave_leftPending fresh (.transportFailed _)
      · simp [staged, fresh]
  | consumeBody =>
      simp only [step, consumeBody, Forgets, and_false, not_false_eq_true, iff_true]
      split
      · exact fresh
      · exact fresh
  | consumerReported result =>
      simp only [step, consumerReported, Forgets, and_false, not_false_eq_true, iff_true]
      split
      · exact fresh
      · exact fresh
  | dispose =>
      simp only [step, dispose, Forgets, and_false, not_false_eq_true, iff_true]
      split
      · exact fresh
      · exact fresh

theorem step_keeps_leftPending (action : Action) (state : RequestState) (sound : state.Sound)
    (left : state.leftPending = true) :
    (step platform policy request action state).leftPending = true := by
  obtain ⟨sent, ended, _⟩ := sound.left left
  cases action with
  | send => simpa [step, send, sent] using left
  | policyDecided allows => simpa [step, policyDecided, ended] using left
  | contentsDrained succeeds => simpa [step, contentsDrained, ended] using left
  | trailersResolved result => simpa [step, trailersResolved, ended] using left
  | transported failure => simpa [step, transported, ended] using left
  | consumeBody =>
      simp only [step, consumeBody]
      split
      · exact left
      · exact left
  | consumerReported result =>
      simp only [step, consumerReported]
      split
      · exact left
      · exact left
  | dispose => simpa [step, dispose, sent] using left

theorem leave_transmission {state : RequestState} {result : HttpResult}
    (settled : state.transmission = some result) (exit : SendExit) :
    (state.leave exit).transmission = some result := by
  cases outcome : exit.settles <;> simp [RequestState.leave, outcome, settled]

theorem step_transmission (action : Action) (state : RequestState) {result : HttpResult}
    (settled : state.transmission = some result) :
    (step platform policy request action state).transmission = some result := by
  cases action with
  | send =>
      simp only [step, send]
      split
      · exact settled
      · split
        · exact settled
        · exact leave_transmission settled _
  | policyDecided allows =>
      simp only [step, policyDecided]
      split
      · exact settled
      · exact leave_transmission settled _
      · exact settled
  | contentsDrained succeeds =>
      simp only [step, contentsDrained]
      split
      · split
        · exact settled
        · exact leave_transmission settled _
      · exact settled
  | trailersResolved outcome =>
      simp only [step, trailersResolved]
      split
      · split
        · exact leave_transmission settled _
        · exact leave_transmission settled _
        · exact leave_transmission settled _
        · exact settled
      · exact settled
  | transported failure =>
      have answered : ({ state with transportAccepted := true } : RequestState).transmission =
          some result := settled
      simp only [step, transported]
      split
      · split
        · exact leave_transmission answered _
        · exact leave_transmission settled _
        · exact leave_transmission settled _
        · exact leave_transmission settled _
        · exact leave_transmission settled _
        · exact leave_transmission settled _
      · exact settled
  | consumeBody =>
      simp only [step, consumeBody]
      split
      · exact settled
      · exact settled
  | consumerReported outcome =>
      simp only [step, consumerReported]
      split
      · simp [settleTransmission, settled]
      · exact settled
  | dispose =>
      simp only [step, dispose]
      split
      · exact settled
      · simp [settleTransmission, settled]

theorem step_consumed (action : Action) (state : RequestState) :
    (step platform policy request action state).consumed = true ↔
      action = .consumeBody ∨ state.consumed = true := by
  cases action with
  | send =>
      simp only [step, send, reduceCtorEq, false_or]
      split
      · rfl
      · split
        · rfl
        · rfl
  | policyDecided allows =>
      simp only [step, policyDecided, reduceCtorEq, false_or]
      split <;> rfl
  | contentsDrained succeeds =>
      simp only [step, contentsDrained, reduceCtorEq, false_or]
      split
      · split <;> rfl
      · rfl
  | trailersResolved outcome =>
      simp only [step, trailersResolved, reduceCtorEq, false_or]
      split
      · split <;> rfl
      · rfl
  | transported failure =>
      simp only [step, transported, reduceCtorEq, false_or]
      split
      · split <;> rfl
      · rfl
  | consumeBody =>
      simp only [step, consumeBody, true_or, iff_true]
      split
      · assumption
      · rfl
  | consumerReported outcome =>
      simp only [step, consumerReported, reduceCtorEq, false_or]
      split <;> rfl
  | dispose =>
      simp only [step, dispose, reduceCtorEq, false_or]
      split <;> rfl

theorem runAll_consumed (actions : List Action) (state : RequestState) :
    (Transition.runAll (step platform policy request) actions state).consumed = true ↔
      .consumeBody ∈ actions ∨ state.consumed = true := by
  induction actions generalizing state with
  | nil => simp [Transition.runAll]
  | cons action actions ih =>
      have tail := ih (step platform policy request action state)
      rw [step_consumed] at tail
      rw [List.mem_cons, or_assoc, or_left_comm, @eq_comm _ Action.consumeBody action]
      exact tail

/-! ## Settlement -/

/-- `send` has returned or thrown, and so has the consumer of the body, if there is one. -/
def Ended (state : RequestState) : Prop := state.stage = none ∧ state.consumerPending = false

/-- The future has a result, which no later step changes, and it is `ok` only if the transport, or a
consumer of the body, accepted the request. -/
def Settled (platform : Platform) (policy : AllowRequest) (request : Request)
    (state : RequestState) : Prop :=
  ∃ result, (∀ later, (Transition.runAll (step platform policy request) later state).transmission =
      some result) ∧
    (result = .ok → state.transportAccepted = true ∨ state.consumerAccepted = true)

theorem runAll_sound (platform : Platform) (policy : AllowRequest) (request : Request)
    (actions : List Action) :
    (Transition.runAll (step platform policy request) actions new).Sound :=
  Transition.runAll_invariant step_sound actions new_sound

theorem settled_iff {state : RequestState} (sound : state.Sound) :
    Settled platform policy request state ↔ state.transmission ≠ none := by
  constructor
  · intro settled missing
    obtain ⟨result, stays, _⟩ := settled
    have now := stays []
    simp [Transition.runAll, missing] at now
  · intro present
    obtain ⟨result, settled⟩ := Option.ne_none_iff_exists'.mp present
    refine ⟨result, ?_, ?_⟩
    · intro later
      exact Transition.runAll_invariant (fun action state => step_transmission action state) later
        settled
    · intro ok
      exact sound.accepted (ok ▸ settled)

/-- The transmission future of a request that was sent or disposed is settled at the end of exactly
the runs that consume the body or in which `send` does not forget the future. -/
theorem transmission_settled_iff (platform : Platform) (policy : AllowRequest) (request : Request)
    (actions : List Action) {reached : RequestState}
    (ran : Transition.runAll (step platform policy request) actions new = reached)
    (ended : reached.Ended) (used : reached.sent = true ∨ reached.disposed = true) :
    Settled platform policy request reached ↔
      .consumeBody ∈ actions ∨
        Transition.Throughout (step platform policy request)
          (fun action state => ¬Forgets platform policy request action state) actions new := by
  subst ran
  have sound := runAll_sound platform policy request actions
  have consumed := @runAll_consumed platform policy request actions new
  have kept : (Transition.runAll (step platform policy request) actions new).leftPending = false ↔
      Transition.Throughout (step platform policy request)
        (fun action state => ¬Forgets platform policy request action state) actions new := by
    apply @Transition.runAll_iff_throughout _ _ _ _ Sound fun state => state.leftPending = false
    · exact step_sound
    · intro action state _ fresh
      exact step_leftPending action state fresh
    · intro action state sound next
      cases left : state.leftPending with
      | false => rfl
      | true =>
          have stays := @step_keeps_leftPending platform policy request action state sound left
          simp [next] at stays
    · exact new_sound
    · rfl
  rw [settled_iff sound, ← kept]
  obtain ⟨idle, reported⟩ := ended
  constructor
  · intro settled
    cases left : (Transition.runAll (step platform policy request) actions new).leftPending with
    | false => exact .inr rfl
    | true =>
        obtain ⟨_, _, pending⟩ := sound.left left
        cases pending with
        | inl missing => exact absurd missing settled
        | inr taken => exact .inl ((consumed.mp taken).resolve_right nofun)
  · intro condition
    cases condition with
    | inl taken => exact sound.consumed (consumed.mpr (.inl taken)) reported
    | inr fresh =>
        cases used with
        | inl sent => exact sound.answered sent idle fresh
        | inr disposed =>
            cases sound.disposed disposed with
            | inl sent => exact sound.answered sent idle fresh
            | inr other =>
                cases other with
                | inl taken => exact sound.consumed taken reported
                | inr settled => exact settled

/-- A platform that takes everything. -/
def lenientPlatform : Platform where
  acceptsHeader _ _ := true
  parsesUrl _ := true

def exampleRequest (authority : Option String) : Request where
  scheme := some .HTTPS
  authority
  pathWithQuery := some "/"
  headers := []
  hasContents := false

theorem transmission_settled_response :
    Settled lenientPlatform .unset (exampleRequest (some "example.org"))
      (Transition.runAll (step lenientPlatform .unset (exampleRequest (some "example.org")))
        [.send, .trailersResolved (some (.ok none)), .transported none] new) :=
  (transmission_settled_iff lenientPlatform .unset (exampleRequest (some "example.org")) _ rfl
    ⟨by decide, by decide⟩ (.inl (by decide))).mpr (.inr (by
      simp [Transition.Throughout, Forgets, Request.Unsendable, exampleRequest, schemeText,
        lenientPlatform]))

/-- A request without an authority: `send` throws, disposal does nothing, and nothing settles. -/
theorem noAuthority_forgotten :
    ∃ reached, Transition.runAll (step lenientPlatform .unset (exampleRequest none))
        [.send, .dispose] new = reached ∧
      reached.Ended ∧ reached.sent = true ∧ reached.disposed = true ∧
      ¬Settled lenientPlatform .unset (exampleRequest none) reached := by
  refine ⟨_, rfl, ⟨by decide, by decide⟩, by decide, by decide, ?_⟩
  intro settled
  obtain ⟨result, stays, _⟩ := settled
  have missing : (Transition.runAll (step lenientPlatform .unset (exampleRequest none))
      [.send, .dispose] new).transmission = none := by decide
  exact absurd (missing.symm.trans (stays [])) nofun

end RequestState

end Polyengine.Wasi.Http
