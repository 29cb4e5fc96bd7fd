import LiveAISIP.Library.Effect
import LiveAISIP.Library.Run
import Mathlib.Algebra.Group.Nat.Defs

/-!
# Offer and answer

The arbiter of `sip/sdp/offer_answer.rs`: at most one negotiation is in flight,
and a token of its generation and origin is needed to answer or abort it.  A
token is good for the negotiation it was issued for and for no later one.
-/

namespace LiveAISIP
namespace Sip
namespace Sdp

/-- Offer and answer ownership. -/
inductive OfferAnswerState
  | stable
  | localOfferPending
  | remoteOfferPending
  deriving DecidableEq

/-- The party that made the offer. -/
inductive OfferOrigin
  | local_
  | remote
  deriving DecidableEq

/-- The state in which an offer waits for its answer. -/
def OfferOrigin.pendingState : OfferOrigin → OfferAnswerState
  | local_ => .localOfferPending
  | remote => .remoteOfferPending

/-- The capability of one negotiation.  Tokens are made by the arbiter only,
which leaves room for the generation after them. -/
structure OfferToken where
  generation : Nat
  origin : OfferOrigin
  succ_lt : generation + 1 < 2 ^ 64

/-- Why an offer or answer is refused. -/
inductive OfferAnswerError
  | glare
  | staleToken
  | wrongOfferOrigin
  | generationExhausted

/-- The offer and answer arbiter of a dialog. -/
structure OfferAnswer where
  state : OfferAnswerState
  generation : Nat
  completed : Nat

namespace OfferAnswer

variable {offers : OfferAnswer} {token : OfferToken}

/-- The stable arbiter. -/
def new : OfferAnswer := ⟨.stable, 1, 0⟩

/-- Begin an offer. -/
def beginOffer (origin : OfferOrigin) :
    Effect OfferAnswer OfferAnswerError OfferToken := fun offers =>
  if offers.state ≠ .stable then (offers, .error .glare)
  else if room : offers.generation + 1 < 2 ^ 64 then
    ({ offers with
        generation := offers.generation + 1
        state := origin.pendingState }, .ok ⟨offers.generation, origin, room⟩)
  else (offers, .error .generationExhausted)

/-- Begin a local offer. -/
def beginLocalOffer : Effect OfferAnswer OfferAnswerError OfferToken := beginOffer .local_

/-- Begin a remote offer. -/
def beginRemoteOffer : Effect OfferAnswer OfferAnswerError OfferToken := beginOffer .remote

/-- The token is the one of the negotiation in flight. -/
def validateToken (offers : OfferAnswer) (token : OfferToken) : Except OfferAnswerError Unit :=
  if offers.state ≠ token.origin.pendingState ∨
      min (token.generation + 1) (2 ^ 64 - 1) ≠ offers.generation then
    .error .staleToken
  else .ok ()

/-- End a negotiation with its answer. -/
def complete (token : OfferToken) (expected : OfferOrigin) :
    Effect OfferAnswer OfferAnswerError Unit := fun offers =>
  match offers.validateToken token with
  | .error error => (offers, .error error)
  | .ok () =>
    if token.origin ≠ expected then (offers, .error .wrongOfferOrigin)
    else
      ({ offers with
          state := .stable
          completed := min (offers.completed + 1) (2 ^ 64 - 1) }, .ok ())

/-- End the negotiation of a local offer. -/
def applyRemoteAnswer (token : OfferToken) : Effect OfferAnswer OfferAnswerError Unit :=
  complete token .local_

/-- End the negotiation of a remote offer. -/
def applyLocalAnswer (token : OfferToken) : Effect OfferAnswer OfferAnswerError Unit :=
  complete token .remote

/-- Abort a negotiation. -/
def abort (token : OfferToken) : Effect OfferAnswer OfferAnswerError Unit := fun offers =>
  match offers.validateToken token with
  | .error error => (offers, .error error)
  | .ok () => ({ offers with state := .stable }, .ok ())

/-- The token belongs to the negotiation in flight. -/
def Pending (offers : OfferAnswer) (token : OfferToken) : Prop :=
  offers.state = token.origin.pendingState ∧ offers.generation = token.generation + 1

/-- Exactly the token of the negotiation in flight is valid. -/
theorem validateToken_eq (offers : OfferAnswer) (token : OfferToken) :
    (offers.validateToken token = .ok () ∧ offers.Pending token) ∨
      (offers.validateToken token = .error .staleToken ∧ ¬offers.Pending token) := by
  have small := token.succ_lt
  have exact : min (token.generation + 1) (2 ^ 64 - 1) = token.generation + 1 := by
    omega
  rw [validateToken, exact, Pending]
  by_cases state : offers.state = token.origin.pendingState
  · by_cases generation : token.generation + 1 = offers.generation
    · left
      simp [state, generation]
    · right
      simp [state, generation, Ne.symm generation]
  · right
    simp [state]

/-- An answer is refused, or it ends the negotiation in flight. -/
theorem complete_cases
    (offers : OfferAnswer) (token : OfferToken) (expected : OfferOrigin) :
    (∃ error, offers.complete token expected = (offers, .error error)) ∨
      (offers.Pending token ∧ token.origin = expected ∧ offers.complete token expected =
          ({ offers with
              state := .stable
              completed := min (offers.completed + 1) (2 ^ 64 - 1) }, .ok ())) := by
  rw [complete]
  rcases validateToken_eq offers token with ⟨valid, pending⟩ | ⟨stale, -⟩
  · rw [valid]
    by_cases origin : token.origin = expected
    · exact .inr ⟨pending, origin, by simp [origin]⟩
    · exact .inl ⟨.wrongOfferOrigin, by simp [origin]⟩
  · rw [stale]
    exact .inl ⟨.staleToken, rfl⟩

/-- The operations of the arbiter. -/
inductive Operation
  | beginOffer (origin : OfferOrigin)
  | complete (token : OfferToken) (expected : OfferOrigin)
  | abort (token : OfferToken)

variable {operation : Operation}

/-- The token presented to an operation. -/
def Operation.presented : Operation → Option OfferToken
  | beginOffer _ => none
  | complete token _ => some token
  | abort token => some token

/-- One operation; only the beginning of an offer returns a token. -/
def step (offers : OfferAnswer) :
    Operation → OfferAnswer × Except OfferAnswerError (Option OfferToken)
  | .beginOffer origin =>
    ((offers.beginOffer origin).1, (offers.beginOffer origin).2.map some)
  | .complete token expected =>
    ((offers.complete token expected).1, (offers.complete token expected).2.map fun _ => none)
  | .abort token => ((offers.abort token).1, (offers.abort token).2.map fun _ => none)

/-- What an operation does: it is refused and changes nothing, it begins an
offer from the stable state, or it ends the negotiation in flight. -/
theorem step_cases (offers : OfferAnswer) (operation : Operation) :
    ((step offers operation).1 = offers ∧ ∃ error, (step offers operation).2 = .error error) ∨
      (∃ token, operation = .beginOffer token.origin ∧ offers.state = .stable ∧
        token.generation = offers.generation ∧
        step offers operation =
          ({ offers with
              generation := offers.generation + 1
              state := token.origin.pendingState }, .ok (some token))) ∨
      ∃ token, operation.presented = some token ∧ offers.Pending token ∧
        (step offers operation).1.state = .stable ∧
        (step offers operation).1.generation = offers.generation ∧
        (step offers operation).2 = .ok none := by
  cases operation with
  | beginOffer origin =>
    by_cases stable : offers.state = .stable
    · by_cases room : offers.generation + 1 < 2 ^ 64
      · right
        left
        refine ⟨⟨offers.generation, origin, room⟩, rfl, stable, rfl, ?_⟩
        simp only [step, OfferAnswer.beginOffer, stable, ne_eq, not_true, if_false, dif_pos room]
        rfl
      · left
        simp only [step, OfferAnswer.beginOffer, stable, ne_eq, not_true, if_false, dif_neg room]
        exact ⟨trivial, .generationExhausted, rfl⟩
    · left
      simp only [step, OfferAnswer.beginOffer, ne_eq, stable, not_false_eq_true, if_true]
      exact ⟨trivial, .glare, rfl⟩
  | complete token expected =>
    rcases complete_cases offers token expected with
      ⟨error, refused⟩ | ⟨pending, -, completed⟩
    · left
      simp [step, refused, Except.map]
    · right
      right
      refine ⟨token, rfl, pending, ?_⟩
      simp [step, completed, Except.map]
  | abort token =>
    rcases validateToken_eq offers token with ⟨valid, pending⟩ | ⟨stale, -⟩
    · right
      right
      refine ⟨token, rfl, pending, ?_⟩
      simp [step, OfferAnswer.abort, valid, Except.map]
    · left
      simp [step, OfferAnswer.abort, stale, Except.map]

/-- The negotiation of a token is over. -/
def Retired (offers : OfferAnswer) (token : OfferToken) : Prop :=
  token.generation < offers.generation ∧ ¬offers.Pending token

/-- A stable arbiter has no negotiation in flight. -/
theorem not_pending_of_stable (stable : offers.state = .stable) (token : OfferToken) :
    ¬offers.Pending token := by
  rintro ⟨state, -⟩
  rw [stable] at state
  cases origin : token.origin <;> rw [origin] at state <;> cases state

/-- A negotiation that is over stays over. -/
theorem Retired.step (retired : offers.Retired token)
    (operation : Operation) :
    (step offers operation).1.Retired token := by
  rcases step_cases offers operation with
    ⟨unchanged, -⟩ | ⟨other, -, -, -, began⟩ | ⟨other, -, -, stable, generation, -⟩
  · rwa [unchanged]
  · have earlier := retired.1
    rw [began]
    constructor
    · show token.generation < offers.generation + 1
      omega
    · rintro ⟨-, same⟩
      have : offers.generation + 1 = token.generation + 1 := same
      omega
  · exact ⟨generation ▸ retired.1, not_pending_of_stable stable token⟩

/-- A negotiation in flight stays as it is or is over. -/
theorem Pending.step (pending : offers.Pending token)
    (operation : Operation) :
    (step offers operation).1 = offers ∨ (step offers operation).1.Retired token := by
  rcases step_cases offers operation with
    ⟨unchanged, -⟩ | ⟨other, -, stable, -⟩ | ⟨other, -, -, stable, generation, -⟩
  · exact .inl unchanged
  · exact absurd pending (not_pending_of_stable stable token)
  · right
    refine ⟨?_, not_pending_of_stable stable token⟩
    have := pending.2
    omega

/-- The token of a negotiation that is over is refused and changes nothing. -/
theorem Retired.refused
    (retired : offers.Retired token)
    (presented : operation.presented = some token) :
    OfferAnswer.step offers operation = (offers, .error .staleToken) := by
  rcases validateToken_eq offers token with ⟨-, pending⟩ | ⟨stale, -⟩
  · exact absurd pending retired.2
  · cases operation with
    | beginOffer origin => cases presented
    | complete other expected =>
      cases presented
      simp [OfferAnswer.step, complete, stale, Except.map]
    | abort other =>
      cases presented
      simp [OfferAnswer.step, abort, stale, Except.map]

/-- A token that is returned is that of the negotiation then in flight. -/
theorem pending_of_returned
    (returned : (step offers operation).2 = .ok (some token)) :
    (step offers operation).1.Pending token := by
  rcases step_cases offers operation with
    ⟨-, error, refused⟩ | ⟨other, -, -, generation, began⟩ | ⟨other, -, -, -, -, ended⟩
  · rw [refused] at returned
    cases returned
  · rw [began] at returned ⊢
    cases returned
    exact ⟨rfl, congrArg (· + 1) generation.symm⟩
  · rw [ended] at returned
    cases returned

/-- The operation ends the negotiation of a token: the token is accepted, or
another one is returned. -/
def Ends (token : OfferToken) (offers : OfferAnswer) (operation : Operation) : Prop :=
  (operation.presented = some token ∧ (step offers operation).2 = .ok none) ∨
    ∃ other, (step offers operation).2 = .ok (some other)

/-- After its negotiation was ended a token is retired. -/
theorem retired_of_ends
    (known : offers.Pending token ∨ offers.Retired token) (ends : Ends token offers operation) :
    (step offers operation).1.Retired token := by
  rcases step_cases offers operation with
    ⟨-, error, refused⟩ | ⟨other, -, stable, -⟩ | ⟨other, -, -, stable, generation, -⟩
  · simp [Ends, refused] at ends
  · rcases known with pending | retired
    · exact absurd pending (not_pending_of_stable stable token)
    · exact retired.step operation
  · refine ⟨?_, not_pending_of_stable stable token⟩
    rcases known with pending | retired
    · have := pending.2
      omega
    · exact generation ▸ retired.1

/-- A token that was returned belongs to the negotiation in flight or to one
that is over, after every further operation. -/
theorem pending_or_retired (pending : offers.Pending token)
    (operations : List Operation) :
    (Run.after step offers operations).Pending token ∨
      (Run.after step offers operations).Retired token := by
  refine Run.invariant (fun state : OfferAnswer => state.Pending token ∨ state.Retired token)
    (.inl pending) ?_ operations
  rintro state operation (pending | retired)
  · rcases pending.step operation with unchanged | retired
    · left
      rwa [unchanged]
    · exact .inr retired
  · exact .inr (retired.step operation)

/-- An arbiter that has left the state in which a token was returned has retired
that token. -/
theorem unchanged_or_retired (pending : offers.Pending token)
    (operation : Operation) {state : OfferAnswer} (known : state = offers ∨ state.Retired token) :
    (step state operation).1 = offers ∨ (step state operation).1.Retired token := by
  rcases known with rfl | retired
  · exact pending.step operation
  · exact .inr (retired.step operation)

/-- A token whose negotiation was answered, aborted or followed by another one
is refused ever after and changes nothing. -/
theorem ended_token_refused {issuing ending presenting : Operation}
    {between : List Operation} (issued : (step offers issuing).2 = .ok (some token))
    (ended : Ends token (Run.after step (step offers issuing).1 between) ending)
    (later : List Operation) (presented : presenting.presented = some token) :
    let endedAt := Run.after step (step offers issuing).1 between
    let state := Run.after step (step endedAt ending).1 later
    step state presenting = (state, .error .staleToken) := by
  have known := pending_or_retired (pending_of_returned issued) between
  have retired := retired_of_ends known ended
  have retiredLater := Run.invariant (fun state : OfferAnswer => state.Retired token)
    retired (fun state operation retired => retired.step operation) later
  exact retiredLater.refused presented

end OfferAnswer
end Sdp
end Sip
end LiveAISIP
