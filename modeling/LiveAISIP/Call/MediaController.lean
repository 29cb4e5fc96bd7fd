import LiveAISIP.Net.Address
import LiveAISIP.Sip.Sdp.Negotiation
import LiveAISIP.Sip.Sdp.OfferAnswer

/-!
# The media controller

The dialog-scoped owner of negotiated media of `call/media/controller.rs`.  Every
replacement of the active media takes a new generation, and the work queued for
a generation carries its token.
-/

namespace LiveAISIP
namespace Call

open Sip.Sdp
open OfferAnswer Run

/-- Lifecycle of the media workers. -/
inductive MediaLifecycle
  | active
  | draining
  | closed
  deriving DecidableEq

/-- The generation for which packet, timer or audio work was queued. -/
structure MediaWorkToken where
  generation : Nat
  deriving DecidableEq

/-- One generation of active media. -/
structure ActiveMedia where
  generation : Nat
  negotiated : NegotiatedMedia
  remoteRtp : SocketAddress
  deriving DecidableEq

/-- Why a media reconfiguration is refused. -/
inductive MediaControlError
  | offerAnswer (error : OfferAnswerError)
  | invalidRemoteEndpoint
  | securityDowngrade
  | generationExhausted
  | internalInvariant
  | notActive

/-- The media controller of a dialog. -/
structure MediaController where
  offers : OfferAnswer
  active : Option ActiveMedia
  nextGeneration : Nat
  requireSecure : Bool
  lifecycle : MediaLifecycle

namespace MediaController

variable {controller : MediaController} {media : ActiveMedia} {token : OfferToken}

/-- The controller without media. -/
def new (requireSecure : Bool) : MediaController where
  offers := .new
  active := none
  nextGeneration := 1
  requireSecure := requireSecure
  lifecycle := .active

/-- An operation of the offer and answer arbiter. -/
def onOffers (inner : Effect OfferAnswer OfferAnswerError α) :
    Effect MediaController MediaControlError α :=
  .mapError .offerAnswer <| .zoom MediaController.offers
      (fun offers controller => { controller with offers := offers }) inner

/-- Begin a local offer. -/
def beginLocalOffer : Effect MediaController MediaControlError OfferToken :=
  onOffers OfferAnswer.beginLocalOffer

/-- Begin a remote offer. -/
def beginRemoteOffer : Effect MediaController MediaControlError OfferToken :=
  onOffers OfferAnswer.beginRemoteOffer

/-- Check the endpoint and the profile of media. -/
def validateMedia (controller : MediaController)
    (media : NegotiatedMedia) (endpoint : SocketAddress) :
    Except MediaControlError Unit :=
  if endpoint.port = 0 ∨ endpoint.address.isUnspecified then .error .invalidRemoteEndpoint
  else if controller.requireSecure ∧ ¬media.protocol.isSecure then .error .securityDowngrade
  else .ok ()

/-- The media in force is the given one. -/
def isActiveMedia (controller : MediaController)
    (negotiated : NegotiatedMedia) (remoteRtp : SocketAddress) : Bool :=
  controller.active.any fun active =>
    active.negotiated.same negotiated && active.remoteRtp == remoteRtp

/-- Put media in force, unless it is already. -/
def replace (negotiated : NegotiatedMedia) (remoteRtp : SocketAddress) :
    Effect MediaController MediaControlError ActiveMedia := fun controller =>
  if controller.lifecycle ≠ .active then (controller, .error .notActive)
  else if controller.isActiveMedia negotiated remoteRtp then
    match controller.active with
    | some active => (controller, .ok active)
    | none => (controller, .error .internalInvariant)
  else if controller.nextGeneration + 1 < 2 ^ 64 then
    let media := ⟨controller.nextGeneration, negotiated, remoteRtp⟩
    ({ controller with
        nextGeneration := controller.nextGeneration + 1
        active := some media }, .ok media)
  else (controller, .error .generationExhausted)

/-- Commit media with the end of a negotiation. -/
def applyAnswer
    (complete : Effect OfferAnswer OfferAnswerError Unit)
    (negotiated : NegotiatedMedia) (remoteRtp : SocketAddress) :
    Effect MediaController MediaControlError ActiveMedia := do
  let controller ← .read id
  .ofExcept (controller.validateMedia negotiated remoteRtp)
  onOffers complete
  replace negotiated remoteRtp

/-- Commit the remote answer to a local offer. -/
def applyRemoteAnswer
    (token : OfferToken) (negotiated : NegotiatedMedia) (remoteRtp : SocketAddress) :
    Effect MediaController MediaControlError ActiveMedia :=
  applyAnswer (OfferAnswer.applyRemoteAnswer token) negotiated remoteRtp

/-- Commit the local answer to a remote offer. -/
def applyLocalAnswer
    (token : OfferToken) (negotiated : NegotiatedMedia) (remoteRtp : SocketAddress) :
    Effect MediaController MediaControlError ActiveMedia :=
  applyAnswer (OfferAnswer.applyLocalAnswer token) negotiated remoteRtp

/-- Commit a remote answer that disables the media. -/
def applyRemoteDisabledAnswer (token : OfferToken) :
    Effect MediaController MediaControlError Nat := fun controller =>
  if controller.lifecycle ≠ .active then (controller, .error .notActive)
  else if controller.nextGeneration + 1 < 2 ^ 64 then
    match controller.offers.applyRemoteAnswer token with
    | (_, .error error) => (controller, .error (.offerAnswer error))
    | (offers, .ok ()) =>
      ({ controller with
          offers := offers
          nextGeneration := controller.nextGeneration + 1
          active := none }, .ok controller.nextGeneration)
  else (controller, .error .generationExhausted)

/-- The token for new work, while media accepts it. -/
def workToken (controller : MediaController) : Option MediaWorkToken :=
  if controller.lifecycle = .active then controller.active.map fun media => ⟨media.generation⟩
  else none

/-- Queued work still belongs to the active media. -/
def accepts (controller : MediaController) (token : MediaWorkToken) : Bool :=
  controller.lifecycle == .active &&
    controller.active.any fun media => media.generation == token.generation

/-- Refuse new work. -/
def beginDraining (controller : MediaController) : MediaController × Bool :=
  if controller.lifecycle ≠ .active then (controller, false)
  else ({ controller with lifecycle := .draining }, true)

/-- End the media. -/
def close (controller : MediaController) : MediaController × Bool :=
  if controller.lifecycle = .closed then (controller, false)
  else ({ controller with lifecycle := .closed, active := none }, true)

/-- The operations of the controller. -/
inductive Operation
  | beginLocalOffer
  | beginRemoteOffer
  | applyRemoteAnswer
      (token : OfferToken) (negotiated : NegotiatedMedia) (remoteRtp : SocketAddress)
  | applyLocalAnswer
      (token : OfferToken) (negotiated : NegotiatedMedia) (remoteRtp : SocketAddress)
  | applyRemoteDisabledAnswer (token : OfferToken)
  | workToken
  | accepts (token : MediaWorkToken)
  | beginDraining
  | close

/-- What an operation returns. -/
inductive Reply
  | offer (outcome : Except MediaControlError OfferToken)
  | media (outcome : Except MediaControlError ActiveMedia)
  | disabled (outcome : Except MediaControlError Nat)
  | work (token : Option MediaWorkToken)
  | answer (value : Bool)

/-- One operation. -/
def step (controller : MediaController) : Operation → MediaController × Reply
  | .beginLocalOffer =>
    ((controller.beginLocalOffer).1, .offer (controller.beginLocalOffer).2)
  | .beginRemoteOffer =>
    ((controller.beginRemoteOffer).1, .offer (controller.beginRemoteOffer).2)
  | .applyRemoteAnswer token negotiated remoteRtp =>
    ((controller.applyRemoteAnswer token negotiated remoteRtp).1,
      .media (controller.applyRemoteAnswer token negotiated remoteRtp).2)
  | .applyLocalAnswer token negotiated remoteRtp =>
    ((controller.applyLocalAnswer token negotiated remoteRtp).1,
      .media (controller.applyLocalAnswer token negotiated remoteRtp).2)
  | .applyRemoteDisabledAnswer token =>
    ((controller.applyRemoteDisabledAnswer token).1,
      .disabled (controller.applyRemoteDisabledAnswer token).2)
  | .workToken => (controller, .work controller.workToken)
  | .accepts token => (controller, .answer (controller.accepts token))
  | .beginDraining => (controller.beginDraining.1, .answer controller.beginDraining.2)
  | .close => (controller.close.1, .answer controller.close.2)

/-- The offer token presented to an operation, and the origin of the offers that
the operation answers. -/
def Operation.presented : Operation → Option (OfferToken × OfferOrigin)
  | applyRemoteAnswer token _ _ => some (token, .local_)
  | applyLocalAnswer token _ _ => some (token, .remote)
  | applyRemoteDisabledAnswer token => some (token, .local_)
  | _ => none

/-- The controller after a list of operations. -/
def reached (requireSecure : Bool) (operations : List Operation) : MediaController :=
  after step (new requireSecure) operations

/-- What one operation does to the active media: it stays or goes, or new media
takes the next generation. -/
inductive Change (before after : MediaController) : Prop
  | retained
      (active : after.active = before.active ∨ after.active = none)
      (next : before.nextGeneration ≤ after.nextGeneration)
  | replaced (media : ActiveMedia)
      (active : after.active = some media)
      (generation : media.generation = before.nextGeneration)
      (next : after.nextGeneration = before.nextGeneration + 1)
      (secure : before.requireSecure = true → media.negotiated.protocol.isSecure = true)

/-- Everything that one operation can do. -/
structure Stepped (before after : MediaController) : Prop where
  change : Change before after
  offers : after.offers = before.offers ∨
    ∃ operation, after.offers = (before.offers.step operation).1
  requireSecure : after.requireSecure = before.requireSecure
  lifecycle : after.lifecycle = .active → before.lifecycle = .active

theorem stepped_refl (controller : MediaController) : Stepped controller controller where
  change := .retained (.inl rfl) le_rfl
  offers := .inl rfl
  requireSecure := rfl
  lifecycle := id

/-- An operation of the arbiter leaves the media alone. -/
theorem stepped_offers
    (controller : MediaController) (operation : OfferAnswer.Operation) :
    Stepped controller { controller with offers := (controller.offers.step operation).1 } where
  change := .retained (.inl rfl) le_rfl
  offers := .inr ⟨operation, rfl⟩
  requireSecure := rfl
  lifecycle := id

/-- Replacing media ends with the media that was there or with the next
generation. -/
theorem replace_cases
    (controller : MediaController) (negotiated : NegotiatedMedia) (remoteRtp : SocketAddress) :
    (controller.replace negotiated remoteRtp).1 = controller ∨
      (controller.replace negotiated remoteRtp).1 =
        { controller with
          nextGeneration := controller.nextGeneration + 1
          active := some ⟨controller.nextGeneration, negotiated, remoteRtp⟩ } := by
  rw [replace]
  by_cases active : controller.lifecycle = .active
  · by_cases same : controller.isActiveMedia negotiated remoteRtp = true
    · left
      rw [if_neg (by simpa using active), if_pos same]
      cases controller.active <;> rfl
    · by_cases room : controller.nextGeneration + 1 < 2 ^ 64
      · right
        rw [if_neg (by simpa using active), if_neg same, if_pos room]
      · left
        rw [if_neg (by simpa using active), if_neg same, if_neg room]
  · left
    rw [if_pos active]

/-- Accepted media is secure where that is required. -/
theorem secure_of_validateMedia {media : NegotiatedMedia} {endpoint : SocketAddress}
    (valid : controller.validateMedia media endpoint = .ok ())
    (required : controller.requireSecure = true) :
    media.protocol.isSecure = true := by
  rw [validateMedia] at valid
  have next := Outcome.returned_of_refusal valid
  by_contra insecure
  rw [if_pos ⟨required, insecure⟩] at next
  cases next

/-- An answer is refused with nothing changed, or the arbiter is asked and the
media is replaced where it agrees. -/
theorem applyAnswer_cases
    (controller : MediaController) (token : OfferToken) (expected : OfferOrigin)
    (negotiated : NegotiatedMedia) (remoteRtp : SocketAddress) :
    (∃ error, controller.applyAnswer (complete token expected)
        negotiated remoteRtp = (controller, .error error)) ∨
      (controller.validateMedia negotiated remoteRtp = .ok () ∧
        controller.offers.Pending token ∧ token.origin = expected ∧
        controller.applyAnswer (complete token expected) negotiated remoteRtp =
          replace negotiated remoteRtp
            { controller with
              offers := (controller.offers.complete token expected).1 }) := by
  cases valid : controller.validateMedia negotiated remoteRtp with
  | error error =>
    left
    refine ⟨error, ?_⟩
    simp [applyAnswer, Effect.bind_apply, valid]
  | ok checked =>
    rcases complete_cases controller.offers token expected with
      ⟨error, refused⟩ | ⟨pending, origin, completed⟩
    · left
      refine ⟨.offerAnswer error, ?_⟩
      simp [applyAnswer, Effect.bind_apply, valid, onOffers, refused, Except.mapError]
    · right
      refine ⟨rfl, pending, origin, ?_⟩
      simp [applyAnswer, Effect.bind_apply, valid, onOffers, completed, Except.mapError]

theorem stepped_applyAnswer
    (controller : MediaController) (token : OfferToken) (expected : OfferOrigin)
    (negotiated : NegotiatedMedia) (remoteRtp : SocketAddress) :
    Stepped controller (controller.applyAnswer (complete token expected)
        negotiated remoteRtp).1 := by
  rcases applyAnswer_cases controller token expected negotiated remoteRtp with
    ⟨error, refused⟩ | ⟨valid, -, -, committed⟩
  · rw [refused]
    exact stepped_refl controller
  · rw [committed]
    have answered := stepped_offers controller (.complete token expected)
    rcases replace_cases
        { controller with offers := (controller.offers.complete token expected).1 }
        negotiated remoteRtp with unchanged | replaced
    · rw [unchanged]
      exact answered
    · rw [replaced]
      exact {
        change := .replaced _ rfl rfl rfl (secure_of_validateMedia valid)
        offers := answered.offers
        requireSecure := rfl
        lifecycle := id }

/-- A disabling answer is refused with nothing changed, or ends the negotiation
and the media. -/
theorem applyRemoteDisabledAnswer_cases
    (controller : MediaController) (token : OfferToken) :
    (∃ error, controller.applyRemoteDisabledAnswer token = (controller, .error error)) ∨
      (controller.offers.Pending token ∧ token.origin = .local_ ∧
        controller.applyRemoteDisabledAnswer token =
          ({ controller with
              offers := (controller.offers.complete token .local_).1
              nextGeneration := controller.nextGeneration + 1
              active := none }, .ok controller.nextGeneration)) := by
  by_cases active : controller.lifecycle = .active
  · by_cases room : controller.nextGeneration + 1 < 2 ^ 64
    · rw [applyRemoteDisabledAnswer, if_neg (by simpa using active), if_pos room,
        OfferAnswer.applyRemoteAnswer]
      rcases complete_cases controller.offers token .local_ with
        ⟨error, refused⟩ | ⟨pending, origin, completed⟩
      · left
        exact ⟨.offerAnswer error, by rw [refused]⟩
      · right
        exact ⟨pending, origin, by rw [completed]⟩
    · left
      refine ⟨.generationExhausted, ?_⟩
      rw [applyRemoteDisabledAnswer, if_neg (by simpa using active), if_neg room]
  · left
    refine ⟨.notActive, ?_⟩
    rw [applyRemoteDisabledAnswer, if_pos active]

theorem stepped_applyRemoteDisabledAnswer
    (controller : MediaController) (token : OfferToken) :
    Stepped controller (controller.applyRemoteDisabledAnswer token).1 := by
  rcases applyRemoteDisabledAnswer_cases controller token with
    ⟨error, refused⟩ | ⟨-, -, committed⟩
  · rw [refused]
    exact stepped_refl controller
  · rw [committed]
    exact {
      change := .retained (.inr rfl) (Nat.le_succ _)
      offers := .inr ⟨.complete token .local_, rfl⟩
      requireSecure := rfl
      lifecycle := id }

theorem stepped_beginDraining (controller : MediaController) :
    Stepped controller controller.beginDraining.1 := by
  rw [beginDraining]
  split_ifs with active
  · exact stepped_refl controller
  · exact {
      change := .retained (.inl rfl) le_rfl
      offers := .inl rfl
      requireSecure := rfl
      lifecycle := fun active => by cases active }

theorem stepped_close (controller : MediaController) :
    Stepped controller controller.close.1 := by
  rw [close]
  split_ifs with closed
  · exact stepped_refl controller
  · exact {
      change := .retained (.inr rfl) le_rfl
      offers := .inl rfl
      requireSecure := rfl
      lifecycle := fun active => by cases active }

/-- Every operation is one of these steps. -/
theorem stepped_step (controller : MediaController) (operation : Operation) :
    Stepped controller (step controller operation).1 := by
  cases operation with
  | beginLocalOffer => exact stepped_offers controller (.beginOffer .local_)
  | beginRemoteOffer => exact stepped_offers controller (.beginOffer .remote)
  | applyRemoteAnswer token negotiated remoteRtp =>
    exact stepped_applyAnswer controller token .local_ negotiated remoteRtp
  | applyLocalAnswer token negotiated remoteRtp =>
    exact stepped_applyAnswer controller token .remote negotiated remoteRtp
  | applyRemoteDisabledAnswer token =>
    exact stepped_applyRemoteDisabledAnswer controller token
  | workToken => exact stepped_refl controller
  | accepts token => exact stepped_refl controller
  | beginDraining => exact stepped_beginDraining controller
  | close => exact stepped_close controller

/-- The active media is from a generation already taken, and secure where that
is required. -/
structure WellFormed (controller : MediaController) : Prop where
  taken : ∀ media, controller.active = some media → media.generation < controller.nextGeneration
  secure : ∀ media, controller.active = some media →
    controller.requireSecure = true → media.negotiated.protocol.isSecure = true

theorem wellFormed_new (requireSecure : Bool) : (new requireSecure).WellFormed where
  taken media active := by cases active
  secure media active := by cases active

theorem WellFormed.step (wellFormed : controller.WellFormed) (operation : Operation) :
    (step controller operation).1.WellFormed := by
  have stepped := stepped_step controller operation
  rcases stepped.change with ⟨active, next⟩ | ⟨media, active, generation, next, secure⟩
  · rcases active with same | none
    · constructor
      · intro media active
        exact (wellFormed.taken media (same ▸ active)).trans_le next
      · intro media active
        rw [stepped.requireSecure]
        exact wellFormed.secure media (same ▸ active)
    · constructor
      · intro media active
        cases none.symm.trans active
      · intro media active
        cases none.symm.trans active
  · constructor
    · intro other otherActive
      cases active.symm.trans otherActive
      omega
    · intro other otherActive
      cases active.symm.trans otherActive
      rwa [stepped.requireSecure]

theorem wellFormed_reached (requireSecure : Bool) (operations : List Operation) :
    (reached requireSecure operations).WellFormed :=
  invariant WellFormed (wellFormed_new requireSecure)
    (fun _ operation wellFormed => wellFormed.step operation) operations

/-- The media belongs to the past: all media from now on is of a later
generation. -/
def Superseded (media : ActiveMedia) (controller : MediaController) : Prop :=
  media.generation < controller.nextGeneration ∧
    ∀ later, controller.active = some later → media.generation < later.generation

theorem Superseded.step
    (superseded : Superseded media controller) (operation : Operation) :
    Superseded media (step controller operation).1 := by
  have taken := superseded.1
  rcases (stepped_step controller operation).change with
    ⟨active, next⟩ | ⟨replacement, active, generation, next, -⟩
  · refine ⟨by omega, ?_⟩
    intro later laterActive
    rcases active with same | none
    · exact superseded.2 later (same ▸ laterActive)
    · cases none.symm.trans laterActive
  · refine ⟨by omega, ?_⟩
    intro later laterActive
    cases active.symm.trans laterActive
    omega

/-- Media that was active is active without a break or belongs to the past. -/
theorem active_or_superseded
    (wellFormed : controller.WellFormed)
    (active : controller.active = some media)
    (operations : List Operation) :
    (after step controller operations).active = some media ∨
      Superseded media (after step controller operations) := by
  have known : (after step controller operations).WellFormed ∧
      ((after step controller operations).active = some media ∨
        Superseded media (after step controller operations)) := by
    refine invariant (fun state : MediaController => state.WellFormed ∧
        (state.active = some media ∨ Superseded media state))
      ⟨wellFormed, .inl active⟩ ?_ operations
    rintro state operation ⟨wellFormed, active | superseded⟩
    · refine ⟨wellFormed.step operation, ?_⟩
      have taken := wellFormed.taken media active
      rcases (stepped_step state operation).change with
        ⟨same | none, next⟩ | ⟨replacement, replaced, generation, next, -⟩
      · exact .inl (same.trans active)
      · right
        refine ⟨by omega, ?_⟩
        intro later laterActive
        cases none.symm.trans laterActive
      · right
        refine ⟨by omega, ?_⟩
        intro later laterActive
        cases replaced.symm.trans laterActive
        omega
    · exact ⟨wellFormed.step operation, .inr (superseded.step operation)⟩
  exact known.2

theorem superseded_after
    (superseded : Superseded media controller) (operations : List Operation) :
    Superseded media (after step controller operations) :=
  invariant (Superseded media) superseded
    (fun _ operation superseded => superseded.step operation) operations

/-- Workers that stopped stay stopped. -/
theorem lifecycle_after (stopped : controller.lifecycle ≠ .active)
    (operations : List Operation) :
    (after step controller operations).lifecycle ≠ .active :=
  invariant (fun state : MediaController => state.lifecycle ≠ .active) stopped
    (fun state operation stopped active =>
      stopped ((stepped_step state operation).lifecycle active)) operations

theorem accepts_iff (controller : MediaController) (token : MediaWorkToken) :
    controller.accepts token = true ↔ controller.lifecycle = .active ∧
        ∃ media, controller.active = some media ∧ media.generation = token.generation := by
  simp [accepts, Option.any_eq_true]

/-- A work token is issued for the active media. -/
theorem active_of_workToken {token : MediaWorkToken}
    (issued : controller.workToken = some token) :
    ∃ media, controller.active = some media ∧ token = ⟨media.generation⟩ := by
  rw [workToken] at issued
  split_ifs at issued
  obtain ⟨media, active, same⟩ := Option.map_eq_some_iff.mp issued
  exact ⟨media, active, same.symm⟩

/-- Later work is accepted exactly while the media of its token is active. -/
theorem accepts_after
    (wellFormed : controller.WellFormed)
    (active : controller.active = some media)
    (operations : List Operation) :
    (after step controller operations).accepts ⟨media.generation⟩ = true ↔
      (after step controller operations).lifecycle = .active ∧
        (after step controller operations).active = some media := by
  rw [accepts_iff]
  refine and_congr_right fun _ => ?_
  constructor
  · rintro ⟨other, otherActive, same⟩
    rcases active_or_superseded wellFormed active operations with still | superseded
    · exact still
    · have newer := superseded.2 other otherActive
      exact absurd same.symm newer.ne
  · intro still
    exact ⟨media, still, rfl⟩

/-- Work that is refused once is refused ever after. -/
theorem refused_after
    (wellFormed : controller.WellFormed)
    (active : controller.active = some media)
    {between : List Operation}
    (refused : (after step controller between).accepts ⟨media.generation⟩ = false)
    (later : List Operation) :
    (after step controller (between ++ later)).accepts ⟨media.generation⟩ = false := by
  rw [← Bool.not_eq_true, accepts_after wellFormed active] at refused ⊢
  rintro ⟨running, still⟩
  rw [after_append] at running still
  apply refused
  constructor
  · by_contra stopped
    exact lifecycle_after stopped later running
  · rcases active_or_superseded wellFormed active between with same | superseded
    · exact same
    · have := (superseded_after superseded later).2 media still
      omega

/-- A token that does not fit the negotiation in flight changes nothing. -/
theorem unchanged_of_not_pending {operation : Operation}
    {expected : OfferOrigin} (presented : operation.presented = some (token, expected))
    (unfit : ¬(controller.offers.Pending token ∧ token.origin = expected)) :
    (step controller operation).1 = controller := by
  have answered : ∀ negotiated remoteRtp,
      (controller.applyAnswer (complete token expected) negotiated remoteRtp).1 = controller := by
    intro negotiated remoteRtp
    rcases applyAnswer_cases controller token expected negotiated remoteRtp with
      ⟨error, refused⟩ | ⟨-, pending, origin, -⟩
    · rw [refused]
    · exact absurd ⟨pending, origin⟩ unfit
  cases operation with
  | applyRemoteAnswer other negotiated remoteRtp | applyLocalAnswer other negotiated remoteRtp =>
    cases presented
    exact answered negotiated remoteRtp
  | applyRemoteDisabledAnswer other =>
    cases presented
    rcases applyRemoteDisabledAnswer_cases controller token with
      ⟨error, refused⟩ | ⟨pending, origin, -⟩
    · rw [step, refused]
    · exact absurd ⟨pending, origin⟩ unfit
  | beginLocalOffer | beginRemoteOffer | workToken | accepts | beginDraining | close =>
    cases presented

/-- An offer token that is returned is that of the negotiation then in flight. -/
theorem pending_of_offer {operation : Operation}
    (issued : (step controller operation).2 = .offer (.ok token)) :
    (step controller operation).1.offers.Pending token := by
  have begun : ∀ origin, (onOffers (beginOffer origin) controller).2 = .ok token →
      (onOffers (beginOffer origin) controller).1.offers.Pending token := by
    intro origin returned
    have inner : (controller.offers.beginOffer origin).2 = .ok token := by
      simpa [onOffers] using returned
    have returnedInner : (controller.offers.step (.beginOffer origin)).2 = .ok (some token) := by
      rw [OfferAnswer.step, inner]
      rfl
    exact pending_of_returned returnedInner
  cases operation with
  | beginLocalOffer =>
    injection issued with returned
    exact begun .local_ returned
  | beginRemoteOffer =>
    injection issued with returned
    exact begun .remote returned
  | applyRemoteAnswer | applyLocalAnswer | applyRemoteDisabledAnswer | workToken
  | accepts | beginDraining | close => cases issued

/-- An arbiter that has left the negotiation of a token has retired the token. -/
theorem offers_unchanged_or_retired
    (pending : controller.offers.Pending token) (operations : List Operation) :
    (after step controller operations).offers = controller.offers ∨
      (after step controller operations).offers.Retired token := by
  refine invariant
    (fun state : MediaController =>
      state.offers = controller.offers ∨ state.offers.Retired token)
    (.inl rfl) ?_ operations
  intro state operation known
  rcases (stepped_step state operation).offers with same | ⟨inner, stepped⟩
  · rwa [same]
  · rw [stepped]
    exact unchanged_or_retired pending inner known

theorem retired_after
    (retired : controller.offers.Retired token) (operations : List Operation) :
    (after step controller operations).offers.Retired token := by
  refine invariant
    (fun state : MediaController => state.offers.Retired token) retired ?_ operations
  intro state operation retired
  rcases (stepped_step state operation).offers with same | ⟨inner, stepped⟩
  · rwa [same]
  · rw [stepped]
    exact retired.step inner

/-- Media that takes the place of other media, at once or after a time without
media, is of a later generation. -/
def GenerationsIncrease (requireSecure : Bool) : Prop := ∀ earlier between later media next,
    (reached requireSecure earlier).active = some media →
    (reached requireSecure (earlier ++ between)).active ≠ some media →
    (reached requireSecure (earlier ++ between ++ later)).active = some next →
    media.generation < next.generation

/-- Work is accepted exactly while the workers run and the media for which its
token was issued is the active one. -/
def WorkFenced (requireSecure : Bool) : Prop := ∀ earlier later token,
    (reached requireSecure earlier).workToken = some token →
    ∃ media, (reached requireSecure earlier).active = some media ∧
      ((reached requireSecure (earlier ++ later)).accepts token = true ↔
        (reached requireSecure (earlier ++ later)).lifecycle = .active ∧
          (reached requireSecure (earlier ++ later)).active = some media)

/-- Work that was refused once is refused in every later state. -/
def RefusalsStand (requireSecure : Bool) : Prop := ∀ earlier between later token,
    (reached requireSecure earlier).workToken = some token →
    (reached requireSecure (earlier ++ between)).accepts token = false →
    (reached requireSecure (earlier ++ between ++ later)).accepts token = false

/-- The token of an offer changes nothing once the arbiter has left the state
in which the token was issued. -/
def StaleOffersFenced (requireSecure : Bool) : Prop :=
  ∀ earlier issuing between later presenting token expected,
    (step (reached requireSecure earlier) issuing).2 = .offer (.ok token) →
    (reached requireSecure (earlier ++ [issuing] ++ between)).offers ≠
      (reached requireSecure (earlier ++ [issuing])).offers →
    presenting.presented = some (token, expected) →
    (step (reached requireSecure (earlier ++ [issuing] ++ between ++ later))
      presenting).1 =
      reached requireSecure (earlier ++ [issuing] ++ between ++ later)

/-- The token of an offer changes nothing where the other party's offer is
answered. -/
def OriginsFenced (requireSecure : Bool) : Prop := ∀ operations presenting token expected,
    presenting.presented = some (token, expected) →
    token.origin ≠ expected →
    (step (reached requireSecure operations) presenting).1 = reached requireSecure operations

/-- In the arbiter, a token whose negotiation was answered, aborted or followed
by another one changes nothing. -/
def EndedOffersFenced : Prop := ∀ earlier issuing between ending later presenting token,
    let issuedAt := after OfferAnswer.step .new earlier
    let endedAt := after OfferAnswer.step (issuedAt.step issuing).1 between
    let state := after OfferAnswer.step (endedAt.step ending).1 later
    (issuedAt.step issuing).2 = .ok (some token) →
    Ends token endedAt ending →
    presenting.presented = some token →
    state.step presenting = (state, .error .staleToken)

theorem generationsIncrease (requireSecure : Bool) :
    GenerationsIncrease requireSecure := by
  intro earlier between later media next active gone nextActive
  have wellFormed := wellFormed_reached requireSecure earlier
  simp only [reached, after_append] at active gone nextActive wellFormed
  rcases active_or_superseded wellFormed active between with still | superseded
  · exact absurd still gone
  · exact (superseded_after superseded later).2 next nextActive

theorem workFenced (requireSecure : Bool) : WorkFenced requireSecure := by
  intro earlier later token issued
  obtain ⟨media, active, rfl⟩ := active_of_workToken issued
  refine ⟨media, active, ?_⟩
  simpa [reached] using accepts_after (wellFormed_reached requireSecure earlier) active later

theorem refusalsStand (requireSecure : Bool) : RefusalsStand requireSecure := by
  intro earlier between later token issued refused
  obtain ⟨media, active, rfl⟩ := active_of_workToken issued
  simp only [reached, after_append] at refused ⊢
  have stands := refused_after (wellFormed_reached requireSecure earlier) active refused later
  rwa [after_append] at stands

theorem staleOffersFenced (requireSecure : Bool) : StaleOffersFenced requireSecure := by
  intro earlier issuing between later presenting token expected issued left presented
  apply unchanged_of_not_pending presented
  rintro ⟨pending, -⟩
  simp only [reached, after_append] at issued left pending
  rcases offers_unchanged_or_retired (pending_of_offer issued) between with
    same | retired
  · exact left same
  · exact (retired_after retired later).2 pending

theorem originsFenced (requireSecure : Bool) : OriginsFenced requireSecure := by
  intro operations presenting token expected presented other
  apply unchanged_of_not_pending presented
  rintro ⟨-, same⟩
  exact other same

theorem endedOffersFenced : EndedOffersFenced := by
  intro earlier issuing between ending later presenting token issuedAt endedAt state
    issued ended presented
  exact ended_token_refused issued ended later presented

/-- Media generations fence work and offers in every run of the controller, and
a controller that requires secure media never has other media. -/
theorem media_generation_fencing (requireSecure : Bool) :
    GenerationsIncrease requireSecure ∧ WorkFenced requireSecure ∧
      RefusalsStand requireSecure ∧ StaleOffersFenced requireSecure ∧
      OriginsFenced requireSecure ∧ EndedOffersFenced ∧
      ∀ operations media, requireSecure = true →
        (reached requireSecure operations).active = some media →
        media.negotiated.protocol.isSecure = true := by
  refine ⟨generationsIncrease _, workFenced _, refusalsStand _, staleOffersFenced _,
    originsFenced _, endedOffersFenced, ?_⟩
  intro operations media required active
  have kept : (reached requireSecure operations).requireSecure = requireSecure := invariant
      (fun state : MediaController => state.requireSecure = requireSecure) rfl
      (fun state operation same =>
        (stepped_step state operation).requireSecure.trans same) operations
  exact (wellFormed_reached requireSecure operations).secure media active (kept.trans required)

/-- Secure PCMU media. -/
def sampleMedia : NegotiatedMedia where
  codec := ⟨⟨0, by decide⟩, "PCMU", 8000, 1, by decide, by decide, by decide, by decide⟩
  direction := .sendRecv
  protocol := .rtpSavp
  remotePort := 4000
  packetization := ⟨20, none⟩
  telephoneEvent := none

/-- A local offer and its answer with media at a port. -/
def sampleExchange (generation : Nat) (room : generation + 1 < 2 ^ 64) (port : UInt16) :
    List Operation :=
  [.beginLocalOffer,
    .applyRemoteAnswer ⟨generation, .local_, room⟩ sampleMedia ⟨.v4 0x0a000001, port, 0, 0⟩]

theorem media_generation_fencing_sample :
    (reached true (sampleExchange 1 (by decide) 4000)).workToken = some ⟨1⟩ ∧
      (reached true (sampleExchange 1 (by decide) 4000 ++
        sampleExchange 2 (by decide) 4002)).accepts ⟨1⟩ = false ∧
      (reached true (sampleExchange 1 (by decide) 4000 ++
        sampleExchange 2 (by decide) 4002 ++ [.beginDraining])).accepts ⟨1⟩ = false := by
  have issued : (reached true (sampleExchange 1 (by decide) 4000)).workToken =
      some ⟨1⟩ := by decide +kernel
  have refused : (reached true (sampleExchange 1 (by decide) 4000 ++
      sampleExchange 2 (by decide) 4002)).accepts ⟨1⟩ = false := by decide +kernel
  exact ⟨issued, refused, (media_generation_fencing true).2.2.1 _ _ _ _ issued refused⟩

end MediaController
end Call
end LiveAISIP
