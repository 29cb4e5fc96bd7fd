import LiveAISIP.Call.MediaController

/-!
# Commits of the media controller

Whether a refused operation leaves the controller as it was.  An answer ends the
negotiation before its media is put in force, so an answer whose media is refused
at that point has already used up the offer.
-/

namespace LiveAISIP
namespace Call
namespace MediaController

open Sip.Sdp
open OfferAnswer

/-- The operation was refused. -/
def Reply.refused : Reply → Bool
  | .offer outcome => !outcome.isOk
  | .media outcome => !outcome.isOk
  | .disabled outcome => !outcome.isOk
  | .work _ | .answer _ => false

/-- A refused operation leaves the whole controller as it was. -/
def Atomic (controller : MediaController) (operation : Operation) : Prop :=
  (step controller operation).2.refused = true → (step controller operation).1 = controller

/-- Media is refused at its replacement: the workers stop, or there is no generation
left for media that is not in force already. -/
def ReplacementRefused (controller : MediaController)
    (negotiated : NegotiatedMedia) (remoteRtp : SocketAddress) : Prop :=
  controller.lifecycle ≠ .active ∨ controller.isActiveMedia negotiated remoteRtp = false ∧
      2 ^ 64 ≤ controller.nextGeneration + 1

/-- An acceptable answer to the pending offer whose replacement is refused. -/
def RefusedLate (controller : MediaController) (token : OfferToken)
    (expected : OfferOrigin) (negotiated : NegotiatedMedia) (remoteRtp : SocketAddress) :
    Prop :=
  controller.validateMedia negotiated remoteRtp = .ok () ∧
    controller.offers.Pending token ∧ token.origin = expected ∧
    controller.ReplacementRefused negotiated remoteRtp

/-- The operation is not an answer that is refused after it ended the negotiation. -/
def DecidedFirst (controller : MediaController) : Operation → Prop
  | .applyRemoteAnswer token negotiated remoteRtp =>
    ¬controller.RefusedLate token .local_ negotiated remoteRtp
  | .applyLocalAnswer token negotiated remoteRtp =>
    ¬controller.RefusedLate token .remote negotiated remoteRtp
  | _ => True

/-- Replacing media is refused in these cases only, and then changes nothing. -/
theorem replace_outcome
    (controller : MediaController) (negotiated : NegotiatedMedia) (remoteRtp : SocketAddress) :
    (∃ media, (controller.replace negotiated remoteRtp).2 = .ok media ∧
        ¬controller.ReplacementRefused negotiated remoteRtp) ∨
      (∃ error, controller.replace negotiated remoteRtp = (controller, .error error) ∧
        controller.ReplacementRefused negotiated remoteRtp) := by
  rw [replace, ReplacementRefused]
  by_cases running : controller.lifecycle = .active
  · rw [if_neg (not_not.mpr running)]
    cases same : controller.isActiveMedia negotiated remoteRtp with
    | true =>
      left
      cases active : controller.active with
      | none =>
        rw [isActiveMedia, active] at same
        cases same
      | some media => exact ⟨media, by simp, by simp [running]⟩
    | false =>
      rw [if_neg (by decide)]
      by_cases room : controller.nextGeneration + 1 < 2 ^ 64
      · left
        rw [if_pos room]
        refine ⟨_, rfl, ?_⟩
        rintro (stopped | ⟨-, exhausted⟩)
        · exact stopped running
        · exact absurd room (Nat.not_lt.mpr exhausted)
      · right
        rw [if_neg room]
        exact ⟨_, rfl, .inr ⟨rfl, Nat.not_lt.mp room⟩⟩
  · right
    rw [if_pos running]
    exact ⟨_, rfl, .inl running⟩

/-- A completed negotiation is not the one that was pending. -/
theorem complete_ne_of_pending
    {controller : MediaController} {token : OfferToken} {expected : OfferOrigin}
    (pending : controller.offers.Pending token) (origin : token.origin = expected) :
    (controller.offers.complete token expected).1 ≠ controller.offers := by
  rcases complete_cases controller.offers token expected with
    ⟨error, refused⟩ | ⟨-, -, completed⟩
  · -- A pending token of this origin is not refused.
    exfalso
    rcases validateToken_eq controller.offers token with
      ⟨valid, -⟩ | ⟨-, stale⟩
    · simp [complete, valid, origin] at refused
    · exact stale pending
  · intro same
    have stable : controller.offers.state = .stable := by
      rw [← same, completed]
    rw [pending.1] at stable
    cases origin' : token.origin <;> simp [origin', OfferOrigin.pendingState] at stable

/-- An answer is atomic exactly where its replacement is not refused late. -/
theorem applyAnswer_atomic_iff
    (controller : MediaController) (token : OfferToken) (expected : OfferOrigin)
    (negotiated : NegotiatedMedia) (remoteRtp : SocketAddress) :
    ((controller.applyAnswer (complete token expected)
        negotiated remoteRtp).2.isOk = false →
      (controller.applyAnswer (complete token expected) negotiated remoteRtp).1 = controller) ↔
      ¬controller.RefusedLate token expected negotiated remoteRtp := by
  rcases applyAnswer_cases controller token expected negotiated remoteRtp with
    ⟨error, refused⟩ | ⟨valid, pending, origin, committed⟩
  · -- Refused before the negotiation ends.
    simp only [refused, implies_true, true_iff]
    rintro ⟨valid, pending, origin, -⟩
    rcases complete_cases controller.offers token expected with
      ⟨cause, failed⟩ | ⟨-, -, completed⟩
    · exact complete_ne_of_pending pending origin (by rw [failed])
    · have reached : controller.applyAnswer (complete token expected)
          negotiated remoteRtp = replace negotiated remoteRtp
              { controller with
                offers := (controller.offers.complete token expected).1 } := by
        simp [applyAnswer, Effect.bind_apply, valid, onOffers, completed, Except.mapError]
      rw [refused] at reached
      have moved := replace_cases
        { controller with offers := (controller.offers.complete token expected).1 }
        negotiated remoteRtp
      rw [← reached] at moved
      rcases moved with same | same
      · exact complete_ne_of_pending pending origin (congrArg MediaController.offers same).symm
      · exact complete_ne_of_pending pending origin (congrArg MediaController.offers same).symm
  · rw [committed]
    have differ := complete_ne_of_pending pending origin
    rcases replace_outcome
        { controller with offers := (controller.offers.complete token expected).1 }
        negotiated remoteRtp with ⟨media, returned, kept⟩ | ⟨error, refused, late⟩
    · rw [returned]
      refine ⟨fun _ lateRefusal => kept lateRefusal.2.2.2, fun _ failed => ?_⟩
      cases failed
    · rw [refused]
      constructor
      · intro unchanged _
        exact differ (congrArg MediaController.offers (unchanged rfl))
      · intro notLate
        exact absurd ⟨valid, pending, origin, late⟩ notLate

/-- Beginning an offer is refused with nothing changed. -/
theorem beginOffer_atomic (controller : MediaController) (origin : OfferOrigin)
    (failed : (onOffers (beginOffer origin) controller).2.isOk = false) :
    (onOffers (beginOffer origin) controller).1 = controller := by
  simp only [onOffers, Effect.mapError_apply, Effect.zoom_apply, beginOffer] at failed ⊢
  split_ifs at failed ⊢ with pending room
  · rfl
  · cases failed
  · rfl

/-- A refused operation leaves the controller as it was exactly where it is not an
answer that is refused after it ended the negotiation. -/
theorem atomic_iff (controller : MediaController) (operation : Operation) :
    Atomic controller operation ↔ DecidedFirst controller operation := by
  cases operation with
  | beginLocalOffer =>
    refine iff_of_true (fun failed => ?_) trivial
    exact beginOffer_atomic controller .local_ ((Bool.not_eq_true' _).mp failed)
  | beginRemoteOffer =>
    refine iff_of_true (fun failed => ?_) trivial
    exact beginOffer_atomic controller .remote ((Bool.not_eq_true' _).mp failed)
  | applyRemoteAnswer token negotiated remoteRtp | applyLocalAnswer token negotiated remoteRtp =>
    rw [DecidedFirst, ← applyAnswer_atomic_iff]
    simp only [Atomic, step, Reply.refused, Bool.not_eq_true']
    rfl
  | applyRemoteDisabledAnswer token =>
    refine iff_of_true (fun failed => ?_) trivial
    rw [step] at failed ⊢
    rcases applyRemoteDisabledAnswer_cases controller token with
      ⟨error, refused⟩ | ⟨-, -, committed⟩
    · rw [refused]
    · simp [committed, Reply.refused, Except.isOk, Except.toBool] at failed
  | workToken | accepts | beginDraining | close =>
    refine iff_of_true (fun failed => ?_) trivial
    cases failed

/-- In every run the refused operations change nothing exactly where no answer is
refused after it ended the negotiation. -/
theorem mediaController_atomic_iff (requireSecure : Bool) : (∀ operations operation,
      Atomic (reached requireSecure operations) operation ↔
        DecidedFirst (reached requireSecure operations) operation) ∧
      ∀ operations, Run.AllSteps
            (fun earlier operation => Atomic (reached requireSecure earlier) operation)
            operations ↔
          Run.AllSteps
            (fun earlier operation =>
              DecidedFirst (reached requireSecure earlier) operation)
            operations := by
  constructor
  · intro operations operation
    exact atomic_iff (reached requireSecure operations) operation
  · intro operations
    exact Run.allSteps_congr
      (fun earlier operation => atomic_iff (reached requireSecure earlier) operation)
      operations

/-- An answer that comes while the media is draining is refused and ends the offer. -/
theorem not_atomic_draining :
    let controller := reached false [.beginLocalOffer, .beginDraining]
    let answer := Operation.applyRemoteAnswer ⟨1, .local_, by decide⟩ sampleMedia
      ⟨.v4 0x0a000001, 4000, 0, 0⟩
    (step controller answer).2.refused = true ∧ controller.offers.state = .localOfferPending ∧
      (step controller answer).1.offers.state = .stable ∧
      ¬Atomic controller answer := by
  intro controller answer
  have refused : (step controller answer).2.refused = true := by decide +kernel
  have waits : controller.offers.state = .localOfferPending := by decide +kernel
  have ended : (step controller answer).1.offers.state = .stable := by decide +kernel
  refine ⟨refused, waits, ended, fun atomic => ?_⟩
  rw [atomic refused, waits] at ended
  cases ended

end MediaController
end Call
end LiveAISIP
