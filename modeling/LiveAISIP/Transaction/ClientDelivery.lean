import LiveAISIP.Library.Run
import LiveAISIP.Transaction.Client

/-!
# Delivery of final responses

How often a client transaction hands a final response to its user.  An INVITE
transaction absorbs the repetitions of a non-2xx final response; a non-INVITE
transaction delivers every final response that reaches it while it lingers.
-/

namespace LiveAISIP
namespace Transaction

open Sip
open Run

namespace ClientTransaction

variable {tx : ClientTransaction} {response : ValidatedResponse}

/-- The transaction after a run of inputs. -/
def after (tx : ClientTransaction) (inputs : List ClientInput) : ClientTransaction :=
  Run.after step tx inputs

@[simp] theorem after_concat
    (tx : ClientTransaction) (inputs : List ClientInput) (last : ClientInput) :
    tx.after (inputs ++ [last]) = ((tx.after inputs).step last).1 := by
  simp [after]

/-- The response is handed to the transaction user. -/
def Delivers (tx : ClientTransaction) (response : ValidatedResponse) : Prop :=
  .deliverResponse ∈ actionsOf (tx.onResponse response).2

instance (tx : ClientTransaction) (response : ValidatedResponse) :
    Decidable (tx.Delivers response) :=
  inferInstanceAs (Decidable (_ ∈ _))

section Deliveries

variable (statuses : StatusCode → Prop) [DecidablePred statuses]

/-- One when the input is a delivered response of the given statuses. -/
def delivery (tx : ClientTransaction) : ClientInput → Nat
  | .response response =>
    if statuses response.status ∧ tx.Delivers response then 1 else 0
  | _ => 0

/-- How many responses of the given statuses a run delivers. -/
def deliveries (tx : ClientTransaction) (inputs : List ClientInput) : Nat :=
  tally (delivery statuses) step tx inputs

@[simp] theorem deliveries_nil (tx : ClientTransaction) : tx.deliveries statuses [] = 0 := rfl

theorem deliveries_concat
    (tx : ClientTransaction) (inputs : List ClientInput) (last : ClientInput) :
    tx.deliveries statuses (inputs ++ [last]) =
      tx.deliveries statuses inputs + (tx.after inputs).delivery statuses last :=
  tally_concat ..

theorem delivery_le_one (tx : ClientTransaction) (input : ClientInput) :
    tx.delivery statuses input ≤ 1 := by
  cases input <;> simp only [delivery]
  case response response => split_ifs <;> omega
  all_goals omega

/-- A delivery counts for every larger set of statuses. -/
theorem delivery_le_of_imp
    {larger : StatusCode → Prop} [DecidablePred larger]
    (included : ∀ status, statuses status → larger status)
    (tx : ClientTransaction) (input : ClientInput) :
    tx.delivery statuses input ≤ tx.delivery larger input := by
  cases input with
  | start | timer => exact Nat.le_refl _
  | response response =>
    simp only [delivery]
    by_cases delivered : statuses response.status ∧ tx.Delivers response
    · simp [delivered, included _ delivered.1]
    · simp [delivered]

theorem deliveries_le_append
    (tx : ClientTransaction) (first second : List ClientInput) :
    tx.deliveries statuses first ≤ tx.deliveries statuses (first ++ second) := by
  simp only [deliveries, tally_append]
  omega

end Deliveries

/-- A transaction that is still unanswered was so before, and has delivered no
final response. -/
theorem unanswered_of_step {input : ClientInput}
    (unanswered : IsUnanswered (tx.step input).1.state) :
    IsUnanswered tx.state ∧ tx.delivery StatusCode.Final input = 0 := by
  cases input with
  | start =>
    refine ⟨?_, rfl⟩
    simp only [step, start] at unanswered
    split_ifs at unanswered <;> exact unanswered
  | timer timer =>
    refine ⟨?_, rfl⟩
    rcases tx.onTimer_cases timer with
      ⟨error, refused⟩ | ⟨after, actions, taken, -, step⟩
    · simpa [ClientTransaction.step, refused] using unanswered
    · simp only [ClientTransaction.step, taken] at unanswered
      cases step with
      | requestTimeout state => exact state
      | linger state => simp at unanswered
      | retransmit current next pending allowed following =>
        exact allowed.unanswered
  | response response =>
    rcases tx.onResponse_cases response with
      ⟨error, refused⟩ | ⟨after, actions, taken, -, -, step⟩
    · exact ⟨by simpa [step, refused] using unanswered, by simp [delivery, Delivers, refused]⟩
    · simp only [ClientTransaction.step, taken] at unanswered
      cases step with
      | firstProvisional kind state status =>
        exact ⟨by simp [state], by simp [delivery, status.not_final]⟩
      | provisional state status =>
        refine ⟨?_, by simp [delivery, status.not_final]⟩
        rcases state with state | ⟨-, state⟩ <;> simp [state]
      | lingers ack delay acked state status lingering =>
        exact absurd unanswered (tx.isLingering_finalState response.status).not_unanswered
      | ends ack acked state status lingering => simp at unanswered
      | repeatedSuccess kind state status => simp [state] at unanswered
      | lateSuccess kind state status => simp at unanswered
      | repeatedFailure bytes acked kind state status =>
        simp [state] at unanswered
      | repeatedFinal kind state status => simp [state] at unanswered

/-- A non-2xx response of an INVITE is delivered only while the INVITE is
unanswered. -/
theorem delivers_failure_unanswered
    (kind : tx.kind = .invite) (failure : response.status.Failure)
    (delivers : tx.Delivers response) :
    IsUnanswered tx.state := by
  unfold Delivers at delivers
  rcases tx.onResponse_cases response with
    ⟨error, refused⟩ | ⟨after, actions, taken, -, -, step⟩
  · simp [refused] at delivers
  · cases step with
    | firstProvisional kind state status => simp [state]
    | provisional state status =>
      rcases state with state | ⟨-, state⟩ <;> simp [state]
    | lingers ack delay acked state status lingering => exact state
    | ends ack acked state status lingering => exact state
    | repeatedSuccess kind state status =>
      exact absurd failure status.not_failure
    | lateSuccess kind state status => exact absurd failure status.not_failure
    | repeatedFailure bytes acked kind state status =>
      simp [taken] at delivers
    | repeatedFinal kind' state status => simp [kind] at kind'

/-- A final response of a non-INVITE is delivered while it is unanswered, or
while it lingers. -/
theorem delivers_final_nonInvite
    (kind : tx.kind = .nonInvite) (delivers : tx.Delivers response) :
    IsUnanswered tx.state ∨ (tx.state = .completed ∧ tx.Matches response) := by
  unfold Delivers at delivers
  rcases tx.onResponse_cases response with
    ⟨error, refused⟩ | ⟨after, actions, taken, -, addressed, step⟩
  · simp [refused] at delivers
  · cases step with
    | firstProvisional kind state status => simp [state]
    | provisional state status =>
      rcases state with state | ⟨-, state⟩ <;> simp [state]
    | lingers ack delay acked state status lingering => exact .inl state
    | ends ack acked state status lingering => exact .inl state
    | repeatedSuccess kind' state status => simp [kind] at kind'
    | lateSuccess kind' state status => simp [kind] at kind'
    | repeatedFailure bytes acked kind' state status => simp [kind] at kind'
    | repeatedFinal kind state status => exact .inr ⟨state, addressed⟩

/-- A lingering non-INVITE transaction delivers a matching final response. -/
theorem delivers_of_completed
    (started : tx.started = true) (kind : tx.kind = .nonInvite)
    (state : tx.state = .completed) (addressed : tx.Matches response)
    (final : response.status.Final) :
    tx.Delivers response := by
  have machine : tx.machine = ⟨.nonInvite, .completed⟩ := by
    rw [← kind, ← state]
    rfl
  have taken : ClientMachine.onResponse ⟨.nonInvite, .completed⟩ response.status =
      .ok ⟨.nonInvite, .completed⟩ := by
    have notProvisional : ¬response.status.Provisional :=
      fun provisional => provisional.not_final final
    simp [ClientMachine.onResponse, ClientMachine.next, notProvisional]
  have other : ¬tx.IsNon2xxInvite response.status := by
    simp [IsNon2xxInvite, kind]
  unfold Matches at addressed
  simp [Delivers, onResponse, started, addressed, taken, ackFor, other,
    applyResponse, ackActions, machine, kind, IsLingering, ClientTransaction.state]

/-- A non-INVITE transaction enters its lingering state by delivering a final
response. -/
theorem completed_of_step {input : ClientInput}
    (completed : (tx.step input).1.state = .completed) :
    tx.state = .completed ∨ tx.delivery StatusCode.Final input = 1 := by
  cases input with
  | start =>
    left
    simp only [step, start] at completed
    split_ifs at completed <;> exact completed
  | timer timer =>
    left
    rcases tx.onTimer_cases timer with
      ⟨error, refused⟩ | ⟨after, actions, taken, -, step⟩
    · simpa [ClientTransaction.step, refused] using completed
    · simp only [ClientTransaction.step, taken] at completed
      cases step with
      | requestTimeout state => simp at completed
      | linger state => simp at completed
      | retransmit current next pending allowed following => exact completed
  | response response =>
    rcases tx.onResponse_cases response with
      ⟨error, refused⟩ | ⟨after, actions, taken, -, -, step⟩
    · left
      simpa [step, refused] using completed
    · simp only [ClientTransaction.step, taken] at completed
      cases step with
      | firstProvisional kind state status => simp at completed
      | provisional state status => simp at completed
      | lingers ack delay acked state status lingering =>
        right
        simp [delivery, Delivers, taken, status]
      | ends ack acked state status lingering => simp at completed
      | repeatedSuccess kind state status => exact .inl completed
      | lateSuccess kind state status => simp at completed
      | repeatedFailure bytes acked kind state status => exact .inl state
      | repeatedFinal kind state status => exact .inl state

/-- A run keeps the identity of the transaction. -/
theorem sameIdentity_after (tx : ClientTransaction) (inputs : List ClientInput) :
    SameIdentity tx (tx.after inputs) :=
  invariant (SameIdentity tx) (.refl tx)
    (fun later input kept => kept.trans (later.sameIdentity_step input)) inputs

/-- A transaction that has left its unanswered states was started. -/
theorem started_after (fresh : IsUnanswered tx.state) (inputs : List ClientInput)
    (answered : ¬IsUnanswered (tx.after inputs).state) :
    (tx.after inputs).started = true := by
  induction inputs using List.reverseRecOn with
  | nil => exact absurd fresh answered
  | append_singleton earlier input ih =>
    rw [after_concat] at answered ⊢
    have kept := ((tx.after earlier).sameIdentity_step input).started
    by_cases started : (tx.after earlier).started = true
    · exact kept started
    · rw [state_step_of_unstarted started input] at answered
      exact kept (ih answered)

/-- An unanswered transaction has delivered no final response, and a lingering
non-INVITE transaction has delivered one. -/
theorem deliveries_of_state (fresh : IsUnanswered tx.state) (inputs : List ClientInput) :
    (IsUnanswered (tx.after inputs).state → tx.deliveries StatusCode.Final inputs = 0) ∧
      ((tx.after inputs).state = .completed → 0 < tx.deliveries StatusCode.Final inputs) := by
  induction inputs using List.reverseRecOn with
  | nil =>
    refine ⟨fun _ => rfl, fun completed => ?_⟩
    exact absurd (show IsLingering tx.state from .inl completed) fresh.not_lingering
  | append_singleton earlier input ih =>
    rw [after_concat, deliveries_concat]
    constructor
    · intro unanswered
      obtain ⟨before, none⟩ := unanswered_of_step unanswered
      rw [ih.1 before, none]
    · intro completed
      rcases completed_of_step completed with before | delivered
      · have := ih.2 before
        omega
      · omega

/-- A run whose qualifying deliveries all happen while the transaction is
unanswered delivers at most once. -/
theorem deliveries_le_one
    {statuses : StatusCode → Prop} [DecidablePred statuses]
    (finals : ∀ status, statuses status → status.Final) (tx : ClientTransaction)
    (inputs : List ClientInput)
    (early : AllSteps (fun earlier input => (tx.after earlier).delivery statuses input ≠ 0 →
        IsUnanswered (tx.after earlier).state) inputs) :
    tx.deliveries statuses inputs ≤ 1 ∧ (IsUnanswered (tx.after inputs).state →
        tx.deliveries statuses inputs = 0) := by
  induction inputs using List.reverseRecOn with
  | nil => simp
  | append_singleton earlier input ih =>
    obtain ⟨before, last⟩ := (allSteps_concat _ _ _).mp early
    obtain ⟨atMostOne, noneYet⟩ := ih before
    have bound := (tx.after earlier).delivery_le_one statuses input
    rw [deliveries_concat, after_concat]
    constructor
    · by_cases delivered : (tx.after earlier).delivery statuses input = 0
      · omega
      · have := noneYet (last delivered)
        omega
    · intro unanswered
      obtain ⟨still, none⟩ := unanswered_of_step unanswered
      have := noneYet still
      have := (tx.after earlier).delivery_le_of_imp statuses finals input
      omega

/-- A run that delivers at most once absorbs every repetition. -/
theorem absorbs_of_deliveries_le_one
    {statuses : StatusCode → Prop} [DecidablePred statuses]
    (tx : ClientTransaction) (inputs : List ClientInput)
    (atMostOne : tx.deliveries statuses inputs ≤ 1) :
    AllSteps (fun earlier input => ∀ response, input = .response response →
        statuses response.status → 0 < tx.deliveries statuses earlier →
        ¬(tx.after earlier).Delivers response) inputs := by
  rintro earlier input later rfl response rfl reported already delivers
  have delivered : (tx.after earlier).delivery statuses (.response response) = 1 := by
    simp [delivery, reported, delivers]
  have monotone := tx.deliveries_le_append statuses (earlier ++ [.response response]) later
  rw [deliveries_concat, delivered] at monotone
  simp only [List.append_assoc, List.singleton_append] at monotone
  omega

/-- No final response addressed to a non-INVITE transaction reaches it while
it lingers. -/
def NoFinalWhileLingering
    (tx : ClientTransaction) (inputs : List ClientInput) : Prop :=
  AllSteps
    (fun earlier input => ∀ response, input = .response response →
      tx.kind = .nonInvite → (tx.after earlier).state = .completed →
      (tx.after earlier).Matches response → ¬response.status.Final) inputs

/-- A run of a transaction delivers at most one of the final responses its
family reports once exactly when no final response reaches a lingering
non-INVITE transaction. -/
theorem deliveries_le_one_iff (fresh : IsUnanswered tx.state) (inputs : List ClientInput) :
    tx.deliveries (Conclusive tx.kind) inputs ≤ 1 ↔ tx.NoFinalWhileLingering inputs := by
  have finals : ∀ status, Conclusive tx.kind status → status.Final :=
    fun _ conclusive => conclusive.final
  constructor
  · rintro atMostOne earlier input later rfl response rfl kind completed addressed final
    have absorbs := tx.absorbs_of_deliveries_le_one _ atMostOne earlier _ later rfl response rfl
    have already := (deliveries_of_state fresh earlier).2 completed
    have started := started_after fresh earlier (by simp [completed])
    have delivers := delivers_of_completed started
      ((tx.sameIdentity_after earlier).kind.trans kind) completed addressed final
    rw [kind] at absorbs
    exact absorbs final already delivers
  · intro condition
    refine (deliveries_le_one finals tx inputs ?_).1
    intro earlier input later split delivered
    cases input with
    | start | timer => exact absurd rfl delivered
    | response response =>
      obtain ⟨reported, delivers⟩ : Conclusive tx.kind response.status ∧
            (tx.after earlier).Delivers response := by
        by_contra other
        exact delivered (if_neg other)
      have sameKind := (tx.sameIdentity_after earlier).kind
      cases kind : tx.kind with
      | invite =>
        rw [kind] at reported sameKind
        exact delivers_failure_unanswered sameKind reported delivers
      | nonInvite =>
        rw [kind] at sameKind
        rcases delivers_final_nonInvite sameKind delivers with
          unanswered | ⟨completed, addressed⟩
        · exact unanswered
        · exact absurd (finals _ reported) (condition earlier _ later split
            response rfl kind completed addressed)

/-- In every run of a new transaction, at most one final response of a
non-INVITE and at most one non-2xx final response of an INVITE is delivered
and every repetition is absorbed, exactly when no final response addressed to
a non-INVITE transaction arrives while that transaction lingers. -/
theorem final_responses_delivered_once_iff
    (fromRequest : ValidatedRequest → Except AckBuildError Non2xxAckTemplate)
    (request : ValidatedRequest) (reliable : Bool) (timers : TimerConfig) (tx : ClientTransaction)
    (created : new fromRequest request reliable timers = .ok tx) (inputs : List ClientInput) :
    (tx.deliveries (Conclusive tx.kind) inputs ≤ 1 ∧ AllSteps
        (fun earlier input => ∀ response, input = .response response →
          Conclusive tx.kind response.status →
          0 < tx.deliveries (Conclusive tx.kind) earlier →
          ¬(tx.after earlier).Delivers response) inputs) ↔
      tx.NoFinalWhileLingering inputs := by
  have fresh := isUnanswered_new created
  rw [and_iff_left_of_imp (tx.absorbs_of_deliveries_le_one inputs)]
  exact deliveries_le_one_iff fresh inputs

/-- The 200 response to a BYE. -/
def byeOk : ValidatedResponse := responseTo byeRequest .ok none

/-- The first answer to a BYE is delivered once. -/
theorem final_responses_delivered_once_bye :
    ∃ tx, new (fun _ => .error .missingMaxForwards) byeRequest false .default = .ok tx ∧
      tx.deliveries (Conclusive tx.kind) [.start, .response byeOk] ≤ 1 := by
  refine ⟨_, rfl, ?_⟩
  refine ((final_responses_delivered_once_iff
    (fun _ => .error .missingMaxForwards) byeRequest false .default _ rfl
    [.start, .response byeOk]).mpr ?_).1
  refine (allSteps_concat _ [ClientInput.start] _).mpr
    ⟨(allSteps_concat _ [] _).mpr ⟨allSteps_nil _, ?_⟩, ?_⟩
  · intro response isResponse
    cases isResponse
  · intro response _ _ completed
    exact absurd completed (by decide)

/-- A retransmitted answer to a BYE is delivered again. -/
theorem bye_answer_redelivered :
    ∃ tx, new (fun _ => .error .missingMaxForwards) byeRequest false .default = .ok tx ∧
      ¬tx.deliveries (Conclusive tx.kind) [.start, .response byeOk, .response byeOk] ≤ 1 := by
  refine ⟨_, rfl, ?_⟩
  decide +kernel

end ClientTransaction

end Transaction
end LiveAISIP
