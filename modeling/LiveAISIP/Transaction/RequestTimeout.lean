import LiveAISIP.Transaction.ClientDelivery
import LiveAISIP.Transaction.ClientTimers

/-!
# The request timeout of an INVITE

The timeout that is armed with an INVITE bounds the transaction up to its final
response.  A provisional response cancels the retransmissions and leaves the
timeout running, so that a ringing INVITE waits for nothing else.
-/

namespace LiveAISIP
namespace Transaction

open Sip
open ClientTransaction

namespace SupervisedClient

variable {client : SupervisedClient}

/-- A ringing INVITE waits for its request timeout alone. -/
theorem Disciplined.outstanding_of_ringing (disciplined : client.Disciplined)
    (invite : client.transaction.kind = .invite) (ringing : client.state = .proceeding) :
    client.outstanding = {.requestTimeout} := by
  have retransmits : ¬client.transaction.RetransmitAllowed := by
    rintro (⟨-, calling⟩ | ⟨nonInvite, -⟩)
    · simp [SupervisedClient.state, calling] at ringing
    · simp [invite] at nonInvite
  have started : client.transaction.started = true := by
    by_contra unstarted
    exact retransmits (disciplined.unstarted (Bool.eq_false_iff.mpr unstarted)).1
  have unanswered : IsUnanswered client.state := by
    simp [ringing]
  ext timer
  rw [Finset.mem_singleton]
  cases timer with
  | retransmit =>
    simpa using fun member => retransmits (disciplined.retransmit member).1
  | requestTimeout =>
    simpa using disciplined.requestTimeout.mpr ⟨started, unanswered⟩
  | linger =>
    simpa using fun member =>
      unanswered.not_lingering (disciplined.linger.mp member)

/-- The outstanding request timeout ends the transaction. -/
theorem Disciplined.terminated_of_requestTimeout (disciplined : client.Disciplined)
    (outstanding : .requestTimeout ∈ client.outstanding) :
    (client.supervise (.timer .requestTimeout)).1.state = .terminated ∧
      .terminate ∈ actionsOf (client.supervise (.timer .requestTimeout)).2 := by
  obtain ⟨started, unanswered⟩ := disciplined.requestTimeout.mp outstanding
  have fires := (ClientTransaction.TimerStep.requestTimeout unanswered).onTimer_eq started
  have settled : client.supervise (.timer .requestTimeout) =
      settle (client.outstanding.erase .requestTimeout)
        (client.transaction.onTimer .requestTimeout) := if_pos outstanding
  rw [settled, fires]
  exact ⟨rfl, by simp [settle, actionsOf]⟩

/-- Only the start of a transaction arms its request timeout. -/
theorem requestTimeout_armed_by_start {input : ClientInput} {delay : Duration}
    (armed : .schedule .requestTimeout delay ∈ actionsOf (client.supervise input).2) :
    input = .start ∧ delay = client.transaction.requestTimeout := by
  cases input with
  | start =>
    refine ⟨rfl, ?_⟩
    simp only [supervise, settle, ClientTransaction.start] at armed
    split_ifs at armed
    · simp [actionsOf] at armed
    · cases pending : client.transaction.nextRetransmit <;>
        simp [pending, actionsOf] at armed <;>
        exact armed
  | response response =>
    rcases client.transaction.onResponse_cases response with
      ⟨error, refused⟩ | ⟨after, actions, taken, -, -, step⟩
    · simp [supervise, settle, refused, actionsOf] at armed
    · simp only [supervise, settle, taken, actionsOf] at armed
      cases step with
      | lingers ack delay acked state status lingering =>
        cases ack <;> simp [ackActions] at armed
      | ends ack acked state status lingering =>
        cases ack <;> simp [ackActions] at armed
      | _ => simp at armed
  | timer timer =>
    simp only [supervise] at armed
    split_ifs at armed
    · rcases client.transaction.onTimer_cases timer with
        ⟨error, refused⟩ | ⟨after, actions, taken, -, step⟩
      · simp [settle, refused, actionsOf] at armed
      · simp only [settle, taken, actionsOf] at armed
        cases step <;> simp at armed
    · simp [actionsOf] at armed

/-- A supervised transaction that is still unanswered was so before, and has
delivered no final response. -/
theorem unanswered_of_supervise {input : ClientInput}
    (unanswered : IsUnanswered (client.supervise input).1.state) :
    IsUnanswered client.state ∧ client.transaction.delivery StatusCode.Final input = 0 := by
  cases input with
  | start => exact unanswered_of_step unanswered
  | response response => exact unanswered_of_step unanswered
  | timer timer =>
    refine ⟨?_, rfl⟩
    rcases client.transaction_supervise (.timer timer) with stepped | same
    · rw [state, stepped] at unanswered
      exact (unanswered_of_step unanswered).1
    · rwa [state, same] at unanswered

/-- A run that leaves the transaction unanswered has delivered no final
response. -/
theorem no_final_of_unanswered
    (tx : ClientTransaction) (inputs : List ClientInput)
    (unanswered : IsUnanswered (clientAfter tx inputs).state) :
    Run.AllSteps
      (fun earlier input =>
        (clientAfter tx earlier).transaction.delivery StatusCode.Final input = 0)
      inputs := by
  induction inputs using List.reverseRecOn with
  | nil => simp
  | append_singleton earlier input ih =>
    have extended : clientAfter tx (earlier ++ [input]) =
        ((clientAfter tx earlier).supervise input).1 := by
      simp [clientAfter]
    rw [extended] at unanswered
    obtain ⟨before, none⟩ := unanswered_of_supervise unanswered
    exact (Run.allSteps_concat _ _ _).mpr ⟨ih before, none⟩

end SupervisedClient

end Transaction
end LiveAISIP
