import LiveAISIP.Transaction.ClientDelivery

/-!
# Acknowledgement of failures

Which ACKs an INVITE transaction sends in a run.  The first accepted non-2xx
final response fixes the bytes, every later one sends them again, and an input
that is refused leaves no trace.
-/

namespace LiveAISIP
namespace Transaction

open Sip

namespace ClientTransaction

variable {tx : ClientTransaction} {response : ValidatedResponse}

variable {after : ClientTransaction}

/-- The ACKs among some actions, in order. -/
def acksOf (actions : List Action) : List Bytes := actions.filterMap fun
    | .sendAck bytes => some bytes
    | _ => none

@[simp] theorem acksOf_append (first second : List Action) :
    acksOf (first ++ second) = acksOf first ++ acksOf second :=
  List.filterMap_append

@[simp] theorem acksOf_ackActions (ack : Option Bytes) :
    acksOf (ackActions ack) = ack.toList := by
  cases ack <;> rfl

/-- The ACKs of a run, in order. -/
def acksSent (tx : ClientTransaction) (inputs : List ClientInput) : List Bytes :=
  (Run.outputs step tx inputs).flatMap fun outcome => acksOf (actionsOf outcome)

theorem acksSent_concat
    (tx : ClientTransaction) (inputs : List ClientInput) (last : ClientInput) :
    tx.acksSent (inputs ++ [last]) =
      tx.acksSent inputs ++ acksOf (actionsOf ((tx.after inputs).step last).2) := by
  simp [acksSent, Run.outputs_concat, Run.output, after]

/-- An ACK that is cached is the one that a response calls for. -/
theorem ackFor_of_cached
    {bytes cached : Bytes} (acked : tx.ackFor response = .ok (some bytes))
    (present : tx.non2xxAck = some cached) :
    cached = bytes := by
  by_cases failed : tx.IsNon2xxInvite response.status
  · simpa [ackFor, failed, present] using acked
  · simp [ackFor, failed] at acked

/-- What a step does to the ACKs of a transaction: the ACK it sends, if any,
is the cached one afterwards, and the cached one never changes. -/
structure AckStep
    (tx after : ClientTransaction) (sent : Option Bytes) : Prop where
  cached : after.non2xxAck = tx.non2xxAck.or sent
  unchanged : ∀ bytes ∈ sent, ∀ earlier ∈ tx.non2xxAck, earlier = bytes

/-- A step that sends no ACK leaves the cached one. -/
theorem AckStep.silent (same : after.non2xxAck = tx.non2xxAck) :
    AckStep tx after none :=
  ⟨by simp [same], by simp⟩

/-- A step that sends an ACK caches it where none was cached. -/
theorem AckStep.sends {ack : Option Bytes} (acked : tx.ackFor response = .ok ack)
    (cached : after.non2xxAck = tx.non2xxAck.or ack) :
    AckStep tx after ack := by
  refine ⟨cached, ?_⟩
  rintro bytes rfl earlier present
  exact ackFor_of_cached acked present

/-- An accepted response of an INVITE sends one ACK where it is a failure, and
none otherwise. -/
theorem ResponseStep.acks
    {actions : List Action} (step : ResponseStep tx response after actions)
    (invite : tx.kind = .invite) :
    ∃ sent : Option Bytes, acksOf actions = sent.toList ∧
      (sent.isSome ↔ response.status.Failure) ∧ AckStep tx after sent := by
  have called {ack : Option Bytes} (acked : tx.ackFor response = .ok ack) :
      ack.isSome ↔ response.status.Failure := by
    by_cases failure : response.status.Failure
    · obtain ⟨bytes, rfl⟩ := ackFor_of_non2xx ⟨invite, failure⟩ acked
      simp [failure]
    · obtain rfl := ackFor_of_not_non2xx (fun failed => failure failed.2) acked
      simp [failure]
  cases step with
  | firstProvisional kind state status | provisional state status =>
    exact ⟨none, rfl, by simp [status.not_failure], .silent rfl⟩
  | lingers ack delay acked state status lingering | ends ack acked state status lingering =>
    exact ⟨ack, by simp [acksOf_append]; rfl, called acked, .sends acked rfl⟩
  | repeatedSuccess kind state status | lateSuccess kind state status =>
    exact ⟨none, rfl, by simp [status.not_failure], .silent rfl⟩
  | repeatedFailure bytes acked kind state status =>
    exact ⟨some bytes, rfl, called acked, .sends acked rfl⟩
  | repeatedFinal kind state status => simp [kind] at invite

/-- A timer sends no ACK. -/
theorem TimerStep.acks {timer : Timer} {actions : List Action}
    (step : TimerStep tx timer after actions) :
    acksOf actions = [] ∧ AckStep tx after none := by
  cases step <;> exact ⟨rfl, .silent rfl⟩

/-- Every input of an INVITE transaction sends at most one ACK, the cached
one. -/
theorem ackStep_step (invite : tx.kind = .invite) (input : ClientInput) :
    ∃ sent : Option Bytes, acksOf (actionsOf (tx.step input).2) = sent.toList ∧
      AckStep tx (tx.step input).1 sent := by
  cases input with
  | start =>
    refine ⟨none, ?_, .silent ?_⟩
    · simp only [step, start]
      split_ifs
      · rfl
      · cases tx.nextRetransmit <;> rfl
    · simp only [step, start]
      split_ifs <;> rfl
  | response response =>
    rcases tx.onResponse_cases response with
      ⟨error, refused⟩ | ⟨after, actions, taken, -, -, step⟩
    · simp only [ClientTransaction.step, refused]
      exact ⟨none, rfl, .silent rfl⟩
    · simp only [ClientTransaction.step, taken]
      obtain ⟨sent, acks, -, kept⟩ := step.acks invite
      exact ⟨sent, acks, kept⟩
  | timer timer =>
    rcases tx.onTimer_cases timer with
      ⟨error, refused⟩ | ⟨after, actions, taken, -, step⟩
    · simp only [ClientTransaction.step, refused]
      exact ⟨none, rfl, .silent rfl⟩
    · simp only [ClientTransaction.step, taken]
      exact ⟨none, step.acks⟩

/-- A refused input changes nothing. -/
theorem step_of_refused {input : ClientInput} {error : ClientError}
    (refused : (tx.step input).2 = .error error) :
    (tx.step input).1 = tx := by
  cases input with
  | start =>
    by_cases started : tx.started = true
    · simp [step, start, started]
    · simp [step, start, started] at refused
  | response response =>
    rcases tx.onResponse_cases response with
      ⟨error', result⟩ | ⟨after, actions, taken, -⟩
    · simp [step, result]
    · simp [step, taken] at refused
  | timer timer =>
    rcases tx.onTimer_cases timer with
      ⟨error', result⟩ | ⟨after, actions, taken, -⟩
    · simp [step, result]
    · simp [step, taken] at refused

/-- The method family of a transaction is the same all along a run. -/
theorem kind_after (tx : ClientTransaction) (inputs : List ClientInput) :
    (tx.after inputs).kind = tx.kind := by
  apply Run.invariant (fun state : ClientTransaction => state.kind = tx.kind)
  · rfl
  · intro state input kind
    exact (sameIdentity_step state input).kind.trans kind

/-- Every ACK of a run is the one cached at its end. -/
theorem acksSent_cached (invite : tx.kind = .invite) (inputs : List ClientInput) :
    ∀ bytes ∈ tx.acksSent inputs, (tx.after inputs).non2xxAck = some bytes := by
  induction inputs using List.reverseRecOn with
  | nil => simp [acksSent]
  | append_singleton earlier input ih =>
    obtain ⟨sent, acks, kept⟩ := ackStep_step ((tx.kind_after earlier).trans invite) input
    intro bytes mem
    rw [acksSent_concat, acks, List.mem_append, Option.mem_toList] at mem
    rw [after_concat, kept.cached]
    rcases mem with before | now
    · simp [ih bytes before]
    · -- An ACK cached before is the one sent now.
      cases present : (tx.after earlier).non2xxAck with
      | none => simpa using now
      | some cached => simp [kept.unchanged bytes now cached present]

/-- In every run of an INVITE transaction an accepted failure sends exactly
one ACK and any other accepted response none, all ACKs of the run carry the
same bytes, and whatever is refused leaves the transaction as it was. -/
theorem failures_acknowledged
    (fromRequest : ValidatedRequest → Except AckBuildError Non2xxAckTemplate)
    (request : ValidatedRequest) (reliable : Bool) (timers : TimerConfig) (tx : ClientTransaction)
    (created : new fromRequest request reliable timers = .ok tx)
    (invite : TransactionKind.fromMethod request.method = .invite) (inputs : List ClientInput) :
    (∀ earlier response later actions, inputs = earlier ++ .response response :: later →
      ((tx.after earlier).onResponse response).2 = .ok actions →
      (acksOf actions).length = if response.status.Failure then 1 else 0) ∧
    (∀ first ∈ tx.acksSent inputs, ∀ second ∈ tx.acksSent inputs, first = second) ∧
    ∀ earlier input later error, inputs = earlier ++ input :: later →
      ((tx.after earlier).step input).2 = .error error →
      ((tx.after earlier).step input).1 = tx.after earlier := by
  have kind : tx.kind = .invite := by
    obtain ⟨key, template, -, -, rfl⟩ := new_eq_ok created
    exact invite
  refine ⟨?_, ?_, ?_⟩
  · intro earlier response later actions _ accepted
    rcases (tx.after earlier).onResponse_cases response with
      ⟨error, refused⟩ | ⟨after, taken, result, -, -, step⟩
    · simp [refused] at accepted
    · simp only [result, Except.ok.injEq] at accepted
      subst accepted
      obtain ⟨sent, acks, failure, -⟩ := step.acks ((tx.kind_after earlier).trans kind)
      rw [acks]
      by_cases failed : response.status.Failure
      · obtain ⟨bytes, rfl⟩ := Option.isSome_iff_exists.mp (failure.mpr failed)
        simp [failed]
      · have none : sent = none := by
          simpa using mt failure.mp failed
        simp [none, failed]
  · intro first firstSent second secondSent
    have last := acksSent_cached kind inputs first firstSent
    rw [acksSent_cached kind inputs second secondSent] at last
    exact (Option.some.inj last).symm
  · intro earlier input later error _ refused
    exact step_of_refused refused

/-- A repeated 486 response sends the ACK of the first one again. -/
theorem failures_acknowledged_busy :
    ∃ tx, new (fun _ => .ok inviteAckTemplate) inviteRequest false .default = .ok tx ∧
      (tx.acksSent [.start, .response (responseTo inviteRequest .busyHere none),
        .response (responseTo inviteRequest .busyHere none)]).length = 2 ∧
      ∀ first ∈ tx.acksSent
          [.start, .response (responseTo inviteRequest .busyHere none),
            .response (responseTo inviteRequest .busyHere none)], ∀ second ∈ tx.acksSent
            [.start, .response (responseTo inviteRequest .busyHere none),
              .response (responseTo inviteRequest .busyHere none)],
          first = second := by
  refine ⟨_, rfl, by decide +kernel, ?_⟩
  exact (failures_acknowledged (fun _ => .ok inviteAckTemplate) inviteRequest
    false .default _ rfl rfl _).2.1

end ClientTransaction

end Transaction
end LiveAISIP
