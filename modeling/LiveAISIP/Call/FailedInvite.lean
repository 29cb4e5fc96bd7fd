import LiveAISIP.Call.Wire
import LiveAISIP.Transaction.ClientDelivery
import LiveAISIP.Transaction.ClientTimers

/-!
# The end of a failed INVITE

One INVITE client transaction, the translation of its responses and the call
lifecycle, composed as the signaling engine composes them: a delivered
response is handled as its event, and the request timeout as a signaling
timeout.  The transaction delivers one non-2xx final response, while the
lifecycle waits for the end of every branch it has noted.
-/

namespace LiveAISIP
namespace Call

open Sip
open Transaction
open ClientTransaction

/-- An INVITE transaction with its timers, and the call it belongs to. -/
structure InviteCall where
  client : SupervisedClient
  call : CallLifecycle

/-- What reaches an INVITE that is under way. -/
inductive InviteInput
  | response (response : ValidatedResponse)
  | timer (timer : Timer)

namespace InviteCall

variable {invite : InviteCall} {outcome : Outcome} {tx next : ClientTransaction}
  {inputs : List InviteInput} {actions : List Action}

/-- The call after an optional event. -/
def observe (call : CallLifecycle) : Option CallEvent → CallLifecycle
  | some event => (call.handle event).1
  | none => call

/-- The event of a response, once the transaction delivers it. -/
def deliveredEvent
    (outcome : Outcome) (response : ValidatedResponse) : Option CallEvent :=
  if .deliverResponse ∈ ClientTransaction.actionsOf outcome then
    match responseEvent response with
    | .ok event => event
    | .error _ => none
  else
    none

/-- The event of a timer that fired. -/
def timerEvent (timer : Timer) : Option CallEvent :=
  if timer = .requestTimeout then some .signalingTimedOut else none

/-- Start the call and its INVITE transaction. -/
def start (tx : ClientTransaction) : InviteCall where
  client := ((SupervisedClient.idle tx).supervise .start).1
  call := (CallLifecycle.idle.handle (.command .start)).1

/-- Take one input; a timer that is not outstanding does not fire. -/
def step (invite : InviteCall) : InviteInput → InviteCall × Unit
  | .response response =>
    let (client, outcome) := invite.client.supervise (.response response)
    (⟨client, observe invite.call (deliveredEvent outcome response)⟩, ())
  | .timer timer =>
    let (client, outcome) := invite.client.supervise (.timer timer)
    if timer ∈ invite.client.outstanding then
      match outcome with
      | .ok _ => (⟨client, observe invite.call (timerEvent timer)⟩, ())
      | .error _ => (⟨client, invite.call⟩, ())
    else
      (invite, ())

/-- The state after a run of inputs. -/
def after (tx : ClientTransaction) (inputs : List InviteInput) : InviteCall :=
  Run.after step (start tx) inputs

/-- The transaction of the call. -/
def transaction (invite : InviteCall) : ClientTransaction := invite.client.transaction

/-- The call has ended. -/
def HasEnded (invite : InviteCall) : Prop := ∃ reason, invite.call.state = .ended reason

theorem not_hasEnded (inviting : invite.call.state = .inviting) :
    ¬invite.HasEnded := by
  rintro ⟨reason, ended⟩
  simp [inviting] at ended

/-- The response is a non-2xx final one that the unanswered INVITE takes. -/
structure Fails (invite : InviteCall) (response : ValidatedResponse) : Prop where
  failure : response.status.Failure
  addressed : invite.transaction.Matches response
  unanswered : IsUnanswered invite.transaction.state
  acked : ∃ ack, invite.transaction.ackFor response = .ok ack

/-- No branch but this one was noted. -/
def NotesOnly (invite : InviteCall) (branch : DialogBranchId) : Prop :=
  ∀ noted ∈ invite.call.forks.branches, noted.id = branch

instance (invite : InviteCall) (branch : DialogBranchId) : Decidable (invite.NotesOnly branch) :=
  inferInstanceAs (Decidable (∀ noted ∈ invite.call.forks.branches, _))

/-- When the INVITE fails, only the branch of the failure has been noted. -/
def FailsAlone (tx : ClientTransaction) (inputs : List InviteInput) : Prop := Run.AllSteps
    (fun earlier input => ∀ response, input = .response response →
      (after tx earlier).Fails response →
      (after tx earlier).NotesOnly (branchOf response)) inputs

/-- No 2xx response is delivered. -/
def NeverSucceeds (tx : ClientTransaction) (inputs : List InviteInput) : Prop := Run.AllSteps
    (fun earlier input => ∀ response, input = .response response → response.status.Success →
      ¬(after tx earlier).transaction.Delivers response) inputs

/-- What holds of an INVITE whatever reaches it. -/
structure Sound (invite : InviteCall) : Prop where
  disciplined : invite.client.Disciplined
  kind : invite.transaction.kind = .invite
  method : invite.transaction.key.method = .invite
  started : invite.transaction.started = true
  calling : invite.transaction.state ≠ .trying

/-- The event of a delivered INVITE response. -/
theorem deliveredEvent_eq {response : ValidatedResponse}
    (delivered : .deliverResponse ∈ ClientTransaction.actionsOf outcome)
    (method : response.cseq.method = .invite) :
    deliveredEvent outcome response =
      if response.status.asU16 = 100 then none
      else if response.status.Provisional then
        some (.provisional (branchOf response) (!response.body.isEmpty))
      else if response.status.Success then
        some (.inviteAccepted (branchOf response))
      else
        some (.inviteRejected (branchOf response) response.status.asU16) := by
  simp only [deliveredEvent, delivered, ↓reduceIte, responseEvent_eq]
  split_ifs <;> simp_all [branchEvent]

/-- A response addressed to an INVITE carries its method. -/
theorem Sound.cseq_method (sound : invite.Sound) {response : ValidatedResponse}
    (addressed : invite.transaction.Matches response) :
    response.cseq.method = .invite := by
  rw [← sound.method]
  exact (TransactionKey.method_of_fromParts addressed).symm

/-- An unanswered INVITE takes a non-2xx final response whose ACK can be
built. -/
theorem Sound.takes_failure (sound : invite.Sound) {response : ValidatedResponse}
    (fails : invite.Fails response) :
    ∃ after actions, invite.transaction.onResponse response = (after, .ok actions) := by
  obtain ⟨failure, addressed, unanswered, ack, acked⟩ := fails
  have notProvisional : ¬response.status.Provisional :=
    fun provisional => provisional.not_failure failure
  have next : invite.transaction.machine.onResponse response.status =
      .ok { invite.transaction.machine with state := .completed } := by
    have kind : invite.transaction.machine.kind = .invite := sound.kind
    unfold ClientMachine.onResponse ClientMachine.next
    rw [kind]
    rcases unanswered with state | state | state
    · rw [show invite.transaction.machine.state = _ from state]
      simp [notProvisional, failure.not_success, kind]
    · exact absurd state sound.calling
    · rw [show invite.transaction.machine.state = _ from state]
      simp [notProvisional, failure.not_success, kind]
  obtain ⟨after, actions, applied, -⟩ := applyResponse_step next acked
  refine ⟨after, actions, ?_⟩
  unfold Matches at addressed
  simp [onResponse, sound.started, addressed, next, acked, applied]

/-- Every input keeps an INVITE sound. -/
theorem Sound.step (sound : invite.Sound) (input : InviteInput) :
    (invite.step input).1.Sound := by
  have supervised (input : ClientInput) (call : CallLifecycle) :
      InviteCall.Sound ⟨(invite.client.supervise input).1, call⟩ := by
    have same := invite.client.sameIdentity_supervise input
    refine ⟨sound.disciplined.supervise input, same.kind.trans sound.kind, ?_,
      same.started sound.started, ?_⟩
    · exact (congrArg TransactionKey.method same.key).trans sound.method
    · rcases invite.client.transaction_supervise input with stepped | same
      · rw [transaction, stepped]
        exact state_step_ne_trying sound.calling input
      · rw [transaction, same]
        exact sound.calling
  cases input with
  | response response => exact supervised (.response response) _
  | timer timer =>
    simp only [InviteCall.step]
    split_ifs
    · rcases outcome : invite.client.supervise (.timer timer) with
        ⟨client, error | actions⟩ <;>
        simpa [outcome] using supervised (.timer timer) _
    · exact sound

/-- The relation between the transaction, the call and the history of a run
without 2xx responses. -/
structure Tracks
    (tx : ClientTransaction) (inputs : List InviteInput) (invite : InviteCall) : Prop where
  sound : invite.Sound
  unanswered : IsUnanswered invite.transaction.state → invite.call.Waiting ∧ FailsAlone tx inputs
  answered : ¬IsUnanswered invite.transaction.state →
    (invite.HasEnded ∧ FailsAlone tx inputs) ∨
      (invite.call.state = .inviting ∧ ¬FailsAlone tx inputs)

/-- An input that changes neither call nor the answer to the INVITE keeps the
relation. -/
theorem Tracks.quiet
    {next : InviteCall} {input : InviteInput}
    (tracks : Tracks tx inputs invite) (sound : next.Sound) (call : next.call = invite.call)
    (answer : IsUnanswered next.transaction.state ↔ IsUnanswered invite.transaction.state)
    (history : FailsAlone tx (inputs ++ [input]) ↔ FailsAlone tx inputs) :
    Tracks tx (inputs ++ [input]) next := by
  refine ⟨sound, ?_, ?_⟩
  · rw [answer, call, history]
    exact tracks.unanswered
  · rw [answer, HasEnded, call, history]
    exact tracks.answered

theorem failsAlone_response
    (tx : ClientTransaction) (inputs : List InviteInput) (response : ValidatedResponse) :
    FailsAlone tx (inputs ++ [InviteInput.response response]) ↔
      FailsAlone tx inputs ∧ ((after tx inputs).Fails response →
          (after tx inputs).NotesOnly (branchOf response)) := by
  unfold FailsAlone
  rw [Run.allSteps_concat]
  simp

theorem failsAlone_timer
    (tx : ClientTransaction) (inputs : List InviteInput) (timer : Timer) :
    FailsAlone tx (inputs ++ [InviteInput.timer timer]) ↔ FailsAlone tx inputs := by
  unfold FailsAlone
  rw [Run.allSteps_concat]
  simp

/-- A response that is no failure of the INVITE leaves the history alone. -/
theorem failsAlone_of_not_fails
    {response : ValidatedResponse} (other : ¬(after tx inputs).Fails response) :
    FailsAlone tx (inputs ++ [InviteInput.response response]) ↔ FailsAlone tx inputs := by
  rw [failsAlone_response]
  exact and_iff_left fun fails => absurd fails other

theorem transaction_step_response
    (invite : InviteCall) (response : ValidatedResponse) :
    (invite.step (.response response)).1.transaction =
      (invite.transaction.onResponse response).1 := rfl

theorem call_step_response
    (invite : InviteCall) (response : ValidatedResponse) :
    (invite.step (.response response)).1.call = observe invite.call (deliveredEvent
        (invite.transaction.onResponse response).2 response) := rfl

/-- A provisional response keeps the call waiting. -/
theorem waiting_provisional
    {call : CallLifecycle} {response : ValidatedResponse} (waiting : call.Waiting)
    (delivered : .deliverResponse ∈ ClientTransaction.actionsOf outcome)
    (method : response.cseq.method = .invite) (provisional : response.status.Provisional) :
    (observe call (deliveredEvent outcome response)).Waiting := by
  rw [deliveredEvent_eq delivered method]
  split_ifs
  · exact waiting
  · exact waiting.handle_provisional _ _

/-- The delivered failure ends the call exactly when only its own branch was
noted. -/
theorem rejected_failure
    {call : CallLifecycle} {response : ValidatedResponse} (waiting : call.Waiting)
    (delivered : .deliverResponse ∈ ClientTransaction.actionsOf outcome)
    (method : response.cseq.method = .invite) (failure : response.status.Failure) :
    ((∃ reason, (observe call (deliveredEvent outcome response)).state = .ended reason) ∧
      ∀ noted ∈ call.forks.branches, noted.id = branchOf response) ∨
    ((observe call (deliveredEvent outcome response)).state = .inviting ∧
      ∃ noted ∈ call.forks.branches, noted.id ≠ branchOf response) := by
  have notTrying : response.status.asU16 ≠ 100 := by
    have lower : 300 ≤ response.status.asU16 := failure
    omega
  have notProvisional : ¬response.status.Provisional :=
    fun provisional => provisional.not_failure failure
  rw [deliveredEvent_eq delivered method, if_neg notTrying,
    if_neg notProvisional, if_neg failure.not_success]
  exact waiting.handle_rejected _ ⟨failure, response.status.upper⟩

/-- The delivered failure settles the relation. -/
theorem Tracks.failure
    {response : ValidatedResponse} (tracks : Tracks tx inputs (after tx inputs))
    (fails : (after tx inputs).Fails response)
    (taken : (after tx inputs).transaction.onResponse response = (next, .ok actions))
    (delivered : .deliverResponse ∈ actions)
    (answered : ¬IsUnanswered next.state) :
    Tracks tx (inputs ++ [InviteInput.response response])
      ((after tx inputs).step (.response response)).1 := by
  obtain ⟨waiting, alone⟩ := tracks.unanswered fails.unanswered
  have method := tracks.sound.cseq_method fails.addressed
  refine ⟨tracks.sound.step _, ?_, fun _ => ?_⟩
  · rw [transaction_step_response, taken]
    exact fun unanswered => absurd unanswered answered
  · rw [failsAlone_response, HasEnded, call_step_response, taken]
    rcases rejected_failure waiting
      (show Action.deliverResponse ∈ ClientTransaction.actionsOf (.ok actions)
        from delivered) method fails.failure with ⟨ended, own⟩ | ⟨inviting, other⟩
    · exact .inl ⟨ended, alone, fun _ => own⟩
    · refine .inr ⟨inviting, fun both => ?_⟩
      obtain ⟨noted, member, different⟩ := other
      exact different (both.2 fails noted member)

/-- A delivered provisional response keeps the call waiting. -/
theorem Tracks.provisional
    {response : ValidatedResponse} (tracks : Tracks tx inputs (after tx inputs))
    (unanswered : IsUnanswered (after tx inputs).transaction.state)
    (addressed : (after tx inputs).transaction.Matches response)
    (provisional : response.status.Provisional)
    (taken : (after tx inputs).transaction.onResponse response = (next, .ok actions))
    (delivered : .deliverResponse ∈ actions) (still : IsUnanswered next.state) :
    Tracks tx (inputs ++ [InviteInput.response response])
      ((after tx inputs).step (.response response)).1 := by
  obtain ⟨waiting, alone⟩ := tracks.unanswered unanswered
  have method := tracks.sound.cseq_method addressed
  have other : ¬(after tx inputs).Fails response :=
    fun fails => provisional.not_failure fails.failure
  refine ⟨tracks.sound.step _, fun _ => ?_, ?_⟩
  · rw [failsAlone_of_not_fails other, call_step_response, taken]
    exact ⟨waiting_provisional waiting delivered method provisional, alone⟩
  · rw [transaction_step_response, taken]
    exact fun answered => absurd still answered

/-- A response keeps the relation unless it is a delivered 2xx. -/
theorem Tracks.response
    (tracks : Tracks tx inputs (after tx inputs)) (response : ValidatedResponse)
    (unsuccessful : response.status.Success → ¬(after tx inputs).transaction.Delivers response) :
    Tracks tx (inputs ++ [InviteInput.response response])
      ((after tx inputs).step (.response response)).1 := by
  have sound := tracks.sound
  have soundNext := sound.step (.response response)
  rcases (after tx inputs).transaction.onResponse_cases response with
    ⟨error, refused⟩ | ⟨next, actions, taken, -, addressed, step⟩
  · have other : ¬(after tx inputs).Fails response := by
      intro fails
      obtain ⟨next, actions, taken⟩ := sound.takes_failure fails
      simp [taken] at refused
    refine tracks.quiet soundNext ?_ ?_ (failsAlone_of_not_fails other)
    · rw [call_step_response, refused]
      rfl
    · rw [transaction_step_response, refused]
  · have method := sound.cseq_method addressed
    have undelivered (success : response.status.Success) : .deliverResponse ∉ actions := by
      simpa [Delivers, taken] using unsuccessful success
    cases step with
    | firstProvisional kind state status =>
      exact tracks.provisional (by simp [state]) addressed status taken (by simp) (by simp)
    | provisional state status =>
      refine tracks.provisional ?_ addressed status taken (by simp) (by simp)
      rcases state with state | ⟨-, state⟩ <;> simp [state]
    | lingers ack delay acked state status lingering =>
      rcases status.success_or_failure with success | failure
      · exact absurd (by simp) (undelivered success)
      · refine tracks.failure ⟨failure, addressed, state, ack, acked⟩ taken (by simp) ?_
        exact ((after tx inputs).transaction.isLingering_finalState response.status).not_unanswered
    | ends ack acked state status lingering =>
      rcases status.success_or_failure with success | failure
      · exact absurd (by simp) (undelivered success)
      · exact tracks.failure ⟨failure, addressed, state, ack, acked⟩ taken (by simp) (by simp)
    | repeatedSuccess kind state status =>
      exact absurd (by simp) (undelivered status)
    | lateSuccess kind state status => exact absurd (by simp) (undelivered status)
    | repeatedFailure bytes acked kind state status =>
      have other : ¬(after tx inputs).Fails response := by
        intro fails
        simpa [state] using fails.unanswered
      refine tracks.quiet soundNext ?_ ?_ (failsAlone_of_not_fails other)
      · rw [call_step_response, taken]
        simp [deliveredEvent, observe]
      · rw [transaction_step_response, taken]
        simp
    | repeatedFinal kind state status => simp [sound.kind] at kind

/-- An outstanding timer that is refused changes nothing but the timers. -/
theorem step_timer_refused {timer : Timer} {error : ClientError}
    (outstanding : timer ∈ invite.client.outstanding)
    (refused : invite.transaction.onTimer timer = (invite.transaction, .error error)) :
    (invite.step (.timer timer)).1.transaction = invite.transaction ∧
      (invite.step (.timer timer)).1.call = invite.call := by
  unfold transaction at refused
  simp [step, transaction, SupervisedClient.supervise, outstanding,
    SupervisedClient.settle, refused]

/-- An outstanding timer that is taken is observed by the call. -/
theorem step_timer_taken {timer : Timer} (outstanding : timer ∈ invite.client.outstanding)
    (taken : invite.transaction.onTimer timer = (next, .ok actions)) :
    (invite.step (.timer timer)).1.transaction = next ∧ (invite.step (.timer timer)).1.call =
        observe invite.call (timerEvent timer) := by
  unfold transaction at taken
  simp [step, transaction, SupervisedClient.supervise, outstanding, SupervisedClient.settle, taken]

/-- A timer keeps the relation. -/
theorem Tracks.timer
    (tracks : Tracks tx inputs (after tx inputs)) (timer : Timer) :
    Tracks tx (inputs ++ [InviteInput.timer timer]) ((after tx inputs).step (.timer timer)).1 := by
  have sound := tracks.sound
  have soundNext := sound.step (.timer timer)
  have history := failsAlone_timer tx inputs timer
  by_cases outstanding : timer ∈ (after tx inputs).client.outstanding
  · rcases (after tx inputs).transaction.onTimer_cases timer with
      ⟨error, refused⟩ | ⟨next, actions, taken, -, step⟩
    · obtain ⟨sameTransaction, sameCall⟩ := step_timer_refused outstanding refused
      exact tracks.quiet soundNext sameCall (by rw [sameTransaction]) history
    · obtain ⟨nextTransaction, nextCall⟩ := step_timer_taken outstanding taken
      cases step with
      | requestTimeout state =>
        obtain ⟨waiting, alone⟩ := tracks.unanswered state
        refine ⟨soundNext, ?_, fun _ => .inl ⟨?_, history.mpr alone⟩⟩
        · rw [nextTransaction]
          intro unanswered
          simp at unanswered
        · refine ⟨.signalingTimeout, ?_⟩
          rw [nextCall]
          simp [timerEvent, observe, CallLifecycle.handle,
            waiting.not_terminal, CallLifecycle.finish]
      | linger state =>
        refine tracks.quiet soundNext nextCall ?_ history
        rw [nextTransaction]
        simp [state.not_unanswered]
      | retransmit current next pending allowed following =>
        refine tracks.quiet soundNext nextCall ?_ history
        rw [nextTransaction]
        simp
  · have ignored : ((after tx inputs).step (.timer timer)).1 = after tx inputs := by
      simp [InviteCall.step, outstanding]
    refine tracks.quiet soundNext ?_ ?_ history
    · rw [ignored]
    · rw [ignored]

/-- A started INVITE satisfies the relation before any input. -/
theorem tracks_start
    {fromRequest : ValidatedRequest → Except AckBuildError Non2xxAckTemplate}
    {request : ValidatedRequest}
    {reliable : Bool}
    {timers : TimerConfig}
    (isInvite : request.method = .invite)
    (created : new fromRequest request reliable timers = .ok tx) :
    Tracks tx [] (after tx []) := by
  have disciplined := (SupervisedClient.disciplined_new created).supervise .start
  have unanswered := isUnanswered_new created
  have launched : (after tx []).transaction = tx.launch := by
    obtain ⟨key, template, -, -, rfl⟩ := new_eq_ok created
    rfl
  obtain ⟨key, template, keyed, -, tx_eq⟩ := new_eq_ok created
  have kind : tx.kind = .invite := by
    rw [tx_eq]
    simp [ClientTransaction.kind, ClientMachine.new, isInvite, TransactionKind.fromMethod]
  have method : tx.key.method = .invite := by
    have built := TransactionKey.method_of_fromParts keyed
    rw [request.cseq_method, isInvite] at built
    rw [tx_eq]
    exact built
  have calling : tx.state ≠ .trying := by
    rw [tx_eq]
    simp [state, ClientMachine.new, isInvite, TransactionKind.fromMethod]
  refine ⟨⟨disciplined, ?_, ?_, ?_, ?_⟩, fun _ => ⟨?_, ?_⟩, fun answered => ?_⟩
  · rw [launched]
    exact kind
  · rw [launched]
    exact method
  · rw [launched]
    rfl
  · rw [launched]
    exact calling
  · exact ⟨rfl, rfl, fun branch member => by cases member⟩
  · exact Run.allSteps_nil _
  · rw [launched] at answered
    exact absurd unanswered answered

/-- In a run without delivered 2xx responses, the relation holds throughout. -/
theorem tracks_after (initial : Tracks tx [] (after tx []))
    (inputs : List InviteInput) (unsuccessful : NeverSucceeds tx inputs) :
    Tracks tx inputs (after tx inputs) := by
  refine Run.guarded_invariant (Tracks tx) initial ?_ inputs unsuccessful
  intro earlier input unsuccessful tracks
  cases input with
  | response response => exact tracks.response response (unsuccessful response rfl)
  | timer timer => exact tracks.timer timer

/-- In every run of an INVITE without delivered 2xx responses, once the
transaction has terminated the call has ended exactly when the failure of the
INVITE, if there was one, came from the only branch noted before it. -/
theorem failed_invite_ended_iff
    (fromRequest : ValidatedRequest → Except AckBuildError Non2xxAckTemplate)
    (request : ValidatedRequest) (reliable : Bool) (timers : TimerConfig)
    (tx : ClientTransaction) (isInvite : request.method = .invite)
    (created : new fromRequest request reliable timers = .ok tx)
    (inputs : List InviteInput) (unsuccessful : NeverSucceeds tx inputs)
    (terminated : (after tx inputs).transaction.state = .terminated) :
    (after tx inputs).HasEnded ↔ FailsAlone tx inputs := by
  have tracks := tracks_after (tracks_start isInvite created) inputs unsuccessful
  rcases tracks.answered (by simp [terminated]) with
    ⟨ended, alone⟩ | ⟨inviting, notAlone⟩
  · exact iff_of_true ended alone
  · exact iff_of_false (not_hasEnded inviting) notAlone

/-- A branch rings. -/
def ringing : InviteInput := .response (responseTo inviteRequest .ringing (some tagA))

/-- A branch is busy. -/
def busy (tag : Tag) : InviteInput := .response (responseTo inviteRequest .busyHere (some tag))

/-- A run of responses that are no 2xx never succeeds. -/
theorem neverSucceeds_of_unsuccessful
    (tx : ClientTransaction)
    (unsuccessful : ∀ response, .response response ∈ inputs → ¬response.status.Success) :
    NeverSucceeds tx inputs := by
  intro earlier input later split response isResponse success
  exact absurd success (unsuccessful response (by simp [split, isResponse]))

/-- The run in which one branch rings and a branch is busy. -/
def ringingThenBusy (tag : Tag) : List InviteInput := [ringing, busy tag, .timer .linger]

theorem neverSucceeds_ringingThenBusy (tx : ClientTransaction) (tag : Tag) :
    NeverSucceeds tx (ringingThenBusy tag) := by
  refine neverSucceeds_of_unsuccessful tx fun response member => ?_
  simp only [ringingThenBusy, ringing, busy, List.mem_cons,
    InviteInput.response.injEq, List.not_mem_nil, reduceCtorEq, or_false] at member
  rcases member with rfl | rfl <;> simp only [responseTo] <;> decide

/-- The only branch rings and is busy: the call has ended. -/
theorem failed_invite_ended_one_branch :
    ∃ tx, new (fun _ => .ok inviteAckTemplate) inviteRequest
        false .default = .ok tx ∧
      (after tx (ringingThenBusy tagA)).HasEnded := by
  refine ⟨_, rfl, ?_⟩
  refine (failed_invite_ended_iff (fun _ => .ok inviteAckTemplate) inviteRequest
    false .default _ rfl rfl (ringingThenBusy tagA)
    (neverSucceeds_ringingThenBusy _ _) ?_).mpr ?_
  · decide +kernel
  · refine (failsAlone_timer _ [ringing, busy tagA] _).mpr ?_
    refine (failsAlone_response _ [ringing] _).mpr ⟨?_, fun _ => ?_⟩
    · refine (failsAlone_response _ [] _).mpr ⟨Run.allSteps_nil _, fun _ => ?_⟩
      decide +kernel
    · decide +kernel

/-- Another branch than the one that rang is busy: the transaction terminates
and the call goes on inviting. -/
theorem other_branch_busy_call_inviting :
    ∃ tx, new (fun _ => .ok inviteAckTemplate) inviteRequest
        false .default = .ok tx ∧
      NeverSucceeds tx (ringingThenBusy tagB) ∧
      (after tx (ringingThenBusy tagB)).transaction.state = .terminated ∧
      ¬(after tx (ringingThenBusy tagB)).HasEnded := by
  refine ⟨_, rfl, neverSucceeds_ringingThenBusy _ _, ?_, ?_⟩
  · decide +kernel
  · refine not_hasEnded ?_
    decide +kernel

end InviteCall

end Call
end LiveAISIP
