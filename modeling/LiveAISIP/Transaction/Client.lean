import LiveAISIP.Transaction.Key
import LiveAISIP.Transaction.State
import LiveAISIP.Transaction.Timer

/-!
# Client transactions

The deterministic client transaction engine of `sip/transaction/client.rs`.
Every operation returns the next transaction together with the emitted
actions or the error.  Serializing the ACK of a non-2xx response is a function
of the construction-time template and the response's `To` field; the engine
only stores and sends the bytes it yields.
-/

namespace LiveAISIP
namespace Transaction

open Sip
open TransactionKey ClientMachine TransactionKind

/-- Client transaction timer identity. -/
inductive Timer
  | retransmit
  | requestTimeout
  | linger
  deriving DecidableEq

/-- Side effect requested from the transaction owner. -/
inductive Action
  | send (bytes : Bytes)
  | sendAck (bytes : Bytes)
  | schedule (timer : Timer) (delay : Duration)
  | cancel (timer : Timer)
  | deliverResponse
  | terminate
  deriving DecidableEq

/-- Failure to prepare or serialize a transaction-owned non-2xx ACK. -/
inductive AckBuildError
  | missingMaxForwards
  | routeValue
  | headerValue
  | cseq
  | request
  | allocationFailed

/-- Client transaction processing failure. -/
inductive ClientError
  | key (error : KeyError)
  | state (error : StateError)
  | alreadyStarted
  | notStarted
  | keyMismatch
  | invalidTimer
  | missingAckTemplate
  | ack (error : AckBuildError)

/-- The construction-time material of a non-2xx ACK, as the serialization it
determines. -/
structure Non2xxAckTemplate where
  build : ToHeader → Except AckBuildError Bytes

/-- The template of the sample INVITE. -/
def inviteAckTemplate : Non2xxAckTemplate where
  build toHeader := .ok (inviteAck toHeader.tag)

/-- Client transaction state. -/
structure ClientTransaction where
  key : TransactionKey
  machine : ClientMachine
  profile : TimerProfile
  request : Bytes
  non2xxAckTemplate : Option Non2xxAckTemplate
  non2xxAck : Option Bytes
  nextRetransmit : Option Duration
  started : Bool

namespace ClientTransaction

variable {fromRequest : ValidatedRequest → Except AckBuildError Non2xxAckTemplate} {reliable : Bool}
  {timers : TimerConfig} {tx : ClientTransaction} {response : ValidatedResponse}
  {ack : Option Bytes}

/-- The actions of one operation, or its error. -/
abbrev Outcome := Except ClientError (List Action)

/-- The construction-time template: only an INVITE has one. -/
def ackTemplate
    (fromRequest : ValidatedRequest → Except AckBuildError Non2xxAckTemplate)
    (request : ValidatedRequest) :
    Except ClientError (Option Non2xxAckTemplate) :=
  match fromMethod request.method with
  | .nonInvite => .ok none
  | .invite =>
    match fromRequest request with
    | .error error => .error (.ack error)
    | .ok template => .ok (some template)

/-- Create a transaction from a validated outbound request. -/
def new
    (fromRequest : ValidatedRequest → Except AckBuildError Non2xxAckTemplate)
    (request : ValidatedRequest) (reliable : Bool)
    (timers : TimerConfig) : Except ClientError ClientTransaction :=
  match forClientRequest request with
  | .error error => .error (.key error)
  | .ok key =>
    match ackTemplate fromRequest request with
    | .error error => .error error
    | .ok template =>
      .ok
        { key := key
          machine := .new (fromMethod request.method)
          profile := timers.profile reliable
          request := request.bytes
          non2xxAckTemplate := template
          non2xxAck := none
          nextRetransmit := (timers.profile reliable).retransmitInitial
          started := false }

/-- A created transaction is idle in the initial state of its method. -/
theorem new_eq_ok
    {request : ValidatedRequest} (created : new fromRequest request reliable timers = .ok tx) :
    ∃ key template, forClientRequest request = .ok key ∧
      ackTemplate fromRequest request = .ok template ∧
      tx =
        { key := key
          machine := .new (fromMethod request.method)
          profile := timers.profile reliable
          request := request.bytes
          non2xxAckTemplate := template
          non2xxAck := none
          nextRetransmit := (timers.profile reliable).retransmitInitial
          started := false } := by
  unfold new at created
  cases keyed : forClientRequest request with
  | error error => simp [keyed] at created
  | ok key =>
    simp only [keyed] at created
    cases templated : ackTemplate fromRequest request with
    | error error => simp [templated] at created
    | ok template =>
      simp only [templated, Except.ok.injEq] at created
      exact ⟨key, template, rfl, rfl, created.symm⟩

/-- Transaction method family. -/
def kind (tx : ClientTransaction) : TransactionKind := tx.machine.kind

/-- Current client state. -/
def state (tx : ClientTransaction) : ClientState := tx.machine.state

/-- Failure ACK bytes, when one was constructed. -/
def retainedFailureAck (tx : ClientTransaction) : Option Bytes := tx.non2xxAck

/-- Timer-M-sized late response retention interval. -/
def completionRetention (tx : ClientTransaction) : Duration := tx.profile.inviteTimeout

/-- The transaction in another state. -/
def moveTo (tx : ClientTransaction) (state : ClientState) : ClientTransaction :=
  { tx with machine := { tx.machine with state := state } }

/-- The transaction with the ACK of a non-2xx response cached. -/
def cacheAck (tx : ClientTransaction) (ack : Option Bytes) : ClientTransaction :=
  { tx with non2xxAck := tx.non2xxAck.or ack }

/-- The transaction with another pending retransmission interval. -/
def setRetransmit (tx : ClientTransaction) (next : Option Duration) : ClientTransaction :=
  { tx with nextRetransmit := next }

/-- The transaction once it was started. -/
def launch (tx : ClientTransaction) : ClientTransaction := { tx with started := true }

@[simp] theorem state_moveTo (tx : ClientTransaction) (state : ClientState) :
    (tx.moveTo state).state = state := rfl

@[simp] theorem kind_moveTo (tx : ClientTransaction) (state : ClientState) :
    (tx.moveTo state).kind = tx.kind := rfl

@[simp] theorem started_moveTo (tx : ClientTransaction) (state : ClientState) :
    (tx.moveTo state).started = tx.started := rfl

@[simp] theorem profile_moveTo (tx : ClientTransaction) (state : ClientState) :
    (tx.moveTo state).profile = tx.profile := rfl

@[simp] theorem key_moveTo (tx : ClientTransaction) (state : ClientState) :
    (tx.moveTo state).key = tx.key := rfl

@[simp] theorem nextRetransmit_moveTo
    (tx : ClientTransaction) (state : ClientState) :
    (tx.moveTo state).nextRetransmit = tx.nextRetransmit := rfl

@[simp] theorem cacheAck_none (tx : ClientTransaction) :
    tx.cacheAck none = tx := by
  simp [cacheAck]

@[simp] theorem state_cacheAck (tx : ClientTransaction) (ack : Option Bytes) :
    (tx.cacheAck ack).state = tx.state := rfl

@[simp] theorem kind_cacheAck (tx : ClientTransaction) (ack : Option Bytes) :
    (tx.cacheAck ack).kind = tx.kind := rfl

@[simp] theorem started_cacheAck (tx : ClientTransaction) (ack : Option Bytes) :
    (tx.cacheAck ack).started = tx.started := rfl

@[simp] theorem profile_cacheAck (tx : ClientTransaction) (ack : Option Bytes) :
    (tx.cacheAck ack).profile = tx.profile := rfl

@[simp] theorem key_cacheAck (tx : ClientTransaction) (ack : Option Bytes) :
    (tx.cacheAck ack).key = tx.key := rfl

@[simp] theorem nextRetransmit_cacheAck
    (tx : ClientTransaction) (ack : Option Bytes) :
    (tx.cacheAck ack).nextRetransmit = tx.nextRetransmit := rfl

@[simp] theorem state_setRetransmit
    (tx : ClientTransaction) (next : Option Duration) :
    (tx.setRetransmit next).state = tx.state := rfl

@[simp] theorem kind_setRetransmit
    (tx : ClientTransaction) (next : Option Duration) :
    (tx.setRetransmit next).kind = tx.kind := rfl

@[simp] theorem started_setRetransmit
    (tx : ClientTransaction) (next : Option Duration) :
    (tx.setRetransmit next).started = tx.started := rfl

@[simp] theorem profile_setRetransmit
    (tx : ClientTransaction) (next : Option Duration) :
    (tx.setRetransmit next).profile = tx.profile := rfl

@[simp] theorem key_setRetransmit
    (tx : ClientTransaction) (next : Option Duration) :
    (tx.setRetransmit next).key = tx.key := rfl

@[simp] theorem nextRetransmit_setRetransmit
    (tx : ClientTransaction) (next : Option Duration) :
    (tx.setRetransmit next).nextRetransmit = next := rfl

@[simp] theorem state_launch (tx : ClientTransaction) : tx.launch.state = tx.state := rfl

@[simp] theorem started_launch (tx : ClientTransaction) : tx.launch.started = true := rfl

@[simp] theorem nextRetransmit_launch (tx : ClientTransaction) :
    tx.launch.nextRetransmit = tx.nextRetransmit := rfl

/-- The overall timeout of the transaction's method family. -/
def requestTimeout (tx : ClientTransaction) : Duration :=
  match tx.kind with
  | .invite => tx.profile.inviteTimeout
  | .nonInvite => tx.profile.nonInviteTimeout

/-- Start the initial transmission and the timers exactly once. -/
def start (tx : ClientTransaction) : ClientTransaction × Outcome :=
  if tx.started then
    (tx, .error .alreadyStarted)
  else
    (tx.launch, .ok ([.send tx.request, .schedule .requestTimeout tx.requestTimeout] ++
        match tx.nextRetransmit with
        | some delay => [.schedule .retransmit delay]
        | none => []))

/-- The response is a non-2xx final of an INVITE. -/
def IsNon2xxInvite (tx : ClientTransaction) (status : StatusCode) : Prop :=
  tx.kind = .invite ∧ status.Failure

instance (tx : ClientTransaction) (status : StatusCode) : Decidable (tx.IsNon2xxInvite status) :=
  inferInstanceAs (Decidable (_ ∧ _))

/-- The ACK that a response calls for: the cached one, or a new one built
from the template. -/
def ackFor (tx : ClientTransaction) (response : ValidatedResponse) :
    Except ClientError (Option Bytes) :=
  if tx.IsNon2xxInvite response.status then
    match tx.non2xxAck with
    | some bytes => .ok (some bytes)
    | none =>
      match tx.non2xxAckTemplate with
      | none => .error .missingAckTemplate
      | some template =>
        match template.build response.toHeader with
        | .error error => .error (.ack error)
        | .ok bytes => .ok (some bytes)
  else
    .ok none

/-- The ACK of a response, as an action. -/
def ackActions : Option Bytes → List Action
  | some bytes => [.sendAck bytes]
  | none => []

@[simp] theorem not_mem_ackActions
    {action : Action} (other : ∀ bytes, action ≠ .sendAck bytes) (ack : Option Bytes) :
    action ∉ ackActions ack := by
  cases ack <;> simp [ackActions, other]

/-- The state is one of the lingering final states. -/
def IsLingering (state : ClientState) : Prop := state = .completed ∨ state = .accepted

instance (state : ClientState) : Decidable (IsLingering state) :=
  inferInstanceAs (Decidable (_ ∨ _))

/-- How long the final state of the transaction lingers. -/
def lingerDelay (tx : ClientTransaction) : Option Duration :=
  match tx.kind, tx.state with
  | .invite, .accepted => some tx.profile.inviteTimeout
  | .invite, .completed => tx.profile.completedInviteLinger
  | .nonInvite, .completed => tx.profile.completedNonInviteLinger
  | _, _ => none

/-- Enter a lingering final state: cancel the request timers and linger, or
terminate at once where the profile has no linger. -/
def enterFinal (tx : ClientTransaction) : ClientTransaction × Outcome :=
  match tx.lingerDelay with
  | some delay =>
    (tx.setRetransmit none, .ok [.cancel .retransmit, .cancel .requestTimeout,
      .schedule .linger delay])
  | none =>
    match tx.machine.onLingerTimeout with
    | .error error => (tx.setRetransmit none, .error (.state error))
    | .ok machine =>
      ({ tx.setRetransmit none with machine := machine },
        .ok [.cancel .retransmit, .cancel .requestTimeout, .terminate])

/-- Apply a response once its next state and its ACK are known. -/
def applyResponse
    (tx : ClientTransaction) (machine : ClientMachine) (status : StatusCode)
    (ack : Option Bytes) : ClientTransaction × Outcome :=
  let previous := tx.state
  let noted := { tx.cacheAck ack with machine := machine }
  let received := ackActions ack ++
    if tx.IsNon2xxInvite status ∧ previous = .completed then []
    else [.deliverResponse]
  -- The three updates start from different previous states.
  if machine.state = .proceeding ∧ machine.kind = .invite ∧ previous = .calling then
    (noted.setRetransmit none, .ok (received ++ [.cancel .retransmit]))
  else if IsLingering machine.state ∧ ¬IsLingering previous then
    match noted.enterFinal with
    | (settled, .ok actions) => (settled, .ok (received ++ actions))
    | (settled, .error error) => (settled, .error error)
  else if tx.kind = .invite ∧ previous = .completed ∧ status.Success then
    (noted, .ok (received ++ [.cancel .linger, .schedule .linger noted.profile.inviteTimeout]))
  else
    (noted, .ok received)

/-- Apply a validated response matching this transaction. -/
def onResponse (tx : ClientTransaction) (response : ValidatedResponse) :
    ClientTransaction × Outcome :=
  if ¬tx.started then
    (tx, .error .notStarted)
  else
    match forClientResponse response with
    | .error error => (tx, .error (.key error))
    | .ok key =>
      if key ≠ tx.key then
        (tx, .error .keyMismatch)
      else
        match tx.machine.onResponse response.status with
        | .error error => (tx, .error (.state error))
        | .ok machine =>
          match tx.ackFor response with
          | .error error => (tx, .error error)
          | .ok ack => tx.applyResponse machine response.status ack

/-- The method family and state in which a request is retransmitted. -/
def RetransmitAllowed (tx : ClientTransaction) : Prop := (tx.kind = .invite ∧ tx.state = .calling) ∨
    (tx.kind = .nonInvite ∧ (tx.state = .trying ∨ tx.state = .proceeding))

instance (tx : ClientTransaction) : Decidable tx.RetransmitAllowed :=
  inferInstanceAs (Decidable (_ ∨ _))

/-- The interval after the current one. -/
def followingRetransmit (tx : ClientTransaction) (current : Duration) : Option Duration :=
  match tx.kind with
  | .invite => tx.profile.nextInviteClientRetransmit current
  | .nonInvite =>
    tx.profile.nextNonInviteClientRetransmit current (tx.state = .proceeding)

/-- Apply a scheduler event. -/
def onTimer (tx : ClientTransaction) (timer : Timer) : ClientTransaction × Outcome :=
  if ¬tx.started then
    (tx, .error .notStarted)
  else
    match timer with
    | .requestTimeout =>
      match tx.machine.onRequestTimeout with
      | .error error => (tx, .error (.state error))
      | .ok machine =>
        ({ tx with machine := machine }, .ok [.cancel .retransmit, .terminate])
    | .linger =>
      match tx.machine.onLingerTimeout with
      | .error error => (tx, .error (.state error))
      | .ok machine => ({ tx with machine := machine }, .ok [.terminate])
    | .retransmit =>
      match tx.nextRetransmit with
      | none => (tx, .error .invalidTimer)
      | some current =>
        if ¬tx.RetransmitAllowed then
          (tx, .error .invalidTimer)
        else
          match tx.followingRetransmit current with
          | none => (tx, .error .invalidTimer)
          | some next =>
            (tx.setRetransmit (some next), .ok [.send tx.request, .schedule .retransmit next])

/-- The response is addressed to this transaction. -/
def Matches (tx : ClientTransaction) (response : ValidatedResponse) : Prop :=
  forClientResponse response = .ok tx.key

/-- No final response has arrived and the transaction still runs. -/
def IsUnanswered (state : ClientState) : Prop :=
  state = .calling ∨ state = .trying ∨ state = .proceeding

/-- The state a first final response leads to. -/
def finalState (tx : ClientTransaction) (status : StatusCode) : ClientState :=
  if tx.kind = .invite ∧ status.Success then .accepted else .completed

@[simp] theorem isLingering_completed : IsLingering .completed := .inl rfl

@[simp] theorem isLingering_accepted : IsLingering .accepted := .inr rfl

@[simp] theorem not_isLingering_calling : ¬IsLingering .calling := by decide

@[simp] theorem not_isLingering_trying : ¬IsLingering .trying := by decide

@[simp] theorem not_isLingering_proceeding : ¬IsLingering .proceeding := by
  decide

@[simp] theorem not_isLingering_terminated : ¬IsLingering .terminated := by
  decide

@[simp] theorem isUnanswered_calling : IsUnanswered .calling := .inl rfl

@[simp] theorem isUnanswered_trying : IsUnanswered .trying := .inr (.inl rfl)

@[simp] theorem isUnanswered_proceeding : IsUnanswered .proceeding := .inr (.inr rfl)

@[simp] theorem not_isUnanswered_completed : ¬IsUnanswered .completed := by
  simp [IsUnanswered]

@[simp] theorem not_isUnanswered_accepted : ¬IsUnanswered .accepted := by
  simp [IsUnanswered]

@[simp] theorem not_isUnanswered_terminated : ¬IsUnanswered .terminated := by
  simp [IsUnanswered]

theorem IsUnanswered.not_lingering
    {state : ClientState} (unanswered : IsUnanswered state) :
    ¬IsLingering state := by
  rcases unanswered with rfl | rfl | rfl <;> decide

theorem IsLingering.not_unanswered
    {state : ClientState} (lingering : IsLingering state) :
    ¬IsUnanswered state :=
  fun unanswered => unanswered.not_lingering lingering

theorem IsUnanswered.not_terminated
    {state : ClientState} (unanswered : IsUnanswered state) :
    state ≠ .terminated := by
  rcases unanswered with rfl | rfl | rfl <;> decide

theorem IsLingering.not_terminated
    {state : ClientState} (lingering : IsLingering state) :
    state ≠ .terminated := by
  rcases lingering with rfl | rfl <;> decide

/-- A request is retransmitted only while it is unanswered. -/
theorem RetransmitAllowed.unanswered (allowed : tx.RetransmitAllowed) :
    IsUnanswered tx.state := by
  rcases allowed with ⟨-, state⟩ | ⟨-, state | state⟩ <;>
    simp [IsUnanswered, state]

/-- A new transaction may retransmit and is unanswered. -/
theorem retransmitAllowed_new
    {request : ValidatedRequest} (created : new fromRequest request reliable timers = .ok tx) :
    tx.RetransmitAllowed := by
  obtain ⟨key, template, -, -, rfl⟩ := new_eq_ok created
  cases kind : fromMethod request.method with
  | invite => exact .inl ⟨rfl, rfl⟩
  | nonInvite => exact .inr ⟨rfl, .inl rfl⟩

theorem isUnanswered_new
    {request : ValidatedRequest} (created : new fromRequest request reliable timers = .ok tx) :
    IsUnanswered tx.state :=
  (retransmitAllowed_new created).unanswered

/-- A first final response leads to a lingering state. -/
theorem isLingering_finalState (tx : ClientTransaction) (status : StatusCode) :
    IsLingering (tx.finalState status) := by
  unfold finalState
  split_ifs
  · exact .inr rfl
  · exact .inl rfl

/-- Everything that a response can do to a transaction that takes it. -/
inductive ResponseStep
    (tx : ClientTransaction) (response : ValidatedResponse) : ClientTransaction → List Action → Prop
  | firstProvisional
      (kind : tx.kind = .invite)
      (state : tx.state = .calling)
      (status : response.status.Provisional) :
      ResponseStep tx response ((tx.moveTo .proceeding).setRetransmit none)
        [.deliverResponse, .cancel .retransmit]
  | provisional
      (state : tx.state = .proceeding ∨ (tx.kind = .nonInvite ∧ tx.state = .trying))
      (status : response.status.Provisional) :
      ResponseStep tx response (tx.moveTo .proceeding) [.deliverResponse]
  | lingers
      (ack : Option Bytes)
      (delay : Duration)
      (acked : tx.ackFor response = .ok ack)
      (state : IsUnanswered tx.state)
      (status : response.status.Final)
      (lingering : (tx.moveTo (tx.finalState response.status)).lingerDelay = some delay) :
      ResponseStep tx response
        (((tx.moveTo (tx.finalState response.status)).cacheAck ack).setRetransmit none)
        (ackActions ack ++ [.deliverResponse, .cancel .retransmit,
          .cancel .requestTimeout, .schedule .linger delay])
  | ends
      (ack : Option Bytes)
      (acked : tx.ackFor response = .ok ack)
      (state : IsUnanswered tx.state)
      (status : response.status.Final)
      (lingering : (tx.moveTo (tx.finalState response.status)).lingerDelay = none) :
      ResponseStep tx response
        (((tx.moveTo .terminated).cacheAck ack).setRetransmit none)
        (ackActions ack ++ [.deliverResponse, .cancel .retransmit,
          .cancel .requestTimeout, .terminate])
  | repeatedSuccess
      (kind : tx.kind = .invite)
      (state : tx.state = .accepted)
      (status : response.status.Success) :
      ResponseStep tx response tx [.deliverResponse]
  | lateSuccess
      (kind : tx.kind = .invite)
      (state : tx.state = .completed)
      (status : response.status.Success) :
      ResponseStep tx response (tx.moveTo .accepted)
        [.deliverResponse, .cancel .linger, .schedule .linger tx.profile.inviteTimeout]
  | repeatedFailure
      (bytes : Bytes)
      (acked : tx.ackFor response = .ok (some bytes))
      (kind : tx.kind = .invite)
      (state : tx.state = .completed)
      (status : response.status.Failure) :
      ResponseStep tx response (tx.cacheAck (some bytes)) [.sendAck bytes]
  | repeatedFinal
      (kind : tx.kind = .nonInvite)
      (state : tx.state = .completed)
      (status : response.status.Final) :
      ResponseStep tx response tx [.deliverResponse]

theorem with_machine_eq {machine : ClientMachine} (origin : tx.machine = machine) :
    { tx with machine := machine } = tx := by
  rw [← origin]

theorem onLingerTimeout_eq (lingering : IsLingering tx.state) : tx.machine.onLingerTimeout =
      .ok { tx.machine with state := .terminated } := by
  unfold onLingerTimeout
  rcases lingering with state | state <;>
    rw [show tx.machine.state = _ from state]

/-- A lingering state is entered without error. -/
theorem enterFinal_none
    (tx : ClientTransaction) (lingering : IsLingering tx.state) (absent : tx.lingerDelay = none) :
    tx.enterFinal = ((tx.moveTo .terminated).setRetransmit none,
      .ok [.cancel .retransmit, .cancel .requestTimeout, .terminate]) := by
  simp only [enterFinal, absent, onLingerTimeout_eq lingering]
  rfl

/-- Only a non-2xx final response of an INVITE calls for an ACK. -/
theorem ackFor_of_not_non2xx
    (other : ¬tx.IsNon2xxInvite response.status) (acked : tx.ackFor response = .ok ack) :
    ack = none := by
  simp only [ackFor, other, ↓reduceIte, Except.ok.injEq] at acked
  exact acked.symm

/-- A non-2xx final response of an INVITE calls for an ACK. -/
theorem ackFor_of_non2xx
    (failed : tx.IsNon2xxInvite response.status) (acked : tx.ackFor response = .ok ack) :
    ∃ bytes, ack = some bytes := by
  simp only [ackFor, failed, ↓reduceIte] at acked
  cases cached : tx.non2xxAck with
  | some bytes => exact ⟨bytes, by simpa [cached] using acked.symm⟩
  | none =>
    cases template : tx.non2xxAckTemplate with
    | none => simp [cached, template] at acked
    | some template' =>
      simp only [cached, template] at acked
      cases built : template'.build response.toHeader with
      | error error => simp [built] at acked
      | ok bytes => exact ⟨bytes, by simpa [built] using acked.symm⟩

/-- A first final response is applied without error. -/
theorem applyResponse_final
    (acked : tx.ackFor response = .ok ack) (unanswered : IsUnanswered tx.state)
    (final : response.status.Final) :
    ∃ after actions, tx.applyResponse
          { tx.machine with state := tx.finalState response.status }
          response.status ack = (after, .ok actions) ∧
        ResponseStep tx response after actions := by
  have lingering := tx.isLingering_finalState response.status
  have notProceeding : tx.finalState response.status ≠ .proceeding := by
    rcases lingering with state | state <;> simp [state]
  have fresh := unanswered.not_lingering
  have notCompleted : tx.state ≠ .completed := fun state => fresh (.inl state)
  let noted := (tx.moveTo (tx.finalState response.status)).cacheAck ack
  have applied : tx.applyResponse
      { tx.machine with state := tx.finalState response.status }
      response.status ack =
        match noted.enterFinal with
        | (settled, .ok actions) =>
          (settled, .ok ((ackActions ack ++ [.deliverResponse]) ++ actions))
        | (settled, .error error) => (settled, .error error) := by
    simp only [applyResponse, notProceeding, lingering, fresh, notCompleted,
      false_and, and_false, not_false_eq_true, and_self, ↓reduceIte]
    rfl
  cases absent : (tx.moveTo (tx.finalState response.status)).lingerDelay with
  | some delay =>
    have entered : noted.enterFinal = (noted.setRetransmit none,
        .ok [.cancel .retransmit, .cancel .requestTimeout, .schedule .linger delay]) := by
      simp only [enterFinal, show noted.lingerDelay = some delay from absent]
    refine ⟨_, _, ?_, .lingers ack delay acked unanswered final absent⟩
    rw [applied, entered]
    simp [noted]
  | none =>
    have entered := noted.enterFinal_none lingering absent
    refine ⟨_, _, ?_, .ends ack acked unanswered final absent⟩
    rw [applied, entered]
    simp only [List.append_assoc]
    rfl

/-- A response whose next state and ACK are known is applied without error. -/
theorem applyResponse_step
    {machine : ClientMachine} (next : tx.machine.onResponse response.status = .ok machine)
    (acked : tx.ackFor response = .ok ack) :
    ∃ after actions, tx.applyResponse machine response.status ack = (after, .ok actions) ∧
        ResponseStep tx response after actions := by
  have unacknowledged (other : ¬tx.IsNon2xxInvite response.status) :
      ack = none := ackFor_of_not_non2xx other acked
  rcases ClientMachine.onResponse_cases next with
    ⟨provisional, rfl, origin⟩ | ⟨final, unanswered, rfl⟩ |
    ⟨origin, success, rfl⟩ | ⟨origin, success, rfl⟩ | ⟨origin, failure, rfl⟩ |
    ⟨origin, final, rfl⟩
  · have other : ¬tx.IsNon2xxInvite response.status :=
      fun failed => provisional.not_failure failed.2
    obtain rfl := unacknowledged other
    rcases origin with ⟨kind, state⟩ | state
    · refine ⟨_, _, ?_, .firstProvisional kind state provisional⟩
      simp [applyResponse, kind, state, other, ackActions, moveTo, ClientTransaction.state]
    · refine ⟨_, _, ?_, .provisional state provisional⟩
      have notCalling : tx.machine.state ≠ .calling := by
        rcases state with state | ⟨-, state⟩ <;> simp [state]
      have notCompleted : tx.machine.state ≠ .completed := by
        rcases state with state | ⟨-, state⟩ <;> simp [state]
      simp [applyResponse, notCalling, notCompleted, other, ackActions, moveTo,
        ClientTransaction.state, IsLingering]
  · exact applyResponse_final acked unanswered final
  · have other : ¬tx.IsNon2xxInvite response.status := fun failed => success.not_failure failed.2
    obtain rfl := unacknowledged other
    refine ⟨_, _, ?_, .repeatedSuccess (congrArg _ origin) (congrArg _ origin) success⟩
    simp [applyResponse, origin, other, ackActions, ClientTransaction.state,
      IsLingering, with_machine_eq origin]
  · have other : ¬tx.IsNon2xxInvite response.status := fun failed => success.not_failure failed.2
    obtain rfl := unacknowledged other
    refine ⟨_, _, ?_, .lateSuccess (congrArg _ origin) (congrArg _ origin) success⟩
    simp [applyResponse, origin, other, ackActions, ClientTransaction.state,
      ClientTransaction.kind, IsLingering, success, moveTo]
  · have failed : tx.IsNon2xxInvite response.status := ⟨congrArg _ origin, failure⟩
    obtain ⟨bytes, rfl⟩ := ackFor_of_non2xx failed acked
    refine ⟨_, _, ?_, .repeatedFailure bytes acked (congrArg _ origin) (congrArg _ origin) failure⟩
    simp [applyResponse, origin, failed, ackActions, ClientTransaction.state,
      IsLingering, failure.not_success, cacheAck]
  · have other : ¬tx.IsNon2xxInvite response.status := by
      simp [IsNon2xxInvite, kind, origin]
    obtain rfl := unacknowledged other
    refine ⟨_, _, ?_, .repeatedFinal (congrArg _ origin) (congrArg _ origin) final⟩
    simp [applyResponse, origin, other, ackActions, ClientTransaction.state,
      ClientTransaction.kind, IsLingering, with_machine_eq origin]

/-- A response either is refused and changes nothing, or is one of the steps
above. -/
theorem onResponse_cases (tx : ClientTransaction) (response : ValidatedResponse) :
    (∃ error, tx.onResponse response = (tx, .error error)) ∨
      ∃ after actions, tx.onResponse response = (after, .ok actions) ∧
        tx.started = true ∧ tx.Matches response ∧
        ResponseStep tx response after actions := by
  unfold onResponse Matches
  by_cases started : tx.started = true
  · simp only [started, not_true_eq_false, ↓reduceIte]
    cases forClientResponse response with
    | error error => exact .inl ⟨_, rfl⟩
    | ok key =>
      by_cases same : key = tx.key
      · simp only [same, ne_eq, not_true_eq_false, ↓reduceIte]
        cases next : tx.machine.onResponse response.status with
        | error error => exact .inl ⟨_, rfl⟩
        | ok machine =>
          cases acked : tx.ackFor response with
          | error error => exact .inl ⟨_, rfl⟩
          | ok ack =>
            obtain ⟨after, actions, applied, step⟩ := applyResponse_step next acked
            exact .inr ⟨after, actions, applied, trivial, trivial, step⟩
      · simp only [same, ne_eq, not_false_eq_true, ↓reduceIte]
        exact .inl ⟨_, rfl⟩
  · exact .inl ⟨_, if_pos started⟩

/-- Everything that a timer can do to a transaction that takes it. -/
inductive TimerStep (tx : ClientTransaction) : Timer → ClientTransaction → List Action → Prop
  | requestTimeout (state : IsUnanswered tx.state) :
      TimerStep tx .requestTimeout (tx.moveTo .terminated) [.cancel .retransmit, .terminate]
  | linger (state : IsLingering tx.state) :
      TimerStep tx .linger (tx.moveTo .terminated) [.terminate]
  | retransmit
      (current next : Duration)
      (pending : tx.nextRetransmit = some current)
      (allowed : tx.RetransmitAllowed)
      (following : tx.followingRetransmit current = some next) :
      TimerStep tx .retransmit (tx.setRetransmit (some next))
        [.send tx.request, .schedule .retransmit next]

theorem onRequestTimeout_eq (unanswered : IsUnanswered tx.state) : tx.machine.onRequestTimeout =
      .ok { tx.machine with state := .terminated } := by
  unfold onRequestTimeout
  rcases unanswered with state | state | state <;>
    rw [show tx.machine.state = _ from state]

/-- Each of the steps is taken by a started transaction. -/
theorem TimerStep.onTimer_eq
    {after : ClientTransaction} {timer : Timer} {actions : List Action}
    (step : TimerStep tx timer after actions) (started : tx.started = true) :
    tx.onTimer timer = (after, .ok actions) := by
  cases step with
  | requestTimeout state =>
    simp [onTimer, started, onRequestTimeout_eq state, moveTo]
  | linger state =>
    simp [onTimer, started, onLingerTimeout_eq state, moveTo]
  | retransmit current next pending allowed following =>
    simp [onTimer, started, pending, allowed, following]

/-- A timer either is refused and changes nothing, or is one of the steps
above. -/
theorem onTimer_cases (tx : ClientTransaction) (timer : Timer) :
    (∃ error, tx.onTimer timer = (tx, .error error)) ∨
      ∃ after actions, tx.onTimer timer = (after, .ok actions) ∧
        tx.started = true ∧ TimerStep tx timer after actions := by
  by_cases started : tx.started = true
  · have taken {after actions} (step : TimerStep tx timer after actions) :
        ∃ after actions, tx.onTimer timer = (after, .ok actions) ∧
          tx.started = true ∧ TimerStep tx timer after actions :=
      ⟨after, actions, step.onTimer_eq started, started, step⟩
    cases timer with
    | requestTimeout =>
      by_cases unanswered : IsUnanswered tx.state
      · exact .inr (taken (.requestTimeout unanswered))
      · left
        unfold IsUnanswered ClientTransaction.state at unanswered
        simp only [onTimer, started, onRequestTimeout]
        cases state : tx.machine.state <;> simp_all
    | linger =>
      by_cases lingering : IsLingering tx.state
      · exact .inr (taken (.linger lingering))
      · left
        unfold IsLingering ClientTransaction.state at lingering
        simp only [onTimer, started, onLingerTimeout]
        cases state : tx.machine.state <;> simp_all
    | retransmit =>
      cases pending : tx.nextRetransmit with
      | none => exact .inl ⟨.invalidTimer, by simp [onTimer, started, pending]⟩
      | some current =>
        by_cases allowed : tx.RetransmitAllowed
        · cases following : tx.followingRetransmit current with
          | none =>
            exact .inl ⟨.invalidTimer, by simp [onTimer, started, pending, following]⟩
          | some next =>
            exact .inr (taken (.retransmit current next pending allowed following))
        · exact .inl ⟨.invalidTimer, by simp [onTimer, started, pending, allowed]⟩
  · exact .inl ⟨_, if_pos started⟩

end ClientTransaction

/-- One use of a client transaction by its owner. -/
inductive ClientInput
  | start
  | response (response : ValidatedResponse)
  | timer (timer : Timer)

/-- Apply one input. -/
def ClientTransaction.step
    (tx : ClientTransaction) :
    ClientInput → ClientTransaction × ClientTransaction.Outcome
  | .start => tx.start
  | .response response => tx.onResponse response
  | .timer timer => tx.onTimer timer

namespace ClientTransaction

/-- The identity of a transaction: what no operation changes. -/
structure SameIdentity (tx after : ClientTransaction) : Prop where
  key : after.key = tx.key
  kind : after.kind = tx.kind
  profile : after.profile = tx.profile
  started : tx.started = true → after.started = true

theorem SameIdentity.refl (tx : ClientTransaction) : SameIdentity tx tx := ⟨rfl, rfl, rfl, id⟩

theorem SameIdentity.trans
    {first second third : ClientTransaction} (left : SameIdentity first second)
    (right : SameIdentity second third) :
    SameIdentity first third :=
  ⟨right.key.trans left.key, right.kind.trans left.kind,
    right.profile.trans left.profile, fun started =>
      right.started (left.started started)⟩

/-- No operation changes the identity of a transaction. -/
theorem sameIdentity_step (tx : ClientTransaction) (input : ClientInput) :
    SameIdentity tx (tx.step input).1 := by
  cases input with
  | start =>
    simp only [step, start]
    split_ifs
    · exact .refl tx
    · exact ⟨rfl, rfl, rfl, fun _ => rfl⟩
  | response response =>
    rcases tx.onResponse_cases response with
      ⟨error, refused⟩ | ⟨after, actions, taken, -, -, step⟩
    · simp only [ClientTransaction.step, refused]
      exact .refl tx
    · simp only [ClientTransaction.step, taken]
      cases step <;> exact ⟨by simp, by simp, by simp, by simp⟩
  | timer timer =>
    rcases tx.onTimer_cases timer with
      ⟨error, refused⟩ | ⟨after, actions, taken, -, step⟩
    · simp only [ClientTransaction.step, refused]
      exact .refl tx
    · simp only [ClientTransaction.step, taken]
      cases step <;> exact ⟨by simp, by simp, by simp, by simp⟩

/-- No operation leads back to the state before the first response. -/
theorem state_step_ne_trying
    {tx : ClientTransaction} (other : tx.state ≠ .trying) (input : ClientInput) :
    (tx.step input).1.state ≠ .trying := by
  cases input with
  | start =>
    simp only [step, start]
    split_ifs <;> exact other
  | response response =>
    rcases tx.onResponse_cases response with
      ⟨error, refused⟩ | ⟨after, actions, taken, -, -, step⟩
    · simpa only [ClientTransaction.step, refused] using other
    · simp only [ClientTransaction.step, taken]
      cases step with
      | lingers ack delay acked state status lingering =>
        simp only [state_setRetransmit, state_cacheAck, state_moveTo, finalState]
        split_ifs <;> simp
      | firstProvisional | provisional | ends | lateSuccess => simp
      | repeatedSuccess | repeatedFailure | repeatedFinal => simpa using other
  | timer timer =>
    rcases tx.onTimer_cases timer with
      ⟨error, refused⟩ | ⟨after, actions, taken, -, step⟩
    · simpa only [ClientTransaction.step, refused] using other
    · simp only [ClientTransaction.step, taken]
      cases step with
      | requestTimeout | linger => simp
      | retransmit => simpa using other

/-- Nothing but its start happens to a transaction that is not started. -/
theorem state_step_of_unstarted
    {tx : ClientTransaction} (unstarted : ¬tx.started = true) (input : ClientInput) :
    (tx.step input).1.state = tx.state := by
  cases input with
  | start => simp [step, start, unstarted]
  | response response => simp [step, onResponse, unstarted]
  | timer timer => simp [step, onTimer, unstarted]

end ClientTransaction

/-- The actions of an outcome; a refused input has none. -/
def ClientTransaction.actionsOf : ClientTransaction.Outcome → List Action
  | .ok actions => actions
  | .error _ => []

@[simp] theorem ClientTransaction.actionsOf_ok (actions : List Action) :
    ClientTransaction.actionsOf (.ok actions) = actions := rfl

@[simp] theorem ClientTransaction.actionsOf_error (error : ClientError) :
    ClientTransaction.actionsOf (.error error) = [] := rfl

end Transaction
end LiveAISIP
