import LiveAISIP.Call.Deadline
import LiveAISIP.Call.Lifecycle
import LiveAISIP.Dialog.Manager
import LiveAISIP.Library.SwapRemove
import LiveAISIP.Sip.Auth
import LiveAISIP.Transaction.ManagerCompletion
import LiveAISIP.Transaction.RequestTimeout

/-!
# Transaction timers of a call

How the signaling engine of `call/signaling/engine.rs` carries out the actions
of its client and server transactions: it sends their datagrams, keeps one
deadline for each of their timers, and completes the transactions that end.
An operation that fails keeps what it did before the failure.  The outcomes of
the socket and of the allocator are arguments.
-/

namespace LiveAISIP
namespace Call

open Sip Transaction SwapRemove
open ClientTransaction SupervisedClient

/-- Maximum simultaneously tracked client and server transaction timers. -/
def maxTransactionTimers : Nat := 384

/-- A transaction timer; a server sends to the source of its request. -/
inductive TransactionTimer (δ : Type)
  | client (timer : Timer)
  | server (timer : ServerTimer) (destination : δ)

/-- One armed transaction timer. -/
structure TimerEntry (δ : Type) where
  id : DeadlineId
  token : Token
  timer : TransactionTimer δ

/-- The deadline kind of a client timer. -/
def clientTimerKind : Timer → UInt16
  | .retransmit => 1
  | .requestTimeout => 2
  | .linger => 3

/-- The deadline kind of a server timer. -/
def serverTimerKind : ServerTimer → UInt16
  | .trying => 101
  | .retransmit => 102
  | .finalResponseLifetime => 103
  | .termination => 104

/-- The outcome of sending one datagram. -/
inductive Transmission
  | sent
  | inadmissible
  | failed

/-- What the socket and the allocator grant to one action. -/
structure Grant (δ : Type) where
  transmit : δ → Bytes → Transmission
  heapReserved : Bool
  activeReserved : Bool
  completionReserved : Bool

/-- Executable signaling failure. -/
inductive SignalingError
  | driver
  | udp
  | client (error : ClientError)
  | transactions (error : ManagerError)
  | deadlines (error : DeadlineError)
  | initialInviteMissing
  | timerCapacity
  | allocationFailed
  | timeOverflow
  | via
  | cseq
  | build
  | serialize
  | parse
  | validateRequest
  | wireToken
  | to
  | unknownDialogBranch
  | dialogId (error : Dialog.DialogIdError)
  | dialogs (error : Dialog.DialogManagerError)
  | dialog (error : Dialog.DialogError)
  | dialogBranchMismatch
  | missingLocalDialogTag
  | headerNormalization
  | contact
  | invalidDialogContact
  | recordRoute
  | dialogRoute (count maximum : Nat)
  | destination
  | server (error : ServerError)
  | branch (error : ForkError)
  | flow
  | responseBuild
  | sequenceExhausted
  | challenge
  | authentication (error : AuthContextError)
  | authorization
  | proxyAuthorization
  | route

/-- One call-owned destination, initial transaction and its timers. -/
structure UdpSignaling (δ : Type) where
  destination : δ
  initialInvite : Option ValidatedRequest
  timers : List (TimerEntry δ)
  sent : Nat

/-- The signaling engine with the registries that the call lends it. -/
structure CallSignaling (δ : Type) where
  signaling : UdpSignaling δ
  transactions : TransactionManager
  deadlines : DeadlineScheduler

namespace CallSignaling

variable {call next : CallSignaling δ} {grants : Nat → Grant δ}

/-- The result of an operation that may fail after some of its effects. -/
abbrev Result (δ α : Type) := CallSignaling δ × Except SignalingError α

/-- The engine with other timers and deadlines. -/
def withTimers
    (call : CallSignaling δ) (timers : List (TimerEntry δ))
    (deadlines : DeadlineScheduler) : CallSignaling δ :=
  { call with
    signaling := { call.signaling with timers := timers }
    deadlines := deadlines }

/-- Send one datagram. -/
def sendTo
    (call : CallSignaling δ) (grant : Grant δ) (destination : δ) (bytes : Bytes) : Result δ Unit :=
  match grant.transmit destination bytes with
  | .inadmissible => (call, .error .udp)
  | .failed => (call, .error .driver)
  | .sent =>
    let sent := min (call.signaling.sent + 1) (2 ^ 64 - 1)
    ({ call with signaling := { call.signaling with sent := sent } }, .ok ())

/-- Send one datagram to the peer of the call. -/
def send (call : CallSignaling δ) (grant : Grant δ) (bytes : Bytes) : Result δ Unit :=
  call.sendTo grant call.signaling.destination bytes

/-- The entry holds one client timer of a token. -/
def isClientTimer
    (token : Token) (timer : Timer) (entry : TimerEntry δ) : Bool :=
  entry.token = token &&
    match entry.timer with
    | .client value => value = timer
    | .server _ _ => false

/-- The entry holds one server timer of a token. -/
def isServerTimer
    (token : Token) (timer : ServerTimer) (entry : TimerEntry δ) : Bool :=
  entry.token = token &&
    match entry.timer with
    | .client _ => false
    | .server value _ => value = timer

/-- Disarm the first entry that passes a test. -/
def cancelFirst (call : CallSignaling δ) (test : TimerEntry δ → Bool) : CallSignaling δ :=
  match takeFirst test call.signaling.timers with
  | none => call
  | some (entry, timers) =>
    call.withTimers timers (call.deadlines.cancel entry.id).1

/-- Disarm one client timer. -/
def cancelClientTimer (call : CallSignaling δ) (token : Token) (timer : Timer) : CallSignaling δ :=
  call.cancelFirst (isClientTimer token timer)

/-- Disarm one server timer. -/
def cancelServerTimer
    (call : CallSignaling δ) (token : Token) (timer : ServerTimer) : CallSignaling δ :=
  call.cancelFirst (isServerTimer token timer)

/-- Disarm the timers of a token from an index on. -/
def cancelTokenFrom
    (token : Token) (timers : List (TimerEntry δ)) (deadlines : DeadlineScheduler)
    (index : Nat) : List (TimerEntry δ) × DeadlineScheduler :=
  if _inside : index < timers.length then
    let entry := timers[index]
    if entry.token = token then
      cancelTokenFrom token (swapRemove timers index) (deadlines.cancel entry.id).1 index
    else
      cancelTokenFrom token timers deadlines (index + 1)
  else
    (timers, deadlines)
termination_by timers.length - index
decreasing_by
  · rw [length_swapRemove]
    omega
  · omega

/-- Disarm every timer of a token. -/
def cancelToken (call : CallSignaling δ) (token : Token) : CallSignaling δ :=
  let (timers, deadlines) := cancelTokenFrom token call.signaling.timers call.deadlines 0
  call.withTimers timers deadlines

/-- Arm one timer of a token. -/
def armTimer
    (call : CallSignaling δ) (grant : Grant δ) (token : Token)
    (timer : TransactionTimer δ) (kind : UInt16) (delay now : Duration) : Result δ Unit :=
  if call.signaling.timers.length ≥ maxTransactionTimers then
    (call, .error .timerCapacity)
  else
    match now.checkedAdd delay with
    | none => (call, .error .timeOverflow)
    | some at_ =>
      match call.deadlines.schedule at_.asNanos .transaction
          (UInt64.ofNat token.generation) kind grant.heapReserved
          grant.activeReserved with
      | (deadlines, .error error) =>
        ({ call with deadlines := deadlines }, .error (.deadlines error))
      | (deadlines, .ok id) =>
        (call.withTimers (call.signaling.timers ++ [⟨id, token, timer⟩]) deadlines, .ok ())

/-- Disarm the timers of an ended transaction and complete it. -/
def finishTransaction
    (call : CallSignaling δ) (grant : Grant δ) (token : Token) (now : Duration) : Result δ Unit :=
  let call := call.cancelToken token
  match call.transactions.completeAt token now grant.completionReserved with
  | (transactions, .error error) =>
    ({ call with transactions := transactions }, .error (.transactions error))
  | (transactions, .ok _) => ({ call with transactions := transactions }, .ok ())

/-- Carry out one client action. -/
def executeClientAction
    (call : CallSignaling δ) (grant : Grant δ) (token : Token)
    (now : Duration) : Action → Result δ Unit
  | .send bytes | .sendAck bytes => call.send grant bytes
  | .schedule timer delay =>
    (call.cancelClientTimer token timer).armTimer grant token (.client timer)
      (clientTimerKind timer) delay now
  | .cancel timer => (call.cancelClientTimer token timer, .ok ())
  | .deliverResponse => (call, .ok ())
  | .terminate => call.finishTransaction grant token now

/-- Carry out one server action. -/
def executeServerAction
    (call : CallSignaling δ) (grant : Grant δ) (token : Token) (destination : δ)
    (now : Duration) : ServerAction → Result δ Unit
  | .deliverRequest => (call, .ok ())
  | .sendResponse bytes => call.sendTo grant destination bytes
  | .schedule timer delay =>
    (call.cancelServerTimer token timer).armTimer grant token
      (.server timer destination) (serverTimerKind timer) delay now
  | .cancel timer => (call.cancelServerTimer token timer, .ok ())
  | .terminate => call.finishTransaction grant token now

/-- Carry out actions in order, up to the first failure. -/
def executeAll
    (execute : CallSignaling δ → Grant δ → α → Result δ Unit) :
    (Nat → Grant δ) → CallSignaling δ → List α → Result δ Unit
  | _, call, [] => (call, .ok ())
  | grants, call, action :: actions =>
    match execute call (grants 0) action with
    | (next, .error error) => (next, .error error)
    | (next, .ok ()) =>
      executeAll execute (fun index => grants (index + 1)) next actions

/-- Carry out the actions of a client transaction; the result tells whether the
response is delivered. -/
def executeClientActions
    (call : CallSignaling δ) (grants : Nat → Grant δ) (token : Token)
    (actions : List Action) (now : Duration) : Result δ Bool :=
  match executeAll (fun call grant => call.executeClientAction grant token now)
      grants call actions with
  | (next, .error error) => (next, .error error)
  | (next, .ok ()) => (next, .ok (decide (.deliverResponse ∈ actions)))

/-- Carry out the actions of a server transaction; the result tells whether the
request is delivered. -/
def executeServerActions
    (call : CallSignaling δ) (grants : Nat → Grant δ) (token : Token)
    (destination : δ) (actions : List ServerAction) (now : Duration) : Result δ Bool :=
  match executeAll
      (fun call grant => call.executeServerAction grant token destination now)
      grants call actions with
  | (next, .error error) => (next, .error error)
  | (next, .ok ()) => (next, .ok (decide (.deliverRequest ∈ actions)))

/-- Register a request as a client transaction and carry out its start. -/
def startRequest
    (call : CallSignaling δ)
    (fromRequest : ValidatedRequest → Except AckBuildError Non2xxAckTemplate)
    (request : ValidatedRequest) (allocated : Bool) (grants : Nat → Grant δ)
    (now : Duration) : Result δ Unit :=
  match new fromRequest request false .default with
  | .error error => (call, .error (.client error))
  | .ok transaction =>
    match call.transactions.startClient transaction allocated with
    | (transactions, .error error) =>
      ({ call with transactions := transactions }, .error (.transactions error))
    | (transactions, .ok routed) =>
      match executeClientActions { call with transactions := transactions }
          grants routed.token routed.actions now with
      | (next, .error error) => (next, .error error)
      | (next, .ok _) => (next, .ok ())

/-- Start and send the installed initial INVITE transaction. -/
def start
    (call : CallSignaling δ)
    (fromRequest : ValidatedRequest → Except AckBuildError Non2xxAckTemplate)
    (allocated : Bool) (grants : Nat → Grant δ) (now : Duration) : Result δ Unit :=
  match call.signaling.initialInvite with
  | none => (call, .error .initialInviteMissing)
  | some request =>
    startRequest
      { call with signaling := { call.signaling with initialInvite := none } }
      fromRequest request allocated grants now

/-- Route one received response, as a poll does before it looks at the delivered
response; the result tells whether it is delivered. -/
def pollResponse
    (call : CallSignaling δ) (response : ValidatedResponse)
    (grants : Nat → Grant δ) (now : Duration) : Result δ Bool :=
  match call.transactions.routeResponseAt response now with
  | (transactions, .error error) =>
    ({ call with transactions := transactions }, .error (.transactions error))
  | (transactions, .ok route) =>
    let call := { call with transactions := transactions }
    match route with
    | .live routed =>
      call.executeClientActions grants routed.token routed.actions now
    | .retained (.resendFailureAck _ ack) =>
      match call.send (grants 0) ack with
      | (next, .error error) => (next, .error error)
      | (next, .ok ()) => (next, .ok false)
    | .retained (.deliverLateSuccess _) => (call, .ok true)
    | .retained (.absorb _) => (call, .ok false)
    | .unknown => (call, .ok false)

/-- Apply one due generation-fenced client or server transaction timer. -/
def onDeadline
    (call : CallSignaling δ) (id : DeadlineId) (grants : Nat → Grant δ)
    (now : Duration) : Result δ (Option CallEvent) :=
  match takeFirst (fun entry => decide (entry.id = id)) call.signaling.timers with
  | none => (call, .ok none)
  | some (entry, timers) =>
    let call := call.withTimers timers call.deadlines
    match entry.timer with
    | .client timer =>
      match call.transactions.clientTimer entry.token timer with
      | (transactions, .error error) =>
        ({ call with transactions := transactions }, .error (.transactions error))
      | (transactions, .ok actions) =>
        match executeClientActions
            { call with transactions := transactions } grants entry.token
            actions now with
        | (next, .error error) => (next, .error error)
        | (next, .ok _) =>
          (next, .ok (if timer = .requestTimeout then
            some .signalingTimedOut else none))
    | .server timer destination =>
      match call.transactions.serverTimer entry.token timer with
      | (transactions, .error error) =>
        ({ call with transactions := transactions }, .error (.transactions error))
      | (transactions, .ok actions) =>
        match executeServerActions
            { call with transactions := transactions } grants entry.token
            destination actions now with
        | (next, .error error) => (next, .error error)
        | (next, .ok _) => (next, .ok none)

/-- A deadline that reports an event fired the request timeout of an armed
client transaction. -/
theorem onDeadline_eq_some {id : DeadlineId}
    {now : Duration} {event : CallEvent}
    (reported : call.onDeadline id grants now = (next, .ok (some event))) :
    event = .signalingTimedOut ∧ ∃ entry ∈ call.signaling.timers,
        entry.id = id ∧ entry.timer = .client .requestTimeout ∧
        ∃ timers transactions actions delivered,
          call.transactions.clientTimer entry.token .requestTimeout = (transactions, .ok actions) ∧
          executeClientActions
            { call.withTimers timers call.deadlines with
              transactions := transactions }
            grants entry.token actions now = (next, .ok delivered) := by
  unfold onDeadline at reported
  cases taken : takeFirst (fun entry => decide (entry.id = id))
      call.signaling.timers with
  | none => simp [taken] at reported
  | some found =>
    obtain ⟨entry, timers⟩ := found
    obtain ⟨member, identity⟩ := mem_of_takeFirst taken
    simp only [taken] at reported
    cases kind : entry.timer with
    | client timer =>
      simp only [kind] at reported
      split at reported
      · simp at reported
      next transactions actions fired =>
        split at reported
        · simp at reported
        next after delivered executed =>
          simp only [Prod.mk.injEq, Except.ok.injEq, Option.ite_none_right_eq_some] at reported
          obtain ⟨rfl, rfl, ⟨⟩⟩ := reported
          exact ⟨rfl, entry, member, by simpa using identity, kind, timers,
            transactions, actions, delivered, fired, executed⟩
    | server timer destination =>
      simp only [kind] at reported
      split at reported
      · simp at reported
      · split at reported <;> simp at reported

@[simp] theorem transactions_withTimers
    (call : CallSignaling δ) (timers : List (TimerEntry δ)) (deadlines : DeadlineScheduler) :
    (call.withTimers timers deadlines).transactions = call.transactions := rfl

@[simp] theorem transactions_cancelToken
    (call : CallSignaling δ) (token : Token) :
    (call.cancelToken token).transactions = call.transactions := rfl

@[simp] theorem transactions_cancelClientTimer
    (call : CallSignaling δ) (token : Token) (timer : Timer) :
    (call.cancelClientTimer token timer).transactions = call.transactions := by
  unfold cancelClientTimer cancelFirst
  split <;> simp

/-- The actions of a request timeout complete the transaction. -/
theorem fencedClient_of_timedOut {token : Token}
    {entry : Entry ClientTransaction} {now : Duration}
    {delivered : Bool} (live : call.transactions.IsLive token entry)
    (executed : call.executeClientActions grants token
      [.cancel .retransmit, .terminate] now = (next, .ok delivered)) :
    next.transactions.fencedClient token = .error .unknown := by
  have refused := TransactionManager.fencedClient_completeAt live now (grants 1).completionReserved
  simp only [executeClientActions, executeAll, executeClientAction,
    finishTransaction, transactions_cancelToken, Nat.zero_add,
    transactions_cancelClientTimer] at executed
  cases completed : call.transactions.completeAt token now
      (grants 1).completionReserved with
  | mk transactions outcome =>
    rw [completed] at refused executed
    cases outcome with
    | error error => simp at executed
    | ok removed =>
      simp only [Prod.mk.injEq] at executed
      rw [← executed.1]
      exact refused

/-- A reported event is the timeout of a live client transaction without a
final response, which is ended with the report. -/
theorem timedOut_of_onDeadline {id : DeadlineId}
    {now : Duration} {event : CallEvent}
    (reported : call.onDeadline id grants now = (next, .ok (some event))) :
    event = .signalingTimedOut ∧ ∃ entry ∈ call.signaling.timers,
        entry.id = id ∧ entry.timer = .client .requestTimeout ∧
        (∃ live, call.transactions.IsLive entry.token live ∧ IsUnanswered live.transaction.state) ∧
        next.transactions.fencedClient entry.token = .error .unknown := by
  obtain ⟨isTimeout, entry, armed, identity, kind, timers, transactions, actions,
    delivered, fired, executed⟩ := onDeadline_eq_some reported
  obtain ⟨live, after, isLive, -, step, rfl⟩ := TransactionManager.clientTimer_eq_ok fired
  cases step with
  | requestTimeout unanswered =>
    exact ⟨isTimeout, entry, armed, identity, kind, ⟨live, isLive, unanswered⟩,
      fencedClient_of_timedOut (isLive.updateClient _) executed⟩

/-- In every run of an INVITE transaction, a ringing transaction waits for its
request timeout alone, which was armed by its start, ends it when it fires, and
is disarmed by the final response.  A deadline of the engine reports a timeout
only for a live transaction without a final response, and ends it. -/
theorem request_timeout_bounds_invite
    (fromRequest : ValidatedRequest → Except AckBuildError Non2xxAckTemplate)
    (request : ValidatedRequest) (invite : request.method = .invite)
    (reliable : Bool) (timers : TimerConfig) (tx : ClientTransaction)
    (created : new fromRequest request reliable timers = .ok tx)
    (inputs : List ClientInput) :
    let client := clientAfter tx inputs
    (client.state = .proceeding → client.outstanding = {.requestTimeout} ∧
      (client.supervise (.timer .requestTimeout)).1.state = .terminated ∧
      .terminate ∈ ClientTransaction.actionsOf (client.supervise (.timer .requestTimeout)).2) ∧
    Run.AllSteps
      (fun earlier input => ∀ delay, .schedule .requestTimeout delay ∈ ClientTransaction.actionsOf
            ((clientAfter tx earlier).supervise input).2 →
          input = .start ∧ delay = tx.profile.inviteTimeout) inputs ∧
    (.requestTimeout ∈ client.outstanding → IsUnanswered client.state) ∧
    (IsUnanswered client.state → Run.AllSteps
        (fun earlier input =>
          (clientAfter tx earlier).transaction.delivery StatusCode.Final input = 0) inputs) ∧
    ∀ (δ : Type) (call next : CallSignaling δ) (id : DeadlineId)
        (grants : Nat → Grant δ) (now : Duration) (event : CallEvent),
      call.onDeadline id grants now = (next, .ok (some event)) →
      event = .signalingTimedOut ∧ ∃ entry ∈ call.signaling.timers,
          entry.id = id ∧ entry.timer = .client .requestTimeout ∧
          (∃ live, call.transactions.IsLive entry.token live ∧
            IsUnanswered live.transaction.state) ∧
          next.transactions.fencedClient entry.token = .error .unknown := by
  have kind : tx.kind = .invite := by
    obtain ⟨key, template, -, -, rfl⟩ := new_eq_ok created
    rw [ClientTransaction.kind, invite]
    rfl
  have kindAfter := (sameIdentity_clientAfter tx inputs).kind
  have disciplined := disciplined_clientAfter created inputs
  refine ⟨fun ringing => ?_, ?_, ?_, ?_, ?_⟩
  · have outstanding := disciplined.outstanding_of_ringing (kindAfter.trans kind) ringing
    exact ⟨outstanding, disciplined.terminated_of_requestTimeout (by simp [outstanding])⟩
  · intro earlier input later split delay armed
    have identity := sameIdentity_clientAfter tx earlier
    obtain ⟨starts, rfl⟩ := requestTimeout_armed_by_start armed
    refine ⟨starts, ?_⟩
    simp [requestTimeout, identity.kind, identity.profile, kind]
  · exact fun outstanding => (disciplined.requestTimeout.mp outstanding).2
  · exact no_final_of_unanswered tx inputs
  · intro δ call next id grants now event reported
    exact timedOut_of_onDeadline reported

/-- After a 180, a sample INVITE waits for its request timeout. -/
theorem request_timeout_bounds_ringing :
    ∃ tx, new (fun _ => .ok inviteAckTemplate) inviteRequest
        false .default = .ok tx ∧
      (clientAfter tx
        [.start, .response (responseTo inviteRequest .ringing none)]).outstanding =
          {.requestTimeout} := by
  refine ⟨_, rfl, ?_⟩
  exact ((request_timeout_bounds_invite (fun _ => .ok inviteAckTemplate)
    inviteRequest rfl false .default _ rfl
    [.start, .response (responseTo inviteRequest .ringing none)]).1 (by decide)).1

/-- A socket and an allocator that grant everything. -/
def granted : Nat → Grant Unit := fun _ => ⟨fun _ _ => .sent, true, true, true⟩

/-- A call with one installed INVITE and empty registries. -/
def installed : Option (CallSignaling Unit) :=
  match TransactionManager.new 8, DeadlineScheduler.new 8 with
  | .ok transactions, .ok deadlines =>
    some ⟨⟨(), some inviteRequest, [], 0⟩, transactions, deadlines⟩
  | _, _ => none

/-- That call after its INVITE was sent and a 180 was received. -/
def ringing : Option (CallSignaling Unit) := do
  let call ← installed
  let call := (call.start (fun _ => .ok inviteAckTemplate) true granted (.fromSecs 0)).1
  some (call.pollResponse (responseTo inviteRequest .ringing none) granted (.fromSecs 1)).1

/-- The request timeout of a ringing INVITE is left outstanding and terminates
it, and the engine reports it when it is due 32 seconds after the start. -/
theorem ringing_invite_times_out :
    (∃ tx, new (fun _ => .ok inviteAckTemplate) inviteRequest
        false .default = .ok tx ∧
      let client := clientAfter tx [.start, .response (responseTo inviteRequest .ringing none)]
      client.state = .proceeding ∧ .requestTimeout ∈ client.outstanding ∧
        (client.supervise (.timer .requestTimeout)).1.state = .terminated) ∧
    ∃ call due, ringing = some call ∧
      (call.transactions.fencedClient TransactionManager.inviteToken).toOption.map
        (fun entry => entry.transaction.state) = some .proceeding ∧
      (call.deadlines.poll (Duration.fromSecs 32).asNanos).2 = some due ∧
      (CallSignaling.onDeadline
        { call with
          deadlines := (call.deadlines.poll (Duration.fromSecs 32).asNanos).1 }
        due.id granted (.fromSecs 32)).2 = .ok (some .signalingTimedOut) := by
  refine ⟨⟨_, rfl, ?_⟩, _,
    ⟨⟨1⟩, .transaction, 1, clientTimerKind .requestTimeout, 32 * 10 ^ 9⟩, rfl, ?_, ?_, ?_⟩
  · decide
  · decide +kernel
  · decide +kernel
  · rfl

end CallSignaling
end Call
end LiveAISIP
