import LiveAISIP.Call.Engine
import LiveAISIP.Transaction.ManagerFencing

/-!
# What the engine does to its transaction registry

Every operation of the engine changes its registry through the operations of the
registry only.  So an invariant of the registry that these keep is kept by the
engine: by all of it where the start of a client keeps the invariant too, and by
everything but the requests that it starts where it does not.
-/

namespace LiveAISIP

open Sip Effect
open Effect.Keeps

namespace Transaction

/-- The operation neither registers a client nor fences the registry. -/
def ManagerOperation.IsQuiet : ManagerOperation → Prop
  | .insertClient _ _ | .startClient _ _ | .beginShutdown => False
  | _ => True

/-- The invariant is kept by every quiet operation. -/
def KeptQuietly (Registry : TransactionManager → Prop) : Prop :=
  ∀ manager operation, operation.IsQuiet → Registry manager → Registry (manager.apply operation)

/-- The invariant is kept by the start of a client. -/
def KeptByStart (Registry : TransactionManager → Prop) : Prop :=
  ∀ manager transaction allocated, Registry manager →
    Registry (manager.apply (.startClient transaction allocated))

end Transaction

namespace Call

open Transaction

variable {Registry : TransactionManager → Prop}

namespace CallSignaling

/-- The registry of the call has the invariant. -/
def Has (Registry : TransactionManager → Prop) (call : CallSignaling δ) : Prop :=
  Registry call.transactions

@[simp] theorem transactions_cancelFirst
    (call : CallSignaling δ) (test : TimerEntry δ → Bool) :
    (call.cancelFirst test).transactions = call.transactions := by
  unfold cancelFirst
  split <;> rfl

theorem transactions_sendTo
    (call : CallSignaling δ) (grant : Grant δ) (destination : δ) (bytes : Bytes) :
    (call.sendTo grant destination bytes).1.transactions = call.transactions := by
  unfold sendTo
  split <;> rfl

theorem transactions_armTimer
    (call : CallSignaling δ) (grant : Grant δ) (token : Token)
    (timer : TransactionTimer δ) (kind : UInt16) (delay now : Duration) :
    (call.armTimer grant token timer kind delay now).1.transactions = call.transactions := by
  unfold armTimer
  split_ifs
  · rfl
  · split
    · rfl
    · split <;> rfl

/-- The end of a transaction completes it. -/
theorem keeps_finishTransaction
    (quietly : KeptQuietly Registry) (grant : Grant δ) (token : Token) (now : Duration) :
    Effect.Keeps (Has Registry) fun call : CallSignaling δ =>
      call.finishTransaction grant token now := by
  intro call holds
  have completed := quietly call.transactions
    (.completeAt token now grant.completionReserved) trivial holds
  simp only [TransactionManager.apply] at completed
  simp only [Has, finishTransaction, transactions_cancelToken]
  split <;> simp_all

theorem keeps_executeClientAction
    (quietly : KeptQuietly Registry) (grant : Grant δ) (token : Token)
    (now : Duration) (action : Action) :
    Effect.Keeps (Has Registry) fun call : CallSignaling δ =>
      call.executeClientAction grant token now action := by
  intro call holds
  cases action with
  | send bytes | sendAck bytes =>
    simpa only [Has, executeClientAction, send, transactions_sendTo] using holds
  | schedule timer delay =>
    simpa only [Has, executeClientAction, transactions_armTimer,
      cancelClientTimer, transactions_cancelFirst] using holds
  | cancel timer =>
    simpa only [Has, executeClientAction, cancelClientTimer, transactions_cancelFirst] using holds
  | deliverResponse => exact holds
  | terminate => exact keeps_finishTransaction quietly grant token now call holds

theorem keeps_executeServerAction
    (quietly : KeptQuietly Registry) (grant : Grant δ) (token : Token)
    (destination : δ) (now : Duration) (action : ServerAction) :
    Effect.Keeps (Has Registry) fun call : CallSignaling δ =>
      call.executeServerAction grant token destination now action := by
  intro call holds
  cases action with
  | deliverRequest => exact holds
  | sendResponse bytes =>
    simpa only [Has, executeServerAction, transactions_sendTo] using holds
  | schedule timer delay =>
    simpa only [Has, executeServerAction, transactions_armTimer,
      cancelServerTimer, transactions_cancelFirst] using holds
  | cancel timer =>
    simpa only [Has, executeServerAction, cancelServerTimer, transactions_cancelFirst] using holds
  | terminate => exact keeps_finishTransaction quietly grant token now call holds

/-- Actions keep what each of them keeps. -/
theorem keeps_executeAll
    {Invariant : CallSignaling δ → Prop} {execute : CallSignaling δ → Grant δ → α → Result δ Unit}
    (keeps : ∀ grant action, Effect.Keeps Invariant fun call => execute call grant action)
    (grants : Nat → Grant δ) (actions : List α) :
    Effect.Keeps Invariant fun call => executeAll execute grants call actions := by
  intro call holds
  induction actions generalizing call grants with
  | nil => exact holds
  | cons action actions ih =>
    have next : Invariant (execute call (grants 0) action).1 := keeps (grants 0) action call holds
    simp only [executeAll]
    rcases executed : execute call (grants 0) action with ⟨reached, error | _⟩
    · rw [executed] at next
      exact next
    · rw [executed] at next
      exact ih _ reached next

theorem keeps_executeClientActions
    (quietly : KeptQuietly Registry) (grants : Nat → Grant δ) (token : Token)
    (actions : List Action) (now : Duration) :
    Effect.Keeps (Has Registry) fun call : CallSignaling δ =>
      call.executeClientActions grants token actions now := by
  intro call holds
  have executed := keeps_executeAll (fun grant action =>
    keeps_executeClientAction quietly grant token now action) grants actions call holds
  simp only [executeClientActions]
  split <;> simp_all

theorem keeps_executeServerActions
    (quietly : KeptQuietly Registry) (grants : Nat → Grant δ) (token : Token)
    (destination : δ) (actions : List ServerAction) (now : Duration) :
    Effect.Keeps (Has Registry) fun call : CallSignaling δ =>
      call.executeServerActions grants token destination actions now := by
  intro call holds
  have executed := keeps_executeAll (fun grant action =>
    keeps_executeServerAction quietly grant token destination now action) grants actions call holds
  simp only [executeServerActions]
  split <;> simp_all

/-- Routing a response starts no client. -/
theorem keeps_pollResponse
    (quietly : KeptQuietly Registry) (response : ValidatedResponse)
    (grants : Nat → Grant δ) (now : Duration) :
    Effect.Keeps (Has Registry) fun call : CallSignaling δ =>
      call.pollResponse response grants now := by
  intro call holds
  have routed := quietly call.transactions (.routeResponseAt response now) trivial holds
  simp only [TransactionManager.apply] at routed
  simp only [pollResponse]
  rcases found : call.transactions.routeResponseAt response now with
    ⟨next, error | route⟩
  · rw [found] at routed
    exact routed
  · rw [found] at routed
    have noted : Has Registry { call with transactions := next } := routed
    cases route with
    | live taken =>
      exact keeps_executeClientActions quietly grants taken.token taken.actions now
        _ noted
    | unknown => exact noted
    | retained disposition =>
      cases disposition with
      | deliverLateSuccess generation => exact noted
      | absorb generation => exact noted
      | resendFailureAck generation ack =>
        have sent : Has Registry (send { call with transactions := next } (grants 0) ack).1 := by
          simpa only [Has, send, transactions_sendTo] using noted
        simp only
        split <;> simp_all

/-- A started request is registered, and its start is carried out. -/
theorem keeps_startRequest
    (quietly : KeptQuietly Registry) (starts : KeptByStart Registry)
    (fromRequest : ValidatedRequest → Except AckBuildError Non2xxAckTemplate)
    (request : ValidatedRequest) (allocated : Bool) (grants : Nat → Grant δ) (now : Duration) :
    Effect.Keeps (Has Registry) fun call : CallSignaling δ =>
      call.startRequest fromRequest request allocated grants now := by
  intro call holds
  simp only [startRequest]
  cases ClientTransaction.new fromRequest request false .default with
  | error error => exact holds
  | ok transaction =>
    have started := starts call.transactions transaction allocated holds
    simp only [TransactionManager.apply] at started
    simp only
    rcases registered : call.transactions.startClient transaction allocated with
      ⟨next, error | routed⟩
    · rw [registered] at started
      exact started
    · rw [registered] at started
      have executed := keeps_executeClientActions quietly grants routed.token
        routed.actions now { call with transactions := next } started
      simp only
      split <;> simp_all

theorem keeps_start
    (quietly : KeptQuietly Registry) (starts : KeptByStart Registry)
    (fromRequest : ValidatedRequest → Except AckBuildError Non2xxAckTemplate)
    (allocated : Bool) (grants : Nat → Grant δ) (now : Duration) :
    Effect.Keeps (Has Registry) fun call : CallSignaling δ =>
      call.start fromRequest allocated grants now := by
  intro call holds
  simp only [start]
  cases call.signaling.initialInvite with
  | none => exact holds
  | some request =>
    exact keeps_startRequest quietly starts fromRequest request allocated grants now
      _ holds

end CallSignaling

namespace DialogSignaling

@[simp] theorem template_inDialogRequestIsValid
    (state : DialogSignaling) (request : InDialogRequest) (advance : Bool) :
    (state.inDialogRequestIsValid request advance).1.template = state.template := by
  unfold inDialogRequestIsValid
  split
  · split
    · rfl
    · split
      · rfl
      · split_ifs <;> rfl
  · rfl

theorem template_rememberConfirmed
    (state : DialogSignaling) (branch : DialogBranchId)
    (response : DialogResponse) (grants : Nat → Bool) (allocated : Bool) :
    (state.rememberConfirmed branch response grants allocated).1.template = state.template := by
  unfold rememberConfirmed
  split
  · rfl
  · split
    · rfl
    · split
      · rfl
      · split_ifs
        · rfl
        · split
          · unfold refreshDialog
            split
            · rfl
            · split <;> rfl
          · unfold registerDialog
            split
            · rfl
            · split <;> rfl

theorem template_buildRequest
    (state : DialogSignaling) (method : Method) (branch : Option DialogBranchId)
    (generated : Except SignalingError (List ViaEntry))
    (renders : OutboundRequest → Except SignalingError Unit) :
    (state.buildRequest method branch generated renders).1.template = state.template := by
  have numbers (token : Dialog.DialogToken) :
      (state.numberRequest token method).1.template = state.template := by
    unfold numberRequest
    split
    · split <;> rfl
    · split <;> rfl
  have addresses (template : RequestTemplate) :
      (state.addressRequest template method branch).1.template = state.template := by
    unfold addressRequest
    split
    · rfl
    · split
      · rfl
      · rename_i token _ _
        have same := numbers token
        split <;> simp_all
  unfold buildRequest
  split
  · rfl
  · rename_i template _
    have same := addresses template
    split <;> simp_all

end DialogSignaling

namespace SignalingEngine

variable {codec : MessageCodec} {now : Duration}

theorem template_classifyInboundRequest
    (state : DialogSignaling) (request : InboundRequest) :
    (classifyInboundRequest state request).1.template = state.template := by
  have first : (if request.method = .bye then
      state.inDialogRequestIsValid request.toInDialogRequest true
      else (state, false)).1.template = state.template := by
    split_ifs
    · exact DialogSignaling.template_inDialogRequestIsValid state _ true
    · rfl
  unfold classifyInboundRequest
  split
  rename_i next isBye found
  rw [found] at first
  split_ifs
  · exact first
  · exact first
  · split <;> exact first

/-- What only an authenticated retry changes, and the credentials, which nothing
changes. -/
structure Settings where
  template : Option RequestTemplate
  authentication : AuthContext
  credentials : Option DigestCredentials

/-- The settings of an engine. -/
def settings (engine : SignalingEngine δ) : Settings :=
  ⟨engine.dialog.template, engine.authentication, engine.credentials⟩

/-- The registry and the settings of the engine have their invariants. -/
structure Has
    (Registry : TransactionManager → Prop) (Holds : Settings → Prop)
    (engine : SignalingEngine δ) : Prop where
  registry : Registry engine.call.transactions
  settings : Holds engine.settings

variable {Holds : Settings → Prop}

theorem onCall_apply
    (inner : CallSignaling δ → CallSignaling.Result δ α) (engine : SignalingEngine δ) :
    onCall inner engine =
      ({ engine with call := (inner engine.call).1 }, (inner engine.call).2) := rfl

theorem keeps_onCall
    {inner : CallSignaling δ → CallSignaling.Result δ α}
    (keeps : Effect.Keeps (CallSignaling.Has Registry) inner) :
    Effect.Keeps (Has Registry Holds) (onCall inner) :=
  keeps_zoom fun engine holds => ⟨keeps engine.call holds.1, holds.2⟩

theorem keeps_onDialog
    {inner : DialogSignaling → DialogSignaling × Except SignalingError α}
    (same : ∀ state, (inner state).1.template = state.template) :
    Effect.Keeps (Has (δ := δ) Registry Holds) (onDialog inner) := by
  refine keeps_zoom fun engine holds => ⟨holds.1, ?_⟩
  have settings := holds.2
  rw [SignalingEngine.settings, ← same] at settings
  exact settings

/-- Routing a request through the registry is one quiet operation. -/
theorem keeps_routed
    (quietly : KeptQuietly Registry) (operation : ManagerOperation)
    {route : TransactionManager → TransactionManager × Except ManagerError α}
    (quiet : operation.IsQuiet) (routes : ∀ manager, (route manager).1 = manager.apply operation) :
    Effect.Keeps (Has (δ := δ) Registry Holds) (routed route) := by
  refine keeps_onCall fun call holds => ?_
  have applied := quietly call.transactions operation quiet holds
  rw [← routes] at applied
  exact applied

theorem keeps_handleInboundRequest
    (quietly : KeptQuietly Registry) (codec : MessageCodec)
    (request : InboundRequest) (turn : Turn δ) (now : Duration) :
    Effect.Keeps (Has Registry Holds) (handleInboundRequest codec request turn now) := by
  have executes (token : Token) (destination : δ) (actions : List ServerAction)
      (grants : Nat → Grant δ) : Effect.Keeps (Has Registry Holds)
        (executeServer token destination actions grants now) :=
    keeps_onCall (CallSignaling.keeps_executeServerActions quietly grants token
      destination actions now)
  unfold handleInboundRequest
  refine (keeps_ofExcept _).bind fun destination => ?_
  split_ifs
  · refine bind ?_ fun _ => keeps_pure _
    unfold handleAck
    refine (keeps_routed quietly (.routeAck request.toValidatedRequest) trivial
      fun _ => rfl).bind fun route => ?_
    split
    · exact (executes _ _ _ _).bind fun _ => keeps_pure _
    · refine (keeps_read _).bind fun _ => ?_
      split_ifs
      · exact keeps_pure _
      · exact keeps_modify fun _ holds => ⟨holds.1, holds.2⟩
  · refine (keeps_routed quietly (.routeRequest request.toValidatedRequest) trivial
      fun _ => rfl).bind fun route => ?_
    split
    · exact (executes _ _ _ _).bind fun _ => keeps_pure _
    · unfold answerRequest
      refine bind ?_ fun opened => ?_
      · unfold openServer
        refine (keeps_ofExcept _).bind fun transaction => ?_
        refine (keeps_routed quietly (.startServer transaction turn.serverAllocated)
          trivial fun _ => rfl).bind fun started => ?_
        exact (executes _ _ _ _).bind fun _ => keeps_pure _
      · split
        · exact keeps_pure _
        · refine (keeps_onDialog fun state =>
            template_classifyInboundRequest state request).bind fun (status, event) => ?_
          refine (keeps_ofExcept _).bind fun bytes => ?_
          refine (keeps_routed quietly (.respondServer _ status bytes)
            trivial fun _ => rfl).bind fun responded => ?_
          exact (executes _ _ _ _).bind fun _ => keeps_pure _

/-- Recording and reporting a response leaves the registry and the settings. -/
theorem keeps_reportResponse (response : InboundResponse) (turn : Turn δ) :
    Effect.Keeps (Has Registry Holds) (reportResponse response turn) := by
  unfold reportResponse
  refine (keeps_ofExcept _).bind fun event => ?_
  split
  · exact keeps_pure _
  · refine bind ?_ fun _ => (keeps_read _).bind fun _ =>
      keeps_pure _
    unfold rememberAccepted
    split
    · exact keeps_onDialog fun state =>
        state.template_rememberConfirmed _ _ _ _
    · exact keeps_pure _

/-- A response keeps what the answer to a challenge keeps. -/
theorem keeps_handleInboundResponse
    (quietly : KeptQuietly Registry) {response : InboundResponse} {turn : Turn δ}
    (retries : Effect.Keeps (Has Registry Holds)
      (retryAuthenticatedInvite codec response turn now)) :
    Effect.Keeps (Has Registry Holds) (handleInboundResponse codec response turn now) := by
  have observes : Effect.Keeps (Has (δ := δ) Registry Holds) (observeKnown response now) := by
    refine keeps_modify fun engine holds => ?_
    split
    · exact holds
    · exact holds
    · unfold observeReflexiveAddr
      split
      · split_ifs
        · exact holds
        · exact ⟨holds.1, holds.2⟩
      · exact holds
  refine observes.bind fun _ => ?_
  refine (keeps_onCall (CallSignaling.keeps_pollResponse quietly
    response.toValidatedResponse turn.grants now)).bind fun delivered => ?_
  split_ifs
  · refine retries.bind fun retried => ?_
    split_ifs
    · exact keeps_pure _
    · exact keeps_reportResponse response turn
  · exact keeps_pure _

/-- A datagram keeps what the answer to a challenge keeps. -/
theorem keeps_receive
    (quietly : KeptQuietly Registry) {datagram : Datagram} {turn : Turn δ}
    (retries : ∀ response, datagram = .response response → Effect.Keeps (Has Registry Holds)
        (retryAuthenticatedInvite codec response turn now)) :
    Effect.Keeps (Has Registry Holds) (receive codec now datagram turn) := by
  cases datagram with
  | broken => exact keeps_fail _
  | malformed =>
    refine bind (keeps_modify ?_) fun _ => keeps_pure _
    exact fun _ holds => ⟨holds.1, holds.2⟩
  | request request =>
    refine bind (keeps_modify ?_) fun _ =>
      (keeps_handleInboundRequest quietly codec request turn now).bind fun _ =>
        keeps_pure _
    exact fun _ holds => ⟨holds.1, holds.2⟩
  | response response =>
    refine bind (keeps_modify ?_) fun _ =>
      keeps_handleInboundResponse quietly (retries response rfl)
    exact fun _ holds => ⟨holds.1, holds.2⟩

theorem keeps_startRequest
    (quietly : KeptQuietly Registry) (starts : KeptByStart Registry)
    (codec : MessageCodec) (request : ValidatedRequest) (grant : StartGrant δ) (now : Duration) :
    Effect.Keeps (Has Registry Holds) (startRequest codec request grant now) :=
  keeps_onCall (CallSignaling.keeps_startRequest quietly starts codec.ackTemplate
    request grant.allocated grant.grants now)

/-- An authenticated retry changes the settings, and starts a client. -/
theorem keeps_retryAuthenticatedInvite
    (quietly : KeptQuietly Registry) (starts : KeptByStart Registry)
    (codec : MessageCodec) (response : InboundResponse) (turn : Turn δ) (now : Duration) :
    Effect.Keeps (Has Registry fun _ => True)
      (retryAuthenticatedInvite codec response turn now) := by
  have sets {change : SignalingEngine δ → SignalingEngine δ}
      (same : ∀ engine, (change engine).call = engine.call) :
      Effect.Keeps (Has Registry fun _ => True)
        (modify change : Operation δ Unit) := by
    refine keeps_modify fun engine holds => ⟨?_, trivial⟩
    rw [same]
    exact holds.1
  have installed : Effect.Keeps (Has (δ := δ) Registry fun _ => True) installedTemplate := by
    refine (keeps_read _).bind fun template => ?_
    split
    · exact keeps_fail _
    · exact keeps_pure _
  have installs (scope : AuthScope) : Effect.Keeps (Has Registry fun _ => True)
      (installChallenges response scope turn) := by
    refine (keeps_ofExcept _).bind fun challenges => ?_
    refine (keeps_read _).bind fun context => ?_
    refine (keeps_ofExcept _).bind fun next => ?_
    exact sets fun _ => rfl
  have authorizes (scope : AuthScope) (credentials : DigestCredentials)
      (template : RequestTemplate) : Effect.Keeps (Has Registry fun _ => True)
        (authorizeInvite codec scope credentials template turn) := by
    refine (keeps_ofExcept _).bind fun clientNonce => ?_
    refine (keeps_read _).bind fun context => ?_
    refine (keeps_read _).bind fun body => ?_
    refine (keeps_ofExcept _).bind fun drawn => ?_
    refine bind (sets ?_) fun _ => ?_
    · exact fun _ => rfl
    · split
      · exact keeps_fail _
      · exact keeps_fail _
      · exact sets fun _ => rfl
      · exact sets fun _ => rfl
  have resends (template : RequestTemplate) : Effect.Keeps (Has Registry fun _ => True)
      (resendInvite codec template turn now) := by
    unfold resendInvite
    split_ifs
    · have builds (sequence : UInt32) : Effect.Keeps
          (Has (δ := δ) Registry fun _ => True)
          (buildAuthenticatedInvite codec sequence turn.retry.via) :=
        (keeps_ofExcept _).bind fun via => installed.bind fun template =>
          (keeps_ofExcept _).bind fun cseq =>
            (keeps_read _).bind fun invite =>
              (keeps_ofExcept _).bind fun request => keeps_pure _
      refine (builds _).bind fun built => ?_
      refine bind (sets ?_) fun _ => ?_
      · exact fun _ => rfl
      · exact keeps_startRequest quietly starts codec _ turn.retry now
    · exact keeps_fail _
  unfold retryAuthenticatedInvite
  split
  · exact keeps_pure _
  · split_ifs
    · exact keeps_pure _
    · refine (keeps_read _).bind fun credentials => ?_
      split
      · exact keeps_pure _
      · refine installed.bind fun template => ?_
        split_ifs
        · exact keeps_pure _
        · exact ((installs _).bind fun _ => (authorizes _ _ _).bind fun _ =>
            resends _).bind fun _ => keeps_pure _

/-- The wire effects of call actions keep what the start of a client keeps. -/
theorem keeps_executeCallActions
    (quietly : KeptQuietly Registry) (starts : KeptByStart Registry)
    (codec : MessageCodec) (actions : List CallAction)
    (grants : Nat → StartGrant δ) (now : Duration) :
    Effect.Keeps (Has Registry Holds) (executeCallActions codec actions grants now) := by
  have builds (method : Method) (branch : Option DialogBranchId)
      (via : Except SignalingError (List ViaEntry)) :
      Effect.Keeps (Has (δ := δ) Registry Holds) (buildRequest codec method branch via) :=
    (keeps_onDialog fun state => state.template_buildRequest _ _ _ _).bind fun _ =>
      keeps_ofExcept _
  refine keeps_each (fun numbered => ?_) _
  cases numbered.1 with
  | sendCancel | sendBye branch =>
    exact (builds _ _ _).bind fun _ =>
      keeps_startRequest quietly starts codec _ _ now
  | sendAck branch =>
    refine (builds _ _ _).bind fun request => keeps_onCall fun call holds => ?_
    simpa only [CallSignaling.Has, CallSignaling.send,
      CallSignaling.transactions_sendTo] using holds
  | sendInvite | selectBranch branch | applyEarlyMedia branch | sendRefer target
  | sendReferReplaces otherCall | applySessionModification method hasOffer
  | ended reason => exact keeps_pure _

/-- A poll keeps what is kept at every datagram that it comes to. -/
theorem poll_of_receives
    {Invariant : SignalingEngine δ → Prop} {engine : SignalingEngine δ}
    {receipts : List (Datagram × Turn δ)} (holds : Invariant engine)
    (receives : ∀ earlier datagram turn later, receipts.take maxSignalingDatagramsPerPoll =
        earlier ++ (datagram, turn) :: later →
      (Poll.after codec now engine earlier).failure = none →
      Invariant (Poll.after codec now engine earlier).engine →
        Invariant ((Poll.after codec now engine earlier).engine.receive codec now
          datagram turn).1) :
    Invariant (engine.poll codec receipts now).1 := by
  refine Run.guarded_invariant (fun _ (poll : Poll δ) => Invariant poll.engine) holds
    ?_ _ fun earlier receipt later split => receives earlier receipt.1 receipt.2 later split
  intro earlier receipt kept reached
  simp only [Poll.step]
  split
  · exact reached
  · rename_i intact
    have received := kept intact reached
    simp only [Poll.after] at received
    split <;> simp_all

/-- A poll keeps what its datagrams keep. -/
theorem keeps_poll
    {Invariant : SignalingEngine δ → Prop}
    (receives : ∀ datagram turn, Effect.Keeps Invariant (receive codec now datagram turn))
    (receipts : List (Datagram × Turn δ)) :
    Effect.Keeps Invariant (poll codec receipts now) :=
  fun _ holds => poll_of_receives holds fun _ datagram turn _ _ _ reached =>
    receives datagram turn _ reached

end SignalingEngine

end Call
end LiveAISIP
