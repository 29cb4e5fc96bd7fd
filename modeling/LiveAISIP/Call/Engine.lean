import LiveAISIP.Call.DialogRequests
import LiveAISIP.Call.Wire
import LiveAISIP.Library.Effect
import LiveAISIP.Net.Address
import LiveAISIP.Rtp.Sequence
import LiveAISIP.Sip.Sdp.Negotiation

/-!
# The signaling engine

The call-owned UDP signaling of `call/signaling/engine.rs` as one state: its
transactions, timers, dialogs, request template and Digest authentication.  A
poll handles one received datagram after another and stops at the first
failure.  What the parsers read of a message is the message; building and
serializing messages is a function of what the builders are given; the outcomes
of the socket, the allocator and the random source are arguments.
-/

namespace LiveAISIP
namespace Call

open Sip Transaction
open Effect
open Rtp (saturatingAdd)

/-- Maximum SIP datagrams drained for one readiness turn. -/
def maxSignalingDatagramsPerPoll : Nat := 64

/-- The `rport` parameter of a Via hop. -/
inductive RPort
  | flag
  | value (port : UInt16)

/-- One challenge field of a response, as its parser reads it. -/
inductive ChallengeField
  | unreadable
  | invalid
  | challenge (challenge : AuthChallenge)

/-- A received response with everything that the engine reads of it. -/
structure InboundResponse extends ValidatedResponse where
  callId : String
  fromHeader : FromHeader
  received : Option IpAddress
  rport : Option RPort
  routingFields : List RoutingField
  challengeFields : List (AuthScope × ChallengeField)

/-- What recording a dialog reads of a response. -/
def InboundResponse.toDialogResponse (response : InboundResponse) : DialogResponse where
  callId := response.callId
  fromHeader := response.fromHeader
  toHeader := response.toHeader
  cseq := response.cseq
  routingFields := response.routingFields

/-- A received request with everything that the engine reads of it. -/
structure InboundRequest extends ValidatedRequest where
  callId : String
  fromHeader : FromHeader
  toHeader : ToHeader

/-- What dialog matching reads of a request. -/
def InboundRequest.toInDialogRequest (request : InboundRequest) : InDialogRequest where
  callId := request.callId
  fromHeader := request.fromHeader
  toHeader := request.toHeader
  cseq := request.cseq

/-- One receive of the driver: a failure of the socket, a datagram that is no
valid message, or a message. -/
inductive Datagram
  | broken
  | malformed
  | request (request : InboundRequest)
  | response (response : InboundResponse)

/-- What a valid SDP answer means. -/
inductive RemoteMediaDisposition
  | active
  | held
  | rejected
  deriving DecidableEq

/-- The negotiated SDP answer of one branch, with an endpoint for active media. -/
structure RemoteMediaAnswer where
  branch : DialogBranchId
  disposition : RemoteMediaDisposition
  negotiated : Option Sdp.NegotiatedMedia
  remoteRtp : Option SocketAddress

/-- Why an SDP answer is refused. -/
inductive MediaAnswerError
  | notInviteMediaResponse
  | notApplicationSdp
  | missingBranchTag
  | branch
  | codec
  | missingStaticPcmuMapping
  | sdp
  | duplicateSessionDirection
  | missingAudioSection
  | multipleAudioSections
  | missingConnection
  | duplicateConnection
  | invalidConnection
  | nonUnicastUnsupported
  | negotiation

/-- The negotiation of remote SDP answers. -/
structure MediaAnswerPolicy where
  negotiateResponse : InboundResponse → Except MediaAnswerError (Option RemoteMediaAnswer)

/-- The SDP result of a response. -/
inductive MediaAnswerOutcome
  | negotiated (answer : RemoteMediaAnswer)
  | invalid (error : MediaAnswerError)

/-- One ordered result of a poll. -/
structure SignalingOutcome where
  event : CallEvent
  media : Option MediaAnswerOutcome

/-- The content of the initial INVITE. -/
structure InviteContent where
  contentType : Option Bytes
  body : Bytes

/-- What the request builder is given for an authenticated INVITE. -/
structure AuthenticatedInvite where
  requestUri : Uri
  via : List ViaEntry
  fromHeader : FromHeader
  toHeader : ToHeader
  callId : String
  cseq : CSeq
  maxForwards : UInt8
  extensionHeaders : List Header
  authorization : Option AuthChallenge
  proxyAuthorization : Option AuthChallenge
  content : Option (Bytes × Bytes)

/-- How messages are built: the templates and texts of the builders, the
serializer and the validator, and the hash functions. -/
structure MessageCodec where
  ackTemplate : ValidatedRequest → Except AckBuildError Non2xxAckTemplate
  trying : ValidatedRequest → Option Bytes
  request : OutboundRequest → Except SignalingError ValidatedRequest
  invite : AuthenticatedInvite → Except SignalingError ValidatedRequest
  hash : DigestAlgorithm → Bytes → Bytes
  credentials : DigestAuthorization → Option AuthChallenge

/-- What the start of one client transaction is granted. -/
structure StartGrant (δ : Type) where
  via : Except SignalingError (List ViaEntry)
  allocated : Bool
  grants : Nat → Grant δ

/-- What the handling of one datagram is granted. -/
structure Turn (δ : Type) where
  grants : Nat → Grant δ
  challengesReserved : Nat → Bool
  clientNonce : Except SignalingError String
  retry : StartGrant δ
  routesReserved : Nat → Bool
  dialogAllocated : Bool
  destination : Except SignalingError δ
  serverAllocated : Bool
  buildResponse : StatusCode → Except SignalingError Bytes
  responseGrants : Nat → Grant δ

/-- The signaling of a call with everything that the call lends it. -/
structure SignalingEngine (δ : Type) where
  call : CallSignaling δ
  dialog : DialogSignaling
  authentication : AuthContext
  credentials : Option DigestCredentials
  content : InviteContent
  serverAuthorization : Option AuthChallenge
  proxyAuthorization : Option AuthChallenge
  mediaAnswerPolicy : Option MediaAnswerPolicy
  observedReflexiveAddr : Option SocketAddress
  received : Nat
  rejected : Nat

namespace SignalingEngine

/-- A fallible computation of the engine. -/
abbrev Operation (δ α : Type) := Effect (SignalingEngine δ) SignalingError α

/-- A computation on the transactions and their timers. -/
def onCall (inner : CallSignaling δ → CallSignaling.Result δ α) : Operation δ α :=
  .zoom SignalingEngine.call (fun call engine => { engine with call := call }) inner

/-- A computation on the template and the dialogs. -/
def onDialog
    (inner : DialogSignaling → DialogSignaling × Except SignalingError α) :
    Operation δ α :=
  .zoom SignalingEngine.dialog (fun dialog engine => { engine with dialog := dialog }) inner

/-- Count a received message. -/
def countReceived : Operation δ Unit :=
  .modify fun engine => { engine with received := saturatingAdd engine.received 1 }

/-- Count a rejected message. -/
def countRejected : Operation δ Unit :=
  .modify fun engine => { engine with rejected := saturatingAdd engine.rejected 1 }

/-- The installed request template. -/
def installedTemplate : Operation δ RequestTemplate := do
  match ← read fun engine => engine.dialog.template with
  | none => .fail .initialInviteMissing
  | some template => pure template

/-- Status of a request outside every dialog. -/
def callTransactionDoesNotExist : StatusCode := ⟨481, by decide, by decide⟩

/-- Status of a request that is not supported. -/
def notImplemented : StatusCode := ⟨501, by decide, by decide⟩

/-- The method is answered inside a dialog only. -/
def needsDialog : Method → Bool
  | .bye | .invite | .update | .prack | .info | .refer | .notify => true
  | _ => false

/-- The status and the event of a new request. -/
def classifyInboundRequest
    (state : DialogSignaling) (request : InboundRequest) :
    DialogSignaling × StatusCode × Option CallEvent :=
  let (state, isBye) :=
    if request.method = .bye then state.inDialogRequestIsValid request.toInDialogRequest true
    else (state, false)
  if isBye then
    (state, .ok, some .remoteBye)
  else if needsDialog request.method ∧
      ¬(state.inDialogRequestIsValid request.toInDialogRequest false).2 then
    (state, callTransactionDoesNotExist, none)
  else
    match request.method with
    | .options => (state, .ok, none)
    | .cancel => (state, callTransactionDoesNotExist, none)
    | _ => (state, notImplemented, none)

/-- Carry out the actions of a server transaction. -/
def executeServer
    (token : Token) (destination : δ) (actions : List ServerAction)
    (grants : Nat → Grant δ) (now : Duration) : Operation δ Bool :=
  onCall fun call =>
    call.executeServerActions grants token destination actions now

/-- Route a request through the registry. -/
def routed
    (route : TransactionManager → TransactionManager × Except ManagerError α) :
    Operation δ α :=
  onCall fun call =>
    match route call.transactions with
    | (transactions, outcome) =>
      ({ call with transactions := transactions }, outcome.mapError .transactions)

/-- Handle a received ACK. -/
def handleAck
    (request : InboundRequest) (destination : δ) (turn : Turn δ)
    (now : Duration) : Operation δ Unit := do
  match ← routed fun manager => manager.routeAck request.toValidatedRequest with
  | .transaction found =>
    let _ ← executeServer found.token destination found.actions turn.grants now
  | .dialog =>
    let valid ← read fun engine =>
      (engine.dialog.inDialogRequestIsValid request.toInDialogRequest false).2
    if ¬valid then countRejected

/-- Register a new request; a token is returned where its transaction passes the
request up. -/
def openServer
    (codec : MessageCodec) (request : InboundRequest) (destination : δ)
    (turn : Turn δ) (now : Duration) : Operation δ (Option Token) := do
  let transaction ← ofExcept
    ((ServerTransaction.new codec.trying request.toValidatedRequest false
      .default).mapError .server)
  let started ← routed fun manager =>
    manager.startServer transaction turn.serverAllocated
  let deliver ← executeServer started.token destination started.actions turn.grants now
  pure (if deliver then some started.token else none)

/-- Register a new request and answer it. -/
def answerRequest
    (codec : MessageCodec) (request : InboundRequest) (destination : δ)
    (turn : Turn δ) (now : Duration) : Operation δ (Option CallEvent) := do
  match ← openServer codec request destination turn now with
  | none => pure none
  | some token => do
    let (status, event) ← onDialog fun state =>
      let (next, answer) := classifyInboundRequest state request
      (next, .ok answer)
    let response ← ofExcept (turn.buildResponse status)
    let responded ← routed fun manager =>
      manager.respondServer token status response
    let _ ← executeServer responded.token destination responded.actions turn.responseGrants now
    pure event

/-- Handle a received request. -/
def handleInboundRequest
    (codec : MessageCodec) (request : InboundRequest) (turn : Turn δ)
    (now : Duration) : Operation δ (Option CallEvent) := do
  let destination ← ofExcept turn.destination
  if request.method = .ack then
    handleAck request destination turn now
    pure none
  else
    match ← routed fun manager =>
        manager.routeRequest request.toValidatedRequest with
    | .existing found =>
      let _ ← executeServer found.token destination found.actions turn.grants now
      pure none
    | .new => answerRequest codec request destination turn now

/-- The scope that a challenge response belongs to. -/
def challengedScope (status : StatusCode) : Option AuthScope :=
  if status.asU16 = 401 then some .server
  else if status.asU16 = 407 then some .proxy
  else none

/-- The challenges of one scope. -/
def collectChallenges
    (reserved : Nat → Bool) (scope : AuthScope) (challenges : List AuthChallenge) :
    List (AuthScope × ChallengeField) → Except SignalingError (List AuthChallenge)
  | [] => .ok challenges
  | (kind, field) :: fields =>
    if kind ≠ scope then
      collectChallenges reserved scope challenges fields
    else
      match field with
      | .unreadable => .error .headerNormalization
      | .invalid => .error .challenge
      | .challenge challenge =>
        if reserved challenges.length then
          collectChallenges reserved scope (challenges ++ [challenge]) fields
        else
          .error .allocationFailed

/-- Install the challenges of a response. -/
def installChallenges
    (response : InboundResponse) (scope : AuthScope) (turn : Turn δ) : Operation δ Unit := do
  let challenges ← ofExcept
    (collectChallenges turn.challengesReserved scope [] response.challengeFields)
  let context ← read SignalingEngine.authentication
  let next ← ofExcept ((context.install scope challenges).mapError .authentication)
  .modify fun engine => { engine with authentication := next }

/-- Calculate the authorization of the INVITE and keep it for the scope. -/
def authorizeInvite
    (codec : MessageCodec) (scope : AuthScope) (credentials : DigestCredentials)
    (template : RequestTemplate) (turn : Turn δ) : Operation δ Unit := do
  let clientNonce ← ofExcept turn.clientNonce
  let context ← read SignalingEngine.authentication
  let body ← read fun engine => engine.content.body
  let (next, digest) ← ofExcept
    ((context.authorize codec.hash scope credentials .invite
      template.requestUri.render body clientNonce).mapError .authentication)
  Effect.modify fun engine => { engine with authentication := next }
  match scope, codec.credentials digest with
  | .server, none => .fail .authorization
  | .proxy, none => .fail .proxyAuthorization
  | .server, some value =>
    .modify fun engine => { engine with serverAuthorization := some value }
  | .proxy, some value =>
    .modify fun engine => { engine with proxyAuthorization := some value }

/-- What the builder is given for the INVITE with its authorizations. -/
def authenticatedInvite
    (engine : SignalingEngine δ) (template : RequestTemplate)
    (via : List ViaEntry) (cseq : CSeq) : AuthenticatedInvite where
  requestUri := template.requestUri
  via := via
  fromHeader := template.fromHeader
  toHeader := template.initialTo
  callId := template.callId
  cseq := cseq
  maxForwards := template.maxForwards
  extensionHeaders := template.extensionHeaders
  authorization := engine.serverAuthorization
  proxyAuthorization := engine.proxyAuthorization
  content := engine.content.contentType.map fun contentType =>
    (contentType, engine.content.body)

/-- Build the INVITE with its authorizations under a new number. -/
def buildAuthenticatedInvite
    (codec : MessageCodec) (sequence : UInt32) (generated : Except SignalingError (List ViaEntry)) :
    Operation δ (ValidatedRequest × List ViaEntry) := do
  let via ← ofExcept generated
  let template ← installedTemplate
  let cseq ← ofExcept (newCseq sequence .invite)
  let invite ← read fun engine =>
    engine.authenticatedInvite template via cseq
  let request ← ofExcept (codec.invite invite)
  pure (request, via)

/-- Note the number and the Via of the INVITE in the template. -/
def renumberInvite (sequence : UInt32) (via : List ViaEntry) : Operation δ Unit :=
  .modify fun engine =>
    { engine with
      dialog := { engine.dialog with
        template := engine.dialog.template.map fun template =>
          { template with inviteSequence := sequence, activeInviteVia := via } } }

/-- Register a request as a client transaction and send it. -/
def startRequest
    (codec : MessageCodec) (request : ValidatedRequest) (grant : StartGrant δ)
    (now : Duration) : Operation δ Unit :=
  onCall fun call =>
    call.startRequest codec.ackTemplate request grant.allocated grant.grants now

/-- Send the INVITE once more, with an authorization under the next number. -/
def resendInvite
    (codec : MessageCodec) (template : RequestTemplate) (turn : Turn δ)
    (now : Duration) : Operation δ Unit := do
  if template.inviteSequence.toNat + 1 < 2 ^ 32 then
    let sequence := template.inviteSequence + 1
    let (request, via) ← buildAuthenticatedInvite codec sequence turn.retry.via
    renumberInvite sequence via
    startRequest codec request turn.retry now
  else
    .fail .sequenceExhausted

/-- Answer a challenge of the INVITE. -/
def answerChallenge
    (codec : MessageCodec) (response : InboundResponse) (scope : AuthScope)
    (credentials : DigestCredentials) (template : RequestTemplate)
    (turn : Turn δ) (now : Duration) : Operation δ Unit := do
  installChallenges response scope turn
  authorizeInvite codec scope credentials template turn
  resendInvite codec template turn now

/-- Retry a challenged INVITE; the result tells whether the response was a
challenge of the current INVITE that credentials exist for. -/
def retryAuthenticatedInvite
    (codec : MessageCodec) (response : InboundResponse) (turn : Turn δ)
    (now : Duration) : Operation δ Bool :=
  match challengedScope response.status with
  | none => pure false
  | some scope =>
    if response.cseq.method ≠ .invite then pure false
    else do
      match ← read SignalingEngine.credentials with
      | none => pure false
      | some credentials =>
        let template ← installedTemplate
        if response.cseq.sequence ≠ template.inviteSequence then
          pure false
        else
          answerChallenge codec response scope credentials template turn now
          pure true

/-- Note the public endpoint that a response reports. -/
def observeReflexiveAddr
    (engine : SignalingEngine δ) (response : InboundResponse) : SignalingEngine δ :=
  match response.received, response.rport with
  | some address, some (.value port) =>
    if address.isUnspecified || address.isMulticast || port == 0 then engine
    else { engine with observedReflexiveAddr := some ⟨address, port, 0, 0⟩ }
  | _, _ => engine

/-- Note the endpoint of a response that the registry knows. -/
def observeKnown (response : InboundResponse) (now : Duration) : Operation δ Unit :=
  .modify fun engine =>
    match (engine.call.transactions.routeResponseAt response.toValidatedResponse
        now).2 with
    | .error _ | .ok .unknown => engine
    | .ok _ => engine.observeReflexiveAddr response

/-- The event and the media answer of a delivered response; a provisional
response has media only where its answer is active. -/
def classifyMediaAnswer
    (engine : SignalingEngine δ) (event : CallEvent)
    (response : InboundResponse) : SignalingOutcome :=
  let negotiated : Option MediaAnswerOutcome :=
    match engine.mediaAnswerPolicy with
    | none => none
    | some policy =>
      match policy.negotiateResponse response with
      | .ok none => none
      | .ok (some answer) => some (.negotiated answer)
      | .error error => some (.invalid error)
  match event with
  | .provisional branch _ =>
    let isActive :=
      match negotiated with
      | some (.negotiated answer) => decide (answer.disposition = .active)
      | _ => false
    ⟨.provisional branch isActive, negotiated⟩
  | .inviteAccepted branch => ⟨.inviteAccepted branch, negotiated⟩
  | event => ⟨event, none⟩

/-- Record the dialog of an accepted INVITE. -/
def rememberAccepted
    (event : CallEvent) (response : InboundResponse) (turn : Turn δ) : Operation δ Unit :=
  match event with
  | .inviteAccepted branch =>
    onDialog fun state =>
      state.rememberConfirmed branch response.toDialogResponse
        turn.routesReserved turn.dialogAllocated
  | _ => pure ()

/-- The outcome of a delivered response that was not retried. -/
def reportResponse (response : InboundResponse) (turn : Turn δ) :
    Operation δ (Option SignalingOutcome) := do
  match ← ofExcept
      ((responseEvent response.toValidatedResponse).mapError .branch) with
  | none => pure none
  | some event =>
    rememberAccepted event response turn
    let outcome ← read fun engine =>
      engine.classifyMediaAnswer event response
    pure (some outcome)

/-- Route a response, and answer or report what its transaction passes up. -/
def takeResponse
    (codec : MessageCodec) (response : InboundResponse) (turn : Turn δ)
    (now : Duration) : Operation δ (Option SignalingOutcome) := do
  if ← onCall fun call =>
      call.pollResponse response.toValidatedResponse turn.grants now then
    if ← retryAuthenticatedInvite codec response turn now then pure none
    else reportResponse response turn
  else
    pure none

/-- Handle a received response. -/
def handleInboundResponse
    (codec : MessageCodec) (response : InboundResponse) (turn : Turn δ)
    (now : Duration) : Operation δ (Option SignalingOutcome) := do
  observeKnown response now
  takeResponse codec response turn now

/-- Handle one receive of the driver. -/
def receive
    (codec : MessageCodec) (now : Duration) (datagram : Datagram)
    (turn : Turn δ) : Operation δ (Option SignalingOutcome) :=
  match datagram with
  | .broken => .fail .driver
  | .malformed => do
    countRejected
    pure none
  | .request request => do
    countReceived
    let event ← handleInboundRequest codec request turn now
    pure (event.map fun event => ⟨event, none⟩)
  | .response response => do
    countReceived
    handleInboundResponse codec response turn now

end SignalingEngine

/-- A poll under way: its engine, its outcomes so far, and its failure. -/
structure Poll (δ : Type) where
  engine : SignalingEngine δ
  outcomes : List SignalingOutcome
  failure : Option SignalingError

namespace Poll

/-- One turn of a poll; nothing is received after a failure. -/
def step
    (codec : MessageCodec) (now : Duration) (poll : Poll δ)
    (receipt : Datagram × Turn δ) : Poll δ × Option SignalingOutcome :=
  match poll.failure with
  | some _ => (poll, none)
  | none =>
    match poll.engine.receive codec now receipt.1 receipt.2 with
    | (engine, .error error) =>
      ({ poll with engine := engine, failure := some error }, none)
    | (engine, .ok none) => ({ poll with engine := engine }, none)
    | (engine, .ok (some outcome)) =>
      ({ poll with
          engine := engine
          outcomes := poll.outcomes ++ [outcome] }, some outcome)

/-- The poll after some receives. -/
def after
    (codec : MessageCodec) (now : Duration) (engine : SignalingEngine δ)
    (receipts : List (Datagram × Turn δ)) : Poll δ :=
  Run.after (step codec now) ⟨engine, [], none⟩ receipts

/-- A failed poll receives nothing more. -/
theorem after_of_failure
    {codec : MessageCodec} {now : Duration} {poll : Poll δ}
    {error : SignalingError} (failed : poll.failure = some error)
    (receipts : List (Datagram × Turn δ)) :
    Run.after (step codec now) poll receipts = poll := by
  induction receipts with
  | nil => rfl
  | cons receipt receipts ih =>
    have stays : (step codec now poll receipt).1 = poll := by
      simp only [step, failed]
    rw [Run.after_cons, stays, ih]

end Poll

namespace SignalingEngine

/-- Build a request of the call. -/
def buildRequest
    (codec : MessageCodec) (method : Method) (branch : Option DialogBranchId)
    (generated : Except SignalingError (List ViaEntry)) :
    Operation δ ValidatedRequest := do
  let outbound ← onDialog fun state =>
    state.buildRequest method branch generated fun request =>
      (codec.request request).map fun _ => ()
  .ofExcept (codec.request outbound)

/-- Carry out the wire effect of one call action. -/
def executeCallAction
    (codec : MessageCodec) (grant : StartGrant δ) (now : Duration) : CallAction → Operation δ Unit
  | .sendCancel => do
    let request ← buildRequest codec .cancel none grant.via
    startRequest codec request grant now
  | .sendAck branch => do
    let request ← buildRequest codec .ack (some branch) grant.via
    onCall fun call => call.send (grant.grants 0) request.bytes
  | .sendBye branch => do
    let request ← buildRequest codec .bye (some branch) grant.via
    startRequest codec request grant now
  | .sendInvite | .selectBranch _ | .applyEarlyMedia _ | .sendRefer _
  | .sendReferReplaces _ | .applySessionModification _ _ | .ended _ => pure ()

/-- Carry out the wire effects of call actions in order. -/
def executeCallActions
    (codec : MessageCodec) (actions : List CallAction)
    (grants : Nat → StartGrant δ) (now : Duration) : Operation δ Unit :=
  each (fun numbered =>
    executeCallAction codec (grants numbered.2) now numbered.1) actions.zipIdx

/-- Drain a bounded batch of datagrams. -/
def poll
    (codec : MessageCodec) (receipts : List (Datagram × Turn δ))
    (now : Duration) : Operation δ (List SignalingOutcome) := fun engine =>
  let polled := Poll.after codec now engine (receipts.take maxSignalingDatagramsPerPoll)
  (polled.engine,
    match polled.failure with
    | some error => .error error
    | none => .ok polled.outcomes)

/-- Start and send the installed initial INVITE. -/
def start (codec : MessageCodec) (grant : StartGrant δ) (now : Duration) : Operation δ Unit :=
  onCall fun call =>
    call.start codec.ackTemplate grant.allocated grant.grants now

/-- Apply one due transaction timer. -/
def onDeadline (id : DeadlineId) (grants : Nat → Grant δ) (now : Duration) :
    Operation δ (Option CallEvent) :=
  onCall fun call => call.onDeadline id grants now

end SignalingEngine

namespace Poll

variable {δ : Type} {codec : MessageCodec} {now : Duration} {engine final : SignalingEngine δ}
  {receipts earlier later : List (Datagram × Turn δ)} {datagram : Datagram} {turn : Turn δ}

/-- A poll that fails does so at one of its datagrams. -/
theorem failed_at {error : SignalingError}
    (failed : (after codec now engine receipts).failure = some error) :
    ∃ earlier datagram turn later, receipts = earlier ++ (datagram, turn) :: later ∧
      (after codec now engine earlier).failure = none ∧
      ((after codec now engine earlier).engine.receive codec now datagram turn).2 =
        .error error := by
  induction receipts using List.reverseRecOn with
  | nil => cases failed
  | append_singleton earlier last ih =>
    rw [after, Run.after_append, ← after, Run.after_cons, Run.after_nil] at failed
    cases before : (after codec now engine earlier).failure with
    | some first =>
      simp only [step, before, Option.some.injEq] at failed
      obtain ⟨prior, datagram, turn, later, rfl, intact, raised⟩ := ih (failed ▸ before)
      exact ⟨prior, datagram, turn, later ++ [last], by simp, intact, raised⟩
    | none =>
      refine ⟨earlier, last.1, last.2, [], rfl, before, ?_⟩
      simp only [step, before] at failed
      split at failed
      · simp_all
      · simp_all
      · simp_all

/-- A poll that returns received every datagram without a failure. -/
theorem receives
    {outcomes : List SignalingOutcome}
    (returned : engine.poll codec receipts now = (final, .ok outcomes))
    (split : receipts.take maxSignalingDatagramsPerPoll = earlier ++ (datagram, turn) :: later) :
    ∃ outcome, ((after codec now engine earlier).engine.receive codec now datagram
      turn).2 = .ok outcome := by
  have intact : (after codec now engine (earlier ++ (datagram, turn) :: later)).failure = none := by
    simp only [SignalingEngine.poll, split, Prod.mk.injEq] at returned
    cases failure : (after codec now engine
        (earlier ++ (datagram, turn) :: later)).failure with
    | none => rfl
    | some error =>
      rw [failure] at returned
      cases returned.2
  rw [after, Run.after_append, ← after, Run.after_cons] at intact
  generalize reached : after codec now engine earlier = poll at intact ⊢
  cases before : poll.failure with
  | some error =>
    have stays : (step codec now poll (datagram, turn)).1 = poll := by
      simp only [step, before]
    rw [stays, after_of_failure before later, before] at intact
    cases intact
  | none =>
    rcases receives : poll.engine.receive codec now datagram turn with
      ⟨next, error | outcome⟩
    · have fails : (step codec now poll (datagram, turn)).1.failure = some error := by
        simp only [step, before, receives]
      rw [after_of_failure fails later, fails] at intact
      cases intact
    · exact ⟨outcome, rfl⟩

end Poll

end Call
end LiveAISIP
