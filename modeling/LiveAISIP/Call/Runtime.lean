import LiveAISIP.Call.Engine

/-!
# The call runtime

The owner of one call of `call/execution/runtime.rs`: it drives the lifecycle of
`call/model/context.rs` from commands, signaling outcomes and deadlines, and
hands the returned actions to the signaling engine.  All methods are those of
the owner thread.  The media side of the call is a parameter with errors of its
own.  A journal notes the actions that the context returned and those that
reached the engine; nothing reads it.
-/

namespace LiveAISIP
namespace Call

open Sip Transaction
open Effect DialogSignaling CallSignaling

/-- Maximum due deadlines consumed in one cycle. -/
def maxDueDeadlinesPerCycle : Nat := 64

/-- Call context failure. -/
inductive CallContextError
  | lifecycle (error : LifecycleError)
  | clockMovedBackward

/-- The lifecycle of a call with the start of its timeline. -/
structure CallContext where
  lifecycle : CallLifecycle
  startedAt : Duration

namespace CallContext

/-- Apply one event; a time after the start of the call is also good for the
timeline entries of the event and its actions. -/
def handle
    (context : CallContext) (event : CallEvent) (now : Duration) :
    CallContext × Except CallContextError (List CallAction) :=
  if now.asNanos < context.startedAt.asNanos then
    (context, .error .clockMovedBackward)
  else
    match context.lifecycle.handle event with
    | (lifecycle, .error error) =>
      ({ context with lifecycle := lifecycle }, .error (.lifecycle error))
    | (lifecycle, .ok actions) =>
      ({ context with lifecycle := lifecycle }, .ok actions)

end CallContext

/-- Call-level timer class. -/
inductive CallTimer
  | noAnswer
  | sessionRefresh
  | mediaInactivity
  | transportLiveness
  | transfer

/-- The timer of a deadline kind. -/
def CallTimer.fromKind (kind : UInt16) : Option CallTimer :=
  if kind = 1 then some .noAnswer
  else if kind = 2 then some .sessionRefresh
  else if kind = 3 then some .mediaInactivity
  else if kind = 4 then some .transportLiveness
  else if kind = 5 then some .transfer
  else none

/-- What the session timer asks for. -/
inductive SessionTimerAction
  | none
  | refresh
  | expired

/-- What the deadlines of a call read of a negotiated session timer. -/
structure SessionTimer where
  refreshesLocally : Bool
  refreshAt : Duration
  expiresAt : Duration
  active : Bool
  refreshing : Bool

namespace SessionTimer

/-- Evaluate refresh and expiry. -/
def action (timer : SessionTimer) (now : Duration) : SessionTimerAction :=
  if ¬timer.active then .none
  else if timer.expiresAt.asNanos ≤ now.asNanos then .expired
  else if timer.refreshesLocally ∧ ¬timer.refreshing ∧
      timer.refreshAt.asNanos ≤ now.asNanos then .refresh
  else .none

/-- Mark a local refresh in flight exactly once. -/
def startRefresh (timer : SessionTimer) : SessionTimer × Bool :=
  if ¬timer.active ∨ ¬timer.refreshesLocally ∨ timer.refreshing then (timer, false)
  else ({ timer with refreshing := true }, true)

end SessionTimer

/-- Progress of a transfer. -/
inductive TransferState
  | referPending
  | notifyPending
  | succeeded
  | failed
  deriving DecidableEq

/-- A pending transfer fails when it expires. -/
def TransferState.expire : TransferState → TransferState
  | .succeeded => .succeeded
  | .failed | .referPending | .notifyPending => .failed

/-- Call runtime failure; `media` stands for all failures of the media side. -/
inductive CallRuntimeError
  | timeOverflow
  | context (error : CallContextError)
  | media
  | signalingUnavailable
  | signaling (error : SignalingError)
  | unsupportedDeadlineOwner (owner : DeadlineOwner)
  | unknownDeadlineKind (owner : DeadlineOwner) (kind : UInt16)
  | sessionTimerUnavailable
  | sessionRefreshExecutorUnavailable
  | prematureSessionDeadline
  | transferUnavailable

/-- What the runtime does with the media side of the call: it applies a selected
answer, advances the media clock, and drains it for a shutdown. -/
structure MediaPlane (μ : Type) where
  applyAnswer : RemoteMediaAnswer → Duration → μ → μ × Bool
  processClock : Duration → μ → μ × Bool
  beginDraining : μ → μ

/-- The actions that the context returned, and those among them that were handed
to the engine while transactions could be started. -/
structure Journal where
  handled : List CallAction
  executed : List CallAction

/-- The mutable state of one call. -/
structure CallRuntime (δ μ : Type) where
  context : CallContext
  engine : SignalingEngine δ
  signalingInstalled : Bool
  media : μ
  sessionTimer : Option SessionTimer
  transfer : Option TransferState
  shutdownGrace : Duration
  shutdownDeadline : Option Duration
  shuttingDown : Bool
  journal : Journal

/-- What the actions of one signaling outcome are granted. -/
structure OutcomeGrant (δ : Type) where
  produced : Nat → StartGrant δ
  followup : Nat → StartGrant δ

namespace CallRuntime

/-- A fallible computation of the runtime. -/
abbrev Operation (δ μ α : Type) := Effect (CallRuntime δ μ) CallRuntimeError α

/-- The call reached its end. -/
def isFinished (runtime : CallRuntime δ μ) : Bool := runtime.context.lifecycle.state.isTerminal

/-- No new transaction is admitted. -/
def isFenced (runtime : CallRuntime δ μ) : Bool := runtime.engine.call.transactions.shuttingDown

/-- A computation of the engine. -/
def onEngine (inner : SignalingEngine.Operation δ α) : Operation δ μ α :=
  .mapError .signaling (.zoom CallRuntime.engine
    (fun engine runtime => { runtime with engine := engine }) inner)

/-- A computation of the media side. -/
def onMedia (work : μ → μ × Bool) : Operation δ μ Unit := fun runtime =>
  let (media, done) := work runtime.media
  ({ runtime with media := media }, if done then .ok () else .error .media)

/-- Let the context handle an event. -/
def handleEvent (event : CallEvent) (now : Duration) :
    Operation δ μ (List CallAction) := fun runtime =>
  match runtime.context.handle event now with
  | (context, .error error) =>
    ({ runtime with context := context }, .error (.context error))
  | (context, .ok actions) =>
    ({ runtime with
        context := context
        journal := { runtime.journal with
          handled := runtime.journal.handled ++ actions } }, .ok actions)

/-- Note which actions reach an engine that may start transactions. -/
def noteExecuted (actions : List CallAction) : Operation δ μ Unit := .modify fun runtime =>
    { runtime with
      journal := { runtime.journal with
        executed := runtime.journal.executed ++
          if runtime.isFenced then [] else actions } }

/-- Hand actions to the engine. -/
def execute
    (codec : MessageCodec) (actions : List CallAction)
    (grants : Nat → StartGrant δ) (now : Duration) : Operation δ μ Unit := do
  noteExecuted actions
  onEngine (SignalingEngine.executeCallActions codec actions grants now)

/-- Apply one event of the mailbox. -/
def handleMessageEvent
    (codec : MessageCodec) (event : CallEvent) (start : StartGrant δ) (grants : Nat → StartGrant δ)
    (now : Duration) : Operation δ μ (List CallAction) := do
  let actions ← handleEvent event now
  if ← read CallRuntime.signalingInstalled then
    if CallAction.sendInvite ∈ actions then
      onEngine (SignalingEngine.start codec start now)
    execute codec actions grants now
  pure actions

/-- The actions apply the media of this branch. -/
def selectsMedia (actions : List CallAction) (branch : DialogBranchId) : Bool :=
  actions.any fun action =>
    match action with
    | .applyEarlyMedia other | .selectBranch other => other = branch
    | _ => false

/-- The actions select a branch. -/
def selectsBranch (actions : List CallAction) : Bool := actions.any fun action =>
    match action with
    | .selectBranch _ => true
    | _ => false

/-- Apply the media answer of an outcome; an invalid answer of the selected
branch hangs up, with these further actions. -/
def applyMedia
    (plane : MediaPlane μ) (codec : MessageCodec)
    (media : Option MediaAnswerOutcome) (produced : List CallAction) (grants : Nat → StartGrant δ)
    (now : Duration) : Operation δ μ (List CallAction) :=
  match media with
  | none => pure []
  | some (.negotiated answer) => do
    if selectsMedia produced answer.branch then
      onMedia (plane.applyAnswer answer now)
    pure []
  | some (.invalid _) =>
    if selectsBranch produced then do
      let followup ← handleEvent (.command .hangup) now
      execute codec followup grants now
      pure followup
    else
      pure []

/-- Apply one signaling outcome. -/
def processOutcome
    (plane : MediaPlane μ) (codec : MessageCodec) (outcome : SignalingOutcome)
    (grant : OutcomeGrant δ) (now : Duration) : Operation δ μ (List CallAction) := do
  let produced ← handleEvent outcome.event now
  execute codec produced grant.produced now
  let followup ← applyMedia plane codec outcome.media produced grant.followup now
  pure (produced ++ followup)

/-- Apply the outcomes of a poll in order. -/
def processOutcomes
    (plane : MediaPlane μ) (codec : MessageCodec) (now : Duration) :
    List (SignalingOutcome × OutcomeGrant δ) → Operation δ μ (List CallAction)
  | [] => pure []
  | (outcome, grant) :: outcomes => do
    let actions ← processOutcome plane codec outcome grant now
    let rest ← processOutcomes plane codec now outcomes
    pure (actions ++ rest)

/-- Drain the signaling socket and apply what it yields. -/
def pollSignaling
    (plane : MediaPlane μ) (codec : MessageCodec)
    (receipts : List (Datagram × Turn δ)) (grants : Nat → OutcomeGrant δ)
    (now : Duration) : Operation δ μ (List CallAction) := do
  if ← read CallRuntime.signalingInstalled then
    let outcomes ← onEngine (SignalingEngine.poll codec receipts now)
    processOutcomes plane codec now
      (outcomes.zipIdx.map fun numbered => (numbered.1, grants numbered.2))
  else
    .fail .signalingUnavailable

/-- The next deadline that is due. -/
def nextDue (now : Duration) : Operation δ μ (Option DueDeadline) := fun runtime =>
  let (deadlines, due) := runtime.engine.call.deadlines.poll now.asNanos
  ({ runtime with
      engine := { runtime.engine with
        call := { runtime.engine.call with deadlines := deadlines } } }, .ok due)

/-- The event of a due session timer. -/
def sessionDeadline (now : Duration) : Operation δ μ (Option CallEvent) := do
  match ← read CallRuntime.sessionTimer with
  | none => .fail .sessionTimerUnavailable
  | some timer =>
    match timer.action now with
    | .expired => pure (some .signalingTimedOut)
    | .none => .fail .prematureSessionDeadline
    | .refresh => do
      let (next, started) := timer.startRefresh
      Effect.modify fun runtime => { runtime with sessionTimer := some next }
      .fail (if started then .sessionRefreshExecutorUnavailable
        else .prematureSessionDeadline)

/-- The event of a due call deadline. -/
def callDeadline (timer : CallTimer) (now : Duration) : Operation δ μ (Option CallEvent) :=
  match timer with
  | .noAnswer => pure (some .signalingTimedOut)
  | .mediaInactivity => pure (some .mediaTimedOut)
  | .transportLiveness => pure (some .transportFailed)
  | .transfer => do
    match ← read CallRuntime.transfer with
    | none => .fail .transferUnavailable
    | some state => do
      Effect.modify fun runtime =>
        { runtime with transfer := some state.expire }
      pure none
  | .sessionRefresh => sessionDeadline now

/-- The event of a due deadline, by its owner. -/
def deadlineEvent
    (due : DueDeadline) (grants : Nat → Grant δ)
    (now : Duration) : Operation δ μ (Option CallEvent) :=
  match due.owner with
  | .transaction => do
    if ← read CallRuntime.signalingInstalled then
      onEngine (SignalingEngine.onDeadline due.id grants now)
    else
      .fail .signalingUnavailable
  | .call =>
    match CallTimer.fromKind due.kind with
    | none => .fail (.unknownDeadlineKind .call due.kind)
    | some timer => callDeadline timer now
  | owner => .fail (.unsupportedDeadlineOwner owner)

/-- One turn of the deadline loop: its actions, and whether the loop goes on.
Only a deadline of the call ends the loop of a finished call. -/
def dueTurn (grants : Nat → Grant δ) (now : Duration) :
    Operation δ μ (List CallAction × Bool) := do
  match ← nextDue now with
  | none => pure ([], false)
  | some due => do
    let actions ←
      match ← deadlineEvent due grants now with
      | none => pure []
      | some event => handleEvent event now
    let finished ← read CallRuntime.isFinished
    pure (actions, due.owner = .transaction || !finished)

/-- The first turns of the deadline loop. -/
def dueTurns (grants : Nat → Nat → Grant δ) (now : Duration) :
    Nat → Operation δ μ (List CallAction × Bool)
  | 0 => pure ([], true)
  | turns + 1 => do
    let (earlier, goesOn) ← dueTurns grants now turns
    if goesOn then
      let (actions, goesOn) ← dueTurn (grants turns) now
      pure (earlier ++ actions, goesOn)
    else
      pure (earlier, false)

/-- Force the end of the call. -/
def forceEnd (reason : CallEndReason) : Operation δ μ (List CallAction) := fun runtime =>
    let (lifecycle, outcome) := runtime.context.lifecycle.forceEnd reason
    ({ runtime with context := { runtime.context with lifecycle := lifecycle } },
      .ok (actionsOf outcome))

/-- The end of a cycle: the media clock and the deadline of a shutdown. -/
def finishCycle
    (plane : MediaPlane μ) (actions : List CallAction)
    (now : Duration) : Operation δ μ (List CallAction) := do
  onMedia (plane.processClock now)
  let deadline ← read CallRuntime.shutdownDeadline
  let finished ← read CallRuntime.isFinished
  if deadline.any (fun deadline => deadline.asNanos ≤ now.asNanos) ∧ ¬finished then
    let forced ← forceEnd .localHangup
    pure (actions ++ forced)
  else
    pure actions

/-- Process bounded due work. -/
def processDueDeadlines
    (plane : MediaPlane μ) (grants : Nat → Nat → Grant δ)
    (now : Duration) : Operation δ μ (List CallAction) := do
  let (actions, _) ← dueTurns grants now maxDueDeadlinesPerCycle
  finishCycle plane actions now

/-- Fence the registries and drain the media. -/
def fence (plane : MediaPlane μ) : Operation δ μ Unit := .modify fun runtime =>
    { runtime with
      shuttingDown := true
      engine := { runtime.engine with
        call := { runtime.engine.call with
          transactions := runtime.engine.call.transactions.beginShutdown }
        dialog := { runtime.engine.dialog with
          dialogs := runtime.engine.dialog.dialogs.beginShutdown } }
      media := plane.beginDraining runtime.media }

/-- Set the deadline of a graceful shutdown. -/
def setShutdownDeadline (now : Duration) : Operation δ μ Unit := do
  let grace ← read CallRuntime.shutdownGrace
  match now.checkedAdd grace with
  | none => .fail .timeOverflow
  | some deadline =>
    .modify fun runtime => { runtime with shutdownDeadline := some deadline }

/-- Begin the teardown of the call. -/
def beginShutdown (plane : MediaPlane μ) (now : Duration) :
    Operation δ μ (List CallAction) := do
  if ← read CallRuntime.shuttingDown then
    pure []
  else
    fence plane
    setShutdownDeadline now
    match ← read fun runtime => runtime.context.lifecycle.state with
    | .idle => forceEnd .localHangup
    | .inviting | .established => handleEvent (.command .hangup) now
    | .cancelling | .terminating | .ended _ => pure []

end CallRuntime

/-- One use of a runtime by the thread of its call. -/
inductive RuntimeOperation (δ μ : Type)
  | event
      (event : CallEvent)
      (start : StartGrant δ)
      (grants : Nat → StartGrant δ)
  | media (work : μ → μ × Bool)
  | pollSignaling
      (receipts : List (Datagram × Turn δ))
      (grants : Nat → OutcomeGrant δ)
  | processDueDeadlines (grants : Nat → Nat → Grant δ)
  | shutdown

namespace CallRuntime

/-- Carry out one operation. -/
def perform
    (plane : MediaPlane μ) (codec : MessageCodec) (now : Duration) :
    RuntimeOperation δ μ → Operation δ μ (List CallAction)
  | .event event start grants => handleMessageEvent codec event start grants now
  | .media work => do
    onMedia work
    pure []
  | .pollSignaling receipts grants => pollSignaling plane codec receipts grants now
  | .processDueDeadlines grants => processDueDeadlines plane grants now
  | .shutdown => beginShutdown plane now

/-- The runtime after a run of timed operations. -/
def after
    (plane : MediaPlane μ) (codec : MessageCodec) (runtime : CallRuntime δ μ)
    (operations : List (Duration × RuntimeOperation δ μ)) : CallRuntime δ μ :=
  Run.after
    (fun runtime operation => perform plane codec operation.1 operation.2 runtime)
    runtime operations

/-- The property holds at every datagram that the poll of an operation comes to,
with the engine that receives it. -/
def AtEveryDatagram
    (property : SignalingEngine δ → Datagram → Turn δ → Prop)
    (codec : MessageCodec) (now : Duration)
    (runtime : CallRuntime δ μ) : RuntimeOperation δ μ → Prop
  | .pollSignaling receipts _ =>
    runtime.signalingInstalled = true → ∀ earlier datagram turn later,
        receipts.take maxSignalingDatagramsPerPoll = earlier ++ (datagram, turn) :: later →
        (Poll.after codec now runtime.engine earlier).failure = none →
        property (Poll.after codec now runtime.engine earlier).engine datagram turn
  | _ => True

end CallRuntime

/-- A request with the parts that transactions read; its text is left out. -/
def sampleRequest (via : List ViaEntry) (cseq : CSeq) : Except SignalingError ValidatedRequest :=
  match via with
  | [] => .error .build
  | topmostVia :: _ => .ok ⟨cseq.method, topmostVia, cseq, [], rfl⟩

/-- Builders of such requests. -/
def sampleCodec : MessageCodec where
  ackTemplate _ := .ok inviteAckTemplate
  trying _ := none
  request outbound := sampleRequest outbound.via outbound.cseq
  invite invite := sampleRequest invite.via invite.cseq
  hash _ _ := []
  credentials _ := some ⟨"Digest", []⟩

/-- A topmost Via with the given branch. -/
def sampleVia (branch : String) : ViaEntry := ⟨.domain "host", none, some branch⟩

/-- The start of a transaction under this branch, with everything granted. -/
def sampleStart (branch : String) : StartGrant Unit where
  via := .ok [sampleVia branch]
  allocated := true
  grants := granted

/-- A datagram with everything granted. -/
def sampleTurn : Turn Unit where
  grants := granted
  challengesReserved _ := true
  clientNonce := .ok "nonce"
  retry := sampleStart "z9hG4bK-retry"
  routesReserved _ := true
  dialogAllocated := true
  destination := .ok ()
  serverAllocated := true
  buildResponse _ := .ok [83, 73, 80]
  responseGrants := granted

/-- A media side without media. -/
def sampleMedia : MediaPlane Unit where
  applyAnswer _ _ media := (media, true)
  processClock _ media := (media, true)
  beginDraining media := media

/-- A received response to a request of the sample call. -/
def sampleInbound
    (via : ViaEntry) (cseq : CSeq) (status : StatusCode) (tag : Tag) : InboundResponse where
  status := status
  topmostVia := via
  toHeader := { sampleTemplate.initialTo with tag := some tag }
  cseq := cseq
  body := []
  callId := sampleTemplate.callId
  fromHeader := sampleTemplate.fromHeader
  received := none
  rport := none
  routingFields := [.contact (some [.absolute ⟨"tel", "3"⟩])]
  challengeFields := []

/-- An idle call with an installed INVITE. -/
def idleRuntime
    (credentials : Option DigestCredentials) : Option (CallRuntime Unit Unit) :=
  installed.map fun call =>
    { context := ⟨.idle, .fromSecs 0⟩
      engine :=
        { call := call
          dialog := sampleCall
          authentication := .new
          credentials := credentials
          content := ⟨none, []⟩
          serverAuthorization := none
          proxyAuthorization := none
          mediaAnswerPolicy := none
          observedReflexiveAddr := none
          received := 0
          rejected := 0 }
      signalingInstalled := true
      media := ()
      sessionTimer := none
      transfer := none
      shutdownGrace := .fromSecs 5
      shutdownDeadline := none
      shuttingDown := false
      journal := ⟨[], []⟩ }

/-- An event of the mailbox with everything granted. -/
def sampleEvent (event : CallEvent) : RuntimeOperation Unit Unit :=
  .event event (sampleStart "z9hG4bK-one") fun index =>
    sampleStart ("z9hG4bK-" ++ toString index)

/-- A poll of these datagrams with everything granted. -/
def samplePoll (datagrams : List Datagram) : RuntimeOperation Unit Unit :=
  .pollSignaling (datagrams.map fun datagram => (datagram, sampleTurn)) fun outcome =>
    ⟨fun index => sampleStart ("z9hG4bK-" ++ toString outcome ++ toString index),
      fun index => sampleStart ("z9hG4bK-f" ++ toString outcome ++ toString index)⟩

end Call
end LiveAISIP
