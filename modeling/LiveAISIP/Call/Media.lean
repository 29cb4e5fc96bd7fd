import LiveAISIP.Call.MediaSession
import LiveAISIP.Call.Runtime
import LiveAISIP.Rtp.PlayoutIntegrity
import LiveAISIP.Runtime.PeriodicClock

/-!
# The media side of a call

The media resources that `call/execution/runtime.rs` owns: the controller of
negotiated media, the sockets and the scratch storage, the pending local offer and
the RTP session of the media in force.  Answers of the remote party replace the
session; datagrams are read from the sockets into it.
-/

namespace LiveAISIP
namespace Call

open Sip Sip.Sdp Rtp Transaction

/-- Cadence of the media clock. -/
def mediaTickInterval : Duration := .fromMillis 10

/-- Maximum media ticks of one cycle. -/
def maxMediaTicksPerCycle : UInt64 := 8

/-- Maximum media datagrams of one readiness notification. -/
def maxMediaDatagramsPerPoll : Nat := 64

/-- Failure of the media side. -/
inductive CallMediaError
  | resourcesAlreadyInstalled
  | mediaResourcesUnavailable
  | mediaOfferUnavailable
  | mediaAnswerInvariant
  | mediaControl (error : MediaControlError)
  | mediaSessionBuild (error : MediaSessionBuildError)
  | mediaSocket
  | timeOverflow

/-- Counters of the media side. -/
structure MediaDiagnostics where
  mediaDatagramsReceived : Nat
  mediaDatagramsRejected : Nat
  rtpAudioPacketsQueued : Nat
  dtmfPacketsReceived : Nat
  rtcpPacketsAccepted : Nat
  staleMediaWork : Nat
  mediaTicks : Nat
  skippedMediaTicks : Nat

/-- One more datagram. -/
def MediaDiagnostics.received (diagnostics : MediaDiagnostics) : MediaDiagnostics :=
  { diagnostics with
    mediaDatagramsReceived := saturatingAdd diagnostics.mediaDatagramsReceived 1 }

/-- One more refused datagram. -/
def MediaDiagnostics.rejected (diagnostics : MediaDiagnostics) : MediaDiagnostics :=
  { diagnostics with
    mediaDatagramsRejected := saturatingAdd diagnostics.mediaDatagramsRejected 1 }

/-- The media resources of a call. -/
structure CallMedia where
  controller : MediaController
  sessionPolicy : Option MediaSessionPolicy
  pendingOffer : Option OfferToken
  hasSockets : Bool
  hasScratch : Bool
  activeRtp : Option ActiveRtpSession
  senderSsrc : Option UInt32
  nextMediaDeadline : Option Duration
  diagnostics : MediaDiagnostics

namespace CallMedia

/-- A computation on the media side. -/
abbrev Operation (α : Type) := Effect CallMedia (Fault CallMediaError) α

/-- Return an error. -/
def refuse (error : CallMediaError) : Operation α := .fail (.refused error)

/-- A resource that must be there. -/
def require (resource : Option α) (error : CallMediaError) : Operation α :=
  match resource with
  | some value => pure value
  | none => refuse error

/-- The media side of a new runtime. -/
def new (requireSecure : Bool) : CallMedia where
  controller := .new requireSecure
  sessionPolicy := none
  pendingOffer := none
  hasSockets := false
  hasScratch := false
  activeRtp := none
  senderSsrc := none
  nextMediaDeadline := none
  diagnostics := ⟨0, 0, 0, 0, 0, 0, 0, 0⟩

/-- Install the sockets. -/
def withMediaSockets : Operation Unit := do
  if ← Effect.read CallMedia.hasSockets then refuse .resourcesAlreadyInstalled
  else .modify fun media => { media with hasSockets := true }

/-- Install the scratch storage. -/
def withPacketScratch : Operation Unit := do
  if ← Effect.read CallMedia.hasScratch then refuse .resourcesAlreadyInstalled
  else .modify fun media => { media with hasScratch := true }

/-- Install the sender. -/
def withRtpSender (ssrc : UInt32) : Operation Unit := do
  if (← Effect.read CallMedia.senderSsrc).isSome then refuse .resourcesAlreadyInstalled
  else .modify fun media => { media with senderSsrc := some ssrc }

/-- Install a session that was prepared before the call. -/
def withRtpSession (session : RtpSession) : Operation Unit := do
  if (← Effect.read CallMedia.activeRtp).isSome then refuse .resourcesAlreadyInstalled
  else
    let active ← .ofExcept ((ActiveRtpSession.fromPrebuilt session).mapError fun error =>
      .refused (.mediaSessionBuild error))
    .modify fun media => { media with activeRtp := some active }

/-- A computation of the controller. -/
def onController (inner : Effect MediaController MediaControlError α) : Operation α :=
  .mapError (fun error => .refused (.mediaControl error)) <| .zoom CallMedia.controller
      (fun controller media => { media with controller := controller }) inner

/-- Enable negotiated sessions, and begin the local offer. -/
def withMediaSessionPolicy (policy : MediaSessionPolicy) : Operation Unit := do
  let media ← .read id
  if media.sessionPolicy.isSome ∨ media.pendingOffer.isSome then
    refuse .resourcesAlreadyInstalled
  else if ¬media.hasSockets ∨ ¬media.hasScratch ∨ media.senderSsrc.isNone then
    refuse .mediaResourcesUnavailable
  else
    let token ← onController MediaController.beginLocalOffer
    .modify fun media =>
      { media with sessionPolicy := some policy, pendingOffer := some token }

/-- Put an activated session in force. -/
def commitActive
    (controller : MediaController) (activeRtp : Option ActiveRtpSession)
    (now : Duration) : Operation Unit := do
  .modify fun media =>
    { media with controller := controller, pendingOffer := none, activeRtp := activeRtp }
  match activeRtp with
  | none => .modify fun media => { media with nextMediaDeadline := none }
  | some _ => do
    let deadline ← require (mediaTickInterval.checkedAdd now) .timeOverflow
    .modify fun media => { media with nextMediaDeadline := some deadline }

/-- Apply an answer with active media. -/
def applyActiveAnswer
    (negotiated : NegotiatedMedia) (remoteRtp : SocketAddress)
    (grant : ActivationGrant) (now : Duration) : Operation Unit := do
  let media ← .read id
  if media.controller.isActiveMedia negotiated remoteRtp && media.activeRtp.isSome then
    pure ()
  else
    let token ← require media.pendingOffer .mediaOfferUnavailable
    let policy ← require media.sessionPolicy .mediaResourcesUnavailable
    let localSsrc ← require media.senderSsrc .mediaResourcesUnavailable
    match media.controller.applyRemoteAnswer token negotiated remoteRtp with
    | (_, .error error) => refuse (.mediaControl error)
    | (controller, .ok active) =>
      let activeRtp ← .ofExcept
        ((policy.activate active localSsrc grant now).mapError (Fault.map .mediaSessionBuild))
      commitActive controller activeRtp now

/-- Apply an answer without media. -/
def applyDisabledAnswer : Operation Unit := do
  let media ← .read id
  let token ← require media.pendingOffer .mediaOfferUnavailable
  match media.controller.applyRemoteDisabledAnswer token with
  | (_, .error error) => refuse (.mediaControl error)
  | (controller, .ok _) =>
    .modify fun media =>
      { media with
        controller := controller
        pendingOffer := none
        activeRtp := none
        nextMediaDeadline := none }

/-- Apply the answer of a branch whose media is taken. -/
def applyAnswer
    (answer : RemoteMediaAnswer) (grant : ActivationGrant) (now : Duration) : Operation Unit :=
  match answer.disposition with
  | .active => do
    let negotiated ← require answer.negotiated .mediaAnswerInvariant
    let remoteRtp ← require answer.remoteRtp .mediaAnswerInvariant
    applyActiveAnswer negotiated remoteRtp grant now
  | .held | .rejected => applyDisabledAnswer

/-- Apply an answer whose branch the actions take media from. -/
def applyRemoteMediaAnswer
    (actions : List CallAction) (answer : RemoteMediaAnswer)
    (grant : ActivationGrant) (now : Duration) : Operation Unit :=
  if CallRuntime.selectsMedia actions answer.branch then applyAnswer answer grant now
  else pure ()

/-- What reading a media socket once gives; at the end of the reads it would block. -/
inductive MediaRead
  | datagram (source : SocketAddress) (payload : List UInt8) (allocates : Nat → Bool)
  | tooLarge
  | failed

/-- Change the counters. -/
def count (change : MediaDiagnostics → MediaDiagnostics) : Operation Unit :=
  .modify fun media => { media with diagnostics := change media.diagnostics }

/-- What an outcome on the RTP socket counts as, and whether it is accepted. -/
def noteRtp (outcome : RtpIngressOutcome) (diagnostics : MediaDiagnostics) :
    MediaDiagnostics × Bool :=
  match outcome with
  | .queued _ =>
    ({ diagnostics with
        rtpAudioPacketsQueued := saturatingAdd diagnostics.rtpAudioPacketsQueued 1 }, true)
  | .telephoneEvent _ _ =>
    ({ diagnostics with
        dtmfPacketsReceived := saturatingAdd diagnostics.dtmfPacketsReceived 1 }, true)
  | .sourceProbation | .sourceSwitched => (diagnostics, true)
  | .classifiedOut _ | .sourceRejected | .streamRejected _ | .auxiliaryRejected _
  | .queueDropped => (diagnostics, false)

/-- What an outcome on the RTCP socket counts as, and whether it is accepted. -/
def noteRtcp (outcome : RtcpIngressOutcome) (diagnostics : MediaDiagnostics) :
    MediaDiagnostics × Bool :=
  match outcome with
  | .accepted _ _ _ =>
    ({ diagnostics with
        rtcpPacketsAccepted := saturatingAdd diagnostics.rtcpPacketsAccepted 1 }, true)
  | .classifiedOut _ | .sourceRejected => (diagnostics, false)

/-- Let the session take a datagram.  An error that the session returns refuses the
datagram only; a fault ends the poll. -/
def ingest
    (run : RtpSession.Operation α)
    (note : α → MediaDiagnostics → MediaDiagnostics × Bool) : Operation Bool := fun media =>
  match media.activeRtp with
  | none => (media, .ok false)
  | some active =>
    let taken := { media with
      activeRtp := some { active with session := (run active.session).1 } }
    match (run active.session).2 with
    | .error .outOfBounds => (taken, .error .outOfBounds)
    | .error (.refused _) => (taken, .ok false)
    | .ok outcome =>
      ({ taken with diagnostics := (note outcome media.diagnostics).1 },
        .ok (note outcome media.diagnostics).2)

/-- Submit a datagram to the session. -/
def submit
    (component : Component) (receiveAllowed : Bool) (source : SocketAddress)
    (payload : List UInt8) (allocates : Nat → Bool) (now : Duration) : Operation Bool :=
  match component with
  | .rtp =>
    if receiveAllowed then ingest (RtpSession.ingestRtp allocates source payload now .plain) noteRtp
    else pure false
  | .rtcp => ingest (RtpSession.ingestRtcp allocates source payload now .plain) noteRtcp

/-- Handle one read of a socket. -/
def handleRead (component : Component) (receiveAllowed : Bool) (now : Duration) :
    MediaRead → Operation Unit
  | .tooLarge => count fun diagnostics => diagnostics.received.rejected
  | .failed => refuse .mediaSocket
  | .datagram source payload allocates => do
    count MediaDiagnostics.received
    if ← submit component receiveAllowed source payload allocates now then pure ()
    else count MediaDiagnostics.rejected

/-- Drain bounded datagrams from a socket. -/
def pollNetwork (component : Component) (reads : List MediaRead) (now : Duration) :
    Operation Unit := do
  let media ← .read id
  if ¬media.hasSockets ∨ ¬media.hasScratch then refuse .mediaResourcesUnavailable
  else
    let active ← require media.activeRtp .mediaResourcesUnavailable
    .each (handleRead component active.canReceive now) (reads.take maxMediaDatagramsPerPoll)

/-- Start the media clock. -/
def startMediaClock (now : Duration) : Operation Unit := do
  let deadline ← require (mediaTickInterval.checkedAdd now) .timeOverflow
  .modify fun media => { media with nextMediaDeadline := some deadline }

/-- Advance the media clock on its own grid. -/
def processMediaClock (now : Duration) : Operation Unit := do
  match ← Effect.read CallMedia.nextMediaDeadline with
  | none => pure ()
  | some next =>
    match Runtime.advancePeriodic next now mediaTickInterval maxMediaTicksPerCycle with
    | .error _ => refuse .timeOverflow
    | .ok none => pure ()
    | .ok (some advance) => do
      count fun diagnostics =>
        { diagnostics with
          mediaTicks := saturatingAdd diagnostics.mediaTicks advance.executed
          skippedMediaTicks := saturatingAdd diagnostics.skippedMediaTicks advance.skipped }
      .modify fun media => { media with nextMediaDeadline := some advance.nextDeadline }

/-- Queued audio work of a generation became ready. -/
def audioReady (generation : Nat) : Operation Unit := do
  let media ← .read id
  if media.controller.workToken.map MediaWorkToken.generation = some generation then pure ()
  else count fun diagnostics =>
    { diagnostics with staleMediaWork := saturatingAdd diagnostics.staleMediaWork 1 }

/-- Refuse new media work and stop the clock. -/
def beginDraining (media : CallMedia) : CallMedia :=
  { media with controller := media.controller.beginDraining.1, nextMediaDeadline := none }

/-- Release the media resources. -/
def finishCleanup : Operation Unit := .modify fun media =>
    { media with
      controller := media.controller.beginDraining.1.close.1
      sessionPolicy := none
      pendingOffer := none
      hasSockets := false
      hasScratch := false
      activeRtp := none
      senderSsrc := none
      nextMediaDeadline := none }

/-- The media side after a computation, and whether it returned. -/
def completed (result : CallMedia × Except (Fault CallMediaError) α) : CallMedia × Bool :=
  (result.1, result.2.isOk)

/-- What the runtime does with its media. -/
def plane (grant : ActivationGrant) : MediaPlane CallMedia where
  applyAnswer answer now media := completed (applyAnswer answer grant now media)
  processClock now media := completed (processMediaClock now media)
  beginDraining := beginDraining

end CallMedia
end Call
end LiveAISIP
