import LiveAISIP.Call.MediaController
import LiveAISIP.Rtp.Session

/-!
# Activation of negotiated media

One generation of negotiated media becomes an RTP session, as in
`call/media/session.rs`.  A session is published only after every check and every
allocation succeeded.
-/

namespace LiveAISIP
namespace Call

open Sip Sip.Sdp Rtp Transaction

/-- Maximum packet time of live PCMU audio, in milliseconds. -/
def maxPcmuPacketTimeMs : UInt16 := 200

/-- Failure to build a media session. -/
inductive MediaSessionBuildError
  | remotePortMismatch
  | controlPortOverflow
  | unsupportedCodec
  | packetizationTooLarge (milliseconds maximum : UInt16)
  | payloadLimitOverflow
  | clock (error : RtpClockError)
  | receive (error : RtpStateError)
  | liveness (error : MediaLivenessError)
  | endpoint (error : SymmetricError)
  | session (error : RtpSessionError)
  | wireToken

/-- The policy for new media sessions. -/
structure MediaSessionPolicy where
  source : SourcePolicy
  symmetric : SymmetricConfig
  ingressCapacity : Nat
  receiveTimeout : Duration
  inactivityTimeout : Duration
  rtcpInterval : Duration
  rtcpInterval_pos : 0 < rtcpInterval.asNanos

/-- An RTP session with the direction and the generation of its media. -/
structure ActiveRtpSession where
  generation : Nat
  direction : Direction
  remoteRtp : SocketAddress
  remoteRtcp : SocketAddress
  session : RtpSession

namespace ActiveRtpSession

/-- The RTCP endpoint beside an RTP endpoint. -/
def controlEndpoint (endpoint : SocketAddress) : Option SocketAddress :=
  if endpoint.port.toNat + 1 < 2 ^ 16 then some ⟨endpoint.address, endpoint.port + 1, 0, 0⟩
  else none

/-- Wrap a session that was prepared elsewhere. -/
def fromPrebuilt (session : RtpSession) : Except MediaSessionBuildError ActiveRtpSession :=
  match controlEndpoint session.endpoints.rtp.destination with
  | none => .error .controlPortOverflow
  | some control =>
    .ok ⟨0, .sendRecv, session.endpoints.rtp.destination, control, session⟩

/-- Inbound media may enter playout. -/
def canReceive (active : ActiveRtpSession) : Bool := active.direction.receives

end ActiveRtpSession

/-- What the surroundings grant to an activation: memory, and a random name. -/
structure ActivationGrant where
  allocates : Nat → Bool
  cname : Option (List UInt8)

namespace MediaSessionPolicy

/-- The authorized endpoint has the negotiated port. -/
def validateRemoteEndpoint (media : ActiveMedia) : Except MediaSessionBuildError Unit :=
  if media.remoteRtp.port ≠ media.negotiated.remotePort then .error .remotePortMismatch
  else .ok ()

/-- The codec is PCMU. -/
def validatePcmu (media : ActiveMedia) : Except MediaSessionBuildError Unit :=
  if Ascii.eqIgnoreCase (wireBytes media.negotiated.codec.name) (wireBytes "PCMU") = false ∨
      media.negotiated.codec.clockRate ≠ 8000 ∨ media.negotiated.codec.channels ≠ 1 then
    .error .unsupportedCodec
  else .ok ()

/-- The largest payload of the negotiated packetization. -/
def pcmuPayloadLimit (media : ActiveMedia) : Except MediaSessionBuildError Nat :=
  let maximum := media.negotiated.packetization.maximumPacketTimeMs.getD
    media.negotiated.packetization.packetTimeMs
  if maxPcmuPacketTimeMs < maximum then .error (.packetizationTooLarge maximum maxPcmuPacketTimeMs)
  else if 2 ^ 64 ≤ maximum.toNat * 8 then .error .payloadLimitOverflow
  else .ok (maximum.toNat * 8)

/-- The session after a configuration step. -/
def configured (outcome : RtpSession × Except (Fault RtpSessionError) Unit) :
    Except (Fault MediaSessionBuildError) RtpSession :=
  match outcome with
  | (session, .ok ()) => .ok session
  | (_, .error fault) => .error (fault.map .session)

/-- Route the negotiated telephone events. -/
def configureEvents (media : ActiveMedia) (session : RtpSession) :
    Except (Fault MediaSessionBuildError) RtpSession :=
  match media.negotiated.telephoneEvent with
  | none => .ok session
  | some event => do
    let config ← (TelephoneEventConfig.new event.payloadType.get event.clockRate
      event.allowedEvents).mapError fun error => .refused (.session error)
    configured (session.configureTelephoneEvent config)

/-- A check with its error as a returned one. -/
def checked (outcome : Except ε α) (convert : ε → MediaSessionBuildError) :
    Except (Fault MediaSessionBuildError) α :=
  outcome.mapError fun error => .refused (convert error)

/-- The session of one generation. -/
def buildSession
    (policy : MediaSessionPolicy) (media : ActiveMedia)
    (control : SocketAddress) (localSsrc : UInt32) (grant : ActivationGrant)
    (now : Duration) : Except (Fault MediaSessionBuildError) RtpSession := do
  let endpoints ← checked
    (SymmetricEndpoints.new media.remoteRtp control policy.symmetric) .endpoint
  let clockRate ← checked (RtpClockRate.new media.negotiated.codec.clockRate.toUInt32) .clock
  let receive ← checked
    (RtpReceiveConfig.new media.negotiated.codec.payloadType.get clockRate none) .receive
  let liveness ← checked
    (MediaLiveness.new now policy.receiveTimeout policy.inactivityTimeout) .liveness
  let security : MediaSecurityPolicy :=
    if media.negotiated.protocol.isSecure then .secureRequired else .plainAllowed
  let maximum ← checked (pcmuPayloadLimit media) id
  let session ← checked
    (RtpSession.newWithPayloadLimit grant.allocates receive policy.source endpoints security
      liveness policy.ingressCapacity maximum) .session
  let session ← configureEvents media session
  match grant.cname with
  | none => .error (.refused .wireToken)
  | some cname =>
    configured (session.configureRtcp grant.allocates policy.rtcpInterval localSsrc cname
      .strict now)

/-- Build the session of one generation; inactive media has none. -/
def activate
    (policy : MediaSessionPolicy) (media : ActiveMedia) (localSsrc : UInt32)
    (grant : ActivationGrant) (now : Duration) :
    Except (Fault MediaSessionBuildError) (Option ActiveRtpSession) :=
  if media.negotiated.direction = .inactive then .ok none
  else do
    checked (validateRemoteEndpoint media) id
    checked (validatePcmu media) id
    match ActiveRtpSession.controlEndpoint media.remoteRtp with
    | none => .error (.refused .controlPortOverflow)
    | some control =>
      let session ← policy.buildSession media control localSsrc grant now
      return some ⟨media.generation, media.negotiated.direction, media.remoteRtp, control, session⟩

end MediaSessionPolicy
end Call
end LiveAISIP
