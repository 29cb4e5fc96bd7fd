import LiveAISIP.Library.Effect
import LiveAISIP.Library.Splice
import LiveAISIP.Rtp.Dtmf.Event
import LiveAISIP.Rtp.Gate
import LiveAISIP.Rtp.Queue
import LiveAISIP.Rtp.Receive
import LiveAISIP.Rtp.Rtcp.Compound

/-!
# The media session

The inbound session of `rtp/session`: a datagram passes the gate, the parser, the
source and the stream checks, and the payload of an admitted packet waits in a
preallocated slot until it is played out.  A slot is known by its index, which is
on the stack of free slots or in the ingress queue.

A position outside the slots or their bytes is a fault.  `grants` tells whether
a reservation of that size is granted.
-/

namespace LiveAISIP
namespace Rtp

open Fault Splice
open Transaction (Duration)

/-- Ceiling of the bytes reserved for waiting payloads. -/
def maxPlayoutPacketPoolBytes : Nat := 4 * 1024 * 1024

/-- Payload bytes of a codec without a bound of its own. -/
def defaultPlayoutPayloadBytes : Nat := 2048

/-- Payload bytes of 20 ms of PCMU. -/
def pcmu20msPayloadBytes : Nat := 160

/-- Failure of the report scheduler. -/
inductive RtcpSchedulerError
  | zeroInterval
  | invalidCname
  | timeOverflow
  | allocationFailed
  | receiveState (error : RtpStateError)
  | senderReport (error : ReportError)
  | receiverReport (error : ReportError)
  | sourceDescription (error : SourceDescriptionError)
  | goodbye (error : GoodbyeError)
  deriving DecidableEq

/-- Failure of a media session. -/
inductive RtpSessionError
  | security (error : MediaSecurityError)
  | packet (error : RtpPacketError)
  | receiveState (error : RtpStateError)
  | endpoint (error : SymmetricError)
  | liveness (error : MediaLivenessError)
  | queue (error : QueueError)
  | compoundRtcp (error : CompoundRtcpError)
  | rtcp (error : RtcpSchedulerError)
  | rtcpNotConfigured
  | invalidTelephoneEventConfig
  | dtmf (error : TelephoneEventError)
  | telephoneEventNotNegotiated
  | invalidPayloadLimit (value maximum : Nat)
  | payloadTooLarge (actual maximum : Nat)
  | packetPoolExhausted
  | packetPoolTooLarge (requested maximum : Nat)
  | allocationFailed
  deriving DecidableEq

/-- What a slot keeps of a packet beside its payload. -/
structure PlayoutPacketSlot where
  sequenceNumber : UInt16
  timestamp : UInt32
  ssrc : UInt32
  payloadType : UInt8
  marker : Bool
  payloadLength : Nat
  occupied : Bool

/-- A packet that is played out. -/
structure PlayoutPacket where
  sequenceNumber : UInt16
  timestamp : UInt32
  ssrc : UInt32
  payloadType : UInt8
  marker : Bool
  payload : List UInt8
  deriving DecidableEq

/-- The part of a parsed packet that is played out. -/
def PlayoutPacket.ofPacket (packet : RtpPacket) : PlayoutPacket where
  sequenceNumber := packet.header.sequenceNumber
  timestamp := packet.header.timestamp
  ssrc := packet.header.ssrc
  payloadType := packet.header.payloadType
  marker := packet.header.marker
  payload := packet.payload

/-- The slots of a session.  The top of the stack of free slots stands first. -/
structure PlayoutPacketPool where
  slots : List PlayoutPacketSlot
  payloads : List UInt8
  free : List Nat
  maximumPayloadBytes : Nat

namespace PlayoutPacketPool

/-- A slot without a packet. -/
def emptySlot : PlayoutPacketSlot := ⟨0, 0, 0, 0, false, 0, false⟩

/-- All slots are free, the first on top. -/
def new (grants : Nat → Bool) (queueCapacity maximumPayloadBytes : Nat) :
    Except RtpSessionError PlayoutPacketPool :=
  let slotCount := queueCapacity + 1
  let poolBytes := slotCount * maximumPayloadBytes
  if maximumPayloadBytes = 0 ∨ maxRtpPacketBytes < maximumPayloadBytes then
    .error (.invalidPayloadLimit maximumPayloadBytes maxRtpPacketBytes)
  else if 2 ^ 64 ≤ slotCount ∨ 2 ^ 64 ≤ poolBytes then .error .allocationFailed
  else if maxPlayoutPacketPoolBytes < poolBytes then
    .error (.packetPoolTooLarge poolBytes maxPlayoutPacketPoolBytes)
  else if ¬(grants slotCount ∧ grants poolBytes) then .error .allocationFailed
  else .ok {
    slots := List.replicate slotCount emptySlot
    payloads := List.replicate poolBytes 0
    free := List.range slotCount
    maximumPayloadBytes := maximumPayloadBytes }

/-- Where the payload of a slot begins. -/
def payloadStart (pool : PlayoutPacketPool) (index : Nat) : Nat := index * pool.maximumPayloadBytes

/-- Write the packet and its payload to a slot. -/
def write (pool : PlayoutPacketPool) (index : Nat) (packet : RtpPacket) : PlayoutPacketPool :=
  let start := pool.payloadStart index
  { pool with
    slots := pool.slots.set index {
      sequenceNumber := packet.header.sequenceNumber
      timestamp := packet.header.timestamp
      ssrc := packet.header.ssrc
      payloadType := packet.header.payloadType
      marker := packet.header.marker
      payloadLength := packet.payload.length
      occupied := true }
    payloads := splice pool.payloads start packet.payload }

/-- Take a free slot for a packet. -/
def store (packet : RtpPacket) : Effect PlayoutPacketPool (Fault RtpSessionError) Nat := fun pool =>
  if pool.maximumPayloadBytes < packet.payload.length then
    (pool, .error (.refused (.payloadTooLarge packet.payload.length pool.maximumPayloadBytes)))
  else
    match pool.free with
    | [] => (pool, .error (.refused .packetPoolExhausted))
    | index :: free =>
      let taken := { pool with free := free }
      match pool.slots[index]? with
      | none => (taken, .error .outOfBounds)
      | some slot =>
        if slot.occupied then (taken, .error (.refused .packetPoolExhausted))
        else if pool.payloads.length <
            pool.payloadStart index + packet.payload.length then
          (taken, .error .outOfBounds)
        else (taken.write index packet, .ok index)

/-- Give a slot back. -/
def release (pool : PlayoutPacketPool) (index : Nat) : PlayoutPacketPool :=
  match pool.slots[index]? with
  | none => pool
  | some slot =>
    if ¬slot.occupied then pool
    else { pool with
      slots := pool.slots.set index { slot with payloadLength := 0, occupied := false }
      free := index :: pool.free }

/-- Read the packet of an occupied slot. -/
def packet (pool : PlayoutPacketPool) (index : Nat) :
    Except (Fault RtpSessionError) (Option PlayoutPacket) :=
  match pool.slots[index]? with
  | none => .ok none
  | some slot =>
    if ¬slot.occupied then .ok none
    else do
      let start := pool.payloadStart index
      let payload ← range pool.payloads start (start + slot.payloadLength)
      return some {
        sequenceNumber := slot.sequenceNumber
        timestamp := slot.timestamp
        ssrc := slot.ssrc
        payloadType := slot.payloadType
        marker := slot.marker
        payload := payload.val }

end PlayoutPacketPool

/-- The negotiated telephone-event stream. -/
@[ext] structure TelephoneEventConfig where
  payloadType : UInt8
  clockRate : Nat
  allowedEvents : BitVec 256
  payloadType_le : payloadType ≤ 127
  clockRate_pos : 0 < clockRate

instance : DecidableEq TelephoneEventConfig := fun first second =>
  decidable_of_iff
    (first.payloadType = second.payloadType ∧ first.clockRate = second.clockRate ∧
      first.allowedEvents = second.allowedEvents) TelephoneEventConfig.ext_iff.symm

/-- The events of a negotiated stream. -/
def TelephoneEventConfig.new (payloadType : UInt8) (clockRate : Nat)
    (allowedEvents : BitVec 256) : Except RtpSessionError TelephoneEventConfig :=
  if valid : payloadType ≤ 127 ∧ 0 < clockRate ∧ allowedEvents ≠ 0 then
    .ok ⟨payloadType, clockRate, allowedEvents, valid.1, valid.2.1⟩
  else .error .invalidTelephoneEventConfig

/-- The event was negotiated. -/
def TelephoneEventConfig.allows (config : TelephoneEventConfig) (event : UInt8) : Bool :=
  config.allowedEvents.getLsbD event.toNat

/-- Maximum size of a canonical name. -/
def maxRtcpCnameBytes : Nat := 128

/-- The report schedule of a session. -/
structure RtcpScheduler where
  interval : Duration
  localSsrc : UInt32
  cname : List UInt8
  nextReport : Duration
  senderPackets : Nat
  senderOctets : Nat
  sentSinceReport : Bool
  reportsSent : Nat
  deriving DecidableEq

/-- A schedule whose first report is due after one interval. -/
def RtcpScheduler.new (grants : Nat → Bool) (interval : Duration) (localSsrc : UInt32)
    (cname : List UInt8) (now : Duration) : Except RtcpSchedulerError RtcpScheduler :=
  if cname = [] ∨ maxRtcpCnameBytes < cname.length ∨
      cname.any (fun byte => byte < 32 || byte == 127) then .error .invalidCname
  else
    match now.checkedAdd interval with
    | none => .error .timeOverflow
    | some nextReport =>
      if ¬grants cname.length then .error .allocationFailed
      else .ok ⟨interval, localSsrc, cname, nextReport, 0, 0, false, 0⟩

/-- One inbound media session. -/
structure RtpSession where
  receiveConfig : RtpReceiveConfig
  receive : RtpReceiveState
  source : RemoteSourceTracker
  endpoints : SymmetricEndpoints
  security : MediaSecurityPolicy
  liveness : MediaLiveness
  ingress : BoundedQueue Nat
  packetPool : PlayoutPacketPool
  sourceResets : Nat
  rtcp : Option RtcpScheduler
  rtcpPolicy : CompoundPolicy
  telephoneEvent : Option TelephoneEventConfig
  delayedLoss : DelayedLossTracker

/-- Result of one datagram on the RTP socket. -/
inductive RtpIngressOutcome
  | classifiedOut (classification : DatagramClassification)
  | sourceProbation
  | sourceRejected
  | sourceSwitched
  | streamRejected (outcome : ReceivePacketOutcome)
  | auxiliaryRejected (outcome : AuxiliaryPacketOutcome)
  | queued (endpoint : SymmetricObservation)
  | queueDropped
  | telephoneEvent (event : TelephoneEvent) (endpoint : SymmetricObservation)
  deriving DecidableEq

/-- Result of one datagram on the RTCP socket. -/
inductive RtcpIngressOutcome
  | classifiedOut (classification : DatagramClassification)
  | sourceRejected
  | accepted (endpoint : SymmetricObservation) (packetCount : Nat) (senderReport : Bool)
  deriving DecidableEq

namespace RtpSession

/-- A session with a bound on its payloads. -/
def newWithPayloadLimit
    (grants : Nat → Bool) (receiveConfig : RtpReceiveConfig)
    (sourcePolicy : SourcePolicy) (endpoints : SymmetricEndpoints)
    (security : MediaSecurityPolicy) (liveness : MediaLiveness)
    (ingressCapacity maximumPayloadBytes : Nat) : Except RtpSessionError RtpSession := do
  let ingress ← (BoundedQueue.new grants ingressCapacity .dropNewest).mapError .queue
  let packetPool ← PlayoutPacketPool.new grants ingressCapacity maximumPayloadBytes
  return {
    receiveConfig := receiveConfig
    receive := .new receiveConfig
    source := .new receiveConfig.expectedSsrc sourcePolicy
    endpoints := endpoints
    security := security
    liveness := liveness
    ingress := ingress
    packetPool := packetPool
    sourceResets := 0
    rtcp := none
    rtcpPolicy := .strict
    telephoneEvent := none
    delayedLoss := .new }

/-- The payload bound of a stream without a negotiated one. -/
def defaultPayloadLimit (config : RtpReceiveConfig) : Nat :=
  if config.payloadType = 0 ∧ config.clockRate.get = 8000 then pcmu20msPayloadBytes
  else defaultPlayoutPayloadBytes

/-- A session with the default bound on its payloads. -/
def new
    (grants : Nat → Bool) (receiveConfig : RtpReceiveConfig)
    (sourcePolicy : SourcePolicy) (endpoints : SymmetricEndpoints)
    (security : MediaSecurityPolicy) (liveness : MediaLiveness)
    (ingressCapacity : Nat) : Except RtpSessionError RtpSession :=
  newWithPayloadLimit grants receiveConfig sourcePolicy endpoints security liveness
    ingressCapacity (defaultPayloadLimit receiveConfig)

/-- Computations on a session.  A position out of bounds is a fault. -/
abbrev Operation (α : Type) := Effect RtpSession (Fault RtpSessionError) α

/-- An outcome with its errors under a name of the session. -/
def lift (convert : ε → RtpSessionError) (outcome : Except ε α) : Operation α :=
  .ofExcept (outcome.mapError fun error => .refused (convert error))

/-- Route telephone events. -/
def configureTelephoneEvent (config : TelephoneEventConfig) : Operation Unit := fun session =>
  if config.payloadType = session.receiveConfig.payloadType ∨
      config.clockRate ≠ session.receiveConfig.clockRate.get.toNat then
    (session, .error (.refused .invalidTelephoneEventConfig))
  else ({ session with telephoneEvent := some config }, .ok ())

/-- Schedule reports. -/
def configureRtcp (grants : Nat → Bool) (interval : Duration) (localSsrc : UInt32)
    (cname : List UInt8) (policy : CompoundPolicy) (now : Duration) : Operation Unit := do
  let scheduler ← lift .rtcp (RtcpScheduler.new grants interval localSsrc cname now)
  .modify fun session => { session with rtcp := some scheduler, rtcpPolicy := policy }

/-- A computation on the slots. -/
def onPool (inner : Effect PlayoutPacketPool (Fault RtpSessionError) α) : Operation α :=
  .zoom RtpSession.packetPool (fun pool session => { session with packetPool := pool }) inner

/-- A computation on the receive state. -/
def onReceive (inner : Effect RtpReceiveState RtpStateError α) : Operation α :=
  .mapError (fun error => .refused (.receiveState error)) <|
    .zoom RtpSession.receive (fun receive session => { session with receive := receive }) inner

/-- The session after its waiting packets were given up for a new source. -/
def rebound (session : RtpSession) (config : RtpReceiveConfig) : RtpSession :=
  { session with
    receive := .new config
    ingress := session.ingress.clearWith.1
    packetPool := session.ingress.clearWith.2.foldl PlayoutPacketPool.release session.packetPool
    sourceResets := saturatingAdd session.sourceResets 1
    delayedLoss := .new }

/-- Begin to receive from a source. -/
def rebindReceiveState (ssrc : UInt32) : Operation Unit := do
  let session ← .read id
  let config ← lift .receiveState <| RtpReceiveConfig.new session.receiveConfig.payloadType
      session.receiveConfig.clockRate (some ssrc)
  .modify fun session => session.rebound config

/-- Observe the source of a packet. -/
def observeSource (ssrc : UInt32) (sequence : UInt16) : Operation SourceObservation :=
  fun session =>
    ({ session with source := (session.source.observe ssrc sequence).1 },
      .ok (session.source.observe ssrc sequence).2)

/-- Observe the endpoint of a valid packet. -/
def observeEndpoint (component : Component) (networkSource : SocketAddress) :
    Operation SymmetricObservation := do
  let session ← .read id
  let (endpoints, observation) ← lift .endpoint
    (session.endpoints.observeValidatedSource component networkSource)
  .modify fun session => { session with endpoints := endpoints }
  return observation

/-- Record the time of a valid packet. -/
def noteReceive
    (note : MediaLiveness → Duration → Except MediaLivenessError MediaLiveness)
    (arrival : Duration) : Operation Unit := do
  let session ← .read id
  let liveness ← lift .liveness (note session.liveness arrival)
  .modify fun session => { session with liveness := liveness }

/-- Observe the sequence number of an admitted packet for its delayed loss. -/
def observeLoss (sequence : UInt16) : Operation Unit := .modify fun session =>
    { session with delayedLoss := session.delayedLoss.observe sequence }

/-- Handle a packet of the telephone-event stream. -/
def ingestTelephoneEvent (config : TelephoneEventConfig) (packet : RtpPacket)
    (networkSource : SocketAddress) (arrival : Duration) :
    Operation RtpIngressOutcome := do
  let auxiliary ← onReceive fun receive =>
    ((receive.observeAuxiliary packet).1, .ok (receive.observeAuxiliary packet).2)
  match auxiliary with
  | .admitted _ => do
    let event ← lift .dtmf (TelephoneEvent.parse packet.payload)
    if ¬config.allows event.code.asRaw then .fail (.refused .telephoneEventNotNegotiated)
    else do
      observeLoss packet.header.sequenceNumber
      let endpoint ← observeEndpoint .rtp networkSource
      noteReceive MediaLiveness.noteValidReceive arrival
      return .telephoneEvent event endpoint
  | rejected => return .auxiliaryRejected rejected

/-- Put a slot in the ingress queue, or give it back when the queue is full. -/
def enqueue (slot : Nat) (endpoint : SymmetricObservation) :
    Operation RtpIngressOutcome := fun session =>
  let pushed := { session with ingress := (session.ingress.push slot).1 }
  match (session.ingress.push slot).2 with
  | .accepted => (pushed, .ok (.queued endpoint))
  | .droppedNewest dropped | .droppedOldest dropped =>
    ({ pushed with packetPool := pushed.packetPool.release dropped }, .ok .queueDropped)

/-- Handle an audio packet. -/
def ingestAudio (packet : RtpPacket) (networkSource : SocketAddress)
    (arrival : Duration) : Operation RtpIngressOutcome := do
  let stream ← onReceive (RtpReceiveState.observe packet arrival)
  match stream with
  | .admitted _ _ => do
    observeLoss packet.header.sequenceNumber
    let endpoint ← observeEndpoint .rtp networkSource
    noteReceive MediaLiveness.noteValidReceive arrival
    let slot ← onPool (PlayoutPacketPool.store packet)
    enqueue slot endpoint
  | rejected => return .streamRejected rejected

/-- Handle a packet of the active source. -/
def ingestPacket (packet : RtpPacket) (networkSource : SocketAddress)
    (arrival : Duration) : Operation RtpIngressOutcome := do
  let session ← .read id
  match session.telephoneEvent with
  | some config =>
    if packet.header.payloadType = config.payloadType then
      ingestTelephoneEvent config packet networkSource arrival
    else ingestAudio packet networkSource arrival
  | none => ingestAudio packet networkSource arrival

/-- Handle a parsed packet. -/
def ingestParsed (packet : RtpPacket) (networkSource : SocketAddress)
    (arrival : Duration) : Operation RtpIngressOutcome := do
  let source ← observeSource packet.header.ssrc packet.header.sequenceNumber
  match source with
  | .probation _ _ => return .sourceProbation
  | .rejected => return .sourceRejected
  | .switched => do
    rebindReceiveState packet.header.ssrc
    return .sourceSwitched
  | .bound => do
    rebindReceiveState packet.header.ssrc
    ingestPacket packet networkSource arrival
  | .current => ingestPacket packet networkSource arrival

/-- Handle a datagram of the RTP socket. -/
def ingestRtp (grants : Nat → Bool) (networkSource : SocketAddress)
    (datagram : List UInt8) (arrival : Duration) (protection : PacketProtection) :
    Operation RtpIngressOutcome := do
  let session ← .read id
  lift .security (session.security.admitPacket protection)
  if classify .rtp datagram ≠ .rtp then return .classifiedOut (classify .rtp datagram)
  else do
    let packet ← .ofExcept ((RtpPacket.parse grants datagram).mapError (Fault.map .packet))
    ingestParsed packet networkSource arrival

/-- The middle bits of the time of a sender report. -/
def compactNtp (info : RtcpSenderInfo) : UInt32 := (info.ntpTimestamp >>> 16).toUInt32

/-- Record the times of the sender reports. -/
def noteSenderReports (arrival : Duration) (packets : List RtcpPacket) : Operation Unit :=
  .each (fun packet => match packet with
    | .senderReport report => .modify fun session =>
      { session with
        receive := session.receive.noteSenderReport
          (compactNtp report.information.senderInfo) arrival }
    | _ => pure ()) packets

/-- Handle a datagram of the RTCP socket. -/
def ingestRtcp (grants : Nat → Bool) (networkSource : SocketAddress)
    (datagram : List UInt8) (arrival : Duration) (protection : PacketProtection) :
    Operation RtcpIngressOutcome := do
  let session ← .read id
  lift .security (session.security.admitPacket protection)
  if classify .rtcp datagram ≠ .rtcp then return .classifiedOut (classify .rtcp datagram)
  else do
    let compound ← .ofExcept
      ((CompoundRtcp.parse grants datagram session.rtcpPolicy).mapError (Fault.map .compoundRtcp))
    let primary := compound.packets.findSome? RtcpPacket.primarySource
    if session.source.active.isNone ∨ primary ≠ session.source.active then return .sourceRejected
    else do
      noteSenderReports arrival compound.packets
      let endpoint ← observeEndpoint .rtcp networkSource
      noteReceive MediaLiveness.noteRtcpReceive arrival
      let senderReport := compound.packets.any fun packet =>
        match packet with
        | .senderReport _ => true
        | _ => false
      return .accepted endpoint compound.packets.length senderReport

/-- Take the next slot from the ingress queue. -/
def popIngress : Operation (Option Nat) := fun session =>
  ({ session with ingress := session.ingress.pop.1 }, .ok session.ingress.pop.2)

/-- Read the packet of a slot, which is given back when the packet was played out. -/
def checkout (slot : Nat) : Operation (Option PlayoutPacket) := fun session =>
  match session.packetPool.packet slot with
  | .error fault => (session, .error fault)
  | .ok none => (session, .ok none)
  | .ok (some packet) =>
    ({ session with packetPool := session.packetPool.release slot }, .ok (some packet))

/-- Take the next packet. -/
def popPlayoutPacket : Operation (Option PlayoutPacket) := do
  match ← popIngress with
  | none => return none
  | some slot => checkout slot

end RtpSession
end Rtp
end LiveAISIP
