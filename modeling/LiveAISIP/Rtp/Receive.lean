import LiveAISIP.Rtp.Packet
import LiveAISIP.Rtp.Rtcp.Report
import LiveAISIP.Rtp.Statistics

/-!
# The receive state

Admission of parsed packets to a stream, `rtp/session/receive.rs`: the negotiated
payload type, the bound source and the sequence number are checked in this order.
-/

namespace LiveAISIP
namespace Rtp

open Transaction (Duration)

/-- Failure of the receive state. -/
inductive RtpStateError
  | payloadTypeOutOfRange (payloadType : UInt8)
  | clock (error : RtpClockError)
  | sourceNotBound
  | sourceNotValidated
  | timeMovedBackwards
  | receptionReport (error : ReceptionReportError)
  deriving DecidableEq

/-- The negotiated parameters of a receive stream. -/
@[ext] structure RtpReceiveConfig where
  payloadType : UInt8
  clockRate : RtpClockRate
  expectedSsrc : Option UInt32
  payloadType_le : payloadType ≤ 127

instance : DecidableEq RtpReceiveConfig := fun first second =>
  decidable_of_iff
    (first.payloadType = second.payloadType ∧ first.clockRate = second.clockRate ∧
      first.expectedSsrc = second.expectedSsrc) RtpReceiveConfig.ext_iff.symm

/-- Parameters of a receive stream. -/
def RtpReceiveConfig.new
    (payloadType : UInt8) (clockRate : RtpClockRate) (expectedSsrc : Option UInt32) :
    Except RtpStateError RtpReceiveConfig :=
  if small : payloadType ≤ 127 then .ok ⟨payloadType, clockRate, expectedSsrc, small⟩
  else .error (.payloadTypeOutOfRange payloadType)

/-- Result of one audio packet. -/
inductive ReceivePacketOutcome
  | payloadTypeRejected (actual expected : UInt8)
  | sourceRejected
  | sequenceRejected (disposition : SequenceDisposition)
  | admitted (disposition : SequenceDisposition) (jitter : JitterUpdate)
  deriving DecidableEq

/-- Result of one packet of another payload type. -/
inductive AuxiliaryPacketOutcome
  | sourceRejected
  | sequenceRejected (disposition : SequenceDisposition)
  | admitted (disposition : SequenceDisposition)
  deriving DecidableEq

/-- When the last sender report came and what time it named. -/
structure SenderReportReference where
  compactNtp : UInt32
  receivedAt : Duration
  deriving DecidableEq

/-- Admission and statistics of one source. -/
structure RtpReceiveState where
  config : RtpReceiveConfig
  boundSsrc : Option UInt32
  sequence : SequenceTracker
  jitter : JitterEstimator
  admittedPackets : Nat
  admittedPayloadBytes : Nat
  rejectedPayloadType : Nat
  rejectedSource : Nat
  rejectedSequence : Nat
  lastSenderReport : Option SenderReportReference
  deriving DecidableEq

namespace RtpReceiveState

/-- No packets yet. -/
def new (config : RtpReceiveConfig) : RtpReceiveState where
  config := config
  boundSsrc := config.expectedSsrc
  sequence := .new
  jitter := .new config.clockRate
  admittedPackets := 0
  admittedPayloadBytes := 0
  rejectedPayloadType := 0
  rejectedSource := 0
  rejectedSequence := 0
  lastSenderReport := none

/-- Count a packet that is let in. -/
def countAdmitted (state : RtpReceiveState) (packet : RtpPacket) : RtpReceiveState :=
  { state with
    admittedPackets := saturatingAdd state.admittedPackets 1
    admittedPayloadBytes :=
      saturatingAdd state.admittedPayloadBytes packet.payload.length }

/-- Admit a packet of another payload type to the sequence of the stream. -/
def observeAuxiliary (state : RtpReceiveState) (packet : RtpPacket) :
    RtpReceiveState × AuxiliaryPacketOutcome :=
  if state.boundSsrc.any (· != packet.header.ssrc) then
    ({ state with rejectedSource := saturatingAdd state.rejectedSource 1 }, .sourceRejected)
  else
    let (sequence, disposition) := state.sequence.observe packet.header.sequenceNumber
    let bound := { state with
      boundSsrc := some (state.boundSsrc.getD packet.header.ssrc)
      sequence := sequence }
    if ¬disposition.accepted then
      ({ bound with rejectedSequence := saturatingAdd state.rejectedSequence 1 },
        .sequenceRejected disposition)
    else (bound.countAdmitted packet, .admitted disposition)

/-- The state after the sequence of the stream began anew. -/
def restart (state : RtpReceiveState) : RtpReceiveState :=
  { state with jitter := state.jitter.reset, lastSenderReport := none }

/-- Account for an accepted sequence number. -/
def observeAdmitted (state : RtpReceiveState) (packet : RtpPacket)
    (arrivalTimestamp : UInt32) (disposition : SequenceDisposition) :
    RtpReceiveState × ReceivePacketOutcome :=
  let current := if disposition = .sourceRestarted then state.restart else state
  let (jitter, update) := current.jitter.observe arrivalTimestamp packet.header.timestamp
  (({ current with jitter := jitter }).countAdmitted packet, .admitted disposition update)

/-- Admit an audio packet.  The clock may fail after the source was bound. -/
def observe (packet : RtpPacket) (arrival : Duration) (state : RtpReceiveState) :
    RtpReceiveState × Except RtpStateError ReceivePacketOutcome :=
  if packet.header.payloadType ≠ state.config.payloadType then
    ({ state with rejectedPayloadType := saturatingAdd state.rejectedPayloadType 1 },
      .ok (.payloadTypeRejected packet.header.payloadType state.config.payloadType))
  else if state.boundSsrc.any (· != packet.header.ssrc) then
    ({ state with rejectedSource := saturatingAdd state.rejectedSource 1 }, .ok .sourceRejected)
  else
    let bound := { state with boundSsrc := some packet.header.ssrc }
    match state.config.clockRate.ticksForDuration arrival with
    | .error error => (bound, .error (.clock error))
    | .ok ticks =>
      let (sequence, disposition) := state.sequence.observe packet.header.sequenceNumber
      let observed := { bound with sequence := sequence }
      if ¬disposition.accepted then
        ({ observed with rejectedSequence := saturatingAdd state.rejectedSequence 1 },
          .ok (.sequenceRejected disposition))
      else
        let (admitted, outcome) := observed.observeAdmitted packet ticks.toUInt32 disposition
        (admitted, .ok outcome)

/-- Record the time of a sender report. -/
def noteSenderReport (state : RtpReceiveState) (compactNtp : UInt32)
    (receivedAt : Duration) : RtpReceiveState :=
  { state with
    lastSenderReport :=
      if compactNtp = 0 then none else some ⟨compactNtp, receivedAt⟩ }

/-- Audio is admitted only with the negotiated payload type. -/
theorem payloadType_of_admitted
    {state next : RtpReceiveState} {packet : RtpPacket} {arrival : Duration}
    {disposition : SequenceDisposition} {update : JitterUpdate}
    (returned : state.observe packet arrival = (next, .ok (.admitted disposition update))) :
    packet.header.payloadType = state.config.payloadType := by
  by_contra other
  rw [observe, if_pos other] at returned
  cases returned

end RtpReceiveState
end Rtp
end LiveAISIP
