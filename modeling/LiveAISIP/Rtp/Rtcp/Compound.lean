import LiveAISIP.Rtp.Rtcp.Goodbye
import LiveAISIP.Rtp.Rtcp.SourceDescription

/-!
# Compound RTCP datagrams

Datagrams of one or more RTCP packets, from `rtp/packet/rtcp/compound.rs`.  A
datagram is a sequence of frames of which only the last is padded; the parser
finds their boundaries again from the length fields.
-/

namespace LiveAISIP
namespace Rtp

open BigEndian Fault Outcome

/-- Maximum number of packets in one datagram. -/
def maxCompoundPackets : Nat := 64

/-- Negotiated validation policy. -/
inductive CompoundPolicy
  | strict
  | reducedSize
  deriving DecidableEq

/-- A packet of another type, preserved byte for byte. -/
structure OpaqueRtcpPacket where
  packetType : RtcpPacketType
  bytes : List UInt8
  deriving DecidableEq

/-- An RTCP packet. -/
inductive RtcpPacket
  | senderReport (packet : SenderReport)
  | receiverReport (packet : ReceiverReport)
  | sourceDescription (packet : SourceDescription)
  | goodbye (packet : Goodbye)
  | opaquePacket (packet : OpaqueRtcpPacket)
  deriving DecidableEq

/-- Failure to parse a packet of a known type. -/
inductive TypedPacketError
  | report (error : ReportError)
  | sourceDescription (error : SourceDescriptionError)
  | goodbye (error : GoodbyeError)
  deriving DecidableEq

/-- Failure to parse, construct or serialize a datagram. -/
inductive CompoundRtcpError
  | emptyDatagram
  | datagramNotWordAligned (actual : Nat)
  | datagramTooLarge (actual maximum : Nat)
  | tooManyPackets (attempted maximum : Nat)
  | header (error : RtcpHeaderError)
  | packetHeader (index : Nat) (error : RtcpHeaderError)
  | typedPacket (index : Nat) (error : TypedPacketError)
  | senderReport (error : ReportError)
  | receiverReport (error : ReportError)
  | sourceDescription (error : SourceDescriptionError)
  | goodbye (error : GoodbyeError)
  | paddingBeforeFinalPacket (index : Nat)
  | strictFirstPacketMustBeReport
  | missingPrimaryCanonicalName
  | allocationFailed
  deriving DecidableEq

/-- Keep the octets of a packet. -/
def OpaqueRtcpPacket.parse (grants : Nat → Bool) (input : List UInt8)
    (header : RtcpHeader) : Except (Fault CompoundRtcpError) OpaqueRtcpPacket := do
  require (grants header.packetLen) .allocationFailed
  let bytes ← range input 0 header.packetLen
  return { packetType := header.packetType, bytes := bytes.val }

namespace RtcpPacket

/-- Serialize one packet. -/
def encode (grants : Nat → Bool) : RtcpPacket → Except CompoundRtcpError (List UInt8)
  | .senderReport packet => (SenderReport.encode grants packet).mapError .senderReport
  | .receiverReport packet =>
    (ReceiverReport.encode grants packet).mapError .receiverReport
  | .sourceDescription packet => (packet.encode grants).mapError .sourceDescription
  | .goodbye packet => (packet.encode grants).mapError .goodbye
  | .opaquePacket packet => .ok packet.bytes

/-- The source that a report is about. -/
def primarySource : RtcpPacket → Option UInt32
  | .senderReport packet => some packet.information.senderSsrc
  | .receiverReport packet => some packet.information
  | _ => none

/-- Tell whether a packet carries padding. -/
def hasPadding : RtcpPacket → Except (Fault CompoundRtcpError) Bool
  | .senderReport packet => .ok (packet.paddingBytes != 0)
  | .receiverReport packet => .ok (packet.paddingBytes != 0)
  | .sourceDescription packet => .ok (packet.paddingBytes != 0)
  | .goodbye packet => .ok (packet.paddingBytes != 0)
  | .opaquePacket packet => do
    let header ← (RtcpHeader.parse packet.bytes).mapError (Fault.map .header)
    return header.padding

/-- Parse the packet whose header was read. -/
def parse (grants : Nat → Bool) (input : List UInt8) (header : RtcpHeader)
    (index : Nat) : Except (Fault CompoundRtcpError) RtcpPacket :=
  match header.packetType with
  | .senderReport => do
    let (packet, _) ← (SenderReport.parse grants input).mapError
      (Fault.map (.typedPacket index ∘ .report))
    return .senderReport packet
  | .receiverReport => do
    let (packet, _) ← (ReceiverReport.parse grants input).mapError
      (Fault.map (.typedPacket index ∘ .report))
    return .receiverReport packet
  | .sourceDescription => do
    let (packet, _) ← (SourceDescription.parse grants input).mapError
      (Fault.map (.typedPacket index ∘ .sourceDescription))
    return .sourceDescription packet
  | .goodbye => do
    let (packet, _) ← (Goodbye.parse grants input).mapError
      (Fault.map (.typedPacket index ∘ .goodbye))
    return .goodbye packet
  | _ => do
    let packet ← OpaqueRtcpPacket.parse grants input header
    return .opaquePacket packet

/-- Tell whether a packet names the canonical name of a source. -/
def namesSource (source : UInt32) : RtcpPacket → Bool
  | .sourceDescription packet =>
    packet.chunks.any fun chunk =>
      chunk.sourceSsrc == source && chunk.items.any fun item => item.itemType == .canonicalName
  | _ => false

end RtcpPacket

/-- A datagram of RTCP packets. -/
structure CompoundRtcp where
  policy : CompoundPolicy
  packets : List RtcpPacket
  deriving DecidableEq

namespace CompoundRtcp

/-- A datagram is neither empty nor too large, and holds whole words. -/
def validateDatagramShape (input : List UInt8) :
    Except (Fault CompoundRtcpError) Unit := do
  require (input ≠ []) .emptyDatagram
  require (input.length ≤ maxRtcpPacketBytes) (.datagramTooLarge input.length maxRtcpPacketBytes)
  require (4 ∣ input.length) (.datagramNotWordAligned input.length)

/-- There is a packet, and there are not too many. -/
def validatePacketCount (count : Nat) : Except (Fault CompoundRtcpError) Unit := do
  require (count ≠ 0) .emptyDatagram
  require (count ≤ maxCompoundPackets) (.tooManyPackets count maxCompoundPackets)

/-- Only the last of the packets may carry padding; the first has an index. -/
def validatePaddingPositions (index : Nat) : List RtcpPacket → Except (Fault CompoundRtcpError) Unit
  | [] => .ok ()
  | packet :: packets => do
    let padded ← packet.hasPadding
    require (¬(padded = true ∧ packets ≠ [])) (.paddingBeforeFinalPacket index)
    validatePaddingPositions (index + 1) packets

/-- Unless reduced size is accepted, a report comes first, and a canonical name of its source
follows. -/
def validatePolicy (packets : List RtcpPacket) (policy : CompoundPolicy) :
    Except (Fault CompoundRtcpError) Unit := do
  validatePacketCount packets.length
  if policy = .reducedSize then return
  else match packets with
    | [] => .error .outOfBounds
    | first :: _ =>
      match first.primarySource with
      | none => .error (.refused .strictFirstPacketMustBeReport)
      | some source =>
        require (packets.any (·.namesSource source)) .missingPrimaryCanonicalName

/-- The length of the encoded packets after so many bytes. -/
def checkedEncodedLen (grants : Nat → Bool) (length : Nat) :
    List RtcpPacket → Except (Fault CompoundRtcpError) Nat
  | [] => .ok length
  | packet :: packets => do
    let encoded ← (packet.encode grants).mapError .refused
    let length := length + encoded.length
    require (length ≤ maxRtcpPacketBytes) (.datagramTooLarge length maxRtcpPacketBytes)
    checkedEncodedLen grants length packets

/-- Parse packets from an offset on, with room for so many more. -/
def parsePackets (grants : Nat → Bool) (input : List UInt8) (room offset : Nat)
    (packets : List RtcpPacket) : Except (Fault CompoundRtcpError) (List RtcpPacket) :=
  if offset < input.length then
    match room with
    | 0 => .error (.refused (.tooManyPackets (packets.length + 1) maxCompoundPackets))
    | room + 1 => do
      let index := packets.length
      let remaining ← rangeFrom input offset
      let header ← (RtcpHeader.parse remaining.val).mapError (Fault.map (.packetHeader index))
      let nextOffset := offset + header.packetLen
      require (¬(header.padding = true ∧ nextOffset ≠ input.length))
        (.paddingBeforeFinalPacket index)
      let packet ← RtcpPacket.parse grants remaining.val header index
      require (grants 1) .allocationFailed
      parsePackets grants input room nextOffset (packets ++ [packet])
  else .ok packets

/-- Parse a whole datagram under a policy. -/
def parse (grants : Nat → Bool) (input : List UInt8) (policy : CompoundPolicy) :
    Except (Fault CompoundRtcpError) CompoundRtcp := do
  validateDatagramShape input
  let packets ← parsePackets grants input maxCompoundPackets 0 []
  validatePolicy packets policy
  return { policy := policy, packets := packets }

/-- Construct a datagram from packets. -/
def new (grants : Nat → Bool) (packets : List RtcpPacket) (policy : CompoundPolicy) :
    Except (Fault CompoundRtcpError) CompoundRtcp := do
  validatePacketCount packets.length
  validatePaddingPositions 0 packets
  validatePolicy packets policy
  let _ ← checkedEncodedLen grants 0 packets
  require (grants packets.length) .allocationFailed
  return { policy := policy, packets := packets }

/-- Append the encoded packets. -/
def appendPackets (grants : Nat → Bool) (output : List UInt8) :
    List RtcpPacket → Except (Fault CompoundRtcpError) (List UInt8)
  | [] => .ok output
  | packet :: packets => do
    let encoded ← (packet.encode grants).mapError .refused
    appendPackets grants (output ++ encoded) packets

/-- Serialize a datagram. -/
def encode (grants : Nat → Bool) (compound : CompoundRtcp) :
    Except (Fault CompoundRtcpError) (List UInt8) := do
  validatePacketCount compound.packets.length
  validatePaddingPositions 0 compound.packets
  validatePolicy compound.packets compound.policy
  let length ← checkedEncodedLen grants 0 compound.packets
  require (grants length) .allocationFailed
  appendPackets grants [] compound.packets

end CompoundRtcp

end Rtp
end LiveAISIP
