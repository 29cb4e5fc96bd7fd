import LiveAISIP.Sip.Sdp.Media

/-!
# Negotiated media

The result of an RTP media negotiation of `sip/sdp/negotiation.rs`: the selected
codec mapping, the local direction, the transport profile and the packetization.
Two results are compared field by field, and codec names without regard to case.
-/

namespace LiveAISIP
namespace Sip
namespace Sdp

open Ascii

/-- Maximum RTP clock rate. -/
def maxCodecClockRate : Nat := 768000

/-- Maximum channel count. -/
def maxCodecChannels : Nat := 64

/-- A seven-bit RTP payload type. -/
@[ext] structure PayloadType where
  get : UInt8
  get_le : get ≤ 127

instance : DecidableEq PayloadType := fun first second =>
  decidable_of_iff (first.get = second.get) PayloadType.ext_iff.symm

/-- One codec mapping. -/
@[ext] structure Codec where
  payloadType : PayloadType
  name : String
  clockRate : Nat
  channels : Nat
  clockRate_pos : 0 < clockRate
  clockRate_le : clockRate ≤ maxCodecClockRate
  channels_pos : 0 < channels
  channels_le : channels ≤ maxCodecChannels

instance : DecidableEq Codec := fun first second =>
  decidable_of_iff
    (first.payloadType = second.payloadType ∧ first.name = second.name ∧
      first.clockRate = second.clockRate ∧ first.channels = second.channels)
    Codec.ext_iff.symm

/-- The same mapping, up to the spelling of the codec name. -/
def Codec.same (first second : Codec) : Bool := first.payloadType == second.payloadType &&
    eqIgnoreCase (wireBytes first.name) (wireBytes second.name) &&
    first.clockRate == second.clockRate &&
    first.channels == second.channels

@[simp] theorem Codec.same_refl (codec : Codec) : codec.same codec = true := by
  simp [same, eqIgnoreCase]

/-- Media direction, seen from the owner of the description. -/
inductive Direction
  | sendRecv
  | sendOnly
  | recvOnly
  | inactive
  deriving DecidableEq

namespace Direction

/-- The owner of the description sends. -/
def sends : Direction → Bool
  | sendRecv | sendOnly => true
  | recvOnly | inactive => false

/-- The owner of the description receives. -/
def receives : Direction → Bool
  | sendRecv | recvOnly => true
  | sendOnly | inactive => false

end Direction

/-- Network packetization. -/
structure Packetization where
  packetTimeMs : UInt16
  maximumPacketTimeMs : Option UInt16
  deriving DecidableEq

/-- The negotiated telephone-event mapping. -/
structure NegotiatedTelephoneEvent where
  payloadType : PayloadType
  clockRate : Nat
  allowedEvents : BitVec 256
  deriving DecidableEq

/-- Negotiated RTP media parameters. -/
structure NegotiatedMedia where
  codec : Codec
  direction : Direction
  protocol : TransportProtocol
  remotePort : UInt16
  packetization : Packetization
  telephoneEvent : Option NegotiatedTelephoneEvent
  deriving DecidableEq

/-- The same parameters, up to the spelling of the codec name. -/
def NegotiatedMedia.same (first second : NegotiatedMedia) : Bool := first.codec.same second.codec &&
    first.direction == second.direction &&
    first.protocol == second.protocol &&
    first.remotePort == second.remotePort &&
    first.packetization == second.packetization &&
    first.telephoneEvent == second.telephoneEvent

@[simp] theorem NegotiatedMedia.same_refl (media : NegotiatedMedia) :
    media.same media = true := by
  simp [same]

end Sdp
end Sip
end LiveAISIP
