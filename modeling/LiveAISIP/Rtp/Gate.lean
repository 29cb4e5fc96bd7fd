import LiveAISIP.Rtp.Source
import LiveAISIP.Transaction.Timer

/-!
# The gate of a media session

What a datagram passes around its parsers: the protection policy of
`rtp/security`, the classification of `rtp/transport/udp.rs` and the activity times
of `rtp/liveness.rs`.  The classifier's counters are left out.
-/

namespace LiveAISIP
namespace Rtp

open Transaction (Duration)

/-- The protection that the media needs. -/
inductive MediaSecurityPolicy
  | plainAllowed
  | secureRequired

/-- The protection that a packet had. -/
inductive PacketProtection
  | plain
  | authenticatedSecure

/-- Why a packet is not let in. -/
inductive MediaSecurityError
  | securePacketRequired
  deriving DecidableEq

/-- Let in a packet by its protection. -/
def MediaSecurityPolicy.admitPacket (policy : MediaSecurityPolicy)
    (protection : PacketProtection) : Except MediaSecurityError Unit :=
  match policy, protection with
  | .secureRequired, .plain => .error .securePacketRequired
  | _, _ => .ok ()

/-- The family of a datagram. -/
inductive DatagramClassification
  | rtp
  | rtcp
  | stun
  | dtls
  | turnChannelData
  | invalid
  deriving DecidableEq

/-- A STUN message. -/
def isStun (datagram : List UInt8) : Bool :=
  20 ≤ datagram.length && datagram.headD 0 &&& 0xc0 == 0 &&
    (datagram.drop 4).take 4 == [0x21, 0x12, 0xa4, 0x42]

/-- The channel data of TURN. -/
def isTurnChannelData (datagram : List UInt8) : Bool :=
  4 ≤ datagram.length && datagram.headD 0 &&& 0xc0 == 0x40

/-- The family of a datagram on the socket of one component. -/
def classify (component : Component) (datagram : List UInt8) : DatagramClassification :=
  if isStun datagram then .stun
  else if datagram.head?.any fun byte => 20 ≤ byte && byte ≤ 63 then .dtls
  else if isTurnChannelData datagram then .turnChannelData
  else
    match datagram with
    | first :: second :: _ =>
      if first >>> 6 ≠ 2 then .invalid
      else
        match component with
        | .rtcp =>
          if datagram.length < 4 ∨ ¬(192 ≤ second ∧ second ≤ 223) then .invalid
          else .rtcp
        | .rtp => if datagram.length < 12 then .invalid else .rtp
    | _ => .invalid

/-- Why liveness is not created or updated. -/
inductive MediaLivenessError
  | zeroTimeout
  | inactivityBeforeReceiveTimeout
  | clockMovedBackward
  deriving DecidableEq

/-- The activity times of a media session. -/
structure MediaLiveness where
  startedAt : Duration
  receiveTimeout : Duration
  inactivityTimeout : Duration
  lastValidReceive : Option Duration
  lastTransmit : Option Duration
  lastRtcpReceive : Option Duration

namespace MediaLiveness

/-- No activity yet. -/
def new (startedAt receiveTimeout inactivityTimeout : Duration) :
    Except MediaLivenessError MediaLiveness :=
  if receiveTimeout.asNanos = 0 ∨ inactivityTimeout.asNanos = 0 then .error .zeroTimeout
  else if inactivityTimeout.asNanos < receiveTimeout.asNanos then
    .error .inactivityBeforeReceiveTimeout
  else .ok ⟨startedAt, receiveTimeout, inactivityTimeout, none, none, none⟩

/-- Record an admitted RTP packet. -/
def noteValidReceive (liveness : MediaLiveness) (now : Duration) :
    Except MediaLivenessError MediaLiveness :=
  if now.asNanos < liveness.startedAt.asNanos then .error .clockMovedBackward
  else .ok { liveness with lastValidReceive := some now }

/-- Record an accepted RTCP packet. -/
def noteRtcpReceive (liveness : MediaLiveness) (now : Duration) :
    Except MediaLivenessError MediaLiveness :=
  if now.asNanos < liveness.startedAt.asNanos then .error .clockMovedBackward
  else .ok { liveness with lastRtcpReceive := some now }

end MediaLiveness
end Rtp
end LiveAISIP
