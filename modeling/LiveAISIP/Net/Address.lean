import Mathlib.Data.Nat.Notation

/-!
# Network addresses

The addresses and endpoints of the standard library that signaling and media
exchange packets with.
-/

namespace LiveAISIP

/-- A network address. -/
inductive IpAddress
  | v4 (address : BitVec 32)
  | v6 (address : BitVec 128)
  deriving DecidableEq

namespace IpAddress

/-- The wildcard address of its family. -/
def isUnspecified : IpAddress → Bool
  | .v4 address => address == 0
  | .v6 address => address == 0

/-- A group address of its family. -/
def isMulticast : IpAddress → Bool
  | .v4 address => address.toNat >>> 28 == 0xE
  | .v6 address => address.toNat >>> 120 == 0xFF

/-- An address of the older family. -/
def isIpv4 : IpAddress → Bool
  | .v4 _ => true
  | .v6 _ => false

end IpAddress

/-- A network endpoint; one of the newer family has a flow and a scope as well. -/
structure SocketAddress where
  address : IpAddress
  port : UInt16
  flowinfo : UInt32
  scopeId : UInt32
  deriving DecidableEq

end LiveAISIP
