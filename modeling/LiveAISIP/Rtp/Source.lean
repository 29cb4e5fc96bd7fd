import LiveAISIP.Net.Address
import Mathlib.Tactic.SplitIfs

/-!
# Media sources

The synchronization source of the remote party, `rtp/source.rs`, and the network
endpoints learned from its packets, `rtp/transport/symmetric.rs`.  Both change
only after consecutive packets of the new source.  Counters that are only
reported are left out.
-/

namespace LiveAISIP
namespace Rtp

/-- Addition of small counters that stays at the largest value. -/
def saturatingNext8 (count : UInt8) : UInt8 := if count = 255 then 255 else count + 1

/-- When a new source is accepted. -/
structure SourcePolicy where
  probationPackets : UInt8
  allowProbationarySwitch : Bool
  probationPackets_ne : probationPackets ≠ 0

/-- Two packets in a row bind a source, and none takes its place. -/
def SourcePolicy.default : SourcePolicy where
  probationPackets := 2
  allowProbationarySwitch := false
  probationPackets_ne := by decide

/-- Result of observing the source of a packet. -/
inductive SourceObservation
  | current
  | probation (observed required : UInt8)
  | bound
  | switched
  | rejected

/-- A source on probation. -/
structure SourceCandidate where
  ssrc : UInt32
  lastSequence : UInt16
  sequential : UInt8

/-- The source of an inbound stream. -/
structure RemoteSourceTracker where
  policy : SourcePolicy
  active : Option UInt32
  candidate : Option SourceCandidate

namespace RemoteSourceTracker

/-- A source that signaling may have named. -/
def new (expectedSsrc : Option UInt32) (policy : SourcePolicy) : RemoteSourceTracker where
  policy := policy
  active := expectedSsrc
  candidate := none

/-- Packets of a source in a row, with one more. -/
def sequential (tracker : RemoteSourceTracker) (ssrc : UInt32) (sequence : UInt16) : UInt8 :=
  match tracker.candidate with
  | some candidate =>
    if candidate.ssrc = ssrc ∧ candidate.lastSequence + 1 = sequence then
      min (saturatingNext8 candidate.sequential) tracker.policy.probationPackets
    else 1
  | none => 1

/-- Observe the source and the sequence number of a packet. -/
def observe (tracker : RemoteSourceTracker) (ssrc : UInt32) (sequence : UInt16) :
    RemoteSourceTracker × SourceObservation :=
  if tracker.active = some ssrc then
    ({ tracker with candidate := none }, .current)
  else if tracker.active.isSome ∧ ¬tracker.policy.allowProbationarySwitch then
    (tracker, .rejected)
  else
    let sequential := tracker.sequential ssrc sequence
    if sequential < tracker.policy.probationPackets then
      ({ tracker with candidate := some ⟨ssrc, sequence, sequential⟩ },
        .probation sequential tracker.policy.probationPackets)
    else
      ({ tracker with active := some ssrc, candidate := none },
        if tracker.active.isSome then .switched else .bound)

/-- Take a source that signaling named, and tell whether it is another one. -/
def authorize (tracker : RemoteSourceTracker) (ssrc : UInt32) : RemoteSourceTracker × Bool :=
  if tracker.active = some ssrc then ({ tracker with candidate := none }, false)
  else ({ tracker with active := some ssrc, candidate := none }, true)

/-- Forget the source. -/
def clear (tracker : RemoteSourceTracker) : RemoteSourceTracker :=
  { tracker with active := none, candidate := none }

/-- What one observation does to the active source. -/
theorem observe_cases
    (tracker : RemoteSourceTracker) (ssrc : UInt32) (sequence : UInt16) :
    (tracker.active = some ssrc ∧ (tracker.observe ssrc sequence).1.active = some ssrc ∧
        (tracker.observe ssrc sequence).2 = .current) ∨
      ((tracker.observe ssrc sequence).1.active = tracker.active ∧
        ((tracker.observe ssrc sequence).2 = .rejected ∨ ∃ observed required,
            (tracker.observe ssrc sequence).2 = .probation observed required)) ∨
      (tracker.active = none ∧ (tracker.observe ssrc sequence).1.active = some ssrc ∧
        (tracker.observe ssrc sequence).2 = .bound) ∨
      ((tracker.observe ssrc sequence).1.active = some ssrc ∧
        (tracker.observe ssrc sequence).2 = .switched) := by
  rw [observe]
  by_cases current : tracker.active = some ssrc
  · left
    simp [current]
  · by_cases fixed : tracker.active.isSome ∧ ¬tracker.policy.allowProbationarySwitch
    · right; left
      rw [if_neg current, if_pos fixed]
      exact ⟨rfl, .inl rfl⟩
    · rw [if_neg current, if_neg fixed]
      by_cases waiting : tracker.sequential ssrc sequence < tracker.policy.probationPackets
      · right; left
        rw [if_pos waiting]
        exact ⟨rfl, .inr ⟨_, _, rfl⟩⟩
      · right; right
        rw [if_neg waiting]
        cases active : tracker.active with
        | none => exact .inl ⟨rfl, rfl, rfl⟩
        | some previous => exact .inr ⟨rfl, rfl⟩

end RemoteSourceTracker

/-- The two sockets of a media session. -/
inductive Component
  | rtp
  | rtcp
  deriving DecidableEq

/-- When another endpoint is learned. -/
structure SymmetricConfig where
  initialLatchPackets : UInt8
  portRebindPackets : UInt8
  allowPortRebinding : Bool
  initialLatchPackets_ne : initialLatchPackets ≠ 0
  portRebindPackets_ne : portRebindPackets ≠ 0

/-- Two packets latch an endpoint and three packets move its port. -/
def SymmetricConfig.default : SymmetricConfig where
  initialLatchPackets := 2
  portRebindPackets := 3
  allowPortRebinding := true
  initialLatchPackets_ne := SourcePolicy.default.probationPackets_ne
  portRebindPackets_ne := by decide

/-- Why an endpoint is not learned. -/
inductive SourceRejection
  | addressChange
  | portRebindingDisabled
  deriving DecidableEq

/-- Result of observing the endpoint of a packet. -/
inductive SymmetricObservation
  | current
  | advertised
  | candidate (observed required : UInt8)
  | latched
  | rebound
  | rejected (reason : SourceRejection)
  deriving DecidableEq

/-- Why an endpoint is unusable. -/
inductive SymmetricError
  | zeroInitialLatchThreshold
  | zeroPortRebindThreshold
  | mixedAddressFamilies
  | portZero (component : Component)
  | unspecifiedAddress (component : Component)
  | multicastAddress (component : Component)
  | broadcastAddress (component : Component)
  | sourceAddressFamilyMismatch (component : Component)
  deriving DecidableEq

/-- An endpoint on probation. -/
structure EndpointCandidate where
  source : SocketAddress
  consecutive : UInt8

/-- The endpoint of one component. -/
structure EndpointState where
  advertised : SocketAddress
  learned : Option SocketAddress
  candidate : Option EndpointCandidate

namespace EndpointState

/-- The advertised endpoint. -/
def new (advertised : SocketAddress) : EndpointState := ⟨advertised, none, none⟩

/-- The endpoint to send to. -/
def destination (state : EndpointState) : SocketAddress := state.learned.getD state.advertised

/-- Packets in a row that an endpoint needs, and what completes them. -/
def probation (state : EndpointState) (source : SocketAddress)
    (config : SymmetricConfig) :
    Except SourceRejection (UInt8 × SymmetricObservation) :=
  match state.learned with
  | some current =>
    if source.address ≠ current.address then .error .addressChange
    else if ¬config.allowPortRebinding then .error .portRebindingDisabled
    else .ok (config.portRebindPackets, .rebound)
  | none => .ok (config.initialLatchPackets, .latched)

/-- Observe the endpoint of a valid packet. -/
def observe (state : EndpointState) (source : SocketAddress)
    (config : SymmetricConfig) : EndpointState × SymmetricObservation :=
  if source = state.destination then
    ({ state with candidate := none },
      if state.learned.isSome then .current else .advertised)
  else
    match state.probation source config with
    | .error reason => (state, .rejected reason)
    | .ok (required, completed) =>
      let observed := match state.candidate with
        | some candidate =>
          if candidate.source = source then min (saturatingNext8 candidate.consecutive) required
          else 1
        | none => 1
      if observed < required then
        ({ state with candidate := some ⟨source, observed⟩ }, .candidate observed required)
      else ({ state with learned := some source, candidate := none }, completed)

end EndpointState

/-- The endpoints of a socket pair. -/
structure SymmetricEndpoints where
  config : SymmetricConfig
  rtp : EndpointState
  rtcp : EndpointState

/-- Check that an endpoint can be sent to. -/
def validateEndpoint (endpoint : SocketAddress) (component : Component) :
    Except SymmetricError Unit :=
  if endpoint.port = 0 then .error (.portZero component)
  else if endpoint.address.isUnspecified then .error (.unspecifiedAddress component)
  else if endpoint.address.isMulticast then .error (.multicastAddress component)
  else if endpoint.address = .v4 0xffffffff then .error (.broadcastAddress component)
  else .ok ()

namespace SymmetricEndpoints

/-- The endpoints that signaling advertised. -/
def new (mediaDestination controlDestination : SocketAddress)
    (config : SymmetricConfig) : Except SymmetricError SymmetricEndpoints := do
  validateEndpoint mediaDestination .rtp
  validateEndpoint controlDestination .rtcp
  if mediaDestination.address.isIpv4 ≠ controlDestination.address.isIpv4 then
    .error .mixedAddressFamilies
  else return ⟨config, .new mediaDestination, .new controlDestination⟩

/-- The endpoint of a component. -/
def state (endpoints : SymmetricEndpoints) : Component → EndpointState
  | .rtp => endpoints.rtp
  | .rtcp => endpoints.rtcp

/-- The endpoints with another one for a component. -/
def withState (endpoints : SymmetricEndpoints) (component : Component)
    (state : EndpointState) : SymmetricEndpoints :=
  match component with
  | .rtp => { endpoints with rtp := state }
  | .rtcp => { endpoints with rtcp := state }

/-- Observe the endpoint of a packet that passed all checks. -/
def observeValidatedSource (endpoints : SymmetricEndpoints) (component : Component)
    (source : SocketAddress) :
    Except SymmetricError (SymmetricEndpoints × SymmetricObservation) := do
  validateEndpoint source component
  let state := endpoints.state component
  if source.address.isIpv4 ≠ state.advertised.address.isIpv4 then
    .error (.sourceAddressFamilyMismatch component)
  else
    let (next, observation) := state.observe source endpoints.config
    return (endpoints.withState component next, observation)

/-- The other socket. -/
def otherComponent : Component → Component
  | .rtp => .rtcp
  | .rtcp => .rtp

/-- Take the endpoint that signaling named for a component. -/
def resetComponent (endpoints : SymmetricEndpoints) (component : Component)
    (advertised : SocketAddress) : Except SymmetricError SymmetricEndpoints := do
  validateEndpoint advertised component
  let other := (endpoints.state (otherComponent component)).advertised
  if advertised.address.isIpv4 ≠ other.address.isIpv4 then .error .mixedAddressFamilies
  else return endpoints.withState component (.new advertised)

/-- Take the endpoints that signaling named. -/
def reset (endpoints : SymmetricEndpoints)
    (mediaDestination controlDestination : SocketAddress) :
    Except SymmetricError SymmetricEndpoints := do
  let replacement ← new mediaDestination controlDestination endpoints.config
  return { endpoints with rtp := replacement.rtp, rtcp := replacement.rtcp }

end SymmetricEndpoints
end Rtp
end LiveAISIP
