import LiveAISIP.Net.Address
import LiveAISIP.Sip.Framing

/-!
# Reliable connections

Destinations and connections of `sip/transport/model`.  A connection has a nonzero
identity, a lifecycle that only moves forward, and a queue of complete messages that is
bounded in messages and in bytes.
-/

namespace LiveAISIP
namespace Sip
namespace Transport

/-- SIP signaling transport protocol. -/
inductive Protocol
  | udp
  | tcp
  | tls
  deriving DecidableEq

/-- Certificate identity for an outbound TLS connection. -/
inductive TlsIdentity
  | dns (name : String)
  | ip (address : IpAddress)
  deriving DecidableEq

/-- Concrete outbound SIP destination. -/
structure Destination where
  protocol : Protocol
  remote : SocketAddress
  tlsIdentity : Option TlsIdentity
  deriving DecidableEq

/-- Hard upper bound for queued messages on one connection. -/
def maxConnectionQueueMessages : Nat := 4096

/-- Hard upper bound for queued bytes on one connection. -/
def maxConnectionQueueBytes : Nat := 16 * 1024 * 1024

/-- Reliable connection lifecycle state. -/
inductive ConnectionState
  | connecting
  | established
  | draining
  | closed
  deriving DecidableEq

/-- Failure in reliable connection state or admission. -/
inductive ConnectionError
  | zeroConnectionId
  | invalidMessageLimit (value maximum : Nat)
  | invalidByteLimit (value maximum : Nat)
  | datagramDestination
  | invalidTransition (source target : ConnectionState)
  | notWritable (state : ConnectionState)
  | emptyMessage
  | messageTooLarge (length maximum : Nat)
  | queueMessageLimit (maximum : Nat)
  | queueByteLimit (maximum : Nat)
  | allocationFailed

/-- Stable nonzero identity for one connection generation. -/
@[ext] structure ConnectionId where
  get : UInt64
  nonzero : get ≠ 0
  deriving DecidableEq

/-- Create a connection identity. -/
def ConnectionId.new (value : UInt64) : Except ConnectionError ConnectionId :=
  if nonzero : value ≠ 0 then .ok ⟨value, nonzero⟩ else .error .zeroConnectionId

/-- Opaque nonzero identity of one established connection. -/
structure FlowId where
  get : UInt64
  nonzero : get ≠ 0
  deriving DecidableEq

/-- The flow of a connection. -/
def flowId (id : ConnectionId) : FlowId := ⟨id.get, id.nonzero⟩

/-- Configured outbound queue limits. -/
structure QueueLimits where
  messages : Nat
  bytes : Nat

/-- Validate both nonzero limits against hard safety ceilings. -/
def QueueLimits.validate (limits : QueueLimits) : Except ConnectionError Unit :=
  if limits.messages = 0 ∨ maxConnectionQueueMessages < limits.messages then
    .error (.invalidMessageLimit limits.messages maxConnectionQueueMessages)
  else if limits.bytes = 0 ∨ maxConnectionQueueBytes < limits.bytes then
    .error (.invalidByteLimit limits.bytes maxConnectionQueueBytes)
  else
    .ok ()

/-- Reliable SIP connection metadata and bounded outbound queue. -/
structure Connection where
  id : ConnectionId
  destination : Destination
  state : ConnectionState
  limits : QueueLimits
  queuedBytes : Nat
  queue : List Bytes

namespace Connection

variable {connection : Connection}

/-- Connecting state with an empty bounded queue. -/
def new (id : ConnectionId) (destination : Destination) (limits : QueueLimits) :
    Except ConnectionError Connection :=
  match limits.validate with
  | .error error => .error error
  | .ok () =>
    if destination.protocol = .udp then .error .datagramDestination
    else .ok ⟨id, destination, .connecting, limits, 0, []⟩

/-- The lifecycle permits this move. -/
def permits : ConnectionState → ConnectionState → Bool
  | .connecting, .established | .connecting, .closed => true
  | .established, .draining | .established, .closed => true
  | .draining, .closed => true
  | _, _ => false

/-- Move the lifecycle forward. -/
def transition (connection : Connection) (next : ConnectionState) :
    Except ConnectionError Connection :=
  if permits connection.state next then .ok { connection with state := next }
  else .error (.invalidTransition connection.state next)

/-- Queue one complete serialized SIP message. -/
def enqueue
    (connection : Connection) (message : Bytes) (granted : Bool) :
    Except ConnectionError Connection :=
  if connection.state ≠ .established then
    .error (.notWritable connection.state)
  else if message = [] then
    .error .emptyMessage
  else if Framing.maxMessageBytes < message.length then
    .error (.messageTooLarge message.length Framing.maxMessageBytes)
  else if connection.limits.messages ≤ connection.queue.length then
    .error (.queueMessageLimit connection.limits.messages)
  else if connection.limits.bytes < connection.queuedBytes + message.length then
    .error (.queueByteLimit connection.limits.bytes)
  else if ¬granted then
    .error .allocationFailed
  else
    .ok { connection with
      queue := connection.queue ++ [message]
      queuedBytes := connection.queuedBytes + message.length }

/-- Remove the oldest queued message. -/
def popFront (connection : Connection) : Connection × Option Bytes :=
  match connection.queue with
  | [] => (connection, none)
  | message :: queue =>
    ({ connection with
        queue := queue
        queuedBytes := connection.queuedBytes - message.length }, some message)

/-- What the beginning of a shutdown does to a connection. -/
def beginShutdown (connection : Connection) : Connection :=
  match connection.state with
  | .connecting => { connection with state := .closed }
  | .established => { connection with state := .draining }
  | .draining | .closed => connection

theorem new_eq_ok
    {id : ConnectionId}
    {destination : Destination}
    {limits : QueueLimits}
    (created : new id destination limits = .ok connection) :
    connection = ⟨id, destination, .connecting, limits, 0, []⟩ := by
  unfold new at created
  split at created
  · cases created
  · split_ifs at created
    cases created
    rfl

theorem transition_eq_ok
    {moved : Connection} {next : ConnectionState}
    (transitioned : connection.transition next = .ok moved) :
    moved = { connection with state := next } := by
  unfold transition at transitioned
  split_ifs at transitioned
  cases transitioned
  rfl

/-- An admitted message is the last of the queue of an established connection. -/
theorem enqueue_eq_ok
    {queued : Connection} {message : Bytes} {granted : Bool}
    (admitted : connection.enqueue message granted = .ok queued) :
    connection.state = .established ∧
      queued = { connection with
        queue := connection.queue ++ [message]
        queuedBytes := connection.queuedBytes + message.length } := by
  unfold enqueue at admitted
  split_ifs at admitted with state
  cases admitted
  exact ⟨not_not.mp state, rfl⟩

/-- A message taken off the queue leaves everything else of a connection. -/
theorem popFront_spec (connection : Connection) : connection.popFront.1.id = connection.id ∧
      connection.popFront.1.destination = connection.destination ∧
      connection.popFront.1.state = connection.state ∧
      connection.popFront.2.toList ++ connection.popFront.1.queue = connection.queue := by
  unfold popFront
  split
  · next empty => simp [empty]
  · next message queue content => simp [content]

theorem beginShutdown_spec (connection : Connection) : connection.beginShutdown.id = connection.id ∧
      connection.beginShutdown.destination = connection.destination ∧
      connection.beginShutdown.queue = connection.queue := by
  unfold beginShutdown
  split <;> exact ⟨rfl, rfl, rfl⟩

end Connection
end Transport
end Sip
end LiveAISIP
