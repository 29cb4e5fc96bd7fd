import LiveAISIP.Sip.Transport.Connection

/-!
# Reliable drivers

The socket side of a reliable flow, as `sip/transport/service/connection.rs` sees the TCP
and the TLS driver: each owns at most one message and writes it piece by piece.  How far
the operating system and the TLS record layer get with a piece is an input.
-/

namespace LiveAISIP
namespace Sip
namespace Transport

/-- TCP or TLS driver failure on the write side. -/
inductive DriverError
  | emptyMessage
  | messageTooLarge (length maximum : Nat)
  | writeAlreadyPending
  | noWritePending
  | writeSideClosing
  | applicationWritePending
  | send
  | shutdown

/-- How far one attempt to write the rest of a message gets: all of it reaches the kernel,
or some bytes but not all of them.  A socket that would block takes none. -/
inductive WriteAttempt
  | complete
  | short (length : Nat)
  | failed (length : Nat)

/-- How far an attempt to flush or to close gets. -/
inductive Attempt
  | done
  | pending
  | failed

/-- A message that is being written. -/
structure PendingWrite where
  message : Bytes
  offset : Nat

/-- A write attempt as seen by a driver. -/
structure Written where
  /-- What is left to write. -/
  pending : Option PendingWrite
  /-- What reached the kernel. -/
  sent : Bytes
  /-- Whether the message is complete. -/
  result : Except DriverError Bool

namespace PendingWrite

/-- The bytes that have not reached the kernel. -/
def remaining (pending : PendingWrite) : Bytes := pending.message.drop pending.offset

/-- The bytes that have. -/
def sent (pending : PendingWrite) : Bytes := pending.message.take pending.offset

/-- Some bytes more, but not all of them. -/
def advance (pending : PendingWrite) (length : Nat) : PendingWrite :=
  { pending with offset := pending.offset + min length (pending.remaining.length - 1) }

/-- One write attempt for the retained message. -/
def write (pending : PendingWrite) : WriteAttempt → Written
  | .complete => ⟨none, pending.remaining, .ok true⟩
  | .short length =>
    ⟨some (pending.advance length),
      pending.remaining.take (min length (pending.remaining.length - 1)), .ok false⟩
  | .failed length =>
    ⟨some (pending.advance length),
      pending.remaining.take (min length (pending.remaining.length - 1)), .error .send⟩

end PendingWrite

/-- Established TCP flow. -/
structure TcpDriver where
  flowId : FlowId
  peer : SocketAddress
  pendingWrite : Option PendingWrite

/-- Established TLS flow. -/
structure TlsDriver where
  flowId : FlowId
  peer : SocketAddress
  verifiedPeerIdentity : TlsIdentity
  pendingWrite : Option PendingWrite
  closeNotifyStarted : Bool
  writeShutdown : Bool

/-- Progress while a drained flow is closed. -/
inductive ServiceShutdownProgress
  | pending
  | complete

/-- The driver of an attached flow. -/
inductive ReliableDriver
  | tcp (driver : TcpDriver)
  | tls (driver : TlsDriver)

namespace ReliableDriver

/-- The protocol of the flow. -/
def protocol : ReliableDriver → Protocol
  | tcp _ => .tcp
  | tls _ => .tls

/-- The identity of the flow. -/
def flowId : ReliableDriver → FlowId
  | tcp driver => driver.flowId
  | tls driver => driver.flowId

/-- The remote address. -/
def peerAddr : ReliableDriver → SocketAddress
  | tcp driver => driver.peer
  | tls driver => driver.peer

/-- The message that the driver has begun to write. -/
def pendingWrite : ReliableDriver → Option PendingWrite
  | tcp driver => driver.pendingWrite
  | tls driver => driver.pendingWrite

/-- Put another message in the place of the one that is being written. -/
def withPending (driver : ReliableDriver) (pending : Option PendingWrite) : ReliableDriver :=
  match driver with
  | tcp driver => tcp { driver with pendingWrite := pending }
  | tls driver => tls { driver with pendingWrite := pending }

/-- An application message awaits the socket.  TCP counts the bytes that are left, TLS
looks for the message. -/
def hasPendingWrite : ReliableDriver → Bool
  | tcp driver =>
    (driver.pendingWrite.map fun pending =>
      pending.message.length - pending.offset).getD 0 != 0
  | tls driver => driver.pendingWrite.isSome

/-- The TLS write side has begun to close. -/
def closing : ReliableDriver → Bool
  | tcp _ => false
  | tls driver => driver.closeNotifyStarted

/-- Flush records of the transport itself; TCP has none. -/
def flushTransport : ReliableDriver → Attempt → Except DriverError Bool
  | tcp _, _ => .ok true
  | tls _, .done => .ok true
  | tls _, .pending => .ok false
  | tls _, .failed => .error .send

/-- Continue with the retained message. -/
def flushSend (driver : ReliableDriver) (attempt : WriteAttempt) :
    ReliableDriver × Bytes × Except DriverError Bool :=
  match driver.pendingWrite with
  | none => (driver, [], .error .noWritePending)
  | some pending =>
    let written := pending.write attempt
    (driver.withPending written.pending, written.sent, written.result)

/-- Begin a message. -/
def startSend (driver : ReliableDriver) (message : Bytes) (attempt : WriteAttempt) :
    ReliableDriver × Bytes × Except DriverError Bool :=
  if driver.closing then
    (driver, [], .error .writeSideClosing)
  else if driver.pendingWrite.isSome then
    (driver, [], .error .writeAlreadyPending)
  else if message = [] then
    (driver, [], .error .emptyMessage)
  else if Framing.maxMessageBytes < message.length then
    (driver, [], .error (.messageTooLarge message.length Framing.maxMessageBytes))
  else
    (driver.withPending (some ⟨message, 0⟩)).flushSend attempt

/-- Close the flow: TCP at once, TLS with a `close_notify` that may have to wait. -/
def shutdown (driver : ReliableDriver) (attempt : Attempt) :
    ReliableDriver × Except DriverError ServiceShutdownProgress :=
  match driver, attempt with
  | tcp _, .done => (driver, .ok .complete)
  | tcp _, .pending | tcp _, .failed => (driver, .error .shutdown)
  | tls state, attempt =>
    if state.pendingWrite.isSome then
      (driver, .error .applicationWritePending)
    else if state.writeShutdown then
      (driver, .ok .complete)
    else
      let begun := { state with closeNotifyStarted := true }
      match attempt with
      | .done => (tls { begun with writeShutdown := true }, .ok .complete)
      | .pending => (tls begun, .ok .pending)
      | .failed => (tls begun, .error .shutdown)

@[simp] theorem flowId_withPending (driver : ReliableDriver) (pending : Option PendingWrite) :
    (driver.withPending pending).flowId = driver.flowId := by
  cases driver <;> rfl

@[simp] theorem pendingWrite_withPending
    (driver : ReliableDriver) (pending : Option PendingWrite) :
    (driver.withPending pending).pendingWrite = pending := by
  cases driver <;> rfl

@[simp] theorem flowId_flushSend (driver : ReliableDriver) (attempt : WriteAttempt) :
    (driver.flushSend attempt).1.flowId = driver.flowId := by
  unfold flushSend
  split
  · rfl
  · exact driver.flowId_withPending _

@[simp] theorem flowId_startSend
    (driver : ReliableDriver) (message : Bytes) (attempt : WriteAttempt) :
    (driver.startSend message attempt).1.flowId = driver.flowId := by
  unfold startSend
  split_ifs <;> simp

@[simp] theorem flowId_shutdown (driver : ReliableDriver) (attempt : Attempt) :
    (driver.shutdown attempt).1.flowId = driver.flowId := by
  unfold shutdown
  split
  · rfl
  · rfl
  · rfl
  · split_ifs
    · rfl
    · rfl
    · split <;> rfl

end ReliableDriver
end Transport
end Sip
end LiveAISIP
