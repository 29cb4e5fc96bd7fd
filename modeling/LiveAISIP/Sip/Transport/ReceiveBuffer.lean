import LiveAISIP.Library.Run
import LiveAISIP.Sip.Framing

/-!
# The receive buffer of a TCP flow

`sip/transport/tcp/config.rs`: bytes are appended as they are read and complete messages
are taken from the front.  What was taken stays in the buffer until a compaction seems
worthwhile.  The stream that the buffer stands for has neither an offset nor compactions:
it is the bytes that were accepted, and how many of them were consumed.
-/

namespace LiveAISIP
namespace Sip
namespace Transport

open Framing
open List

/-- Default buffered unread bytes per TCP connection. -/
def defaultTcpBufferBytes : Nat := 2 * maxMessageBytes

/-- Hard maximum buffered unread bytes per TCP connection. -/
def maxTcpBufferBytes : Nat := 4 * maxMessageBytes

/-- The length of a consumed part that is always worth a compaction. -/
def compactionThreshold : Nat := 64 * 1024

/-- Failure in TCP receive buffering or stream framing. -/
inductive TcpError
  | invalidBufferLimit (value minimum maximum : Nat)
  | bufferLimit (attempted maximum : Nat)
  | framing (error : Framing.Error)
  | internalBoundary
  deriving DecidableEq

/-- Incremental bounded TCP receive buffer. -/
structure ReceiveBuffer where
  bytes : Bytes
  offset : Nat
  maximum : Nat
  within : offset ≤ bytes.length
  holdsMessage : maxMessageBytes ≤ maximum
  underCeiling : maximum ≤ maxTcpBufferBytes

/-- A complete message of a stream ends where its consumed bytes do, within the input. -/
theorem boundary_of_inspect
    {input : Bytes} {boundary : Boundary}
    (inspected : inspect input .stream = .ok (.complete boundary)) :
    boundary.messageRange.2 = boundary.consumedBytes ∧ boundary.consumedBytes ≤ input.length := by
  unfold inspect at inspected
  dsimp only at inspected
  split_ifs at inspected with ended
  · simp [incomplete] at inspected
  split at inspected
  · cases inspected
  · cases inspected
  · next headers scanned =>
    unfold inspectStream at inspected
    split at inspected
    · cases inspected
    · next bodyBytes declared =>
      split at inspected
      · cases inspected
      · dsimp only at inspected
        split_ifs at inspected with short
        · cases inspected
        · cases inspected
          refine ⟨?_, Nat.not_lt.mp short⟩
          simp only [Boundary.messageRange]
          omega

namespace ReceiveBuffer

theorem within_nil : 0 ≤ ([] : Bytes).length := Nat.le_refl _

theorem holdsMessage_of_accepted
    (maximum : Nat) (accepted : maxMessageBytes ≤ maximum ∧ maximum ≤ maxTcpBufferBytes) :
    maxMessageBytes ≤ maximum := accepted.1

theorem underCeiling_of_accepted
    (maximum : Nat) (accepted : maxMessageBytes ≤ maximum ∧ maximum ≤ maxTcpBufferBytes) :
    maximum ≤ maxTcpBufferBytes := accepted.2

/-- A receive buffer with a validated unread-byte limit. -/
def new (maximum : Nat) : Except TcpError ReceiveBuffer :=
  if accepted : maxMessageBytes ≤ maximum ∧ maximum ≤ maxTcpBufferBytes then
    .ok ⟨[], 0, maximum, within_nil, holdsMessage_of_accepted maximum accepted,
      underCeiling_of_accepted maximum accepted⟩
  else
    .error (.invalidBufferLimit maximum maxMessageBytes maxTcpBufferBytes)

/-- The bytes that were not consumed. -/
def unread (buffer : ReceiveBuffer) : Bytes := buffer.bytes.drop buffer.offset

/-- The number of unread bytes. -/
def len (buffer : ReceiveBuffer) : Nat := buffer.bytes.length - buffer.offset

/-- No unread bytes remain. -/
def isEmpty (buffer : ReceiveBuffer) : Bool := buffer.len == 0

/-- Remove the consumed bytes where that is worthwhile. -/
def compactIfWorthwhile (buffer : ReceiveBuffer) : ReceiveBuffer :=
  if buffer.offset ≠ 0 ∧
      (buffer.bytes.length / 2 ≤ buffer.offset ∨ compactionThreshold ≤ buffer.offset) then
    { buffer with bytes := buffer.bytes.drop buffer.offset, offset := 0, within := by simp }
  else
    buffer

/-- Append the bytes of one socket read. -/
def append (buffer : ReceiveBuffer) (input : Bytes) : ReceiveBuffer × Except TcpError Unit :=
  let attempted := buffer.len + input.length
  if buffer.maximum < attempted then
    (buffer, .error (.bufferLimit attempted buffer.maximum))
  else
    let compacted := buffer.compactIfWorthwhile
    ({ compacted with
        bytes := compacted.bytes ++ input
        within := by
          rw [length_append]
          exact Nat.le_trans compacted.within (Nat.le_add_right _ _) }, .ok ())

/-- The buffer once the bytes of a message were consumed. -/
def consume
    (buffer : ReceiveBuffer) (consumed : Nat)
    (arrived : buffer.offset + consumed ≤ buffer.bytes.length) : ReceiveBuffer :=
  let advanced := { buffer with offset := buffer.offset + consumed, within := arrived }
  if advanced.offset = advanced.bytes.length then
    { buffer with bytes := [], offset := 0, within := Nat.le_refl _ }
  else
    advanced.compactIfWorthwhile

/-- A complete message at the front of the unread bytes is in the buffer. -/
theorem arrived_of_inspect
    {buffer : ReceiveBuffer} {boundary : Boundary}
    (inspected : inspect buffer.unread .stream = .ok (.complete boundary)) :
    buffer.offset + boundary.consumedBytes ≤ buffer.bytes.length := by
  have inside := (boundary_of_inspect inspected).2
  have := buffer.within
  rw [unread, length_drop] at inside
  omega

/-- Extract the next complete message, if available. -/
def nextMessage (buffer : ReceiveBuffer) : ReceiveBuffer × Except TcpError (Option Bytes) :=
  match inspected : inspect buffer.unread .stream with
  | .error error => (buffer, .error (.framing error))
  | .ok (.needMoreData _) => (buffer, .ok none)
  | .ok (.complete boundary) =>
    if boundary.messageRange.2 ≤ buffer.unread.length then
      (buffer.consume boundary.consumedBytes (arrived_of_inspect inspected),
        .ok (some (slice buffer.unread boundary.messageRange)))
    else
      (buffer, .error .internalBoundary)

end ReceiveBuffer

/-- A call on a receive buffer. -/
inductive ReceiveCall
  | append (chunk : Bytes)
  | nextMessage

/-- What a call returned. -/
inductive ReceiveResult
  | append (result : Except TcpError Unit)
  | nextMessage (result : Except TcpError (Option Bytes))
  deriving DecidableEq

/-- One call on a receive buffer. -/
def ReceiveBuffer.step (buffer : ReceiveBuffer) : ReceiveCall → ReceiveBuffer × ReceiveResult
  | .append chunk => ((buffer.append chunk).1, .append (buffer.append chunk).2)
  | .nextMessage => (buffer.nextMessage.1, .nextMessage buffer.nextMessage.2)

/-- The bytes that were accepted and how many of them were consumed. -/
structure ReceivedStream where
  received : Bytes
  consumed : Nat

namespace ReceivedStream

/-- What the stream holds beyond the consumed bytes. -/
def rest (stream : ReceivedStream) : Bytes := stream.received.drop stream.consumed

/-- One call, as the stream and the limit on its unread part determine it. -/
def step (maximum : Nat) (stream : ReceivedStream) : ReceiveCall → ReceivedStream × ReceiveResult
  | .append chunk =>
    let attempted := stream.rest.length + chunk.length
    if attempted ≤ maximum then
      ({ stream with received := stream.received ++ chunk }, .append (.ok ()))
    else
      (stream, .append (.error (.bufferLimit attempted maximum)))
  | .nextMessage =>
    match inspect stream.rest .stream with
    | .error error => (stream, .nextMessage (.error (.framing error)))
    | .ok (.needMoreData _) => (stream, .nextMessage (.ok none))
    | .ok (.complete boundary) =>
      ({ stream with consumed := stream.consumed + boundary.consumedBytes },
        .nextMessage (.ok (some (slice stream.rest boundary.messageRange))))

end ReceivedStream

namespace ReceiveBuffer

variable {buffer : ReceiveBuffer} {stream : ReceivedStream}

variable {maximum : Nat}

/-- The buffer holds what the stream holds beyond its consumed bytes. -/
structure Stands (maximum : Nat) (buffer : ReceiveBuffer) (stream : ReceivedStream) : Prop where
  limit : buffer.maximum = maximum
  unread : buffer.unread = stream.rest
  consumed : stream.consumed ≤ stream.received.length
  stored : buffer.bytes.length ≤ maximum + compactionThreshold

@[simp] theorem length_unread (buffer : ReceiveBuffer) : buffer.unread.length = buffer.len := by
  simp [unread, len]

/-- A compaction keeps the unread bytes; without one, little was consumed. -/
theorem compactIfWorthwhile_spec (buffer : ReceiveBuffer) :
    buffer.compactIfWorthwhile.unread = buffer.unread ∧
      buffer.compactIfWorthwhile.maximum = buffer.maximum ∧
      buffer.compactIfWorthwhile.bytes.length ≤ buffer.bytes.length ∧
      buffer.compactIfWorthwhile.offset < compactionThreshold := by
  unfold compactIfWorthwhile
  split_ifs with worthwhile
  · refine ⟨by simp [unread], rfl, ?_, ?_⟩
    · simp only [length_drop]
      omega
    · simp only [compactionThreshold]
      omega
  · refine ⟨rfl, rfl, Nat.le_refl _, ?_⟩
    by_contra large
    have past := Nat.not_lt.mp large
    refine worthwhile ⟨?_, .inr past⟩
    simp only [compactionThreshold] at past
    omega

/-- A refused append changes nothing. -/
theorem append_of_error {input : Bytes} {error : TcpError}
    (refused : (buffer.append input).2 = .error error) : (buffer.append input).1 = buffer := by
  unfold append at refused ⊢
  dsimp only at refused ⊢
  split_ifs at refused ⊢
  rfl

/-- An accepted append adds its bytes to the unread ones. -/
theorem unread_append {input : Bytes} (accepted : (buffer.append input).2 = .ok ()) :
    (buffer.append input).1.unread = buffer.unread ++ input ∧
      (buffer.append input).1.maximum = buffer.maximum := by
  obtain ⟨kept, limit, -, -⟩ := compactIfWorthwhile_spec buffer
  unfold append at accepted ⊢
  dsimp only at accepted ⊢
  split_ifs at accepted ⊢
  refine ⟨?_, limit⟩
  rw [← kept, unread, unread, drop_append_of_le_length buffer.compactIfWorthwhile.within]

theorem stands_append (stands : Stands maximum buffer stream) (chunk : Bytes) :
    ReceiveResult.append (buffer.append chunk).2 = (stream.step maximum (.append chunk)).2 ∧
      Stands maximum (buffer.append chunk).1 (stream.step maximum (.append chunk)).1 := by
  obtain ⟨limit, unread, consumed, stored⟩ := stands
  have length : stream.rest.length = buffer.len := by rw [← unread, length_unread]
  obtain ⟨kept, keptLimit, -, early⟩ := compactIfWorthwhile_spec buffer
  unfold append ReceivedStream.step
  dsimp only
  rw [limit, length]
  by_cases room : buffer.len + chunk.length ≤ maximum
  · rw [if_neg (Nat.not_lt.mpr room), if_pos room]
    refine ⟨rfl, keptLimit.trans limit, ?_, ?_, ?_⟩
    · have inside := buffer.compactIfWorthwhile.within
      simp only [ReceiveBuffer.unread, ReceivedStream.rest] at kept unread ⊢
      rw [drop_append_of_le_length inside, drop_append_of_le_length consumed, kept, unread]
    · dsimp only
      rw [length_append]
      omega
    · have keptLength := congrArg List.length kept
      rw [length_unread, length_unread, len] at keptLength
      rw [length_append]
      omega
  · rw [if_pos (Nat.lt_of_not_le room), if_neg room]
    exact ⟨rfl, limit, unread, consumed, stored⟩

/-- The bytes of a message are taken from the front of the unread ones. -/
theorem consume_spec
    (buffer : ReceiveBuffer) (consumed : Nat)
    (arrived : buffer.offset + consumed ≤ buffer.bytes.length) :
    (buffer.consume consumed arrived).unread = buffer.unread.drop consumed ∧
      (buffer.consume consumed arrived).maximum = buffer.maximum ∧
      (buffer.consume consumed arrived).bytes.length ≤ buffer.bytes.length := by
  unfold consume
  dsimp only
  split_ifs with all
  · refine ⟨?_, rfl, Nat.zero_le _⟩
    rw [unread, unread, drop_drop, drop_of_length_le (Nat.le_of_eq all.symm)]
    rfl
  · obtain ⟨kept, limit, shorter, -⟩ := compactIfWorthwhile_spec
      { buffer with offset := buffer.offset + consumed, within := arrived }
    refine ⟨?_, limit, shorter⟩
    rw [kept, unread, unread, drop_drop]

theorem nextMessage_of_error {error : Framing.Error}
    (inspected : inspect buffer.unread .stream = .error error) :
    buffer.nextMessage = (buffer, .error (.framing error)) := by
  unfold nextMessage
  split <;> simp_all

theorem nextMessage_of_needMoreData {required : Option Nat}
    (inspected : inspect buffer.unread .stream = .ok (.needMoreData required)) :
    buffer.nextMessage = (buffer, .ok none) := by
  unfold nextMessage
  split <;> simp_all

theorem nextMessage_of_complete {boundary : Boundary}
    (inspected : inspect buffer.unread .stream = .ok (.complete boundary)) :
    buffer.nextMessage = (buffer.consume boundary.consumedBytes (arrived_of_inspect inspected),
        .ok (some (slice buffer.unread boundary.messageRange))) := by
  obtain ⟨ends, inside⟩ := boundary_of_inspect inspected
  unfold nextMessage
  split
  · next error other => cases inspected.symm.trans other
  · next required other => cases inspected.symm.trans other
  · next found other =>
    cases inspected.symm.trans other
    rw [if_pos (ends ▸ inside)]

theorem stands_nextMessage (stands : Stands maximum buffer stream) :
    ReceiveResult.nextMessage buffer.nextMessage.2 = (stream.step maximum .nextMessage).2 ∧
      Stands maximum buffer.nextMessage.1 (stream.step maximum .nextMessage).1 := by
  have step : stream.step maximum .nextMessage =
      match inspect buffer.unread .stream with
      | .error error => (stream, .nextMessage (.error (.framing error)))
      | .ok (.needMoreData _) => (stream, .nextMessage (.ok none))
      | .ok (.complete boundary) =>
        ({ stream with consumed := stream.consumed + boundary.consumedBytes },
          .nextMessage (.ok (some (slice buffer.unread boundary.messageRange)))) := by
    rw [stands.unread]
    rfl
  rcases inspected : inspect buffer.unread .stream with error | (required | boundary)
  · rw [nextMessage_of_error inspected, step, inspected]
    exact ⟨rfl, stands⟩
  · rw [nextMessage_of_needMoreData inspected, step, inspected]
    exact ⟨rfl, stands⟩
  · rw [nextMessage_of_complete inspected, step, inspected]
    obtain ⟨left, limit, shorter⟩ :=
      consume_spec buffer boundary.consumedBytes (arrived_of_inspect inspected)
    have inside := (boundary_of_inspect inspected).2
    refine ⟨rfl, limit.trans stands.limit, ?_, ?_, Nat.le_trans shorter stands.stored⟩
    · rw [left, stands.unread, ReceivedStream.rest, ReceivedStream.rest, drop_drop]
    · rw [stands.unread, ReceivedStream.rest, length_drop] at inside
      have := stands.consumed
      dsimp only
      omega

theorem stands_step (buffer : ReceiveBuffer) (stream : ReceivedStream) (call : ReceiveCall)
    (stands : Stands maximum buffer stream) :
    (buffer.step call).2 = (stream.step maximum call).2 ∧
      Stands maximum (buffer.step call).1 (stream.step maximum call).1 := by
  cases call with
  | append chunk => exact stands_append stands chunk
  | nextMessage => exact stands_nextMessage stands

/-- A compacted buffer stands for the same stream. -/
theorem Stands.compact (stands : Stands maximum buffer stream) :
    Stands maximum buffer.compactIfWorthwhile stream := by
  obtain ⟨kept, limit, shorter, -⟩ := compactIfWorthwhile_spec buffer
  exact ⟨limit.trans stands.limit, kept.trans stands.unread, stands.consumed,
    Nat.le_trans shorter stands.stored⟩

theorem stands_new (accepted : new maximum = .ok buffer) :
    Stands maximum buffer ⟨[], 0⟩ := by
  unfold new at accepted
  split_ifs at accepted
  cases accepted
  exact ⟨rfl, rfl, Nat.le_refl _, Nat.zero_le _⟩

/-- Every buffer that is accepted returns on every list of calls what the stream of its
accepted bytes determines, holds the unread part of it and little more, is not changed
by a refused append, and goes on in the same way when it is compacted. -/
theorem refines_stream
    {maximum : Nat} {buffer : ReceiveBuffer} (accepted : new maximum = .ok buffer)
    (calls : List ReceiveCall) :
    Run.outputs step buffer calls = Run.outputs (ReceivedStream.step maximum) ⟨[], 0⟩ calls ∧
      (Run.after step buffer calls).unread =
        (Run.after (ReceivedStream.step maximum) ⟨[], 0⟩ calls).rest ∧
      (Run.after step buffer calls).bytes.length ≤ maximum + 64 * 1024 ∧
      (∀ chunk error, ((Run.after step buffer calls).append chunk).2 = .error error →
        ((Run.after step buffer calls).append chunk).1 = Run.after step buffer calls) ∧
      ∀ more, Run.outputs step (Run.after step buffer calls).compactIfWorthwhile more =
        Run.outputs step (Run.after step buffer calls) more := by
  obtain ⟨same, stands⟩ := Run.simulation (Stands maximum) stands_step (stands_new accepted) calls
  refine ⟨same, stands.unread, stands.stored, fun chunk error => append_of_error, fun more => ?_⟩
  have compacted := (Run.simulation (Stands maximum) stands_step stands.compact more).1
  have uncompacted := (Run.simulation (Stands maximum) stands_step stands more).1
  exact compacted.trans uncompacted.symm

/-- An empty buffer of the smallest accepted size. -/
def smallest : ReceiveBuffer := ⟨[], 0, maxMessageBytes, Nat.le_refl _, Nat.le_refl _, by decide⟩

/-- A keep-alive, a message and the beginning of another. -/
def sampleCalls : List ReceiveCall :=
  [.append (wireBytes "\r\nA\r\nl:0\r\n"), .nextMessage, .append (wireBytes "\r\nB"),
    .nextMessage, .nextMessage]

theorem refines_stream_sampleCalls :
    Run.outputs step smallest sampleCalls =
        [.append (.ok ()), .nextMessage (.ok none), .append (.ok ()),
          .nextMessage (.ok (some (wireBytes "A\r\nl:0\r\n\r\n"))), .nextMessage (.ok none)] ∧
      (Run.after step smallest sampleCalls).unread = wireBytes "B" := by
  have accepted : new maxMessageBytes = .ok smallest := rfl
  have refines := refines_stream accepted sampleCalls
  exact ⟨refines.1.trans (by decide +kernel), refines.2.1.trans (by decide +kernel)⟩

end ReceiveBuffer
end Transport
end Sip
end LiveAISIP
