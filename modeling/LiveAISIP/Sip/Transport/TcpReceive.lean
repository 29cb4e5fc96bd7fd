import LiveAISIP.Sip.FramingChunks
import LiveAISIP.Sip.Transport.ReceiveBuffer
import LiveAISIP.Transaction.Timer

/-!
# Receiving from a TCP flow

The read side of `sip/transport/tcp/driver.rs`.  A call takes a complete message from the
receive buffer if there is one and otherwise reads on.  A peer that sends keep-alives and
acceptable messages fills the buffer only with what came since the last message that has
ended, and that is what decides whether a read still fits.
-/

namespace LiveAISIP
namespace Sip
namespace Transport

open Crlf Framing Transaction
open List

variable {maximum : Nat}

/-- Default bytes made available to each socket read. -/
def defaultReadChunkBytes : Nat := 16 * 1024

/-- Hard ceiling for one socket read allocation. -/
def maxReadChunkBytes : Nat := 64 * 1024

/-- Default bounded outbound TCP establishment deadline. -/
def defaultConnectTimeout : Duration := Duration.fromSecs 10

/-- Hard ceiling for outbound TCP establishment. -/
def maxConnectTimeout : Duration := Duration.fromSecs 60

/-- Failure of a TCP driver in its policy or on its read side. -/
inductive TcpDriverError
  | invalidReceiveBufferLimit (value minimum maximum : Nat)
  | invalidReadChunkLimit (value maximum : Nat)
  | invalidConnectTimeout
  | receiveBuffer (error : TcpError)
  | receive
  | peerClosed
  | truncatedStream (bufferedBytes : Nat)
  deriving DecidableEq

/-- Validated TCP socket-driver policy. -/
@[ext] structure TcpDriverConfig where
  receiveBufferBytes : Nat
  readChunkBytes : Nat
  connectTimeout : Duration
  nonblocking : Bool
  noDelay : Bool
  holdsMessage : maxMessageBytes ≤ receiveBufferBytes
  underCeiling : receiveBufferBytes ≤ maxTcpBufferBytes
  reads : 0 < readChunkBytes ∧ readChunkBytes ≤ maxReadChunkBytes
  connects : 0 < connectTimeout.asNanos ∧ connectTimeout.asNanos ≤ maxConnectTimeout.asNanos

instance : DecidableEq TcpDriverConfig := fun first second =>
  decidable_of_iff
    (first.receiveBufferBytes = second.receiveBufferBytes ∧
      first.readChunkBytes = second.readChunkBytes ∧
      first.connectTimeout = second.connectTimeout ∧
      first.nonblocking = second.nonblocking ∧ first.noDelay = second.noDelay)
    TcpDriverConfig.ext_iff.symm

namespace TcpDriverConfig

/-- A nonblocking low-latency driver configuration. -/
def new (receiveBufferBytes readChunkBytes : Nat) (connectTimeout : Duration) :
    Except TcpDriverError TcpDriverConfig :=
  if buffer : maxMessageBytes ≤ receiveBufferBytes ∧ receiveBufferBytes ≤ maxTcpBufferBytes then
    if reads : 0 < readChunkBytes ∧ readChunkBytes ≤ maxReadChunkBytes then
      if connects : 0 < connectTimeout.asNanos ∧
          connectTimeout.asNanos ≤ maxConnectTimeout.asNanos then
        .ok ⟨receiveBufferBytes, readChunkBytes, connectTimeout, true, true,
          ReceiveBuffer.holdsMessage_of_accepted receiveBufferBytes buffer,
          ReceiveBuffer.underCeiling_of_accepted receiveBufferBytes buffer, reads, connects⟩
      else
        .error .invalidConnectTimeout
    else
      .error (.invalidReadChunkLimit readChunkBytes maxReadChunkBytes)
  else
    .error (.invalidReceiveBufferLimit receiveBufferBytes maxMessageBytes maxTcpBufferBytes)

/-- The default policy. -/
def default : TcpDriverConfig where
  receiveBufferBytes := defaultTcpBufferBytes
  readChunkBytes := defaultReadChunkBytes
  connectTimeout := defaultConnectTimeout
  nonblocking := true
  noDelay := true
  holdsMessage := by decide
  underCeiling := by decide
  reads := by decide
  connects := by decide

/-- The receive buffer that a driver of this policy begins with. -/
def receiveBuffer (config : TcpDriverConfig) : ReceiveBuffer :=
  ⟨[], 0, config.receiveBufferBytes, ReceiveBuffer.within_nil, config.holdsMessage,
    config.underCeiling⟩

end TcpDriverConfig

/-- What one read of the socket comes to. -/
inductive SocketRead
  | data (chunk : Bytes)
  | interrupted
  /-- Any other error, `WouldBlock` among them. -/
  | failed
  | closed

variable {reads : List SocketRead}

/-- The read side of an established TCP flow. -/
structure TcpReader where
  framed : ReceiveBuffer
  peerClosed : Bool

variable {reader : TcpReader}

/-- The part of the loop of `receive` before the read: a buffered message, a framing
error or the end of the stream is returned, and otherwise the loop reads on. -/
def TcpReader.nextBuffered (reader : TcpReader) :
    TcpReader × Option (Except TcpDriverError Bytes) :=
  match reader.framed.nextMessage with
  | (framed, .error error) =>
    ({ reader with framed := framed }, some (.error (.receiveBuffer error)))
  | (framed, .ok (some bytes)) => ({ reader with framed := framed }, some (.ok bytes))
  | (framed, .ok none) =>
    ({ reader with framed := framed },
      if reader.peerClosed then
        some (.error (if framed.isEmpty then .peerClosed else .truncatedStream framed.len))
      else
        none)

/-- The reader, the reads that the socket has still to come to, and the framed bytes of
the message or the error.  A flow that nothing more arrives on would block. -/
def TcpReader.receive (reader : TcpReader) :
    List SocketRead → TcpReader × List SocketRead × Except TcpDriverError Bytes
  | [] =>
    match reader.nextBuffered with
    | (reader, some result) => (reader, [], result)
    | (reader, none) => (reader, [], .error .receive)
  | read :: reads =>
    match reader.nextBuffered with
    | (reader, some result) => (reader, read :: reads, result)
    | (reader, none) =>
      match read with
      | .interrupted => receive reader reads
      | .failed => (reader, reads, .error .receive)
      | .closed => receive { reader with peerClosed := true } reads
      | .data chunk =>
        match reader.framed.append chunk with
        | (framed, .error error) =>
          ({ reader with framed := framed }, reads, .error (.receiveBuffer error))
        | (framed, .ok ()) => receive { reader with framed := framed } reads

/-- One call of `receive` on a flow and the reads that its socket has still to come to. -/
def receiveStep (flow : TcpReader × List SocketRead) (_ : Unit) :
    (TcpReader × List SocketRead) × Except TcpDriverError Bytes :=
  let (reader, reads, result) := flow.1.receive flow.2
  ((reader, reads), result)

/-- What a peer sends: a CRLF keep-alive or a message. -/
inductive StreamUnit
  | keepAlive
  | message (bytes : Bytes)

/-- The framer accepts the message, and all of it. -/
def StreamUnit.Legal : StreamUnit → Prop
  | keepAlive => True
  | message bytes => ∃ boundary, inspect bytes .stream = .ok (.complete boundary) ∧
      boundary.messageBytes = bytes.length

/-- The bytes of a unit. -/
def StreamUnit.bytes : StreamUnit → Bytes
  | keepAlive => [cr, lf]
  | message bytes => bytes

/-- The bytes of a stream. -/
def streamBytes (units : List StreamUnit) : Bytes := units.flatMap StreamUnit.bytes

/-- The bytes among the first `arrived` of a stream that came since the last message
that has ended; `before` counts those of the keep-alives. -/
def pendingFrom : List StreamUnit → Nat → Nat → Nat
  | [], _, arrived => arrived
  | .keepAlive :: units, before, arrived => pendingFrom units (before + 2) arrived
  | .message bytes :: units, before, arrived =>
    if before + bytes.length ≤ arrived then pendingFrom units 0 (arrived - (before + bytes.length))
    else arrived

/-- The bytes of some reads. -/
def readBytes (reads : List SocketRead) : Bytes := reads.flatMap fun
    | .data chunk => chunk
    | _ => []

/-- Every read fits into the receive buffer with what came since the last message that
has ended before it. -/
def ReadsFit (maximum : Nat) (units : List StreamUnit) (reads : List SocketRead) : Prop :=
  ∀ earlier chunk later, reads = earlier ++ .data chunk :: later →
    pendingFrom units 0 (readBytes earlier).length + chunk.length ≤ maximum

/-- A complete message is found again whatever follows it. -/
theorem inspect_append_of_complete
    {input : Bytes} {boundary : Boundary}
    (inspected : inspect input .stream = .ok (.complete boundary)) (more : Bytes) :
    inspect (input ++ more) .stream = .ok (.complete boundary) := by
  have uncut : ¬StopsAtLimit input := by
    intro cut
    have refused := (CutAtLimit.refused cut).1
    rw [inspect_of_message (CutAtLimit.not_short cut).1, refused] at inspected
    cases inspected
  have agrees := (inspect_agrees_iff input).mpr uncut (input ++ more) (prefix_append _ _)
  rw [inspected] at agrees
  exact agrees

/-- A keep-alive before a complete message is consumed with it. -/
theorem inspect_keepAlive_of_complete
    {input : Bytes} {boundary : Boundary}
    (inspected : inspect input .stream = .ok (.complete boundary)) :
    ∃ later, inspect (cr :: lf :: input) .stream = .ok (.complete later) ∧
      later.consumedBytes = boundary.consumedBytes + 2 := by
  have message : input.drop (skipStreamPrefix input) ≠ [] := by
    intro empty
    rw [inspect_of_keepAlive (.inl empty)] at inspected
    cases inspected
  have skipped : skipStreamPrefix (cr :: lf :: input) = skipStreamPrefix input + 2 := by
    simp [skipStreamPrefix]
  have dropped : (cr :: lf :: input).drop (skipStreamPrefix (cr :: lf :: input)) =
      input.drop (skipStreamPrefix input) := by
    rw [skipped]
    rfl
  rw [inspect_of_message message] at inspected
  rw [inspect_of_message (dropped ▸ message), dropped, skipped]
  generalize scanHeaders .stream (input.drop (skipStreamPrefix input)) 0 .new = scanned
    at inspected ⊢
  rcases scanned with error | (_ | headers)
  · cases inspected
  · cases inspected
  · simp only [streamStatus, inspectStream] at inspected ⊢
    cases declared : headers.contentLength with
    | none => simp [declared] at inspected
    | some bodyBytes =>
      simp only [declared] at inspected ⊢
      cases sizes : validateSizes headers.headerBytes bodyBytes with
      | error error => simp [sizes] at inspected
      | ok value =>
        simp only [sizes] at inspected ⊢
        split_ifs at inspected with short
        · cases inspected
        · cases inspected
          have long : ¬(cr :: lf :: input).length <
              skipStreamPrefix input + 2 + headers.headerBytes + bodyBytes := by
            simp only [length_cons]
            omega
          rw [if_neg long]
          refine ⟨_, rfl, ?_⟩
          dsimp only
          omega

/-- Keep-alives alone hold no message. -/
theorem inspect_keepAlives (count : Nat) :
    inspect (streamBytes (replicate count .keepAlive)) .stream = .ok (.needMoreData none) := by
  have skipped : ∀ count, (streamBytes (replicate count .keepAlive)).drop
      (skipStreamPrefix (streamBytes (replicate count .keepAlive))) = [] := by
    intro count
    induction count with
    | zero => rfl
    | succ count ih =>
      simpa [streamBytes, replicate_succ, StreamUnit.bytes, skipStreamPrefix] using ih
  exact inspect_of_keepAlive (.inl (skipped count))

/-- A legal message is consumed with the keep-alives before it. -/
theorem inspect_group
    {bytes : Bytes} (legal : (StreamUnit.message bytes).Legal) (count : Nat) (more : Bytes) :
    ∃ boundary, inspect (streamBytes (replicate count .keepAlive) ++ bytes ++ more) .stream =
        .ok (.complete boundary) ∧
      boundary.consumedBytes = 2 * count + bytes.length := by
  obtain ⟨boundary, inspected, whole⟩ := legal
  have alone : ∃ first, inspect (streamBytes (replicate count .keepAlive) ++ bytes) .stream =
      .ok (.complete first) ∧ first.consumedBytes = 2 * count + bytes.length := by
    induction count with
    | zero =>
      refine ⟨boundary, by simpa [streamBytes] using inspected, ?_⟩
      obtain ⟨ends, inside⟩ := boundary_of_inspect inspected
      simp only [Boundary.messageRange] at ends
      omega
    | succ count ih =>
      obtain ⟨first, found, consumed⟩ := ih
      obtain ⟨later, foundLater, consumedLater⟩ := inspect_keepAlive_of_complete found
      refine ⟨later, ?_, by omega⟩
      simpa [streamBytes, replicate_succ, StreamUnit.bytes] using foundLater
  obtain ⟨first, found, consumed⟩ := alone
  exact ⟨first, inspect_append_of_complete found more, consumed⟩

/-- A stream begins with keep-alives, and then there is a message or nothing. -/
theorem exists_keepAlives (units : List StreamUnit) :
    ∃ count, units = replicate count .keepAlive ∨
      ∃ bytes rest, units = replicate count .keepAlive ++ .message bytes :: rest := by
  induction units with
  | nil => exact ⟨0, .inl rfl⟩
  | cons unit units ih =>
    cases unit with
    | message bytes => exact ⟨0, .inr ⟨bytes, units, rfl⟩⟩
    | keepAlive =>
      obtain ⟨count, rfl | ⟨bytes, rest, rfl⟩⟩ := ih
      · exact ⟨count + 1, .inl rfl⟩
      · exact ⟨count + 1, .inr ⟨bytes, rest, rfl⟩⟩

theorem pendingFrom_keepAlives (count : Nat) (units : List StreamUnit) (before arrived : Nat) :
    pendingFrom (replicate count .keepAlive ++ units) before arrived =
      pendingFrom units (before + 2 * count) arrived := by
  induction count generalizing before with
  | zero => rfl
  | succ count ih =>
    rw [replicate_succ, cons_append, pendingFrom, ih]
    congr 1
    omega

/-- The framer on a part of a legal stream: a complete message is taken off the stream,
and where there is none, nothing of the stream has ended. -/
theorem inspect_stream_part
    {units : List StreamUnit} (legal : ∀ unit ∈ units, unit.Legal)
    {unread future : Bytes} (stream : unread ++ future = streamBytes units) :
    (∀ boundary, inspect unread .stream = .ok (.complete boundary) →
      ∃ rest : List StreamUnit, (∀ unit ∈ rest, unit.Legal) ∧
        unread.drop boundary.consumedBytes ++ future = streamBytes rest ∧
        ∀ more, pendingFrom units 0 (boundary.consumedBytes + more) = pendingFrom rest 0 more) ∧
    (∀ required, inspect unread .stream = .ok (.needMoreData required) →
      pendingFrom units 0 unread.length = unread.length) := by
  obtain ⟨count, rfl | ⟨bytes, rest, rfl⟩⟩ := exists_keepAlives units
  · constructor
    · intro boundary complete
      have all := inspect_append_of_complete complete future
      rw [stream, inspect_keepAlives] at all
      cases all
    · intro required _
      simpa [pendingFrom] using pendingFrom_keepAlives count [] 0 unread.length
  · have split : streamBytes (replicate count .keepAlive ++ .message bytes :: rest) =
        streamBytes (replicate count .keepAlive) ++ bytes ++ streamBytes rest := by
      simp [streamBytes, StreamUnit.bytes]
    have groupBytes : (streamBytes (replicate count .keepAlive) ++ bytes).length =
        2 * count + bytes.length := by
      simp [streamBytes, StreamUnit.bytes, flatMap_replicate]
      omega
    have messageLegal : (StreamUnit.message bytes).Legal := legal _ (by simp)
    constructor
    · intro boundary complete
      obtain ⟨group, found, consumed⟩ := inspect_group messageLegal count (streamBytes rest)
      have all := inspect_append_of_complete complete future
      rw [stream, split, found] at all
      cases all
      refine ⟨rest, fun unit member => legal unit (by simp [member]), ?_, fun more => ?_⟩
      · rw [← drop_append_of_le_length (boundary_of_inspect complete).2, stream, split,
          consumed, ← groupBytes, drop_left]
      · rw [pendingFrom_keepAlives, pendingFrom, if_pos (by omega)]
        congr 1
        omega
    · intro required incomplete
      rw [pendingFrom_keepAlives, pendingFrom, if_neg]
      intro ended
      have begins : streamBytes (replicate count .keepAlive) ++ bytes <+: unread ++ future := by
        rw [stream, split]
        exact prefix_append _ _
      obtain ⟨more, rfl⟩ :=
        prefix_of_prefix_length_le begins (prefix_append unread future) (by omega)
      obtain ⟨group, found, -⟩ := inspect_group messageLegal count more
      rw [found] at incomplete
      cases incomplete

/-- The buffer holds a beginning of what is left of a legal stream, the reads bring more
of it, and each of them fits. -/
structure Follows (maximum : Nat) (reader : TcpReader) (reads : List SocketRead) : Prop where
  limit : reader.framed.maximum = maximum
  stream : ∃ (units : List StreamUnit) (future : Bytes), (∀ unit ∈ units, unit.Legal) ∧
    reader.framed.unread ++ (readBytes reads ++ future) = streamBytes units ∧
    ∀ earlier chunk later, reads = earlier ++ .data chunk :: later →
      pendingFrom units 0 (reader.framed.len + (readBytes earlier).length) + chunk.length ≤ maximum

/-- Looking into the buffer returns no overflow, and takes whole messages off the
stream.  Where the loop reads on, nothing of the stream has ended. -/
theorem Follows.nextBuffered
    (follows : Follows maximum reader reads) :
    Follows maximum reader.nextBuffered.1 reads ∧ (∀ attempted limit, reader.nextBuffered.2 ≠
        some (.error (.receiveBuffer (.bufferLimit attempted limit)))) ∧
      (reader.nextBuffered.2 = none → reader.nextBuffered.1 = reader ∧
        ∃ required, inspect reader.framed.unread .stream = .ok (.needMoreData required)) := by
  obtain ⟨limit, units, future, legal, stream, fits⟩ := follows
  rcases inspected : inspect reader.framed.unread .stream with error | (required | boundary)
  · rw [TcpReader.nextBuffered, ReceiveBuffer.nextMessage_of_error inspected]
    exact ⟨⟨limit, units, future, legal, stream, fits⟩, by simp, by simp⟩
  · rw [TcpReader.nextBuffered, ReceiveBuffer.nextMessage_of_needMoreData inspected]
    refine ⟨⟨limit, units, future, legal, stream, fits⟩, ?_, fun _ => ⟨rfl, required, rfl⟩⟩
    intro attempted limit
    dsimp only
    split_ifs <;> simp
  · rw [TcpReader.nextBuffered, ReceiveBuffer.nextMessage_of_complete inspected]
    obtain ⟨rest, restLegal, restStream, moved⟩ :=
      (inspect_stream_part legal stream).1 boundary inspected
    obtain ⟨left, sameLimit, -⟩ := ReceiveBuffer.consume_spec reader.framed
      boundary.consumedBytes (ReceiveBuffer.arrived_of_inspect inspected)
    have inside := (boundary_of_inspect inspected).2
    have lengths := congrArg length left
    rw [length_drop, ReceiveBuffer.length_unread, ReceiveBuffer.length_unread] at lengths
    rw [ReceiveBuffer.length_unread] at inside
    refine ⟨⟨sameLimit.trans limit, rest, future, restLegal, ?_, ?_⟩, by simp, by simp⟩
    · rw [left]
      exact restStream
    · intro earlier chunk later split
      have fit := fits earlier chunk later split
      rw [lengths, ← moved]
      have same : boundary.consumedBytes +
          (reader.framed.len - boundary.consumedBytes + (readBytes earlier).length) =
          reader.framed.len + (readBytes earlier).length := by
        omega
      rw [same]
      exact fit

/-- A read that brings no bytes. -/
theorem Follows.skip {read : SocketRead}
    (follows : Follows maximum reader (read :: reads)) (silent : readBytes [read] = [])
    (closed : Bool) : Follows maximum { reader with peerClosed := closed } reads := by
  obtain ⟨limit, units, future, legal, stream, fits⟩ := follows
  have more : ∀ reads, readBytes (read :: reads) = readBytes reads := by
    intro reads
    rw [readBytes, flatMap_cons, ← readBytes]
    simp only [readBytes, flatMap_cons, flatMap_nil, append_nil] at silent ⊢
    rw [silent]
    rfl
  refine ⟨limit, units, future, legal, more reads ▸ stream, ?_⟩
  intro earlier chunk later split
  have fit := fits (read :: earlier) chunk later (by rw [split, cons_append])
  rwa [more] at fit

/-- A read of bytes when nothing of the stream has ended: it is accepted. -/
theorem Follows.append {chunk : Bytes}
    (follows : Follows maximum reader (.data chunk :: reads)) {required : Option Nat}
    (incomplete : inspect reader.framed.unread .stream = .ok (.needMoreData required)) :
    (reader.framed.append chunk).2 = .ok () ∧
      Follows maximum { reader with framed := (reader.framed.append chunk).1 } reads := by
  obtain ⟨limit, units, future, legal, stream, fits⟩ := follows
  have waiting := (inspect_stream_part legal stream).2 required incomplete
  have fit := fits [] chunk reads rfl
  rw [ReceiveBuffer.length_unread] at waiting
  simp only [readBytes, flatMap_nil, length_nil, Nat.add_zero] at fit
  rw [waiting] at fit
  have accepted : (reader.framed.append chunk).2 = .ok () := by
    unfold ReceiveBuffer.append
    dsimp only
    rw [limit, if_neg (Nat.not_lt.mpr fit)]
  obtain ⟨unread, same⟩ := ReceiveBuffer.unread_append accepted
  have length := congrArg List.length unread
  rw [length_append, ReceiveBuffer.length_unread, ReceiveBuffer.length_unread] at length
  refine ⟨accepted, same.trans limit, units, future, legal, ?_, ?_⟩
  · rw [unread, ← stream]
    simp [readBytes]
  · intro earlier next later split
    have nextFit := fits (.data chunk :: earlier) next later (by rw [split, cons_append])
    have total : reader.framed.len + (readBytes (.data chunk :: earlier)).length =
        (reader.framed.append chunk).1.len + (readBytes earlier).length := by
      simp only [readBytes, flatMap_cons, length_append]
      omega
    rw [total] at nextFit
    exact nextFit

/-- A call of `receive` returns no overflow, and the flow follows the stream on. -/
theorem Follows.receive
    (follows : Follows maximum reader reads) :
    Follows maximum (reader.receive reads).1 (reader.receive reads).2.1 ∧
      ∀ attempted limit, (reader.receive reads).2.2 ≠
        .error (.receiveBuffer (.bufferLimit attempted limit)) := by
  induction reads generalizing reader with
  | nil =>
    obtain ⟨next, noOverflow, -⟩ := follows.nextBuffered
    rw [TcpReader.receive]
    generalize reader.nextBuffered = buffered at next noOverflow ⊢
    obtain ⟨reader, result | result⟩ := buffered
    · exact ⟨next, by simp⟩
    · exact ⟨next, fun attempted limit same => noOverflow attempted limit (congrArg some same)⟩
  | cons read reads ih =>
    obtain ⟨next, noOverflow, waiting⟩ := follows.nextBuffered
    rw [TcpReader.receive]
    generalize reader.nextBuffered = buffered at next noOverflow waiting ⊢
    obtain ⟨later, result | result⟩ := buffered
    · obtain ⟨rfl, required, incomplete⟩ := waiting rfl
      cases read with
      | interrupted => exact ih (next.skip rfl later.peerClosed)
      | failed => exact ⟨next.skip rfl later.peerClosed, by simp⟩
      | closed => exact ih (next.skip rfl true)
      | data chunk =>
        obtain ⟨accepted, appended⟩ := next.append incomplete
        dsimp only
        generalize later.framed.append chunk = outcome at accepted appended ⊢
        obtain ⟨framed, result⟩ := outcome
        cases accepted
        exact ih appended
    · exact ⟨next, fun attempted limit same => noOverflow attempted limit (congrArg some same)⟩

/-- No call of `receive` on a legal stream fails because the receive buffer is full, if
every read fits with what came since the last message that has ended before it. -/
theorem legal_stream_never_overflows
    (config : TcpDriverConfig) (units : List StreamUnit) (reads : List SocketRead)
    (legal : ∀ unit ∈ units, unit.Legal) (delivered : readBytes reads <+: streamBytes units)
    (fit : ReadsFit config.receiveBufferBytes units reads) (calls : List Unit) :
    ∀ result ∈ Run.outputs receiveStep (⟨config.receiveBuffer, false⟩, reads) calls,
      ∀ attempted limit, result ≠ .error (.receiveBuffer (.bufferLimit attempted limit)) := by
  obtain ⟨future, stream⟩ := delivered
  have initial : Follows config.receiveBufferBytes ⟨config.receiveBuffer, false⟩ reads := by
    refine ⟨rfl, units, future, legal, stream, ?_⟩
    intro earlier chunk later split
    have len : config.receiveBuffer.len = 0 := rfl
    rw [len, Nat.zero_add]
    exact fit earlier chunk later split
  apply Run.forall_mem_outputs
    (fun flow : TcpReader × List SocketRead =>
      Follows config.receiveBufferBytes flow.1 flow.2)
  · intro flow _ follows
    exact follows.receive
  · exact initial

/-- What came since the last message is at most what came. -/
theorem pendingFrom_le (units : List StreamUnit) (before arrived : Nat) :
    pendingFrom units before arrived ≤ arrived := by
  fun_induction pendingFrom units before arrived with
  | case1 => exact Nat.le_refl _
  | case2 units before arrived ih => exact ih
  | case3 bytes units before arrived ended ih => omega
  | case4 => exact Nat.le_refl _

/-- Reads of no more bytes than the buffer holds fit. -/
theorem readsFit_of_le (short : (readBytes reads).length ≤ maximum)
    (units : List StreamUnit) : ReadsFit maximum units reads := by
  rintro earlier chunk later rfl
  have pending := pendingFrom_le units 0 (readBytes earlier).length
  simp only [readBytes, flatMap_append, flatMap_cons, length_append] at short pending ⊢
  omega

/-- A request that the framer accepts. -/
def sampleRequest : Bytes := wireBytes "A\r\nl:0\r\n\r\n"

/-- Two requests and a keep-alive, cut in the middle of a request. -/
def sampleReads : List SocketRead :=
  [.data (sampleRequest ++ [cr]), .failed, .data (lf :: sampleRequest)]

theorem legal_stream_never_overflows_sampleReads :
    Run.outputs receiveStep (⟨TcpDriverConfig.default.receiveBuffer, false⟩, sampleReads)
        [(), (), ()] = [.ok sampleRequest, .error .receive, .ok sampleRequest] ∧
      ∀ result ∈ Run.outputs receiveStep
          (⟨TcpDriverConfig.default.receiveBuffer, false⟩, sampleReads) [(), (), ()],
        ∀ attempted limit, result ≠ .error (.receiveBuffer (.bufferLimit attempted limit)) := by
  have legal : ∀ unit ∈ [StreamUnit.message sampleRequest, .keepAlive, .message sampleRequest],
      unit.Legal := by
    have accepted : (StreamUnit.message sampleRequest).Legal :=
      ⟨⟨0, 10, 0, 10, 10⟩, by decide +kernel, by decide +kernel⟩
    simp only [mem_cons, not_mem_nil, or_false, forall_eq_or_imp, forall_eq]
    exact ⟨accepted, trivial, accepted⟩
  refine ⟨by decide +kernel, ?_⟩
  exact legal_stream_never_overflows TcpDriverConfig.default
    [.message sampleRequest, .keepAlive, .message sampleRequest] sampleReads legal
    (by decide +kernel) (readsFit_of_le (by decide +kernel) _) [(), (), ()]

/-- A buffer of keep-alives that further ones do not fit into. -/
theorem receive_keepAlives
    (count : Nat) (reader : TcpReader) (held : Nat) (open_ : reader.peerClosed = false)
    (content : reader.framed.unread = streamBytes (replicate held .keepAlive))
    (fits : 2 * held ≤ reader.framed.maximum)
    (beyond : reader.framed.maximum < 2 * (held + count)) :
    ∃ attempted, (reader.receive (replicate count (.data [cr, lf]))).2.2 =
      .error (.receiveBuffer (.bufferLimit attempted reader.framed.maximum)) := by
  induction count generalizing reader held with
  | zero => omega
  | succ count ih =>
    have waiting : reader.nextBuffered = (reader, none) := by
      have inspected := inspect_keepAlives held
      rw [← content] at inspected
      rw [TcpReader.nextBuffered, ReceiveBuffer.nextMessage_of_needMoreData inspected]
      dsimp only
      rw [if_neg (by simp [open_])]
    have length : reader.framed.len = 2 * held := by
      rw [← ReceiveBuffer.length_unread, content]
      simp [streamBytes, StreamUnit.bytes, flatMap_replicate, Nat.mul_comm]
    rw [replicate_succ, TcpReader.receive, waiting]
    dsimp only
    by_cases room : 2 * held + 2 ≤ reader.framed.maximum
    · have accepted : (reader.framed.append [cr, lf]).2 = .ok () := by
        unfold ReceiveBuffer.append
        dsimp only
        rw [if_neg]
        simp only [length, length_cons, length_nil]
        omega
      obtain ⟨unread, limit⟩ := ReceiveBuffer.unread_append accepted
      generalize reader.framed.append [cr, lf] = outcome at accepted unread limit ⊢
      obtain ⟨framed, result⟩ := outcome
      cases accepted
      dsimp only at unread limit ⊢
      have more : framed.unread = streamBytes (replicate (held + 1) .keepAlive) := by
        rw [unread, content]
        simp [streamBytes, StreamUnit.bytes, replicate_succ']
      rw [← limit]
      exact ih { reader with framed := framed } (held + 1) open_ more
        (by dsimp only; omega) (by dsimp only; omega)
    · refine ⟨reader.framed.len + 2, ?_⟩
      unfold ReceiveBuffer.append
      dsimp only
      rw [if_pos]
      · rfl
      · simp only [length, length_cons, length_nil]
        omega

/-- A run of keep-alives of one more than half of the default buffer. -/
def keepAliveRun : List SocketRead := replicate (maxMessageBytes + 1) (.data [cr, lf])

/-- A peer that sends keep-alives only is disconnected. -/
theorem keepAliveRun_overflows :
    (∀ unit ∈ replicate (maxMessageBytes + 1) StreamUnit.keepAlive, unit.Legal) ∧
      readBytes keepAliveRun = streamBytes (replicate (maxMessageBytes + 1) StreamUnit.keepAlive) ∧
      (∀ read ∈ keepAliveRun, ∀ chunk, read = .data chunk →
        chunk.length ≤ TcpDriverConfig.default.readChunkBytes) ∧
      ∃ attempted, (TcpReader.receive ⟨TcpDriverConfig.default.receiveBuffer, false⟩
        keepAliveRun).2.2 = .error (.receiveBuffer (.bufferLimit attempted
          TcpDriverConfig.default.receiveBufferBytes)) := by
  unfold keepAliveRun
  refine ⟨?_, ?_, ?_, ?_⟩
  · intro unit member
    rw [eq_of_mem_replicate member]
    trivial
  · simp [readBytes, streamBytes, flatMap_replicate, StreamUnit.bytes]
  · rintro read member chunk rfl
    cases eq_of_mem_replicate member
    decide
  · have beyond : TcpDriverConfig.default.receiveBuffer.maximum <
        2 * (0 + (maxMessageBytes + 1)) := by
      decide
    generalize maxMessageBytes + 1 = count at beyond
    exact receive_keepAlives count ⟨TcpDriverConfig.default.receiveBuffer, false⟩ 0 rfl rfl
      (Nat.zero_le _) beyond

end Transport
end Sip
end LiveAISIP
