import LiveAISIP.Sip.Framing
import LiveAISIP.Sip.HeaderField
import LiveAISIP.Sip.UriText

/-!
# Message serializer

The bounded serialization of complete messages from
`sip/serializer/message.rs` and `sip/serializer/headers.rs`.  The serializer
owns the body length: it refuses a given `Content-Length` and adds its own.
Where the source reserves memory, `grants` tells whether a reservation of that
many bytes is granted.
-/

namespace LiveAISIP
namespace Sip
namespace Serializer

open Ascii Crlf Outcome
open Framing (maxLineBytes maxHeaderCount maxHeaderBytes maxBodyBytes
  maxMessageBytes)
open List

variable {grants : Nat → Bool} {headers : List Header}

/-- Failure to serialize a bounded header section. -/
inductive HeaderSerializeError
  | tooManyHeaders (attempted maximum : Nat)
  | lineTooLong (attempted maximum : Nat)
  | sectionTooLarge (attempted maximum : Nat)
  | allocationFailed
  deriving DecidableEq

/-- Failure to serialize a complete message. -/
inductive SerializeError
  | startLineTooLong (attempted maximum : Nat)
  | invalidReasonPhraseByte (index : Nat) (byte : UInt8)
  | callerProvidedContentLength
  | headers (error : HeaderSerializeError)
  | headerSectionTooLarge (attempted maximum : Nat)
  | bodyTooLarge (attempted maximum : Nat)
  | messageTooLarge (attempted maximum : Nat)
  | formattingFailed
  | allocationFailed
  deriving DecidableEq

/-- Between a header name and its value. -/
def headerSeparator : Bytes := [58, 32]

/-- The end of a line. -/
def crlf : Bytes := [cr, lf]

/-- Incremental bounded writer for a canonical header section. -/
structure HeaderSectionWriter where
  bytes : Bytes
  headerCount : Nat

namespace HeaderSectionWriter

/-- The writer without headers. -/
def new : HeaderSectionWriter := ⟨[], 0⟩

/-- Append one name and value in canonical form. -/
def pushParts
    (grants : Nat → Bool) (writer : HeaderSectionWriter) (name : HeaderName) (value : HeaderValue) :
    Except HeaderSerializeError HeaderSectionWriter := do
  let attemptedCount := writer.headerCount + 1
  ensure (attemptedCount ≤ maxHeaderCount) (.tooManyHeaders attemptedCount maxHeaderCount)
  let lineBytes := name.asBytes.length + headerSeparator.length + value.bytes.length
  ensure (lineBytes ≤ maxLineBytes) (.lineTooLong lineBytes maxLineBytes)
  let fieldBytes := lineBytes + crlf.length
  let attemptedSection := writer.bytes.length + fieldBytes + crlf.length
  ensure (attemptedSection ≤ maxHeaderBytes) (.sectionTooLarge attemptedSection maxHeaderBytes)
  ensure (grants fieldBytes = true) .allocationFailed
  return ⟨writer.bytes ++ (name.asBytes ++ headerSeparator ++ value.bytes ++ crlf), attemptedCount⟩

/-- Append one header. -/
def push
    (grants : Nat → Bool) (writer : HeaderSectionWriter)
    (header : Header) : Except HeaderSerializeError HeaderSectionWriter :=
  writer.pushParts grants header.name header.value

/-- Append headers in order. -/
def pushAll
    (grants : Nat → Bool) (writer : HeaderSectionWriter) :
    List Header → Except HeaderSerializeError HeaderSectionWriter
  | [] => .ok writer
  | header :: headers => do
    let writer ← writer.push grants header
    writer.pushAll grants headers

/-- End the section with its empty line. -/
def finish
    (grants : Nat → Bool) (writer : HeaderSectionWriter) : Except HeaderSerializeError Bytes := do
  ensure (grants crlf.length = true) .allocationFailed
  return writer.bytes ++ crlf

end HeaderSectionWriter

/-- Check the length of a start line. -/
def validateStartLineLength (length : Nat) : Except SerializeError Unit :=
  ensure (length ≤ maxLineBytes) (.startLineTooLong length maxLineBytes)

/-- Tab, printable ASCII and obs-text are allowed in a reason phrase. -/
def validateReasonPhrase (input : Bytes) : Except SerializeError Unit :=
  checkBytes isHeaderValueByte .invalidReasonPhraseByte 0 input

/-- Serialize a complete message with the given start line. -/
def serialize
    (grants : Nat → Bool) (startLine : Bytes) (headers : List Header)
    (body : Bytes) : Except SerializeError Bytes := do
  validateStartLineLength startLine.length
  ensure (body.length ≤ maxBodyBytes) (.bodyTooLarge body.length maxBodyBytes)
  ensure (¬headers.any fun header => header.name.kind = some .contentLength)
    .callerProvidedContentLength
  let writer ← (HeaderSectionWriter.new.pushAll grants headers).mapError .headers
  let lengthValue ← (HeaderValue.fromBytes (digits body.length)).mapError
    fun _ => .formattingFailed
  let writer ← (writer.pushParts grants (.known .contentLength) lengthValue).mapError .headers
  let written ← (writer.finish grants).mapError .headers
  let headerBytes := startLine.length + crlf.length + written.length
  ensure (headerBytes ≤ maxHeaderBytes) (.headerSectionTooLarge headerBytes maxHeaderBytes)
  let messageBytes := headerBytes + body.length
  ensure (messageBytes ≤ maxMessageBytes) (.messageTooLarge messageBytes maxMessageBytes)
  ensure (grants messageBytes = true) .allocationFailed
  return startLine ++ crlf ++ written ++ body

/-- Serialize one complete canonical request. -/
def serializeRequest
    (grants : Nat → Bool) (method : Method) (uri : Uri) (version : Version)
    (headers : List Header) (body : Bytes) : Except SerializeError Bytes := do
  ensure (grants maxLineBytes = true) .allocationFailed
  serialize grants
    (wireBytes method.asStr ++ [32] ++ uri.render ++ [32] ++ wireBytes version.asStr) headers body

/-- Serialize one complete canonical response. -/
def serializeResponse
    (grants : Nat → Bool) (version : Version) (status : StatusCode)
    (reasonPhrase : Bytes) (headers : List Header)
    (body : Bytes) : Except SerializeError Bytes := do
  validateReasonPhrase reasonPhrase
  let first := wireBytes version.asStr ++ [32] ++ digits status.asU16 ++ [32]
  let lineLength := first.length + reasonPhrase.length
  validateStartLineLength lineLength
  ensure (grants lineLength = true) .allocationFailed
  serialize grants (first ++ reasonPhrase) headers body

/-- One header on the wire, without its CRLF. -/
def headerLine (header : Header) : Bytes := header.name.asBytes ++ 58 :: 32 :: header.value.bytes

/-- A complete message: start line, headers, empty line and body. -/
def wireMessage (startLine : Bytes) (headers : List Header) (body : Bytes) : Bytes :=
  startLine ++ cr :: lf :: (unlines (headers.map headerLine) ++ cr :: lf :: body)

/-- What the writer checked of the headers that it appended. -/
structure Writes
    (before after : HeaderSectionWriter) (headers : List Header) : Prop where
  bytes : after.bytes = before.bytes ++ unlines (headers.map headerLine)
  count : after.headerCount = before.headerCount + headers.length
  counted : headers ≠ [] → after.headerCount ≤ maxHeaderCount
  fits : ∀ header ∈ headers, (headerLine header).length ≤ maxLineBytes

theorem writes_push {before after : HeaderSectionWriter} {header : Header}
    (pushed : before.push grants header = .ok after) :
    Writes before after [header] := by
  simp only [HeaderSectionWriter.push, HeaderSectionWriter.pushParts] at pushed
  obtain ⟨_, counted, pushed⟩ := bind_eq_ok.mp pushed
  obtain ⟨_, fits, pushed⟩ := bind_eq_ok.mp pushed
  obtain ⟨_, -, pushed⟩ := bind_eq_ok.mp pushed
  obtain ⟨_, -, pushed⟩ := bind_eq_ok.mp pushed
  cases pushed
  refine ⟨?_, rfl, fun _ => ensure_eq_ok.mp counted, ?_⟩
  · simp [headerLine, headerSeparator, crlf]
  · have within := ensure_eq_ok.mp fits
    simp only [headerSeparator, length_cons, length_nil] at within
    simp only [mem_singleton, forall_eq, headerLine, length_append, length_cons]
    omega

theorem Writes.trans
    {first second third : HeaderSectionWriter} {more : List Header}
    (before : Writes first second headers) (after : Writes second third more) :
    Writes first third (headers ++ more) := by
  refine ⟨?_, ?_, fun nonempty => ?_, ?_⟩
  · rw [after.bytes, before.bytes]
    simp
  · rw [after.count, before.count, length_append, Nat.add_assoc]
  · by_cases none : more = []
    · subst none
      rw [append_nil] at nonempty
      simpa [after.count] using before.counted nonempty
    · exact after.counted none
  · intro header member
    rcases mem_append.mp member with earlier | later
    · exact before.fits header earlier
    · exact after.fits header later

theorem writes_pushAll {before after : HeaderSectionWriter}
    (pushed : before.pushAll grants headers = .ok after) :
    Writes before after headers := by
  induction headers generalizing before with
  | nil =>
    cases pushed
    exact ⟨by simp, rfl, by simp, by simp⟩
  | cons header headers ih =>
    rw [HeaderSectionWriter.pushAll] at pushed
    obtain ⟨between, first, rest⟩ := bind_eq_ok.mp pushed
    exact (writes_push first).trans (ih rest)

/-- The header of the body length. -/
def lengthHeader (length : HeaderValue) : Header := ⟨.known .contentLength, length⟩

/-- What the serializer checked of a message that it accepted. -/
structure Serialized
    (startLine : Bytes) (headers : List Header) (body bytes : Bytes)
    (length : HeaderValue) : Prop where
  split : bytes = wireMessage startLine (headers ++ [lengthHeader length]) body
  declared : length.bytes = digits body.length
  startFits : startLine.length ≤ maxLineBytes
  bodyFits : body.length ≤ maxBodyBytes
  unannounced : ∀ header ∈ headers, header.name.kind ≠ some .contentLength
  counted : headers.length + 1 ≤ maxHeaderCount
  linesFit : ∀ header ∈ headers ++ [lengthHeader length], (headerLine header).length ≤ maxLineBytes
  sectionFits : bytes.length ≤ maxHeaderBytes + body.length
  messageFits : bytes.length ≤ maxMessageBytes

/-- A serialized message is the given message with its body length. -/
theorem serialize_eq_ok {startLine : Bytes} {body bytes : Bytes}
    (serialized : serialize grants startLine headers body = .ok bytes) :
    ∃ length, Serialized startLine headers body bytes length := by
  unfold serialize at serialized
  obtain ⟨_, startFits, serialized⟩ := bind_eq_ok.mp serialized
  obtain ⟨_, bodyFits, serialized⟩ := bind_eq_ok.mp serialized
  obtain ⟨_, unannounced, serialized⟩ := bind_eq_ok.mp serialized
  obtain ⟨writer, pushed, serialized⟩ := bind_eq_ok.mp serialized
  obtain ⟨length, valued, serialized⟩ := bind_eq_ok.mp serialized
  obtain ⟨writer', pushedLength, serialized⟩ := bind_eq_ok.mp serialized
  obtain ⟨written, finished, serialized⟩ := bind_eq_ok.mp serialized
  obtain ⟨_, sectionFits, serialized⟩ := bind_eq_ok.mp serialized
  obtain ⟨_, messageFits, serialized⟩ := bind_eq_ok.mp serialized
  obtain ⟨_, -, serialized⟩ := bind_eq_ok.mp serialized
  cases serialized
  have writes : Writes .new writer' (headers ++ [lengthHeader length]) :=
    (writes_pushAll (mapError_eq_ok.mp pushed)).trans (writes_push (mapError_eq_ok.mp pushedLength))
  have ended : written =
      unlines ((headers ++ [lengthHeader length]).map headerLine) ++ [cr, lf] := by
    obtain ⟨_, -, returned⟩ := bind_eq_ok.mp (mapError_eq_ok.mp finished)
    cases returned
    rw [writes.bytes]
    rfl
  have whole : startLine ++ crlf ++ written ++ body =
      wireMessage startLine (headers ++ [lengthHeader length]) body := by
    rw [ended]
    simp [wireMessage, crlf]
  have sectionWithin := ensure_eq_ok.mp sectionFits
  have messageWithin := ensure_eq_ok.mp messageFits
  have counted := writes.counted (by simp)
  rw [writes.count] at counted
  refine ⟨length, whole, HeaderValue.fromBytes_eq_ok (mapError_eq_ok.mp valued),
    ensure_eq_ok.mp startFits, ensure_eq_ok.mp bodyFits, ?_, ?_, writes.fits, ?_, ?_⟩
  · intro header member isLength
    apply ensure_eq_ok.mp unannounced
    exact any_eq_true.mpr ⟨header, member, by simpa using isLength⟩
  · simpa [HeaderSectionWriter.new] using counted
  · simp only [length_append]
    omega
  · simp only [length_append]
    omega

end Serializer
end Sip
end LiveAISIP
