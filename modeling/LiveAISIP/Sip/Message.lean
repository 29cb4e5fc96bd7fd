import LiveAISIP.Sip.Framing
import LiveAISIP.Sip.Header

/-!
# Structural messages

The span-backed representation of `sip/types/message.rs`.  Spans, start lines,
headers and messages carry what their constructors check.
-/

namespace LiveAISIP
namespace Sip

open Framing Outcome

/-- The greatest offset of the compact span representation. -/
def maxSpanOffset : Nat := 4294967295

/-- Failure to construct a span. -/
inductive SpanError
  | reversed (start stop : Nat)
  | offsetTooLarge (value : Nat)
  deriving DecidableEq

/-- A compact half-open byte span. -/
structure Span where
  start : Nat
  stop : Nat
  ordered : start ≤ stop
  compact : stop ≤ maxSpanOffset

namespace Span

/-- Create a byte span. -/
def new (start stop : Nat) : Except SpanError Span :=
  if ordered : start ≤ stop then
    if start ≤ maxSpanOffset then
      if compact : stop ≤ maxSpanOffset then .ok ⟨start, stop, ordered, compact⟩
      else .error (.offsetTooLarge stop)
    else
      .error (.offsetTooLarge start)
  else
    .error (.reversed start stop)

/-- A created span has the requested offsets. -/
theorem new_eq_ok
    {start stop : Nat} {span : Span} (created : new start stop = .ok span) :
    span.start = start ∧ span.stop = stop := by
  unfold new at created
  split_ifs at created
  cases created
  exact ⟨rfl, rfl⟩

/-- The span contains no byte. -/
def IsEmpty (span : Span) : Prop := span.start = span.stop

instance (span : Span) : Decidable span.IsEmpty := inferInstanceAs (Decidable (_ = _))

/-- The other span lies within this one. -/
def Contains (span other : Span) : Prop := span.start ≤ other.start ∧ other.stop ≤ span.stop

instance (span other : Span) : Decidable (span.Contains other) :=
  inferInstanceAs (Decidable (_ ∧ _))

/-- The bytes of the span, when it fits into the input. -/
def get (span : Span) (bytes : Bytes) : Option Bytes :=
  if span.stop ≤ bytes.length then some (slice bytes (span.start, span.stop))
  else none

end Span

/-- Failure to construct metadata before it is attached to a message. -/
inductive LayoutError
  | invalidRequestLine
  | invalidResponseLine
  | invalidHeader
  deriving DecidableEq

/-- The components of a request line lie within it, in wire order. -/
def RequestLayout (line method uri version : Span) : Prop :=
  ¬line.IsEmpty ∧ ¬method.IsEmpty ∧ ¬uri.IsEmpty ∧ ¬version.IsEmpty ∧
    line.Contains method ∧ line.Contains uri ∧ line.Contains version ∧
    method.stop < uri.start ∧ uri.stop < version.start

instance (line method uri version : Span) : Decidable (RequestLayout line method uri version) :=
  inferInstanceAs (Decidable (_ ∧ _))

/-- Structural metadata for a request line. -/
structure RawRequestLine where
  line : Span
  method : Span
  uri : Span
  version : Span
  layout : RequestLayout line method uri version

/-- Create request-line metadata. -/
def RawRequestLine.new (line method uri version : Span) : Except LayoutError RawRequestLine :=
  if layout : RequestLayout line method uri version then .ok ⟨line, method, uri, version, layout⟩
  else .error .invalidRequestLine

/-- The components of a status line lie within it, in wire order. -/
def ResponseLayout (line version status reason : Span) : Prop :=
  ¬line.IsEmpty ∧ ¬version.IsEmpty ∧ ¬status.IsEmpty ∧
    line.Contains version ∧ line.Contains status ∧ line.Contains reason ∧
    version.stop < status.start ∧ status.stop < reason.start

instance (line version status reason : Span) :
    Decidable (ResponseLayout line version status reason) :=
  inferInstanceAs (Decidable (_ ∧ _))

/-- Structural metadata for a status line. -/
structure RawResponseLine where
  line : Span
  version : Span
  status : Span
  reason : Span
  layout : ResponseLayout line version status reason

/-- Create status-line metadata. -/
def RawResponseLine.new (line version status reason : Span) : Except LayoutError RawResponseLine :=
  if layout : ResponseLayout line version status reason then
    .ok ⟨line, version, status, reason, layout⟩
  else
    .error .invalidResponseLine

/-- Structural start-line metadata. -/
inductive RawStartLine
  | request (line : RawRequestLine)
  | response (line : RawResponseLine)

/-- The complete start line without its CRLF. -/
def RawStartLine.lineSpan : RawStartLine → Span
  | .request line => line.line
  | .response line => line.line

/-- Structural metadata for one header field. -/
structure RawHeader where
  nameSpan : Span
  valueSpan : Span
  kind : Option HeaderKind
  named : ¬nameSpan.IsEmpty
  separated : nameSpan.stop < valueSpan.start

namespace RawHeader

/-- Create header metadata. -/
def new (name value : Span) (kind : Option HeaderKind) : Except LayoutError RawHeader :=
  if named : ¬name.IsEmpty then
    if separated : name.stop < value.start then .ok ⟨name, value, kind, named, separated⟩
    else .error .invalidHeader
  else
    .error .invalidHeader

/-- Created metadata has the given parts. -/
theorem new_eq_ok
    {name value : Span} {kind : Option HeaderKind} {header : RawHeader}
    (created : new name value kind = .ok header) :
    header.nameSpan = name ∧ header.valueSpan = value ∧ header.kind = kind := by
  unfold new at created
  split_ifs at created
  cases created
  exact ⟨rfl, rfl, rfl⟩

/-- The complete header field without its last CRLF. -/
def lineSpan (header : RawHeader) : Span where
  start := header.nameSpan.start
  stop := header.valueSpan.stop
  ordered := by
    have := header.nameSpan.ordered
    have := header.separated
    have := header.valueSpan.ordered
    omega
  compact := header.valueSpan.compact

end RawHeader

/-- Failure to attach metadata to a message buffer. -/
inductive BuildError
  | emptyBuffer
  | messageTooLarge (length maximum : Nat)
  | startLineNotAtZero
  | startLineOutOfBounds
  | tooManyHeaders (maximum : Nat)
  | headerOutOfBounds (index : Nat)
  | headersOutOfOrder (index : Nat)
  | bodyOutOfBounds
  | bodyBeforeHeaders
  | bodyNotTerminal
  deriving DecidableEq

/-- Check that headers lie in order within the buffer; the end of the last one
is returned. -/
def checkHeaders (length : Nat) : Nat → Nat → List RawHeader → Except BuildError Nat
  | previousEnd, _, [] => .ok previousEnd
  | previousEnd, index, header :: headers =>
    if length < header.lineSpan.stop then .error (.headerOutOfBounds index)
    else if header.lineSpan.start < previousEnd then .error (.headersOutOfOrder index)
    else checkHeaders length header.lineSpan.stop (index + 1) headers

/-- Immutable structural representation of one framed message. -/
structure RawMessage where
  bytes : Bytes
  startLine : RawStartLine
  headers : List RawHeader
  bodySpan : Span
  bounded : bytes.length ≤ maxMessageBytes
  headerCount : headers.length ≤ maxHeaderCount
  startsAtZero : startLine.lineSpan.start = 0
  bodyTerminal : bodySpan.stop = bytes.length
  ordered : ∃ previousEnd, checkHeaders bytes.length startLine.lineSpan.stop 0 headers =
      .ok previousEnd ∧ previousEnd ≤ bodySpan.start

namespace RawMessage

/-- Attach metadata to the buffer that it describes. -/
def new (bytes : Bytes) (startLine : RawStartLine) (headers : List RawHeader)
    (body : Span) : Except BuildError RawMessage :=
  if bytes.length = 0 then
    .error .emptyBuffer
  else if bounded : bytes.length ≤ maxMessageBytes then
    if headerCount : headers.length ≤ maxHeaderCount then
      if startsAtZero : startLine.lineSpan.start = 0 then
        if bytes.length < startLine.lineSpan.stop then
          .error .startLineOutOfBounds
        else if bytes.length < body.stop then
          .error .bodyOutOfBounds
        else if bodyTerminal : body.stop = bytes.length then
          match checked : checkHeaders bytes.length startLine.lineSpan.stop 0
            headers with
          | .error error => .error error
          | .ok previousEnd =>
            if inOrder : previousEnd ≤ body.start then
              .ok ⟨bytes, startLine, headers, body, bounded, headerCount,
                startsAtZero, bodyTerminal, ⟨previousEnd, checked, inOrder⟩⟩
            else
              .error .bodyBeforeHeaders
        else
          .error .bodyNotTerminal
      else
        .error .startLineNotAtZero
    else
      .error (.tooManyHeaders maxHeaderCount)
  else
    .error (.messageTooLarge bytes.length maxMessageBytes)

/-- A created message has the given parts. -/
theorem new_eq_ok
    {bytes : Bytes} {startLine : RawStartLine} {headers : List RawHeader}
    {body : Span} {message : RawMessage}
    (created : new bytes startLine headers body = .ok message) :
    message.bytes = bytes ∧ message.startLine = startLine ∧
      message.headers = headers ∧ message.bodySpan = body := by
  unfold new at created
  have nonempty := returned_of_refusal created
  obtain ⟨bounded, counted⟩ := returned_of_dite nonempty
  obtain ⟨headerCount, placed⟩ := returned_of_dite counted
  obtain ⟨startsAtZero, inside⟩ := returned_of_dite placed
  have covered := returned_of_refusal (returned_of_refusal inside)
  obtain ⟨bodyTerminal, checked⟩ := returned_of_dite covered
  split at checked
  · cases checked
  · obtain ⟨inOrder, built⟩ := returned_of_dite checked
    cases built
    exact ⟨rfl, rfl, rfl, rfl⟩

/-- The exact body bytes. -/
def body (message : RawMessage) : Bytes :=
  slice message.bytes (message.bodySpan.start, message.bodySpan.stop)

end RawMessage

/-- One header of a message: its name, its raw value after the colon and its
recognized kind. -/
structure RawHeaderView where
  name : Bytes
  value : Bytes
  kind : Option HeaderKind
  deriving DecidableEq

/-- The components of a start line. -/
inductive RawStartLineView
  | request (method uri version : Bytes)
  | response (version status reason : Bytes)

/-- The bytes of a span that lies within the buffer. -/
def Span.slice (span : Span) (bytes : Bytes) : Bytes := Sip.slice bytes (span.start, span.stop)

/-- The components of a start line in the buffer that it describes. -/
def RawStartLine.view (bytes : Bytes) : RawStartLine → RawStartLineView
  | .request line =>
    .request (line.method.slice bytes) (line.uri.slice bytes) (line.version.slice bytes)
  | .response line =>
    .response (line.version.slice bytes) (line.status.slice bytes) (line.reason.slice bytes)

/-- The parts of a header in the buffer that it describes. -/
def RawHeader.view (bytes : Bytes) (header : RawHeader) : RawHeaderView :=
  ⟨header.nameSpan.slice bytes, header.valueSpan.slice bytes, header.kind⟩

/-- The components of the start line. -/
def RawMessage.startLineView (message : RawMessage) : RawStartLineView :=
  message.startLine.view message.bytes

/-- The headers in wire order. -/
def RawMessage.headerViews (message : RawMessage) : List RawHeaderView :=
  message.headers.map (RawHeader.view message.bytes)

end Sip
end LiveAISIP
