import LiveAISIP.Sip.Message

/-!
# Structural message parser

`sip/parser/message.rs`: one already-framed message becomes its span-backed
representation.  Offsets are absolute; the helpers that walk the input take
the bytes from their offset on.
-/

namespace LiveAISIP
namespace Sip
namespace Parser

open Ascii Crlf Outcome
open Framing (maxLineBytes maxHeaderCount maxHeaderBytes maxBodyBytes
  maxMessageBytes)

variable {start : Nat} {input : Bytes}

/-- Longest accepted request method. -/
def maxMethodBytes : Nat := 64

/-- Failure to parse one framed message. -/
inductive ParseError
  | emptyMessage
  | messageTooLarge (length maximum : Nat)
  | emptyStartLine
  | lineTooLong (maximum : Nat)
  | invalidLineEnding (index : Nat)
  | missingLineTerminator (index : Nat)
  | invalidRequestLine
  | invalidResponseLine
  | invalidStartLineByte (index : Nat)
  | invalidReasonPhraseByte (index : Nat) (byte : UInt8)
  | missingHeaderTerminator
  | headerSectionTooLarge (length maximum : Nat)
  | tooManyHeaders (maximum : Nat)
  | continuationWithoutHeader (index : Nat)
  | missingHeaderColon (index : Nat)
  | invalidHeaderName (index : Nat)
  | headerNameTooLong (length maximum : Nat)
  | invalidHeaderValueByte (index : Nat) (byte : UInt8)
  | duplicateContentLength
  | invalidContentLength
  | contentLengthOverflow
  | contentLengthMismatch (declared actual : Nat)
  | bodyTooLarge (length maximum : Nat)
  | offsetOverflow
  | metadataOutOfBounds
  | metadataSpan (error : SpanError)
  | metadataLayout (error : LayoutError)
  | messageBuild (error : BuildError)
  deriving DecidableEq

/-- Make a span of a message. -/
def makeSpan (start stop : Nat) : Except ParseError Span :=
  (Span.new start stop).mapError .metadataSpan

/-- A CRLF stands at the offset. -/
def isCrlfAt (input : Bytes) (index : Nat) : Bool :=
  input[index]? == some cr && input[index + 1]? == some lf

/-- A space or tab stands at the offset. -/
def isWspAt (input : Bytes) (index : Nat) : Bool := input[index]?.any isWsp

/-- Refuse the first invalid byte. -/
def validateBytes
    (invalid : UInt8 → Bool) (refuse : Nat → UInt8 → ParseError)
    (index : Nat) : Bytes → Except ParseError Unit
  | [] => .ok ()
  | byte :: input =>
    if invalid byte then .error (refuse index byte)
    else validateBytes invalid refuse (index + 1) input

/-- Control bytes are invalid in a start-line component. -/
def validateStartLineComponent (input : Bytes) : Except ParseError Unit :=
  validateBytes isControl (fun index _ => .invalidStartLineByte index) 0 input

/-- Control bytes other than tab are invalid in a reason phrase. -/
def validateReasonPhrase (input : Bytes) : Except ParseError Unit :=
  validateBytes (fun byte => isControl byte && byte != 9) .invalidReasonPhraseByte 0 input

/-- Control bytes other than tab are invalid in a line of a field value. -/
def validateFieldValueLine (input : Bytes) (start stop : Nat) : Except ParseError Unit :=
  validateBytes (fun byte => isControl byte && byte != 9)
    .invalidHeaderValueByte start (slice input (start, stop))

/-- Seek the CRLF of the line that began at `start`, from `index` on. -/
def seekLineEnd (start index : Nat) : Bytes → Except ParseError Nat
  | [] => .error (.missingLineTerminator start)
  | byte :: input =>
    if maxLineBytes < index - start then
      .error (.lineTooLong maxLineBytes)
    else if byte = cr then
      if input.head? = some lf then .ok index
      else .error (.invalidLineEnding index)
    else if byte = lf then
      .error (.invalidLineEnding index)
    else
      seekLineEnd start (index + 1) input

/-- The end of the line that begins at `start`. -/
def findLineEnd (input : Bytes) (start : Nat) : Except ParseError Nat :=
  if input.length ≤ start then .error (.missingLineTerminator start)
  else seekLineEnd start start (input.drop start)

/-- Split a start line at its first two spaces: the offset of each. -/
def findSpaces (line : Bytes) (refuse : ParseError) : Except ParseError (Nat × Nat) :=
  match line.idxOf? 32 with
  | none => .error refuse
  | some firstSpace =>
    match (line.drop (firstSpace + 1)).idxOf? 32 with
    | none => .error refuse
    | some relative => .ok (firstSpace, firstSpace + 1 + relative)

/-- Parse a request line. -/
def parseRequestLine (line : Bytes) : Except ParseError RawStartLine := do
  let (firstSpace, secondSpace) ← findSpaces line .invalidRequestLine
  let method := line.take firstSpace
  let uri := slice line (firstSpace + 1, secondSpace)
  let version := line.drop (secondSpace + 1)
  ensure (method ≠ [] ∧ uri ≠ [] ∧ version ≠ [] ∧
    method.length ≤ maxMethodBytes ∧ method.all isTokenByte ∧
    ¬uri.any isWsp ∧ ¬version.any isWsp) .invalidRequestLine
  validateStartLineComponent uri
  validateStartLineComponent version
  let lineSpan ← makeSpan 0 line.length
  let methodSpan ← makeSpan 0 firstSpace
  let uriSpan ← makeSpan (firstSpace + 1) secondSpace
  let versionSpan ← makeSpan (secondSpace + 1) line.length
  let request ← (RawRequestLine.new lineSpan methodSpan uriSpan
    versionSpan).mapError .metadataLayout
  return .request request

/-- Parse a status line. -/
def parseResponseLine (line : Bytes) : Except ParseError RawStartLine := do
  let (firstSpace, secondSpace) ← findSpaces line .invalidResponseLine
  let version := line.take firstSpace
  let status := slice line (firstSpace + 1, secondSpace)
  let reason := line.drop (secondSpace + 1)
  ensure (version ≠ [] ∧ status.length = 3 ∧ status.all isDigit ∧
    ¬version.any isWsp) .invalidResponseLine
  validateStartLineComponent version
  validateReasonPhrase reason
  let lineSpan ← makeSpan 0 line.length
  let versionSpan ← makeSpan 0 firstSpace
  let statusSpan ← makeSpan (firstSpace + 1) secondSpace
  let reasonSpan ← makeSpan (secondSpace + 1) line.length
  let response ← (RawResponseLine.new lineSpan versionSpan statusSpan
    reasonSpan).mapError .metadataLayout
  return .response response

/-- Parse a start line. -/
def parseStartLine (line : Bytes) : Except ParseError RawStartLine :=
  if eqIgnoreCase (line.take 4) (wireBytes "SIP/") then parseResponseLine line
  else parseRequestLine line

/-- The offset after the last byte before `stop` that is no space or tab. -/
def trimTrailingWspIndex (input : Bytes) (start : Nat) : Nat → Nat
  | 0 => 0
  | index + 1 =>
    if start < index + 1 ∧ isWspAt input index then trimTrailingWspIndex input start index
    else index + 1

/-- The offset of the colon of a header line. -/
def findColon (line : Bytes) (start : Nat) : Except ParseError Nat :=
  match line.idxOf? 58 with
  | none => .error (.missingHeaderColon start)
  | some relativeColon => .ok (start + relativeColon)

theorem le_of_seekLineEnd
    {index lineEnd : Nat} (found : seekLineEnd start index input = .ok lineEnd) :
    index ≤ lineEnd := by
  induction input generalizing index with
  | nil => simp [seekLineEnd] at found
  | cons byte input ih =>
    simp only [seekLineEnd] at found
    split_ifs at found
    · cases found
      exact Nat.le_refl _
    · exact Nat.le_of_succ_le (ih found)

theorem le_of_findLineEnd {lineEnd : Nat} (found : findLineEnd input start = .ok lineEnd) :
    start ≤ lineEnd := by
  unfold findLineEnd at found
  split_ifs at found
  exact le_of_seekLineEnd found

/-- A continuation line stands at the offset. -/
def IsFoldedAt (input : Bytes) (offset : Nat) : Prop :=
  offset < input.length ∧ isCrlfAt input offset = false ∧ isWspAt input offset = true

instance (input : Bytes) (offset : Nat) : Decidable (IsFoldedAt input offset) :=
  inferInstanceAs (Decidable (_ ∧ _ ∧ _))

/-- Take the continuation lines of a field: the end of the field and the
offset after it. -/
def foldLines (input : Bytes) (fieldEnd nextOffset : Nat) : Except ParseError (Nat × Nat) :=
  if _folded : IsFoldedAt input nextOffset then
    match _found : findLineEnd input nextOffset with
    | .error error => .error error
    | .ok continuationEnd =>
      match validateFieldValueLine input nextOffset continuationEnd with
      | .error error => .error error
      | .ok () => foldLines input continuationEnd (continuationEnd + 2)
  else
    .ok (fieldEnd, nextOffset)
termination_by input.length - nextOffset
decreasing_by
  have forward := le_of_findLineEnd _found
  have inside := _folded.1
  omega

/-- One parsed header field and the offset after it. -/
structure ParsedHeader where
  header : RawHeader
  nextOffset : Nat
  isContentLength : Bool

/-- Parse the header field that begins at `start`. -/
def parseHeader (input : Bytes) (start : Nat) :
    Except ParseError ParsedHeader := do
  let firstLineEnd ← findLineEnd input start
  let colon ← findColon (slice input (start, firstLineEnd)) start
  let nameEnd := trimTrailingWspIndex input start colon
  ensure (nameEnd ≠ start) (.invalidHeaderName start)
  ensure (nameEnd - start ≤ maxHeaderNameBytes)
    (.headerNameTooLong (nameEnd - start) maxHeaderNameBytes)
  let name := slice input (start, nameEnd)
  ensure (name.all isTokenByte) (.invalidHeaderName start)
  ensure ((slice input (nameEnd, colon)).all isWsp) (.invalidHeaderName start)
  validateFieldValueLine input (colon + 1) firstLineEnd
  let (fieldEnd, nextOffset) ← foldLines input firstLineEnd (firstLineEnd + 2)
  let nameSpan ← makeSpan start nameEnd
  let valueSpan ← makeSpan (colon + 1) fieldEnd
  let kind := HeaderKind.fromNameBytes name
  let header ← (RawHeader.new nameSpan valueSpan kind).mapError .metadataLayout
  return ⟨header, nextOffset, kind = some .contentLength⟩

/-- Skip spaces, tabs and folds; the bytes from the first other one on are
returned. -/
def skipLinearWhitespace : Bytes → Except ParseError Bytes
  | [] => .ok []
  | byte :: input =>
    if isWsp byte then
      skipLinearWhitespace input
    else if byte = cr then
      match input with
      | next :: continuation :: input =>
        if next = lf ∧ isWsp continuation then skipLinearWhitespace input
        else .error .invalidContentLength
      | _ => .error .invalidContentLength
    else
      .ok (byte :: input)

/-- The value of decimal digits that must not overflow. -/
def decodeDigits (digits : Bytes) : Except ParseError Nat :=
  match decimal 0 digits with
  | none => .error .contentLengthOverflow
  | some value => .ok value

/-- Decode the raw value of a `Content-Length` field. -/
def parseContentLength (input : Bytes) : Except ParseError Nat := do
  let start ← skipLinearWhitespace input
  let digits := start.takeWhile isDigit
  ensure (digits ≠ []) .invalidContentLength
  let value ← decodeDigits digits
  let rest ← skipLinearWhitespace (start.dropWhile isDigit)
  ensure (rest = []) .invalidContentLength
  ensure (value ≤ maxBodyBytes) (.bodyTooLarge value maxBodyBytes)
  return value

/-- The declared body length after one more header field. -/
def declareLength (bytes : Bytes) (parsed : ParsedHeader)
    (contentLength : Option Nat) : Except ParseError (Option Nat) := do
  if parsed.isContentLength then
    ensure (contentLength = none) .duplicateContentLength
    match parsed.header.valueSpan.get bytes with
    | none => .error .metadataOutOfBounds
    | some rawValue =>
      let length ← parseContentLength rawValue
      return some length
  else
    return contentLength

theorem le_of_foldLines {fieldEnd nextOffset fieldEnd' nextOffset' : Nat}
    (taken : foldLines input fieldEnd nextOffset = .ok (fieldEnd', nextOffset')) :
    nextOffset ≤ nextOffset' := by
  fun_induction foldLines input fieldEnd nextOffset with
  | case1 | case2 => cases taken
  | case3 fieldEnd nextOffset folded continuationEnd found valid
      ih =>
      have forward := le_of_findLineEnd found
      have later := ih taken
      omega
  | case4 =>
    cases taken
    exact Nat.le_refl _

/-- What was found on the way to a parsed header field. -/
theorem parseHeader_parts {parsed : ParsedHeader}
    (taken : parseHeader input start = .ok parsed) :
    ∃ firstLineEnd colon fieldEnd nameSpan valueSpan name,
      findLineEnd input start = .ok firstLineEnd ∧
      findColon (slice input (start, firstLineEnd)) start = .ok colon ∧
      trimTrailingWspIndex input start colon ≠ start ∧
      name = slice input (start, trimTrailingWspIndex input start colon) ∧
      name.all isTokenByte = true ∧
      foldLines input firstLineEnd (firstLineEnd + 2) = .ok (fieldEnd, parsed.nextOffset) ∧
      makeSpan (colon + 1) fieldEnd = .ok valueSpan ∧
      RawHeader.new nameSpan valueSpan (HeaderKind.fromNameBytes name) = .ok parsed.header ∧
      parsed.isContentLength = decide (HeaderKind.fromNameBytes name = some .contentLength) := by
  unfold parseHeader at taken
  obtain ⟨firstLineEnd, found, taken⟩ := bind_eq_ok.mp taken
  obtain ⟨colon, foundColon, taken⟩ := bind_eq_ok.mp taken
  obtain ⟨_, named, taken⟩ := bind_eq_ok.mp taken
  obtain ⟨_, -, taken⟩ := bind_eq_ok.mp taken
  obtain ⟨_, token, taken⟩ := bind_eq_ok.mp taken
  obtain ⟨_, -, taken⟩ := bind_eq_ok.mp taken
  obtain ⟨_, -, taken⟩ := bind_eq_ok.mp taken
  obtain ⟨⟨fieldEnd, nextOffset⟩, folded, taken⟩ := bind_eq_ok.mp taken
  obtain ⟨nameSpan, -, taken⟩ := bind_eq_ok.mp taken
  obtain ⟨valueSpan, spanned, taken⟩ := bind_eq_ok.mp taken
  obtain ⟨header, built, taken⟩ := bind_eq_ok.mp taken
  cases taken
  exact ⟨firstLineEnd, colon, fieldEnd, nameSpan, valueSpan, _, found,
    foundColon, ensure_eq_ok.mp named, rfl, ensure_eq_ok.mp token, folded,
    spanned, mapError_eq_ok.mp built, rfl⟩

/-- A parsed header field moves the offset on. -/
theorem lt_of_parseHeader {parsed : ParsedHeader}
    (taken : parseHeader input start = .ok parsed) :
    start < parsed.nextOffset := by
  obtain ⟨firstLineEnd, _, _, _, _, _, found, -, -, -, -, folded, -⟩ := parseHeader_parts taken
  have forward := le_of_findLineEnd found
  have later := le_of_foldLines folded
  omega

/-- A complete header section. -/
structure HeaderSection where
  bodyStart : Nat
  headers : List RawHeader
  contentLength : Option Nat

/-- Parse the header fields from `offset` on. -/
def parseHeaders (bytes : Bytes) (offset : Nat) (headers : List RawHeader)
    (contentLength : Option Nat) : Except ParseError HeaderSection :=
  if maxHeaderBytes < offset then
    .error (.headerSectionTooLarge offset maxHeaderBytes)
  else if _ended : bytes.length ≤ offset then
    .error .missingHeaderTerminator
  else if isCrlfAt bytes offset then
    if maxHeaderBytes < offset + 2 then .error (.headerSectionTooLarge (offset + 2) maxHeaderBytes)
    else .ok ⟨offset + 2, headers, contentLength⟩
  else if isWspAt bytes offset then
    .error (.continuationWithoutHeader offset)
  else if maxHeaderCount ≤ headers.length then
    .error (.tooManyHeaders maxHeaderCount)
  else
    match _parsed : parseHeader bytes offset with
    | .error error => .error error
    | .ok parsed =>
      if maxHeaderBytes < parsed.nextOffset then
        .error (.headerSectionTooLarge parsed.nextOffset maxHeaderBytes)
      else
        match declareLength bytes parsed contentLength with
        | .error error => .error error
        | .ok contentLength =>
          parseHeaders bytes parsed.nextOffset (headers ++ [parsed.header]) contentLength
termination_by bytes.length - offset
decreasing_by
  have forward := lt_of_parseHeader _parsed
  omega

/-- Check the size of a message. -/
def validateMessageSize (length : Nat) : Except ParseError Unit := do
  ensure (length ≠ 0) .emptyMessage
  ensure (length ≤ maxMessageBytes) (.messageTooLarge length maxMessageBytes)

/-- A declared body length is the actual one. -/
def checkDeclaredLength (contentLength : Option Nat) (bodyLength : Nat) : Except ParseError Unit :=
  match contentLength with
  | none => .ok ()
  | some declared =>
    ensure (declared = bodyLength) (.contentLengthMismatch declared bodyLength)

/-- Parse one owned, already-framed message. -/
def parse (bytes : Bytes) : Except ParseError RawMessage := do
  validateMessageSize bytes.length
  let startLineEnd ← findLineEnd bytes 0
  ensure (startLineEnd ≠ 0) .emptyStartLine
  let startLine ← parseStartLine (bytes.take startLineEnd)
  let parsed ← parseHeaders bytes (startLineEnd + 2) [] none
  ensure (parsed.bodyStart ≤ bytes.length) .offsetOverflow
  let bodyLength := bytes.length - parsed.bodyStart
  ensure (bodyLength ≤ maxBodyBytes) (.bodyTooLarge bodyLength maxBodyBytes)
  checkDeclaredLength parsed.contentLength bodyLength
  let body ← makeSpan parsed.bodyStart bytes.length
  (RawMessage.new bytes startLine parsed.headers body).mapError .messageBuild

end Parser
end Sip
end LiveAISIP
