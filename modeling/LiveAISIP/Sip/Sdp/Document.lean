import LiveAISIP.Sip.Sdp.Media

/-!
# Session descriptions

The document parser of `sip/sdp/parser.rs` and the serializer of
`sip/sdp/serializer.rs`.  The parser takes one line after another: the session
lines, which begin with version, origin and name, and then the media sections.

Where the source reserves memory, `grants` tells whether a reservation of that
size is granted.
-/

namespace LiveAISIP
namespace Sip
namespace Sdp

open Ascii

/-- Maximum size of a document. -/
def maxSdpBytes : Nat := 262144

/-- Maximum number of lines in a document. -/
def maxSdpLines : Nat := 2048

/-- Maximum number of media sections in a document. -/
def maxSdpMediaSections : Nat := 64

/-- Maximum number of lines in a media section after the first. -/
def maxSdpMediaLines : Nat := 512

/-- A media section. -/
structure MediaSection where
  media : MediaLine
  lines : List SdpLine
  deriving DecidableEq

/-- A session description. -/
structure SdpDocument where
  sessionLines : List SdpLine
  mediaSections : List MediaSection
  deriving DecidableEq

/-- Failure to parse a document. -/
inductive SdpParseError
  | empty
  | tooLarge (length maximum : Nat)
  | tooManyLines (maximum : Nat)
  | invalidFraming (line : Nat)
  | emptyLine (line : Nat)
  | invalidLine (line : Nat) (source : SdpLineError)
  | unexpectedSessionField (line : Nat) (expected actual : SdpField)
  | duplicateRequiredField (line : Nat) (field : SdpField)
  | missingRequiredSessionField
  | missingTiming
  | invalidMedia (line : Nat) (source : MediaError)
  | tooManyMediaSections (maximum : Nat)
  | sessionFieldInsideMedia (line : Nat) (field : SdpField)
  | tooManyMediaLines (line maximum : Nat)
  | allocationFailed
  deriving DecidableEq

/-- The position of the first CRLF, before any other CR or LF. -/
def findCrlf : Bytes → Option Nat
  | [] => none
  | byte :: rest =>
    if byte = 13 then if rest.head? = some 10 then some 0 else none
    else if byte = 10 then none
    else (findCrlf rest).map (· + 1)

/-- Version, origin and name come first and once. -/
def validateSessionPrefix (field : SdpField) (count line : Nat) : Except SdpParseError Unit :=
  match [SdpField.version, .origin, .sessionName][count]? with
  | some expected =>
    Outcome.ensure (field = expected) (.unexpectedSessionField line expected field)
  | none =>
    Outcome.ensure (field ∉ [.version, .origin, .sessionName]) (.duplicateRequiredField line field)

/-- The field cannot stand in a media section. -/
def isSessionOnly (field : SdpField) : Bool :=
  [SdpField.version, .origin, .sessionName, .uri, .email, .phone, .timing, .repeat_,
    .timeZone].contains field

/-- What the parser has read. -/
structure ParseState where
  sessionLines : List SdpLine
  mediaSections : List MediaSection
  sawTiming : Bool

namespace ParseState

/-- Nothing is read. -/
def new : ParseState := ⟨[], [], false⟩

/-- Begin a media section. -/
def takeMedia
    (grants : Nat → Bool) (number : Nat) (state : ParseState)
    (line : SdpLine) : Except SdpParseError ParseState :=
  if ¬state.sawTiming then .error .missingTiming
  else if maxSdpMediaSections ≤ state.mediaSections.length then
    .error (.tooManyMediaSections maxSdpMediaSections)
  else do
    let media ← (MediaLine.fromBytes grants (wireBytes line.value)).mapError (.invalidMedia number)
    return { state with mediaSections := state.mediaSections ++ [⟨media, []⟩] }

/-- Add a line to the session. -/
def takeSessionLine
    (grants : Nat → Bool) (number : Nat) (state : ParseState)
    (line : SdpLine) : Except SdpParseError ParseState := do
  validateSessionPrefix line.field state.sessionLines.length number
  Outcome.ensure (grants 1 = true) .allocationFailed
  return { state with
    sawTiming := state.sawTiming || line.field = .timing
    sessionLines := state.sessionLines ++ [line] }

/-- Add a line to the last media section. -/
def takeMediaLine
    (grants : Nat → Bool) (number : Nat) (state : ParseState)
    (line : SdpLine) : Except SdpParseError ParseState :=
  if isSessionOnly line.field then .error (.sessionFieldInsideMedia number line.field)
  else
    match state.mediaSections.getLast? with
    | none => .error .allocationFailed
    | some last =>
      if maxSdpMediaLines ≤ last.lines.length then
        .error (.tooManyMediaLines number maxSdpMediaLines)
      else if ¬grants 1 then .error .allocationFailed
      else
        .ok { state with
          mediaSections := state.mediaSections.dropLast ++
            [{ last with lines := last.lines ++ [line] }] }

/-- Take one line. -/
def takeLine
    (grants : Nat → Bool) (number : Nat) (state : ParseState)
    (input : Bytes) : Except SdpParseError ParseState :=
  if input = [] then .error (.emptyLine number)
  else do
    let line ← (SdpLine.fromBytes input).mapError (.invalidLine number)
    if line.field = .media then takeMedia grants number state line
    else if state.mediaSections = [] then takeSessionLine grants number state line
    else takeMediaLine grants number state line

/-- Take the lines that remain, of which there may be this many. -/
def takeLines (grants : Nat → Bool) : Nat → Bytes → ParseState → Except SdpParseError ParseState
  | _, [], state => .ok state
  | 0, _ :: _, _ => .error (.tooManyLines maxSdpLines)
  | remaining + 1, input@(_ :: _), state =>
    let number := maxSdpLines - (remaining + 1)
    match findCrlf input with
    | none => .error (.invalidFraming number)
    | some size => do
      let state ← takeLine grants number state (input.take size)
      takeLines grants remaining (input.drop (size + 2)) state

end ParseState

/-- The mandatory session lines are there. -/
def validateRequiredSession (lines : List SdpLine) (sawTiming : Bool) : Except SdpParseError Unit :=
  if lines.length < 3 then .error .missingRequiredSessionField
  else if ¬sawTiming then .error .missingTiming
  else .ok ()

/-- Parse a document. -/
def parse (grants : Nat → Bool) (input : Bytes) : Except SdpParseError SdpDocument :=
  if input = [] then .error .empty
  else if maxSdpBytes < input.length then .error (.tooLarge input.length maxSdpBytes)
  else do
    let state ← ParseState.takeLines grants maxSdpLines input .new
    validateRequiredSession state.sessionLines state.sawTiming
    return ⟨state.sessionLines, state.mediaSections⟩

/-- Failure to serialize a document. -/
inductive SdpSerializeError
  | lengthOverflow
  | tooLarge (length maximum : Nat)
  | allocationFailed

/-- The size with one more line and its CRLF. -/
def addLine (total lineLength : Nat) : Except SdpSerializeError Nat :=
  if wordSize ≤ total + lineLength + 2 then .error .lengthOverflow
  else .ok (total + lineLength + 2)

/-- The size with these lines. -/
def addLines (total : Nat) (lines : List SdpLine) : Except SdpSerializeError Nat :=
  lines.foldlM (fun total line => addLine total line.length) total

/-- The size with a media section. -/
def addSection (total : Nat) (section_ : MediaSection) : Except SdpSerializeError Nat := do
  let total ← addLine total (section_.media.render.length + 2)
  addLines total section_.lines

/-- The exact size of a serialized document. -/
def serializedLen (document : SdpDocument) : Except SdpSerializeError Nat := do
  let total ← addLines 0 document.sessionLines
  let total ← document.mediaSections.foldlM addSection total
  if maxSdpBytes < total then .error (.tooLarge total maxSdpBytes)
  else .ok total

/-- One line with its CRLF. -/
def pushLine (field : Char) (value : Bytes) : Bytes :=
  field.toNat.toUInt8 :: 61 :: value ++ [13, 10]

/-- The lines with their CRLFs. -/
def pushLines (lines : List SdpLine) : Bytes :=
  lines.flatMap fun line => pushLine line.field.asChar (wireBytes line.value)

/-- Serialize a document. -/
def serialize (grants : Nat → Bool) (document : SdpDocument) :
    Except SdpSerializeError Bytes := do
  let length ← serializedLen document
  Outcome.ensure (grants length = true) .allocationFailed
  return pushLines document.sessionLines ++
    document.mediaSections.flatMap fun section_ =>
      pushLine 'm' section_.media.render ++ pushLines section_.lines

end Sdp
end Sip
end LiveAISIP
