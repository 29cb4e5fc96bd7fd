import LiveAISIP.Library.Ascii
import LiveAISIP.Library.Crlf
import LiveAISIP.Library.Outcome
import LiveAISIP.Sip.Types

/-!
# SIP wire-message framing

`sip/framing.rs`: the boundary of the first message of a byte stream or of a
datagram, found before the message is parsed.  The scanner takes the bytes
from its position on and the number of header bytes before that position.
-/

namespace LiveAISIP
namespace Sip

/-- The bytes of a half-open range. -/
def slice (input : Bytes) (range : Nat × Nat) : Bytes := input.extract range.1 range.2

namespace Framing

open Ascii Crlf

variable {input line : Bytes} {consumed : Nat}

/-- Maximum accepted length of one physical line, excluding its CRLF. -/
def maxLineBytes : Nat := 8 * 1024

/-- Maximum number of logical header fields. -/
def maxHeaderCount : Nat := 128

/-- Maximum accepted size of the start line and header section. -/
def maxHeaderBytes : Nat := 64 * 1024

/-- Maximum accepted body size. -/
def maxBodyBytes : Nat := 1024 * 1024

/-- Maximum accepted size of one framed message. -/
def maxMessageBytes : Nat := maxHeaderBytes + maxBodyBytes

/-- Transport framing mode. -/
inductive Mode
  | stream
  | datagram

/-- Location and size information for one complete message. -/
structure Boundary where
  messageOffset : Nat
  headerBytes : Nat
  bodyBytes : Nat
  messageBytes : Nat
  consumedBytes : Nat
  deriving DecidableEq

/-- The byte range of the complete message. -/
def Boundary.messageRange (boundary : Boundary) : Nat × Nat :=
  (boundary.messageOffset, boundary.messageOffset + boundary.messageBytes)

/-- The byte range of the message body. -/
def Boundary.bodyRange (boundary : Boundary) : Nat × Nat :=
  let bodyStart := boundary.messageOffset + boundary.headerBytes
  (bodyStart, bodyStart + boundary.bodyBytes)

/-- Result of inspecting an input buffer. -/
inductive Status
  | needMoreData (requiredTotal : Option Nat)
  | complete (boundary : Boundary)
  deriving DecidableEq

/-- Framing failure. -/
inductive Error
  | headerTooLarge
  | lineTooLong
  | tooManyHeaders
  | invalidStartLine
  | invalidHeaderSyntax
  | invalidHeaderName
  | invalidLineEnding
  | missingContentLength
  | duplicateContentLength
  | invalidContentLength
  | contentLengthOverflow
  | bodyTooLarge
  | messageTooLarge
  | truncatedDatagram
  deriving DecidableEq

/-- Incremental decoder of a possibly folded `Content-Length` value. -/
structure ContentLengthParser where
  value : Nat
  sawDigit : Bool
  trailingWhitespace : Bool

namespace ContentLengthParser

/-- The decoder before any byte. -/
def new : ContentLengthParser := ⟨0, false, false⟩

/-- Decode one byte. -/
def pushByte (parser : ContentLengthParser) (byte : UInt8) : Except Error ContentLengthParser :=
  if isDigit byte then
    if parser.trailingWhitespace then
      .error .invalidContentLength
    else
      match pushDigit parser.value byte with
      | none => .error .contentLengthOverflow
      | some value => .ok ⟨value, true, parser.trailingWhitespace⟩
  else if isWsp byte then
    .ok (if parser.sawDigit then ⟨parser.value, parser.sawDigit, true⟩ else parser)
  else
    .error .invalidContentLength

/-- Decode the bytes of one physical line. -/
def push (parser : ContentLengthParser) : Bytes → Except Error ContentLengthParser
  | [] => .ok parser
  | byte :: input =>
    match parser.pushByte byte with
    | .error error => .error error
    | .ok parser => parser.push input

/-- The decoded length. -/
def finish (parser : ContentLengthParser) : Except Error Nat :=
  if parser.sawDigit then .ok parser.value else .error .invalidContentLength

end ContentLengthParser

/-- Decode the `Content-Length` field that has just ended, if there is one. -/
def finalizeContentLength
    (active : Option ContentLengthParser)
    (contentLength : Option Nat) : Except Error (Option Nat) :=
  match active with
  | none => .ok contentLength
  | some parser =>
    if contentLength.isSome then
      .error .duplicateContentLength
    else
      match parser.finish with
      | .error error => .error error
      | .ok length => .ok (some length)

/-- The length of the first line, once its CRLF is complete. -/
def findLineEnd : Bytes → Except Error (Option Nat)
  | [] => .ok none
  | byte :: input =>
    if byte = cr then
      match input with
      | [] => .ok none
      | next :: _ => if next = lf then .ok (some 0) else .error .invalidLineEnding
    else if byte = lf then
      .error .invalidLineEnding
    else
      match findLineEnd input with
      | .error error => .error error
      | .ok none => .ok none
      | .ok (some lineEnd) => .ok (some (lineEnd + 1))

/-- Drop the trailing spaces and tabs. -/
def trimTrailingWhitespace (input : Bytes) : Bytes := (input.reverse.dropWhile isWsp).reverse

/-- The header name announces the length of the body. -/
def isContentLengthName (name : Bytes) : Bool := eqIgnoreCase name (wireBytes "Content-Length") ||
    eqIgnoreCase name (wireBytes "l")

/-- Split a header line into its name and its value. -/
def splitHeader (line : Bytes) : Except Error (Bytes × Bytes) :=
  match line.idxOf? 58 with
  | none => .error .invalidHeaderSyntax
  | some colon =>
    let name := trimTrailingWhitespace (line.take colon)
    if name = [] then .error .invalidHeaderName
    else if name.all isTokenByte then .ok (name, line.drop (colon + 1))
    else .error .invalidHeaderName

/-- The line is folded into the header field before it. -/
def IsContinuation (line : Bytes) : Prop := ∃ byte ∈ line.head?, isWsp byte = true

instance (line : Bytes) : Decidable (IsContinuation line) := Option.decidableExistsMem line.head?

/-- Check what framing needs of a start line. -/
def validateStartLine (line : Bytes) : Except Error Unit :=
  if line = [] ∨ IsContinuation line then .error .invalidStartLine else .ok ()

/-- What the scanner remembers between lines. -/
structure ScanState where
  firstLine : Bool
  headerCount : Nat
  previousHeader : Bool
  contentLength : Option Nat
  activeContentLength : Option ContentLengthParser

variable {scan : ScanState}

/-- The scanner before the start line. -/
def ScanState.new : ScanState := ⟨true, 0, false, none, none⟩

/-- What a line means to the scanner: the next state, or the end of the header
section with the declared body length. -/
inductive LineStep
  | next (scan : ScanState)
  | done (contentLength : Option Nat)

variable {step : LineStep}

/-- Scan a continuation line. -/
def scanContinuation (scan : ScanState) (line : Bytes) : Except Error LineStep :=
  if scan.previousHeader then
    match scan.activeContentLength with
    | none => .ok (.next scan)
    | some parser =>
      match parser.push line with
      | .error error => .error error
      | .ok parser =>
        .ok (.next { scan with activeContentLength := some parser })
  else
    .error .invalidHeaderSyntax

/-- Scan the first line of a header field, once the field before it has been
finalized. -/
def scanHeaderLine (scan : ScanState) (contentLength : Option Nat)
    (line : Bytes) : Except Error LineStep :=
  if maxHeaderCount < scan.headerCount + 1 then
    .error .tooManyHeaders
  else
    match splitHeader line with
    | .error error => .error error
    | .ok (name, value) =>
      if isContentLengthName name then
        if contentLength.isSome then
          .error .duplicateContentLength
        else
          match ContentLengthParser.new.push value with
          | .error error => .error error
          | .ok parser =>
            .ok (.next ⟨false, scan.headerCount + 1, true, contentLength, some parser⟩)
      else
        .ok (.next ⟨false, scan.headerCount + 1, true, contentLength, none⟩)

/-- Scan one complete line within the size limits. -/
def scanLine (scan : ScanState) (line : Bytes) : Except Error LineStep :=
  if scan.firstLine then
    match validateStartLine line with
    | .error error => .error error
    | .ok () => .ok (.next { scan with firstLine := false })
  else if line = [] then
    match finalizeContentLength scan.activeContentLength scan.contentLength with
    | .error error => .error error
    | .ok contentLength => .ok (.done contentLength)
  else if IsContinuation line then
    scanContinuation scan line
  else
    match finalizeContentLength scan.activeContentLength scan.contentLength with
    | .error error => .error error
    | .ok contentLength => scanHeaderLine scan contentLength line

/-- A complete header section. -/
structure HeaderScan where
  headerBytes : Nat
  contentLength : Option Nat

/-- The limits on a header section whose end has not arrived. -/
def enforceIncompleteLimits
    (currentLineBytes currentHeaderBytes : Nat) : Except Error Unit :=
  if maxLineBytes < currentLineBytes then .error .lineTooLong
  else if maxHeaderBytes < currentHeaderBytes then .error .headerTooLarge
  else .ok ()

/-- A header section whose end has not arrived. -/
def incompleteHeaders : Mode → Except Error (Option HeaderScan)
  | .stream => .ok none
  | .datagram => .error .truncatedDatagram

/-- A complete first line fits into the input. -/
theorem findLineEnd_lt {lineEnd : Nat} (found : findLineEnd input = .ok (some lineEnd)) :
    lineEnd + 1 < input.length := by
  induction input generalizing lineEnd with
  | nil => simp [findLineEnd] at found
  | cons byte input ih =>
    unfold findLineEnd at found
    by_cases isCr : byte = cr
    · rw [if_pos isCr] at found
      cases input with
      | nil => simp at found
      | cons next input =>
        simp only at found
        split_ifs at found
        cases found
        simp
    · rw [if_neg isCr] at found
      split_ifs at found
      cases later : findLineEnd input with
      | error error => simp [later] at found
      | ok result =>
        cases result with
        | none => simp [later] at found
        | some laterEnd =>
          have bound := ih later
          simp only [later, Except.ok.injEq, Option.some.injEq] at found
          simp only [List.length_cons]
          omega

/-- Scan the header section from the bytes `input` on, of which `consumed`
header bytes came before. -/
def scanHeaders
    (mode : Mode) (input : Bytes) (consumed : Nat)
    (scan : ScanState) : Except Error (Option HeaderScan) :=
  match _found : findLineEnd input with
  | .error error => .error error
  | .ok none =>
    match enforceIncompleteLimits input.length (consumed + input.length) with
    | .error error => .error error
    | .ok () => incompleteHeaders mode
  | .ok (some lineBytes) =>
    let totalHeaderBytes := consumed + (lineBytes + 2)
    if maxLineBytes < lineBytes then
      .error .lineTooLong
    else if maxHeaderBytes < totalHeaderBytes then
      .error .headerTooLarge
    else
      match scanLine scan (input.take lineBytes) with
      | .error error => .error error
      | .ok (.done contentLength) => .ok (some ⟨totalHeaderBytes, contentLength⟩)
      | .ok (.next scan) =>
        scanHeaders mode (input.drop (lineBytes + 2)) totalHeaderBytes scan
termination_by input.length
decreasing_by
  have bound := findLineEnd_lt _found
  simp only [List.length_drop]
  omega

theorem findLineEnd_of_begins
    {rest : Bytes} (begins : Begins input line rest) :
    findLineEnd input = .ok (some line.length) := by
  obtain ⟨clean, rfl⟩ := begins
  induction line with
  | nil => simp [findLineEnd]
  | cons byte line ih =>
    obtain ⟨⟨notCr, notLf⟩, clean⟩ := (clean_cons byte line).mp clean
    simp [findLineEnd, notCr, notLf, ih clean]

theorem findLineEnd_of_pending (pending : Pending input line) :
    findLineEnd input = .ok none := by
  obtain ⟨clean, stops⟩ := pending
  induction line generalizing input with
  | nil => rcases stops with rfl | rfl <;> simp [findLineEnd]
  | cons byte line ih =>
    obtain ⟨⟨notCr, notLf⟩, clean⟩ := (clean_cons byte line).mp clean
    rcases stops with rfl | rfl
    · simp [findLineEnd, notCr, notLf, ih clean (.inl rfl)]
    · simp [findLineEnd, notCr, notLf, ih clean (.inr rfl)]

theorem findLineEnd_of_broken (broken : Broken input) :
    findLineEnd input = .error .invalidLineEnding := by
  have seeks (line tail : Bytes) (clean : Clean line)
      (breaks : findLineEnd tail = .error .invalidLineEnding) :
      findLineEnd (line ++ tail) = .error .invalidLineEnding := by
    induction line with
    | nil => exact breaks
    | cons byte line ih =>
      obtain ⟨⟨notCr, notLf⟩, clean⟩ := (clean_cons byte line).mp clean
      simp [findLineEnd, notCr, notLf, ih clean]
  cases broken with
  | bareLf clean => exact seeks _ _ clean (by simp [findLineEnd, cr_ne_lf.symm])
  | bareCr clean other => exact seeks _ _ clean (by simp [findLineEnd, other])

/-- The field that has ended settles the declared body length. -/
def ScanState.Settles (scan : ScanState) (contentLength : Option Nat) : Prop :=
  finalizeContentLength scan.activeContentLength scan.contentLength = .ok contentLength

/-- The ways in which a line is accepted. -/
inductive Scans (scan : ScanState) (line : Bytes) : LineStep → Prop
  | start (first : scan.firstLine = true) (nonempty : line ≠ [])
      (unfolded : ¬IsContinuation line) :
      Scans scan line (.next { scan with firstLine := false })
  | blank {contentLength : Option Nat} (inside : scan.firstLine = false)
      (empty : line = []) (settled : scan.Settles contentLength) :
      Scans scan line (.done contentLength)
  | fold (inside : scan.firstLine = false) (folded : IsContinuation line)
      (previous : scan.previousHeader = true)
      (inactive : scan.activeContentLength = none) :
      Scans scan line (.next scan)
  | foldLength {parser pushed : ContentLengthParser}
      (inside : scan.firstLine = false) (folded : IsContinuation line)
      (previous : scan.previousHeader = true)
      (active : scan.activeContentLength = some parser)
      (decoded : parser.push line = .ok pushed) :
      Scans scan line (.next { scan with activeContentLength := some pushed })
  | header {contentLength : Option Nat} {name value : Bytes}
      (inside : scan.firstLine = false) (nonempty : line ≠ [])
      (unfolded : ¬IsContinuation line) (settled : scan.Settles contentLength)
      (room : scan.headerCount < maxHeaderCount)
      (parts : splitHeader line = .ok (name, value))
      (other : isContentLengthName name = false) :
      Scans scan line (.next ⟨false, scan.headerCount + 1, true, contentLength, none⟩)
  | lengthHeader {name value : Bytes} {parser : ContentLengthParser}
      (inside : scan.firstLine = false) (nonempty : line ≠ [])
      (unfolded : ¬IsContinuation line) (settled : scan.Settles none)
      (room : scan.headerCount < maxHeaderCount)
      (parts : splitHeader line = .ok (name, value))
      (isLength : isContentLengthName name = true)
      (decoded : ContentLengthParser.new.push value = .ok parser) :
      Scans scan line (.next ⟨false, scan.headerCount + 1, true, none, some parser⟩)

theorem IsContinuation.ne_nil (folded : IsContinuation line) :
    line ≠ [] := by
  rintro rfl
  obtain ⟨byte, member, -⟩ := folded
  cases member

theorem scans_of_scanContinuation
    (inside : scan.firstLine = false) (folded : IsContinuation line)
    (scanned : scanContinuation scan line = .ok step) :
    Scans scan line step := by
  unfold scanContinuation at scanned
  by_cases previous : scan.previousHeader = true
  · rw [if_pos previous] at scanned
    cases active : scan.activeContentLength with
    | none =>
      simp only [active, Except.ok.injEq] at scanned
      subst scanned
      exact .fold inside folded previous active
    | some parser =>
      cases decoded : parser.push line with
      | error error => simp [active, decoded] at scanned
      | ok pushed =>
        simp only [active, decoded, Except.ok.injEq] at scanned
        subst scanned
        exact .foldLength inside folded previous active decoded
  · rw [if_neg previous] at scanned
    cases scanned

theorem scans_of_scanHeaderLine
    {contentLength : Option Nat} (inside : scan.firstLine = false)
    (nonempty : line ≠ []) (unfolded : ¬IsContinuation line) (settled : scan.Settles contentLength)
    (scanned : scanHeaderLine scan contentLength line = .ok step) :
    Scans scan line step := by
  unfold scanHeaderLine at scanned
  by_cases full : maxHeaderCount < scan.headerCount + 1
  · rw [if_pos full] at scanned
    cases scanned
  · rw [if_neg full] at scanned
    have room : scan.headerCount < maxHeaderCount := by omega
    cases parts : splitHeader line with
    | error error => simp [parts] at scanned
    | ok pair =>
      obtain ⟨name, value⟩ := pair
      simp only [parts] at scanned
      by_cases isLength : isContentLengthName name = true
      · rw [if_pos isLength] at scanned
        cases contentLength with
        | some length => cases scanned
        | none =>
          cases decoded : ContentLengthParser.new.push value with
          | error error => simp [decoded] at scanned
          | ok parser =>
            simp only [decoded, Option.isSome_none, Bool.false_eq_true,
              ↓reduceIte, Except.ok.injEq] at scanned
            subst scanned
            exact .lengthHeader inside nonempty unfolded settled room parts isLength decoded
      · rw [if_neg isLength] at scanned
        cases scanned
        exact .header inside nonempty unfolded settled room parts (by simpa using isLength)

theorem scans_of_scanLine (scanned : scanLine scan line = .ok step) :
    Scans scan line step := by
  unfold scanLine at scanned
  by_cases first : scan.firstLine = true
  · rw [if_pos first, validateStartLine] at scanned
    by_cases refused : line = [] ∨ IsContinuation line
    · simp [refused] at scanned
    · simp only [refused, ↓reduceIte, Except.ok.injEq] at scanned
      obtain ⟨nonempty, unfolded⟩ := not_or.mp refused
      subst scanned
      exact .start first nonempty unfolded
  · rw [if_neg first] at scanned
    have inside : scan.firstLine = false := by simpa using first
    cases settled : finalizeContentLength scan.activeContentLength
      scan.contentLength with
    | error error =>
      by_cases empty : line = []
      · simp [empty, settled] at scanned
      · by_cases folded : IsContinuation line
        · rw [if_neg empty, if_pos folded] at scanned
          exact scans_of_scanContinuation inside folded scanned
        · simp [empty, folded, settled] at scanned
    | ok contentLength =>
      simp only [settled] at scanned
      by_cases empty : line = []
      · rw [if_pos empty] at scanned
        cases scanned
        exact .blank inside empty settled
      · rw [if_neg empty] at scanned
        by_cases folded : IsContinuation line
        · rw [if_pos folded] at scanned
          exact scans_of_scanContinuation inside folded scanned
        · rw [if_neg folded] at scanned
          exact scans_of_scanHeaderLine inside empty folded settled scanned

/-- A line is accepted in exactly these ways. -/
theorem scanLine_eq_ok_iff :
    scanLine scan line = .ok step ↔ Scans scan line step := by
  refine ⟨scans_of_scanLine, fun scans => ?_⟩
  cases scans with
  | start first nonempty unfolded =>
    simp [scanLine, first, validateStartLine, nonempty, unfolded]
  | blank inside empty settled =>
    unfold ScanState.Settles at settled
    simp [scanLine, inside, empty, settled]
  | fold inside folded previous inactive =>
    simp [scanLine, inside, folded.ne_nil, folded, scanContinuation, previous, inactive]
  | foldLength inside folded previous active decoded =>
    simp [scanLine, inside, folded.ne_nil, folded, scanContinuation, previous, active, decoded]
  | header inside nonempty unfolded settled room parts other =>
    unfold ScanState.Settles at settled
    simp [scanLine, inside, nonempty, unfolded, settled, scanHeaderLine,
      Nat.not_lt.mpr (Nat.succ_le_of_lt room), parts, other]
  | lengthHeader inside nonempty unfolded settled room parts isLength decoded =>
    unfold ScanState.Settles at settled
    simp [scanLine, inside, nonempty, unfolded, settled, scanHeaderLine,
      Nat.not_lt.mpr (Nat.succ_le_of_lt room), parts, isLength, decoded]

/-- Only an empty line ends the header section. -/
theorem Scans.eq_nil {contentLength : Option Nat}
    (scans : Scans scan line (.done contentLength)) : line = [] := by
  cases scans with
  | blank inside empty settled => exact empty

/-- What the scanner does with a complete line. -/
theorem scanHeaders_of_begins
    {rest : Bytes} (begins : Begins input line rest) (mode : Mode)
    (consumed : Nat) (scan : ScanState) :
    scanHeaders mode input consumed scan =
      if maxLineBytes < line.length then .error .lineTooLong
      else if maxHeaderBytes < consumed + (line.length + 2) then
        .error .headerTooLarge
      else
        match scanLine scan line with
        | .error error => .error error
        | .ok (.done contentLength) =>
          .ok (some ⟨consumed + (line.length + 2), contentLength⟩)
        | .ok (.next scan) =>
          scanHeaders mode rest (consumed + (line.length + 2)) scan := by
  have found := findLineEnd_of_begins begins
  have taken : input.take line.length = line := by simp [begins.split]
  have dropped : input.drop (line.length + 2) = rest := by
    simp [begins.split, List.drop_append]
  rw [scanHeaders]
  split
  · simp_all
  · simp_all
  · rename_i lineBytes same
    obtain rfl : line.length = lineBytes := by simpa [found] using same
    simp only [taken, dropped]

/-- What the scanner does with an unfinished line. -/
theorem scanHeaders_of_pending (pending : Pending input line) (mode : Mode)
    (consumed : Nat) (scan : ScanState) :
    scanHeaders mode input consumed scan =
      match enforceIncompleteLimits input.length (consumed + input.length) with
      | .error error => .error error
      | .ok () => incompleteHeaders mode := by
  have found := findLineEnd_of_pending pending
  rw [scanHeaders]
  split <;> simp_all

theorem scanHeaders_of_broken
    (broken : Broken input)
    (mode : Mode)
    (consumed : Nat)
    (scan : ScanState) :
    scanHeaders mode input consumed scan = .error .invalidLineEnding := by
  have found := findLineEnd_of_broken broken
  rw [scanHeaders]
  split <;> simp_all

/-- A line within the limits that leaves the scanner in the header section. -/
structure Accepts (scan : ScanState) (consumed : Nat) (line : Bytes)
    (next : ScanState) : Prop where
  clean : Clean line
  lineFits : line.length ≤ maxLineBytes
  headerFits : consumed + (line.length + 2) ≤ maxHeaderBytes
  scanned : scanLine scan line = .ok (.next next)

/-- The scanner goes on after an accepted line. -/
theorem scanHeaders_of_accepts
    {next : ScanState} (accepts : Accepts scan consumed line next) (mode : Mode) (rest : Bytes) :
    scanHeaders mode (line ++ cr :: lf :: rest) consumed scan =
      scanHeaders mode rest (consumed + (line.length + 2)) next := by
  rw [scanHeaders_of_begins ⟨accepts.clean, rfl⟩, if_neg (Nat.not_lt.mpr accepts.lineFits),
    if_neg (Nat.not_lt.mpr accepts.headerFits), accepts.scanned]

/-- Lines that are accepted one after the other. -/
inductive AcceptsAll : ScanState → Nat → List Bytes → ScanState → Prop
  | nil {scan : ScanState} {consumed : Nat} : AcceptsAll scan consumed [] scan
  | cons {scan next final : ScanState} {consumed : Nat} {line : Bytes}
      {lines : List Bytes} (accepts : Accepts scan consumed line next)
      (later : AcceptsAll next (consumed + (line.length + 2)) lines final) :
      AcceptsAll scan consumed (line :: lines) final

theorem scanHeaders_of_acceptsAll
    {final : ScanState} {lines : List Bytes}
    (all : AcceptsAll scan consumed lines final) (mode : Mode) (rest : Bytes) :
    scanHeaders mode (unlines lines ++ rest) consumed scan =
      scanHeaders mode rest (consumed + (unlines lines).length) final := by
  induction all with
  | nil => simp
  | @cons scan next final consumed line lines accepts later ih =>
    have whole : unlines (line :: lines) ++ rest = line ++ cr :: lf :: (unlines lines ++ rest) := by
      simp
    rw [whole, scanHeaders_of_accepts accepts, ih, length_unlines_cons, Nat.add_assoc]

/-- The two parts of accepted lines are accepted. -/
theorem AcceptsAll.of_append
    {final : ScanState} {first second : List Bytes}
    (all : AcceptsAll scan consumed (first ++ second) final) :
    ∃ between, AcceptsAll scan consumed first between ∧
      AcceptsAll between (consumed + (unlines first).length) second final := by
  induction first generalizing scan consumed with
  | nil => exact ⟨scan, .nil, by simpa using all⟩
  | cons line first ih =>
    cases all with
    | cons accepts later =>
      obtain ⟨between, firstAll, secondAll⟩ := ih later
      refine ⟨between, .cons accepts firstAll, ?_⟩
      rwa [length_unlines_cons, ← Nat.add_assoc]

/-- A complete header section consists of accepted lines and an empty line
that settles the body length. -/
theorem scanHeaders_eq_some
    {mode : Mode} {headers : HeaderScan}
    (complete : scanHeaders mode input consumed scan = .ok (some headers)) :
    ∃ lines body final, input = unlines lines ++ cr :: lf :: body ∧
      AcceptsAll scan consumed lines final ∧ final.firstLine = false ∧
      final.Settles headers.contentLength ∧
      headers.headerBytes = consumed + (unlines lines).length + 2 ∧
      headers.headerBytes ≤ maxHeaderBytes := by
  induction input using lineInduction generalizing consumed scan with
  | pending input line pending =>
    rw [scanHeaders_of_pending pending] at complete
    cases limits : enforceIncompleteLimits input.length
      (consumed + input.length) <;> cases mode <;>
      simp [limits, incompleteHeaders] at complete
  | broken input broken =>
    rw [scanHeaders_of_broken broken] at complete
    cases complete
  | begins input line rest begins ih =>
    rw [scanHeaders_of_begins begins] at complete
    by_cases overLine : maxLineBytes < line.length
    · simp [overLine] at complete
    by_cases overHeader : maxHeaderBytes < consumed + (line.length + 2)
    · simp [overLine, overHeader] at complete
    simp only [overLine, overHeader, ↓reduceIte] at complete
    cases scanned : scanLine scan line with
    | error error => simp [scanned] at complete
    | ok step =>
      cases step with
      | done contentLength =>
        simp only [scanned, Except.ok.injEq, Option.some.injEq] at complete
        subst complete
        cases scans_of_scanLine scanned with
        | blank inside empty settled =>
          subst empty
          exact ⟨[], rest, scan, begins.split, .nil, inside, settled, rfl, Nat.not_lt.mp overHeader⟩
      | next next =>
        simp only [scanned] at complete
        obtain ⟨lines, body, final, split, all, inside, settled, bytes, fits⟩ := ih complete
        refine ⟨line :: lines, body, final, ?_, .cons ⟨begins.clean,
          Nat.not_lt.mp overLine, Nat.not_lt.mp overHeader, scanned⟩ all,
          inside, settled, ?_, fits⟩
        · rw [begins.split, split]
          simp
        · rw [length_unlines_cons]
          omega

/-- The limits on a message whose sizes are known. -/
def validateSizes (headerBytes bodyBytes : Nat) : Except Error Unit :=
  if maxBodyBytes < bodyBytes then .error .bodyTooLarge
  else if maxMessageBytes < headerBytes + bodyBytes then .error .messageTooLarge
  else .ok ()

/-- The boundary of a stream message, which must declare its body length. -/
def inspectStream (inputBytes messageOffset bodyStart : Nat)
    (headers : HeaderScan) : Except Error Status :=
  match headers.contentLength with
  | none => .error .missingContentLength
  | some bodyBytes =>
    match validateSizes headers.headerBytes bodyBytes with
    | .error error => .error error
    | .ok () =>
      let requiredTotal := bodyStart + bodyBytes
      if inputBytes < requiredTotal then
        .ok (.needMoreData (some requiredTotal))
      else
        .ok (.complete
          { messageOffset := messageOffset
            headerBytes := headers.headerBytes
            bodyBytes := bodyBytes
            messageBytes := headers.headerBytes + bodyBytes
            consumedBytes := requiredTotal })

/-- The boundary of a datagram message with its body length. -/
def datagramBoundary (inputBytes messageOffset bodyBytes : Nat)
    (headers : HeaderScan) : Except Error Status :=
  match validateSizes headers.headerBytes bodyBytes with
  | .error error => .error error
  | .ok () =>
    .ok (.complete
      { messageOffset := messageOffset
        headerBytes := headers.headerBytes
        bodyBytes := bodyBytes
        messageBytes := headers.headerBytes + bodyBytes
        consumedBytes := inputBytes })

/-- The boundary of a datagram message, whose body ends with the datagram
unless its length is declared. -/
def inspectDatagram (inputBytes messageOffset bodyStart : Nat)
    (headers : HeaderScan) : Except Error Status :=
  if inputBytes < bodyStart then
    .error .truncatedDatagram
  else
    let availableBody := inputBytes - bodyStart
    match headers.contentLength with
    | none => datagramBoundary inputBytes messageOffset availableBody headers
    | some declared =>
      if availableBody < declared then .error .truncatedDatagram
      else datagramBoundary inputBytes messageOffset declared headers

/-- The length of the CRLF keep-alives before a stream message. -/
def skipStreamPrefix : Bytes → Nat
  | first :: second :: input =>
    if first = cr ∧ second = lf then skipStreamPrefix input + 2 else 0
  | _ => 0

/-- An input without a message. -/
def incomplete : Mode → Except Error Status
  | .stream => .ok (.needMoreData none)
  | .datagram => .error .truncatedDatagram

/-- Where the start line begins. -/
def messageStart (input : Bytes) : Mode → Nat
  | .stream => skipStreamPrefix input
  | .datagram => 0

/-- Inspect an input buffer for one complete message. -/
def inspect (input : Bytes) (mode : Mode) : Except Error Status :=
  let messageOffset := messageStart input mode
  if input.length ≤ messageOffset then
    incomplete mode
  else
    match scanHeaders mode (input.drop messageOffset) 0 .new with
    | .error error => .error error
    | .ok none => .ok (.needMoreData none)
    | .ok (some headers) =>
      let bodyStart := messageOffset + headers.headerBytes
      match mode with
      | .stream => inspectStream input.length messageOffset bodyStart headers
      | .datagram => inspectDatagram input.length messageOffset bodyStart headers

end Framing
end Sip
end LiveAISIP
