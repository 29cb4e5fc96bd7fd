import LiveAISIP.Sip.FieldAgreement

/-!
# Framer and parser agree on message boundaries

What the framer has delimited is never refused by the parser for its boundary,
and the body that the parser finds is the one that the framer delimited; what
the parser accepts is delimited by the framer as one whole message.
-/

namespace LiveAISIP
namespace Sip
namespace Parser

open Ascii Crlf Outcome Framing

variable {lines : List Bytes}

/-- The errors about lines, header counts, body lengths and sizes, which the
framer checks too. -/
def ParseError.isFramingError : ParseError → Bool
  | .duplicateContentLength | .invalidContentLength | .contentLengthOverflow
  | .contentLengthMismatch _ _ | .bodyTooLarge _ _ | .tooManyHeaders _
  | .missingHeaderTerminator | .headerSectionTooLarge _ _ | .lineTooLong _
  | .invalidLineEnding _ => true
  | _ => false

/-- The parser raises no error that framing rules out, and what it returns
satisfies the postcondition. -/
abbrev Permits (returns : α → Prop) (outcome : Except ParseError α) : Prop :=
  Meets (fun error => error.isFramingError = false) returns outcome

/-- A computation that raises no such error on any input. -/
abbrev Harmless (outcome : Except ParseError α) : Prop := Permits (fun _ => True) outcome

theorem harmless_ensure
    {condition : Prop} [Decidable condition] {error : ParseError}
    (permitted : error.isFramingError = false) :
    Harmless (ensure condition error) := by
  unfold ensure
  split_ifs
  · trivial
  · exact permitted

theorem permits_mapError
    {convert : ε → ParseError} (permitted : ∀ error, (convert error).isFramingError = false)
    (outcome : Except ε α) :
    Permits (fun value => outcome = .ok value) (outcome.mapError convert) :=
  meets_mapError convert permitted outcome

theorem permits_makeSpan (start stop : Nat) :
    Permits (fun span => Span.new start stop = .ok span) (makeSpan start stop) :=
  permits_mapError (fun _ => rfl) _

theorem harmless_validateBytes
    {invalid : UInt8 → Bool} {refuse : Nat → UInt8 → ParseError}
    (permitted : ∀ index byte, (refuse index byte).isFramingError = false)
    (index : Nat) (input : Bytes) :
    Harmless (validateBytes invalid refuse index input) := by
  induction input generalizing index with
  | nil => trivial
  | cons byte input ih =>
    unfold validateBytes
    split_ifs
    · exact permitted index byte
    · exact ih (index + 1)

theorem harmless_validateFieldValueLine (input : Bytes) (start stop : Nat) :
    Harmless (validateFieldValueLine input start stop) :=
  harmless_validateBytes (fun _ _ => rfl) _ _

theorem harmless_findSpaces
    {refuse : ParseError} (permitted : refuse.isFramingError = false) (line : Bytes) :
    Harmless (findSpaces line refuse) := by
  unfold findSpaces
  split
  · exact permitted
  · split
    · exact permitted
    · trivial

theorem harmless_findColon (line : Bytes) (start : Nat) :
    Harmless (findColon line start) := by
  unfold findColon
  split
  · rfl
  · trivial

/-- No start line is refused for the boundary of its message. -/
theorem harmless_parseStartLine (line : Bytes) :
    Harmless (parseStartLine line) := by
  unfold parseStartLine
  split_ifs
  -- Request lines and status lines are checked in the same order.
  all_goals
    refine .bind (harmless_findSpaces rfl line) fun _ _ => ?_
    refine .bind (harmless_ensure rfl) fun _ _ => ?_
    refine .bind (harmless_validateBytes (fun _ _ => rfl) _ _) fun _ _ => ?_
    refine .bind (harmless_validateBytes (fun _ _ => rfl) _ _) fun _ _ => ?_
    refine .bind (permits_makeSpan _ _) fun _ _ => ?_
    refine .bind (permits_makeSpan _ _) fun _ _ => ?_
    refine .bind (permits_makeSpan _ _) fun _ _ => ?_
    refine .bind (permits_makeSpan _ _) fun _ _ => ?_
    exact .bind (permits_mapError (fun _ => rfl) _) fun _ _ => trivial

/-- Clean lines within the limit. -/
def Bounded (lines : List Bytes) : Prop := ∀ line ∈ lines, Clean line ∧ line.length ≤ maxLineBytes

theorem bounded_cons {line : Bytes} : Bounded (line :: lines) ↔
      (Clean line ∧ line.length ≤ maxLineBytes) ∧ Bounded lines := by
  simp [Bounded]

theorem bounded_of_acceptsAll
    {scan final : ScanState} {consumed : Nat}
    (accepted : AcceptsAll scan consumed lines final) :
    Bounded lines := by
  induction accepted with
  | nil => simp [Bounded]
  | cons accepts later ih =>
    exact bounded_cons.mpr ⟨⟨accepts.clean, accepts.lineFits⟩, ih⟩

/-- No continuation line within the limit is refused for its end. -/
theorem harmless_foldLines
    {input body : Bytes} {fieldEnd nextOffset : Nat}
    (split : input.drop nextOffset = unlines lines ++ cr :: lf :: body) (bounded : Bounded lines) :
    Harmless (foldLines input fieldEnd nextOffset) := by
  -- A continuation line is the first of the lines, and it is found.
  have first {nextOffset : Nat} {lines : List Bytes}
      (split : input.drop nextOffset = unlines lines ++ cr :: lf :: body)
      (bounded : Bounded lines) (folded : IsFoldedAt input nextOffset) :
      ∃ line tail, lines = line :: tail ∧
        Begins (input.drop nextOffset) line (unlines tail ++ cr :: lf :: body) ∧
        findLineEnd input nextOffset = .ok (nextOffset + line.length) := by
    rw [isFoldedAt_iff] at folded
    cases lines with
    | nil =>
      rw [split] at folded
      have notWsp : isWsp cr = false := by decide
      simp [IsContinuation, notWsp] at folded
    | cons line tail =>
      obtain ⟨⟨clean, fits⟩, -⟩ := bounded_cons.mp bounded
      have begins : Begins (input.drop nextOffset) line (unlines tail ++ cr :: lf :: body) :=
        ⟨clean, by simpa using split⟩
      exact ⟨line, tail, rfl, begins,
        (findLineEnd_eq_ok_iff _ _ _).mpr ⟨line, _, begins, fits, rfl⟩⟩
  fun_induction foldLines input fieldEnd nextOffset generalizing lines with
  | case1 fieldEnd nextOffset folded error found =>
    obtain ⟨line, tail, -, -, foundEnd⟩ := first split bounded folded
    simp [found] at foundEnd
  | case2 fieldEnd nextOffset folded continuationEnd found error refused =>
    have harmless := harmless_validateFieldValueLine input nextOffset continuationEnd
    rwa [refused] at harmless
  | case3 fieldEnd nextOffset folded continuationEnd found valid
      ih =>
      obtain ⟨line, tail, rfl, begins, foundEnd⟩ := first split bounded folded
      obtain rfl : nextOffset + line.length = continuationEnd := by
        simpa [found] using foundEnd.symm
      exact ih (drop_after_line begins) (bounded_cons.mp bounded).2
  | case4 => trivial

/-- No header field within the limit is refused for the boundary of its
message. -/
theorem harmless_parseHeader
    {input body line : Bytes} {start : Nat}
    (split : input.drop start = unlines (line :: lines) ++ cr :: lf :: body)
    (bounded : Bounded (line :: lines)) :
    Harmless (parseHeader input start) := by
  obtain ⟨⟨clean, fits⟩, boundedTail⟩ := bounded_cons.mp bounded
  have begins : Begins (input.drop start) line (unlines lines ++ cr :: lf :: body) :=
    ⟨clean, by simpa using split⟩
  have found : findLineEnd input start = .ok (start + line.length) :=
    (findLineEnd_eq_ok_iff _ _ _).mpr ⟨line, _, begins, fits, rfl⟩
  unfold parseHeader
  rw [found, ok_bind]
  refine .bind (harmless_findColon _ _) fun _ _ => ?_
  refine .bind (harmless_ensure rfl) fun _ _ => ?_
  refine .bind (harmless_ensure rfl) fun _ _ => ?_
  refine .bind (harmless_ensure rfl) fun _ _ => ?_
  refine .bind (harmless_ensure rfl) fun _ _ => ?_
  refine .bind (harmless_validateFieldValueLine _ _ _) fun _ _ => ?_
  refine .bind (harmless_foldLines (drop_after_line begins) boundedTail)
    fun _ _ => ?_
  refine .bind (permits_makeSpan _ _) fun _ _ => ?_
  refine .bind (permits_makeSpan _ _) fun _ _ => ?_
  exact .bind (permits_mapError (fun _ => rfl) _) fun _ _ => trivial

/-- The continuation lines that the parser has folded are the next lines. -/
theorem exists_append_of_folds
    {folds : List Bytes} {body rest : Bytes} (bounded : Bounded lines)
    (areFolds : ∀ fold ∈ folds, IsFold fold)
    (split : unlines lines ++ cr :: lf :: body = unlines folds ++ rest) :
    ∃ tail, lines = folds ++ tail ∧ rest = unlines tail ++ cr :: lf :: body := by
  induction folds generalizing lines with
  | nil => exact ⟨lines, rfl, by simpa using split.symm⟩
  | cons fold folds ih =>
    obtain ⟨clean, -, folded⟩ := areFolds fold (by simp)
    have second : Begins (unlines lines ++ cr :: lf :: body) fold (unlines folds ++ rest) :=
      ⟨clean, by simpa using split⟩
    cases lines with
    | nil =>
      have first : Begins (unlines [] ++ cr :: lf :: body) [] body := ⟨clean_nil, rfl⟩
      exact absurd (first.unique second).1.symm folded.ne_nil
    | cons line lines =>
      obtain ⟨⟨lineClean, -⟩, boundedTail⟩ := bounded_cons.mp bounded
      have first : Begins (unlines (line :: lines) ++ cr :: lf :: body) line
          (unlines lines ++ cr :: lf :: body) :=
        ⟨lineClean, by simp⟩
      obtain ⟨rfl, later⟩ := first.unique second
      obtain ⟨tail, rfl, rest⟩ := ih boundedTail
        (fun fold member => areFolds fold (by simp [member])) later
      exact ⟨tail, rfl, rest⟩

/-- The scanner inside a header section accepts the lines up to the empty line
that ends it, all within the limits. -/
structure SectionAt (input : Bytes) (offset : Nat) (scan : ScanState)
    (lines : List Bytes) (final : ScanState) (contentLength : Option Nat)
    (body : Bytes) : Prop where
  split : input.drop offset = unlines lines ++ cr :: lf :: body
  accepted : AcceptsAll scan offset lines final
  settled : final.Settles contentLength
  fits : offset + (unlines lines).length + 2 ≤ maxHeaderBytes
  bounded : ∀ length ∈ contentLength, length ≤ maxBodyBytes

/-- A line that the scanner accepts inside the header section is not empty. -/
theorem ne_nil_of_accepts
    {scan next : ScanState} {consumed : Nat} {line : Bytes}
    (accepts : Accepts scan consumed line next) :
    line ≠ [] := by
  cases scanLine_eq_ok_iff.mp accepts.scanned with
  | start _ nonempty => exact nonempty
  | fold _ folded => exact folded.ne_nil
  | foldLength _ folded => exact folded.ne_nil
  | header _ nonempty => exact nonempty
  | lengthHeader _ nonempty => exact nonempty

section Section

variable {input body : Bytes} {offset count : Nat} {scan final : ScanState}
  {contentLength declared : Option Nat}

/-- The section has ended exactly where a CRLF stands. -/
theorem SectionAt.isCrlfAt_iff
    (here : SectionAt input offset scan lines final contentLength body) :
    isCrlfAt input offset = true ↔ lines = [] := by
  rw [Parser.isCrlfAt_iff, here.split]
  cases lines with
  | nil => simp
  | cons line lines =>
    cases here.accepted with
    | cons accepts later =>
      obtain ⟨byte, line, rfl⟩ := List.exists_cons_of_ne_nil (ne_nil_of_accepts accepts)
      obtain ⟨⟨notCr, -⟩, -⟩ := (clean_cons byte line).mp accepts.clean
      simp [notCr]

/-- The first line of the section stands at its offset. -/
theorem SectionAt.begins
    {line : Bytes} (here : SectionAt input offset scan (line :: lines) final contentLength body) :
    Begins (input.drop offset) line (unlines lines ++ cr :: lf :: body) :=
  ⟨(bounded_of_acceptsAll here.accepted line (by simp)).1, by simpa using here.split⟩

theorem SectionAt.not_isContinuation
    {line : Bytes} (here : SectionAt input offset scan (line :: lines) final contentLength body)
    (unfolded : ¬isWspAt input offset = true) :
    ¬IsContinuation line := by
  rw [← isContinuation_of_begins here.begins, ← isFoldedAt_iff, IsFoldedAt]
  simp [unfolded]

/-- The scanner has room for one more field. -/
theorem SectionAt.room
    (here : SectionAt input offset scan lines final contentLength body)
    (tracks : Tracks scan count declared)
    (unfolded : ¬isWspAt input offset = true) (more : lines ≠ []) :
    count < maxHeaderCount := by
  rw [← tracks.counted]
  obtain ⟨line, lines, rfl⟩ := List.exists_cons_of_ne_nil more
  have notFolded := here.not_isContinuation unfolded
  cases here.accepted with
  | cons accepts later =>
    cases scanLine_eq_ok_iff.mp accepts.scanned with
    | start first => simp [tracks.inside] at first
    | fold _ folded => exact absurd folded notFolded
    | foldLength _ folded => exact absurd folded notFolded
    | header _ _ _ _ room => exact room
    | lengthHeader _ _ _ _ room => exact room

/-- After a field that the parser has taken, it knows the body length that the
scanner settles, and both go on with the next field. -/
theorem SectionAt.next
    (here : SectionAt input offset scan lines final contentLength body)
    (tracks : Tracks scan count declared)
    (unfolded : ¬isWspAt input offset = true) {parsed : ParsedHeader}
    (taken : parseHeader input offset = .ok parsed) (more : lines ≠ []) :
    parsed.nextOffset ≤ maxHeaderBytes ∧ ∃ declared' scan' lines',
      declareLength input parsed declared = .ok declared' ∧
      Tracks scan' (count + 1) declared' ∧
      SectionAt input parsed.nextOffset scan' lines' final contentLength body ∧
      parsed.nextOffset + (unlines lines').length = offset + (unlines lines).length := by
  obtain ⟨line, folds, rest, name, value, field⟩ := parseHeader_eq_ok taken
  obtain ⟨first, tail, rfl⟩ := List.exists_cons_of_ne_nil more
  have bounded := bounded_of_acceptsAll here.accepted
  have boundedTail := (bounded_cons.mp bounded).2
  obtain ⟨rfl, later⟩ := here.begins.unique field.begins
  obtain ⟨lines', rfl, restEq⟩ := exists_append_of_folds boundedTail field.areFolds later
  have length : (unlines (first :: (folds ++ lines'))).length =
      (unlines (first :: folds)).length + (unlines lines').length := by
    rw [← List.cons_append, unlines_append, List.length_append]
  have fits := here.fits
  have next := field.next
  have nextFits : parsed.nextOffset ≤ maxHeaderBytes := by omega
  have nonempty : first ≠ [] := by
    cases here.accepted with
    | cons accepts later => exact ne_nil_of_accepts accepts
  have ended : ∀ line ∈ lines'.head?, ¬IsContinuation line := by
    intro line member
    obtain ⟨tail, rfl⟩ := List.head?_eq_some_iff.mp member
    have lineClean := (bounded line (by simp)).1
    have begins : Begins rest line (unlines tail ++ cr :: lf :: body) :=
      ⟨lineClean, by simpa using restEq⟩
    rw [← isContinuation_of_begins begins]
    exact field.ended
  obtain ⟨scan', acceptedField, acceptedLater⟩ :=
    AcceptsAll.of_append (List.cons_append ▸ here.accepted)
  rw [← next] at acceptedLater
  obtain ⟨declared', settled, known⟩ := acceptedLater.settles_of_field_end
    (acceptedField.inside tracks.inside) ended here.settled
  have declaredBounded : ∀ length ∈ declared', length ≤ maxBodyBytes := by
    rcases known with rfl | rfl
    · simp
    · exact here.bounded
  obtain ⟨declares, tracksLater⟩ := declareLength_of_acceptsAll field nonempty
    (here.not_isContinuation unfolded) nextFits tracks acceptedField settled declaredBounded
  refine ⟨nextFits, declared', scan', lines', declares, tracksLater,
    ⟨field.drop_next.trans restEq, acceptedLater, here.settled, ?_, here.bounded⟩, ?_⟩
  · omega
  · omega

/-- On a header section that the framer accepts, the parser raises no error
that framing rules out and finds the same end and the same body length. -/
theorem permits_parseHeaders
    {headers : List RawHeader} (here : SectionAt input offset scan lines final contentLength body)
    (tracks : Tracks scan headers.length declared) :
    Permits (fun parsed =>
        parsed.bodyStart = offset + (unlines lines).length + 2 ∧
          parsed.contentLength = contentLength)
      (parseHeaders input offset headers declared) := by
  have fits := here.fits
  have ends := here.isCrlfAt_iff
  fun_induction parseHeaders input offset headers declared
    generalizing scan lines with
  | case1 offset headers declared exceeds => omega
  | case2 offset headers declared _ ended =>
    have split := congrArg List.length here.split
    simp only [List.length_drop, List.length_append, List.length_cons] at split
    omega
  | case3 offset headers declared _ _ isEnd exceeds => omega
  | case4 offset headers declared _ _ isEnd =>
    obtain rfl := ends.mp isEnd
    cases here.accepted
    exact ⟨rfl, tracks.settled.unique here.settled⟩
  | case5 => rfl
  | case6 offset headers declared _ _ inside unfolded full =>
    have room := here.room tracks unfolded fun empty => inside (ends.mpr empty)
    omega
  | case7 offset headers declared _ _ inside unfolded room error refused =>
    obtain ⟨line, tail, rfl⟩ := List.exists_cons_of_ne_nil
      fun empty => inside (ends.mpr empty)
    have harmless := harmless_parseHeader here.split (bounded_of_acceptsAll here.accepted)
    rwa [refused] at harmless
  | case8 offset headers declared _ _ inside unfolded room parsed taken exceeds =>
    obtain ⟨within, -⟩ := here.next tracks unfolded taken
      fun empty => inside (ends.mpr empty)
    omega
  | case9 offset headers declared _ _ inside unfolded room parsed taken _ error
      refused =>
      obtain ⟨-, declared', scan', lines', declares, -⟩ :=
        here.next tracks unfolded taken fun empty => inside (ends.mpr empty)
      rw [refused] at declares
      cases declares
  | case10 offset headers declared _ _ inside unfolded room parsed taken _
      declared' declares ih =>
      obtain ⟨-, declared'', scan', lines', declaresToo, tracksLater, later, length⟩ :=
        here.next tracks unfolded taken fun empty => inside (ends.mpr empty)
      obtain rfl : declared' = declared'' := by
        simpa [declares] using declaresToo
      rw [← length]
      exact ih later (by simpa using tracksLater) later.fits
        later.isCrlfAt_iff

end Section

end Parser

namespace Framing

open Crlf

/-- The boundary that was found after a complete header section: the body has
the declared length and lies, with all limits met, within the input. -/
structure Delimits (input : Bytes) (mode : Mode) (boundary : Boundary)
    (headers : HeaderScan) : Prop where
  scanned : scanHeaders mode (input.drop boundary.messageOffset) 0 .new = .ok (some headers)
  header : boundary.headerBytes = headers.headerBytes
  message : boundary.messageBytes = headers.headerBytes + boundary.bodyBytes
  declared : ∀ length ∈ headers.contentLength, length = boundary.bodyBytes
  bodyFits : boundary.bodyBytes ≤ maxBodyBytes
  within : boundary.messageOffset + boundary.messageBytes ≤ input.length

theorem validateSizes_eq_ok_iff (headerBytes bodyBytes : Nat) (value : Unit) :
    validateSizes headerBytes bodyBytes = .ok value ↔
      bodyBytes ≤ maxBodyBytes ∧ headerBytes + bodyBytes ≤ maxMessageBytes := by
  unfold validateSizes
  split_ifs with overBody overMessage
  · simp [Nat.not_le.mpr overBody]
  · simp [Nat.not_le.mpr overMessage]
  · simp [Nat.not_lt.mp overBody, Nat.not_lt.mp overMessage]

theorem datagramBoundary_eq_ok_iff
    (inputBytes messageOffset bodyBytes : Nat) (headers : HeaderScan) (status : Status) :
    datagramBoundary inputBytes messageOffset bodyBytes headers = .ok status ↔
      (bodyBytes ≤ maxBodyBytes ∧ headers.headerBytes + bodyBytes ≤ maxMessageBytes) ∧
      status = .complete
        { messageOffset := messageOffset
          headerBytes := headers.headerBytes
          bodyBytes := bodyBytes
          messageBytes := headers.headerBytes + bodyBytes
          consumedBytes := inputBytes } := by
  rw [← validateSizes_eq_ok_iff _ _ (), datagramBoundary]
  cases validateSizes headers.headerBytes bodyBytes with
  | error error => simp
  | ok value => simp [eq_comm]

/-- A complete message is delimited after a complete header section. -/
theorem delimits_of_inspect
    {input : Bytes} {mode : Mode} {boundary : Boundary}
    (inspected : inspect input mode = .ok (.complete boundary)) :
    ∃ headers, Delimits input mode boundary headers := by
  unfold inspect at inspected
  simp only at inspected
  split_ifs at inspected
  · cases mode <;> simp [incomplete] at inspected
  split at inspected
  · cases inspected
  · cases inspected
  · rename_i headers scanned
    refine ⟨headers, ?_⟩
    cases mode with
    | stream =>
      simp only [inspectStream] at inspected
      cases declared : headers.contentLength with
      | none => simp [declared] at inspected
      | some bodyBytes =>
        simp only [declared] at inspected
        cases sizes : validateSizes headers.headerBytes bodyBytes with
        | error error => simp [sizes] at inspected
        | ok value =>
          obtain ⟨bodyFits, -⟩ := (validateSizes_eq_ok_iff _ _ _).mp sizes
          simp only [sizes] at inspected
          split_ifs at inspected with short
          · cases inspected
          · cases inspected
            refine ⟨scanned, rfl, rfl, by simp [declared], bodyFits, ?_⟩
            simp only
            omega
    | datagram =>
      have delimits {bodyBytes : Nat}
          (declared : ∀ length ∈ headers.contentLength, length = bodyBytes)
          (arrived : headers.headerBytes + bodyBytes ≤ input.length)
          (inspected : datagramBoundary input.length 0 bodyBytes headers =
            .ok (.complete boundary)) :
          Delimits input .datagram boundary headers := by
        obtain ⟨⟨bodyFits, -⟩, same⟩ := (datagramBoundary_eq_ok_iff _ _ _ _ _).mp inspected
        cases same
        refine ⟨scanned, rfl, rfl, declared, bodyFits, ?_⟩
        simpa using arrived
      simp only [inspectDatagram, messageStart, Nat.zero_add] at inspected
      split_ifs at inspected with truncated
      cases declared : headers.contentLength with
      | none =>
        simp only [declared] at inspected
        exact delimits (by simp [declared]) (by omega) inspected
      | some bodyBytes =>
        simp only [declared] at inspected
        split_ifs at inspected with short
        exact delimits (by simp [declared]) (by omega) inspected

end Framing

namespace Parser

open Ascii Crlf Outcome Framing

variable {headers : HeaderScan} {message : RawMessage}

variable {input : Bytes}

/-- The start line is the first of the lines that the scanner accepts. -/
theorem exists_startLine
    {lines : List Bytes} {final : ScanState} (accepted : AcceptsAll .new 0 lines final)
    (inside : final.firstLine = false) :
    ∃ start fields scan, lines = start :: fields ∧ Clean start ∧
      start.length ≤ maxLineBytes ∧ Tracks scan 0 none ∧
      AcceptsAll scan (start.length + 2) fields final := by
  cases accepted with
  | nil => cases inside
  | @cons _ scan _ _ start fields accepts later =>
    rw [Nat.zero_add] at later
    refine ⟨start, fields, scan, rfl, accepts.clean, accepts.lineFits, ?_, later⟩
    cases scanLine_eq_ok_iff.mp accepts.scanned with
    | start => exact ⟨rfl, rfl, rfl⟩
    | fold first => cases first
    | foldLength first => cases first
    | header first => cases first
    | lengthHeader first => cases first

/-- The lines of a delimited message and its body. -/
theorem exists_section_of_delimits {mode : Mode} {boundary : Boundary}
    (delimits : Delimits input mode boundary headers) :
    ∃ start fields rest scan final, Begins (slice input boundary.messageRange) start rest ∧
      start.length ≤ maxLineBytes ∧ Tracks scan 0 none ∧
      SectionAt (slice input boundary.messageRange) (start.length + 2) scan
        fields final headers.contentLength (slice input boundary.bodyRange) ∧
      start.length + 2 + (unlines fields).length + 2 = boundary.headerBytes := by
  obtain ⟨lines, body, final, split, accepted, inside, settled, length, fits⟩ :=
    scanHeaders_eq_some delimits.scanned
  obtain ⟨start, fields, scan, rfl, clean, lineFits, tracks, accepted⟩ :=
    exists_startLine accepted inside
  have header := delimits.header
  rw [length_unlines_cons, Nat.zero_add] at length
  have headerLength : (unlines (start :: fields) ++ [cr, lf]).length = boundary.headerBytes := by
    simp only [List.length_append, length_unlines_cons, List.length_cons, List.length_nil]
    omega
  have parts : input.drop boundary.messageOffset =
      (unlines (start :: fields) ++ [cr, lf]) ++ body := by
    simpa using split
  have bodyBytes : slice input boundary.bodyRange = body.take boundary.bodyBytes := by
    have dropped : input.drop (boundary.messageOffset + boundary.headerBytes) = body := by
      rw [← List.drop_drop, parts, ← headerLength, List.drop_left]
    simp [slice, Boundary.bodyRange, dropped]
  have messageBytes : slice input boundary.messageRange = start ++ cr :: lf :: (unlines fields ++
        cr :: lf :: slice input boundary.bodyRange) := by
    have taken : slice input boundary.messageRange =
        (input.drop boundary.messageOffset).take boundary.messageBytes := by
      simp [slice, Boundary.messageRange]
    rw [taken, parts, delimits.message, ← header, ← headerLength,
      List.take_length_add_append, bodyBytes]
    simp
  have begins : Begins ((slice input boundary.messageRange).drop 0) start
      (unlines fields ++ cr :: lf :: slice input boundary.bodyRange) :=
    ⟨clean, messageBytes⟩
  refine ⟨start, fields, _, scan, final, begins, lineFits, tracks, ?_, ?_⟩
  · refine ⟨?_, accepted, settled, ?_, ?_⟩
    · simpa only [Nat.zero_add] using drop_after_line begins
    · omega
    · intro length declared
      rw [delimits.declared length declared]
      exact delimits.bodyFits
  · omega

theorem harmless_validateMessageSize (length : Nat) : Harmless (validateMessageSize length) :=
  .bind (harmless_ensure rfl) fun _ _ => harmless_ensure rfl

/-- A message that the framer has delimited is never refused for its boundary,
and its body is the delimited one. -/
theorem permits_parse {mode : Mode} {boundary : Boundary}
    (inspected : inspect input mode = .ok (.complete boundary)) :
    Permits (fun message => message.body = slice input boundary.bodyRange)
      (parse (slice input boundary.messageRange)) := by
  obtain ⟨headers, delimits⟩ := delimits_of_inspect inspected
  obtain ⟨start, fields, rest, scan, final, begins, lineFits, tracks, here,
    headerLength⟩ := exists_section_of_delimits delimits
  have length : (slice input boundary.messageRange).length =
      boundary.headerBytes + boundary.bodyBytes := by
    have within := delimits.within
    have message := delimits.message
    have header := delimits.header
    simp only [slice, Boundary.messageRange, List.extract_eq_take_drop,
      List.length_take, List.length_drop]
    omega
  have found : findLineEnd (slice input boundary.messageRange) 0 = .ok start.length :=
    (findLineEnd_eq_ok_iff _ _ _).mpr ⟨start, rest, begins, lineFits, (Nat.zero_add _).symm⟩
  have bodyFits := delimits.bodyFits
  unfold parse
  refine .bind (harmless_validateMessageSize _) fun _ _ => ?_
  rw [found, ok_bind]
  refine .bind (harmless_ensure rfl) fun _ _ => ?_
  refine .bind (harmless_parseStartLine _) fun startLine _ => ?_
  refine .bind (permits_parseHeaders here tracks) ?_
  rintro parsed ⟨bodyStart, declares⟩
  rw [headerLength] at bodyStart
  refine .bind (harmless_ensure rfl) fun _ _ => ?_
  have bodyLength : (slice input boundary.messageRange).length -
      parsed.bodyStart = boundary.bodyBytes := by
    omega
  have declared : checkDeclaredLength parsed.contentLength boundary.bodyBytes = .ok () := by
    rw [declares]
    cases known : headers.contentLength with
    | none => rfl
    | some declared => exact ensure_of (delimits.declared declared known) _
  simp only [bodyLength, ensure_of bodyFits, ok_bind, declared]
  refine .bind (permits_makeSpan _ _) fun span spanned => ?_
  refine (permits_mapError (fun _ => rfl) _).mono fun message created => ?_
  obtain ⟨spanStart, spanStop⟩ := Span.new_eq_ok spanned
  obtain ⟨bytes, -, -, body⟩ := RawMessage.new_eq_ok created
  rw [RawMessage.body, bytes, body, spanStart, spanStop, bodyStart, length,
    Boundary.messageRange, delimits.message, ← delimits.header]
  simp [slice, Boundary.bodyRange, List.drop_take, List.take_take]

theorem not_isWsp_of_isTokenByte
    {byte : UInt8} (token : isTokenByte byte = true) : isWsp byte = false := by
  by_contra wsp
  simp only [isWsp, Bool.not_eq_false, Bool.or_eq_true, beq_iff_eq] at wsp
  rcases wsp with rfl | rfl <;> revert token <;> decide

theorem not_isContinuation_of_take
    {line : Bytes} {length : Nat} (nonempty : line.take length ≠ [])
    (unspaced : ∀ byte ∈ line.take length, isWsp byte = false) :
    line ≠ [] ∧ ¬IsContinuation line := by
  cases line with
  | nil => simp at nonempty
  | cons byte line =>
    cases length with
    | zero => simp at nonempty
    | succ length =>
      refine ⟨by simp, ?_⟩
      simp [IsContinuation, unspaced byte (by simp)]

/-- A start line that the parser accepts begins with a method or a version. -/
theorem not_isContinuation_of_parseStartLine
    {line : Bytes} {startLine : RawStartLine} (taken : parseStartLine line = .ok startLine) :
    line ≠ [] ∧ ¬IsContinuation line := by
  unfold parseStartLine at taken
  split_ifs at taken
  · unfold parseResponseLine at taken
    obtain ⟨⟨firstSpace, secondSpace⟩, -, taken⟩ := bind_eq_ok.mp taken
    obtain ⟨_, checked, -⟩ := bind_eq_ok.mp taken
    obtain ⟨nonempty, -, -, unspaced⟩ := ensure_eq_ok.mp checked
    exact not_isContinuation_of_take nonempty (by simpa using unspaced)
  · unfold parseRequestLine at taken
    obtain ⟨⟨firstSpace, secondSpace⟩, -, taken⟩ := bind_eq_ok.mp taken
    obtain ⟨_, checked, -⟩ := bind_eq_ok.mp taken
    obtain ⟨nonempty, -, -, -, token, -⟩ := ensure_eq_ok.mp checked
    refine not_isContinuation_of_take nonempty fun byte member => ?_
    exact not_isWsp_of_isTokenByte (List.all_eq_true.mp token byte member)

/-- Every header that announces the body length has declared it. -/
def Announced (headers : List RawHeader) (contentLength : Option Nat) : Prop :=
  (∃ header ∈ headers, header.kind = some .contentLength) → contentLength.isSome

theorem Announced.next
    {line rest name value : Bytes} {start : Nat} {parsed : ParsedHeader}
    {folds : List Bytes} {headers : List RawHeader} {contentLength declared : Option Nat}
    (announced : Announced headers contentLength)
    (field : FieldAt input start parsed line folds rest name value)
    (declares : declareLength input parsed contentLength = .ok declared) :
    Announced (headers ++ [parsed.header]) declared := by
  rw [declareLength_eq_ok_iff field] at declares
  by_cases isLength : isContentLengthName name = true
  · rw [if_pos isLength] at declares
    obtain ⟨-, length, -, -, rfl⟩ := declares
    exact fun _ => rfl
  · rw [if_neg isLength] at declares
    rintro ⟨header, member, kind⟩
    rw [declares]
    rcases List.mem_append.mp member with member | member
    · exact announced ⟨header, member, kind⟩
    · rw [List.mem_singleton.mp member, field.kind,
        HeaderKind.fromNameBytes_eq_contentLength] at kind
      exact absurd kind isLength

/-- The scanner follows the parser through a header section. -/
theorem scanHeaders_of_parseHeaders {offset : Nat} {headers : List RawHeader}
    {contentLength : Option Nat} {parsed : HeaderSection} {scan : ScanState}
    (taken : parseHeaders input offset headers contentLength = .ok parsed)
    (tracks : Tracks scan headers.length contentLength)
    (announced : Announced headers contentLength) (mode : Mode) :
    scanHeaders mode (input.drop offset) offset scan =
        .ok (some ⟨parsed.bodyStart, parsed.contentLength⟩) ∧
      Announced parsed.headers parsed.contentLength := by
  fun_induction parseHeaders input offset headers contentLength
    generalizing scan with
  | case1 | case2 | case3 | case5 | case6 | case7 | case8 | case9 => cases taken
  | case4 offset headers contentLength _ _ isEnd fits =>
    cases taken
    refine ⟨?_, announced⟩
    obtain ⟨rest, split⟩ := (isCrlfAt_iff _ _).mp isEnd
    have scanned : scanLine scan [] = .ok (.done contentLength) :=
      scanLine_eq_ok_iff.mpr (.blank tracks.inside rfl tracks.settled)
    rw [scanHeaders_of_begins ⟨clean_nil, split⟩, scanned]
    simp [fits]
  | case10 offset headers contentLength _ _ inside unfolded room header
      headerTaken exceeds declared declares ih =>
      obtain ⟨line, folds, rest, name, value, field⟩ := parseHeader_eq_ok headerTaken
      have nonempty : line ≠ [] := by
        rintro rfl
        exact inside ((isCrlfAt_iff _ _).mpr ⟨_, field.begins.split⟩)
      have notFolded : ¬IsContinuation line := by
        rw [← isContinuation_of_begins field.begins, ← isFoldedAt_iff, IsFoldedAt]
        simp [unfolded]
      obtain ⟨final, accepted, tracksLater⟩ := acceptsAll_of_declareLength field
        nonempty notFolded (Nat.not_lt.mp exceeds) tracks (Nat.not_le.mp room) declares
      rw [field.split, scanHeaders_of_acceptsAll accepted, ← field.next, ← field.drop_next]
      exact ih taken (by simpa using tracksLater)
        (announced.next field declares)

/-- The header section that the scanner finds in a message that the parser has
accepted: the rest of the message is its body. -/
structure Spans (input : Bytes) (mode : Mode) (message : RawMessage)
    (headers : HeaderScan) : Prop where
  scanned : scanHeaders mode input 0 .new = .ok (some headers)
  start : skipStreamPrefix input = 0
  nonempty : 0 < input.length
  within : headers.headerBytes ≤ input.length
  messageFits : input.length ≤ maxMessageBytes
  bodyFits : input.length - headers.headerBytes ≤ maxBodyBytes
  declared : ∀ length ∈ headers.contentLength, length = input.length - headers.headerBytes
  announced : Announced message.headers headers.contentLength
  body : slice input (headers.headerBytes, input.length) = message.body

theorem exists_spans_of_parse (taken : parse input = .ok message) (mode : Mode) :
    ∃ headers, Spans input mode message headers := by
  unfold parse at taken
  obtain ⟨_, sized, taken⟩ := bind_eq_ok.mp taken
  obtain ⟨startLineEnd, found, taken⟩ := bind_eq_ok.mp taken
  obtain ⟨_, -, taken⟩ := bind_eq_ok.mp taken
  obtain ⟨startLine, started, taken⟩ := bind_eq_ok.mp taken
  obtain ⟨parsed, parsedHeaders, taken⟩ := bind_eq_ok.mp taken
  obtain ⟨_, within, taken⟩ := bind_eq_ok.mp taken
  obtain ⟨_, bodyFits, taken⟩ := bind_eq_ok.mp taken
  obtain ⟨_, declared, taken⟩ := bind_eq_ok.mp taken
  obtain ⟨span, spanned, created⟩ := bind_eq_ok.mp taken
  obtain ⟨spanStart, spanStop⟩ := Span.new_eq_ok (mapError_eq_ok.mp spanned)
  obtain ⟨bytes, -, headersEq, body⟩ := RawMessage.new_eq_ok (mapError_eq_ok.mp created)
  obtain ⟨_, nonempty, messageFits⟩ := bind_eq_ok.mp sized
  obtain ⟨start, rest, begins, lineFits, rfl⟩ := (findLineEnd_eq_ok_iff _ _ _).mp found
  rw [List.drop_zero] at begins
  have startTaken : input.take (0 + start.length) = start := by
    simp [begins.split]
  rw [startTaken] at started
  obtain ⟨startNonempty, unfolded⟩ := not_isContinuation_of_parseStartLine started
  have limits : maxLineBytes + 2 ≤ maxHeaderBytes := by decide
  have accepts : Accepts .new 0 start { ScanState.new with firstLine := false } :=
    ⟨begins.clean, lineFits, by omega, scanLine_eq_ok_iff.mpr (.start rfl startNonempty unfolded)⟩
  have tracks : Tracks { ScanState.new with firstLine := false } 0 none :=
    ⟨rfl, rfl, rfl⟩
  obtain ⟨scanned, announced⟩ := scanHeaders_of_parseHeaders parsedHeaders
    tracks (by simp [Announced]) mode
  have dropped : input.drop (0 + start.length + 2) = rest := drop_after_line begins
  refine ⟨⟨parsed.bodyStart, parsed.contentLength⟩, ?_, ?_,
    Nat.pos_of_ne_zero (ensure_eq_ok.mp nonempty), ensure_eq_ok.mp within,
    ensure_eq_ok.mp messageFits, ensure_eq_ok.mp bodyFits, ?_, ?_, ?_⟩
  · rw [← scanned, dropped, Nat.add_assoc]
    nth_rewrite 1 [begins.split]
    exact scanHeaders_of_accepts accepts mode rest
  · obtain ⟨byte, start, rfl⟩ := List.exists_cons_of_ne_nil startNonempty
    obtain ⟨⟨notCr, -⟩, -⟩ := (clean_cons byte start).mp begins.clean
    rw [begins.split]
    cases start <;> simp [skipStreamPrefix, notCr]
  · intro length known
    have known : parsed.contentLength = some length := known
    rw [known] at declared
    exact ensure_eq_ok.mp declared
  · rwa [headersEq]
  · rw [RawMessage.body, bytes, body, spanStart, spanStop]

/-- What the parser accepts is a whole message to the framer as a datagram. -/
theorem inspect_datagram_of_spans (spans : Spans input .datagram message headers) :
    inspect input .datagram = .ok (.complete
      ⟨0, headers.headerBytes, input.length - headers.headerBytes, input.length,
        input.length⟩) := by
  have within := spans.within
  have whole : headers.headerBytes + (input.length - headers.headerBytes) = input.length := by
    omega
  have bounded : datagramBoundary input.length 0
      (input.length - headers.headerBytes) headers = .ok (.complete
        ⟨0, headers.headerBytes, input.length - headers.headerBytes, input.length,
          input.length⟩) := by
    refine (datagramBoundary_eq_ok_iff _ _ _ _ _).mpr ⟨⟨spans.bodyFits, ?_⟩, ?_⟩
    · rw [whole]
      exact spans.messageFits
    · rw [whole]
  have present := spans.nonempty
  have arrived := Nat.not_lt.mpr within
  simp only [inspect, messageStart, Nat.not_le.mpr present, ↓reduceIte,
    List.drop_zero, spans.scanned, inspectDatagram, Nat.zero_add, arrived]
  cases known : headers.contentLength with
  | none => exact bounded
  | some declared =>
    rw [spans.declared declared known]
    simpa using bounded

/-- What the parser accepts with a declared body length is a whole message to
the framer in a stream. -/
theorem inspect_stream_of_spans
    (spans : Spans input .stream message headers) (announced : headers.contentLength.isSome) :
    inspect input .stream = .ok (.complete
      ⟨0, headers.headerBytes, input.length - headers.headerBytes, input.length,
        input.length⟩) := by
  have within := spans.within
  have whole : headers.headerBytes + (input.length - headers.headerBytes) = input.length := by
    omega
  obtain ⟨declared, known⟩ := Option.isSome_iff_exists.mp announced
  have length := spans.declared declared known
  have sizes : validateSizes headers.headerBytes (input.length - headers.headerBytes) = .ok () := by
    rw [validateSizes_eq_ok_iff, whole]
    exact ⟨spans.bodyFits, spans.messageFits⟩
  simp [inspect, messageStart, spans.start, Nat.not_le.mpr spans.nonempty,
    spans.scanned, inspectStream, known, length, sizes, whole]

/-- Framer and parser agree on the boundaries of messages.  A delimited message
is parsed to its delimited body or refused for other reasons than its
boundary, and a parsed message is delimited as a whole, in a stream too if it
declares its body length. -/
theorem framer_and_parser_agree :
    (∀ input mode boundary, inspect input mode = .ok (.complete boundary) →
      Meets (fun error => error.isFramingError = false)
        (fun message => message.body = slice input boundary.bodyRange)
        (parse (slice input boundary.messageRange))) ∧
    ∀ input message, parse input = .ok message →
      (∃ boundary, inspect input .datagram = .ok (.complete boundary) ∧
        boundary.messageRange = (0, input.length) ∧
        slice input boundary.bodyRange = message.body) ∧
      ((∃ header ∈ message.headers, header.kind = some .contentLength) →
        ∃ boundary, inspect input .stream = .ok (.complete boundary) ∧
          boundary.messageRange = (0, input.length) ∧
          slice input boundary.bodyRange = message.body ∧
          boundary.consumedBytes = input.length) := by
  refine ⟨fun input mode boundary inspected => permits_parse inspected, ?_⟩
  intro input message taken
  have ranges {headers : HeaderScan} {mode : Mode}
      (spans : Spans input mode message headers) :
      slice input (0 + headers.headerBytes, 0 + headers.headerBytes +
        (input.length - headers.headerBytes)) = message.body := by
    rw [Nat.zero_add, Nat.add_sub_cancel' spans.within]
    exact spans.body
  constructor
  · obtain ⟨headers, spans⟩ := exists_spans_of_parse taken .datagram
    exact ⟨_, inspect_datagram_of_spans spans, by simp [Boundary.messageRange], ranges spans⟩
  · intro announced
    obtain ⟨headers, spans⟩ := exists_spans_of_parse taken .stream
    exact ⟨_, inspect_stream_of_spans spans (spans.announced announced),
      by simp [Boundary.messageRange], ranges spans, rfl⟩

/-- A request whose body length is folded onto a second line. -/
def foldedRequest : Bytes := wireBytes "OPTIONS sip:x SIP/2.0\r\nContent-Length: \r\n 4\r\n\r\ntest"

/-- Both layers find the folded body length: the body of the parsed request is
the delimited one, and the request is delimited as a whole in a stream. -/
theorem folded_request_agrees :
    ∃ message, parse foldedRequest = .ok message ∧ message.body = wireBytes "test" ∧
      ∃ boundary, inspect foldedRequest .stream = .ok (.complete boundary) ∧
        boundary.messageRange = (0, foldedRequest.length) ∧
        slice foldedRequest boundary.bodyRange = message.body ∧
        boundary.consumedBytes = foldedRequest.length := by
  have kinds : (parse foldedRequest).map (·.headers.map RawHeader.kind) =
      .ok [some .contentLength] := by
    decide +kernel
  cases taken : parse foldedRequest with
  | error error =>
    rw [taken] at kinds
    cases kinds
  | ok message =>
    rw [taken] at kinds
    have announced : ∃ header ∈ message.headers, header.kind = some .contentLength :=
      List.mem_map.mp (by simp [Except.ok.inj kinds])
    have inspected : inspect foldedRequest .stream = .ok (.complete ⟨0, 47, 4, 51, 51⟩) := by
      decide +kernel
    have framed : slice foldedRequest (0, 51) = foldedRequest := by
      decide +kernel
    have body : slice foldedRequest (47, 51) = wireBytes "test" := by
      decide +kernel
    have delimited := framer_and_parser_agree.1 _ _ _ inspected
    simp only [Boundary.messageRange, Boundary.bodyRange, Nat.zero_add, framed,
      taken, body, meets_ok] at delimited
    exact ⟨message, rfl, delimited,
      (framer_and_parser_agree.2 foldedRequest message taken).2 announced⟩

end Parser

end Sip
end LiveAISIP
