import LiveAISIP.Sip.FramingAgreement
import LiveAISIP.Sip.Serializer
import Mathlib.Data.List.Induction

/-!
# Round trips

What the parser and the framer make of serialized messages.  A header line is
read back as the header that was written, and so is the header section with the
body length that the serializer adds; a message is read back as a whole when
its start line is.
-/

namespace LiveAISIP
namespace Sip
namespace Parser

open Ascii Crlf Outcome
open Framing (maxLineBytes maxHeaderCount maxHeaderBytes maxBodyBytes
  maxMessageBytes IsContinuation trimTrailingWhitespace)
open Serializer (headerLine wireMessage lengthHeader Serialized)
open List RawMessage

variable {first second rest bytes third line version : Bytes} {raws : List RawHeader}
  {startLine : RawStartLine}

variable {input : Bytes} {offset : Nat} {header : Header} {headers : List Header}

/-- The bytes between two parts of an input. -/
theorem slice_between
    {before between after : Bytes} {start stop : Nat}
    (split : input = before ++ (between ++ after)) (starts : start = before.length)
    (stops : stop = before.length + between.length) :
    slice input (start, stop) = between := by
  subst starts stops
  simp [slice, split, extract_eq_take_drop]

theorem validateBytes_eq_ok
    {invalid : UInt8 → Bool} {refuse : Nat → UInt8 → ParseError} {index : Nat} :
    validateBytes invalid refuse index input = .ok () ↔ ∀ byte ∈ input, invalid byte = false := by
  induction input generalizing index with
  | nil => simp [validateBytes]
  | cons byte input ih =>
    rw [validateBytes, forall_mem_cons]
    by_cases isInvalid : invalid byte = true
    · simp [isInvalid]
    · rw [if_neg isInvalid, ih]
      simp [isInvalid]

/-- Compact offsets in order make a span. -/
theorem exists_span
    {start stop : Nat} (ordered : start ≤ stop) (compact : stop ≤ maxSpanOffset) :
    ∃ span, makeSpan start stop = .ok span ∧ span.start = start ∧ span.stop = stop := by
  have startCompact : start ≤ maxSpanOffset := ordered.trans compact
  refine ⟨⟨start, stop, ordered, compact⟩, ?_, rfl, rfl⟩
  simp [makeSpan, Span.new, ordered, compact, startCompact, Except.mapError]

/-- Metadata is created for a name that stands before its value. -/
theorem exists_rawHeader
    {name value : Span} (named : name.start < name.stop)
    (separated : name.stop < value.start) (kind : Option HeaderKind) :
    ∃ header, RawHeader.new name value kind = .ok header := by
  have nonempty : ¬name.IsEmpty := Nat.ne_of_lt named
  exact ⟨⟨name, value, kind, nonempty, separated⟩,
    by rw [RawHeader.new, dif_pos nonempty, dif_pos separated]⟩

/-- The first separator ends the part before it. -/
theorem idxOf?_separator {separator : UInt8} (absent : separator ∉ first) :
    (first ++ separator :: second).idxOf? separator = some first.length := by
  rw [idxOf?_eq_some_iff]
  refine ⟨by simp, by simp, fun index before => ?_⟩
  rw [getElem_append_left before]
  intro same
  exact absent (same ▸ getElem_mem before)

/-- A written header as its reader sees it: its value is preceded by one
space. -/
def viewOf (header : Header) : RawHeaderView :=
  ⟨header.name.asBytes, 32 :: header.value.bytes, header.name.kind⟩

/-- The metadata describes the header that was written at the offset. -/
structure Describes (raw : RawHeader) (offset : Nat) (header : Header) :
    Prop where
  nameStart : raw.nameSpan.start = offset
  nameStop : raw.nameSpan.stop = offset + header.name.asBytes.length
  valueStart : raw.valueSpan.start = offset + header.name.asBytes.length + 1
  valueStop : raw.valueSpan.stop = offset + (headerLine header).length
  kind : raw.kind = header.name.kind

theorem length_headerLine (header : Header) : (headerLine header).length =
      header.name.asBytes.length + 2 + header.value.bytes.length := by
  simp only [headerLine, length_append, length_cons]
  omega

theorem not_isControl_of_isTokenByte
    {byte : UInt8} (token : isTokenByte byte = true) :
    isControl byte = false ∧ byte ≠ 58 ∧ byte ≠ 32 := by
  have checked : ∀ byte, isTokenByte byte = true →
      isControl byte = false ∧ byte ≠ 58 ∧ byte ≠ 32 := by
    intro byte
    simp [isTokenByte, isControl, UInt8.le_iff_toNat_le, ← UInt8.toNat_inj]
    omega
  exact checked byte token

/-- Bytes that are no control bytes, and tab, are no line ends. -/
theorem clean_of_not_isControl (allowed : ∀ byte ∈ input, (isControl byte && byte != 9) = false) :
    Clean input := by
  have checked : ∀ byte, (isControl byte && byte != 9) = false → byte ≠ cr ∧ byte ≠ lf := by
    intro byte
    simp [isControl, cr, lf, UInt8.lt_iff_toNat_lt, ← UInt8.toNat_inj]
    omega
  intro byte member
  exact checked byte (allowed byte member)

theorem clean_of_all_isHeaderValueByte (valid : input.all isHeaderValueByte = true) :
    Clean input := by
  apply clean_of_not_isControl
  intro byte member
  have allowed := all_eq_true.mp valid byte member
  rwa [isHeaderValueByte_eq, Bool.not_eq_true'] at allowed

theorem clean_of_all_isTokenByte (token : input.all isTokenByte = true) :
    Clean input := by
  apply clean_of_not_isControl
  intro byte member
  rw [(not_isControl_of_isTokenByte (all_eq_true.mp token byte member)).1, Bool.false_and]

theorem clean_headerLine (header : Header) : Clean (headerLine header) := by
  have name := clean_of_all_isTokenByte header.name.isHeaderName_asBytes.token
  have value := clean_of_all_isHeaderValueByte header.value.valid
  simp only [headerLine, clean_append, clean_cons]
  exact ⟨name, by decide, by decide, value⟩

/-- A header line begins with its name. -/
theorem not_isContinuation_headerLine (header : Header) :
    headerLine header ≠ [] ∧ ¬IsContinuation (headerLine header) := by
  obtain ⟨nonempty, -, token⟩ := header.name.isHeaderName_asBytes
  have taken : (headerLine header).take header.name.asBytes.length = header.name.asBytes := by
    simp [headerLine]
  refine not_isContinuation_of_take (taken.symm ▸ nonempty) ?_
  intro byte member
  rw [taken] at member
  exact not_isWsp_of_isTokenByte (all_eq_true.mp token byte member)

/-- Nothing is trimmed from a token. -/
theorem trimTrailingWhitespace_of_token (token : input.all isTokenByte = true) :
    trimTrailingWhitespace input = input := by
  induction input using reverseRecOn with
  | nil => rfl
  | append_singleton input byte _ =>
    have last := all_eq_true.mp token byte (by simp)
    rw [trimTrailingWhitespace_concat, not_isWsp_of_isTokenByte last]
    rfl

/-- A written header line is read back as its header. -/
theorem parseHeader_headerLine
    (split : input.drop offset = headerLine header ++ cr :: lf :: rest)
    (fits : (headerLine header).length ≤ maxLineBytes) (ended : ¬IsContinuation rest)
    (compact : offset + (headerLine header).length ≤ maxSpanOffset) :
    ∃ parsed, parseHeader input offset = .ok parsed ∧ Describes parsed.header offset header ∧
      parsed.nextOffset = offset + (headerLine header).length + 2 ∧
      parsed.isContentLength = decide (header.name.kind = some .contentLength) := by
  obtain ⟨nonempty, bounded, token⟩ := header.name.isHeaderName_asBytes
  have length := length_headerLine header
  have positive := length_pos_iff.mpr nonempty
  have begins : Begins (input.drop offset) (headerLine header) rest :=
    ⟨clean_headerLine header, split⟩
  have found : findLineEnd input offset = .ok (offset + (headerLine header).length) :=
    (findLineEnd_eq_ok_iff _ _ _).mpr ⟨_, _, begins, fits, rfl⟩
  have absent : (58 : UInt8) ∉ header.name.asBytes := by
    intro member
    exact (not_isControl_of_isTokenByte (all_eq_true.mp token _ member)).2.1 rfl
  have colon : findColon (slice input (offset, offset + (headerLine header).length)) offset =
      .ok (offset + header.name.asBytes.length) := by
    rw [slice_line begins, findColon, headerLine, idxOf?_separator absent]
  have taken : (headerLine header).take header.name.asBytes.length = header.name.asBytes := by
    simp [headerLine]
  have trimmed : trimTrailingWspIndex input offset (offset + header.name.asBytes.length) =
      offset + header.name.asBytes.length := by
    rw [trimTrailingWspIndex_eq begins.split (by omega), taken,
      trimTrailingWhitespace_of_token token]
  have name : slice input (offset, offset + header.name.asBytes.length) = header.name.asBytes := by
    simp [slice, split, headerLine]
  have value : slice input (offset + header.name.asBytes.length + 1,
      offset + (headerLine header).length) = 32 :: header.value.bytes := by
    have whole : input.drop offset = unlines [headerLine header] ++ rest := by
      simpa using split
    rw [slice_value whole (by omega) (by rw [length_unlines_cons]; rfl)]
    simp [headerLine, foldedBytes]
  have valid : validateFieldValueLine input (offset + header.name.asBytes.length + 1)
      (offset + (headerLine header).length) = .ok () := by
    rw [validateFieldValueLine, value]
    refine validateBytes_eq_ok.mpr fun byte member => ?_
    rcases mem_cons.mp member with rfl | member
    · decide
    · have checked := all_eq_true.mp header.value.valid byte member
      rw [isHeaderValueByte_eq] at checked
      exact Bool.not_eq_true' _ ▸ checked
  have unfolded : foldLines input (offset + (headerLine header).length)
      (offset + (headerLine header).length + 2) =
      .ok (offset + (headerLine header).length, offset + (headerLine header).length + 2) := by
    rw [foldLines, dif_neg]
    rwa [isFoldedAt_iff, drop_after_line begins]
  have spaces : (slice input (offset + header.name.asBytes.length,
      offset + header.name.asBytes.length)).all isWsp = true := by
    simp [slice]
  have named : offset + header.name.asBytes.length ≠ offset := by omega
  have short : offset + header.name.asBytes.length - offset ≤ maxHeaderNameBytes := by
    omega
  obtain ⟨nameSpan, nameMade, nameStart, nameStop⟩ := exists_span
    (Nat.le_add_right offset header.name.asBytes.length) (by omega)
  have valueOrdered : offset + header.name.asBytes.length + 1 ≤
      offset + (headerLine header).length := by
    omega
  obtain ⟨valueSpan, valueMade, valueStart, valueStop⟩ := exists_span valueOrdered compact
  have nonempty : nameSpan.start < nameSpan.stop := by omega
  have separated : nameSpan.stop < valueSpan.start := by omega
  obtain ⟨raw, created⟩ := exists_rawHeader nonempty separated header.name.kind
  rw [parseHeader, found, ok_bind, colon, ok_bind]
  simp only [trimmed, ensure_of named, ensure_of short, name, ok_bind,
    ensure_of token, ensure_of spaces, valid, unfolded, nameMade, valueMade,
    header.name.fromNameBytes_asBytes, created]
  obtain ⟨rfl, rfl, kind⟩ := RawHeader.new_eq_ok created
  exact ⟨_, rfl, ⟨nameStart, nameStop, valueStart, valueStop, kind⟩, rfl, rfl⟩

/-- The metadata describes the headers that were written one after another from
the offset on. -/
inductive DescribesAll : List RawHeader → Nat → List Header → Prop
  | nil (offset : Nat) : DescribesAll [] offset []
  | cons {raw : RawHeader} {raws : List RawHeader} {offset : Nat}
      {header : Header} {headers : List Header}
      (first : Describes raw offset header)
      (later : DescribesAll raws (offset + (headerLine header).length + 2) headers) :
      DescribesAll (raw :: raws) offset (header :: headers)

/-- The written bytes of headers. -/
def headerLines (headers : List Header) : Bytes := unlines (headers.map headerLine)

@[simp] theorem headerLines_nil : headerLines [] = [] := rfl

@[simp] theorem headerLines_cons (header : Header) (headers : List Header) :
    headerLines (header :: headers) = headerLine header ++ cr :: lf :: headerLines headers := by
  simp [headerLines]

theorem length_headerLines_cons (header : Header) (headers : List Header) :
    (headerLines (header :: headers)).length =
      (headerLine header).length + 2 + (headerLines headers).length :=
  length_unlines_cons _ _

theorem DescribesAll.length_eq
    (describes : DescribesAll raws offset headers) :
    raws.length = headers.length := by
  induction describes with
  | nil => rfl
  | cons first later ih => simp [ih]

theorem DescribesAll.concat {raw : RawHeader} (describes : DescribesAll raws offset headers)
    (last : Describes raw (offset + (headerLines headers).length) header) :
    DescribesAll (raws ++ [raw]) offset (headers ++ [header]) := by
  induction describes with
  | nil => exact .cons last (.nil _)
  | cons first later ih =>
    refine .cons first (ih ?_)
    rw [length_headerLines_cons] at last
    simpa only [Nat.add_assoc] using last

/-- A described header is seen as it was written. -/
theorem Describes.view_eq {raw : RawHeader}
    (describes : Describes raw offset header)
    (split : input.drop offset = headerLine header ++ rest) :
    raw.view input = viewOf header := by
  have name : slice input (offset, offset + header.name.asBytes.length) = header.name.asBytes := by
    simp [slice, split, headerLine]
  have dropped : input.drop (offset + header.name.asBytes.length + 1) =
      32 :: header.value.bytes ++ rest := by
    rw [Nat.add_assoc, ← drop_drop, split, headerLine, append_assoc, drop_length_add_append]
    rfl
  have value : slice input (offset + header.name.asBytes.length + 1,
      offset + (headerLine header).length) = 32 :: header.value.bytes := by
    rw [slice, extract_eq_take_drop, dropped, length_headerLine]
    refine take_left' ?_
    rw [length_cons]
    omega
  rw [RawHeader.view, Span.slice, Span.slice, describes.nameStart,
    describes.nameStop, describes.valueStart, describes.valueStop, name, value,
    describes.kind, viewOf]

/-- Described headers are seen as they were written. -/
theorem DescribesAll.views_eq (describes : DescribesAll raws offset headers)
    (split : input.drop offset = headerLines headers ++ rest) :
    raws.map (RawHeader.view input) = headers.map viewOf := by
  induction describes with
  | nil => rfl
  | @cons raw raws offset header headers first later ih =>
    have head : input.drop offset =
        headerLine header ++ cr :: lf :: (headerLines headers ++ rest) := by
      simpa using split
    have begins : Begins (input.drop offset) (headerLine header)
        (headerLines headers ++ rest) := ⟨clean_headerLine header, head⟩
    rw [map_cons, map_cons, first.view_eq head, ih (drop_after_line begins)]

/-- Described headers lie in order within the buffer. -/
theorem DescribesAll.checkHeaders_eq_ok
    (describes : DescribesAll raws offset headers) {length previousEnd : Nat}
    (after : previousEnd ≤ offset)
    (within : offset + (headerLines headers).length ≤ length) (index : Nat) :
    ∃ lastEnd, checkHeaders length previousEnd index raws = .ok lastEnd ∧
      lastEnd ≤ offset + (headerLines headers).length := by
  induction describes generalizing previousEnd index with
  | nil offset => exact ⟨previousEnd, rfl, by simpa using after⟩
  | @cons raw raws offset header headers first later ih =>
    have start : raw.lineSpan.start = offset := first.nameStart
    have stop : raw.lineSpan.stop = offset + (headerLine header).length := first.valueStop
    rw [length_headerLines_cons] at within ⊢
    have next : raw.lineSpan.stop ≤ offset + (headerLine header).length + 2 := by
      omega
    obtain ⟨lastEnd, checked, ends⟩ := ih next (by omega) (index + 1)
    refine ⟨lastEnd, ?_, by omega⟩
    rw [checkHeaders, if_neg (by omega), if_neg (by omega), checked]

/-- Written headers stand from the offset on, within the limits of the parser,
and are followed by the empty line and the body. -/
structure WrittenAt (input : Bytes) (offset : Nat) (headers : List Header)
    (body : Bytes) : Prop where
  split : input.drop offset = headerLines headers ++ cr :: lf :: body
  linesFit : ∀ header ∈ headers, (headerLine header).length ≤ maxLineBytes
  fits : offset + (headerLines headers).length + 2 ≤ maxHeaderBytes

section WrittenAt

variable {body : Bytes}
  {prior : List Header}

theorem WrittenAt.offset_lt
    (here : WrittenAt input offset headers body) :
    offset + (headerLines headers).length + 2 ≤ input.length := by
  have length := congrArg List.length here.split
  simp only [length_drop, length_append, length_cons] at length
  omega

theorem WrittenAt.begins
    (here : WrittenAt input offset (header :: headers) body) :
    Begins (input.drop offset) (headerLine header) (headerLines headers ++ cr :: lf :: body) :=
  ⟨clean_headerLine header, by simpa using here.split⟩

theorem WrittenAt.tail
    (here : WrittenAt input offset (header :: headers) body) :
    WrittenAt input (offset + (headerLine header).length + 2) headers body := by
  have fits := here.fits
  rw [length_headerLines_cons] at fits
  exact ⟨drop_after_line here.begins,
    fun other member => here.linesFit other (by simp [member]), by omega⟩

/-- No continuation line stands where headers were written. -/
theorem WrittenAt.not_isContinuation
    (here : WrittenAt input offset headers body) :
    ¬IsContinuation (headerLines headers ++ cr :: lf :: body) := by
  cases headers with
  | nil =>
    have notWsp : isWsp cr = false := by decide
    simp [IsContinuation, notWsp]
  | cons header headers =>
    have begins := here.begins
    rw [← here.split, isContinuation_of_begins begins]
    exact (not_isContinuation_headerLine header).2

/-- The header at the offset is parsed, and what is left is parsed from the
next offset on. -/
theorem parseHeaders_cons
    (here : WrittenAt input offset (header :: headers) body)
    (raws : List RawHeader) (room : raws.length < maxHeaderCount) :
    ∃ parsed, Describes parsed.header offset header ∧ parsed.isContentLength =
        decide (header.name.kind = some .contentLength) ∧
      ∀ declared declared', declareLength input parsed declared = .ok declared' →
        parseHeaders input offset raws declared =
          parseHeaders input (offset + (headerLine header).length + 2)
            (raws ++ [parsed.header]) declared' := by
  have fits := here.fits
  have inside := here.offset_lt
  have limit : maxHeaderBytes ≤ maxSpanOffset := by decide
  rw [length_headerLines_cons] at fits inside
  obtain ⟨parsed, taken, describes, next, isLength⟩ := parseHeader_headerLine
    here.begins.split (here.linesFit header (by simp))
    here.tail.not_isContinuation (by omega)
  refine ⟨parsed, describes, isLength, fun declared declared' declares => ?_⟩
  obtain ⟨nonempty, unfolded⟩ := not_isContinuation_headerLine header
  have notEnd : ¬isCrlfAt input offset = true := by
    rw [isCrlfAt_iff]
    rintro ⟨rest, split⟩
    exact nonempty (here.begins.unique ⟨clean_nil, split⟩).1
  have notFolded : ¬isWspAt input offset = true := by
    intro wsp
    rw [← isContinuation_of_begins here.begins, ← isFoldedAt_iff] at unfolded
    exact unfolded ⟨by omega, Bool.not_eq_true _ ▸ notEnd, wsp⟩
  rw [parseHeaders, if_neg (by omega), dif_neg (by omega), if_neg notEnd,
    if_neg notFolded, if_neg (by omega)]
  split
  · simp_all
  · rename_i parsed' taken'
    cases taken.symm.trans taken'
    rw [if_neg (by omega), declares, next]

/-- Headers that do not announce the body length are parsed one after
another. -/
theorem parseHeaders_unannounced
    (raws : List RawHeader) (here : WrittenAt input offset (prior ++ headers) body)
    (unannounced : ∀ header ∈ prior, header.name.kind ≠ some .contentLength)
    (room : raws.length + prior.length ≤ maxHeaderCount) :
    ∃ more, DescribesAll more offset prior ∧
      WrittenAt input (offset + (headerLines prior).length) headers body ∧
      parseHeaders input offset raws none = parseHeaders input (offset + (headerLines prior).length)
          (raws ++ more) none := by
  induction prior generalizing offset raws with
  | nil => exact ⟨[], .nil _, by simpa using here, by simp⟩
  | cons header prior ih =>
    have first := unannounced header (by simp)
    simp only [length_cons] at room
    obtain ⟨parsed, describes, isLength, parsedNext⟩ := parseHeaders_cons here raws (by omega)
    have declares : declareLength input parsed none = .ok none := by
      simp [declareLength, isLength, first]
      rfl
    obtain ⟨more, describesMore, rest, parsedMore⟩ := ih (raws ++ [parsed.header]) here.tail
        (fun other member => unannounced other (by simp [member]))
        (by rw [length_append, length_singleton]; omega)
    refine ⟨parsed.header :: more, .cons describes describesMore, ?_, ?_⟩
    · rwa [length_headerLines_cons, ← Nat.add_assoc, ← Nat.add_assoc]
    · rw [parsedNext none none declares, parsedMore, length_headerLines_cons]
      simp [Nat.add_assoc]

/-- The written body length is read back. -/
theorem parseContentLength_digits
    {value : Nat} (fits : value ≤ maxBodyBytes) :
    parseContentLength (32 :: digits value) = .ok value := by
  have all : ∀ byte ∈ digits value, isDigit byte = true :=
    fun byte member => isDigit_of_mem_digits member
  have clean : Clean (32 :: digits value) := by
    have checked : ∀ byte, isDigit byte = true → byte ≠ cr ∧ byte ≠ lf := by
      intro byte
      simp [isDigit, cr, lf, UInt8.le_iff_toNat_le, ← UInt8.toNat_inj]
      omega
    refine (clean_cons _ _).mpr ⟨by decide, fun byte member => ?_⟩
    exact checked byte (all byte member)
  have unfolds : Unfolds (32 :: digits value) (32 :: digits value) := by
    simpa using Unfolds.clean_append clean .nil
  have spaced : (32 :: digits value).dropWhile isWsp = digits value := by
    rw [dropWhile_cons_of_pos (by decide), dropWhile_eq_self_iff]
    intro nonempty wsp
    have digit := all _ (getElem_mem nonempty)
    rw [not_isDigit_of_isWsp wsp] at digit
    cases digit
  have taken : (digits value).takeWhile isDigit = digits value := takeWhile_eq_self_iff.mpr all
  have dropped : (digits value).dropWhile isDigit = [] := dropWhile_eq_nil_iff.mpr all
  have word : value < wordSize := by
    have limit : maxBodyBytes < wordSize := by decide
    omega
  refine (parseContentLength_eq_ok_iff unfolds value).mpr ⟨?_, fits⟩
  simp only [lengthOf, spaced, taken, dropped]
  rw [if_pos ⟨digits_ne_nil value, rfl⟩, decimal_digits word]

/-- A header section that was written with the body length is read back. -/
theorem parseHeaders_written
    {length : HeaderValue} (here : WrittenAt input offset (headers ++ [lengthHeader length]) body)
    (declared : length.bytes = digits body.length) (bodyFits : body.length ≤ maxBodyBytes)
    (unannounced : ∀ header ∈ headers, header.name.kind ≠ some .contentLength)
    (counted : headers.length + 1 ≤ maxHeaderCount) :
    ∃ raws, DescribesAll raws offset (headers ++ [lengthHeader length]) ∧
      parseHeaders input offset [] none =
        .ok ⟨offset + (headerLines (headers ++ [lengthHeader length])).length + 2,
          raws, some body.length⟩ := by
  obtain ⟨raws, describes, atLength, parsedHeaders⟩ :=
    parseHeaders_unannounced [] here unannounced (by simp; omega)
  rw [nil_append] at parsedHeaders
  obtain ⟨parsed, describesLength, isLength, parsedNext⟩ :=
    parseHeaders_cons atLength raws (by rw [describes.length_eq]; omega)
  have declares : declareLength input parsed none = .ok (some body.length) := by
    have inside := atLength.offset_lt
    rw [length_headerLines_cons] at inside
    have raw : parsed.header.valueSpan.slice input = 32 :: digits body.length := by
      have view := describesLength.view_eq atLength.begins.split
      rw [← declared]
      exact congrArg RawHeaderView.value view
    have given : parsed.header.valueSpan.get input = some (32 :: digits body.length) := by
      rw [Span.get, describesLength.valueStop, if_pos (by omega), ← raw,
        Span.slice, describesLength.valueStop]
    have announced : parsed.isContentLength = true := by
      simpa [lengthHeader, HeaderName.kind] using isLength
    simp only [declareLength, announced, ↓reduceIte, ensure_of, ok_bind, given,
      parseContentLength_digits bodyFits]
    rfl
  have ended := atLength.tail
  have fits := ended.fits
  have inside := ended.offset_lt
  have isEnd : isCrlfAt input (offset + (headerLines headers).length +
      (headerLine (lengthHeader length)).length + 2) = true :=
    (isCrlfAt_iff _ _).mpr ⟨body, by simpa using ended.split⟩
  refine ⟨_, describes.concat describesLength, ?_⟩
  simp only [headerLines_nil, length_nil] at fits inside
  rw [parsedHeaders, parsedNext none _ declares, parseHeaders,
    if_neg (by omega), dif_neg (by omega), if_pos isEnd, if_neg (by omega)]
  simp [headerLines, Nat.add_assoc]

end WrittenAt

/-- Metadata that lies in order within the limits makes a message. -/
theorem exists_message {headers : List RawHeader}
    {body : Span} {lastEnd : Nat} (nonempty : bytes.length ≠ 0)
    (bounded : bytes.length ≤ maxMessageBytes) (counted : headers.length ≤ maxHeaderCount)
    (starts : startLine.lineSpan.start = 0) (within : startLine.lineSpan.stop ≤ bytes.length)
    (terminal : body.stop = bytes.length)
    (checked : checkHeaders bytes.length startLine.lineSpan.stop 0 headers = .ok lastEnd)
    (inOrder : lastEnd ≤ body.start) :
    ∃ message, new bytes startLine headers body = .ok message ∧
      message.bytes = bytes ∧ message.startLine = startLine ∧
      message.headers = headers ∧ message.bodySpan = body := by
  rw [new, if_neg nonempty, dif_pos bounded, dif_pos counted,
    dif_pos starts, if_neg (by omega), if_neg (by omega), dif_pos terminal]
  split
  · simp_all
  · rename_i lastEnd' checked'
    cases checked.symm.trans checked'
    rw [dif_pos inOrder]
    exact ⟨_, rfl, rfl, rfl, rfl, rfl⟩

/-- The written body length as its reader sees it. -/
def lengthView (length : Nat) : RawHeaderView :=
  ⟨wireBytes "Content-Length", 32 :: digits length, some .contentLength⟩

theorem viewOf_lengthHeader
    {length : HeaderValue} {size : Nat} (declared : length.bytes = digits size) :
    viewOf (lengthHeader length) = lengthView size := by
  simp [viewOf, lengthHeader, lengthView, HeaderName.asBytes, HeaderName.kind,
    HeaderKind.asStr, declared]

/-- The start line is parsed, and it shows the components wherever it begins an
input. -/
def ReadsAs (startLine : Bytes) (view : RawStartLineView) : Prop :=
  ∃ line, parseStartLine startLine = .ok line ∧ line.lineSpan.start = 0 ∧
    line.lineSpan.stop = startLine.length ∧
    ∀ rest, line.view (startLine ++ rest) = view

/-- A serialized message is read back when its start line is. -/
theorem parse_serialized
    {startLine body : Bytes}
    {length : HeaderValue} {view : RawStartLineView}
    (written : Serialized startLine headers body bytes length)
    (clean : Clean startLine) (reads : ReadsAs startLine view) :
    ∃ message, parse bytes = .ok message ∧ message.startLineView = view ∧
      message.headerViews = headers.map viewOf ++ [lengthView body.length] ∧
      message.body = body := by
  obtain ⟨line, started, starts, stops, viewed⟩ := reads
  have split : bytes = startLine ++ cr :: lf ::
      (headerLines (headers ++ [lengthHeader length]) ++ cr :: lf :: body) :=
    written.split
  have size := congrArg List.length split
  simp only [length_append, length_cons] at size
  have sectionFits := written.sectionFits
  have begins : Begins (bytes.drop 0) startLine
      (headerLines (headers ++ [lengthHeader length]) ++ cr :: lf :: body) :=
    ⟨clean, by simpa using split⟩
  have found : findLineEnd bytes 0 = .ok (0 + startLine.length) :=
    (findLineEnd_eq_ok_iff _ _ _).mpr ⟨_, _, begins, written.startFits, rfl⟩
  have nonempty : 0 + startLine.length ≠ 0 := by
    have present := (not_isContinuation_of_parseStartLine started).1
    simpa using present
  have taken : bytes.take (0 + startLine.length) = startLine := by
    simp [split]
  have here : WrittenAt bytes (0 + startLine.length + 2) (headers ++ [lengthHeader length]) body :=
    ⟨drop_after_line begins, written.linesFit, by omega⟩
  obtain ⟨raws, describes, parsed⟩ := parseHeaders_written here written.declared
    written.bodyFits written.unannounced written.counted
  obtain ⟨bodyStart, starting⟩ : ∃ bodyStart, bodyStart = 0 + startLine.length + 2 +
        (headerLines (headers ++ [lengthHeader length])).length + 2 := ⟨_, rfl⟩
  rw [← starting] at parsed
  have within : bodyStart ≤ bytes.length := by omega
  have bodyLength : bytes.length - bodyStart = body.length := by omega
  have messageFits := written.messageFits
  have limit : maxMessageBytes ≤ maxSpanOffset := by decide
  obtain ⟨span, spanned, spanStart, spanStop⟩ := exists_span within (messageFits.trans limit)
  have after : line.lineSpan.stop ≤ 0 + startLine.length + 2 := by omega
  have linesWithin : 0 + startLine.length + 2 +
      (headerLines (headers ++ [lengthHeader length])).length ≤ bytes.length := by
    omega
  obtain ⟨lastEnd, checked, inOrder⟩ := describes.checkHeaders_eq_ok after linesWithin 0
  have counted : raws.length ≤ maxHeaderCount := by
    rw [describes.length_eq]
    simpa using written.counted
  have present : bytes.length ≠ 0 := by omega
  obtain ⟨message, created, bytesEq, lineEq, headersEq, bodyEq⟩ :=
    exists_message present messageFits counted starts (by omega) spanStop checked (by omega)
  refine ⟨message, ?_, ?_, ?_, ?_⟩
  · have sized : validateMessageSize bytes.length = .ok () := by
      rw [validateMessageSize, ensure_of present, ok_bind, ensure_of messageFits]
    have bodyFits : bytes.length - bodyStart ≤ maxBodyBytes := by
      rw [bodyLength]
      exact written.bodyFits
    have declared : checkDeclaredLength (some body.length) (bytes.length - bodyStart) = .ok () :=
      ensure_of bodyLength.symm _
    rw [parse, sized, ok_bind, found, ok_bind, ensure_of nonempty, ok_bind, taken,
      started, ok_bind, parsed, ok_bind]
    simp only [ensure_of within, ok_bind, ensure_of bodyFits, declared, spanned,
      created, Except.mapError]
  · rw [startLineView, bytesEq, lineEq, split, viewed]
  · rw [headerViews, bytesEq, headersEq,
      describes.views_eq here.split, map_append, map_singleton,
      viewOf_lengthHeader written.declared]
  · have dropped : bytes.drop bodyStart = body := by
      rw [starting, Nat.add_assoc (0 + startLine.length + 2), ← drop_drop,
        here.split, drop_length_add_append]
      rfl
    rw [RawMessage.body, bytesEq, bodyEq, spanStart, spanStop, slice,
      extract_eq_take_drop, dropped, bodyLength, take_length]

/-- Three components of a start line, separated by single spaces. -/
def joinLine (first second third : Bytes) : Bytes := first ++ 32 :: (second ++ 32 :: third)

theorem length_joinLine (first second third : Bytes) : (joinLine first second third).length =
      first.length + 1 + second.length + 1 + third.length := by
  simp only [joinLine, length_append, length_cons]
  omega

theorem findSpaces_joinLine (third : Bytes) (firstSolid : 32 ∉ first)
    (secondSolid : 32 ∉ second) (refuse : ParseError) :
    findSpaces (joinLine first second third) refuse =
      .ok (first.length, first.length + 1 + second.length) := by
  have dropped : (joinLine first second third).drop (first.length + 1) = second ++ 32 :: third := by
    simp [joinLine, drop_append]
  have found : (joinLine first second third).idxOf? 32 = some first.length :=
    idxOf?_separator firstSolid
  simp only [findSpaces, found, dropped, idxOf?_separator secondSolid]

/-- Where the components of a joined line stand in an input that begins with
it. -/
theorem slice_joinLine (first second third rest : Bytes) :
    slice (joinLine first second third ++ rest) (0, first.length) = first ∧
      slice (joinLine first second third ++ rest)
        (first.length + 1, first.length + 1 + second.length) = second ∧
      slice (joinLine first second third ++ rest) (first.length + 1 + second.length + 1,
          (joinLine first second third).length) = third := by
  have one : joinLine first second third ++ rest =
      [] ++ (first ++ 32 :: (second ++ 32 :: (third ++ rest))) := by
    simp [joinLine]
  have two : joinLine first second third ++ rest =
      (first ++ [32]) ++ (second ++ 32 :: (third ++ rest)) := by
    simp [joinLine]
  have three : joinLine first second third ++ rest =
      (first ++ 32 :: (second ++ [32])) ++ (third ++ rest) := by
    simp [joinLine]
  refine ⟨slice_between one (by simp) (by simp),
    slice_between two (by simp) (by simp), slice_between three ?_ ?_⟩
  · simp only [length_append, length_cons, length_nil]
    omega
  · simp only [length_joinLine, length_append, length_cons, length_nil]
    omega

/-- The components that the parser cuts out of a joined line. -/
theorem components_joinLine (first second third : Bytes) :
    (joinLine first second third).take first.length = first ∧ slice (joinLine first second third)
        (first.length + 1, first.length + 1 + second.length) = second ∧
      (joinLine first second third).drop (first.length + 1 + second.length + 1) = third := by
  obtain ⟨-, two, three⟩ := slice_joinLine first second third []
  rw [append_nil] at two three
  refine ⟨by simp [joinLine], two, ?_⟩
  rwa [slice, extract_eq_take_drop, ← length_drop, take_length] at three

/-- Spans that divide a joined line into its components. -/
structure Divides (first second third : Bytes) (line one two three : Span) :
    Prop where
  lineMade : makeSpan 0 (joinLine first second third).length = .ok line
  firstMade : makeSpan 0 first.length = .ok one
  secondMade : makeSpan (first.length + 1) (first.length + 1 + second.length) = .ok two
  thirdMade : makeSpan (first.length + 1 + second.length + 1)
    (joinLine first second third).length = .ok three

theorem exists_divides (compact : (joinLine first second third).length ≤ maxSpanOffset) :
    ∃ line one two three, Divides first second third line one two three := by
  have length := length_joinLine first second third
  obtain ⟨line, lineMade, -⟩ := exists_span (Nat.zero_le _) compact
  obtain ⟨one, firstMade, -⟩ := exists_span (Nat.zero_le first.length) (by omega)
  obtain ⟨two, secondMade, -⟩ :=
    exists_span (Nat.le_add_right (first.length + 1) second.length) (by omega)
  have ordered : first.length + 1 + second.length + 1 ≤ (joinLine first second third).length := by
    omega
  obtain ⟨three, thirdMade, -⟩ := exists_span ordered compact
  exact ⟨line, one, two, three, lineMade, firstMade, secondMade, thirdMade⟩

theorem offsets_of_makeSpan
    {start stop : Nat} {span : Span} (made : makeSpan start stop = .ok span) :
    span.start = start ∧ span.stop = stop :=
  Span.new_eq_ok (mapError_eq_ok.mp made)

/-- The spans show the components wherever the line begins an input. -/
theorem Divides.slices {line one two three : Span}
    (divides : Divides first second third line one two three) (rest : Bytes) :
    one.slice (joinLine first second third ++ rest) = first ∧
      two.slice (joinLine first second third ++ rest) = second ∧
      three.slice (joinLine first second third ++ rest) = third := by
  obtain ⟨firstStart, firstStop⟩ := offsets_of_makeSpan divides.firstMade
  obtain ⟨secondStart, secondStop⟩ := offsets_of_makeSpan divides.secondMade
  obtain ⟨thirdStart, thirdStop⟩ := offsets_of_makeSpan divides.thirdMade
  simp only [Span.slice, firstStart, firstStop, secondStart, secondStop, thirdStart, thirdStop]
  exact slice_joinLine first second third rest

/-- Nonempty components lie in order within the line. -/
theorem Divides.layout {line one two three : Span}
    (divides : Divides first second third line one two three)
    (firstNonempty : first ≠ []) (secondNonempty : second ≠ []) :
    ResponseLayout line one two three ∧ (third ≠ [] → RequestLayout line one two three) := by
  have length := length_joinLine first second third
  have firstPositive := length_pos_iff.mpr firstNonempty
  have secondPositive := length_pos_iff.mpr secondNonempty
  obtain ⟨lineStart, lineStop⟩ := offsets_of_makeSpan divides.lineMade
  obtain ⟨firstStart, firstStop⟩ := offsets_of_makeSpan divides.firstMade
  obtain ⟨secondStart, secondStop⟩ := offsets_of_makeSpan divides.secondMade
  obtain ⟨thirdStart, thirdStop⟩ := offsets_of_makeSpan divides.thirdMade
  simp only [ResponseLayout, RequestLayout, Span.IsEmpty, Span.Contains]
  refine ⟨by omega, fun thirdNonempty => ?_⟩
  have thirdPositive := length_pos_iff.mpr thirdNonempty
  omega

/-- Visible bytes are neither spaces nor tabs nor control bytes. -/
theorem separate_of_visible (visible : input.all isVisible = true) :
    ∀ byte ∈ input, isWsp byte = false ∧ isControl byte = false := by
  intro byte member
  have seen := all_eq_true.mp visible byte member
  rw [isVisible_eq] at seen
  simpa using seen

theorem not_mem_space_of_visible (visible : input.all isVisible = true) :
    32 ∉ input := by
  intro member
  exact absurd (separate_of_visible visible 32 member).1 (by decide)

theorem not_any_isWsp_of_visible (visible : input.all isVisible = true) :
    ¬input.any isWsp = true := by
  rw [any_eq_true]
  rintro ⟨byte, member, wsp⟩
  rw [(separate_of_visible visible byte member).1] at wsp
  cases wsp

theorem validateStartLineComponent_of_visible (visible : input.all isVisible = true) :
    validateStartLineComponent input = .ok () :=
  validateBytes_eq_ok.mpr fun byte member =>
    (separate_of_visible visible byte member).2

/-- A status line with visible version, three digits and a valid reason phrase
is read back. -/
theorem readsAs_response
    {status reason : Bytes}
    (isResponse : parseStartLine (joinLine version status reason) =
      parseResponseLine (joinLine version status reason))
    (compact : (joinLine version status reason).length ≤ maxSpanOffset)
    (nonempty : version ≠ []) (visible : version.all isVisible = true)
    (size : status.length = 3) (numeric : status.all isDigit = true)
    (valid : reason.all isHeaderValueByte = true) :
    ReadsAs (joinLine version status reason) (.response version status reason) := by
  obtain ⟨versionCut, statusCut, reasonCut⟩ := components_joinLine version status reason
  obtain ⟨line, one, two, three, divides⟩ := exists_divides compact
  have statusNonempty : status ≠ [] := by
    rintro rfl
    simp at size
  have layout := (divides.layout nonempty statusNonempty).1
  have statusVisible : status.all isVisible = true := by
    rw [all_eq_true] at numeric ⊢
    exact fun byte member => isVisible_of_isDigit (numeric byte member)
  have spaces := findSpaces_joinLine reason (not_mem_space_of_visible visible)
    (not_mem_space_of_visible statusVisible) .invalidResponseLine
  have shape : version ≠ [] ∧ status.length = 3 ∧ status.all isDigit ∧ ¬version.any isWsp := by
    exact ⟨nonempty, size, numeric, not_any_isWsp_of_visible visible⟩
  have versionValid : validateStartLineComponent version = .ok () :=
    validateStartLineComponent_of_visible visible
  have reasonValid : validateReasonPhrase reason = .ok () := by
    refine validateBytes_eq_ok.mpr fun byte member => ?_
    have checked := all_eq_true.mp valid byte member
    rw [isHeaderValueByte_eq] at checked
    exact Bool.not_eq_true' _ ▸ checked
  refine ⟨.response ⟨line, one, two, three, layout⟩, ?_, ?_, ?_, fun rest => ?_⟩
  · rw [isResponse, parseResponseLine, spaces, ok_bind]
    simp only [versionCut, statusCut, reasonCut, ensure_of shape, ok_bind,
      versionValid, reasonValid, divides.lineMade, divides.firstMade,
      divides.secondMade, divides.thirdMade, RawResponseLine.new, dif_pos layout, Except.mapError]
    rfl
  · exact (offsets_of_makeSpan divides.lineMade).1
  · exact (offsets_of_makeSpan divides.lineMade).2
  · obtain ⟨first, second, third⟩ := divides.slices rest
    rw [RawStartLine.view, first, second, third]

/-- A status code has three digits. -/
theorem length_digits_status (status : StatusCode) :
    (digits status.asU16).length = 3 := by
  have lower := status.lower
  have upper := status.upper
  rw [digits_eq, if_neg (by omega), digits_eq, if_neg (by omega), digits_eq, if_pos (by omega)]
  rfl

theorem all_visible_version (version : Version) :
    (wireBytes version.asStr).all isVisible = true := by
  cases version
  decide +kernel

theorem clean_of_visible (visible : input.all isVisible = true) :
    Clean input := by
  apply clean_of_not_isControl
  intro byte member
  rw [(separate_of_visible visible byte member).2, Bool.false_and]

theorem clean_joinLine (firstClean : Clean first)
    (secondClean : Clean second) (thirdClean : Clean third) :
    Clean (joinLine first second third) := by
  have space : (32 : UInt8) ≠ cr ∧ (32 : UInt8) ≠ lf := by decide
  simp only [joinLine, clean_append, clean_cons]
  exact ⟨firstClean, space, secondClean, space, thirdClean⟩

/-- A line that begins with the version is a status line. -/
theorem parseStartLine_version (second third : Bytes) :
    parseStartLine (joinLine (wireBytes Version.sip2.asStr) second third) =
      parseResponseLine (joinLine (wireBytes Version.sip2.asStr) second third) := by
  have long : 4 ≤ (wireBytes Version.sip2.asStr).length := by decide +kernel
  have begins : eqIgnoreCase ((wireBytes Version.sip2.asStr).take 4) (wireBytes "SIP/") = true := by
    decide +kernel
  rw [parseStartLine, if_pos]
  rwa [joinLine, take_append_of_le_length long]

/-- A parsed message with a written body length is delimited as a whole in a
stream. -/
theorem exists_boundary_of_lengthView
    {message : RawMessage}
    {length : Nat}
    (taken : parse bytes = .ok message)
    (declares : lengthView length ∈ message.headerViews) :
    ∃ boundary, Framing.inspect bytes .stream = .ok (.complete boundary) ∧
      boundary.messageRange = (0, bytes.length) ∧
      boundary.consumedBytes = bytes.length := by
  obtain ⟨scan, spans⟩ := exists_spans_of_parse taken .stream
  have announced : ∃ header ∈ message.headers, header.kind = some .contentLength := by
    obtain ⟨header, inside, view⟩ := mem_map.mp declares
    exact ⟨header, inside, congrArg RawHeaderView.kind view⟩
  exact ⟨_, inspect_stream_of_spans spans (spans.announced announced),
    by simp [Framing.Boundary.messageRange], rfl⟩

/-- A serialized response is parsed to the status, the reason phrase, the
headers and the body that were given, with the body length as its last header,
and it is delimited as a whole in a stream. -/
theorem serialized_response_round_trips
    {grants : Nat → Bool} {status : StatusCode} {reasonPhrase : Bytes}
    {headers : List Header} {body bytes : Bytes}
    (serialized : Serializer.serializeResponse grants .sip2 status reasonPhrase
      headers body = .ok bytes) :
    (∃ message, parse bytes = .ok message ∧ message.startLineView = .response (wireBytes "SIP/2.0")
        (digits status.asU16) reasonPhrase ∧
      message.headerViews = headers.map viewOf ++ [lengthView body.length] ∧
      message.body = body) ∧
    ∃ boundary, Framing.inspect bytes .stream = .ok (.complete boundary) ∧
      boundary.messageRange = (0, bytes.length) ∧
      boundary.consumedBytes = bytes.length := by
  unfold Serializer.serializeResponse at serialized
  obtain ⟨_, valid, serialized⟩ := bind_eq_ok.mp serialized
  obtain ⟨_, -, serialized⟩ := bind_eq_ok.mp serialized
  obtain ⟨_, -, serialized⟩ := bind_eq_ok.mp serialized
  obtain ⟨length, written⟩ := Serializer.serialize_eq_ok serialized
  have joined : wireBytes Version.sip2.asStr ++ [32] ++ digits status.asU16 ++
      [32] ++ reasonPhrase = joinLine (wireBytes Version.sip2.asStr)
        (digits status.asU16) reasonPhrase := by
    simp [joinLine]
  rw [joined] at written
  have versionVisible := all_visible_version .sip2
  have reasonValid : reasonPhrase.all isHeaderValueByte = true := checkBytes_eq_ok.mp valid
  have numeric : (digits status.asU16).all isDigit = true :=
    all_eq_true.mpr fun _ member => isDigit_of_mem_digits member
  have compact : (joinLine (wireBytes Version.sip2.asStr)
      (digits status.asU16) reasonPhrase).length ≤ maxSpanOffset := by
    have limit : maxLineBytes ≤ maxSpanOffset := by decide
    exact written.startFits.trans limit
  have reads := readsAs_response (parseStartLine_version _ _) compact
    (by decide +kernel) versionVisible (length_digits_status status) numeric
    reasonValid
  have clean := clean_joinLine (clean_of_visible versionVisible)
    (clean_of_visible (all_visible_digits status.asU16))
    (clean_of_all_isHeaderValueByte reasonValid)
  obtain ⟨message, taken, lineView, headerViews, bodyEq⟩ := parse_serialized written clean reads
  have declares : lengthView body.length ∈ message.headerViews := by
    simp [headerViews]
  exact ⟨⟨message, taken, lineView, headerViews, bodyEq⟩,
    exists_boundary_of_lengthView taken declares⟩

/-- A subject header. -/
def subjectHeader : Header :=
  ⟨.known .subject, ⟨wireBytes "hi", by decide +kernel, by decide +kernel⟩⟩

/-- A response with an empty reason phrase, one header and a body. -/
def emptyReasonResponse : Bytes :=
  wireBytes "SIP/2.0 200 \r\nSubject: hi\r\nContent-Length: 4\r\n\r\ntest"

/-- The response is serialized, read back and delimited as a whole. -/
theorem empty_reason_response_round_trips :
    Serializer.serializeResponse (fun _ => true) .sip2 .ok [] [subjectHeader]
        (wireBytes "test") = .ok emptyReasonResponse ∧
      (∃ message, parse emptyReasonResponse = .ok message ∧
        message.startLineView = .response (wireBytes "SIP/2.0")
          (digits StatusCode.ok.asU16) [] ∧
        message.headerViews = [subjectHeader].map viewOf ++ [lengthView (wireBytes "test").length] ∧
        message.body = wireBytes "test") ∧
      ∃ boundary, Framing.inspect emptyReasonResponse .stream = .ok (.complete boundary) ∧
        boundary.messageRange = (0, emptyReasonResponse.length) ∧
        boundary.consumedBytes = emptyReasonResponse.length := by
  have serialized : Serializer.serializeResponse (fun _ => true) .sip2 .ok []
      [subjectHeader] (wireBytes "test") = .ok emptyReasonResponse := by
    decide +kernel
  exact ⟨serialized, serialized_response_round_trips serialized⟩

/-- A method that a start line may begin with. -/
structure IsMethod (method : Bytes) : Prop where
  nonempty : method ≠ []
  fits : method.length ≤ maxMethodBytes
  token : method.all isTokenByte = true

/-- A token is not the beginning of a version. -/
theorem parseStartLine_token (token : first.all isTokenByte = true) (second third : Bytes) :
    parseStartLine (joinLine first second third) =
      parseRequestLine (joinLine first second third) := by
  rw [parseStartLine, if_neg]
  intro begins
  have lowered : ((joinLine first second third).take 4).map toLower =
      (wireBytes "SIP/").map toLower := eq_of_beq begins
  have known : (wireBytes "SIP/").map toLower = [115, 105, 112, 47] := by
    decide +kernel
  rw [known] at lowered
  by_cases short : first.length < 4
  · -- The space after a short token stands where the version has none.
    obtain ⟨left, remaining⟩ : ∃ left, 4 - first.length = left + 1 := ⟨3 - first.length, by omega⟩
    have space : (32 : UInt8) ∈ (joinLine first second third).take 4 := by
      rw [joinLine, take_append, remaining]
      simp
    have member : toLower 32 ∈ [115, 105, 112, 47] := by
      rw [← lowered]
      exact mem_map_of_mem space
    exact absurd member (by decide)
  · -- The slash of the version is no token byte.
    have within : (joinLine first second third).take 4 = first.take 4 := by
      rw [joinLine, take_append_of_le_length (by omega)]
    have slash : (47 : UInt8) ∈ (first.take 4).map toLower := by
      rw [← within, lowered]
      decide
    obtain ⟨byte, member, lower⟩ := mem_map.mp slash
    have checked : ∀ byte, isTokenByte byte = true → toLower byte ≠ 47 :=
      forall_byte (by decide +kernel)
    exact checked byte (all_eq_true.mp token byte (mem_of_mem_take member)) lower

/-- A request line with a method token and a visible URI and version is read
back. -/
theorem readsAs_request
    {method uri : Bytes} (compact : (joinLine method uri version).length ≤ maxSpanOffset)
    (isMethod : IsMethod method) (uriNonempty : uri ≠ [])
    (uriVisible : uri.all isVisible = true) (versionNonempty : version ≠ [])
    (versionVisible : version.all isVisible = true) :
    ReadsAs (joinLine method uri version) (.request method uri version) := by
  obtain ⟨methodNonempty, methodFits, token⟩ := isMethod
  obtain ⟨methodCut, uriCut, versionCut⟩ := components_joinLine method uri version
  obtain ⟨line, one, two, three, divides⟩ := exists_divides compact
  have layout := (divides.layout methodNonempty uriNonempty).2 versionNonempty
  have methodSolid : 32 ∉ method := by
    intro member
    exact (not_isControl_of_isTokenByte (all_eq_true.mp token 32 member)).2.2 rfl
  have spaces := findSpaces_joinLine version methodSolid
    (not_mem_space_of_visible uriVisible) .invalidRequestLine
  have shape : method ≠ [] ∧ uri ≠ [] ∧ version ≠ [] ∧
      method.length ≤ maxMethodBytes ∧ method.all isTokenByte ∧
      ¬uri.any isWsp ∧ ¬version.any isWsp :=
    ⟨methodNonempty, uriNonempty, versionNonempty, methodFits, token,
      not_any_isWsp_of_visible uriVisible, not_any_isWsp_of_visible versionVisible⟩
  refine ⟨.request ⟨line, one, two, three, layout⟩, ?_, ?_, ?_, fun rest => ?_⟩
  · rw [parseStartLine_token token, parseRequestLine, spaces, ok_bind]
    simp only [methodCut, uriCut, versionCut, ensure_of shape, ok_bind,
      validateStartLineComponent_of_visible uriVisible,
      validateStartLineComponent_of_visible versionVisible, divides.lineMade,
      divides.firstMade, divides.secondMade, divides.thirdMade,
      RawRequestLine.new, dif_pos layout, Except.mapError]
    rfl
  · exact (offsets_of_makeSpan divides.lineMade).1
  · exact (offsets_of_makeSpan divides.lineMade).2
  · obtain ⟨first, second, third⟩ := divides.slices rest
    rw [RawStartLine.view, first, second, third]

theorem parseResponseLine_eq_ok (taken : parseResponseLine line = .ok startLine) :
    ∃ response, startLine = .response response := by
  unfold parseResponseLine at taken
  obtain ⟨⟨firstSpace, secondSpace⟩, -, taken⟩ := bind_eq_ok.mp taken
  obtain ⟨_, -, taken⟩ := bind_eq_ok.mp taken
  obtain ⟨_, -, taken⟩ := bind_eq_ok.mp taken
  obtain ⟨_, -, taken⟩ := bind_eq_ok.mp taken
  obtain ⟨_, -, taken⟩ := bind_eq_ok.mp taken
  obtain ⟨_, -, taken⟩ := bind_eq_ok.mp taken
  obtain ⟨_, -, taken⟩ := bind_eq_ok.mp taken
  obtain ⟨_, -, taken⟩ := bind_eq_ok.mp taken
  obtain ⟨response, -, taken⟩ := bind_eq_ok.mp taken
  cases taken
  exact ⟨response, rfl⟩

theorem findSpaces_eq_ok {refuse : ParseError} {firstSpace secondSpace : Nat}
    (found : findSpaces line refuse = .ok (firstSpace, secondSpace)) :
    secondSpace ≤ line.length := by
  unfold findSpaces at found
  split at found
  · cases found
  · rename_i first foundFirst
    split at found
    · cases found
    · rename_i second foundSecond
      cases found
      obtain ⟨inside, -⟩ := idxOf?_eq_some_iff.mp foundSecond
      rw [length_drop] at inside
      omega

/-- What the parser has checked of a request line. -/
theorem parseRequestLine_eq_ok (taken : parseRequestLine line = .ok startLine) :
    ∃ request, startLine = .request request ∧ request.uri.stop ≤ line.length ∧
      IsMethod (request.method.slice line) ∧
      (request.uri.slice line).all isVisible = true := by
  unfold parseRequestLine at taken
  obtain ⟨⟨firstSpace, secondSpace⟩, spaces, taken⟩ := bind_eq_ok.mp taken
  obtain ⟨_, shape, taken⟩ := bind_eq_ok.mp taken
  obtain ⟨_, uriValid, taken⟩ := bind_eq_ok.mp taken
  obtain ⟨_, -, taken⟩ := bind_eq_ok.mp taken
  obtain ⟨_, -, taken⟩ := bind_eq_ok.mp taken
  obtain ⟨methodSpan, methodMade, taken⟩ := bind_eq_ok.mp taken
  obtain ⟨uriSpan, uriMade, taken⟩ := bind_eq_ok.mp taken
  obtain ⟨_, -, taken⟩ := bind_eq_ok.mp taken
  obtain ⟨request, created, taken⟩ := bind_eq_ok.mp taken
  cases taken
  obtain ⟨methodStart, methodStop⟩ := offsets_of_makeSpan methodMade
  obtain ⟨uriStart, uriStop⟩ := offsets_of_makeSpan uriMade
  rw [mapError_eq_ok, RawRequestLine.new] at created
  split_ifs at created
  cases created
  obtain ⟨nonempty, -, -, fits, token, unspaced, -⟩ := ensure_eq_ok.mp shape
  refine ⟨_, rfl, ?_, ?_, ?_⟩
  · rw [uriStop]
    exact findSpaces_eq_ok spaces
  · have cut : methodSpan.slice line = line.take firstSpace := by
      simp [Span.slice, slice, methodStart, methodStop]
    rw [cut]
    exact ⟨nonempty, fits, token⟩
  · have cut : uriSpan.slice line = slice line (firstSpace + 1, secondSpace) := by
      rw [Span.slice, uriStart, uriStop]
    rw [cut, all_eq_true]
    intro byte member
    have notWsp : isWsp byte = false := by
      by_contra wsp
      rw [Bool.not_eq_false] at wsp
      exact unspaced (any_eq_true.mpr ⟨byte, member, wsp⟩)
    rw [isVisible_eq, notWsp, validateBytes_eq_ok.mp uriValid byte member]
    rfl

theorem slice_append_of_le
    {span : Span} (within : span.stop ≤ line.length) (rest : Bytes) :
    span.slice (line ++ rest) = span.slice line := by
  have ordered := span.ordered
  simp only [Span.slice, slice, extract_eq_take_drop]
  rw [drop_append_of_le_length (by omega), take_append_of_le_length]
  rw [length_drop]
  omega

/-- What a parsed request line shows of an input has passed the checks of the
parser. -/
theorem checked_of_request {method uri : Bytes}
    (started : parseStartLine line = .ok startLine)
    (viewed : startLine.view (line ++ rest) = .request method uri version) :
    IsMethod method ∧ uri.all isVisible = true := by
  unfold parseStartLine at started
  split_ifs at started
  · obtain ⟨response, rfl⟩ := parseResponseLine_eq_ok started
    cases viewed
  · obtain ⟨request, rfl, within, isMethod, visible⟩ := parseRequestLine_eq_ok started
    obtain ⟨-, -, -, -, -, -, -, before, -⟩ := request.layout
    have ordered := request.uri.ordered
    have methodWithin : request.method.stop ≤ line.length := by omega
    cases viewed
    rw [slice_append_of_le methodWithin, slice_append_of_le within]
    exact ⟨isMethod, visible⟩

/-- The start line of a parsed message was parsed from its first bytes. -/
theorem startLine_of_parse {message : RawMessage} (taken : parse bytes = .ok message) :
    message.bytes = bytes ∧ ∃ stop, parseStartLine (bytes.take stop) = .ok message.startLine := by
  unfold parse at taken
  obtain ⟨_, -, taken⟩ := bind_eq_ok.mp taken
  obtain ⟨stop, -, taken⟩ := bind_eq_ok.mp taken
  obtain ⟨_, -, taken⟩ := bind_eq_ok.mp taken
  obtain ⟨startLine, started, taken⟩ := bind_eq_ok.mp taken
  obtain ⟨_, -, taken⟩ := bind_eq_ok.mp taken
  obtain ⟨_, -, taken⟩ := bind_eq_ok.mp taken
  obtain ⟨_, -, taken⟩ := bind_eq_ok.mp taken
  obtain ⟨_, -, taken⟩ := bind_eq_ok.mp taken
  obtain ⟨_, -, created⟩ := bind_eq_ok.mp taken
  obtain ⟨bytesEq, lineEq, -, -⟩ := new_eq_ok (mapError_eq_ok.mp created)
  exact ⟨bytesEq, stop, lineEq ▸ started⟩

/-- The request that is read back from the bytes is the one that was given,
with its body length as the last header. -/
def RoundTrips
    (method : Method) (uri : Uri) (version : Version) (headers : List Header)
    (body bytes : Bytes) : Prop :=
  ∃ message, parse bytes = .ok message ∧
    message.startLineView = .request (wireBytes method.asStr) uri.render (wireBytes version.asStr) ∧
    message.headerViews = headers.map viewOf ++ [lengthView body.length] ∧
    message.body = body

/-- Only a request with a method token and a visible URI is read back. -/
theorem RoundTrips.checked
    {method : Method} {uri : Uri} {version : Version} {body : Bytes}
    (roundTrips : RoundTrips method uri version headers body bytes) :
    IsMethod (wireBytes method.asStr) ∧ uri.textVisible = true := by
  obtain ⟨message, taken, viewed, -, -⟩ := roundTrips
  obtain ⟨bytesEq, stop, started⟩ := startLine_of_parse taken
  rw [startLineView, bytesEq, ← take_append_drop stop bytes] at viewed
  rw [← Uri.all_visible_render]
  exact checked_of_request started viewed

/-- A serialized request is parsed to the method, the URI, the version, the
headers and the body that were given exactly when its method is a token that
the parser accepts and no text of its URI has a space or a control byte. -/
theorem serialized_request_round_trips_iff
    {grants : Nat → Bool} {method : Method} {uri : Uri} {headers : List Header} {body bytes : Bytes}
    (serialized : Serializer.serializeRequest grants method uri .sip2 headers body = .ok bytes) :
    RoundTrips method uri .sip2 headers body bytes ↔
      IsMethod (wireBytes method.asStr) ∧ uri.textVisible = true := by
  refine ⟨RoundTrips.checked, ?_⟩
  rintro ⟨isMethod, visible⟩
  rw [← Uri.all_visible_render] at visible
  unfold Serializer.serializeRequest at serialized
  obtain ⟨_, -, serialized⟩ := bind_eq_ok.mp serialized
  obtain ⟨length, written⟩ := Serializer.serialize_eq_ok serialized
  have joined : wireBytes method.asStr ++ [32] ++ uri.render ++ [32] ++
      wireBytes Version.sip2.asStr = joinLine (wireBytes method.asStr)
        uri.render (wireBytes Version.sip2.asStr) := by
    simp [joinLine]
  rw [joined] at written
  have versionVisible := all_visible_version .sip2
  have limit : maxLineBytes ≤ maxSpanOffset := by decide
  have reads := readsAs_request (written.startFits.trans limit) isMethod
    uri.render_ne_nil visible (by decide +kernel) versionVisible
  have clean := clean_joinLine (clean_of_all_isTokenByte isMethod.token)
    (clean_of_visible visible) (clean_of_visible versionVisible)
  exact parse_serialized written clean reads

/-- A request to a plain telephone number. -/
def plainRequest : Bytes :=
  wireBytes "OPTIONS tel:1 SIP/2.0\r\nSubject: hi\r\nContent-Length: 4\r\n\r\ntest"

/-- The request is serialized and read back. -/
theorem plain_request_round_trips :
    Serializer.serializeRequest (fun _ => true) .options
        (.absolute ⟨"tel", "1"⟩) .sip2 [subjectHeader] (wireBytes "test") =
        .ok plainRequest ∧
      RoundTrips .options (.absolute ⟨"tel", "1"⟩) .sip2 [subjectHeader]
        (wireBytes "test") plainRequest := by
  have serialized : Serializer.serializeRequest (fun _ => true) .options
      (.absolute ⟨"tel", "1"⟩) .sip2 [subjectHeader] (wireBytes "test") =
      .ok plainRequest := by
    decide +kernel
  have isMethod : IsMethod (wireBytes Method.options.asStr) :=
    ⟨by decide +kernel, by decide +kernel, by decide +kernel⟩
  have visible : (Uri.absolute ⟨"tel", "1"⟩).textVisible = true := by
    decide +kernel
  exact ⟨serialized, (serialized_request_round_trips_iff serialized).mpr ⟨isMethod, visible⟩⟩

/-- A telephone number that ends the request line and begins a header. -/
def injectingUri : AbsoluteUri := ⟨"tel", "1 SIP/2.0\r\nX: y"⟩

/-- What is serialized for the injecting URI. -/
def injectedRequest : Bytes :=
  wireBytes "OPTIONS tel:1 SIP/2.0\r\nX: y SIP/2.0\r\nContent-Length: 0\r\n\r\n"

/-- The constructor of absolute URIs accepts the injecting URI, the request
without headers is serialized, and it is parsed to a message with a header that
nobody gave: the request does not round trip. -/
theorem absolute_uri_injects_header :
    AbsoluteUri.new "tel" "1 SIP/2.0\r\nX: y" = .ok injectingUri ∧
      Serializer.serializeRequest (fun _ => true) .options
        (.absolute injectingUri) .sip2 [] [] = .ok injectedRequest ∧
      (parse injectedRequest).map headerViews =
        .ok [⟨wireBytes "X", wireBytes " y SIP/2.0", none⟩, lengthView 0] ∧
      ¬RoundTrips .options (.absolute injectingUri) .sip2 [] [] injectedRequest := by
  refine ⟨by decide +kernel, by decide +kernel, by decide +kernel, ?_⟩
  intro roundTrips
  exact absurd roundTrips.checked.2 (by decide +kernel)

end Parser
end Sip
end LiveAISIP
