import LiveAISIP.Sip.ParserLines

/-!
# One header field in both layers

The framer scans a header field line by line and settles its body length when
the field has ended; the parser takes the field as a whole.  Over one field
both count one header and reach the same declared body length.
-/

namespace LiveAISIP
namespace Sip
namespace Framing

open Ascii Crlf

variable {consumed : Nat} {lines : List Bytes}

variable {scan final : ScanState}

/-- The lines within the limits are accepted one by one. -/
theorem acceptsAll_cons_iff
    {line : Bytes}
    (clean : Clean line)
    (lineFits : line.length ≤ maxLineBytes)
    (headerFits : consumed + (line.length + 2) ≤ maxHeaderBytes) :
    AcceptsAll scan consumed (line :: lines) final ↔ ∃ next, scanLine scan line = .ok (.next next) ∧
        AcceptsAll next (consumed + (line.length + 2)) lines final := by
  constructor
  · intro accepted
    cases accepted with
    | cons accepts later => exact ⟨_, accepts.scanned, later⟩
  · rintro ⟨next, scanned, later⟩
    exact .cons ⟨clean, lineFits, headerFits, scanned⟩ later

theorem scanLine_of_fold {line : Bytes} (inside : scan.firstLine = false)
    (folded : IsContinuation line) :
    scanLine scan line = scanContinuation scan line := by
  simp [scanLine, inside, folded.ne_nil, folded]

/-- The scanner takes the continuation lines of a field in one way only. -/
theorem acceptsAll_folds_iff {folds : List Bytes}
    (inside : scan.firstLine = false) (previous : scan.previousHeader = true)
    (areFolds : ∀ fold ∈ folds, Parser.IsFold fold)
    (fits : consumed + (unlines folds).length ≤ maxHeaderBytes) :
    AcceptsAll scan consumed folds final ↔
      match scan.activeContentLength with
      | none => final = scan
      | some parser => ∃ pushed, parser.push folds.flatten = .ok pushed ∧
          final = { scan with activeContentLength := some pushed } := by
  induction folds generalizing scan consumed with
  | nil =>
    have stays : AcceptsAll scan consumed [] final ↔ final = scan := by
      constructor
      · rintro ⟨⟩
        rfl
      · rintro rfl
        exact .nil
    rw [stays]
    cases active : scan.activeContentLength with
    | none => rfl
    | some parser =>
      have same : { scan with activeContentLength := some parser } = scan := by
        rw [← active]
      simp [ContentLengthParser.push, same]
  | cons fold folds ih =>
    obtain ⟨clean, lineFits, folded⟩ := areFolds fold (by simp)
    have laterFolds : ∀ fold ∈ folds, Parser.IsFold fold := by
      intro other member
      exact areFolds other (by simp [member])
    rw [length_unlines_cons] at fits
    have headerFits : consumed + (fold.length + 2) ≤ maxHeaderBytes := by
      omega
    have laterFits : consumed + (fold.length + 2) + (unlines folds).length ≤ maxHeaderBytes := by
      omega
    rw [acceptsAll_cons_iff clean lineFits headerFits, scanLine_of_fold inside folded]
    cases active : scan.activeContentLength with
    | none =>
      have only (next : ScanState) :
          scanContinuation scan fold = .ok (.next next) ↔ next = scan := by
        simp [scanContinuation, previous, active, eq_comm]
      simp only [only, exists_eq_left]
      rw [ih inside previous laterFolds laterFits, active]
    | some parser =>
      have only (next : ScanState) : scanContinuation scan fold = .ok (.next next) ↔
            ∃ pushed, parser.push fold = .ok pushed ∧
              next = { scan with activeContentLength := some pushed } := by
        cases decoded : parser.push fold <;>
          simp [scanContinuation, previous, active, decoded, eq_comm]
      have later (pushed : ContentLengthParser) :
          AcceptsAll { scan with activeContentLength := some pushed }
              (consumed + (fold.length + 2)) folds final ↔
            ∃ final', pushed.push folds.flatten = .ok final' ∧
              final = { scan with activeContentLength := some final' } :=
        ih inside previous laterFolds laterFits
      simp only [only, List.flatten_cons, ContentLengthParser.push_append, Outcome.bind_eq_ok]
      constructor
      · rintro ⟨next, ⟨pushed, decoded, rfl⟩, accepted⟩
        obtain ⟨final', decodedLater, rfl⟩ := (later pushed).mp accepted
        exact ⟨final', ⟨pushed, decoded, decodedLater⟩, rfl⟩
      · rintro ⟨final', ⟨pushed, decoded, decodedLater⟩, rfl⟩
        exact ⟨_, ⟨pushed, decoded, rfl⟩, (later pushed).mpr ⟨final', decodedLater, rfl⟩⟩

/-- The lines of one header field: a header line and its continuation
lines. -/
structure IsField (line : Bytes) (folds : List Bytes) (name value : Bytes) :
    Prop where
  clean : Clean line
  lineFits : line.length ≤ maxLineBytes
  nonempty : line ≠ []
  unfolded : ¬IsContinuation line
  areFolds : ∀ fold ∈ folds, Parser.IsFold fold
  parts : splitHeader line = .ok (name, value)

/-- The scanner takes the lines of a field in one way only. -/
theorem acceptsAll_field_iff {line name value : Bytes}
    {folds : List Bytes} {contentLength : Option Nat}
    (field : IsField line folds name value) (inside : scan.firstLine = false)
    (settled : scan.Settles contentLength)
    (fits : consumed + (unlines (line :: folds)).length ≤ maxHeaderBytes) :
    AcceptsAll scan consumed (line :: folds) final ↔ scan.headerCount < maxHeaderCount ∧
        if isContentLengthName name then
          contentLength = none ∧ ∃ pushed,
            ContentLengthParser.new.push (value ++ folds.flatten) = .ok pushed ∧
            final = ⟨false, scan.headerCount + 1, true, none, some pushed⟩
        else
          final = ⟨false, scan.headerCount + 1, true, contentLength, none⟩ := by
  rw [length_unlines_cons] at fits
  have laterFits : consumed + (line.length + 2) + (unlines folds).length ≤ maxHeaderBytes := by
    omega
  have scanned : scanLine scan line = scanHeaderLine scan contentLength line := by
    unfold ScanState.Settles at settled
    simp [scanLine, inside, field.nonempty, field.unfolded, settled]
  rw [acceptsAll_cons_iff field.clean field.lineFits (by omega), scanned]
  by_cases room : scan.headerCount < maxHeaderCount
  · have counted : ¬maxHeaderCount < scan.headerCount + 1 := by omega
    by_cases isLength : isContentLengthName name = true
    · cases contentLength with
      | some length => simp [scanHeaderLine, counted, field.parts, isLength]
      | none =>
        cases decoded : ContentLengthParser.new.push value with
        | error error =>
          simp [scanHeaderLine, counted, field.parts, isLength, decoded,
            ContentLengthParser.push_append]
        | ok parser =>
          simp [scanHeaderLine, counted, field.parts, isLength, decoded,
            ContentLengthParser.push_append, room,
            acceptsAll_folds_iff _ _ field.areFolds laterFits]
    · simp [scanHeaderLine, counted, field.parts, isLength, room,
        acceptsAll_folds_iff _ _ field.areFolds laterFits]
  · have counted : maxHeaderCount < scan.headerCount + 1 := by omega
    simp [scanHeaderLine, counted, room]

theorem ScanState.Settles.unique {first second : Option Nat}
    (settled : scan.Settles first) (settledToo : scan.Settles second) :
    first = second :=
  Except.ok.inj (settled.symm.trans settledToo)

/-- The scanner does not leave the header section for a start line. -/
theorem AcceptsAll.inside
    (accepted : AcceptsAll scan consumed lines final) (inside : scan.firstLine = false) :
    final.firstLine = false := by
  induction accepted with
  | nil => exact inside
  | cons accepts later ih =>
    apply ih
    cases scanLine_eq_ok_iff.mp accepts.scanned with
    | start => rfl
    | fold => exact inside
    | foldLength => exact inside
    | header => rfl
    | lengthHeader => rfl

/-- A body length that an earlier field has declared is kept. -/
theorem AcceptsAll.settles_of_declared
    (accepted : AcceptsAll scan consumed lines final)
    {length : Nat}
    (inside : scan.firstLine = false) (inactive : scan.activeContentLength = none)
    (declared : scan.contentLength = some length) :
    final.Settles (some length) := by
  have settled {scan : ScanState} (inactive : scan.activeContentLength = none)
      (declared : scan.contentLength = some length) :
      scan.Settles (some length) := by
    simp [ScanState.Settles, finalizeContentLength, inactive, declared]
  induction accepted with
  | nil => exact settled inactive declared
  | cons accepts later ih =>
    cases scanLine_eq_ok_iff.mp accepts.scanned with
    | start first => simp [first] at inside
    | fold => exact ih inside inactive declared
    | foldLength _ _ _ active => simp [active] at inactive
    | header _ _ _ settledNow =>
      exact ih rfl rfl (settledNow.unique (settled inactive declared))
    | lengthHeader _ _ _ settledNow =>
      cases settledNow.unique (settled inactive declared)

/-- At the end of a field the body length is settled, and if it is declared
then it is the body length of the message. -/
theorem AcceptsAll.settles_of_field_end {contentLength : Option Nat}
    (accepted : AcceptsAll scan consumed lines final) (inside : scan.firstLine = false)
    (ended : ∀ line ∈ lines.head?, ¬IsContinuation line) (settled : final.Settles contentLength) :
    ∃ declared, scan.Settles declared ∧ (declared = none ∨ declared = contentLength) := by
  cases accepted with
  | nil => exact ⟨contentLength, settled, .inr rfl⟩
  | cons accepts later =>
    cases scanLine_eq_ok_iff.mp accepts.scanned with
    | start first => simp [first] at inside
    | fold _ folded => exact absurd folded (ended _ rfl)
    | foldLength _ folded => exact absurd folded (ended _ rfl)
    | @header declared _ _ _ _ _ settledNow =>
      refine ⟨declared, settledNow, ?_⟩
      cases declared with
      | none => exact .inl rfl
      | some length =>
        exact .inr ((later.settles_of_declared rfl rfl rfl).unique settled)
    | lengthHeader _ _ _ settledNow => exact ⟨none, settledNow, .inl rfl⟩

end Framing

namespace Parser

open Ascii Crlf Outcome Framing

/-- The body length that the parser knows after a field. -/
theorem declareLength_eq_ok_iff
    {input line rest name value : Bytes} {start : Nat} {parsed : ParsedHeader} {folds : List Bytes}
    (field : FieldAt input start parsed line folds rest name value)
    (contentLength declared : Option Nat) :
    declareLength input parsed contentLength = .ok declared ↔
      if isContentLengthName name then
        contentLength = none ∧ ∃ length, lengthOf (value ++ folds.flatten) = some length ∧
          length ≤ maxBodyBytes ∧ declared = some length
      else
        declared = contentLength := by
  obtain ⟨raw, taken, unfolds⟩ := field.raw
  rw [declareLength, field.isLength]
  by_cases isLength : isContentLengthName name = true
  · simp only [isLength, if_true, taken, bind_eq_ok, ensure_eq_ok, exists_const,
      parseContentLength_eq_ok_iff unfolds]
    refine and_congr_right fun _ => exists_congr fun length => ?_
    rw [and_assoc]
    refine and_congr_right fun _ => and_congr_right fun _ => ?_
    exact ⟨fun returned => (Except.ok.inj returned).symm, fun same => same ▸ rfl⟩
  · simp only [isLength, Bool.false_eq_true, ↓reduceIte]
    exact ⟨fun returned => (Except.ok.inj returned).symm, fun same => same ▸ rfl⟩

/-- The scanner is inside the header section, has counted the header fields
and settles the body length that they declare. -/
structure Tracks (scan : ScanState) (count : Nat)
    (contentLength : Option Nat) : Prop where
  inside : scan.firstLine = false
  counted : scan.headerCount = count
  settled : scan.Settles contentLength

section Field

variable {input line rest name value : Bytes} {start count : Nat}
  {parsed : ParsedHeader} {folds : List Bytes} {scan final : ScanState}
  {contentLength declared : Option Nat}

/-- What the scanner has accepted of a field is declared by the parser. -/
theorem declareLength_of_acceptsAll
    (field : FieldAt input start parsed line folds rest name value)
    (nonempty : line ≠ []) (unfolded : ¬IsContinuation line)
    (fits : parsed.nextOffset ≤ maxHeaderBytes) (tracks : Tracks scan count contentLength)
    (accepted : AcceptsAll scan start (line :: folds) final) (settled : final.Settles declared)
    (bounded : ∀ length ∈ declared, length ≤ maxBodyBytes) :
    declareLength input parsed contentLength = .ok declared ∧
      Tracks final (count + 1) declared := by
  rw [field.next] at fits
  rw [acceptsAll_field_iff ⟨field.clean, field.fits, nonempty, unfolded,
    field.areFolds, field.parts⟩ tracks.inside tracks.settled fits] at accepted
  rw [declareLength_eq_ok_iff field]
  obtain ⟨-, accepted⟩ := accepted
  have counted := tracks.counted
  by_cases isLength : isContentLengthName name = true
  · rw [if_pos isLength] at accepted ⊢
    obtain ⟨undeclared, pushed, decoded, rfl⟩ := accepted
    refine ⟨⟨undeclared, ?_⟩, rfl, by simp [counted], settled⟩
    cases finished : pushed.finish with
    | error error =>
      simp [ScanState.Settles, finalizeContentLength, finished] at settled
    | ok length =>
      have same : declared = some length := by
        simpa [ScanState.Settles, finalizeContentLength, finished, eq_comm] using settled
      exact ⟨length, (ContentLengthParser.decodes_iff _ _).mp
        ⟨pushed, decoded, finished⟩, bounded length same, same⟩
  · rw [if_neg isLength] at accepted ⊢
    subst accepted
    refine ⟨?_, rfl, by simp [counted], settled⟩
    simpa [ScanState.Settles, finalizeContentLength, eq_comm] using settled

/-- What the parser has declared of a field is accepted by the scanner. -/
theorem acceptsAll_of_declareLength
    (field : FieldAt input start parsed line folds rest name value)
    (nonempty : line ≠ []) (unfolded : ¬IsContinuation line)
    (fits : parsed.nextOffset ≤ maxHeaderBytes)
    (tracks : Tracks scan count contentLength) (room : count < maxHeaderCount)
    (taken : declareLength input parsed contentLength = .ok declared) :
    ∃ final, AcceptsAll scan start (line :: folds) final ∧ Tracks final (count + 1) declared := by
  rw [field.next] at fits
  have counted := tracks.counted
  simp only [acceptsAll_field_iff ⟨field.clean, field.fits, nonempty, unfolded,
    field.areFolds, field.parts⟩ tracks.inside tracks.settled fits, counted]
  rw [declareLength_eq_ok_iff field] at taken
  by_cases isLength : isContentLengthName name = true
  · rw [if_pos isLength] at taken
    obtain ⟨undeclared, length, decodes, -, rfl⟩ := taken
    obtain ⟨pushed, decoded, finished⟩ := (ContentLengthParser.decodes_iff _ _).mpr decodes
    refine ⟨⟨false, count + 1, true, none, some pushed⟩, ⟨room, ?_⟩, rfl, rfl, ?_⟩
    · rw [if_pos isLength]
      exact ⟨undeclared, pushed, decoded, rfl⟩
    · simp [ScanState.Settles, finalizeContentLength, finished]
  · rw [if_neg isLength] at taken
    subst taken
    refine ⟨⟨false, count + 1, true, declared, none⟩, ⟨room, ?_⟩, rfl, rfl, rfl⟩
    rw [if_neg isLength]

end Field

end Parser
end Sip
end LiveAISIP
