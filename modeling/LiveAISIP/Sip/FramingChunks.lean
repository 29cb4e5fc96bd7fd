import LiveAISIP.Sip.Framing

/-!
# Framing and the cuts of a byte stream

A stream is inspected again from its start whenever more of it has arrived.
What is said of a beginning of the stream holds of every continuation, except
where the beginning stops between the CR and the LF of a line of the maximum
length: the limit on unfinished lines counts that CR.
-/

namespace LiveAISIP
namespace Sip
namespace Framing

open Ascii Crlf
open List

variable {input line : Bytes} {consumed : Nat}

/-- What is said of a beginning of a stream agrees with what is said of a
continuation that is `length` bytes long. -/
def Agrees (length : Nat) (before after : Except Error Status) : Prop :=
  match before with
  | .error _ => ∃ error, after = .error error
  | .ok (.complete boundary) => after = .ok (.complete boundary)
  | .ok (.needMoreData none) => True
  | .ok (.needMoreData (some required)) =>
    if length < required then after = .ok (.needMoreData (some required))
    else ∃ boundary, after = .ok (.complete boundary) ∧ boundary.consumedBytes = required

/-- The input stops between the CR and the LF of an acceptable line of the
maximum length, after acceptable lines. -/
inductive CutAtLimit : ScanState → Nat → Bytes → Prop
  | here {scan next : ScanState} {consumed : Nat} {line : Bytes}
      (accepts : Accepts scan consumed line next)
      (longest : line.length = maxLineBytes) :
      CutAtLimit scan consumed (line ++ [cr])
  | later {scan next : ScanState} {consumed : Nat} {line rest : Bytes}
      (accepts : Accepts scan consumed line next)
      (cut : CutAtLimit next (consumed + (line.length + 2)) rest) :
      CutAtLimit scan consumed (line ++ cr :: lf :: rest)

/-- The limits on unfinished lines are exceeded. -/
theorem enforceIncompleteLimits_eq_error
    {currentLineBytes currentHeaderBytes : Nat} {error : Error} :
    enforceIncompleteLimits currentLineBytes currentHeaderBytes = .error error →
      maxLineBytes < currentLineBytes ∨ maxHeaderBytes < currentHeaderBytes := by
  unfold enforceIncompleteLimits
  split_ifs with overLine overHeader
  · exact fun _ => .inl overLine
  · exact fun _ => .inr overHeader
  · simp

/-- An unfinished line over a limit is refused. -/
theorem refused_of_pending (pending : Pending input line)
    (exceeds : maxLineBytes < input.length ∨ maxHeaderBytes < consumed + input.length)
    (scan : ScanState) :
    ∃ error, scanHeaders .stream input consumed scan = .error error := by
  rw [scanHeaders_of_pending pending, enforceIncompleteLimits]
  by_cases overLine : maxLineBytes < input.length
  · simp [overLine]
  · simp [overLine, exceeds.resolve_left overLine]

/-- A complete line over a limit is refused. -/
theorem refused_of_begins
    {rest : Bytes} (begins : Begins input line rest)
    (exceeds : maxLineBytes < line.length ∨ maxHeaderBytes < consumed + (line.length + 2))
    (scan : ScanState) :
    ∃ error, scanHeaders .stream input consumed scan = .error error := by
  rw [scanHeaders_of_begins begins]
  by_cases overLine : maxLineBytes < line.length
  · simp [overLine]
  · simp [overLine, exceeds.resolve_left overLine]

/-- A line of the maximum length that is not refused is accepted. -/
theorem accepts_or_refused
    {rest : Bytes} (begins : Begins input line rest)
    (nonempty : line ≠ []) (consumed : Nat) (scan : ScanState) :
    (∃ next, Accepts scan consumed line next) ∨
      ∃ error, scanHeaders .stream input consumed scan = .error error := by
  by_cases exceeds : maxLineBytes < line.length ∨ maxHeaderBytes < consumed + (line.length + 2)
  · exact .inr (refused_of_begins begins exceeds scan)
  · obtain ⟨lineFits, headerFits⟩ := not_or.mp exceeds
    cases scanned : scanLine scan line with
    | error error =>
      refine .inr ⟨error, ?_⟩
      rw [scanHeaders_of_begins begins, if_neg lineFits, if_neg headerFits, scanned]
    | ok step =>
      cases step with
      | done contentLength =>
        exact absurd (scans_of_scanLine scanned).eq_nil nonempty
      | next next =>
        exact .inl ⟨next, begins.clean, Nat.not_lt.mp lineFits, Nat.not_lt.mp headerFits, scanned⟩

/-- An unfinished line over a limit stays refused, unless it was cut at the
limit. -/
theorem refused_append_of_pending (pending : Pending input line) {scan : ScanState}
    (exceeds : maxLineBytes < input.length ∨ maxHeaderBytes < consumed + input.length)
    (uncut : ¬CutAtLimit scan consumed input) (more : Bytes) :
    ∃ error, scanHeaders .stream (input ++ more) consumed scan = .error error := by
  rcases classify (input ++ more) with ⟨longer, rest, begins⟩ | ⟨longer, unfinished⟩ | broken
  · rcases pending.stops with whole | cut
    · have grown := pending.length_le begins
      subst whole
      exact refused_of_begins begins (by omega) scan
    · subst cut
      obtain ⟨same, -⟩ := Begins.of_cut pending.clean begins
      subst same
      simp only [length_append, length_singleton] at exceeds
      by_cases longest : longer.length = maxLineBytes
      · have nonempty : longer ≠ [] := by
          rintro rfl
          simp [maxLineBytes] at longest
        rcases accepts_or_refused begins nonempty consumed scan with
          ⟨next, accepts⟩ | refused
        · exact absurd (.here accepts longest) uncut
        · exact refused
      · exact refused_of_begins begins (by omega) scan
  · refine refused_of_pending unfinished ?_ scan
    simp only [length_append]
    omega
  · exact ⟨_, scanHeaders_of_broken broken _ _ _⟩

/-- A complete header section is the same in every continuation, and a refused
one stays refused unless it was cut at the limit. -/
theorem scanHeaders_append
    (more input : Bytes) (consumed : Nat) (scan : ScanState) :
    (∀ headers, scanHeaders .stream input consumed scan = .ok (some headers) →
      scanHeaders .stream (input ++ more) consumed scan = .ok (some headers)) ∧
    (∀ error, scanHeaders .stream input consumed scan = .error error →
      ¬CutAtLimit scan consumed input →
      ∃ error, scanHeaders .stream (input ++ more) consumed scan = .error error) := by
  induction input using lineInduction generalizing consumed scan with
  | pending input line pending =>
    rw [scanHeaders_of_pending pending]
    constructor
    · intro headers complete
      cases limits : enforceIncompleteLimits input.length
        (consumed + input.length) <;> simp [limits, incompleteHeaders] at complete
    · intro error refused uncut
      cases limits : enforceIncompleteLimits input.length
        (consumed + input.length) with
      | ok within => simp [limits, incompleteHeaders] at refused
      | error error =>
        exact refused_append_of_pending pending (enforceIncompleteLimits_eq_error limits) uncut more
  | broken input broken =>
    rw [scanHeaders_of_broken broken, scanHeaders_of_broken (broken.append more)]
    constructor
    · intro headers complete
      cases complete
    · intro error refused uncut
      exact ⟨_, rfl⟩
  | begins input line rest begins ih =>
    rw [scanHeaders_of_begins begins, scanHeaders_of_begins (begins.append more)]
    by_cases overLine : maxLineBytes < line.length
    · simp [overLine]
    by_cases overHeader : maxHeaderBytes < consumed + (line.length + 2)
    · simp [overLine, overHeader]
    simp only [overLine, overHeader, ↓reduceIte]
    cases scanned : scanLine scan line with
    | error error => simp
    | ok step =>
      cases step with
      | done contentLength => simp
      | next next =>
        obtain ⟨complete, refused⟩ := ih (consumed + (line.length + 2)) next
        refine ⟨complete, fun error failed uncut => ?_⟩
        refine refused error failed fun cut => uncut ?_
        rw [begins.split]
        exact .later ⟨begins.clean, Nat.not_lt.mp overLine, Nat.not_lt.mp overHeader, scanned⟩ cut

/-- An input cut at the limit is refused, and with the missing LF it is not. -/
theorem CutAtLimit.refused
    {scan : ScanState} (cut : CutAtLimit scan consumed input) :
    scanHeaders .stream input consumed scan = .error .lineTooLong ∧
      scanHeaders .stream (input ++ [lf]) consumed scan = .ok none := by
  induction cut with
  | @here scan next consumed line accepts longest =>
    constructor
    · rw [scanHeaders_of_pending ⟨accepts.clean, .inr rfl⟩]
      simp [enforceIncompleteLimits, longest]
    · have fits := accepts.headerFits
      rw [append_assoc]
      refine (scanHeaders_of_accepts accepts _ _).trans ?_
      rw [scanHeaders_of_pending ⟨clean_nil, .inl rfl⟩]
      simp [enforceIncompleteLimits, Nat.not_lt.mpr fits, incompleteHeaders]
  | later accepts cut ih =>
    refine ⟨(scanHeaders_of_accepts accepts _ _).trans ih.1, ?_⟩
    rw [append_assoc]
    exact (scanHeaders_of_accepts accepts _ _).trans ih.2

/-- The keep-alives before a message are the same in every continuation once
the message has begun. -/
theorem skipStreamPrefix_append (input more : Bytes) : input.drop (skipStreamPrefix input) = [] ∨
      input.drop (skipStreamPrefix input) = [cr] ∨
      skipStreamPrefix (input ++ more) = skipStreamPrefix input := by
  fun_induction skipStreamPrefix input with
  | case1 first second input keepAlive ih =>
    simpa [skipStreamPrefix, keepAlive] using ih
  | case2 first second input message => simp [skipStreamPrefix, message]
  | case3 input short =>
    match input with
    | [] => simp
    | [byte] =>
      by_cases isCr : byte = cr
      · simp [isCr]
      · cases more <;> simp [skipStreamPrefix, isCr]
    | first :: second :: rest => exact absurd rfl (short first second rest)

theorem skipStreamPrefix_le (input : Bytes) :
    skipStreamPrefix input ≤ input.length := by
  fun_induction skipStreamPrefix input with
  | case1 first second input keepAlive ih =>
    simp only [length_cons]
    omega
  | case2 | case3 => simp

/-- What inspection makes of the header section of a stream. -/
def streamStatus (inputBytes messageOffset : Nat) :
    Except Error (Option HeaderScan) → Except Error Status
  | .error error => .error error
  | .ok none => .ok (.needMoreData none)
  | .ok (some headers) =>
    inspectStream inputBytes messageOffset (messageOffset + headers.headerBytes) headers

theorem inspect_of_message (message : input.drop (skipStreamPrefix input) ≠ []) :
    inspect input .stream = streamStatus input.length (skipStreamPrefix input)
        (scanHeaders .stream (input.drop (skipStreamPrefix input)) 0 .new) := by
  have begun : ¬input.length ≤ skipStreamPrefix input := by
    simpa using message
  simp only [inspect, messageStart, begun, ↓reduceIte]
  rcases scanHeaders .stream (input.drop (skipStreamPrefix input)) 0 .new with
    error | (_ | headers) <;> rfl

/-- An input that holds no message yet needs more data. -/
theorem inspect_of_keepAlive
    (short : input.drop (skipStreamPrefix input) = [] ∨
      input.drop (skipStreamPrefix input) = [cr]) :
    inspect input .stream = .ok (.needMoreData none) := by
  by_cases empty : input.drop (skipStreamPrefix input) = []
  · have ended : input.length ≤ skipStreamPrefix input := by
      simpa using empty
    simp [inspect, messageStart, ended, incomplete]
  · have cut := short.resolve_left empty
    have pending : Pending [cr] [] := ⟨clean_nil, .inr rfl⟩
    rw [inspect_of_message empty, cut, scanHeaders_of_pending pending]
    rfl

/-- Once the header section is complete, more input completes the message. -/
theorem agrees_inspectStream
    (messageOffset bodyStart : Nat) (headers : HeaderScan)
    {shorter longer : Nat} (grows : shorter ≤ longer) :
    Agrees longer (inspectStream shorter messageOffset bodyStart headers)
      (inspectStream longer messageOffset bodyStart headers) := by
  unfold inspectStream
  cases headers.contentLength with
  | none => exact ⟨_, rfl⟩
  | some bodyBytes =>
    cases validity : validateSizes headers.headerBytes bodyBytes with
    | error error => simp [validity, Agrees]
    | ok valid =>
      simp only [validity]
      by_cases short : shorter < bodyStart + bodyBytes
      · simp only [short, ↓reduceIte, Agrees]
        split_ifs
        · rfl
        · exact ⟨_, rfl, rfl⟩
      · have long : ¬longer < bodyStart + bodyBytes := by omega
        simp only [short, long, ↓reduceIte, Agrees]

/-- A beginning of a stream cut at the limit after its keep-alives. -/
def StopsAtLimit (input : Bytes) : Prop := CutAtLimit .new 0 (input.drop (skipStreamPrefix input))

/-- The first line of a cut input is not empty. -/
theorem CutAtLimit.not_short (cut : CutAtLimit .new 0 input) :
    input ≠ [] ∧ input ≠ [cr] := by
  have nonempty {line : Bytes} {next : ScanState}
      (accepts : Accepts .new 0 line next) : line ≠ [] := by
    rintro rfl
    have refused := accepts.scanned
    simp [scanLine, ScanState.new, validateStartLine] at refused
  cases cut with
  | here accepts longest =>
    have first := nonempty accepts
    simp [first]
  | later accepts cut =>
    have first := nonempty accepts
    simp [first, append_eq_singleton_iff]

/-- A beginning that stops at the limit is refused although the stream may go
on. -/
theorem StopsAtLimit.not_agrees (cut : StopsAtLimit input) :
    ¬Agrees (input ++ [lf]).length (inspect input .stream) (inspect (input ++ [lf]) .stream) := by
  obtain ⟨refused, continued⟩ := CutAtLimit.refused cut
  obtain ⟨message, notCr⟩ := CutAtLimit.not_short cut
  have same : skipStreamPrefix (input ++ [lf]) = skipStreamPrefix input := by
    simpa [message, notCr] using skipStreamPrefix_append input [lf]
  have dropped : (input ++ [lf]).drop (skipStreamPrefix input) =
      input.drop (skipStreamPrefix input) ++ [lf] :=
    drop_append_of_le_length (skipStreamPrefix_le input)
  rw [inspect_of_message message, refused, inspect_of_message, same, dropped, continued]
  · simp [streamStatus, Agrees]
  · simp [same, dropped]

/-- The verdict on a beginning of a stream agrees with the verdict on every
continuation exactly when the beginning does not stop between the CR and the
LF of an acceptable line of the maximum length. -/
theorem inspect_agrees_iff (input : Bytes) : (∀ stream, input <+: stream →
      Agrees stream.length (inspect input .stream) (inspect stream .stream)) ↔
      ¬StopsAtLimit input := by
  constructor
  · intro agrees cut
    exact cut.not_agrees (agrees (input ++ [lf]) (prefix_append _ _))
  · rintro uncut stream ⟨more, rfl⟩
    rcases skipStreamPrefix_append input more with short | short | same
    · rw [inspect_of_keepAlive (.inl short)]
      trivial
    · rw [inspect_of_keepAlive (.inr short)]
      trivial
    · by_cases message : input.drop (skipStreamPrefix input) = []
      · rw [inspect_of_keepAlive (.inl message)]
        trivial
      · have dropped : (input ++ more).drop (skipStreamPrefix input) =
            input.drop (skipStreamPrefix input) ++ more :=
          drop_append_of_le_length (skipStreamPrefix_le input)
        have messageToo : (input ++ more).drop (skipStreamPrefix (input ++ more)) ≠ [] := by
          simp [same, dropped, message]
        rw [inspect_of_message message, inspect_of_message messageToo, same, dropped]
        obtain ⟨complete, refused⟩ := scanHeaders_append more
          (input.drop (skipStreamPrefix input)) 0 .new
        rcases scanned : scanHeaders .stream
          (input.drop (skipStreamPrefix input)) 0 .new with
          error | (_ | headers)
        · obtain ⟨later, stillRefused⟩ := refused error scanned uncut
          rw [stillRefused]
          exact ⟨later, rfl⟩
        · trivial
        · rw [complete headers scanned]
          exact agrees_inspectStream _ _ headers (by simp)

/-- A start line of the maximum length can be cut at the limit. -/
theorem stopsAtLimit_of_startLine
    {first : UInt8} (clean : Clean (first :: line)) (unfolded : isWsp first = false)
    (longest : (first :: line).length = maxLineBytes) :
    StopsAtLimit (first :: line ++ [cr]) := by
  have notCr : first ≠ cr := ((clean_cons first line).mp clean).1.1
  have start : skipStreamPrefix (first :: line ++ [cr]) = 0 := by
    cases line <;> simp [skipStreamPrefix, notCr]
  rw [StopsAtLimit, start, drop_zero]
  refine .here ⟨clean, Nat.le_of_eq longest, ?_,
    scanLine_eq_ok_iff.mpr (.start rfl (by simp) ?_)⟩ longest
  · rw [longest]
    decide
  · simp [IsContinuation, unfolded]

/-- A request line of the maximum length. -/
def longestRequestLine : Bytes :=
  wireBytes "OPTIONS sip:" ++ replicate (maxLineBytes - 20) 97 ++
    wireBytes " SIP/2.0"

theorem longestRequestLine_eq :
    longestRequestLine = 79 :: ([80, 84, 73, 79, 78, 83, 32, 115, 105, 112, 58] ++
        replicate (maxLineBytes - 20) 97 ++
        [32, 83, 73, 80, 47, 50, 46, 48]) := by
  have before : wireBytes "OPTIONS sip:" =
      [79, 80, 84, 73, 79, 78, 83, 32, 115, 105, 112, 58] := by
    decide +kernel
  have after : wireBytes " SIP/2.0" = [32, 83, 73, 80, 47, 50, 46, 48] := by
    decide +kernel
  rw [longestRequestLine, before, after]
  rfl

/-- A request line of the maximum length is refused when it arrives without
its LF, and is not refused with it. -/
theorem longest_request_line_refused_when_cut :
    ¬Agrees (longestRequestLine ++ [cr] ++ [lf]).length
      (inspect (longestRequestLine ++ [cr]) .stream)
      (inspect (longestRequestLine ++ [cr] ++ [lf]) .stream) := by
  have filler : Clean (replicate (maxLineBytes - 20) 97) := by
    intro byte member
    rw [eq_of_mem_replicate member]
    decide
  -- Counted for any filler: the kernel would count this one byte by byte.
  have length (bytes : Bytes) : (79 :: ([80, 84, 73, 79, 78, 83, 32, 115, 105, 112, 58] ++ bytes ++
        [32, 83, 73, 80, 47, 50, 46, 48])).length = bytes.length + 20 := by
    simp
  rw [longestRequestLine_eq]
  refine (stopsAtLimit_of_startLine ?_ (by decide) ?_).not_agrees
  · rw [clean_cons, clean_append, clean_append]
    exact ⟨by decide, ⟨by decide, filler⟩, by decide⟩
  · rw [length, length_replicate]
    exact Nat.sub_add_cancel (by decide)

end Framing
end Sip
end LiveAISIP
