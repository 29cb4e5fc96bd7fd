import LiveAISIP.Sip.Sdp.Document

/-!
# Normal session descriptions

The parser keeps every line as it was received but for the spelling of the ports
on media lines.  Hence the serialized document is no longer than the input, and is
parsed as the same document.
-/

namespace LiveAISIP
namespace Sip
namespace Sdp

open Ascii Outcome
open Crlf ParseState List

variable {grants grants' : Nat → Bool} {state next : ParseState} {input : Bytes} {number : Nat}

/-- A media line on the wire, without its CRLF. -/
def MediaLine.wire (line : MediaLine) : Bytes := 109 :: 61 :: line.render

/-- The lines of a media section on the wire. -/
def MediaSection.wire (section_ : MediaSection) : List Bytes :=
  section_.media.wire :: section_.lines.map SdpLine.render

/-- The lines of a document on the wire. -/
def wireLines (sessionLines : List SdpLine) (sections : List MediaSection) : List Bytes :=
  sessionLines.map SdpLine.render ++ sections.flatMap MediaSection.wire

/-- The second line differs from the first at most in the spelling of the port of a
media line. -/
def Respelled (first second : Bytes) : Prop := first = second ∨ ∃ media port port' formats,
      first = 109 :: 61 :: (media ++ 32 :: (port ++ 32 :: formats)) ∧
      second = 109 :: 61 :: (media ++ 32 :: (port' ++ 32 :: formats)) ∧
      32 ∉ media ∧ 32 ∉ port ∧ 32 ∉ port' ∧
      parsePort port = parsePort port' ∧ ∃ numbers, parsePort port' = .ok numbers

theorem pushLines_eq (lines : List SdpLine) :
    pushLines lines = unlines (lines.map SdpLine.render) := by
  induction lines with
  | nil => rfl
  | cons line lines ih =>
    rw [map_cons, unlines_cons, ← ih]
    simp [pushLines, pushLine, SdpLine.render, SdpField.asByte, cr, lf]

theorem unlines_flatMap_wire (sections : List MediaSection) : (sections.flatMap fun section_ =>
        pushLine 'm' section_.media.render ++ pushLines section_.lines) =
      unlines (sections.flatMap MediaSection.wire) := by
  induction sections with
  | nil => rfl
  | cons first sections ih =>
    rw [flatMap_cons, flatMap_cons, unlines_append,
      ← ih, MediaSection.wire, unlines_cons, pushLines_eq]
    simp [pushLine, MediaLine.wire, cr, lf]

theorem addLines_eq
    {total : Nat} {lines : List SdpLine}
    (fits : total + (unlines (lines.map SdpLine.render)).length < wordSize) :
    addLines total lines = .ok (total + (unlines (lines.map SdpLine.render)).length) := by
  induction lines generalizing total with
  | nil => rfl
  | cons line lines ih =>
    rw [map_cons, length_unlines_cons, SdpLine.length_render] at fits ⊢
    rw [addLines, foldlM_cons, addLine, if_neg (by omega)]
    have next : addLines (total + line.length + 2) lines = _ := ih (by omega)
    rw [addLines] at next
    simp only [ok_bind]
    rw [next]
    congr 1
    omega

theorem addSections_eq
    {total : Nat} {sections : List MediaSection}
    (fits : total + (unlines (sections.flatMap MediaSection.wire)).length < wordSize) :
    sections.foldlM addSection total =
      .ok (total + (unlines (sections.flatMap MediaSection.wire)).length) := by
  induction sections generalizing total with
  | nil => rfl
  | cons first sections ih =>
    simp only [flatMap_cons, unlines_append, length_append] at fits ⊢
    have size : (unlines first.wire).length = first.media.render.length + 2 + 2 +
        (unlines (first.lines.map SdpLine.render)).length := by
      rw [MediaSection.wire, length_unlines_cons]
      rfl
    rw [size] at fits ⊢
    have lines : addLines (total + (first.media.render.length + 2) + 2) first.lines = _ :=
      addLines_eq (by omega)
    have here : addSection total first = .ok (total + (first.media.render.length + 2 + 2 +
        (unlines (first.lines.map SdpLine.render)).length)) := by
      rw [addSection, addLine, if_neg (by omega)]
      simp only [ok_bind]
      rw [lines]
      congr 1
      omega
    rw [foldlM_cons, here]
    simp only [ok_bind]
    rw [ih (by omega)]
    congr 1
    omega

/-- A document whose lines fit is serialized as its lines. -/
theorem serialize_eq {document : SdpDocument} (granted : ∀ size, grants size = true)
    (fits : (unlines (wireLines document.sessionLines
      document.mediaSections)).length ≤ maxSdpBytes) :
    serializedLen document = .ok (unlines (wireLines document.sessionLines
        document.mediaSections)).length ∧
      serialize grants document =
        .ok (unlines (wireLines document.sessionLines document.mediaSections)) := by
  have room : maxSdpBytes < wordSize := by decide
  have size : serializedLen document = .ok (unlines (wireLines document.sessionLines
      document.mediaSections)).length := by
    rw [wireLines, unlines_append, length_append] at fits ⊢
    rw [serializedLen, addLines_eq (by omega)]
    simp only [ok_bind, Nat.zero_add]
    rw [addSections_eq (by omega)]
    simp only [ok_bind]
    rw [if_neg (by omega)]
  refine ⟨size, ?_⟩
  rw [serialize, size]
  simp only [ok_bind, granted, ensure_of]
  rw [unlines_flatMap_wire, pushLines_eq, wireLines, unlines_append]
  rfl

/-- The lines that the parser has read. -/
def ParseState.wire (state : ParseState) : List Bytes :=
  wireLines state.sessionLines state.mediaSections

/-- The second line is read as the first one in any state. -/
structure Replaces
    (grants : Nat → Bool) (state next : ParseState) (first second : Bytes) : Prop where
  respelled : Respelled first second
  clean : Clean second
  nonempty : second ≠ []
  shorter : second.length ≤ first.length
  taken : ∀ number, state.takeLine grants number second = .ok next
  appended : next.wire = state.wire ++ [second]

/-- A line that is no media line is read again as it is. -/
theorem replaces_self
    (clean : Clean input) (nonempty : input ≠ [])
    (taken : ∀ number, state.takeLine grants number input = .ok next)
    (appended : next.wire = state.wire ++ [input]) :
    Replaces grants state next input input :=
  ⟨.inl rfl, clean, nonempty, le_rfl, taken, appended⟩

theorem wire_concat_line
    {sections : List MediaSection} {last : MediaSection}
    (ends : sections.getLast? = some last) (line : SdpLine) :
    (sections.dropLast ++ [{ last with lines := last.lines ++ [line] }]).flatMap MediaSection.wire =
      sections.flatMap MediaSection.wire ++ [line.render] := by
  obtain ⟨front, rfl⟩ := getLast?_eq_some_iff.mp ends
  simp [MediaSection.wire]

/-- Visible ASCII bytes after `m=` are a line of that field. -/
theorem fromBytes_mediaLine
    {value : Bytes} (ascii : ∀ byte ∈ value, byte < 128 ∧ isForbiddenByte byte = false)
    (nonempty : value ≠ []) (fits : value.length + 2 ≤ maxSdpLineBytes) :
    ∃ line, SdpLine.fromBytes (109 :: 61 :: value) = .ok line ∧
      line.field = .media ∧ wireBytes line.value = value := by
  obtain ⟨text, decoded⟩ := Text.fromUtf8_of_ascii fun byte member => (ascii byte member).1
  have bytes : wireBytes text = value := Text.toUTF8_of_fromUtf8 decoded
  have letter : SdpField.fromChar (Char.ofNat (109 : UInt8).toNat) = .ok .media := by
    decide
  have allowed : value.findIdx? isForbiddenByte = none :=
    findIdx?_eq_none_iff.mpr fun byte member => (ascii byte member).2
  have valid : validateValue value = .ok () := by
    rw [validateValue, if_neg nonempty, allowed]
  refine ⟨⟨.media, text⟩, ?_, rfl, bytes⟩
  have made : SdpLine.new .media text = .ok ⟨.media, text⟩ := by
    rw [SdpLine.new, bytes, valid]
    simp only [ok_bind]
    rw [if_neg (by omega)]
  obtain ⟨first, rest, rfl⟩ := exists_cons_of_ne_nil nonempty
  have small : ¬maxSdpLineBytes < (109 :: 61 :: first :: rest : Bytes).length := by
    simp only [length_cons] at fits ⊢
    omega
  rw [SdpLine.fromBytes, if_neg small]
  simp only [ne_eq, not_true, if_false, letter, ok_bind, decoded]
  exact made

/-- A media section begins with the respelled line. -/
theorem exists_replaces_media (granted : ∀ size, grants' size = true) {line : SdpLine}
    (parsed : SdpLine.fromBytes input = .ok line) (isMedia : line.field = .media)
    (taken : state.takeMedia grants number line = .ok next) :
    ∃ written, Replaces grants' state next input written := by
  have from_ := SdpLine.fromBytes_eq_ok parsed
  rw [takeMedia] at taken
  split_ifs at taken with timed many
  obtain ⟨media, parsesMedia, returned⟩ := bind_eq_ok.mp taken
  cases returned
  rw [mapError_eq_ok] at parsesMedia
  obtain ⟨front, port, back, value, noSpace, noSpacePort, parsesPort, ascii, written,
    respelled⟩ := MediaLine.fromBytes_eq_ok parsesMedia granted
  have spelling := portSpelling_portText media.port media.portCount
  have source : input = 109 :: 61 :: (front ++ 32 :: (port ++ 32 :: back)) := by
    rw [← from_.rendered, SdpLine.render, isMedia, value]
    rfl
  have shorter : (portText media.port media.portCount).length ≤ port.length :=
    length_portText parsesPort
  have size : media.render.length ≤ (wireBytes line.value).length := by
    rw [written, value]
    simp only [length_append, length_cons]
    omega
  have fits := from_.fits
  rw [← from_.rendered, SdpLine.length_render, SdpLine.length] at fits
  have visible : ∀ byte ∈ media.render, byte < 128 ∧ isForbiddenByte byte = false := by
    have plain : ∀ byte, isDigit byte = true ∨ byte = 47 →
        byte < 128 ∧ isForbiddenByte byte = false := by
      intro byte
      simp [isDigit, isForbiddenByte, UInt8.le_iff_toNat_le, UInt8.lt_iff_toNat_lt,
        ← UInt8.toNat_inj]
      omega
    have allowed := from_.allowed
    rw [value] at allowed
    simp only [written, mem_append, mem_cons] at allowed ascii ⊢
    rintro byte (member | rfl | member | rfl | member)
    · exact ⟨ascii byte (.inl member), allowed byte (.inl member)⟩
    · decide
    · exact plain byte (spelling.plain byte member)
    · decide
    · exact ⟨ascii byte (.inr member), allowed byte (.inr (.inr (.inr (.inr member))))⟩
  have nonempty : media.render ≠ [] := by simp [written]
  obtain ⟨respelledLine, parsesLine, field, bytes⟩ :=
    fromBytes_mediaLine visible nonempty (by omega)
  refine ⟨media.wire, ?_, (SdpLine.fromBytes_eq_ok parsesLine).clean, by simp [MediaLine.wire],
    ?_, ?_, ?_⟩
  · refine .inr ⟨front, port, portText media.port media.portCount, back, source, ?_,
      noSpace, noSpacePort, ?_, ?_, _, spelling.parses⟩
    · rw [MediaLine.wire, written]
    · intro member
      obtain digit | slash := spelling.plain 32 member
      · cases digit
      · cases slash
    · rw [parsesPort, spelling.parses]
  · rw [← from_.rendered, SdpLine.length_render, SdpLine.length]
    simp only [MediaLine.wire, length_cons]
    omega
  · intro number'
    have again := respelled _ spelling
    rw [← written, ← bytes] at again
    rw [takeLine, if_neg (by simp [MediaLine.wire]), MediaLine.wire, parsesLine]
    simp only [Except.mapError, ok_bind, field, if_true]
    rw [takeMedia, if_neg (not_not.mpr timed), if_neg many, again]
    rfl
  · simp [wire, wireLines, MediaSection.wire]

/-- The line number of a check stands in its error only. -/
theorem validateSessionPrefix_congr
    {field : SdpField} {count : Nat} {checked : Unit}
    (valid : validateSessionPrefix field count number = .ok checked) (number' : Nat) :
    validateSessionPrefix field count number' = .ok () := by
  rw [validateSessionPrefix] at valid ⊢
  cases expected : [SdpField.version, .origin, .sessionName][count]? with
  | none | some required =>
    simp only [expected, ensure_eq_ok] at valid
    exact ensure_of valid _

/-- A session line is read again as it is. -/
theorem takeSessionLine_replaces
    (granted : ∀ size, grants' size = true)
    {line : SdpLine}
    (outside : state.mediaSections = [])
    (taken : state.takeSessionLine grants number line = .ok next) :
    (∀ number', state.takeSessionLine grants' number' line = .ok next) ∧
      next.wire = state.wire ++ [line.render] := by
  obtain ⟨_, valid, rest⟩ := bind_eq_ok.mp taken
  obtain ⟨_, -, returned⟩ := bind_eq_ok.mp rest
  cases returned
  refine ⟨fun number' => ?_, by simp [wire, wireLines, outside]⟩
  rw [takeSessionLine, validateSessionPrefix_congr valid]
  simp only [ok_bind, granted, ensure_of]
  rfl

/-- A line of a media section is read again as it is. -/
theorem takeMediaLine_replaces (granted : ∀ size, grants' size = true) {line : SdpLine}
    (taken : state.takeMediaLine grants number line = .ok next) :
    (∀ number', state.takeMediaLine grants' number' line = .ok next) ∧
      next.wire = state.wire ++ [line.render] := by
  rw [takeMediaLine] at taken
  cases ends : state.mediaSections.getLast? with
  | none =>
    simp only [ends] at taken
    have returned := returned_of_refusal taken
    cases returned
  | some last =>
    simp only [ends] at taken
    split_ifs at taken with sessionOnly many allowed
    cases taken
    constructor
    · intro number'
      rw [takeMediaLine, if_neg sessionOnly]
      simp only [ends]
      rw [if_neg many, if_neg (by simp [granted])]
    · rw [wire, wireLines, wire_concat_line ends]
      simp [wire, wireLines]

/-- Every line that is taken has one that replaces it. -/
theorem exists_replaces (granted : ∀ size, grants' size = true)
    (taken : state.takeLine grants number input = .ok next) :
    ∃ written, Replaces grants' state next input written := by
  rw [takeLine] at taken
  by_cases empty : input = []
  · rw [if_pos empty] at taken
    cases taken
  rw [if_neg empty] at taken
  obtain ⟨line, parsed, taken⟩ := bind_eq_ok.mp taken
  rw [mapError_eq_ok] at parsed
  have from_ := SdpLine.fromBytes_eq_ok parsed
  have reads (number' : Nat) : state.takeLine grants' number' input =
      if line.field = .media then state.takeMedia grants' number' line
      else if state.mediaSections = [] then state.takeSessionLine grants' number' line
      else state.takeMediaLine grants' number' line := by
    rw [takeLine, if_neg empty, parsed]
    rfl
  by_cases isMedia : line.field = .media
  · rw [if_pos isMedia] at taken
    exact exists_replaces_media granted parsed isMedia taken
  simp only [if_neg isMedia] at taken reads
  by_cases outside : state.mediaSections = []
  · simp only [if_pos outside] at taken reads
    obtain ⟨again, appended⟩ := takeSessionLine_replaces granted outside taken
    rw [from_.rendered] at appended
    exact ⟨input, replaces_self from_.clean empty
      (fun number' => (reads number').trans (again number')) appended⟩
  · simp only [if_neg outside] at taken reads
    obtain ⟨again, appended⟩ := takeMediaLine_replaces granted taken
    rw [from_.rendered] at appended
    exact ⟨input, replaces_self from_.clean empty
      (fun number' => (reads number').trans (again number')) appended⟩

theorem findCrlf_of_clean
    {line : Bytes} (clean : Clean line) (rest : Bytes) :
    findCrlf (line ++ cr :: lf :: rest) = some line.length := by
  induction line with
  | nil => rfl
  | cons byte line ih =>
    obtain ⟨⟨notCr, notLf⟩, clean⟩ := (clean_cons byte line).mp clean
    have notCr : ¬byte = 13 := notCr
    have notLf : ¬byte = 10 := notLf
    rw [cons_append, findCrlf, if_neg notCr, if_neg notLf, ih clean]
    rfl

theorem findCrlf_eq_some {size : Nat} (found : findCrlf input = some size) :
    ∃ line rest, input = line ++ cr :: lf :: rest ∧ line.length = size := by
  induction input generalizing size with
  | nil => cases found
  | cons byte input ih =>
    rw [findCrlf] at found
    split_ifs at found with isCr isLf other
    · cases found
      obtain ⟨rest, rfl⟩ := head?_eq_some_iff.mp isLf
      exact ⟨[], rest, by rw [isCr]; rfl, rfl⟩
    · obtain ⟨inner, located, rfl⟩ := Option.map_eq_some_iff.mp found
      obtain ⟨line, rest, rfl, rfl⟩ := ih located
      exact ⟨byte :: line, rest, rfl, rfl⟩

/-- The lines of an input can be replaced one by one. -/
theorem exists_replaced_lines (granted : ∀ size, grants' size = true)
    {remaining : Nat} (taken : state.takeLines grants remaining input = .ok next) :
    ∃ lines written, input = unlines lines ∧ Forall₂ Respelled lines written ∧
      (unlines written).length ≤ input.length ∧
      next.wire = state.wire ++ written ∧
      state.takeLines grants' remaining (unlines written) = .ok next := by
  induction remaining generalizing input state with
  | zero =>
    cases input with
    | nil =>
      cases taken
      exact ⟨[], [], rfl, .nil, le_rfl, by simp, rfl⟩
    | cons byte input => cases taken
  | succ remaining ih =>
    cases input with
    | nil =>
      cases taken
      exact ⟨[], [], rfl, .nil, le_rfl, by simp, rfl⟩
    | cons byte input =>
      rw [takeLines] at taken
      cases found : findCrlf (byte :: input) with
      | none => simp [found] at taken
      | some size =>
        simp only [found] at taken
        obtain ⟨middle, takesLine, takesRest⟩ := bind_eq_ok.mp taken
        obtain ⟨line, rest, split, rfl⟩ := findCrlf_eq_some found
        have front : (byte :: input).take line.length = line := by
          rw [split, take_left]
        have back : (byte :: input).drop (line.length + 2) = rest := by
          rw [split, ← drop_drop, drop_left]
          rfl
        rw [front] at takesLine
        rw [back] at takesRest
        obtain ⟨written, replaces⟩ := exists_replaces granted takesLine
        obtain ⟨lines, others, rfl, respelled, shorter, appended, again⟩ := ih takesRest
        refine ⟨line :: lines, written :: others, by rw [split, unlines_cons],
          .cons replaces.respelled respelled, ?_, ?_, ?_⟩
        · have first := replaces.shorter
          rw [split, length_unlines_cons]
          simp only [length_append, length_cons]
          omega
        · rw [appended, replaces.appended]
          simp
        · have located := findCrlf_of_clean replaces.clean (unlines others)
          obtain ⟨byte', written', rfl⟩ := exists_cons_of_ne_nil replaces.nonempty
          rw [unlines_cons, cons_append, takeLines]
          simp only [← cons_append, located, take_left]
          rw [replaces.taken, ← drop_drop, drop_left]
          exact again

/-- Parsing and serializing are stable: a parsed document is serialized no longer than
the input, from which it differs only in the spelling of ports, and is parsed and
serialized again as it is. -/
theorem normalization_stable
    {grants grants' : Nat → Bool} {input : Bytes} {document : SdpDocument}
    (parsed : parse grants input = .ok document) (granted : ∀ size, grants' size = true) :
    ∃ output, serialize grants' document = .ok output ∧ serializedLen document = .ok output.length ∧
      output.length ≤ input.length ∧
      parse grants' output = .ok document ∧
      ∃ lines written, input = unlines lines ∧ output = unlines written ∧
        Forall₂ Respelled lines written := by
  rw [parse] at parsed
  split_ifs at parsed with empty large
  obtain ⟨state, taken, parsed⟩ := bind_eq_ok.mp parsed
  obtain ⟨_, valid, returned⟩ := bind_eq_ok.mp parsed
  cases returned
  obtain ⟨lines, written, split, respelled, shorter, appended, again⟩ :=
    exists_replaced_lines granted taken
  have wire : wireLines state.sessionLines state.mediaSections = written := by
    have all : state.wire = written := by
      simpa [ParseState.wire, wireLines, new] using appended
    exact all
  have fits : (unlines written).length ≤ maxSdpBytes := by omega
  have nonempty : unlines written ≠ [] := by
    cases respelled with
    | nil => exact absurd split empty
    | cons _ _ => simp
  have outcome : serializedLen ⟨state.sessionLines, state.mediaSections⟩ = _ ∧
      serialize grants' ⟨state.sessionLines, state.mediaSections⟩ = _ :=
    serialize_eq granted (by rw [wire]; exact fits)
  simp only [wire] at outcome
  obtain ⟨size, serialized⟩ := outcome
  refine ⟨unlines written, serialized, size, shorter, ?_, lines, written, split, rfl, respelled⟩
  rw [parse, if_neg nonempty, if_neg (by omega), again]
  simp only [ok_bind, valid]
  rfl

/-- A description with leading zeros in a port and its count. -/
def sampleDescription : Bytes := unlines (["v=0", "o=- 1 1 IN IP4 host", "s=x", "t=0 0",
    "m=audio 05000/01 RTP/AVP 0 8", "a=sendrecv"].map wireBytes)

/-- The document that it describes. -/
def sampleDocument : SdpDocument where
  sessionLines := [⟨.version, "0"⟩, ⟨.origin, "- 1 1 IN IP4 host"⟩, ⟨.sessionName, "x"⟩,
    ⟨.timing, "0 0"⟩]
  mediaSections := [⟨⟨.audio, 5000, 1, .rtpAvp, [⟨"0"⟩, ⟨"8"⟩]⟩, [⟨.attribute_, "sendrecv"⟩]⟩]

theorem normalization_stable_sample :
    parse (fun _ => true) sampleDescription = .ok sampleDocument ∧ ∃ output,
        serialize (fun _ => true) sampleDocument = .ok output ∧
        output.length ≤ sampleDescription.length ∧
        parse (fun _ => true) output = .ok sampleDocument := by
  have parsed : parse (fun _ => true) sampleDescription = .ok sampleDocument := by
    decide +kernel
  obtain ⟨output, serialized, -, shorter, again, -⟩ := normalization_stable parsed fun _ => rfl
  exact ⟨parsed, output, serialized, shorter, again⟩

end Sdp
end Sip
end LiveAISIP
