import LiveAISIP.Sip.ContentLength

/-!
# The parser line by line

What the structural parser makes of the lines of a header section: where it
finds the ends of lines, which lines it folds into a field, and the name and
value that it reads from the field.
-/

namespace LiveAISIP
namespace Sip
namespace Parser

open Ascii Crlf Outcome
open Framing (maxLineBytes maxHeaderBytes IsContinuation splitHeader
  trimTrailingWhitespace isContentLengthName)
open List

variable {input line rest : Bytes} {start : Nat}

theorem seekLineEnd_eq_ok_iff
    (start offset : Nat) (input : Bytes) (lineEnd : Nat) :
    seekLineEnd start (start + offset) input = .ok lineEnd ↔ ∃ line rest, Begins input line rest ∧
        offset + line.length ≤ maxLineBytes ∧
        lineEnd = start + (offset + line.length) := by
  induction input generalizing offset with
  | nil =>
    refine iff_of_false (by simp [seekLineEnd]) ?_
    rintro ⟨line, rest, begins, -⟩
    simpa using congrArg length begins.split
  | cons byte input ih =>
    simp only [begins_cons_iff]
    rw [seekLineEnd, Nat.add_sub_cancel_left]
    by_cases exceeds : maxLineBytes < offset
    · rw [if_pos exceeds]
      refine iff_of_false (by simp) ?_
      rintro ⟨line, rest, -, within, -⟩
      omega
    rw [if_neg exceeds]
    by_cases isCr : byte = cr
    · rw [if_pos isCr]
      constructor
      · intro found
        split_ifs at found with next
        cases found
        obtain ⟨rest, rfl⟩ := head?_eq_some_iff.mp next
        exact ⟨[], rest, .inl ⟨rfl, isCr, rfl⟩, Nat.not_lt.mp exceeds, rfl⟩
      · rintro ⟨line, rest, ⟨rfl, -, rfl⟩ | ⟨tail, rfl, plain, -⟩, -, rfl⟩
        · simp
        · exact absurd isCr plain.1
    rw [if_neg isCr]
    by_cases isLf : byte = lf
    · rw [if_pos isLf]
      refine iff_of_false (by simp) ?_
      rintro ⟨line, rest, ⟨-, isCr', -⟩ | ⟨tail, -, plain, -⟩, -⟩
      · exact isCr isCr'
      · exact plain.2 isLf
    rw [if_neg isLf, Nat.add_assoc, ih]
    constructor
    · rintro ⟨line, rest, begins, within, rfl⟩
      refine ⟨byte :: line, rest, .inr ⟨line, rfl, ⟨isCr, isLf⟩, begins⟩,
        ?_, ?_⟩ <;> simp only [length_cons] <;> omega
    · rintro ⟨line, rest, ⟨-, isCr', -⟩ | ⟨tail, rfl, -, begins⟩, within, rfl⟩
      · exact absurd isCr' isCr
      · refine ⟨tail, rest, begins, ?_, ?_⟩ <;>
          simp only [length_cons] at * <;> omega

/-- The parser finds the end of a line exactly where a line within the limit
begins. -/
theorem findLineEnd_eq_ok_iff (input : Bytes) (start lineEnd : Nat) :
    findLineEnd input start = .ok lineEnd ↔ ∃ line rest, Begins (input.drop start) line rest ∧
        line.length ≤ maxLineBytes ∧ lineEnd = start + line.length := by
  unfold findLineEnd
  split_ifs with ended
  · refine iff_of_false (by simp) ?_
    rintro ⟨line, rest, begins, -⟩
    rw [drop_of_length_le ended] at begins
    simpa using congrArg length begins.split
  · simpa using seekLineEnd_eq_ok_iff start 0 (input.drop start) lineEnd

/-- A continuation line stands where the rest of the input begins with a space
or tab. -/
theorem isFoldedAt_iff (input : Bytes) (offset : Nat) :
    IsFoldedAt input offset ↔ IsContinuation (input.drop offset) := by
  have notWsp : isWsp cr = false := by decide
  simp only [IsFoldedAt, isCrlfAt, isWspAt, IsContinuation, head?_drop]
  constructor
  · rintro ⟨-, -, wsp⟩
    obtain ⟨byte, found, wsp⟩ := (Option.any_eq_true _ _).mp wsp
    exact ⟨byte, found, wsp⟩
  · rintro ⟨byte, found, wsp⟩
    obtain ⟨inside, -⟩ := List.getElem?_eq_some_iff.mp found
    have plain := ne_cr_of_isWsp wsp
    refine ⟨inside, ?_, ?_⟩
    · simp [Option.mem_def.mp found, plain]
    · simp [Option.mem_def.mp found, wsp]

theorem isCrlfAt_iff (input : Bytes) (offset : Nat) : isCrlfAt input offset = true ↔
      ∃ rest, input.drop offset = cr :: lf :: rest := by
  have first : input[offset]? = (input.drop offset)[0]? := by simp
  have second : input[offset + 1]? = (input.drop offset)[1]? := by simp
  rw [isCrlfAt, first, second]
  match input.drop offset with
  | [] => simp
  | [byte] => simp
  | first :: second :: rest => simp

/-- A continuation line within the limit. -/
structure IsFold (line : Bytes) : Prop where
  clean : Clean line
  fits : line.length ≤ maxLineBytes
  folded : IsContinuation line

/-- A line begins as the input that it begins. -/
theorem isContinuation_of_begins (begins : Begins input line rest) :
    IsContinuation input ↔ IsContinuation line := by
  have notWsp : isWsp cr = false := by decide
  rw [begins.split]
  cases line with
  | nil => simp [IsContinuation, notWsp]
  | cons byte line => simp [IsContinuation]

/-- The rest of an input after its first line. -/
theorem drop_after_line {offset : Nat} (begins : Begins (input.drop offset) line rest) :
    input.drop (offset + line.length + 2) = rest := by
  have dropped : (input.drop offset).drop (line.length + 2) = rest := by
    simp [begins.split, drop_append]
  rwa [drop_drop, ← Nat.add_assoc] at dropped

/-- The parser folds all continuation lines that follow into the field. -/
theorem foldLines_eq_ok {fieldEnd nextOffset fieldEnd' nextOffset' : Nat}
    (adjacent : fieldEnd + 2 = nextOffset)
    (taken : foldLines input fieldEnd nextOffset = .ok (fieldEnd', nextOffset')) :
    ∃ folds rest, input.drop nextOffset = unlines folds ++ rest ∧
      (∀ fold ∈ folds, IsFold fold) ∧ ¬IsContinuation rest ∧
      nextOffset' = nextOffset + (unlines folds).length ∧
      fieldEnd' + 2 = nextOffset' := by
  fun_induction foldLines input fieldEnd nextOffset with
  | case1 | case2 => cases taken
  | case3 fieldEnd nextOffset folded continuationEnd found valid
      ih =>
      obtain ⟨line, rest, begins, fits, rfl⟩ := (findLineEnd_eq_ok_iff _ _ _).mp found
      obtain ⟨folds, rest', split, areFolds, ended, next, adjacent⟩ := ih rfl taken
      rw [drop_after_line begins] at split
      refine ⟨line :: folds, rest', ?_, ?_, ended, ?_, adjacent⟩
      · rw [begins.split, split]
        simp
      · intro fold member
        rcases mem_cons.mp member with rfl | member
        · exact ⟨begins.clean, fits, (isContinuation_of_begins begins).mp
            ((isFoldedAt_iff _ _).mp folded)⟩
        · exact areFolds fold member
      · rw [length_unlines_cons]
        omega
  | case4 fieldEnd nextOffset unfolded =>
    cases taken
    refine ⟨[], input.drop nextOffset', by simp, by simp, ?_, by simp, adjacent⟩
    exact fun continuation => unfolded ((isFoldedAt_iff _ _).mpr continuation)

theorem trimTrailingWhitespace_concat (input : Bytes) (byte : UInt8) :
    trimTrailingWhitespace (input ++ [byte]) =
      if isWsp byte then trimTrailingWhitespace input else input ++ [byte] := by
  simp only [trimTrailingWhitespace, reverse_append, reverse_singleton,
    singleton_append, dropWhile_cons]
  split_ifs <;> simp

theorem trimTrailingWhitespace_prefix (input : Bytes) :
    trimTrailingWhitespace input <+: input := by
  have suffix := dropWhile_suffix isWsp (l := input.reverse)
  simpa [trimTrailingWhitespace] using reverse_prefix.mpr suffix

/-- The parser trims the name of a header as the framer does. -/
theorem trimTrailingWspIndex_eq
    {text : Bytes} (split : input.drop start = text ++ rest) {length : Nat}
    (within : length ≤ text.length) :
    trimTrailingWspIndex input start (start + length) =
      start + (trimTrailingWhitespace (text.take length)).length := by
  induction length with
  | zero =>
    have stops : trimTrailingWspIndex input start start = start := by
      cases start <;> simp [trimTrailingWspIndex]
    simpa [trimTrailingWhitespace] using stops
  | succ length ih =>
    have inside : length < text.length := within
    have byteAt : isWspAt input (start + length) = isWsp text[length] := by
      have same : input[start + length]? = (input.drop start)[length]? := by
        simp
      rw [isWspAt, same, split, getElem?_append_left inside, getElem?_eq_getElem inside]
      rfl
    rw [← Nat.add_assoc, trimTrailingWspIndex, byteAt,
      ← take_append_getElem inside, trimTrailingWhitespace_concat]
    by_cases wsp : isWsp text[length] = true
    · rw [if_pos ⟨by omega, wsp⟩, if_pos wsp, ih (Nat.le_of_lt inside)]
    · rw [if_neg fun both => wsp both.2, if_neg wsp]
      simp only [length_append, length_take, length_singleton]
      omega

/-- The raw bytes of continuation lines within a field. -/
def foldedBytes (folds : List Bytes) : Bytes := folds.flatMap fun fold => cr :: lf :: fold

theorem foldedBytes_append (folds : List Bytes) :
    foldedBytes folds ++ [cr, lf] = cr :: lf :: unlines folds := by
  induction folds with
  | nil => rfl
  | cons fold folds ih =>
    simp only [foldedBytes, flatMap_cons, append_assoc, unlines_cons] at *
    simp [ih]

/-- The continuation lines of a field unfold to their bytes. -/
theorem unfolds_foldedBytes
    {folds : List Bytes} (areFolds : ∀ fold ∈ folds, IsFold fold) :
    Unfolds (foldedBytes folds) folds.flatten := by
  induction folds with
  | nil => exact .nil
  | cons fold folds ih =>
    obtain ⟨clean, -, byte, first, wsp⟩ := areFolds fold (by simp)
    obtain ⟨tail, rfl⟩ := head?_eq_some_iff.mp first
    obtain ⟨-, clean⟩ := (clean_cons byte tail).mp clean
    have later := ih fun fold member =>
      areFolds fold (by simp [member])
    exact .fold wsp (Unfolds.clean_append clean later)

/-- The bytes of the first line. -/
theorem slice_line (begins : Begins (input.drop start) line rest) :
    slice input (start, start + line.length) = line := by
  simp [slice, begins.split]

/-- The bytes of the trimmed header name. -/
theorem slice_name {length : Nat} (begins : Begins (input.drop start) line rest) :
    slice input (start, start + (trimTrailingWhitespace (line.take length)).length) =
      trimTrailingWhitespace (line.take length) := by
  obtain ⟨spaces, whole⟩ := trimTrailingWhitespace_prefix (line.take length)
  have split : input.drop start = trimTrailingWhitespace (line.take length) ++
        (spaces ++ line.drop length ++ cr :: lf :: rest) := by
    rw [begins.split, ← append_assoc, ← append_assoc, whole, take_append_drop]
  simp [slice, split]

/-- The raw bytes of a field value with its continuation lines. -/
theorem slice_value {folds : List Bytes} {colon fieldEnd : Nat}
    (split : input.drop start = unlines (line :: folds) ++ rest) (inside : colon < line.length)
    (adjacent : fieldEnd + 2 = start + (unlines (line :: folds)).length) :
    slice input (start + colon + 1, fieldEnd) = line.drop (colon + 1) ++ foldedBytes folds := by
  have folded : unlines (line :: folds) = line ++ (foldedBytes folds ++ [cr, lf]) := by
    rw [foldedBytes_append, unlines_cons]
  have dropped : input.drop (start + colon + 1) =
      (line.drop (colon + 1) ++ foldedBytes folds) ++ ([cr, lf] ++ rest) := by
    rw [Nat.add_assoc, ← drop_drop, split, folded, append_assoc, drop_append_of_le_length inside]
    simp
  have length : fieldEnd - (start + colon + 1) =
      (line.drop (colon + 1) ++ foldedBytes folds).length := by
    rw [folded] at adjacent
    simp only [length_append, length_cons, length_nil, length_drop] at *
    omega
  rw [slice, extract_eq_take_drop, dropped, length, take_left]

theorem findColon_eq_ok {colon : Nat} (found : findColon line start = .ok colon) :
    ∃ relative, line.idxOf? 58 = some relative ∧ colon = start + relative := by
  unfold findColon at found
  cases located : line.idxOf? 58 with
  | none => simp [located] at found
  | some relative =>
    simp only [located, Except.ok.injEq] at found
    exact ⟨relative, rfl, found.symm⟩

/-- The lines of the input from an offset on that a parsed header field was
read from, with its name and the first line of its value. -/
structure FieldAt (input : Bytes) (start : Nat) (parsed : ParsedHeader)
    (line : Bytes) (folds : List Bytes) (rest name value : Bytes) : Prop where
  split : input.drop start = unlines (line :: folds) ++ rest
  clean : Clean line
  fits : line.length ≤ maxLineBytes
  areFolds : ∀ fold ∈ folds, IsFold fold
  ended : ¬IsContinuation rest
  next : parsed.nextOffset = start + (unlines (line :: folds)).length
  parts : splitHeader line = .ok (name, value)
  kind : parsed.header.kind = HeaderKind.fromNameBytes name
  isLength : parsed.isContentLength = isContentLengthName name
  raw : ∃ raw, parsed.header.valueSpan.get input = some raw ∧ Unfolds raw (value ++ folds.flatten)

section FieldAt

variable {name value : Bytes}
  {parsed : ParsedHeader} {folds : List Bytes}

theorem FieldAt.begins
    (field : FieldAt input start parsed line folds rest name value) :
    Begins (input.drop start) line (unlines folds ++ rest) :=
  ⟨field.clean, by simpa using field.split⟩

theorem FieldAt.drop_next
    (field : FieldAt input start parsed line folds rest name value) :
    input.drop parsed.nextOffset = rest := by
  rw [field.next, ← drop_drop, field.split, drop_left]

end FieldAt

/-- A field is parsed only from a header line and its continuation lines. -/
theorem parseHeader_eq_ok {parsed : ParsedHeader}
    (taken : parseHeader input start = .ok parsed) :
    ∃ line folds rest name value, FieldAt input start parsed line folds rest name value := by
  obtain ⟨_, _, fieldEnd, nameSpan, valueSpan, _, found, foundColon, named, rfl,
    token, folded, spanned, built, isLength⟩ := parseHeader_parts taken
  obtain ⟨line, tail, begins, fits, rfl⟩ := (findLineEnd_eq_ok_iff _ _ _).mp found
  rw [slice_line begins] at foundColon
  obtain ⟨colon, located, rfl⟩ := findColon_eq_ok foundColon
  obtain ⟨inside, -⟩ := idxOf?_eq_some_iff.mp located
  rw [trimTrailingWspIndex_eq begins.split (Nat.le_of_lt inside)] at named
  rw [trimTrailingWspIndex_eq begins.split (Nat.le_of_lt inside),
    slice_name begins] at token built isLength
  obtain ⟨folds, rest, split, areFolds, ended, next, adjacent⟩ := foldLines_eq_ok rfl folded
  rw [drop_after_line begins] at split
  obtain ⟨-, rfl, kinded⟩ := RawHeader.new_eq_ok built
  obtain ⟨spanStart, spanStop⟩ := Span.new_eq_ok (mapError_eq_ok.mp spanned)
  have whole : input.drop start = unlines (line :: folds) ++ rest := by
    rw [begins.split, split]
    simp
  have after : parsed.nextOffset = start + (unlines (line :: folds)).length := by
    rw [length_unlines_cons]
    omega
  refine ⟨line, folds, rest, trimTrailingWhitespace (line.take colon),
    line.drop (colon + 1), whole, begins.clean, fits, areFolds, ended, after, ?_,
    kinded, ?_, line.drop (colon + 1) ++ foldedBytes folds, ?_, ?_⟩
  · have nonempty : trimTrailingWhitespace (line.take colon) ≠ [] := by
      intro empty
      simp [empty] at named
    simp [splitHeader, located, nonempty, token]
  · rw [isLength, Bool.eq_iff_iff, decide_eq_true_iff, HeaderKind.fromNameBytes_eq_contentLength]
    rfl
  · rw [Span.get, spanStart, spanStop, slice_value whole inside (adjacent.trans after), if_pos]
    have length := congrArg List.length whole
    simp only [length_drop, length_append] at length
    omega
  · have valueClean : Clean (line.drop (colon + 1)) := by
      intro byte member
      exact begins.clean byte (mem_of_mem_drop member)
    exact Unfolds.clean_append valueClean (unfolds_foldedBytes areFolds)

end Parser
end Sip
end LiveAISIP
