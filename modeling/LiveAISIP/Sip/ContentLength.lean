import LiveAISIP.Sip.Parser
import Mathlib.Data.List.TakeWhile

/-!
# One body length

The framer decodes a `Content-Length` field line by line, and the parser
decodes the raw bytes of the whole field with its folds in place.  Both
decode the number that stands between spaces and tabs once the folds are
undone.
-/

namespace LiveAISIP
namespace Sip

open Ascii Crlf Outcome
open List

/-- The body length that an unfolded field value declares: digits between
spaces and tabs. -/
def lengthOf (field : Bytes) : Option Nat :=
  let start := field.dropWhile isWsp
  let digits := start.takeWhile isDigit
  if digits ≠ [] ∧ (start.dropWhile isDigit).all isWsp then decimal 0 digits
  else none

namespace Framing
namespace ContentLengthParser

theorem push_append (parser : ContentLengthParser) (first second : Bytes) :
    parser.push (first ++ second) = parser.push first >>= (·.push second) := by
  induction first generalizing parser with
  | nil => rfl
  | cons byte first ih =>
    simp only [cons_append, push]
    cases parser.pushByte byte with
    | error error => rfl
    | ok parser => exact ih parser

/-- Before the first digit, spaces and tabs are skipped. -/
theorem push_dropWhile_isWsp (value : Nat) (input : Bytes) :
    push ⟨value, false, false⟩ (input.dropWhile isWsp) = push ⟨value, false, false⟩ input := by
  induction input with
  | nil => rfl
  | cons byte input ih =>
    by_cases wsp : isWsp byte = true
    · rw [dropWhile_cons_of_pos wsp, ih]
      simp [push, pushByte, not_isDigit_of_isWsp wsp, wsp]
    · rw [dropWhile_cons_of_neg wsp]

/-- Digits are accumulated until the first other byte. -/
theorem push_digits
    (value : Nat) (saw : Bool) {digits : Bytes}
    (all : ∀ digit ∈ digits, isDigit digit = true) (rest : Bytes) :
    push ⟨value, saw, false⟩ (digits ++ rest) =
      match decimal value digits with
      | none => .error .contentLengthOverflow
      | some value => push ⟨value, saw || digits ≠ [], false⟩ rest := by
  induction digits generalizing value saw with
  | nil => simp [decimal]
  | cons digit digits ih =>
    have first := all digit (by simp)
    have later : ∀ other ∈ digits, isDigit other = true := by
      intro other member
      exact all other (by simp [member])
    simp only [cons_append, push, pushByte, first, decimal, ↓reduceIte, Bool.false_eq_true]
    cases pushDigit value digit with
    | none => rfl
    | some value =>
      simp only
      rw [ih value true later]
      simp

/-- After the digits, only spaces and tabs are accepted. -/
theorem push_trailing
    {value : Nat} {trailing : Bool} {rest : Bytes}
    (ended : trailing = true ∨ ∀ byte ∈ rest.head?, isDigit byte = false)
    (parser : ContentLengthParser) :
    push ⟨value, true, trailing⟩ rest = .ok parser ↔
      rest.all isWsp = true ∧ parser = ⟨value, true, trailing || rest ≠ []⟩ := by
  induction rest generalizing trailing with
  | nil => simp [push, eq_comm]
  | cons byte rest ih =>
    by_cases wsp : isWsp byte = true
    · simp [push, pushByte, not_isDigit_of_isWsp wsp, wsp, ih (.inl rfl)]
    · have refused : ∃ error, pushByte ⟨value, true, trailing⟩ byte =
          .error error := by
        by_cases digit : isDigit byte = true
        · have isTrailing : trailing = true := by
            rcases ended with trailing | notDigit
            · exact trailing
            · simp [notDigit byte rfl] at digit
          exact ⟨.invalidContentLength, by simp [pushByte, digit, isTrailing]⟩
        · exact ⟨.invalidContentLength, by simp [pushByte, digit, wsp]⟩
      obtain ⟨error, refused⟩ := refused
      simp [push, refused, wsp]

/-- A value that begins with neither whitespace nor digit is not decoded. -/
theorem not_decodes_of_no_digit
    {start : Bytes} (unspaced : ∀ byte ∈ start.head?, isWsp byte = false)
    (undigited : start.takeWhile isDigit = []) {parser : ContentLengthParser}
    (pushed : new.push start = .ok parser) (length : Nat) :
    parser.finish ≠ .ok length := by
  cases start with
  | nil =>
    cases pushed
    simp [finish, new]
  | cons byte start =>
    have notWsp := unspaced byte rfl
    have notDigit : isDigit byte = false := by
      by_contra digit
      simp [takeWhile_cons, digit] at undigited
    simp [push, pushByte, notWsp, notDigit] at pushed

/-- The framer decodes exactly the declared length. -/
theorem decodes_iff (field : Bytes) (length : Nat) :
    (∃ parser, new.push field = .ok parser ∧ parser.finish = .ok length) ↔
      lengthOf field = some length := by
  let start := field.dropWhile isWsp
  let digits := start.takeWhile isDigit
  let rest := start.dropWhile isDigit
  have skipped : new.push field = new.push start := (push_dropWhile_isWsp 0 field).symm
  have boundary {class_ : UInt8 → Bool} {input : Bytes} :
      ∀ byte ∈ (input.dropWhile class_).head?, class_ byte = false := by
    intro byte member
    have stopped := head?_dropWhile_not class_ input
    rw [Option.mem_def.mp member] at stopped
    exact stopped
  rw [skipped]
  by_cases undigited : digits = []
  · refine iff_of_false ?_ (by simp [lengthOf, digits, start, undigited])
    rintro ⟨parser, pushed, finished⟩
    exact not_decodes_of_no_digit boundary undigited pushed length finished
  · have split : start = digits ++ rest := takeWhile_append_dropWhile.symm
    have all : ∀ digit ∈ digits, isDigit digit = true := all_eq_true.mp all_takeWhile
    have spec : lengthOf field =
        if rest.all isWsp then decimal 0 digits else none := by
      simp [lengthOf, digits, start, rest, undigited]
    rw [split, new, push_digits 0 false all rest, spec]
    cases value : decimal 0 digits with
    | none => simp
    | some value =>
      simp only [undigited, ne_eq, not_false_eq_true, decide_true,
        Bool.or_true, push_trailing (.inr boundary), rest]
      by_cases spaced : (start.dropWhile isDigit).all isWsp = true
      · simp [spaced, finish]
      · simp [spaced]

end ContentLengthParser
end Framing

/-- The raw bytes of a field value with its folds, and the bytes without
them. -/
inductive Unfolds : Bytes → Bytes → Prop
  | nil : Unfolds [] []
  | byte {byte : UInt8} {raw field : Bytes} (plain : byte ≠ cr)
      (later : Unfolds raw field) : Unfolds (byte :: raw) (byte :: field)
  | fold {byte : UInt8} {raw field : Bytes} (wsp : isWsp byte = true)
      (later : Unfolds raw field) :
      Unfolds (cr :: lf :: byte :: raw) (byte :: field)

theorem ne_cr_of_isWsp {byte : UInt8} (wsp : isWsp byte = true) : byte ≠ cr := by
  rintro rfl
  exact absurd wsp (by decide)

/-- A field value without folds unfolds to itself. -/
theorem Unfolds.clean_append
    {line raw field : Bytes} (clean : Clean line) (later : Unfolds raw field) :
    Unfolds (line ++ raw) (line ++ field) := by
  induction line with
  | nil => exact later
  | cons byte line ih =>
    obtain ⟨⟨plain, -⟩, clean⟩ := (clean_cons byte line).mp clean
    exact .byte plain (ih clean)

namespace Parser

variable {raw field : Bytes}

theorem skipLinearWhitespace_cons_wsp
    {byte : UInt8} (wsp : isWsp byte = true) (input : Bytes) :
    skipLinearWhitespace (byte :: input) = skipLinearWhitespace input := by
  rw [skipLinearWhitespace.eq_def]
  simp [wsp]

theorem skipLinearWhitespace_cons_other
    {byte : UInt8} (wsp : ¬isWsp byte = true) (plain : byte ≠ cr) (input : Bytes) :
    skipLinearWhitespace (byte :: input) = .ok (byte :: input) := by
  rw [skipLinearWhitespace.eq_def]
  simp [wsp, plain]

theorem skipLinearWhitespace_fold
    {byte : UInt8} (wsp : isWsp byte = true) (input : Bytes) :
    skipLinearWhitespace (cr :: lf :: byte :: input) = skipLinearWhitespace input := by
  have notWsp : isWsp cr = false := by decide
  rw [skipLinearWhitespace.eq_def]
  simp [wsp, notWsp]

/-- Folds and whitespace are skipped as whitespace alone. -/
theorem skipLinearWhitespace_of_unfolds (unfolds : Unfolds raw field) :
    ∃ rest, skipLinearWhitespace raw = .ok rest ∧ Unfolds rest (field.dropWhile isWsp) := by
  induction unfolds with
  | nil => exact ⟨[], rfl, .nil⟩
  | @byte byte raw field plain later ih =>
    by_cases wsp : isWsp byte = true
    · obtain ⟨rest, skipped, unfolded⟩ := ih
      refine ⟨rest, ?_, ?_⟩
      · rw [skipLinearWhitespace_cons_wsp wsp, skipped]
      · rwa [dropWhile_cons_of_pos wsp]
    · refine ⟨byte :: raw, skipLinearWhitespace_cons_other wsp plain raw, ?_⟩
      rw [dropWhile_cons_of_neg wsp]
      exact .byte plain later
  | @fold byte raw field wsp later ih =>
    obtain ⟨rest, skipped, unfolded⟩ := ih
    refine ⟨rest, ?_, ?_⟩
    · rw [skipLinearWhitespace_fold wsp, skipped]
    · rwa [dropWhile_cons_of_pos wsp]

/-- Digits do not stand across a fold. -/
theorem Unfolds.digits (unfolds : Unfolds raw field) :
    raw.takeWhile isDigit = field.takeWhile isDigit ∧
      Unfolds (raw.dropWhile isDigit) (field.dropWhile isDigit) := by
  induction unfolds with
  | nil => exact ⟨rfl, .nil⟩
  | @byte byte raw field plain later ih =>
    by_cases digit : isDigit byte = true
    · simpa [takeWhile_cons, dropWhile_cons, digit] using ih
    · simpa [takeWhile_cons, dropWhile_cons, digit] using Unfolds.byte plain later
  | @fold byte raw field wsp later ih =>
    have notDigit : isDigit cr = false := by decide
    simpa [takeWhile_cons, dropWhile_cons, notDigit,
      not_isDigit_of_isWsp wsp] using Unfolds.fold wsp later

theorem Unfolds.eq_nil_iff (unfolds : Unfolds raw field) :
    raw = [] ↔ field = [] := by
  cases unfolds <;> simp

/-- The parser decodes exactly the declared length, within its limit. -/
theorem parseContentLength_eq_ok_iff (unfolds : Unfolds raw field) (length : Nat) :
    parseContentLength raw = .ok length ↔
      lengthOf field = some length ∧ length ≤ Framing.maxBodyBytes := by
  obtain ⟨start, skipped, unfoldedStart⟩ := skipLinearWhitespace_of_unfolds unfolds
  obtain ⟨digits, unfoldedRest⟩ := Unfolds.digits unfoldedStart
  obtain ⟨rest, skippedRest, unfoldedEnd⟩ := skipLinearWhitespace_of_unfolds unfoldedRest
  have ended : rest = [] ↔ ((field.dropWhile isWsp).dropWhile isDigit).all isWsp = true := by
    rw [Unfolds.eq_nil_iff unfoldedEnd]
    simp
  have decoded (number : Bytes) (value : Nat) :
      decodeDigits number = .ok value ↔ decimal 0 number = some value := by
    unfold decodeDigits
    cases decimal 0 number <;> simp
  have parsed : parseContentLength raw = .ok length ↔
      (field.dropWhile isWsp).takeWhile isDigit ≠ [] ∧
        decimal 0 ((field.dropWhile isWsp).takeWhile isDigit) = some length ∧
        rest = [] ∧ length ≤ Framing.maxBodyBytes := by
    unfold parseContentLength
    simp only [skipped, ok_bind, digits, skippedRest, bind_eq_ok, ensure_eq_ok,
      decoded, exists_const]
    constructor
    · rintro ⟨nonempty, value, valued, stops, within, returned⟩
      cases returned
      exact ⟨nonempty, valued, stops, within⟩
    · rintro ⟨nonempty, valued, stops, within⟩
      exact ⟨nonempty, length, valued, stops, within, rfl⟩
  have specified : lengthOf field = some length ↔
      (field.dropWhile isWsp).takeWhile isDigit ≠ [] ∧ rest = [] ∧
        decimal 0 ((field.dropWhile isWsp).takeWhile isDigit) = some length := by
    rw [ended, lengthOf]
    split_ifs with decodable
    · simp [decodable]
    · simp only [false_iff]
      rintro ⟨nonempty, stops, -⟩
      exact decodable ⟨nonempty, stops⟩
  rw [parsed, specified]
  constructor
  · rintro ⟨nonempty, valued, stops, within⟩
    exact ⟨⟨nonempty, stops, valued⟩, within⟩
  · rintro ⟨⟨nonempty, stops, valued⟩, within⟩
    exact ⟨nonempty, valued, stops, within⟩

end Parser

end Sip
end LiveAISIP
