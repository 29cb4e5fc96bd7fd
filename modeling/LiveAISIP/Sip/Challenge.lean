import LiveAISIP.Library.Quoted
import LiveAISIP.Library.Text
import LiveAISIP.Sip.Auth

/-!
# Authentication challenges as text

The parser, the constructors and the rendering of `sip/auth/challenge.rs`, and
the rendering of a Digest authorization of `sip/auth/digest.rs`.  What is
rendered is parsed as what it was rendered from.
-/

namespace LiveAISIP
namespace Sip

open Ascii Outcome Quoted Text
open List AuthParameter

/-- Maximum accepted size of one authentication challenge. -/
def maxAuthChallengeBytes : Nat := 16 * 1024

/-- Maximum authentication parameters in one challenge. -/
def maxAuthParameters : Nat := 64

/-- Maximum authentication scheme or parameter-name size. -/
def maxAuthNameBytes : Nat := 256

/-- Maximum logical authentication parameter-value size. -/
def maxAuthValueBytes : Nat := 4096

/-- Authentication challenge parse failure. -/
inductive ChallengeParseError
  | empty
  | tooLong (length maximum : Nat)
  | invalidScheme
  | invalidParameterName
  | missingEquals
  | missingComma
  | trailingComma
  | emptyValue
  | valueTooLong (maximum : Nat)
  | invalidValue
  | unterminatedQuotedValue
  | duplicateParameter
  | tooManyParameters (maximum : Nat)
  | invalidControl
  | allocationFailed
  deriving DecidableEq

/-- A name is a token of bounded size. -/
def validateName (input : Bytes) (error : ChallengeParseError) : Except ChallengeParseError Unit :=
  ensure (input ≠ [] ∧ input.length ≤ maxAuthNameBytes ∧ input.all isTokenByte = true) error

/-- A byte of a quoted value. -/
def isQuotedValueByte (byte : UInt8) : Bool := byte == 9 || (32 ≤ byte && byte != 127)

/-- A value is a nonempty text of bounded size, and a token where it is not
quoted. -/
def validateValue (input : Bytes) (quoted : Bool) :
    Except ChallengeParseError Unit := do
  ensure (input ≠ []) .emptyValue
  ensure (input.length ≤ maxAuthValueBytes) (.valueTooLong maxAuthValueBytes)
  ensure (input.all (if quoted then isQuotedValueByte else isTokenByte) = true) .invalidValue

/-- The text of some bytes. -/
def decode (input : Bytes) : Except ChallengeParseError String :=
  match fromUtf8 input with
  | some text => .ok text
  | none => .error .invalidValue

/-- Create a validated authentication parameter. -/
def AuthParameter.new (name value : String) (quoted : Bool) :
    Except ChallengeParseError AuthParameter := do
  validateName (wireBytes name) .invalidParameterName
  validateValue (wireBytes value) quoted
  return ⟨name, value, quoted⟩

/-- The text of a value. -/
def AuthParameter.renderValue (parameter : AuthParameter) : Bytes :=
  if parameter.quoted then quote (wireBytes parameter.value)
  else wireBytes parameter.value

/-- The text of a parameter. -/
def AuthParameter.render (parameter : AuthParameter) : Bytes :=
  wireBytes parameter.name ++ 61 :: parameter.renderValue

namespace AuthChallenge

variable {grants : Nat → Bool} {input : Bytes} {byte : UInt8}

variable {parameter : AuthParameter} {challenge : AuthChallenge} {parameters : List AuthParameter}

/-- Create a challenge with no parameters. -/
def new (scheme : String) : Except ChallengeParseError AuthChallenge := do
  validateName (wireBytes scheme) .invalidScheme
  return ⟨scheme, []⟩

/-- Add a parameter while enforcing capacity and unique names. -/
def pushParameter (challenge : AuthChallenge) (parameter : AuthParameter) :
    Except ChallengeParseError AuthChallenge :=
  if maxAuthParameters ≤ challenge.parameters.length then
    .error (.tooManyParameters maxAuthParameters)
  else if challenge.parameters.any fun existing =>
      eqIgnoreAsciiCase existing.name parameter.name then
    .error .duplicateParameter
  else
    .ok { challenge with parameters := challenge.parameters ++ [parameter] }

/-- The texts of some parameters, with their separators. -/
def renderParameters : List AuthParameter → Bytes
  | [] => []
  | [parameter] => parameter.render
  | parameter :: next :: parameters =>
    parameter.render ++ 44 :: 32 :: renderParameters (next :: parameters)

/-- The text of a challenge. -/
def render (challenge : AuthChallenge) : Bytes := wireBytes challenge.scheme ++
    if challenge.parameters = [] then []
    else 32 :: renderParameters challenge.parameters

/-- What follows the opening quotation mark: the decoded value and the rest. -/
def parseQuoted (decoded : Bytes) : Bool → Bytes → Except ChallengeParseError (String × Bytes)
  | _, [] => .error .unterminatedQuotedValue
  | true, byte :: input =>
    if isControl byte then .error .invalidValue
    else parseQuoted (decoded ++ [byte]) false input
  | false, byte :: input =>
    if byte = 92 then parseQuoted decoded true input
    else if byte = 34 then do
      validateValue decoded true
      let value ← decode decoded
      return (value, input)
    else if maxAuthValueBytes ≤ decoded.length then
      .error (.valueTooLong maxAuthValueBytes)
    else parseQuoted (decoded ++ [byte]) false input

/-- The byte ends a parameter name. -/
def endsName (byte : UInt8) : Bool := byte == 61 || isWsp byte || byte == 44

/-- The byte ends a value that is not quoted. -/
def endsValue (byte : UInt8) : Bool := byte == 44 || isWsp byte

/-- A value, whether it is quoted, and the rest; the bytes of a quoted one are reserved. -/
def parseValue (grants : Nat → Bool) (input : Bytes) :
    Except ChallengeParseError (String × Bool × Bytes) :=
  if input.head? = some 34 then do
    ensure (grants (min input.length maxAuthValueBytes) = true) .allocationFailed
    let (value, rest) ← parseQuoted [] false input.tail
    return (value, true, rest)
  else do
    let raw := input.takeWhile fun byte => !endsValue byte
    validateValue raw false
    let value ← decode raw
    return (value, false, input.dropWhile fun byte => !endsValue byte)

/-- One parameter and the rest. -/
def parseParameter (grants : Nat → Bool) (input : Bytes) :
    Except ChallengeParseError (AuthParameter × Bytes) := do
  let name := input.takeWhile fun byte => !endsName byte
  validateName name .invalidParameterName
  let input := trimStart (input.dropWhile fun byte => !endsName byte)
  ensure (input.head? = some 61) .missingEquals
  let (value, quoted, rest) ← parseValue grants (trimStart input.tail)
  let name ← decode name
  let parameter ← AuthParameter.new name value quoted
  return (parameter, rest)

/-- All parameters that are left.  One more than fits is refused when it is
pushed, so the slots never run out. -/
def parseParameters (grants : Nat → Bool) :
    Nat → AuthChallenge → Bytes → Except ChallengeParseError AuthChallenge
  | slots, challenge, input => do
    let (parameter, rest) ← parseParameter grants input
    let challenge ← challenge.pushParameter parameter
    match trimStart rest with
    | [] => return challenge
    | first :: rest =>
      ensure (first = 44) .missingComma
      let rest := trimStart rest
      ensure (rest ≠ []) .trailingComma
      match slots with
      | 0 => .error (.tooManyParameters maxAuthParameters)
      | slots + 1 => parseParameters grants slots challenge rest

/-- Parse one authentication challenge. -/
def fromBytes (grants : Nat → Bool) (input : Bytes) :
    Except ChallengeParseError AuthChallenge := do
  ensure (input.length ≤ maxAuthChallengeBytes) (.tooLong input.length maxAuthChallengeBytes)
  let input := trim input
  ensure (input ≠ []) .empty
  ensure (13 ∉ input ∧ 10 ∉ input) .invalidControl
  let scheme := input.takeWhile fun byte => !isWsp byte
  validateName scheme .invalidScheme
  let scheme ← decode scheme
  let challenge ← new scheme
  match trimStart (input.dropWhile fun byte => !isWsp byte) with
  | [] => return challenge
  | first :: rest => parseParameters grants maxAuthParameters challenge (first :: rest)

/-- A name passes the checks exactly when it is a token of bounded size. -/
theorem validateName_eq_ok {error : ChallengeParseError} {value : Unit} :
    validateName input error = .ok value ↔ input ≠ [] ∧ input.length ≤ maxAuthNameBytes ∧
        input.all isTokenByte = true :=
  ensure_eq_ok

theorem validateValue_eq_ok {quoted : Bool} {value : Unit} :
    validateValue input quoted = .ok value ↔ input ≠ [] ∧ input.length ≤ maxAuthValueBytes ∧
        input.all (if quoted then isQuotedValueByte else isTokenByte) = true := by
  simp only [validateValue, bind_eq_ok, ensure_eq_ok]
  simp

/-- The bytes of a text are read as the text. -/
theorem decode_wireBytes (text : String) : decode (wireBytes text) = .ok text := by
  rw [decode, wireBytes, fromUtf8_toUTF8]

/-- A parameter as its constructor makes it. -/
def ValidParameter (parameter : AuthParameter) : Prop :=
  AuthParameter.new parameter.name parameter.value parameter.quoted = .ok parameter

theorem validParameter_iff : ValidParameter parameter ↔
      validateName (wireBytes parameter.name) .invalidParameterName = .ok () ∧
        validateValue (wireBytes parameter.value) parameter.quoted = .ok () := by
  constructor
  · intro created
    simp only [ValidParameter, AuthParameter.new, bind_eq_ok] at created
    obtain ⟨_, named, _, valued, _⟩ := created
    exact ⟨named, valued⟩
  · rintro ⟨named, valued⟩
    rw [ValidParameter, AuthParameter.new, named, ok_bind, valued]
    rfl

theorem validParameter_of_new
    {name value : String} {quoted : Bool}
    (created : AuthParameter.new name value quoted = .ok parameter) :
    ValidParameter parameter := by
  simp only [AuthParameter.new, bind_eq_ok] at created
  obtain ⟨_, named, _, valued, made⟩ := created
  cases made
  exact validParameter_iff.mpr ⟨named, valued⟩

/-- What holds of every challenge. -/
structure WellFormed (challenge : AuthChallenge) : Prop where
  scheme : validateName (wireBytes challenge.scheme) .invalidScheme = .ok ()
  parameters : ∀ parameter ∈ challenge.parameters, ValidParameter parameter
  distinct : challenge.parameters.Pairwise fun first second =>
    eqIgnoreAsciiCase first.name second.name = false
  few : challenge.parameters.length ≤ maxAuthParameters

/-- The challenges that the public constructors make. -/
inductive Constructed : AuthChallenge → Prop
  | new
      {scheme : String} {challenge : AuthChallenge}
      (created : AuthChallenge.new scheme = .ok challenge) :
      Constructed challenge
  | push
      {challenge after : AuthChallenge} {name value : String} {quoted : Bool}
      {parameter : AuthParameter}
      (constructed : Constructed challenge)
      (created : AuthParameter.new name value quoted = .ok parameter)
      (pushed : challenge.pushParameter parameter = .ok after) :
      Constructed after

/-- What pushing a parameter needs and does. -/
theorem pushParameter_eq_ok
    {after : AuthChallenge} :
    challenge.pushParameter parameter = .ok after ↔
      challenge.parameters.length < maxAuthParameters ∧ (∀ existing ∈ challenge.parameters,
          eqIgnoreAsciiCase existing.name parameter.name = false) ∧
        after = { challenge with parameters := challenge.parameters ++ [parameter] } := by
  rw [pushParameter, refusal_eq_ok, refusal_eq_ok]
  simp [eq_comm (a := after)]

/-- Whatever the constructors make is well formed. -/
theorem Constructed.wellFormed (constructed : Constructed challenge) :
    challenge.WellFormed := by
  induction constructed with
  | new created =>
    simp only [AuthChallenge.new, bind_eq_ok] at created
    obtain ⟨_, named, made⟩ := created
    cases made
    exact ⟨named, by simp, .nil, Nat.zero_le _⟩
  | push constructed created pushed ih =>
    obtain ⟨room, others, rfl⟩ := pushParameter_eq_ok.mp pushed
    refine ⟨ih.scheme, ?_, ?_, ?_⟩
    · intro parameter member
      rcases mem_append.mp member with before | last
      · exact ih.parameters parameter before
      · obtain rfl := mem_singleton.mp last
        exact validParameter_of_new created
    · rw [pairwise_append]
      refine ⟨ih.distinct, pairwise_singleton _ _, ?_⟩
      simpa using others
    · rw [length_append]
      exact room

/-- A parsed parameter is made by its constructor. -/
theorem created_of_parseParameter
    {rest : Bytes}
    (parsed : parseParameter grants input = .ok (parameter, rest)) :
    ∃ name value quoted, AuthParameter.new name value quoted = .ok parameter := by
  simp only [parseParameter, bind_eq_ok] at parsed
  obtain ⟨_, _, _, _, ⟨value, quoted, tail⟩, _, name, _, made, created, same⟩ := parsed
  cases same
  exact ⟨name, value, quoted, created⟩

theorem constructed_of_parseParameters
    {slots : Nat} {parsed : AuthChallenge} (constructed : Constructed challenge)
    (outcome : parseParameters grants slots challenge input = .ok parsed) :
    Constructed parsed := by
  induction slots generalizing challenge input with
  | zero | succ slots ih =>
    rw [parseParameters] at outcome
    obtain ⟨⟨parameter, rest⟩, read, outcome⟩ := bind_eq_ok.mp outcome
    obtain ⟨pushed, pushes, outcome⟩ := bind_eq_ok.mp outcome
    obtain ⟨name, value, quoted, created⟩ := created_of_parseParameter read
    have next := Constructed.push constructed created pushes
    cases trimmed : trimStart rest with
    | nil =>
      simp only [trimmed] at outcome
      cases outcome
      exact next
    | cons first rest =>
      simp only [trimmed, bind_eq_ok] at outcome
      obtain ⟨_, _, _, _, outcome⟩ := outcome
      first | cases outcome | exact ih next outcome

/-- A parsed challenge is made by the constructors. -/
theorem constructed_of_fromBytes (parsed : fromBytes grants input = .ok challenge) :
    Constructed challenge := by
  simp only [fromBytes, bind_eq_ok] at parsed
  obtain ⟨_, _, _, _, _, _, _, _, scheme, _, created, new, parsed⟩ := parsed
  cases trimmed : trimStart ((trim input).dropWhile fun byte => !isWsp byte) with
  | nil =>
    simp only [trimmed] at parsed
    cases parsed
    exact .new new
  | cons first rest =>
    simp only [trimmed] at parsed
    exact constructed_of_parseParameters (.new new) parsed

/-- The bytes that a token has none of. -/
theorem token_apart (token : isTokenByte byte = true) :
    isWsp byte = false ∧ byte ≠ 61 ∧ byte ≠ 44 ∧ byte ≠ 34 ∧ byte ≠ 13 ∧ byte ≠ 10 := by
  have checked : ∀ byte, isTokenByte byte = true →
      isWsp byte = false ∧ byte ≠ 61 ∧ byte ≠ 44 ∧ byte ≠ 34 ∧ byte ≠ 13 ∧ byte ≠ 10 := by
    intro byte
    simp [isTokenByte, isWsp, UInt8.le_iff_toNat_le, ← UInt8.toNat_inj]
    omega
  exact checked byte token

/-- An escaped value is decoded as the value. -/
theorem parseQuoted_escape
    (decoded : Bytes) {value : Bytes}
    (fits : decoded.length + value.length ≤ maxAuthValueBytes) (rest : Bytes) :
    parseQuoted decoded false (escape value ++ 34 :: rest) =
      (do
        validateValue (decoded ++ value) true
        let value ← decode (decoded ++ value)
        return (value, rest)) := by
  induction value generalizing decoded with
  | nil => simp [parseQuoted]
  | cons byte value ih =>
    simp only [length_cons] at fits
    have next := ih (decoded ++ [byte]) (by rw [length_append, length_singleton]; omega)
    rw [append_assoc, singleton_append] at next
    rw [escape_cons]
    split_ifs with special
    · have uncontrolled : isControl byte = false := by
        rcases special with rfl | rfl <;> decide
      simpa [parseQuoted, uncontrolled] using next
    · obtain ⟨unquoted, plain⟩ := not_or.mp special
      have room : ¬maxAuthValueBytes ≤ decoded.length := by omega
      simpa [parseQuoted, unquoted, plain, room] using next

/-- The text after a parameter is nothing or starts with a comma. -/
def EndsParameter (rest : Bytes) : Prop := ∀ byte ∈ rest.head?, byte = 44

/-- A rendered value is parsed as the value. -/
theorem parseValue_render
    (granted : ∀ size, grants size = true) (valid : ValidParameter parameter)
    {rest : Bytes} (ends : EndsParameter rest) :
    parseValue grants (parameter.renderValue ++ rest) =
      .ok (parameter.value, parameter.quoted, rest) := by
  have valued := (validParameter_iff.mp valid).2
  obtain ⟨nonempty, bounded, allowed⟩ := validateValue_eq_ok.mp valued
  by_cases quoted : parameter.quoted = true
  · rw [quoted] at valued
    have unescaped := parseQuoted_escape [] (by simpa using bounded) rest
    simp only [nil_append, valued, ok_bind, decode_wireBytes] at unescaped
    simp only [renderValue, quoted, if_true, parseValue, quote,
      cons_append, head?_cons, tail_cons, append_assoc, nil_append, ensure_of (granted _), ok_bind]
    rw [unescaped]
    rfl
  · rw [Bool.not_eq_true] at quoted
    rw [quoted] at allowed valued ⊢
    simp only [renderValue, quoted, Bool.false_eq_true, if_false] at allowed ⊢
    have token (byte : UInt8) (member : byte ∈ wireBytes parameter.value) :
        isTokenByte byte = true :=
      all_eq_true.mp allowed byte member
    have inside (byte : UInt8) (member : byte ∈ wireBytes parameter.value) :
        (!endsValue byte) = true := by
      obtain ⟨wsp, -, comma, -⟩ := token_apart (token byte member)
      simp [endsValue, wsp, comma]
    obtain ⟨front, tail⟩ := span_front rest inside
      (fun byte head => by simp [endsValue, ends byte head])
    have unquoted : (wireBytes parameter.value ++ rest).head? ≠ some 34 := by
      obtain ⟨first, others, same⟩ := exists_cons_of_ne_nil nonempty
      rw [same]
      have apart := (token_apart (token first (by simp [same]))).2.2.2.1
      simpa using apart
    rw [parseValue, if_neg unquoted, front, tail]
    simp only [valued, ok_bind, decode_wireBytes]
    rfl

/-- A rendered parameter is parsed as the parameter. -/
theorem parseParameter_render
    (granted : ∀ size, grants size = true) (valid : ValidParameter parameter)
    (rest : Bytes) (ends : EndsParameter rest) :
    parseParameter grants (parameter.render ++ rest) = .ok (parameter, rest) := by
  obtain ⟨named, valued⟩ := validParameter_iff.mp valid
  obtain ⟨-, -, allowed⟩ := validateName_eq_ok.mp named
  have inside (byte : UInt8) (member : byte ∈ wireBytes parameter.name) :
      (!endsName byte) = true := by
    obtain ⟨wsp, equals, comma, -⟩ := token_apart (all_eq_true.mp allowed byte member)
    simp [endsName, wsp, equals, comma]
  -- The value does not start with space, so nothing is trimmed before it.
  have start : trimStart (parameter.renderValue ++ rest) = parameter.renderValue ++ rest := by
    apply trimStart_of_head
    unfold renderValue
    by_cases quoted : parameter.quoted = true
    · simp [quoted, quote, isWsp]
    · obtain ⟨nonempty, -, tokens⟩ := validateValue_eq_ok.mp valued
      obtain ⟨first, others, same⟩ := exists_cons_of_ne_nil nonempty
      have token : isTokenByte first = true := by
        simp only [quoted, Bool.false_eq_true, if_false, same, all_cons, Bool.and_eq_true] at tokens
        exact tokens.1
      simpa [quoted, same] using (token_apart token).1
  have text : parameter.render ++ rest = wireBytes parameter.name ++
      61 :: (parameter.renderValue ++ rest) := by
    simp [AuthParameter.render]
  obtain ⟨front, tail⟩ := span_front (61 :: (parameter.renderValue ++ rest)) inside
    (by simp [endsName])
  have equals : isWsp 61 = false := by decide
  rw [parseParameter, text, front, tail, named, ok_bind, trimStart_of_head (by simp [equals])]
  simp only [head?_cons, tail_cons, ensure_of, ok_bind, start]
  rw [parseValue_render granted valid ends, ok_bind]
  simp only [decode_wireBytes, ok_bind]
  rw [show AuthParameter.new parameter.name parameter.value parameter.quoted =
    .ok parameter from valid]
  rfl

/-- The text of some parameters starts with a token. -/
theorem renderParameters_front (valid : ValidParameter parameter)
    (parameters : List AuthParameter) :
    ∃ first rest, isTokenByte first = true ∧
      renderParameters (parameter :: parameters) = first :: rest := by
  obtain ⟨nonempty, -, allowed⟩ := validateName_eq_ok.mp (validParameter_iff.mp valid).1
  obtain ⟨first, others, same⟩ := exists_cons_of_ne_nil nonempty
  have token : isTokenByte first = true := all_eq_true.mp allowed first (by simp [same])
  cases parameters with
  | nil | cons next parameters =>
    exact ⟨first, _, token, by
      simp only [renderParameters, AuthParameter.render, same, cons_append]
      rfl⟩

/-- Rendered parameters are parsed as the parameters. -/
theorem parseParameters_render
    (granted : ∀ size, grants size = true) {slots : Nat}
    (valid : ∀ each ∈ parameter :: parameters, ValidParameter each)
    (distinct : (challenge.parameters ++ parameter :: parameters).Pairwise
      fun first second => eqIgnoreAsciiCase first.name second.name = false)
    (few : (challenge.parameters ++ parameter :: parameters).length ≤ maxAuthParameters)
    (enough : maxAuthParameters ≤ slots + challenge.parameters.length) :
    parseParameters grants slots challenge (renderParameters (parameter :: parameters)) =
      .ok { challenge with
        parameters := challenge.parameters ++ parameter :: parameters } := by
  have pushes : challenge.pushParameter parameter =
      .ok { challenge with parameters := challenge.parameters ++ [parameter] } := by
    apply pushParameter_eq_ok.mpr
    rw [length_append, length_cons] at few
    refine ⟨by omega, ?_, rfl⟩
    intro existing member
    exact (pairwise_append.mp distinct).2.2 existing member parameter (by simp)
  have first := valid parameter (by simp)
  induction parameters generalizing parameter challenge slots with
  | nil =>
    have read := parseParameter_render granted first [] (by simp [EndsParameter])
    rw [append_nil] at read
    rw [renderParameters]
    unfold parseParameters
    rw [read]
    simp only [ok_bind, pushes, trimStart_nil]
    rfl
  | cons next parameters ih =>
    have read := parseParameter_render granted first
      (44 :: 32 :: renderParameters (next :: parameters)) (by simp [EndsParameter])
    obtain ⟨start, others, token, front⟩ := renderParameters_front (valid next (by simp)) parameters
    have solid : isWsp start = false := (token_apart token).1
    have comma : isWsp 44 = false := by decide
    have space : isWsp 32 = true := by decide
    have kept : trimStart (32 :: renderParameters (next :: parameters)) =
        renderParameters (next :: parameters) := by
      rw [trimStart_cons_of_wsp space, front, trimStart_of_head (by simp [solid])]
    have room : challenge.parameters.length + 2 ≤ maxAuthParameters := by
      simp only [length_append, length_cons] at few
      omega
    obtain ⟨left, rfl⟩ : ∃ left, slots = left + 1 := ⟨slots - 1, by omega⟩
    let pushed : AuthChallenge := { challenge with
      parameters := challenge.parameters ++ [parameter] }
    have apart : (pushed.parameters ++ next :: parameters).Pairwise
        fun first second => eqIgnoreAsciiCase first.name second.name = false := by
      simpa [pushed] using distinct
    have count : pushed.parameters.length = challenge.parameters.length + 1 := by
      simp [pushed]
    have pushesNext : pushed.pushParameter next =
        .ok { pushed with parameters := pushed.parameters ++ [next] } := by
      apply pushParameter_eq_ok.mpr
      refine ⟨by omega, ?_, rfl⟩
      intro existing member
      exact (pairwise_append.mp apart).2.2 existing member next (by simp)
    have following : parseParameters grants left pushed (renderParameters (next :: parameters)) =
        .ok { pushed with parameters := pushed.parameters ++ next :: parameters } := by
      apply ih
      · intro each member
        exact valid each (mem_cons_of_mem _ member)
      · exact apart
      · simpa [pushed] using few
      · omega
      · exact pushesNext
      · exact valid next (by simp)
    rw [renderParameters, parseParameters, read]
    simp only [ok_bind, pushes]
    rw [trimStart_of_head (by simp [comma])]
    simp only [ensure_of, ok_bind, kept]
    rw [ensure_of (by simp [front]), ok_bind, following]
    simp [pushed]

/-- No line break stands in a rendered value. -/
theorem unbroken_renderValue
    (valid : ValidParameter parameter)
    (member : byte ∈ parameter.renderValue) :
    byte ≠ 13 ∧ byte ≠ 10 := by
  obtain ⟨-, -, allowed⟩ := validateValue_eq_ok.mp (validParameter_iff.mp valid).2
  have checked : ∀ byte, isQuotedValueByte byte = true → byte ≠ 13 ∧ byte ≠ 10 := by
    intro byte
    simp [isQuotedValueByte, UInt8.le_iff_toNat_le, ← UInt8.toNat_inj]
    omega
  by_cases quoted : parameter.quoted = true
  · simp only [quoted, if_true] at allowed
    simp only [renderValue, quoted, if_true, quote, mem_append,
      mem_cons, not_mem_nil, or_false] at member
    rcases member with (rfl | inside) | rfl
    · decide
    · rcases mem_escape inside with rfl | inside
      · decide
      · exact checked byte (all_eq_true.mp allowed byte inside)
    · decide
  · simp only [quoted, Bool.false_eq_true, if_false] at allowed
    simp only [renderValue, quoted, Bool.false_eq_true, if_false] at member
    obtain ⟨-, -, -, -, feed, line⟩ := token_apart (all_eq_true.mp allowed byte member)
    exact ⟨feed, line⟩

theorem unbroken_render (valid : ValidParameter parameter) (member : byte ∈ parameter.render) :
    byte ≠ 13 ∧ byte ≠ 10 := by
  obtain ⟨-, -, allowed⟩ := validateName_eq_ok.mp (validParameter_iff.mp valid).1
  rw [AuthParameter.render, mem_append, mem_cons] at member
  rcases member with name | rfl | value
  · obtain ⟨-, -, -, -, feed, line⟩ := token_apart (all_eq_true.mp allowed byte name)
    exact ⟨feed, line⟩
  · decide
  · exact unbroken_renderValue valid value

theorem unbroken_renderParameters (valid : ∀ parameter ∈ parameters, ValidParameter parameter)
    (member : byte ∈ renderParameters parameters) :
    byte ≠ 13 ∧ byte ≠ 10 := by
  induction parameters with
  | nil => simp [renderParameters] at member
  | cons parameter parameters ih =>
    cases parameters with
    | nil => exact unbroken_render (valid parameter (by simp)) member
    | cons next parameters =>
      rw [renderParameters, mem_append, mem_cons, mem_cons] at member
      rcases member with first | rfl | rfl | rest
      · exact unbroken_render (valid parameter (by simp)) first
      · decide
      · decide
      · exact ih (fun each inside => valid each (mem_cons_of_mem _ inside)) rest

/-- A rendered parameter does not end with space. -/
theorem getLast_render (valid : ValidParameter parameter) :
    ∃ front last, isWsp last = false ∧ parameter.render = front ++ [last] := by
  obtain ⟨nonempty, -, allowed⟩ := validateValue_eq_ok.mp (validParameter_iff.mp valid).2
  by_cases quoted : parameter.quoted = true
  · exact ⟨wireBytes parameter.name ++ 61 :: 34 :: escape (wireBytes parameter.value),
      34, by decide, by
        simp [AuthParameter.render, renderValue, quoted, quote]⟩
  · simp only [quoted, Bool.false_eq_true, if_false] at allowed
    rcases eq_nil_or_concat (wireBytes parameter.value) with
      empty | ⟨front, last, same⟩
    · exact absurd empty nonempty
    · rw [concat_eq_append] at same
      have token : isTokenByte last = true := all_eq_true.mp allowed last (by simp [same])
      refine ⟨wireBytes parameter.name ++ 61 :: front, last, (token_apart token).1, ?_⟩
      simp [AuthParameter.render, renderValue, quoted, same]

theorem getLast_renderParameters
    (valid : ∀ each ∈ parameter :: parameters, ValidParameter each) :
    ∃ front last, isWsp last = false ∧
      renderParameters (parameter :: parameters) = front ++ [last] := by
  induction parameters generalizing parameter with
  | nil => exact getLast_render (valid parameter (by simp))
  | cons next parameters ih =>
    obtain ⟨front, last, solid, same⟩ := ih
      (fun each member => valid each (mem_cons_of_mem _ member))
    exact ⟨parameter.render ++ 44 :: 32 :: front, last, solid, by
      simp [renderParameters, same]⟩

/-- A text that starts with a scheme is parsed as the scheme and what follows
the space after it. -/
theorem fromBytes_of_scheme
    (grants : Nat → Bool) {scheme : String} {tail : Bytes}
    (named : validateName (wireBytes scheme) .invalidScheme = .ok ())
    (separated : ∀ byte ∈ tail.head?, isWsp byte = true)
    (trimmed : trim (wireBytes scheme ++ tail) = wireBytes scheme ++ tail)
    (unbroken : ∀ byte ∈ tail, byte ≠ 13 ∧ byte ≠ 10)
    (fits : (wireBytes scheme ++ tail).length ≤ maxAuthChallengeBytes) :
    fromBytes grants (wireBytes scheme ++ tail) =
      match trimStart tail with
      | [] => .ok ⟨scheme, []⟩
      | first :: rest =>
        parseParameters grants maxAuthParameters ⟨scheme, []⟩ (first :: rest) := by
  obtain ⟨nonempty, -, allowed⟩ := validateName_eq_ok.mp named
  have token (byte : UInt8) (member : byte ∈ wireBytes scheme) : isTokenByte byte = true :=
    all_eq_true.mp allowed byte member
  have inside (byte : UInt8) (member : byte ∈ wireBytes scheme) : (!isWsp byte) = true := by
    simp [(token_apart (token byte member)).1]
  obtain ⟨front, left⟩ := span_front tail inside (fun byte head => by simp [separated byte head])
  have created : AuthChallenge.new scheme = .ok ⟨scheme, []⟩ := by
    rw [AuthChallenge.new, named]
    rfl
  have lines : 13 ∉ wireBytes scheme ++ tail ∧ 10 ∉ wireBytes scheme ++ tail := by
    simp only [mem_append, not_or]
    exact ⟨⟨fun member => (token_apart (token 13 member)).2.2.2.2.1 rfl,
        fun member => (unbroken 13 member).1 rfl⟩,
      fun member => (token_apart (token 10 member)).2.2.2.2.2 rfl,
        fun member => (unbroken 10 member).2 rfl⟩
  have filled : wireBytes scheme ++ tail ≠ [] := by simp [nonempty]
  simp only [fromBytes, ensure_of fits, ok_bind, trimmed, ensure_of filled,
    ensure_of lines, front, left, named, decode_wireBytes, created]
  rfl

/-- A well-formed challenge whose text is within the size limit is parsed from
it. -/
theorem WellFormed.fromBytes_render
    (granted : ∀ size, grants size = true) (wellFormed : challenge.WellFormed)
    (fits : challenge.render.length ≤ maxAuthChallengeBytes) :
    fromBytes grants challenge.render = .ok challenge := by
  obtain ⟨scheme, parameters⟩ := challenge
  obtain ⟨named, valid, distinct, few⟩ := wellFormed
  obtain ⟨nonempty, -, allowed⟩ := validateName_eq_ok.mp named
  have token (byte : UInt8) (member : byte ∈ wireBytes scheme) : isTokenByte byte = true :=
    all_eq_true.mp allowed byte member
  obtain ⟨start, others, front⟩ := exists_cons_of_ne_nil nonempty
  have solidStart : isWsp start = false := (token_apart (token start (by rw [front]; simp))).1
  cases parameters with
  | nil =>
    have text : render ⟨scheme, []⟩ = wireBytes scheme ++ [] := rfl
    have solid (byte : UInt8) (member : byte ∈ wireBytes scheme ++ []) : isWsp byte = false := by
      rw [append_nil] at member
      exact (token_apart (token byte member)).1
    rw [text] at fits ⊢
    rw [fromBytes_of_scheme grants named (by simp) (trim_of_forall solid) (by simp) fits]
    rfl
  | cons parameter parameters =>
    have text : render ⟨scheme, parameter :: parameters⟩ =
        wireBytes scheme ++ 32 :: renderParameters (parameter :: parameters) := rfl
    obtain ⟨body, last, solidLast, ending⟩ := getLast_renderParameters valid
    obtain ⟨first, rest, firstToken, starting⟩ :=
      renderParameters_front (valid parameter (by simp)) parameters
    have space : isWsp 32 = true := by decide
    have trimmed : trim (wireBytes scheme ++ 32 :: renderParameters (parameter :: parameters)) =
          wireBytes scheme ++ 32 :: renderParameters (parameter :: parameters) := by
      apply trim_of_ends
      · rw [front]
        simpa using solidStart
      · have final : wireBytes scheme ++ 32 :: (body ++ [last]) =
            (wireBytes scheme ++ 32 :: body) ++ [last] := by
          simp
        intro byte member
        rw [ending, final, getLast?_concat] at member
        cases member
        exact solidLast
    have unbroken : ∀ byte ∈ 32 :: renderParameters (parameter :: parameters),
        byte ≠ 13 ∧ byte ≠ 10 := by
      intro byte member
      rcases mem_cons.mp member with rfl | inside
      · decide
      · exact unbroken_renderParameters valid inside
    have kept : trimStart (32 :: renderParameters (parameter :: parameters)) =
        renderParameters (parameter :: parameters) := by
      rw [trimStart_cons_of_wsp space, starting,
        trimStart_of_head (by simp [(token_apart firstToken).1])]
    rw [text] at fits ⊢
    rw [fromBytes_of_scheme grants named (by simp [space]) trimmed unbroken fits, kept]
    have parsed : parseParameters grants maxAuthParameters ⟨scheme, []⟩
        (renderParameters (parameter :: parameters)) =
          .ok ⟨scheme, [] ++ parameter :: parameters⟩ :=
      parseParameters_render granted valid (by simpa using distinct) (by simpa using few)
        (Nat.le_refl _)
    rw [starting] at parsed ⊢
    exact parsed

end AuthChallenge

/-- The canonical wire token of an algorithm. -/
def DigestAlgorithm.asStr : DigestAlgorithm → String
  | .sha256 => "SHA-256"
  | .sha256Sess => "SHA-256-sess"
  | .md5 => "MD5"
  | .md5Sess => "MD5-sess"

/-- Maximum accepted username size. -/
def maxDigestUsernameBytes : Nat := 1024

/-- Maximum accepted password size. -/
def maxDigestPasswordBytes : Nat := 4096

/-- Why credentials are refused. -/
inductive CredentialsError
  | invalidUsername
  | invalidPassword
  deriving DecidableEq

/-- A secret is a nonempty text of bounded size without control characters. -/
def validateSecret (value : String) (maximum : Nat) (error : CredentialsError) :
    Except CredentialsError Unit :=
  ensure (value ≠ "" ∧ (wireBytes value).length ≤ maximum ∧
    hasControl (wireBytes value) = false) error

/-- Create bounded credentials. -/
def DigestCredentials.new (username password : String) :
    Except CredentialsError DigestCredentials := do
  validateSecret username maxDigestUsernameBytes .invalidUsername
  validateSecret password maxDigestPasswordBytes .invalidPassword
  return ⟨username, password⟩

/-- A lower-case hexadecimal digit. -/
def hexDigit (nibble : UInt8) : UInt8 :=
  if nibble < 10 then 48 + nibble else 87 + nibble

/-- The lower-case hexadecimal text of some bytes. -/
def hex (input : Bytes) : Bytes := input.flatMap fun byte : UInt8 =>
    [hexDigit (byte >>> 4), hexDigit (byte &&& 15)]

namespace DigestAuthorization

variable {name : String}

variable {authorization : DigestAuthorization} {challenge : AuthChallenge}

/-- The client nonce, after the quality of protection and the nonce count where
both are there. -/
def renderNonce (authorization : DigestAuthorization) : Bytes :=
  match authorization.clientNonce with
  | none => []
  | some clientNonce =>
    (match authorization.qop, authorization.nonceCount with
      | some qop, some count =>
        wireBytes ", qop=" ++ wireBytes qop.asStr ++ wireBytes ", nc=" ++
          nonceCountText count
      | _, _ => []) ++
      wireBytes ", cnonce=" ++ quote (wireBytes clientNonce)

/-- The text of an authorization. -/
def render (authorization : DigestAuthorization) : Bytes :=
  wireBytes "Digest username=" ++ quote (wireBytes authorization.username) ++
    wireBytes ", realm=" ++ quote (wireBytes authorization.realm) ++
    wireBytes ", nonce=" ++ quote (wireBytes authorization.nonce) ++
    wireBytes ", uri=" ++ quote authorization.uri ++
    wireBytes ", response=\"" ++ authorization.response ++
    wireBytes "\", algorithm=" ++ wireBytes authorization.algorithm.asStr ++
    (match authorization.opaqueValue with
      | some value => wireBytes ", opaque=" ++ quote (wireBytes value)
      | none => []) ++
    authorization.renderNonce

/-- The text of some ASCII bytes. -/
def textOf (bytes : Bytes) : String := (fromUtf8 bytes).getD ""

theorem textOf_wireBytes (text : String) : textOf (wireBytes text) = text := by
  rw [textOf, wireBytes, fromUtf8_toUTF8]
  rfl

theorem wireBytes_textOf {bytes : Bytes} (ascii : ∀ byte ∈ bytes, byte < 128) :
    wireBytes (textOf bytes) = bytes := by
  obtain ⟨text, read⟩ := fromUtf8_of_ascii ascii
  rw [textOf, read]
  exact toUTF8_of_fromUtf8 read

/-- The parameters of an authorization that bind it to the client nonce. -/
def nonceFields (authorization : DigestAuthorization) : List AuthParameter :=
  match authorization.clientNonce with
  | none => []
  | some clientNonce =>
    (match authorization.qop, authorization.nonceCount with
      | some qop, some count =>
        [⟨"qop", qop.asStr, false⟩, ⟨"nc", textOf (nonceCountText count), false⟩]
      | _, _ => []) ++
      [⟨"cnonce", clientNonce, true⟩]

/-- The parameters of an authorization. -/
def fields (authorization : DigestAuthorization) : List AuthParameter :=
  [⟨"username", authorization.username, true⟩,
    ⟨"realm", authorization.realm, true⟩, ⟨"nonce", authorization.nonce, true⟩,
    ⟨"uri", textOf authorization.uri, true⟩, ⟨"response", textOf authorization.response, true⟩,
    ⟨"algorithm", authorization.algorithm.asStr, false⟩] ++
  (authorization.opaqueValue.toList.map (⟨"opaque", ·, true⟩)) ++
  authorization.nonceFields

/-- Parameters are rendered one after the other. -/
theorem renderParameters_cons
    (parameter : AuthParameter) (parameters : List AuthParameter) :
    AuthChallenge.renderParameters (parameter :: parameters) =
      parameter.render ++ parameters.flatMap fun next =>
        wireBytes ", " ++ next.render := by
  have separator : wireBytes ", " = [44, 32] := by decide +kernel
  induction parameters generalizing parameter with
  | nil => simp [AuthChallenge.renderParameters]
  | cons next parameters ih =>
    rw [AuthChallenge.renderParameters, ih, flatMap_cons, separator]
    simp

/-- The text of a challenge with parameters. -/
theorem render_cons
    (scheme : String) (parameter : AuthParameter) (parameters : List AuthParameter) :
    AuthChallenge.render ⟨scheme, parameter :: parameters⟩ =
      wireBytes scheme ++ 32 :: (parameter.render ++
        parameters.flatMap fun next => wireBytes ", " ++ next.render) := by
  rw [AuthChallenge.render, if_neg (by simp), renderParameters_cons]

theorem wireBytes_append (first second : String) :
    wireBytes (first ++ second) = wireBytes first ++ wireBytes second := by
  simp [wireBytes, toList_eq]

theorem escape_of_forall
    {value : Bytes} (plain : ∀ byte ∈ value, byte ≠ 34 ∧ byte ≠ 92) :
    escape value = value := by
  induction value with
  | nil => rfl
  | cons byte value ih =>
    have special : ¬(byte = 34 ∨ byte = 92) := not_or.mpr (plain byte mem_cons_self)
    rw [escape_cons, if_neg special, ih fun byte member =>
      plain byte (mem_cons_of_mem _ member)]
    rfl

/-- The text of a field before its quoted value. -/
theorem wireBytes_label {label : String} (same : label = ", " ++ name ++ "=") :
    wireBytes label = wireBytes ", " ++ (wireBytes name ++ [61]) := by
  have equals : wireBytes "=" = [61] := by decide +kernel
  rw [same, wireBytes_append, wireBytes_append, equals, append_assoc]

/-- The text of an authorization is that of a challenge with its parameters. -/
theorem render_eq
    (uri : wireBytes (textOf authorization.uri) = authorization.uri)
    (response : wireBytes (textOf authorization.response) = authorization.response)
    (plain : ∀ byte ∈ authorization.response, byte ≠ 34 ∧ byte ≠ 92)
    (count : ∀ count ∈ authorization.nonceCount,
      wireBytes (textOf (nonceCountText count)) = nonceCountText count) :
    authorization.render = AuthChallenge.render ⟨"Digest", authorization.fields⟩ := by
  have opening : wireBytes "Digest username=" =
      wireBytes "Digest" ++ 32 :: (wireBytes "username" ++ [61]) := by
    decide +kernel
  have responseLabel : wireBytes ", response=\"" =
      wireBytes ", " ++ (wireBytes "response" ++ [61, 34]) := by
    decide +kernel
  have algorithmLabel : wireBytes "\", algorithm=" =
      34 :: (wireBytes ", " ++ (wireBytes "algorithm" ++ [61])) := by
    decide +kernel
  have nonceFieldsEq : authorization.renderNonce =
      authorization.nonceFields.flatMap fun next => wireBytes ", " ++ next.render := by
    unfold renderNonce nonceFields
    cases authorization.clientNonce with
    | none => rfl
    | some clientNonce =>
      cases qop : authorization.qop <;> cases counted : authorization.nonceCount <;>
        simp [AuthParameter.render, renderValue,
          wireBytes_label (show ", cnonce=" = ", " ++ "cnonce" ++ "=" by decide),
          wireBytes_label (show ", qop=" = ", " ++ "qop" ++ "=" by decide),
          wireBytes_label (show ", nc=" = ", " ++ "nc" ++ "=" by decide)]
      rename_i value
      exact (count value counted).symm
  have escaped := escape_of_forall plain
  rw [fields, append_assoc, cons_append, render_cons, render, nonceFieldsEq]
  cases authorization.opaqueValue <;>
    simp [AuthParameter.render, renderValue, opening, responseLabel,
      algorithmLabel, uri, response, quote, escaped,
      wireBytes_label (show ", realm=" = ", " ++ "realm" ++ "=" by decide),
      wireBytes_label (show ", nonce=" = ", " ++ "nonce" ++ "=" by decide),
      wireBytes_label (show ", uri=" = ", " ++ "uri" ++ "=" by decide),
      wireBytes_label (show ", opaque=" = ", " ++ "opaque" ++ "=" by decide)]

/-- What a computed authorization took from its inputs. -/
structure ComputedFrom
    (hash : DigestAlgorithm → Bytes → Bytes) (challenge : AuthChallenge)
    (credentials : DigestCredentials) (request : DigestRequest)
    (authorization : DigestAuthorization) : Prop where
  username : authorization.username = credentials.username
  realm : challenge.parameter "realm" = some authorization.realm
  nonce : challenge.parameter "nonce" = some authorization.nonce
  uri : authorization.uri = request.uri
  uriValid : validateComponent request.uri .invalidUri = .ok ()
  clientNonceValid : validateComponent (wireBytes request.clientNonce) .missingClientNonce = .ok ()
  response : authorization.response = DigestAuthorization.responseValue hash
    credentials request authorization.algorithm authorization.qop
    authorization.realm authorization.nonce
  value : authorization.opaqueValue = challenge.parameter "opaque"
  nonceCount : authorization.nonceCount = authorization.qop.map fun _ => request.nonceCount
  clientNonce : authorization.clientNonce =
    if authorization.qop.isSome || authorization.algorithm.isSession then some request.clientNonce
    else none

theorem computedFrom_of_calculate
    {hash : DigestAlgorithm → Bytes → Bytes}
    {credentials : DigestCredentials} {request : DigestRequest}
    (calculated : calculate hash challenge credentials request = .ok authorization) :
    ComputedFrom hash challenge credentials request authorization := by
  rw [calculate] at calculated
  have calculated := returned_of_refusal calculated
  cases realm : challenge.parameter "realm" with
  | none => simp [realm] at calculated
  | some realmValue =>
    cases nonce : challenge.parameter "nonce" with
    | none => simp [realm, nonce] at calculated
    | some nonceValue =>
      simp only [realm, nonce, bind_eq_ok] at calculated
      obtain ⟨_, _, _, uriValid, _, clientNonceValid, algorithm, _, qop, _, _, _,
        returned⟩ := calculated
      cases returned
      exact ⟨rfl, realm, nonce, rfl, uriValid, clientNonceValid, rfl, rfl, rfl, rfl⟩

/-- A nonempty text of bounded size without control characters may be quoted. -/
theorem valid_quoted
    {value : String} (named : validateName (wireBytes name) .invalidParameterName = .ok ())
    (nonempty : wireBytes value ≠ []) (bounded : (wireBytes value).length ≤ maxAuthValueBytes)
    (allowed : (wireBytes value).all isQuotedValueByte = true) :
    AuthChallenge.ValidParameter ⟨name, value, true⟩ :=
  AuthChallenge.validParameter_iff.mpr
    ⟨named, AuthChallenge.validateValue_eq_ok.mpr ⟨nonempty, bounded, allowed⟩⟩

theorem valid_token
    {value : String} (named : validateName (wireBytes name) .invalidParameterName = .ok ())
    (nonempty : wireBytes value ≠ []) (bounded : (wireBytes value).length ≤ maxAuthValueBytes)
    (allowed : (wireBytes value).all isTokenByte = true) :
    AuthChallenge.ValidParameter ⟨name, value, false⟩ :=
  AuthChallenge.validParameter_iff.mpr
    ⟨named, AuthChallenge.validateValue_eq_ok.mpr ⟨nonempty, bounded, allowed⟩⟩

theorem quotedValue_of_uncontrolled
    {text : Bytes} (uncontrolled : hasControl text = false) :
    text.all isQuotedValueByte = true := by
  have checked : ∀ byte, isControl byte = false → isQuotedValueByte byte = true := by
    intro byte
    simp [isControl, isQuotedValueByte, UInt8.le_iff_toNat_le, ← UInt8.toNat_inj]
    omega
  rw [hasControl, Bool.or_eq_false_iff] at uncontrolled
  rw [all_eq_true]
  intro byte member
  have none := any_eq_false.mp uncontrolled.1 byte member
  exact checked byte (by simpa using none)

/-- The value of a parameter of a challenge may be quoted. -/
theorem valid_of_parameter (wellFormed : challenge.WellFormed) {source value : String}
    (named : validateName (wireBytes name) .invalidParameterName = .ok ())
    (found : challenge.parameter source = some value) :
    AuthChallenge.ValidParameter ⟨name, value, true⟩ := by
  have checked : ∀ byte, isTokenByte byte = true → isQuotedValueByte byte = true := by
    intro byte
    simp [isTokenByte, isQuotedValueByte, UInt8.le_iff_toNat_le, ← UInt8.toNat_inj]
    omega
  obtain ⟨parameter, located, rfl⟩ := Option.map_eq_some_iff.mp found
  have valid := wellFormed.parameters parameter (mem_of_find?_eq_some located)
  obtain ⟨nonempty, bounded, allowed⟩ := AuthChallenge.validateValue_eq_ok.mp
    (AuthChallenge.validParameter_iff.mp valid).2
  refine valid_quoted named nonempty bounded ?_
  rw [all_eq_true] at allowed ⊢
  intro byte member
  have each := allowed byte member
  by_cases quoted : parameter.quoted = true
  · simpa [quoted] using each
  · exact checked byte (by simpa [quoted] using each)

/-- The hexadecimal text of some bytes has digits only, two for each byte. -/
theorem hex_spec (input : Bytes) : (hex input).length = 2 * input.length ∧
      ∀ byte ∈ hex input, isTokenByte byte = true ∧ byte ≠ 34 ∧ byte ≠ 92 ∧
        byte < 128 ∧ isQuotedValueByte byte = true := by
  have digits : ∀ byte : UInt8, ([hexDigit (byte >>> 4), hexDigit (byte &&& 15)].all
      fun digit => isTokenByte digit && digit != 34 && digit != 92 &&
        decide (digit < 128) && isQuotedValueByte digit) = true :=
    forall_byte (by decide +kernel)
  constructor
  · induction input with
    | nil => rfl
    | cons byte input ih =>
      rw [hex, flatMap_cons, length_append, ← hex, ih]
      simp only [length_cons, length_nil]
      omega
  · intro digit member
    obtain ⟨byte, -, written⟩ := mem_flatMap.mp member
    have plain := all_eq_true.mp (digits byte) digit written
    simp only [Bool.and_eq_true, bne_iff_ne, decide_eq_true_eq] at plain
    obtain ⟨⟨⟨⟨token, unquoted⟩, unescaped⟩, ascii⟩, quotable⟩ := plain
    exact ⟨token, unquoted, unescaped, ascii, quotable⟩

/-- The text of a nonce count is a token of eight digits. -/
theorem nonceCountText_spec {count : Nat} (word : count < 2 ^ 32) :
    (nonceCountText count).length = 8 ∧ (nonceCountText count).all isTokenByte = true ∧
      ∀ byte ∈ nonceCountText count, byte < 128 := by
  have short : (hexDigits count).length ≤ 8 := by
    rw [hexDigits, length_map, Nat.length_toDigits_le_iff (by decide) (by decide)]
    omega
  have tokens : (nonceCountText count).all isTokenByte = true := by
    have digits : (hexDigits count).all isTokenByte = true := all_hexDigits_of (by decide) count
    simp only [nonceCountText, all_append, digits, Bool.and_true, all_replicate]
    simp [isTokenByte]
  have checked : ∀ byte, isTokenByte byte = true → byte < 128 := by
    intro byte
    simp [isTokenByte, UInt8.le_iff_toNat_le, UInt8.lt_iff_toNat_lt, ← UInt8.toNat_inj]
    omega
  refine ⟨?_, tokens, fun byte member => checked byte ?_⟩
  · simp only [nonceCountText, length_append, length_replicate]
    omega
  · exact all_eq_true.mp tokens byte member

/-- The number of bytes of a digest. -/
def digestSize (algorithm : DigestAlgorithm) : Nat :=
  match algorithm with
  | .sha256 | .sha256Sess => 32
  | .md5 | .md5Sess => 16

/-- No parameter of an authorization occurs twice. -/
theorem distinct_fields (authorization : DigestAuthorization) :
    authorization.fields.Pairwise fun first second =>
      eqIgnoreAsciiCase first.name second.name = false := by
  have all : (["username", "realm", "nonce", "uri", "response", "algorithm",
      "opaque", "qop", "nc", "cnonce"] : List String).Pairwise
        fun first second => eqIgnoreAsciiCase first second = false := by
    decide +kernel
  have names : (authorization.fields.map AuthParameter.name).Sublist
      ["username", "realm", "nonce", "uri", "response", "algorithm",
        "opaque", "qop", "nc", "cnonce"] := by
    unfold fields nonceFields
    cases authorization.opaqueValue <;> cases authorization.clientNonce <;>
      cases authorization.qop <;> cases authorization.nonceCount <;> simp
  exact pairwise_map.mp (all.sublist names)

section Computed

variable {digest : DigestAlgorithm → Bytes → Bytes}
variable (sizes : ∀ algorithm input, (digest algorithm input).length = digestSize algorithm)
variable {credentials : DigestCredentials}
variable {request : DigestRequest}
include sizes in
/-- The response is the hexadecimal text of a digest. -/
theorem ComputedFrom.hex_response
    (computed : ComputedFrom (fun algorithm input => hex (digest algorithm input))
      challenge credentials request authorization) :
    ∃ bytes : Bytes, bytes.length = digestSize authorization.algorithm ∧
      authorization.response = hex bytes := by
  rw [computed.response]
  cases qop : authorization.qop with
  | none => exact ⟨_, sizes _ _, rfl⟩
  | some qop => exact ⟨_, sizes _ _, rfl⟩

include sizes in
/-- Every parameter of a computed authorization is one that its constructor
makes. -/
theorem ComputedFrom.valid_fields
    (computed : ComputedFrom (fun algorithm input => hex (digest algorithm input))
      challenge credentials request authorization)
    (wellFormed : challenge.WellFormed)
    (username : validateSecret credentials.username maxDigestUsernameBytes
      .invalidUsername = .ok ())
    {uriText : String} (uri : request.uri = wireBytes uriText) (word : request.nonceCount < 2 ^ 32)
    (shortUri : request.uri.length ≤ maxAuthValueBytes)
    (shortClientNonce : (wireBytes request.clientNonce).length ≤ maxAuthValueBytes) :
    ∀ parameter ∈ authorization.fields, AuthChallenge.ValidParameter parameter := by
  have named : ∀ name ∈ (["username", "realm", "nonce", "uri", "response", "algorithm",
      "opaque", "qop", "nc", "cnonce"] : List String),
        validateName (wireBytes name) .invalidParameterName = .ok () := by
    decide +kernel
  have tokens : ∀ algorithm : DigestAlgorithm,
      AuthChallenge.ValidParameter ⟨"algorithm", algorithm.asStr, false⟩ := by
    intro algorithm
    cases algorithm <;> unfold AuthChallenge.ValidParameter <;> decide +kernel
  have qops : ∀ qop : QualityOfProtection,
      AuthChallenge.ValidParameter ⟨"qop", qop.asStr, false⟩ := by
    intro qop
    cases qop <;> unfold AuthChallenge.ValidParameter <;> decide +kernel
  have usernameField : AuthChallenge.ValidParameter ⟨"username", authorization.username, true⟩ := by
    obtain ⟨nonempty, bounded, uncontrolled⟩ := ensure_eq_ok.mp username
    rw [computed.username]
    refine valid_quoted (named _ (by simp)) ?_ ?_ (quotedValue_of_uncontrolled uncontrolled)
    · intro empty
      exact nonempty (by rw [← textOf_wireBytes credentials.username, empty]; rfl)
    · exact bounded.trans (by decide)
  have uriField : AuthChallenge.ValidParameter ⟨"uri", textOf authorization.uri, true⟩ := by
    obtain ⟨nonempty, -, uncontrolled⟩ := ensure_eq_ok.mp computed.uriValid
    rw [computed.uri, uri, textOf_wireBytes]
    rw [uri] at nonempty uncontrolled shortUri
    exact valid_quoted (named _ (by simp)) nonempty shortUri
      (quotedValue_of_uncontrolled (by simpa using uncontrolled))
  have responseField : AuthChallenge.ValidParameter
      ⟨"response", textOf authorization.response, true⟩ := by
    obtain ⟨bytes, size, same⟩ := computed.hex_response sizes
    obtain ⟨length, digits⟩ := hex_spec bytes
    have read : wireBytes (textOf (hex bytes)) = hex bytes :=
      wireBytes_textOf fun byte member => (digits byte member).2.2.2.1
    have some : 0 < bytes.length ∧ bytes.length ≤ 32 := by
      rw [size]
      cases authorization.algorithm <;> decide
    rw [same]
    refine valid_quoted (named _ (by simp)) ?_ ?_ ?_
    · rw [read, ← length_pos_iff]
      omega
    · rw [read, length, maxAuthValueBytes]
      omega
    · rw [read, all_eq_true]
      exact fun byte member => (digits byte member).2.2.2.2
  have clientNonceField : AuthChallenge.ValidParameter ⟨"cnonce", request.clientNonce, true⟩ := by
    obtain ⟨nonempty, -, uncontrolled⟩ := ensure_eq_ok.mp computed.clientNonceValid
    exact valid_quoted (named _ (by simp)) nonempty shortClientNonce
      (quotedValue_of_uncontrolled (by simpa using uncontrolled))
  have countField : AuthChallenge.ValidParameter
      ⟨"nc", textOf (nonceCountText request.nonceCount), false⟩ := by
    obtain ⟨length, tokens, ascii⟩ := nonceCountText_spec word
    have read := wireBytes_textOf ascii
    refine valid_token (named _ (by simp)) ?_ ?_ ?_
    · rw [read, ← length_pos_iff]
      omega
    · rw [read, length]
      decide
    · rw [read]
      exact tokens
  have opaqueFields : ∀ value ∈ authorization.opaqueValue,
      AuthChallenge.ValidParameter ⟨"opaque", value, true⟩ := by
    intro value member
    rw [computed.value] at member
    exact valid_of_parameter wellFormed (named _ (by simp)) member
  have nonceFields : ∀ parameter ∈ authorization.nonceFields,
      AuthChallenge.ValidParameter parameter := by
    unfold DigestAuthorization.nonceFields
    rw [computed.clientNonce, computed.nonceCount]
    cases authorization.qop with
    | none =>
      by_cases session : authorization.algorithm.isSession = true
      · simpa [session] using clientNonceField
      · simp [session]
    | some qop => simpa using ⟨qops qop, countField, clientNonceField⟩
  intro parameter member
  simp only [fields, mem_append, mem_cons, mem_map, Option.mem_toList,
    not_mem_nil, or_false] at member
  rcases member with ((rfl | rfl | rfl | rfl | rfl | rfl) | ⟨value, found, rfl⟩) | member
  · exact usernameField
  · exact valid_of_parameter wellFormed (named _ (by simp)) computed.realm
  · exact valid_of_parameter wellFormed (named _ (by simp)) computed.nonce
  · exact uriField
  · exact responseField
  · exact tokens _
  · exact opaqueFields value found
  · exact nonceFields parameter member

end Computed

/-- An authorization computed for a challenge is parsed from its text: with every
parameter once, and with the values that it was computed from. -/
theorem fromBytes_render
    {grants : Nat → Bool} (granted : ∀ size, grants size = true)
    {digest : DigestAlgorithm → Bytes → Bytes}
    (sizes : ∀ algorithm input, (digest algorithm input).length = digestSize algorithm)
    (wellFormed : challenge.WellFormed)
    {username password : String} {credentials : DigestCredentials}
    (created : DigestCredentials.new username password = .ok credentials)
    {request : DigestRequest} {uriText : String}
    (uri : request.uri = wireBytes uriText) (word : request.nonceCount < 2 ^ 32)
    (computed : ComputedFrom (fun algorithm input => hex (digest algorithm input))
      challenge credentials request authorization)
    (fits : authorization.render.length ≤ maxAuthChallengeBytes)
    (shortUri : request.uri.length ≤ maxAuthValueBytes)
    (shortClientNonce : (wireBytes request.clientNonce).length ≤ maxAuthValueBytes) :
    AuthChallenge.fromBytes grants authorization.render = .ok ⟨"Digest", authorization.fields⟩ := by
  simp only [DigestCredentials.new, bind_eq_ok] at created
  obtain ⟨_, usernameValid, _, _, made⟩ := created
  cases made
  obtain ⟨bytes, -, response⟩ := computed.hex_response sizes
  have digits := (hex_spec bytes).2
  have valid := computed.valid_fields sizes wellFormed usernameValid uri word
    shortUri shortClientNonce
  have text : authorization.render = AuthChallenge.render ⟨"Digest", authorization.fields⟩ := by
    refine render_eq ?_ ?_ ?_ ?_
    · rw [computed.uri, uri, textOf_wireBytes]
    · rw [response]
      exact wireBytes_textOf fun byte member => (digits byte member).2.2.2.1
    · rw [response]
      exact fun byte member => ⟨(digits byte member).2.1, (digits byte member).2.2.1⟩
    · intro count member
      rw [computed.nonceCount] at member
      obtain ⟨_, -, rfl⟩ := Option.map_eq_some_iff.mp member
      exact wireBytes_textOf (nonceCountText_spec word).2.2
  have few : authorization.fields.length ≤ maxAuthParameters := by
    unfold fields nonceFields
    cases authorization.opaqueValue <;> cases authorization.clientNonce <;>
      cases authorization.qop <;> cases authorization.nonceCount <;>
      simp [maxAuthParameters]
  have scheme : validateName (wireBytes "Digest") .invalidScheme = .ok () := by
    decide +kernel
  have parsed : AuthChallenge.WellFormed ⟨"Digest", authorization.fields⟩ :=
    ⟨scheme, valid, authorization.distinct_fields, few⟩
  rw [text] at fits ⊢
  exact parsed.fromBytes_render granted fits

end DigestAuthorization

/-- The challenge comes from a public constructor or from parsing. -/
def AuthChallenge.Obtained (challenge : AuthChallenge) : Prop :=
  AuthChallenge.Constructed challenge ∨
    ∃ grants input, AuthChallenge.fromBytes grants input = .ok challenge

theorem AuthChallenge.Obtained.wellFormed
    {challenge : AuthChallenge} (obtained : challenge.Obtained) :
    challenge.WellFormed := by
  rcases obtained with constructed | ⟨grants, input, parsed⟩
  · exact constructed.wellFormed
  · exact (constructed_of_fromBytes parsed).wellFormed

/-- Challenges and computed authorizations are parsed from their texts, and no
value that the peer chose adds a parameter.  The digests are any functions with
results of their sizes; the parser reserves what it asks for. -/
theorem challenges_round_trip
    (grants : Nat → Bool) (granted : ∀ size, grants size = true) :
    (∀ challenge : AuthChallenge, challenge.Obtained →
      challenge.render.length ≤ maxAuthChallengeBytes →
        AuthChallenge.fromBytes grants challenge.render = .ok challenge) ∧
    ∀ digest : DigestAlgorithm → Bytes → Bytes,
      (∀ algorithm input, (digest algorithm input).length =
        DigestAuthorization.digestSize algorithm) →
      ∀ (challenge : AuthChallenge) (username password uri : String)
        (credentials : DigestCredentials) (request : DigestRequest)
        (authorization : DigestAuthorization), challenge.Obtained →
        DigestCredentials.new username password = .ok credentials →
        request.uri = wireBytes uri →
        request.nonceCount < 2 ^ 32 →
        DigestAuthorization.calculate
          (fun algorithm input => hex (digest algorithm input))
          challenge credentials request = .ok authorization →
        authorization.render.length ≤ maxAuthChallengeBytes →
        request.uri.length ≤ maxAuthValueBytes →
        (wireBytes request.clientNonce).length ≤ maxAuthValueBytes →
          AuthChallenge.fromBytes grants authorization.render =
            .ok ⟨"Digest", authorization.fields⟩ ∧
          (authorization.fields.Pairwise fun first second =>
            eqIgnoreAsciiCase first.name second.name = false) ∧
          DigestAuthorization.ComputedFrom
            (fun algorithm input => hex (digest algorithm input))
            challenge credentials request authorization := by
  constructor
  · intro challenge obtained fits
    exact obtained.wellFormed.fromBytes_render granted fits
  · intro digest sizes challenge username password uri credentials request
      authorization obtained created same word calculated fits shortUri shortClientNonce
    have computed := DigestAuthorization.computedFrom_of_calculate calculated
    exact ⟨DigestAuthorization.fromBytes_render granted sizes obtained.wellFormed created same
        word computed fits shortUri shortClientNonce, authorization.distinct_fields, computed⟩

/-- The MD5 digests of one exchange. -/
def digestSample (algorithm : DigestAlgorithm) (input : Bytes) : Bytes :=
  if algorithm = .md5 ∧ input = wireBytes "Mufasa:ro\"uter:Circle Of Life" then
    [173, 127, 40, 68, 188, 57, 152, 66, 231, 31, 99, 133, 45, 176, 80, 71]
  else if algorithm = .md5 ∧ input = wireBytes "INVITE:sip:router.example" then
    [172, 172, 64, 149, 233, 179, 255, 194, 202, 112, 120, 180, 92, 222, 65, 114]
  else if algorithm = .md5 ∧ input = wireBytes ("ad7f2844bc399842e71f63852db05047:" ++
      "n:00000001:cnonce:auth:acac4095e9b3ffc2ca7078b45cde4172") then
    [192, 76, 51, 43, 181, 248, 240, 233, 71, 148, 254, 90, 20, 100, 40, 133]
  else replicate (DigestAuthorization.digestSize algorithm) 0

theorem digestSample_length (algorithm : DigestAlgorithm) (input : Bytes) :
    (digestSample algorithm input).length = DigestAuthorization.digestSize algorithm := by
  unfold digestSample
  split_ifs with first second third
  · rw [first.1]
    rfl
  · rw [second.1]
    rfl
  · rw [third.1]
    rfl
  · exact length_replicate

/-- A challenge whose realm holds a quotation mark. -/
def challengeSample : AuthChallenge :=
  ⟨"Digest", [⟨"realm", "ro\"uter", true⟩, ⟨"nonce", "n", true⟩, ⟨"qop", "auth", true⟩]⟩

/-- A realm with a quotation mark stays one parameter of the authorization. -/
theorem challenges_round_trip_quoted :
    ∃ authorization, DigestAuthorization.calculate
        (fun algorithm input => hex (digestSample algorithm input)) challengeSample
        ⟨"Mufasa", "Circle Of Life"⟩
        ⟨.invite, wireBytes "sip:router.example", [], 1, "cnonce"⟩ = .ok authorization ∧
      authorization.response = wireBytes "c04c332bb5f8f0e94794fe5a14642885" ∧
      AuthChallenge.fromBytes (fun _ => true) challengeSample.render = .ok challengeSample ∧
      AuthChallenge.fromBytes (fun _ => true) authorization.render =
        .ok ⟨"Digest", authorization.fields⟩ := by
  have obtained : challengeSample.Obtained :=
    Or.inr ⟨fun _ => true, wireBytes "Digest realm=\"ro\\\"uter\",nonce=\"n\",qop=\"auth\"",
      by decide +kernel⟩
  have calculated : DigestAuthorization.calculate
      (fun algorithm input => hex (digestSample algorithm input)) challengeSample
      ⟨"Mufasa", "Circle Of Life"⟩
      ⟨.invite, wireBytes "sip:router.example", [], 1, "cnonce"⟩ =
        .ok ⟨"Mufasa", "ro\"uter", "n", wireBytes "sip:router.example",
          wireBytes "c04c332bb5f8f0e94794fe5a14642885", .md5, none, some .auth, some 1,
          some "cnonce"⟩ := by
    decide +kernel
  have trips := challenges_round_trip (fun _ => true) fun _ => rfl
  refine ⟨_, calculated, rfl, ?_, ?_⟩
  · exact trips.1 challengeSample obtained (by decide +kernel)
  · exact (trips.2 digestSample digestSample_length challengeSample
      "Mufasa" "Circle Of Life" "sip:router.example" _ _ _ obtained
      (by decide +kernel) rfl (by decide) calculated (by decide +kernel)
      (by decide +kernel) (by decide +kernel)).1

end Sip
end LiveAISIP
