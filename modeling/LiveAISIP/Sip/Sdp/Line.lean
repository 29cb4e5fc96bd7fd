import LiveAISIP.Library.Crlf
import LiveAISIP.Library.Outcome
import LiveAISIP.Library.Text
import LiveAISIP.Sip.UriText

/-!
# Lines of a session description

The line types of `sip/sdp/types.rs`: a lower-case letter, an equals sign and a
bounded text without control bytes.  The line endings belong to the document.
-/

namespace LiveAISIP
namespace Sip
namespace Sdp

open Ascii Text
open Crlf

/-- Maximum size of a line without its CRLF. -/
def maxSdpLineBytes : Nat := 8192

/-- A field designator. -/
inductive SdpField
  | version
  | origin
  | sessionName
  | information
  | uri
  | email
  | phone
  | connection
  | bandwidth
  | timing
  | repeat_
  | timeZone
  | encryptionKey
  | attribute_
  | media
  | extension (letter : Char)
  deriving DecidableEq

/-- Failure to parse or construct a line. -/
inductive SdpLineError
  | invalidField
  | missingEquals
  | missingValue
  | tooLong (length maximum : Nat)
  | invalidUtf8
  | invalidControl (index : Nat)
  deriving DecidableEq

namespace SdpField

/-- The letters of the known fields. -/
def known : List (Char × SdpField) :=
  [('v', version), ('o', origin), ('s', sessionName), ('i', information), ('u', uri),
    ('e', email), ('p', phone), ('c', connection), ('b', bandwidth), ('t', timing),
    ('r', repeat_), ('z', timeZone), ('k', encryptionKey), ('a', attribute_), ('m', media)]

/-- Classify a letter. -/
def fromChar (value : Char) : Except SdpLineError SdpField :=
  if ¬value.isLower then .error .invalidField
  else .ok ((known.lookup value).getD (extension value))

/-- The letter of a field. -/
def asChar : SdpField → Char
  | version => 'v'
  | origin => 'o'
  | sessionName => 's'
  | information => 'i'
  | uri => 'u'
  | email => 'e'
  | phone => 'p'
  | connection => 'c'
  | bandwidth => 'b'
  | timing => 't'
  | repeat_ => 'r'
  | timeZone => 'z'
  | encryptionKey => 'k'
  | attribute_ => 'a'
  | media => 'm'
  | extension letter => letter

/-- The letter of a field on the wire. -/
def asByte (field : SdpField) : UInt8 := field.asChar.toNat.toUInt8

/-- A field is written as the byte that it was read from, which ends no line. -/
theorem asByte_of_fromChar
    {byte : UInt8} {field : SdpField} (read : fromChar (Char.ofNat byte.toNat) = .ok field) :
    field.asByte = byte ∧ byte ≠ cr ∧ byte ≠ lf := by
  have checked : ∀ byte : UInt8, ∀ field ∈ (fromChar (Char.ofNat byte.toNat)).toOption,
      field.asByte = byte ∧ byte ≠ cr ∧ byte ≠ lf :=
    forall_byte (by decide +kernel)
  apply checked byte field
  rw [read]
  rfl

end SdpField

/-- A control byte other than a tab. -/
def isForbiddenByte (byte : UInt8) : Bool := byte != 9 && (byte < 32 || byte == 127)

/-- A value is not empty and has no control byte but tabs. -/
def validateValue (value : Bytes) : Except SdpLineError Unit :=
  if value = [] then .error .missingValue
  else
    match value.findIdx? isForbiddenByte with
    | some index => .error (.invalidControl (index + 2))
    | none => .ok ()

theorem validateValue_eq_ok
    {value : Bytes} {checked : Unit} (valid : validateValue value = .ok checked) :
    ∀ byte ∈ value, isForbiddenByte byte = false := by
  have valid := Outcome.returned_of_refusal valid
  cases found : value.findIdx? isForbiddenByte with
  | some index => simp [found] at valid
  | none => exact List.findIdx?_eq_none_iff.mp found

/-- A text without control bytes has no line ending. -/
theorem clean_of_allowed
    {value : Bytes} (allowed : ∀ byte ∈ value, isForbiddenByte byte = false) :
    Clean value := by
  intro byte member
  have allowed := allowed byte member
  constructor <;>
    · rintro rfl
      cases allowed

/-- One line without its CRLF. -/
structure SdpLine where
  field : SdpField
  value : String
  deriving DecidableEq

namespace SdpLine

/-- Create a line from its field and value. -/
def new (field : SdpField) (value : String) : Except SdpLineError SdpLine := do
  validateValue (wireBytes value)
  let length := (wireBytes value).length + 2
  if maxSdpLineBytes < length then .error (.tooLong length maxSdpLineBytes)
  else .ok ⟨field, value⟩

/-- Parse a line without its line ending. -/
def fromBytes (input : Bytes) : Except SdpLineError SdpLine :=
  if maxSdpLineBytes < input.length then
    .error (.tooLong input.length maxSdpLineBytes)
  else
    match input with
    | letter :: equals :: first :: rest =>
      if equals ≠ 61 then .error .missingEquals
      else do
        let field ← SdpField.fromChar (Char.ofNat letter.toNat)
        match fromUtf8 (first :: rest) with
        | none => .error .invalidUtf8
        | some value => new field value
    | _ => .error .missingValue

/-- The size of a line without its CRLF. -/
def length (line : SdpLine) : Nat := 2 + (wireBytes line.value).length

/-- A line on the wire, without its CRLF. -/
def render (line : SdpLine) : Bytes := line.field.asByte :: 61 :: wireBytes line.value

theorem length_render (line : SdpLine) : line.render.length = line.length := by
  simp only [render, length, List.length_cons]
  omega

/-- What holds of a line that was parsed. -/
structure ParsedFrom (line : SdpLine) (input : Bytes) : Prop where
  rendered : line.render = input
  fits : input.length ≤ maxSdpLineBytes
  letter : line.field.asByte ≠ cr ∧ line.field.asByte ≠ lf
  allowed : ∀ byte ∈ wireBytes line.value, isForbiddenByte byte = false

theorem ParsedFrom.clean
    {line : SdpLine} {input : Bytes} (parsed : line.ParsedFrom input) :
    Clean input := by
  rw [← parsed.rendered, render, clean_cons, clean_cons]
  exact ⟨parsed.letter, ⟨by decide, by decide⟩, clean_of_allowed parsed.allowed⟩

/-- A parsed line is written as it was read. -/
theorem fromBytes_eq_ok
    {input : Bytes} {line : SdpLine} (parsed : fromBytes input = .ok line) :
    line.ParsedFrom input := by
  rw [fromBytes.eq_def] at parsed
  split_ifs at parsed with long
  rcases input with _ | ⟨letter, _ | ⟨equals, _ | ⟨first, rest⟩⟩⟩
  · cases parsed
  · cases parsed
  · cases parsed
  · simp only at parsed
    split_ifs at parsed with other
    obtain rfl : equals = 61 := not_not.mp other
    obtain ⟨field, known, parsed⟩ := Outcome.bind_eq_ok.mp parsed
    cases decoded : fromUtf8 (first :: rest) with
    | none => simp [decoded] at parsed
    | some value =>
      have bytes : wireBytes value = first :: rest := toUTF8_of_fromUtf8 decoded
      simp only [decoded] at parsed
      obtain ⟨_, valid, parsed⟩ := Outcome.bind_eq_ok.mp parsed
      have parsed := Outcome.returned_of_refusal parsed
      cases parsed
      obtain ⟨letterByte, notCr, notLf⟩ := SdpField.asByte_of_fromChar known
      refine ⟨by rw [render, letterByte, bytes], Nat.le_of_not_lt long, ?_,
        validateValue_eq_ok valid⟩
      exact letterByte.symm ▸ ⟨notCr, notLf⟩

end SdpLine

end Sdp
end Sip
end LiveAISIP
