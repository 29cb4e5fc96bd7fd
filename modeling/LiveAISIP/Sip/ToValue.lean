import LiveAISIP.Sip.AddressText

/-!
# To field values

The constructors, the text and the wire parser of `sip/headers/to.rs`: an
address, an optional tag and extension parameters.
-/

namespace LiveAISIP
namespace Sip

open Ascii Outcome Quoted Text

/-- Maximum accepted `To` field-value size in bytes. -/
def maxToBytes : Nat := 8192

/-- Maximum number of parameters accepted on one `To` field value. -/
def maxToParameters : Nat := 64

/-- Maximum accepted extension parameter-name size in bytes. -/
def maxToParameterNameBytes : Nat := 256

/-- Maximum accepted extension parameter-value size in bytes. -/
def maxToParameterValueBytes : Nat := 1024

/-- Failure to parse or construct a `To` value. -/
inductive ToParseError
  | empty
  | tooLong (length maximum : Nat)
  | missingAddress
  | invalidAddress (error : AddressParseError)
  | invalidAddressStructure
  | missingClosingAngle
  | bareUriRequiresNameAddr (index : Nat) (byte : UInt8)
  | invalidQuotedString
  | unexpectedTrailingData
  | emptyParameter
  | invalidParameterName (index : Nat) (byte : UInt8)
  | parameterNameTooLong (length maximum : Nat)
  | reservedParameterName
  | invalidParameterSeparator (byte : UInt8)
  | missingParameterValue
  | invalidParameterValue (index : Nat) (byte : UInt8)
  | parameterValueTooLong (length maximum : Nat)
  | missingTagValue
  | invalidTag (index : Nat) (byte : UInt8)
  | tagTooLong (length maximum : Nat)
  | duplicateParameter
  | tooManyParameters (maximum : Nat)
  deriving DecidableEq

namespace To

/-- The first byte that is no token byte, with its position. -/
def firstInvalid (input : Bytes) : Nat × UInt8 :=
  let index := input.findIdx fun byte => !isTokenByte byte
  (index, input.getD index 0)

/-- A tag is a nonempty token of bounded size. -/
def validateTag (input : Bytes) : Except ToParseError Unit := do
  ensure (input ≠ []) .missingTagValue
  ensure (input.length ≤ maxToTagBytes) (.tagTooLong input.length maxToTagBytes)
  ensure (input.all isTokenByte = true) (.invalidTag (firstInvalid input).1 (firstInvalid input).2)

/-- The name of an extension parameter is a bounded token other than `tag`. -/
def validateExtensionParameterName (input : Bytes) : Except ToParseError Unit := do
  ensure (input ≠ []) .emptyParameter
  ensure (input.length ≤ maxToParameterNameBytes)
    (.parameterNameTooLong input.length maxToParameterNameBytes)
  ensure (input.all isTokenByte = true)
    (.invalidParameterName (firstInvalid input).1 (firstInvalid input).2)
  ensure (eqIgnoreCase input (wireBytes "tag") = false) .reservedParameterName

/-- A bracketed IPv6 address. -/
def isIpv6Reference (input : Bytes) : Bool :=
  if input.length < 3 ∨ input.head? ≠ some 91 ∨ input.getLast? ≠ some 93 then false
  else
    match fromUtf8 input.tail.dropLast with
    | none => false
    | some address => (parseIpv6Addr (wireBytes address)).isSome

/-- An unquoted value is a token or a bracketed IPv6 address. -/
def validateUnquotedParameterValue (input : Bytes) : Except ToParseError Unit := do
  ensure (input ≠ []) .missingParameterValue
  ensure (input.length ≤ maxToParameterValueBytes)
    (.parameterValueTooLong input.length maxToParameterValueBytes)
  ensure (input.all isTokenByte = true ∨ isIpv6Reference input = true)
    (.invalidParameterValue (firstInvalid input).1 (firstInvalid input).2)

/-- A quoted value has no control bytes. -/
def validateQuotedParameterValue (input : Bytes) : Except ToParseError Unit := do
  ensure (input.length ≤ maxToParameterValueBytes)
    (.parameterValueTooLong input.length maxToParameterValueBytes)
  ensure (fromUtf8 input ≠ none) .invalidQuotedString
  ensure (input.any isControl = false) .invalidQuotedString

end To

namespace ToParameter

/-- A parameter without a value. -/
def flag (name : String) : Except ToParseError ToParameter := do
  To.validateExtensionParameterName (wireBytes name)
  return ⟨name, none, false⟩

/-- A parameter with an unquoted value. -/
def unquoted (name value : String) : Except ToParseError ToParameter := do
  To.validateExtensionParameterName (wireBytes name)
  To.validateUnquotedParameterValue (wireBytes value)
  return ⟨name, some value, false⟩

/-- A parameter with a quoted value. -/
def ofQuoted (name value : String) : Except ToParseError ToParameter := do
  To.validateExtensionParameterName (wireBytes name)
  To.validateQuotedParameterValue (wireBytes value)
  return ⟨name, some value, true⟩

/-- The text of a parameter. -/
def render (parameter : ToParameter) : Bytes := wireBytes parameter.name ++
    match parameter.value with
    | none => []
    | some value =>
      61 :: if parameter.quoted then quote (wireBytes value) else wireBytes value

end ToParameter

namespace ToHeader

/-- A value without a tag or extension parameters. -/
def new (address : Address) : ToHeader := ⟨address, none, []⟩

/-- The number of parameters, including the tag. -/
def parameterCount (header : ToHeader) : Nat :=
  header.parameters.length + if header.tag.isSome then 1 else 0

/-- Set the tag. -/
def setTag (header : ToHeader) (tag : String) : Except ToParseError ToHeader :=
  if nonempty : tag = "" then .error .missingTagValue
  else if long : maxToTagBytes < tag.utf8ByteSize then
    .error (.tagTooLong tag.utf8ByteSize maxToTagBytes)
  else if token : tag.toList.all isTokenChar = true then
    if header.tag.isNone ∧ maxToParameters ≤ header.parameterCount then
      .error (.tooManyParameters maxToParameters)
    else
      .ok { header with tag := some ⟨tag, nonempty, Nat.le_of_not_lt long, token⟩ }
  else
    .error (.invalidTag (To.firstInvalid (wireBytes tag)).1 (To.firstInvalid (wireBytes tag)).2)

/-- Remove the tag. -/
def clearTag (header : ToHeader) : ToHeader := { header with tag := none }

/-- Replace the address. -/
def setAddress (header : ToHeader) (address : Address) : ToHeader :=
  { header with address := address }

/-- The first parameter of the name, without regard to case. -/
def parameter (header : ToHeader) (name : String) : Option ToParameter :=
  header.parameters.find? fun parameter =>
    eqIgnoreCase (wireBytes parameter.name) (wireBytes name)

/-- Add an extension parameter with a new name. -/
def pushParameter (header : ToHeader) (parameter : ToParameter) : Except ToParseError ToHeader :=
  if maxToParameters ≤ header.parameterCount then
    .error (.tooManyParameters maxToParameters)
  else if header.parameters.any fun existing =>
      eqIgnoreCase (wireBytes existing.name) (wireBytes parameter.name) then
    .error .duplicateParameter
  else
    .ok { header with parameters := header.parameters ++ [parameter] }

/-- The text of the tag, with its name. -/
def renderTag (header : ToHeader) : Bytes :=
  match header.tag with
  | none => []
  | some tag => wireBytes ";tag=" ++ wireBytes tag.text

/-- The text of a field value. -/
def render (header : ToHeader) : Bytes := header.address.render ++ header.renderTag ++
    header.parameters.flatMap fun parameter => 59 :: parameter.render

end ToHeader

namespace To

/-- The position of the first `<` outside of quoted strings. -/
def findOpenAngle : Quoting → Nat → Bytes → Except ToParseError (Option Nat)
  | quoting, _, [] => if quoting = .outside then .ok none else .error .invalidQuotedString
  | quoting, index, byte :: rest =>
    if quoting ≠ .outside then
      match quoting.next byte with
      | none => .error .invalidQuotedString
      | some quoting => findOpenAngle quoting (index + 1) rest
    else if byte = 34 then findOpenAngle .inside (index + 1) rest
    else if byte = 60 then .ok (some index)
    else if byte = 62 then .error .invalidAddressStructure
    else findOpenAngle .outside (index + 1) rest

/-- What stands before and after the first `>` behind the `<`. -/
def findCloseAngle (input : Bytes) (openAt : Nat) : Except ToParseError (Bytes × Bytes) :=
  match cut 62 (input.drop (openAt + 1)) with
  | none => .error .missingClosingAngle
  | some (inner, after) =>
    if 60 ∈ inner then .error .invalidAddressStructure
    else .ok (input.take (openAt + 1) ++ inner ++ [62], after)

/-- The address, and the text of the parameters. -/
def splitAddressAndParameters (input : Bytes) : Except ToParseError (Address × Bytes) := do
  match ← findOpenAngle .outside 0 input with
  | some openAt =>
    let (before, parameters) ← findCloseAngle input openAt
    let address ← (Address.parse (trim before)).mapError .invalidAddress
    return (address, parameters)
  | none =>
    let addressInput := trim (input.takeWhile (· != 59))
    ensure (addressInput ≠ []) .missingAddress
    match addressInput.findIdx? fun byte => byte == 44 || byte == 63 with
    | some index =>
      .error (.bareUriRequiresNameAddr index (addressInput.getD index 0))
    | none =>
      let address ← (Address.parse addressInput).mapError .invalidAddress
      return (address, input.dropWhile (· != 59))

/-- The name of a parameter, and the rest. -/
def parseParameterName (input : Bytes) : Except ToParseError (String × Bytes) := do
  let name := input.takeWhile isTokenByte
  ensure (name ≠ []) (.invalidParameterName 0 (input.headD 0))
  ensure (name.length ≤ maxToParameterNameBytes)
    (.parameterNameTooLong name.length maxToParameterNameBytes)
  match fromUtf8 name with
  | none => .error (.invalidParameterName 0 (input.headD 0))
  | some text => return (text, input.dropWhile isTokenByte)

/-- The value of the tag, and the rest. -/
def parseTagParameter (input : Bytes) : Except ToParseError (String × Bytes) :=
  match trimStart input with
  | [] => .error .missingTagValue
  | first :: rest => do
    ensure (first = 61) .missingTagValue
    let input := trimStart rest
    ensure (input ≠ []) .missingTagValue
    let tag := input.takeWhile isTokenByte
    ensure (tag ≠ []) (.invalidTag 0 (input.headD 0))
    validateTag tag
    let remaining := trimStart (input.dropWhile isTokenByte)
    ensure (remaining = [] ∨ remaining.head? = some 59) (.invalidTag tag.length (remaining.headD 0))
    match fromUtf8 tag with
    | none => .error (.invalidTag 0 (input.headD 0))
    | some text => return (text, remaining)

/-- What follows the opening quotation mark: the decoded value and the rest. -/
def parseQuotedValue (decoded : Bytes) : Bytes → Except ToParseError (String × Bytes)
  | [] => .error .invalidQuotedString
  | byte :: rest =>
    if byte = 34 then
      match fromUtf8 decoded with
      | none => .error .invalidQuotedString
      | some value => .ok (value, rest)
    else if byte = 92 then
      match rest with
      | [] => .error .invalidQuotedString
      | escaped :: rest =>
        if isControl escaped then .error .invalidQuotedString
        else parseQuotedValue (decoded ++ [escaped]) rest
    else if byte = 9 then parseQuotedValue (decoded ++ [32]) rest
    else if isControl byte then .error .invalidQuotedString
    else parseQuotedValue (decoded ++ [byte]) rest

/-- The quoted value of a parameter, after its quotation mark. -/
def parseQuotedExtensionParameter (name : String) (input : Bytes) :
    Except ToParseError (ToParameter × Bytes) := do
  let (value, rest) ← parseQuotedValue [] input
  let remaining := trimStart rest
  ensure (remaining = [] ∨ remaining.head? = some 59) .unexpectedTrailingData
  let parameter ← ToParameter.ofQuoted name value
  return (parameter, remaining)

/-- The unquoted value of a parameter, up to the next semicolon. -/
def parseUnquotedExtensionParameter (name : String) (input : Bytes) :
    Except ToParseError (ToParameter × Bytes) := do
  let value := trim (input.takeWhile (· != 59))
  ensure (value ≠ []) .missingParameterValue
  validateUnquotedParameterValue value
  match fromUtf8 value with
  | none => .error (.invalidParameterValue 0 (value.headD 0))
  | some text =>
    let parameter ← ToParameter.unquoted name text
    return (parameter, input.dropWhile (· != 59))

/-- An extension parameter, with or without a value. -/
def parseExtensionParameter (name : String) (input : Bytes) :
    Except ToParseError (ToParameter × Bytes) := do
  validateExtensionParameterName (wireBytes name)
  match trimStart input with
  | [] =>
    let parameter ← ToParameter.flag name
    return (parameter, [])
  | first :: rest =>
    if first = 59 then
      let parameter ← ToParameter.flag name
      return (parameter, first :: rest)
    else
      ensure (first = 61) (.invalidParameterSeparator first)
      match trimStart rest with
      | [] => .error .missingParameterValue
      | first :: rest =>
        if first = 34 then parseQuotedExtensionParameter name rest
        else parseUnquotedExtensionParameter name (first :: rest)

/-- One parameter: the tag, or an extension parameter with a new name. -/
def parseParameter (header : ToHeader) (input : Bytes) :
    Except ToParseError (ToHeader × Bytes) := do
  let (name, after) ← parseParameterName input
  let input := trimStart after
  if eqIgnoreCase (wireBytes name) (wireBytes "tag") then
    let (tag, remaining) ← parseTagParameter input
    ensure (header.tag.isNone = true) .duplicateParameter
    let header ← header.setTag tag
    return (header, remaining)
  else
    ensure ((header.parameter name).isNone = true) .duplicateParameter
    let (parameter, remaining) ← parseExtensionParameter name input
    let header ← header.pushParameter parameter
    return (header, remaining)

/-- The parameters that are left; the slots are what is left of the capacity. -/
def parseParameters : Nat → ToHeader → Bytes → Except ToParseError ToHeader
  | slots, header, input =>
    match trimStart input with
    | [] => .ok header
    | first :: rest => do
      ensure (first = 59) .unexpectedTrailingData
      let input := trimStart rest
      ensure (input ≠ []) .emptyParameter
      match slots with
      | 0 => .error (.tooManyParameters maxToParameters)
      | slots + 1 =>
        let (header, remaining) ← parseParameter header input
        parseParameters slots header remaining

/-- Parse a field value. -/
def parse (input : Bytes) : Except ToParseError ToHeader := do
  ensure (input.length ≤ maxToBytes) (.tooLong input.length maxToBytes)
  ensure (trim input ≠ []) .empty
  let (address, parameters) ← splitAddressAndParameters (trim input)
  parseParameters maxToParameters (ToHeader.new address) parameters

end To
end Sip
end LiveAISIP
