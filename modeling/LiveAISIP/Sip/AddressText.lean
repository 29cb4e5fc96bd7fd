import LiveAISIP.Library.Quoted
import LiveAISIP.Sip.UriParser

/-!
# Addresses as text

The address forms of `sip/types/address.rs` and the wire parser of
`sip/parser/address.rs`: a bare URI, or a URI between angle brackets after an
optional display name.
-/

namespace LiveAISIP
namespace Sip

open Ascii Quoted Text

/-- Maximum accepted display-name size in bytes. -/
def maxDisplayNameBytes : Nat := 1024

/-- Failure to construct an address component. -/
inductive AddressBuildError
  | displayNameTooLong (length maximum : Nat)
  | invalidDisplayName

/-- A control character. -/
def isControlChar (char : Char) : Bool := char.toNat < 32 || (127 ≤ char.toNat && char.toNat < 160)

/-- Check a display name; the empty one is allowed. -/
def DisplayName.new (value : String) : Except AddressBuildError String :=
  if maxDisplayNameBytes < value.utf8ByteSize then
    .error (.displayNameTooLong value.utf8ByteSize maxDisplayNameBytes)
  else if value.toList.any isControlChar then .error .invalidDisplayName
  else .ok value

namespace Address

/-- The URI of an address. -/
def uri : Address → Uri
  | .nameAddr _ uri => uri
  | .addrSpec uri => uri

/-- The text of an address; a display name is always quoted. -/
def render : Address → Bytes
  | .nameAddr none uri => 60 :: uri.render ++ [62]
  | .nameAddr (some displayName) uri =>
    quote (wireBytes displayName) ++ 32 :: 60 :: uri.render ++ [62]
  | .addrSpec uri => uri.render

end Address

/-- Maximum accepted size of an isolated address. -/
def maxAddressBytes : Nat := 8192

/-- Failure to parse an address. -/
inductive AddressParseError
  | empty
  | tooLong (length maximum : Nat)
  | invalidNameAddr
  | missingClosingAngle
  | trailingData
  | emptyUri
  | invalidDisplayName
  | invalidQuotedString
  | displayNameTooLong (length maximum : Nat)
  | invalidUri (error : UriParseError)
  deriving DecidableEq

/-- The parse failure of a display name that could not be constructed. -/
def mapDisplayNameError : AddressBuildError → AddressParseError
  | .displayNameTooLong length maximum => .displayNameTooLong length maximum
  | .invalidDisplayName => .invalidDisplayName

/-- A byte that stands for itself in a quoted string. -/
def isQdtextByte (byte : UInt8) : Bool :=
  byte == 9 || byte == 32 || byte == 33 || (35 ≤ byte && byte ≤ 91) ||
    (93 ≤ byte && byte ≤ 126) || 128 ≤ byte

namespace Address

/-- The position of the only `<` outside of quoted strings. -/
def findOpenAngle :
    Quoting → Option Nat → Nat → Bytes → Except AddressParseError (Option Nat)
  | quoting, found, _, [] =>
    if quoting = .outside then .ok found else .error .invalidQuotedString
  | quoting, found, index, byte :: rest =>
    if quoting ≠ .outside then
      match quoting.next byte with
      | none => .error .invalidQuotedString
      | some quoting => findOpenAngle quoting found (index + 1) rest
    else if byte = 34 then
      if found.isSome then .error .invalidNameAddr
      else findOpenAngle .inside found (index + 1) rest
    else if byte = 60 then
      if found.isSome then .error .invalidNameAddr
      else findOpenAngle .outside (some index) (index + 1) rest
    else if byte = 62 ∧ found = none then .error .invalidNameAddr
    else findOpenAngle .outside found (index + 1) rest

/-- Check a quoted string without escapes; what follows its ASCII bytes is a text. -/
def validateQdtext : Bytes → Except AddressParseError Unit
  | [] => .ok ()
  | byte :: rest =>
    if byte < 128 then
      if isQdtextByte byte then validateQdtext rest else .error .invalidQuotedString
    else
      match fromUtf8 (byte :: rest) with
      | none => .error .invalidDisplayName
      | some text =>
        if text.toList.any isControlChar then .error .invalidDisplayName else .ok ()

/-- The bytes that a quoted string stands for. -/
def decodeQuoted : Bytes → Except AddressParseError Bytes
  | [] => .ok []
  | byte :: rest =>
    if byte = 92 then
      match rest with
      | [] => .error .invalidQuotedString
      | escaped :: rest =>
        if escaped = 13 ∨ escaped = 10 ∨ 128 ≤ escaped then .error .invalidQuotedString
        else if isControl escaped then
          if escaped = 9 then (decodeQuoted rest).map (32 :: ·)
          else .error .invalidDisplayName
        else (decodeQuoted rest).map (escaped :: ·)
    else if byte = 9 then (decodeQuoted rest).map (32 :: ·)
    else if ¬isQdtextByte byte then .error .invalidQuotedString
    else (decodeQuoted rest).map (byte :: ·)

/-- Read a display name and check it. -/
def readDisplayName (input : Bytes) : Except AddressParseError String :=
  match fromUtf8 input with
  | none => .error .invalidDisplayName
  | some value => (DisplayName.new value).mapError mapDisplayNameError

/-- A display name in quotation marks. -/
def parseQuotedDisplayName (input : Bytes) : Except AddressParseError String :=
  if input.length < 2 ∨ input.getLast? ≠ some 34 then .error .invalidQuotedString
  else
    let inner := input.tail.dropLast
    if 92 ∉ inner ∧ 9 ∉ inner then do
      validateQdtext inner
      readDisplayName inner
    else do
      let decoded ← decodeQuoted inner
      readDisplayName decoded

/-- Where the reading of tokens stands. -/
inductive TokenState
  | start
  | token
  | space
  deriving DecidableEq

/-- Tokens with one space between them. -/
def normalizeTokens : TokenState → Bytes → Except AddressParseError Bytes
  | .token, [] => .ok []
  | .start, [] | .space, [] => .error .invalidDisplayName
  | state, byte :: rest =>
    if isWsp byte then
      if state = .start then .error .invalidDisplayName
      else normalizeTokens .space rest
    else if ¬isTokenByte byte then .error .invalidDisplayName
    else
      (normalizeTokens .token rest).map fun tokens =>
        if state = .space then 32 :: byte :: tokens else byte :: tokens

/-- A display name made of tokens. -/
def parseTokenDisplayName (input : Bytes) : Except AddressParseError String := do
  let normalized ← normalizeTokens .start input
  readDisplayName normalized

/-- A display name. -/
def parseDisplayName (input : Bytes) : Except AddressParseError String :=
  if input.head? = some 34 then parseQuotedDisplayName input
  else parseTokenDisplayName input

/-- A URI between angle brackets. -/
def parseNameAddr (input : Bytes) (openAt : Nat) : Except AddressParseError Address :=
  match cut 62 (input.drop (openAt + 1)) with
  | none => .error .missingClosingAngle
  | some (inner, after) =>
    if 60 ∈ inner then .error .invalidNameAddr
    else if trim after ≠ [] then .error .trailingData
    else if trim inner = [] then .error .emptyUri
    else do
      let uri ← (parseUri (trim inner)).mapError .invalidUri
      let displayInput := trim (input.take openAt)
      if displayInput = [] then return .nameAddr none uri
      else
        let displayName ← parseDisplayName displayInput
        return .nameAddr (some displayName) uri

/-- A bare URI. -/
def parseAddrSpec (input : Bytes) : Except AddressParseError Address :=
  if 62 ∈ input then .error .invalidNameAddr
  else do
    let uri ← (parseUri input).mapError .invalidUri
    return .addrSpec uri

/-- Parse an isolated address from wire bytes. -/
def parse (input : Bytes) : Except AddressParseError Address :=
  if trim input = [] then .error .empty
  else if maxAddressBytes < (trim input).length then
    .error (.tooLong (trim input).length maxAddressBytes)
  else do
    match ← findOpenAngle .outside none 0 (trim input) with
    | some openAt => parseNameAddr (trim input) openAt
    | none => parseAddrSpec (trim input)

end Address
end Sip
end LiveAISIP
