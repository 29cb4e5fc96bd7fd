import LiveAISIP.Library.Outcome
import LiveAISIP.Library.Text
import LiveAISIP.Sip.IpText
import LiveAISIP.Sip.UriComponents

/-!
# The URI parser

The wire parser of `sip/parser/uri.rs`.  It cuts the input at the first occurrence
of each separator in turn, and hands the pieces to the constructors of the URI
types.
-/

namespace LiveAISIP
namespace Sip

open Ascii Text

/-- Maximum accepted URI size. -/
def maxUriBytes : Nat := 8192

/-- Maximum accepted size of a method token. -/
def maxMethodBytes : Nat := 64

/-- Failure to parse a URI. -/
inductive UriParseError
  | empty
  | tooLong (length maximum : Nat)
  | missingScheme
  | invalidScheme
  | missingHost
  | invalidUserInfo
  | invalidHost
  | invalidPort
  | portOutOfRange
  | invalidParameter
  | duplicateParameter
  | tooManyParameters
  | invalidHeader
  | tooManyHeaders
  | invalidAbsoluteUri
  deriving DecidableEq

/-- The parse failure of a component that could not be constructed. -/
def mapBuildError : UriBuildError → UriParseError
  | .duplicateParameter => .duplicateParameter
  | .tooManyParameters => .tooManyParameters
  | .tooManyHeaders => .tooManyHeaders
  | .invalidHeaderName | .invalidHeaderValue => .invalidHeader
  | .emptyUser | .invalidUser | .passwordWithoutUser | .invalidPassword =>
    .invalidUserInfo
  | .invalidDomain => .invalidHost
  | .invalidParameterName | .invalidParameterValue => .invalidParameter
  | .invalidScheme | .reservedSipScheme | .emptyAbsoluteValue => .invalidAbsoluteUri

/-- Read bytes as a text. -/
def readText (input : Bytes) (error : UriParseError) : Except UriParseError String :=
  match fromUtf8 input with
  | none => .error error
  | some text => .ok text

/-- Split off the user part; `@` stands at most once in a SIP URI. -/
def splitUserinfo (input : Bytes) : Except UriParseError (Option Bytes × Bytes) :=
  match cut 64 input with
  | none => .ok (none, input)
  | some (userinfo, remainder) =>
    if remainder.contains 64 then .error .invalidUserInfo
    else if userinfo = [] then .error .invalidUserInfo
    else .ok (some userinfo, remainder)

/-- Set user and password. -/
def applyUserinfo (uri : SipUri) (input : Bytes) : Except UriParseError SipUri := do
  let (user, password) :=
    match cut 58 input with
    | some (user, password) => (user, some password)
    | none => (input, none)
  let user ← readText user .invalidUserInfo
  let uri ← (uri.setUser user).mapError fun _ => .invalidUserInfo
  match password with
  | none => return uri
  | some password =>
    let password ← readText password .invalidUserInfo
    (uri.setPassword password).mapError fun _ => .invalidUserInfo

/-- The digits of a port; no number so far is above the largest port. -/
def parsePortDigits (value : Nat) : Bytes → Except UriParseError Nat
  | [] => .ok value
  | byte :: rest =>
    if ¬isDigit byte then .error .invalidPort
    else
      let next := value * 10 + (byte.toNat - 48)
      if 65535 < next then .error .portOutOfRange
      else parsePortDigits next rest

/-- A port number. -/
def parsePort (input : Bytes) : Except UriParseError UInt16 :=
  if input = [] then .error .invalidPort
  else (parsePortDigits 0 input).map Nat.toUInt16

/-- A host without brackets. -/
def parseHost (input : Bytes) : Except UriParseError Host :=
  if input = [] then .error .missingHost
  else do
    let host ← readText input .invalidHost
    match parseIpv4Addr (wireBytes host) with
    | some address => return .ipv4 address
    | none => (Host.fromDomain host).mapError fun _ => .invalidHost

/-- A bracketed IPv6 address with an optional port. -/
def parseIpv6Hostport (input : Bytes) : Except UriParseError (Host × Option UInt16) :=
  match cut 93 input with
  | none => .error .invalidHost
  | some (bracketed, suffix) =>
    if bracketed.length ≤ 1 then .error .invalidHost
    else do
      let text ← readText bracketed.tail .invalidHost
      match parseIpv6Addr (wireBytes text) with
      | none => .error .invalidHost
      | some address =>
        match suffix with
        | [] => return (.ipv6 address, none)
        | first :: rest =>
          if first ≠ 58 then .error .invalidHost
          else
            let port ← parsePort rest
            return (.ipv6 address, some port)

/-- A host with an optional port. -/
def parseHostport (input : Bytes) : Except UriParseError (Host × Option UInt16) :=
  if input = [] then .error .missingHost
  else if input.head? = some 91 then parseIpv6Hostport input
  else if input.contains 91 ∨ input.contains 93 then .error .invalidHost
  else do
    let (host, port) ←
      match cut 58 input with
      | some (host, port) =>
        if port.contains 58 then .error .invalidPort
        else (parsePort port).map fun port => (host, some port)
      | none => .ok (input, none)
    let host ← parseHost host
    return (host, port)

/-- A nonempty token. -/
def isToken (input : Bytes) : Bool := !input.isEmpty && input.all isTokenByte

/-- The bytes are accepted as a method; every method is a token. -/
def isMethod (input : Bytes) : Bool := isToken input && input.length ≤ maxMethodBytes

/-- A decimal number of at most three digits, up to 255. -/
def isTtl (input : Bytes) : Bool := !input.isEmpty && input.length ≤ 3 && input.all isDigit &&
    input.foldl (fun value byte => value * 10 + (byte.toNat - 48)) 0 ≤ 255

/-- A host as a parameter value. -/
def parseParameterHost (input : Bytes) : Except UriParseError Unit :=
  if input.head? = some 91 then
    match cut 93 input with
    | none => .error .invalidParameter
    | some (bracketed, suffix) =>
      if suffix ≠ [] ∨ bracketed.length ≤ 1 then .error .invalidParameter
      else do
        let text ← readText bracketed.tail .invalidParameter
        match parseIpv6Addr (wireBytes text) with
        | none => .error .invalidParameter
        | some _ => return ()
  else
    ((parseHost input).map fun _ => ()).mapError fun _ => .invalidParameter

/-- The checks of the parameters that SIP defines. -/
def validateStandardParameter (parameter : UriParameter) : Except UriParseError Unit :=
  let named (name : String) := eqIgnoreCase (wireBytes parameter.name) (wireBytes name)
  if named "transport" ∨ named "user" then
    Outcome.ensure (parameter.value.any fun value => isToken (wireBytes value)) .invalidParameter
  else if named "method" then
    Outcome.ensure (parameter.value.any fun value => isMethod (wireBytes value)) .invalidParameter
  else if named "ttl" then
    Outcome.ensure (parameter.value.any fun value => isTtl (wireBytes value)) .invalidParameter
  else if named "maddr" then
    match parameter.value with
    | none => .error .invalidParameter
    | some value => parseParameterHost (wireBytes value)
  else
    Outcome.ensure (¬(named "lr" ∧ parameter.value.isSome)) .invalidParameter

/-- One parameter. -/
def parseParameter (input : Bytes) : Except UriParseError UriParameter := do
  let (name, value) :=
    match cut 61 input with
    | some (name, value) => (name, some value)
    | none => (input, none)
  let name ← readText name .invalidParameter
  let value ←
    match value with
    | none => pure none
    | some value => (readText value .invalidParameter).map some
  let parameter ← (UriParameter.new name value).mapError fun _ => .invalidParameter
  validateStandardParameter parameter
  return parameter

/-- The value of a hexadecimal digit. -/
def hexValue (byte : UInt8) : Option UInt8 :=
  if 48 ≤ byte && byte ≤ 57 then some (byte - 48)
  else if 97 ≤ byte && byte ≤ 102 then some (byte - 87)
  else if 65 ≤ byte && byte ≤ 70 then some (byte - 55)
  else none

/-- The bytes that a component stands for up to a broken escape, and whether it has
none. -/
def componentBytes : Bytes → Bytes × Bool
  | [] => ([], true)
  | byte :: rest =>
    if byte ≠ 37 then
      let (bytes, complete) := componentBytes rest
      (byte :: bytes, complete)
    else
      match rest with
      | high :: low :: rest =>
        match hexValue high, hexValue low with
        | some high, some low =>
          let (bytes, complete) := componentBytes rest
          ((high * 16 + low) :: bytes, complete)
        | _, _ => ([], false)
      | _ => ([], false)

/-- Names are compared without regard to escapes and case. -/
def parameterNamesEqual (left right : Bytes) : Bool :=
  let (leftBytes, leftComplete) := componentBytes left
  let (rightBytes, rightComplete) := componentBytes right
  eqIgnoreCase leftBytes rightBytes && leftComplete && rightComplete

/-- The parameters in order. -/
def pushParameters (uri : SipUri) : List Bytes → Except UriParseError SipUri
  | [] => .ok uri
  | raw :: rest =>
    if raw = [] then .error .invalidParameter
    else do
      let parameter ← parseParameter raw
      Outcome.ensure (¬uri.parameters.any fun existing =>
        parameterNamesEqual (wireBytes existing.name) (wireBytes parameter.name))
        .duplicateParameter
      let uri ← (uri.pushParameter parameter).mapError mapBuildError
      pushParameters uri rest

/-- The parameters after their first semicolon. -/
def parseParameters (uri : SipUri) (input : Bytes) : Except UriParseError SipUri :=
  match input with
  | [] => .error .invalidParameter
  | first :: parameters =>
    if first ≠ 59 ∨ parameters = [] then .error .invalidParameter
    else pushParameters uri (parameters.splitOn 59)

/-- One header. -/
def parseHeader (input : Bytes) : Except UriParseError UriHeader :=
  match cut 61 input with
  | none => .error .invalidHeader
  | some (name, value) => do
    let name ← readText name .invalidHeader
    let value ← readText value .invalidHeader
    (UriHeader.new name value).mapError fun _ => .invalidHeader

/-- The headers in order. -/
def pushHeaders (uri : SipUri) : List Bytes → Except UriParseError SipUri
  | [] => .ok uri
  | raw :: rest =>
    if raw = [] then .error .invalidHeader
    else do
      let header ← parseHeader raw
      let uri ← (uri.pushHeader header).mapError mapBuildError
      pushHeaders uri rest

/-- The headers after the question mark. -/
def parseHeaders (uri : SipUri) (input : Bytes) : Except UriParseError SipUri :=
  if input = [] then .error .invalidHeader
  else pushHeaders uri (input.splitOn 38)

/-- The parameters before the headers, if there are any. -/
def parseParameterPart (uri : SipUri) (input : Bytes) : Except UriParseError SipUri :=
  if input = [] then .ok uri else parseParameters uri input

/-- Parameters and headers. -/
def parseTail (uri : SipUri) (input : Bytes) : Except UriParseError SipUri :=
  if input = [] then .ok uri
  else do
    let (parameters, headers) :=
      match cut 63 input with
      | some (parameters, headers) => (parameters, some headers)
      | none => (input, none)
    let uri ← parseParameterPart uri parameters
    match headers with
    | none => return uri
    | some headers => parseHeaders uri headers

/-- The byte ends the host and port of a SIP URI. -/
def endsHostport (byte : UInt8) : Bool := byte == 59 || byte == 63

/-- A SIP URI after its scheme. -/
def parseSipUri (scheme : SipScheme) (input : Bytes) : Except UriParseError SipUri :=
  if input = [] then .error .missingHost
  else do
    let (userinfo, remainder) ← splitUserinfo input
    let hostport := remainder.takeWhile (!endsHostport ·)
    let tail := remainder.dropWhile (!endsHostport ·)
    let (host, port) ← parseHostport hostport
    let uri := SipUri.new scheme host
    let uri ←
      match userinfo with
      | none => pure uri
      | some userinfo => applyUserinfo uri userinfo
    parseTail { uri with port := port } tail

/-- Unreserved bytes and `;/?:@&=+$,[]`. -/
def isAbsoluteUriByte (byte : UInt8) : Bool := isUnreservedByte byte ||
    [59, 47, 63, 58, 64, 38, 61, 43, 36, 44, 91, 93].contains byte

/-- A URI of another scheme. -/
def parseAbsoluteUri (scheme value : Bytes) : Except UriParseError AbsoluteUri :=
  if value = [] then .error .invalidAbsoluteUri
  else if ¬validateEscapedComponent isAbsoluteUriByte value then
    .error .invalidAbsoluteUri
  else do
    let scheme ← readText scheme .invalidScheme
    let value ← readText value .invalidAbsoluteUri
    (AbsoluteUri.new scheme value).mapError fun _ => .invalidAbsoluteUri

/-- Parse a URI from wire bytes. -/
def parseUri (input : Bytes) : Except UriParseError Uri :=
  if input = [] then .error .empty
  else if maxUriBytes < input.length then .error (.tooLong input.length maxUriBytes)
  else
    match cut 58 input with
    | none => .error .missingScheme
    | some (scheme, value) =>
      if ¬validateScheme scheme then .error .invalidScheme
      else if eqIgnoreCase scheme (wireBytes "sip") then
        (parseSipUri .sip value).map .sip
      else if eqIgnoreCase scheme (wireBytes "sips") then
        (parseSipUri .sips value).map .sip
      else
        (parseAbsoluteUri scheme value).map .absolute

end Sip
end LiveAISIP
