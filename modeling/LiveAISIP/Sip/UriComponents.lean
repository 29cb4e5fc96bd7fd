import LiveAISIP.Sip.UriText

/-!
# Components of a URI

The checks of `sip/types/uri.rs` on the parts of a SIP URI, and the constructors
that make them.
-/

namespace LiveAISIP
namespace Sip

open Ascii

/-- Maximum number of URI parameters. -/
def maxUriParameters : Nat := 64

/-- Maximum number of URI headers. -/
def maxUriHeaders : Nat := 64

/-- An ASCII letter or digit. -/
def isAlphanumeric (byte : UInt8) : Bool := isAlphabetic byte || isDigit byte

/-- A hexadecimal digit. -/
def isHexDigit (byte : UInt8) : Bool :=
  isDigit byte || (65 ≤ byte && byte ≤ 70) || (97 ≤ byte && byte ≤ 102)

/-- Letters, digits and the marks `-_.!~*'()`. -/
def isUnreservedByte (byte : UInt8) : Bool :=
  isAlphanumeric byte || [45, 95, 46, 33, 126, 42, 39, 40, 41].contains byte

/-- Unreserved bytes and `&=+$,;?/`. -/
def isUserByte (byte : UInt8) : Bool :=
  isUnreservedByte byte || [38, 61, 43, 36, 44, 59, 63, 47].contains byte

/-- Unreserved bytes and `&=+$,`. -/
def isPasswordByte (byte : UInt8) : Bool :=
  isUnreservedByte byte || [38, 61, 43, 36, 44].contains byte

/-- Unreserved bytes and `[]/:&+$`. -/
def isParameterByte (byte : UInt8) : Bool :=
  isUnreservedByte byte || [91, 93, 47, 58, 38, 43, 36].contains byte

/-- Unreserved bytes and `[]/?:+$`. -/
def isHeaderByte (byte : UInt8) : Bool :=
  isUnreservedByte byte || [91, 93, 47, 63, 58, 43, 36].contains byte

/-- Allowed bytes and complete escapes. -/
def validateEscapedComponent (allowed : UInt8 → Bool) : Bytes → Bool
  | [] => true
  | byte :: rest =>
    if byte = 37 then
      match rest with
      | high :: low :: rest =>
        isHexDigit high && isHexDigit low && validateEscapedComponent allowed rest
      | _ => false
    else
      allowed byte && validateEscapedComponent allowed rest

/-- A label has letters, digits and inner hyphens. -/
def isValidDomainLabel (label : Bytes) : Bool :=
  label.head?.any isAlphanumeric && label.getLast?.any isAlphanumeric &&
    label.all fun byte => isAlphanumeric byte || byte == 45

/-- The text without a final dot. -/
def stripDot (text : Bytes) : Bytes :=
  if text.getLast? = some 46 then text.dropLast else text

/-- A hostname has valid labels, the last of which begins with a letter. -/
def isValidHostname (hostname : Bytes) : Bool := !hostname.isEmpty && hostname.all (· < 128) &&
    let stripped := stripDot hostname
    let labels := stripped.splitOn 46
    !stripped.isEmpty && labels.all isValidDomainLabel &&
      (labels.getLast?.bind List.head?).any isAlphabetic

/-- Create a hostname. -/
def Host.fromDomain (name : String) : Except UriBuildError Host :=
  if isValidHostname (wireBytes name) then .ok (.domain name)
  else .error .invalidDomain

/-- Create a URI parameter; a value is not empty. -/
def UriParameter.new (name : String) (value : Option String) : Except UriBuildError UriParameter :=
  if name = "" ∨ ¬validateEscapedComponent isParameterByte (wireBytes name) then
    .error .invalidParameterName
  else if value.any fun value =>
      value = "" ∨ ¬validateEscapedComponent isParameterByte (wireBytes value) then
    .error .invalidParameterValue
  else
    .ok ⟨name, value⟩

/-- Create a URI header; its value may be empty. -/
def UriHeader.new (name value : String) : Except UriBuildError UriHeader :=
  if name = "" ∨ ¬validateEscapedComponent isHeaderByte (wireBytes name) then
    .error .invalidHeaderName
  else if ¬validateEscapedComponent isHeaderByte (wireBytes value) then
    .error .invalidHeaderValue
  else
    .ok ⟨name, value⟩

namespace SipUri

/-- A SIP URI with only its required components. -/
def new (scheme : SipScheme) (host : Host) : SipUri where
  scheme := scheme
  user := none
  password := none
  host := host
  port := none
  parameters := []
  headers := []

/-- Set the user. -/
def setUser (uri : SipUri) (user : String) : Except UriBuildError SipUri :=
  if user = "" then .error .emptyUser
  else if ¬validateEscapedComponent isUserByte (wireBytes user) then
    .error .invalidUser
  else
    .ok { uri with user := some user }

/-- Set the password of a URI with a user. -/
def setPassword (uri : SipUri) (password : String) : Except UriBuildError SipUri :=
  if uri.user.isNone then .error .passwordWithoutUser
  else if ¬validateEscapedComponent isPasswordByte (wireBytes password) then
    .error .invalidPassword
  else
    .ok { uri with password := some password }

/-- Add a parameter with a new name. -/
def pushParameter (uri : SipUri) (parameter : UriParameter) : Except UriBuildError SipUri :=
  if maxUriParameters ≤ uri.parameters.length then .error .tooManyParameters
  else if uri.parameters.any fun existing =>
      eqIgnoreCase (wireBytes existing.name) (wireBytes parameter.name) then
    .error .duplicateParameter
  else
    .ok { uri with parameters := uri.parameters ++ [parameter] }

/-- Add a header. -/
def pushHeader (uri : SipUri) (header : UriHeader) : Except UriBuildError SipUri :=
  if maxUriHeaders ≤ uri.headers.length then .error .tooManyHeaders
  else .ok { uri with headers := uri.headers ++ [header] }

end SipUri

end Sip
end LiveAISIP
