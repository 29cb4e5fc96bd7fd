import LiveAISIP.Library.Ascii
import LiveAISIP.Sip.Types

/-!
# Methods, versions and URIs as text

The wire text of the values that stand in a start line, from
`sip/types/method.rs`, `sip/types/version.rs` and `sip/types/uri.rs`.  A start
line is split at its spaces, so what matters of a text is whether all of its
bytes are visible.
-/

namespace LiveAISIP
namespace Sip

open Ascii
open List

/-- Neither space nor control byte. -/
def isVisible (byte : UInt8) : Bool := 32 < byte && byte != 127

theorem isVisible_eq (byte : UInt8) :
    isVisible byte = (!isWsp byte && !isControl byte) := by
  rw [Bool.eq_iff_iff]
  simp [isVisible, isWsp, isControl, UInt8.lt_iff_toNat_lt, ← UInt8.toNat_inj]
  omega

theorem isVisible_of_isDigit
    {byte : UInt8} (digit : isDigit byte = true) : isVisible byte = true := by
  have checked : ∀ byte, isDigit byte = true → isVisible byte = true := by
    intro byte
    simp [isDigit, isVisible, UInt8.le_iff_toNat_le, UInt8.lt_iff_toNat_lt, ← UInt8.toNat_inj]
    omega
  exact checked byte digit

/-- Every byte of the text is visible. -/
def textVisible (text : String) : Bool := (wireBytes text).all isVisible

/-- The exact method on the wire. -/
def Method.asStr : Method → String
  | .invite => "INVITE"
  | .ack => "ACK"
  | .bye => "BYE"
  | .cancel => "CANCEL"
  | .register => "REGISTER"
  | .options => "OPTIONS"
  | .prack => "PRACK"
  | .update => "UPDATE"
  | .info => "INFO"
  | .message => "MESSAGE"
  | .refer => "REFER"
  | .subscribe => "SUBSCRIBE"
  | .notify => "NOTIFY"
  | .publish => "PUBLISH"
  | .extension token => token

/-- SIP protocol version. -/
inductive Version
  | sip2

/-- The canonical version on the wire. -/
def Version.asStr : Version → String
  | .sip2 => "SIP/2.0"

/-- Texts joined by one byte. -/
def joinBytes (separator : UInt8) (texts : List Bytes) : Bytes := [separator].intercalate texts

/-- Items with a separator before each are the joined items after one separator. -/
theorem flatMap_separated
    (separator : UInt8) {items : List Bytes} (nonempty : items ≠ []) :
    (items.flatMap fun item => separator :: item) = separator :: joinBytes separator items := by
  induction items with
  | nil => exact absurd rfl nonempty
  | cons item items ih =>
    cases items with
    | nil => simp [joinBytes]
    | cons next items =>
      rw [flatMap_cons, ih (by simp), joinBytes, joinBytes, intercalate_cons_cons]
      simp

/-- All bytes of joined texts are of a class that the separator belongs to exactly
when those of the texts are. -/
theorem all_joinBytes
    {class_ : UInt8 → Bool} {separator : UInt8}
    (separates : class_ separator = true) (texts : List Bytes) :
    (joinBytes separator texts).all class_ = texts.all fun text => text.all class_ := by
  unfold joinBytes
  induction texts with
  | nil => rfl
  | cons text texts ih =>
    cases texts with
    | nil => simp
    | cons next texts =>
      rw [intercalate_cons_cons, all_append, all_append, ih, all_cons, all_cons]
      simp [separates]

/-- The four octets of an IPv4 address in decimal. -/
def renderIpv4 (address : BitVec 32) : Bytes := joinBytes 46 ([24, 16, 8, 0].map fun shift =>
    digits ((address >>> shift).toNat % 256))

/-- Lower-case hexadecimal digits without leading zeros. -/
def hexDigits (value : Nat) : Bytes := (Nat.toDigits 16 value).map fun digit => digit.toNat.toUInt8

/-- The eight segments of an IPv6 address. -/
def segments (address : BitVec 128) : List Nat := [112, 96, 80, 64, 48, 32, 16, 0].map fun shift =>
    (address >>> shift).toNat % 65536

/-- The start and length of the first longest run of zero segments. -/
def longestZeroRun (values : List Nat) : Nat × Nat :=
  let scan := values.zipIdx.foldl
    (fun (runs : (Nat × Nat) × (Nat × Nat)) (entry : Nat × Nat) =>
      let (longest, current) := runs
      if entry.1 = 0 then
        let current := if current.2 = 0 then (entry.2, 1)
          else (current.1, current.2 + 1)
        (if longest.2 < current.2 then current else longest, current)
      else
        (longest, (0, 0)))
    ((0, 0), (0, 0))
  scan.1

/-- Segments in hexadecimal, separated by colons. -/
def renderSegments (values : List Nat) : Bytes := joinBytes 58 (values.map hexDigits)

/-- The canonical text of an IPv6 address: an IPv4-mapped address ends in its
IPv4 text, and the longest run of several zero segments is left out. -/
def renderIpv6 (address : BitVec 128) : Bytes :=
  let values := segments address
  if values.take 6 = [0, 0, 0, 0, 0, 65535] then
    wireBytes "::ffff:" ++ renderIpv4 (address.setWidth 32)
  else
    let (start, length) := longestZeroRun values
    if 1 < length then
      renderSegments (values.take start) ++ wireBytes "::" ++
        renderSegments (values.drop (start + length))
    else
      renderSegments values

/-- The text of a host. -/
def Host.render : Host → Bytes
  | .domain name => wireBytes name
  | .ipv4 address => renderIpv4 address
  | .ipv6 address => 91 :: renderIpv6 address ++ [93]

/-- The host has no name, or a visible one. -/
def Host.textVisible : Host → Bool
  | .domain name => Sip.textVisible name
  | _ => true

theorem all_visible_digits (value : Nat) : (digits value).all isVisible = true := by
  rw [all_eq_true]
  intro byte member
  exact isVisible_of_isDigit (isDigit_of_mem_digits member)

/-- Decimal digits and dots. -/
def isIpv4Byte (byte : UInt8) : Bool := isDigit byte || byte == 46

/-- Lower-case hexadecimal digits, colons and dots. -/
def isIpv6Byte (byte : UInt8) : Bool := isIpv4Byte byte || (97 ≤ byte && byte ≤ 102) || byte == 58

theorem isIpv6Byte_of_isIpv4Byte
    {byte : UInt8} (decimal : isIpv4Byte byte = true) : isIpv6Byte byte = true := by
  simp [isIpv6Byte, decimal]

theorem isVisible_of_isIpv6Byte
    {byte : UInt8} (address : isIpv6Byte byte = true) : isVisible byte = true := by
  have checked : ∀ byte, isIpv6Byte byte = true → isVisible byte = true := by
    intro byte
    simp [isIpv6Byte, isIpv4Byte, isDigit, isVisible, UInt8.le_iff_toNat_le,
      UInt8.lt_iff_toNat_lt, ← UInt8.toNat_inj]
    omega
  exact checked byte address

/-- A class that has the sixteen digits has the digits of every number. -/
theorem all_hexDigits_of
    {class_ : UInt8 → Bool}
    (checked : ∀ digit : Fin 16, class_ (Nat.digitChar digit).toNat.toUInt8 = true) (value : Nat) :
    (hexDigits value).all class_ = true := by
  induction value using Nat.strongRecOn with
  | ind value ih =>
    rw [hexDigits, Nat.toDigits_eq_if (by decide)]
    split_ifs with small
    · simpa using checked ⟨value, small⟩
    · have front := ih (value / 16) (by omega)
      have last := checked ⟨value % 16, Nat.mod_lt _ (by decide)⟩
      rw [hexDigits] at front
      simp [front, last]

theorem all_hexDigits (value : Nat) : (hexDigits value).all isIpv6Byte = true :=
  all_hexDigits_of (by decide) value

/-- The text of an IPv4 address has digits and dots. -/
theorem all_renderIpv4 (address : BitVec 32) :
    (renderIpv4 address).all isIpv4Byte = true := by
  have decimal (value : Nat) : (digits value).all isIpv4Byte = true := by
    rw [all_eq_true]
    intro byte member
    simp [isIpv4Byte, isDigit_of_mem_digits member]
  rw [renderIpv4, all_joinBytes (by decide), all_map]
  simp [decimal]

theorem all_renderSegments (values : List Nat) :
    (renderSegments values).all isIpv6Byte = true := by
  rw [renderSegments, all_joinBytes (by decide), all_map]
  simp [all_hexDigits]

/-- The text of an IPv6 address has hexadecimal digits, colons and dots. -/
theorem all_renderIpv6 (address : BitVec 128) :
    (renderIpv6 address).all isIpv6Byte = true := by
  have mapped : (wireBytes "::ffff:").all isIpv6Byte = true := by decide +kernel
  have elided : (wireBytes "::").all isIpv6Byte = true := by decide +kernel
  have embedded (address : BitVec 32) : (renderIpv4 address).all isIpv6Byte = true := by
    rw [all_eq_true]
    intro byte member
    exact isIpv6Byte_of_isIpv4Byte (all_eq_true.mp (all_renderIpv4 address) byte member)
  simp only [renderIpv6]
  split_ifs
  · rw [all_append, mapped, embedded]
    rfl
  · rw [all_append, all_append, elided, all_renderSegments, all_renderSegments]
    rfl
  · exact all_renderSegments _

/-- The text of a host is visible unless its name is not. -/
theorem Host.all_visible_render (host : Host) :
    host.render.all isVisible = host.textVisible := by
  cases host with
  | domain name => rfl
  | ipv4 address =>
    refine all_eq_true.mpr fun byte member => ?_
    exact isVisible_of_isIpv6Byte (isIpv6Byte_of_isIpv4Byte
      (all_eq_true.mp (all_renderIpv4 address) byte member))
  | ipv6 address =>
    have inner : (renderIpv6 address).all isVisible = true := by
      rw [all_eq_true]
      intro byte member
      exact isVisible_of_isIpv6Byte (all_eq_true.mp (all_renderIpv6 address) byte member)
    simp [Host.render, Host.textVisible, inner,
      show isVisible 91 = true by decide, show isVisible 93 = true by decide]

/-- The canonical lower-case scheme. -/
def SipScheme.asStr : SipScheme → String
  | .sip => "sip"
  | .sips => "sips"

/-- The text of a URI parameter. -/
def UriParameter.render (parameter : UriParameter) : Bytes := wireBytes parameter.name ++
    match parameter.value with
    | some value => 61 :: wireBytes value
    | none => []

/-- The text of a URI header. -/
def UriHeader.render (header : UriHeader) : Bytes :=
  wireBytes header.name ++ 61 :: wireBytes header.value

/-- The user part of a SIP URI with its password and separator. -/
def SipUri.renderUser (uri : SipUri) : Bytes :=
  match uri.user with
  | none => []
  | some user =>
    wireBytes user ++
      (match uri.password with
        | some password => 58 :: wireBytes password
        | none => []) ++ [64]

/-- The port of a SIP URI with its separator. -/
def SipUri.renderPort (uri : SipUri) : Bytes :=
  match uri.port with
  | some port => 58 :: digits port.toNat
  | none => []

/-- The headers of a SIP URI with their separators. -/
def SipUri.renderHeaders (uri : SipUri) : Bytes :=
  match uri.headers with
  | [] => []
  | first :: remaining =>
    63 :: first.render ++ remaining.flatMap fun header => 38 :: header.render

/-- The text of a SIP URI. -/
def SipUri.render (uri : SipUri) : Bytes :=
  wireBytes uri.scheme.asStr ++ [58] ++ uri.renderUser ++ uri.host.render ++
    uri.renderPort ++
    (uri.parameters.flatMap fun parameter => 59 :: parameter.render) ++
    uri.renderHeaders

/-- Every text in a SIP URI is visible. -/
def SipUri.textVisible (uri : SipUri) : Bool := (uri.user.all fun user => Sip.textVisible user &&
      uri.password.all Sip.textVisible) &&
    uri.host.textVisible &&
    (uri.parameters.all fun parameter => Sip.textVisible parameter.name &&
      parameter.value.all Sip.textVisible) &&
    uri.headers.all fun header => Sip.textVisible header.name && Sip.textVisible header.value

theorem UriParameter.all_visible_render (parameter : UriParameter) :
    parameter.render.all isVisible = (Sip.textVisible parameter.name &&
        parameter.value.all Sip.textVisible) := by
  have equals : isVisible 61 = true := by decide
  rw [UriParameter.render, all_append]
  cases parameter.value <;> simp [Sip.textVisible, equals]

theorem UriHeader.all_visible_render (header : UriHeader) : header.render.all isVisible =
      (Sip.textVisible header.name && Sip.textVisible header.value) := by
  have equals : isVisible 61 = true := by decide
  simp [UriHeader.render, Sip.textVisible, equals]

theorem SipUri.all_visible_renderUser (uri : SipUri) : uri.renderUser.all isVisible =
      uri.user.all fun user => Sip.textVisible user && uri.password.all Sip.textVisible := by
  have colon : isVisible 58 = true := by decide
  have sign : isVisible 64 = true := by decide
  rw [SipUri.renderUser]
  cases uri.user with
  | none => rfl
  | some user => cases uri.password <;> simp [Sip.textVisible, colon, sign]

theorem SipUri.all_visible_renderPort (uri : SipUri) :
    uri.renderPort.all isVisible = true := by
  have colon : isVisible 58 = true := by decide
  rw [SipUri.renderPort]
  cases uri.port with
  | none => rfl
  | some port => rw [all_cons, colon, all_visible_digits, Bool.true_and]

theorem SipUri.all_visible_renderHeaders (uri : SipUri) : uri.renderHeaders.all isVisible =
      uri.headers.all fun header => Sip.textVisible header.name &&
        Sip.textVisible header.value := by
  have question : isVisible 63 = true := by decide
  have ampersand : isVisible 38 = true := by decide
  rw [SipUri.renderHeaders]
  cases uri.headers with
  | nil => rfl
  | cons first remaining =>
    simp [all_flatMap, UriHeader.all_visible_render, question, ampersand]

/-- The text of a SIP URI is visible exactly when its parts are. -/
theorem SipUri.all_visible_render (uri : SipUri) :
    uri.render.all isVisible = uri.textVisible := by
  have scheme : (wireBytes uri.scheme.asStr).all isVisible = true := by
    cases uri.scheme <;> decide +kernel
  have colon : isVisible 58 = true := by decide
  have semicolon : isVisible 59 = true := by decide
  simp only [SipUri.render, SipUri.textVisible, all_append, scheme,
    SipUri.all_visible_renderUser, Host.all_visible_render,
    SipUri.all_visible_renderPort, SipUri.all_visible_renderHeaders,
    all_flatMap, all_cons, all_nil, colon, semicolon,
    UriParameter.all_visible_render, Bool.true_and, Bool.and_true]

/-- Failure to construct a URI component. -/
inductive UriBuildError
  | emptyUser
  | invalidUser
  | passwordWithoutUser
  | invalidPassword
  | invalidDomain
  | invalidParameterName
  | invalidParameterValue
  | duplicateParameter
  | tooManyParameters
  | invalidHeaderName
  | invalidHeaderValue
  | tooManyHeaders
  | invalidScheme
  | reservedSipScheme
  | emptyAbsoluteValue
  deriving DecidableEq

/-- An ASCII letter. -/
def isAlphabetic (byte : UInt8) : Bool := (65 ≤ byte && byte ≤ 90) || (97 ≤ byte && byte ≤ 122)

/-- A byte of a URI scheme after its first letter. -/
def isSchemeByte (byte : UInt8) : Bool :=
  isAlphabetic byte || isDigit byte || byte == 43 || byte == 45 || byte == 46

/-- A scheme begins with a letter. -/
def validateScheme (scheme : Bytes) : Bool :=
  match scheme with
  | [] => false
  | first :: rest => isAlphabetic first && rest.all isSchemeByte

/-- Create a non-SIP absolute URI from its scheme and its value. -/
def AbsoluteUri.new (scheme value : String) : Except UriBuildError AbsoluteUri :=
  if validateScheme (wireBytes scheme) = false then
    .error .invalidScheme
  else if eqIgnoreCase (wireBytes scheme) (wireBytes "sip") ∨
      eqIgnoreCase (wireBytes scheme) (wireBytes "sips") then
    .error .reservedSipScheme
  else if value = "" then
    .error .emptyAbsoluteValue
  else
    .ok ⟨scheme, value⟩

/-- The text of an absolute URI. -/
def AbsoluteUri.render (uri : AbsoluteUri) : Bytes :=
  wireBytes uri.scheme ++ 58 :: wireBytes uri.value

/-- The text of a URI. -/
def Uri.render : Uri → Bytes
  | .sip uri => uri.render
  | .absolute uri => uri.render

/-- Every text in a URI is visible. -/
def Uri.textVisible : Uri → Bool
  | .sip uri => uri.textVisible
  | .absolute uri => Sip.textVisible uri.scheme && Sip.textVisible uri.value

/-- The text of a URI is visible exactly when its parts are. -/
theorem Uri.all_visible_render (uri : Uri) :
    uri.render.all isVisible = uri.textVisible := by
  have colon : isVisible 58 = true := by decide
  cases uri with
  | sip uri => exact uri.all_visible_render
  | absolute uri =>
    simp [Uri.render, AbsoluteUri.render, Uri.textVisible, Sip.textVisible, colon]

/-- The text of a URI is not empty. -/
theorem Uri.render_ne_nil (uri : Uri) : uri.render ≠ [] := by
  cases uri with
  | sip uri => simp [Uri.render, SipUri.render]
  | absolute uri => simp [Uri.render, AbsoluteUri.render]

end Sip
end LiveAISIP
