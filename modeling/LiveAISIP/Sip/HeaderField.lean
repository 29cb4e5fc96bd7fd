import LiveAISIP.Library.Outcome
import LiveAISIP.Sip.Header

/-!
# Header fields

Header names and values of `sip/types/header.rs`.  A name is a standard header
or a token that names none of them; a value holds neither CR nor LF nor any
other control byte but tab.  Both carry what their constructors check.
-/

namespace LiveAISIP
namespace Sip

open Ascii Outcome
open HeaderKind

/-- Refuse the first byte that is not allowed. -/
def checkBytes
    (allowed : UInt8 → Bool) (refuse : Nat → UInt8 → ε) (index : Nat) : Bytes → Except ε Unit
  | [] => .ok ()
  | byte :: input =>
    if allowed byte then checkBytes allowed refuse (index + 1) input
    else .error (refuse index byte)

theorem checkBytes_eq_ok
    {allowed : UInt8 → Bool} {refuse : Nat → UInt8 → ε} {index : Nat} {input : Bytes} :
    checkBytes allowed refuse index input = .ok () ↔ input.all allowed = true := by
  induction input generalizing index with
  | nil => simp [checkBytes]
  | cons byte input ih =>
    rw [checkBytes, List.all_cons, Bool.and_eq_true]
    by_cases isAllowed : allowed byte = true
    · rw [if_pos isAllowed, ih]
      simp [isAllowed]
    · rw [if_neg isAllowed]
      simp [isAllowed]

/-- Longest accepted value of one header field. -/
def maxHeaderValueBytes : Nat := 65536

/-- The canonical long name of a standard header. -/
def HeaderKind.asStr : HeaderKind → String
  | .via => "Via"
  | .from => "From"
  | .to => "To"
  | .callId => "Call-ID"
  | .cSeq => "CSeq"
  | .contact => "Contact"
  | .maxForwards => "Max-Forwards"
  | .contentLength => "Content-Length"
  | .contentType => "Content-Type"
  | .contentEncoding => "Content-Encoding"
  | .subject => "Subject"
  | .route => "Route"
  | .recordRoute => "Record-Route"
  | .supported => "Supported"
  | .require => "Require"
  | .unsupported => "Unsupported"
  | .allow => "Allow"
  | .reason => "Reason"
  | .retryAfter => "Retry-After"
  | .userAgent => "User-Agent"
  | .server => "Server"
  | .pAssertedIdentity => "P-Asserted-Identity"
  | .sessionExpires => "Session-Expires"
  | .minSe => "Min-SE"
  | .rSeq => "RSeq"
  | .authorization => "Authorization"
  | .wwwAuthenticate => "WWW-Authenticate"
  | .proxyAuthorization => "Proxy-Authorization"
  | .proxyAuthenticate => "Proxy-Authenticate"
  | .authenticationInfo => "Authentication-Info"

/-- What a header line may begin with: a nonempty token of bounded size. -/
structure IsHeaderName (name : Bytes) : Prop where
  nonempty : name ≠ []
  bounded : name.length ≤ maxHeaderNameBytes
  token : name.all isTokenByte = true

/-- Canonical names are header names and are recognized. -/
theorem HeaderKind.asStr_spec (kind : HeaderKind) : IsHeaderName (wireBytes kind.asStr) ∧
      fromNameBytes (wireBytes kind.asStr) = some kind := by
  have checked : wireBytes kind.asStr ≠ [] ∧ (wireBytes kind.asStr).length ≤ maxHeaderNameBytes ∧
      (wireBytes kind.asStr).all isTokenByte = true ∧
      fromNameBytes (wireBytes kind.asStr) = some kind := by
    cases kind <;> decide +kernel
  obtain ⟨nonempty, bounded, token, recognized⟩ := checked
  exact ⟨⟨nonempty, bounded, token⟩, recognized⟩

/-- Failure to construct a header name. -/
inductive HeaderNameError
  | empty
  | tooLong (length maximum : Nat)
  | invalidToken (index : Nat) (byte : UInt8)

/-- A token that names no standard header, in the given spelling. -/
structure ExtensionHeaderName where
  bytes : Bytes
  isName : IsHeaderName bytes
  unknown : fromNameBytes bytes = none

/-- A validated header name. -/
inductive HeaderName
  | known (kind : HeaderKind)
  | extension (name : ExtensionHeaderName)

namespace HeaderName

/-- Parse a header name from wire bytes. -/
def fromBytes (input : Bytes) : Except HeaderNameError HeaderName :=
  if nonempty : input ≠ [] then
    if bounded : input.length ≤ maxHeaderNameBytes then
      match unknown : fromNameBytes input with
      | some kind => .ok (.known kind)
      | none =>
        match token : checkBytes isTokenByte HeaderNameError.invalidToken 0
          input with
        | .error error => .error error
        | .ok () =>
          .ok (.extension ⟨input, ⟨nonempty, bounded, checkBytes_eq_ok.mp token⟩, unknown⟩)
    else
      .error (.tooLong input.length maxHeaderNameBytes)
  else
    .error .empty

/-- The standard header, when the name is recognized. -/
def kind : HeaderName → Option HeaderKind
  | .known kind => some kind
  | .extension _ => none

/-- The bytes of the canonical name. -/
def asBytes : HeaderName → Bytes
  | .known kind => wireBytes kind.asStr
  | .extension name => name.bytes

/-- The canonical name is a header name. -/
theorem isHeaderName_asBytes (name : HeaderName) : IsHeaderName name.asBytes := by
  cases name with
  | known kind => exact kind.asStr_spec.1
  | extension name => exact name.isName

/-- The canonical name is recognized as the name itself. -/
theorem fromNameBytes_asBytes (name : HeaderName) :
    fromNameBytes name.asBytes = name.kind := by
  cases name with
  | known kind => exact kind.asStr_spec.2
  | extension name => exact name.unknown

end HeaderName

/-- A byte of a header value: tab, printable ASCII, or obs-text. -/
def isHeaderValueByte (byte : UInt8) : Bool := byte == 9 || (32 ≤ byte && byte ≤ 126) || 128 ≤ byte

/-- The bytes of header values are those that are no control bytes, and tab. -/
theorem isHeaderValueByte_eq (byte : UInt8) :
    isHeaderValueByte byte = !(isControl byte && byte != 9) := by
  rw [Bool.eq_iff_iff]
  simp [isHeaderValueByte, isControl, UInt8.le_iff_toNat_le, UInt8.lt_iff_toNat_lt,
    ← UInt8.toNat_inj]
  omega

/-- Failure to construct a header value. -/
inductive HeaderValueError
  | tooLong (length maximum : Nat)
  | invalidByte (index : Nat) (byte : UInt8)

/-- An opaque header value. -/
structure HeaderValue where
  bytes : Bytes
  bounded : bytes.length ≤ maxHeaderValueBytes
  valid : bytes.all isHeaderValueByte = true

/-- Create a header value from wire bytes. -/
def HeaderValue.fromBytes (input : Bytes) : Except HeaderValueError HeaderValue :=
  if bounded : input.length ≤ maxHeaderValueBytes then
    match valid : checkBytes isHeaderValueByte HeaderValueError.invalidByte 0
      input with
    | .error error => .error error
    | .ok () => .ok ⟨input, bounded, checkBytes_eq_ok.mp valid⟩
  else
    .error (.tooLong input.length maxHeaderValueBytes)

/-- A created header value has the given bytes. -/
theorem HeaderValue.fromBytes_eq_ok
    {input : Bytes} {value : HeaderValue} (created : fromBytes input = .ok value) :
    value.bytes = input := by
  unfold fromBytes at created
  split at created
  · split at created
    · cases created
    · cases created
      rfl
  · cases created

/-- A generic header field. -/
structure Header where
  name : HeaderName
  value : HeaderValue

end Sip
end LiveAISIP
