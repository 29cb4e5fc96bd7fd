import LiveAISIP.Sip.IpRoundTrip

/-!
# The bytes of a parsed URI

The text of a parsed URI has no quotation mark, no angle bracket and no space, and
apart from its scheme and its address no byte that the input did not have.
-/

namespace LiveAISIP
namespace Sip

open Ascii Outcome Text
open List

variable {input : Bytes} {uri : SipUri}

/-- The text of a parsed URI is parsed as the URI. -/
theorem parseUri_text {uri : Uri} (parsed : parseUri input = .ok uri)
    (small : uri.render.length ≤ maxUriBytes) :
    parseUri uri.render = .ok uri := by
  obtain ⟨_, _, known, sip, -, rfl, found⟩ | ⟨_, _, absolute, rfl, rfl, -, found⟩ :=
    parseUri_eq_ok parsed
  · exact parseUri_sip_render found small sip.host.reparses
  · rwa [Uri.render, parseAbsoluteUri_eq_ok found]

/-- Visible, and neither a quotation mark nor an angle bracket. -/
def isUriByte (byte : UInt8) : Bool := isVisible byte && byte != 34 && byte != 60 && byte != 62

/-- The classes of the components allow such bytes only. -/
theorem isUriByte_of_class
    {byte : UInt8}
    (allowed : isUserByte byte = true ∨ isPasswordByte byte = true ∨
      isParameterByte byte = true ∨ isHeaderByte byte = true ∨
      isAbsoluteUriByte byte = true ∨ isSchemeByte byte = true ∨
      isTokenByte byte = true ∨ isIpv6Byte byte = true ∨ isHexDigit byte = true) :
    isUriByte byte = true := by
  have checked : ∀ byte, (isUserByte byte || isPasswordByte byte || isParameterByte byte ||
      isHeaderByte byte || isAbsoluteUriByte byte || isSchemeByte byte || isTokenByte byte ||
      isIpv6Byte byte || isHexDigit byte) = true → isUriByte byte = true := by
    intro byte
    simp [isUserByte, isPasswordByte, isParameterByte, isHeaderByte, isAbsoluteUriByte,
      isUnreservedByte, isAlphanumeric, isAlphabetic, isDigit, isSchemeByte, isTokenByte,
      isIpv6Byte, isIpv4Byte, isHexDigit, isUriByte, isVisible, UInt8.le_iff_toNat_le,
      UInt8.lt_iff_toNat_lt, ← UInt8.toNat_inj]
    omega
  apply checked
  simpa only [Bool.or_eq_true, or_assoc] using allowed

theorem all_of_validateEscapedComponent
    {allowed : UInt8 → Bool} (class_ : ∀ byte, allowed byte = true → isUriByte byte = true)
    {text : Bytes} (valid : validateEscapedComponent allowed text = true) :
    text.all isUriByte = true := by
  have percent : isUriByte 37 = true := by decide
  have hexadecimal {byte : UInt8} (digit : isHexDigit byte = true) : isUriByte byte = true :=
    isUriByte_of_class (by simp [digit])
  induction text using validateEscapedComponent.induct with
  | case1 => rfl
  | case2 high low rest ih =>
    simp only [validateEscapedComponent, if_true, Bool.and_eq_true] at valid
    rw [all_cons, all_cons, all_cons, percent, hexadecimal valid.1.1,
      hexadecimal valid.1.2, ih valid.2]
    rfl
  | case3 rest short =>
    match rest with
    | [] => cases valid
    | [_] => cases valid
    | high :: low :: rest => exact absurd rfl (short high low rest)
  | case4 byte rest other ih =>
    rw [validateEscapedComponent.eq_def] at valid
    dsimp only at valid
    rw [if_neg other, Bool.and_eq_true] at valid
    rw [all_cons, class_ byte valid.1, ih valid.2]
    rfl

theorem all_renderUser (built : uri.Built) : uri.renderUser.all isUriByte = true := by
  have colon : isUriByte 58 = true := by decide
  have sign : isUriByte 64 = true := by decide
  rw [SipUri.renderUser]
  cases named : uri.user with
  | none => rfl
  | some user =>
    have user := all_of_validateEscapedComponent
      (fun _ allowed => isUriByte_of_class (.inl allowed)) (built.user user named)
    cases secured : uri.password with
    | none => simp [user, sign]
    | some password =>
      have password := all_of_validateEscapedComponent
        (fun _ allowed => isUriByte_of_class (.inr (.inl allowed)))
        (built.password password secured)
      simp [user, password, colon, sign]

theorem all_renderParameter {parameter : UriParameter}
    (makes : UriParameter.new parameter.name parameter.value = .ok parameter) :
    parameter.render.all isUriByte = true := by
  have allowed {text : String}
      (valid : validateEscapedComponent isParameterByte (wireBytes text) = true) :
      (wireBytes text).all isUriByte = true :=
    all_of_validateEscapedComponent
      (fun _ allowed => isUriByte_of_class (.inr (.inr (.inl allowed)))) valid
  have equals : isUriByte 61 = true := by decide
  rw [UriParameter.new] at makes
  split_ifs at makes with badName badValue
  simp only [not_or, not_not] at badName
  rw [UriParameter.render, all_append, allowed badName.2, Bool.true_and]
  cases found : parameter.value with
  | none => rfl
  | some value =>
    have valid : validateEscapedComponent isParameterByte (wireBytes value) = true := by
      by_contra invalid
      exact badValue (by simp [found, invalid])
    rw [all_cons, equals, allowed valid]
    rfl

theorem all_renderHeader {header : UriHeader}
    (makes : UriHeader.new header.name header.value = .ok header) :
    header.render.all isUriByte = true := by
  have allowed {text : String}
      (valid : validateEscapedComponent isHeaderByte (wireBytes text) = true) :
      (wireBytes text).all isUriByte = true :=
    all_of_validateEscapedComponent
      (fun _ allowed => isUriByte_of_class (.inr (.inr (.inr (.inl allowed))))) valid
  have equals : isUriByte 61 = true := by decide
  rw [UriHeader.new] at makes
  split_ifs at makes with badName badValue
  simp only [not_or, not_not] at badName badValue
  simp [UriHeader.render, allowed badName.2, allowed badValue, equals]

theorem all_renderHost {host : Host} {port : Option UInt16}
    (parsed : parseHostport input = .ok (host, port)) :
    host.render.all isUriByte = true := by
  have ofAddress {text : Bytes} (address : text.all isIpv6Byte = true) :
      text.all isUriByte = true := by
    rw [all_eq_true]
    intro byte member
    exact isUriByte_of_class (by simp [all_eq_true.mp address byte member])
  have ofIpv4 (address : BitVec 32) : (renderIpv4 address).all isUriByte = true := by
    apply ofAddress
    rw [all_eq_true]
    exact fun byte member => isIpv6Byte_of_isIpv4Byte (mem_renderIpv4 member)
  have ofIpv6 (address : BitVec 128) : (Host.ipv6 address).render.all isUriByte = true := by
    have opening : isUriByte 91 = true := by decide
    have closing : isUriByte 93 = true := by decide
    simp [Host.render, ofAddress (all_renderIpv6 address), opening, closing]
  cases host with
  | ipv4 address => exact ofIpv4 address
  | ipv6 address => exact ofIpv6 address
  | domain name =>
    obtain ⟨_, impossible⟩ | ⟨plain, -⟩ := parseHostport_cases parsed trivial
    · cases impossible
    · have parses := plain.parses
      rw [Host.render, parseHost] at parses
      have parses := returned_of_refusal parses
      obtain ⟨text, read, parses⟩ := bind_eq_ok.mp parses
      have same : text = name := by
        rw [readText_wireBytes] at read
        exact (Except.ok.inj read).symm
      subst same
      cases address : parseIpv4Addr (wireBytes text) with
      | some address =>
        simp only [address] at parses
        cases parses
      | none =>
        simp only [address] at parses
        rw [mapError_eq_ok, Host.fromDomain] at parses
        split_ifs at parses with valid
        have token := token_of_isValidHostname valid
        rw [Host.render, all_eq_true]
        intro byte member
        exact isUriByte_of_class (by simp [all_eq_true.mp token byte member])

theorem all_renderSipUri
    {scheme : SipScheme} (parsed : parseSipUri scheme input = .ok uri) :
    uri.render.all isUriByte = true := by
  obtain ⟨-, built, hostport, hosts, -⟩ := parseSipUri_eq_ok parsed
  have host := all_renderHost hosts
  have user := all_renderUser built
  have parameters := fun parameter member =>
    all_renderParameter (built.parameters parameter member)
  have headers := fun header member => all_renderHeader (built.headers header member)
  have name : (wireBytes uri.scheme.asStr).all isUriByte = true := by
    cases uri.scheme with
    | sip => decide +kernel
    | sips => decide +kernel
  have port : uri.renderPort.all isUriByte = true := by
    rw [renderPort_eq, all_eq_true]
    intro byte member
    by_contra other
    refine @not_mem_portText byte ?_ ?_ uri.port member
    · rw [Bool.eq_false_iff]
      intro digit
      have checked : ∀ byte, isDigit byte = true → isUriByte byte = true := by
        intro byte
        simp [isDigit, isUriByte, isVisible, UInt8.le_iff_toNat_le, UInt8.lt_iff_toNat_lt,
          ← UInt8.toNat_inj]
        omega
      exact other (checked byte digit)
    · rintro rfl
      exact other (by decide)
  have semicolon : isUriByte 59 = true := by decide
  have tail : uri.renderHeaders.all isUriByte = true := by
    have question : isUriByte 63 = true := by decide
    have ampersand : isUriByte 38 = true := by decide
    rw [SipUri.renderHeaders]
    cases list : uri.headers with
    | nil => rfl
    | cons first remaining =>
      rw [list] at headers
      rw [all_append, all_cons, question, headers first (mem_cons_self ..),
        all_flatMap, Bool.true_and, Bool.true_and, all_eq_true]
      intro header member
      rw [all_cons, ampersand, headers header (mem_cons_of_mem _ member)]
      rfl
  have list : (uri.parameters.flatMap fun parameter => 59 :: parameter.render).all
      isUriByte = true := by
    rw [all_flatMap, all_eq_true]
    intro parameter member
    rw [all_cons, semicolon, parameters parameter member]
    rfl
  have colon : isUriByte 58 = true := by decide
  simp [SipUri.render, name, colon, user, host, port, list, tail]

/-- The text of a parsed URI has allowed bytes only. -/
theorem all_renderUri {uri : Uri} (parsed : parseUri input = .ok uri) :
    uri.render.all isUriByte = true := by
  obtain ⟨_, _, known, sip, -, rfl, found⟩ | ⟨scheme, value, absolute, rfl, rfl, valid, found⟩ :=
    parseUri_eq_ok parsed
  · exact all_renderSipUri found
  · rw [Uri.render, parseAbsoluteUri_eq_ok found]
    have name : scheme.all isUriByte = true := by
      cases scheme with
      | nil => cases valid
      | cons first rest =>
        rw [validateScheme, Bool.and_eq_true] at valid
        have letter : isSchemeByte first = true := by
          rw [isSchemeByte, valid.1]
          rfl
        rw [all_cons, isUriByte_of_class (by simp [letter]), Bool.true_and, all_eq_true]
        intro byte member
        exact isUriByte_of_class (by simp [all_eq_true.mp valid.2 byte member])
    have rest : value.all isUriByte = true := by
      rw [parseAbsoluteUri] at found
      split_ifs at found with empty invalid
      exact all_of_validateEscapedComponent
        (fun _ allowed => isUriByte_of_class (.inr (.inr (.inr (.inr (.inl allowed))))))
        (by simpa using invalid)
    have colon : isUriByte 58 = true := by decide
    simp [name, rest, colon]

/-- A byte of no address and no SIP scheme stands in the text of a parsed URI only where
it was received. -/
theorem mem_of_mem_renderUri {uri : Uri} (parsed : parseUri input = .ok uri)
    {byte : UInt8} (address : isIpv6Byte byte = false) (bracket : byte ≠ 91 ∧ byte ≠ 93)
    (scheme : isAlphabetic byte = false) (member : byte ∈ uri.render) : byte ∈ input := by
  obtain ⟨_, value, known, sip, rfl, rfl, found⟩ | ⟨_, _, absolute, rfl, rfl, -, found⟩ :=
    parseUri_eq_ok parsed
  · obtain ⟨-, -, hostport, hosts, rfl, -⟩ := parseSipUri_eq_ok found
    by_contra absent
    simp only [mem_append, mem_cons, not_or] at absent
    obtain ⟨-, colon, ⟨user, host⟩, parameters, headers⟩ := absent
    have outside := (parseHostport_render hosts sip.host.reparses).2 byte host address
      bracket.1 bracket.2
    have name : byte ∉ wireBytes sip.scheme.asStr := by
      have letters : (wireBytes sip.scheme.asStr).all isAlphabetic = true := by
        cases sip.scheme with
        | sip => decide +kernel
        | sips => decide +kernel
      intro member
      rw [all_eq_true.mp letters byte member] at scheme
      cases scheme
    rw [mem_append, not_or] at outside
    rw [Uri.render, SipUri.render, renderPort_eq] at member
    simp only [mem_append, mem_singleton] at member
    tauto
  · rwa [Uri.render, parseAbsoluteUri_eq_ok found] at member

end Sip
end LiveAISIP
