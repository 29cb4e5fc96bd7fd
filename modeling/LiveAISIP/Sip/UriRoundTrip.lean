import LiveAISIP.Sip.UriParser
import Mathlib.Data.List.DropRight

/-!
# Parsing the text of a URI

A URI keeps the texts of its parts as they were received, so that its own text
differs from the input only in the case of the scheme `sip`, the spelling of an
address and the leading zeros of a port.  Where these are read back as the same
values, the text is parsed as the same URI.
-/

namespace LiveAISIP
namespace Sip

open Ascii Text Outcome
open List SipUri

variable {input : Bytes} {uri next : SipUri} {byte : UInt8} {host : Host} {port : Option UInt16}

variable {header : UriHeader} {scheme : SipScheme}

theorem wireBytes_of_readText {error : UriParseError} {text : String}
    (read : readText input error = .ok text) :
    wireBytes text = input := by
  unfold readText at read
  cases decoded : fromUtf8 input with
  | none => simp [decoded] at read
  | some found =>
    simp only [decoded, Except.ok.injEq] at read
    subst read
    exact toUTF8_of_fromUtf8 decoded

theorem readText_wireBytes (text : String) (error : UriParseError) :
    readText (wireBytes text) error = .ok text := by
  rw [readText, wireBytes, fromUtf8_toUTF8]

/-- Every component of the URI is one that its constructor accepts. -/
structure SipUri.Built (uri : SipUri) : Prop where
  user : ∀ user ∈ uri.user, validateEscapedComponent isUserByte (wireBytes user) = true
  password : ∀ password ∈ uri.password,
    validateEscapedComponent isPasswordByte (wireBytes password) = true
  parameters : ∀ parameter ∈ uri.parameters,
    UriParameter.new parameter.name parameter.value = .ok parameter
  headers : ∀ header ∈ uri.headers, UriHeader.new header.name header.value = .ok header

/-- The user part is kept as it was received. -/
theorem applyUserinfo_eq_ok (bare : uri.password = none) (built : uri.Built)
    (applied : applyUserinfo uri input = .ok next) :
    next = { uri with user := next.user, password := next.password } ∧
      next.renderUser = input ++ [64] ∧ next.Built := by
  have setUser {next : SipUri} {text : String}
      (sets : (uri.setUser text).mapError (fun _ => UriParseError.invalidUserInfo) = .ok next) :
      next = { uri with user := some text } ∧ next.Built := by
    rw [mapError_eq_ok, SipUri.setUser] at sets
    split_ifs at sets with empty invalid
    cases sets
    exact ⟨rfl, { built with user := by simpa using invalid }⟩
  unfold applyUserinfo at applied
  cases colon : cut 58 input with
  | none =>
    simp only [colon] at applied
    obtain ⟨user, read, applied⟩ := bind_eq_ok.mp applied
    obtain ⟨named, sets, returned⟩ := bind_eq_ok.mp applied
    cases returned
    obtain ⟨rfl, named⟩ := setUser sets
    exact ⟨by rw [bare], by simp [renderUser, bare, wireBytes_of_readText read], named⟩
  | some parts =>
    obtain ⟨before, after⟩ := parts
    obtain ⟨rfl, -⟩ := cut_eq_some.mp colon
    simp only [colon] at applied
    obtain ⟨user, read, applied⟩ := bind_eq_ok.mp applied
    obtain ⟨named, sets, applied⟩ := bind_eq_ok.mp applied
    obtain ⟨password, readPassword, setsPassword⟩ := bind_eq_ok.mp applied
    obtain ⟨rfl, named⟩ := setUser sets
    rw [mapError_eq_ok, setPassword] at setsPassword
    split_ifs at setsPassword with unnamed invalid
    cases setsPassword
    refine ⟨rfl, ?_, { named with password := by simpa using invalid }⟩
    simp [renderUser, wireBytes_of_readText read, wireBytes_of_readText readPassword]

theorem UriParameter.new_eq_ok {name : String} {value : Option String} {parameter : UriParameter}
    (makes : new name value = .ok parameter) : parameter = ⟨name, value⟩ := by
  rw [new] at makes
  have makes := returned_of_refusal (returned_of_refusal makes)
  cases makes
  rfl

theorem UriHeader.new_eq_ok {name value : String}
    (makes : new name value = .ok header) : header = ⟨name, value⟩ := by
  rw [new] at makes
  have makes := returned_of_refusal (returned_of_refusal makes)
  cases makes
  rfl

/-- A parameter is kept as it was received. -/
theorem parseParameter_eq_ok
    {parameter : UriParameter} (parsed : parseParameter input = .ok parameter) :
    parameter.render = input ∧ UriParameter.new parameter.name parameter.value = .ok parameter := by
  unfold parseParameter at parsed
  cases equals : cut 61 input with
  | none =>
    simp only [equals] at parsed
    obtain ⟨name, read, parsed⟩ := bind_eq_ok.mp parsed
    obtain ⟨value, noValue, parsed⟩ := bind_eq_ok.mp parsed
    cases noValue
    obtain ⟨made, makes, parsed⟩ := bind_eq_ok.mp parsed
    obtain ⟨-, -, returned⟩ := bind_eq_ok.mp parsed
    cases returned
    rw [mapError_eq_ok] at makes
    obtain rfl := UriParameter.new_eq_ok makes
    exact ⟨by simp [UriParameter.render, wireBytes_of_readText read], makes⟩
  | some parts =>
    obtain ⟨before, after⟩ := parts
    obtain ⟨rfl, -⟩ := cut_eq_some.mp equals
    simp only [equals] at parsed
    obtain ⟨name, read, parsed⟩ := bind_eq_ok.mp parsed
    obtain ⟨value, reads, parsed⟩ := bind_eq_ok.mp parsed
    obtain ⟨made, makes, parsed⟩ := bind_eq_ok.mp parsed
    obtain ⟨-, -, returned⟩ := bind_eq_ok.mp parsed
    cases returned
    obtain ⟨text, readValue, rfl⟩ := map_eq_ok.mp reads
    rw [mapError_eq_ok] at makes
    obtain rfl := UriParameter.new_eq_ok makes
    refine ⟨?_, makes⟩
    simp [UriParameter.render, wireBytes_of_readText read, wireBytes_of_readText readValue]

/-- Parameters are kept as they were received. -/
theorem pushParameters_eq_ok {raws : List Bytes} (pushed : pushParameters uri raws = .ok next) :
    ∃ added, next = { uri with parameters := uri.parameters ++ added } ∧
      added.map UriParameter.render = raws ∧
      ∀ parameter ∈ added, UriParameter.new parameter.name parameter.value = .ok parameter := by
  induction raws generalizing uri with
  | nil =>
    cases pushed
    exact ⟨[], by simp, rfl, nofun⟩
  | cons raw raws ih =>
    rw [pushParameters] at pushed
    have pushed := returned_of_refusal pushed
    obtain ⟨parameter, parsed, pushed⟩ := bind_eq_ok.mp pushed
    obtain ⟨-, -, pushed⟩ := bind_eq_ok.mp pushed
    obtain ⟨grown, pushes, pushed⟩ := bind_eq_ok.mp pushed
    rw [mapError_eq_ok, pushParameter] at pushes
    have pushes := returned_of_refusal (returned_of_refusal pushes)
    cases pushes
    obtain ⟨added, rfl, rendered, made⟩ := ih pushed
    obtain ⟨written, makes⟩ := parseParameter_eq_ok parsed
    refine ⟨parameter :: added, by simp, by simp [written, rendered], ?_⟩
    exact forall_mem_cons.mpr ⟨makes, made⟩

/-- A header is kept as it was received. -/
theorem parseHeader_eq_ok (parsed : parseHeader input = .ok header) :
    header.render = input ∧ UriHeader.new header.name header.value = .ok header := by
  unfold parseHeader at parsed
  cases equals : cut 61 input with
  | none => simp [equals] at parsed
  | some parts =>
    obtain ⟨before, after⟩ := parts
    obtain ⟨rfl, -⟩ := cut_eq_some.mp equals
    simp only [equals] at parsed
    obtain ⟨name, readName, parsed⟩ := bind_eq_ok.mp parsed
    obtain ⟨value, readValue, makes⟩ := bind_eq_ok.mp parsed
    rw [mapError_eq_ok] at makes
    obtain rfl := UriHeader.new_eq_ok makes
    refine ⟨?_, makes⟩
    simp [UriHeader.render, wireBytes_of_readText readName, wireBytes_of_readText readValue]

/-- Headers are kept as they were received. -/
theorem pushHeaders_eq_ok {raws : List Bytes} (pushed : pushHeaders uri raws = .ok next) :
    ∃ added, next = { uri with headers := uri.headers ++ added } ∧
      added.map UriHeader.render = raws ∧
      ∀ header ∈ added, UriHeader.new header.name header.value = .ok header := by
  induction raws generalizing uri with
  | nil =>
    cases pushed
    exact ⟨[], by simp, rfl, nofun⟩
  | cons raw raws ih =>
    rw [pushHeaders] at pushed
    have pushed := returned_of_refusal pushed
    obtain ⟨header, parsed, pushed⟩ := bind_eq_ok.mp pushed
    obtain ⟨grown, pushes, pushed⟩ := bind_eq_ok.mp pushed
    rw [mapError_eq_ok, pushHeader] at pushes
    have pushes := returned_of_refusal pushes
    cases pushes
    obtain ⟨added, rfl, rendered, made⟩ := ih pushed
    obtain ⟨written, makes⟩ := parseHeader_eq_ok parsed
    refine ⟨header :: added, by simp, by simp [written, rendered], ?_⟩
    exact forall_mem_cons.mpr ⟨makes, made⟩

/-- A URI before its parameters and headers. -/
structure SipUri.Begun (uri : SipUri) : Prop extends uri.Built where
  noParameters : uri.parameters = []
  noHeaders : uri.headers = []

theorem parseParameterPart_eq_ok
    (begun : uri.Begun) (parsed : parseParameterPart uri input = .ok next) :
    ∃ parameters, next = { uri with parameters := parameters } ∧ next.Built ∧
      (parameters.flatMap fun parameter => 59 :: parameter.render) = input := by
  rw [parseParameterPart] at parsed
  split_ifs at parsed with nothing
  · cases parsed
    exact ⟨[], by rw [← begun.noParameters], begun.toBuilt, nothing.symm⟩
  · cases input with
    | nil => exact absurd rfl nothing
    | cons first rest =>
      rw [parseParameters] at parsed
      split_ifs at parsed with refused
      obtain ⟨added, rfl, rendered, made⟩ := pushParameters_eq_ok parsed
      rw [begun.noParameters, nil_append]
      refine ⟨added, rfl, { begun.toBuilt with parameters := made }, ?_⟩
      have pieces : rest.splitOn 59 ≠ [] := by simp
      have separated := flatMap_separated 59 pieces
      rw [← rendered, flatMap_map, rendered, joinBytes, intercalate_splitOn] at separated
      obtain rfl : first = 59 := by
        by_contra other
        exact refused (.inl other)
      exact separated

theorem parseHeaders_eq_ok
    (fresh : uri.headers = []) (built : uri.Built) (parsed : parseHeaders uri input = .ok next) :
    next = { uri with headers := next.headers } ∧ next.renderHeaders = 63 :: input ∧
      next.Built := by
  rw [parseHeaders] at parsed
  have parsed := returned_of_refusal parsed
  obtain ⟨added, rfl, rendered, made⟩ := pushHeaders_eq_ok parsed
  rw [fresh, nil_append]
  refine ⟨rfl, ?_, { built with headers := made }⟩
  have joined : joinBytes 38 (added.map UriHeader.render) = input := by
    rw [rendered, joinBytes, intercalate_splitOn]
  rw [renderHeaders]
  cases added with
  | nil =>
    have pieces : input.splitOn 38 ≠ [] := by simp
    exact absurd rendered.symm pieces
  | cons header added =>
    rw [← joined]
    cases added with
    | nil => simp [joinBytes]
    | cons next added =>
      have remaining : (next :: added).map UriHeader.render ≠ [] := by simp
      have separated := flatMap_separated 38 remaining
      rw [flatMap_map] at separated
      simp only [separated]
      simp [joinBytes, intercalate_cons_cons]

/-- The parameters and headers are kept as they were received, the headers after the
first question mark. -/
theorem parseTail_eq_ok (begun : uri.Begun) (parsed : parseTail uri input = .ok next) :
    next = { uri with parameters := next.parameters, headers := next.headers } ∧
      (next.parameters.flatMap fun parameter => 59 :: parameter.render) ++
        next.renderHeaders = input ∧
      next.Built ∧ (next.headers = [] ↔ 63 ∉ input) := by
  have noHeaders := begun.noHeaders
  unfold parseTail at parsed
  split_ifs at parsed with nothing
  · cases parsed
    exact ⟨rfl, by simp [begun.noParameters, renderHeaders, noHeaders, nothing],
      begun.toBuilt, by simp [noHeaders, nothing]⟩
  cases question : cut 63 input with
  | none =>
    simp only [question] at parsed
    obtain ⟨middle, taken, returned⟩ := bind_eq_ok.mp parsed
    cases returned
    obtain ⟨parameters, rfl, built, rendered⟩ := parseParameterPart_eq_ok begun taken
    exact ⟨rfl, by simp [rendered, renderHeaders, noHeaders], built,
      by simp [noHeaders, cut_eq_none.mp question]⟩
  | some parts =>
    obtain ⟨before, after⟩ := parts
    obtain ⟨rfl, -⟩ := cut_eq_some.mp question
    simp only [question] at parsed
    obtain ⟨middle, taken, parsed⟩ := bind_eq_ok.mp parsed
    obtain ⟨parameters, rfl, built, rendered⟩ := parseParameterPart_eq_ok begun taken
    have fresh : { uri with parameters := parameters }.headers = [] := noHeaders
    obtain ⟨same, headers, built⟩ := parseHeaders_eq_ok fresh built parsed
    have kept : next.parameters = parameters := by rw [same]
    refine ⟨by rw [same], by rw [kept, rendered, headers], built, ?_⟩
    have some : next.headers ≠ [] := by
      intro none
      rw [renderHeaders, none] at headers
      cases headers
    simp [some]

theorem parsePortDigits_append (value : Nat) (first second : Bytes) :
    parsePortDigits value (first ++ second) =
      (parsePortDigits value first >>= fun value => parsePortDigits value second) := by
  induction first generalizing value with
  | nil => rfl
  | cons byte first ih =>
    simp only [cons_append, parsePortDigits]
    split_ifs
    · rfl
    · exact ih _
    · rfl

theorem parsePortDigits_digits {value : Nat} (port : value ≤ 65535) :
    parsePortDigits 0 (digits value) = .ok value := by
  induction value using Nat.strongRecOn with
  | ind value ih =>
    rw [digits_eq]
    split_ifs with small
    · obtain ⟨isOne, worth⟩ := isDigit_digit small
      simp only [parsePortDigits, isOne, worth, not_true, if_false, Nat.zero_mul, Nat.zero_add]
      rw [if_neg (by omega)]
    · have front := ih (value / 10) (by omega) (by omega)
      obtain ⟨isOne, worth⟩ := isDigit_digit (Nat.mod_lt value (by decide : 0 < 10))
      rw [parsePortDigits_append, front]
      simp only [ok_bind, parsePortDigits, isOne, worth, not_true, if_false]
      rw [Nat.div_add_mod', if_neg (by omega)]

/-- The digits of a port are parsed as the port. -/
theorem parsePort_digits (port : UInt16) : parsePort (digits port.toNat) = .ok port := by
  have bound : port.toNat ≤ 65535 := by
    have below := port.toNat_lt
    omega
  rw [parsePort, if_neg (digits_ne_nil _), parsePortDigits_digits bound]
  simp [Except.map]

/-- The text of an address is read as the address. -/
def Host.Reparses : Host → Prop
  | .domain _ => True
  | .ipv4 address => parseIpv4Addr (renderIpv4 address) = some address
  | .ipv6 address => parseIpv6Addr (renderIpv6 address) = some address

/-- The text of a port after a host. -/
def portText : Option UInt16 → Bytes
  | some port => 58 :: digits port.toNat
  | none => []

/-- ASCII bytes are read as their text. -/
theorem readText_of_ascii (ascii : ∀ byte ∈ input, byte < 128) (error : UriParseError) :
    ∃ text, readText input error = .ok text ∧ wireBytes text = input := by
  obtain ⟨text, decoded⟩ := fromUtf8_of_ascii ascii
  have read : readText input error = .ok text := by rw [readText, decoded]
  exact ⟨text, read, wireBytes_of_readText read⟩

theorem ascii_of_isIpv6Byte (address : isIpv6Byte byte = true) : byte < 128 := by
  have checked : ∀ byte, isIpv6Byte byte = true → byte < 128 := by
    intro byte
    simp [isIpv6Byte, isIpv4Byte, isDigit, UInt8.le_iff_toNat_le, UInt8.lt_iff_toNat_lt,
      ← UInt8.toNat_inj]
    omega
  exact checked byte address

theorem mem_renderIpv4
    {address : BitVec 32} (member : byte ∈ renderIpv4 address) :
    isIpv4Byte byte = true :=
  all_eq_true.mp (all_renderIpv4 address) byte member

theorem mem_renderIpv6
    {address : BitVec 128} (member : byte ∈ renderIpv6 address) :
    isIpv6Byte byte = true :=
  all_eq_true.mp (all_renderIpv6 address) byte member

/-- A byte that is no digit and no colon does not stand in the text of a port. -/
theorem not_mem_portText (digit : isDigit byte = false) (colon : byte ≠ 58) (port : Option UInt16) :
    byte ∉ portText port := by
  cases port with
  | none => exact not_mem_nil
  | some port =>
    rw [portText, mem_cons, not_or]
    refine ⟨colon, fun member => ?_⟩
    rw [isDigit_of_mem_digits member] at digit
    cases digit

/-- A hostname is a token. -/
theorem token_of_isValidHostname
    {hostname : Bytes} (valid : isValidHostname hostname = true) :
    hostname.all isTokenByte = true := by
  have label (text : Bytes) (valid : isValidDomainLabel text = true) :
      text.all isTokenByte = true := by
    have checked : ∀ byte, (isAlphanumeric byte || byte == 45) = true →
        isTokenByte byte = true := by
      intro byte
      simp [isAlphanumeric, isAlphabetic, isDigit, isTokenByte, UInt8.le_iff_toNat_le,
        ← UInt8.toNat_inj]
      omega
    simp only [isValidDomainLabel, Bool.and_eq_true] at valid
    rw [all_eq_true]
    exact fun byte member =>
      checked byte (all_eq_true.mp valid.2 byte member)
  simp only [isValidHostname, Bool.and_eq_true] at valid
  have labels := valid.2.1.2
  have stripped : (stripDot hostname).all isTokenByte = true := by
    have joined : joinBytes 46 ((stripDot hostname).splitOn 46) =
        stripDot hostname := intercalate_splitOn 46
    rw [← joined, all_joinBytes (by decide), all_eq_true]
    exact fun text member => label text (all_eq_true.mp labels text member)
  rw [stripDot] at stripped
  split_ifs at stripped with dotted
  · obtain ⟨front, same⟩ := getLast?_eq_some_iff.mp dotted
    rw [same, dropLast_concat] at stripped
    rw [same, all_append, stripped]
    decide
  · exact stripped

/-- What the text of a host without brackets needs in order to be parsed again. -/
structure Host.Plain (host : Host) : Prop where
  nonempty : host.render ≠ []
  unbracketed : 91 ∉ host.render ∧ 93 ∉ host.render
  uncoloned : 58 ∉ host.render
  parses : parseHost host.render = .ok host

/-- A host without brackets is parsed again, with its port. -/
theorem Host.Plain.parseHostport (plain : host.Plain) (port : Option UInt16) :
    Sip.parseHostport (host.render ++ portText port) = .ok (host, port) := by
  have opening : 91 ∉ host.render ++ portText port := by
    rw [mem_append, not_or]
    exact ⟨plain.unbracketed.1, not_mem_portText (by decide) (by decide) port⟩
  have closing : 93 ∉ host.render ++ portText port := by
    rw [mem_append, not_or]
    exact ⟨plain.unbracketed.2, not_mem_portText (by decide) (by decide) port⟩
  have head : (host.render ++ portText port).head? ≠ some 91 := by
    intro first
    exact opening (mem_of_head? first)
  rw [Sip.parseHostport, if_neg (by simp [plain.nonempty]), if_neg head,
    if_neg (by simpa only [contains_iff_mem, not_or] using ⟨opening, closing⟩)]
  cases port with
  | none =>
    rw [portText, append_nil]
    simp only [cut_eq_none.mpr plain.uncoloned, ok_bind, plain.parses]
    rfl
  | some port =>
    have separated : cut 58 (host.render ++ portText (some port)) =
        some (host.render, digits port.toNat) :=
      cut_eq_some.mpr ⟨rfl, plain.uncoloned⟩
    have uncoloned : ¬(digits port.toNat).contains 58 := by
      rw [contains_iff_mem]
      intro member
      have digit := isDigit_of_mem_digits member
      cases digit
    simp only [separated]
    rw [if_neg uncoloned, parsePort_digits]
    simp only [Except.map, ok_bind, plain.parses]
    rfl

/-- A bracketed address is parsed again, with its port. -/
theorem parseHostport_ipv6
    {address : BitVec 128} (reparses : parseIpv6Addr (renderIpv6 address) = some address)
    (port : Option UInt16) :
    parseHostport ((Host.ipv6 address).render ++ portText port) = .ok (.ipv6 address, port) := by
  have split : (Host.ipv6 address).render ++ portText port =
      (91 :: renderIpv6 address) ++ 93 :: portText port := by
    simp [Host.render]
  have unclosed : 93 ∉ 91 :: renderIpv6 address := by
    rw [mem_cons, not_or]
    refine ⟨by decide, fun member => ?_⟩
    have byte := mem_renderIpv6 member
    cases byte
  have closed := cut_eq_some.mpr ⟨split, unclosed⟩
  have nonempty : renderIpv6 address ≠ [] := by
    intro empty
    rw [empty] at reparses
    cases reparses
  obtain ⟨text, read, same⟩ := readText_of_ascii
    (fun byte member => ascii_of_isIpv6Byte (mem_renderIpv6 member)) .invalidHost
  have long : ¬(91 :: renderIpv6 address).length ≤ 1 := by
    have positive := length_pos_iff.mpr nonempty
    simp only [length_cons]
    omega
  rw [parseHostport, if_neg (by simp [Host.render]), if_pos (by simp [Host.render]),
    parseIpv6Hostport]
  simp only [closed]
  rw [if_neg long, tail_cons, read]
  simp only [ok_bind, same, reparses]
  cases port with
  | none => rfl
  | some port =>
    simp only [portText, ne_eq, not_true, if_false, parsePort_digits]
    rfl

/-- A host without brackets is an address or the name that was received. -/
theorem parseHost_eq_ok (parsed : parseHost input = .ok host) :
    input ≠ [] ∧ ((∃ name, host = .domain name ∧ wireBytes name = input) ∨
        ∃ address, host = .ipv4 address) := by
  rw [parseHost] at parsed
  split_ifs at parsed with empty
  obtain ⟨text, read, parsed⟩ := bind_eq_ok.mp parsed
  refine ⟨empty, ?_⟩
  cases address : parseIpv4Addr (wireBytes text) with
  | some address =>
    simp only [address] at parsed
    cases parsed
    exact .inr ⟨_, rfl⟩
  | none =>
    simp only [address] at parsed
    rw [mapError_eq_ok, Host.fromDomain] at parsed
    split_ifs at parsed
    cases parsed
    exact .inl ⟨text, rfl, wireBytes_of_readText read⟩

/-- The text of an IPv4 address is a host without brackets. -/
theorem Host.plain_ipv4
    {address : BitVec 32} (reparses : parseIpv4Addr (renderIpv4 address) = some address) :
    (Host.ipv4 address).Plain := by
  have outside (byte : UInt8) (other : isIpv4Byte byte = false) : byte ∉ renderIpv4 address := by
    intro member
    rw [mem_renderIpv4 member] at other
    cases other
  have nonempty : renderIpv4 address ≠ [] := by
    intro empty
    rw [empty] at reparses
    cases reparses
  obtain ⟨text, read, same⟩ := readText_of_ascii
    (fun byte member =>
      ascii_of_isIpv6Byte (isIpv6Byte_of_isIpv4Byte (mem_renderIpv4 member)))
    .invalidHost
  refine ⟨nonempty, ⟨outside 91 (by decide), outside 93 (by decide)⟩, outside 58 (by decide), ?_⟩
  rw [Host.render, parseHost, if_neg nonempty, read]
  simp only [ok_bind, same, reparses]
  rfl

/-- What an input without brackets has before its first colon is the host. -/
theorem parseHostport_eq_ok (unbracketed : input.head? ≠ some 91)
    (parsed : parseHostport input = .ok (host, port)) :
    91 ∉ input ∧ 93 ∉ input ∧
      ∃ text, (∀ byte ∈ text, byte ∈ input) ∧ 58 ∉ text ∧ parseHost text = .ok host := by
  rw [parseHostport] at parsed
  have parsed := returned_of_refusal parsed
  rw [if_neg unbracketed] at parsed
  split_ifs at parsed with brackets
  simp only [contains_iff_mem, not_or] at brackets
  refine ⟨brackets.1, brackets.2, ?_⟩
  cases colon : cut 58 input with
  | none =>
    simp only [colon] at parsed
    obtain ⟨parts, taken, parsed⟩ := bind_eq_ok.mp parsed
    cases taken
    obtain ⟨found, parses, returned⟩ := bind_eq_ok.mp parsed
    cases returned
    exact ⟨input, fun byte member => member, cut_eq_none.mp colon, parses⟩
  | some pieces =>
    obtain ⟨before, after⟩ := pieces
    obtain ⟨rfl, uncoloned⟩ := cut_eq_some.mp colon
    simp only [colon] at parsed
    split_ifs at parsed
    · cases parsed
    obtain ⟨parts, taken, parsed⟩ := bind_eq_ok.mp parsed
    cases number : parsePort after with
    | error error => simp [number, Except.map] at taken
    | ok value =>
      simp only [number, Except.map, Except.ok.injEq] at taken
      subst taken
      obtain ⟨found, parses, returned⟩ := bind_eq_ok.mp parsed
      cases returned
      exact ⟨before, fun byte member => mem_append_left _ member, uncoloned, parses⟩

/-- A parsed host is an IPv6 address, or is parsed again without brackets from the
bytes that the input had or that an IPv4 address has. -/
theorem parseHostport_cases
    (parsed : parseHostport input = .ok (host, port)) (reparses : host.Reparses) :
    (∃ address, host = .ipv6 address) ∨
      host.Plain ∧ ∀ byte ∈ host.render, byte ∈ input ∨ isIpv4Byte byte = true := by
  by_cases bracketed : input.head? = some 91
  · left
    rw [parseHostport] at parsed
    have parsed := returned_of_refusal parsed
    rw [if_pos bracketed, parseIpv6Hostport] at parsed
    cases closed : cut 93 input with
    | none => simp [closed] at parsed
    | some parts =>
      obtain ⟨before, suffix⟩ := parts
      simp only [closed] at parsed
      have parsed := returned_of_refusal parsed
      obtain ⟨text, -, parsed⟩ := bind_eq_ok.mp parsed
      cases address : parseIpv6Addr (wireBytes text) with
      | none => simp [address] at parsed
      | some address =>
        simp only [address] at parsed
        cases suffix with
        | nil =>
          cases parsed
          exact ⟨_, rfl⟩
        | cons first rest =>
          simp only at parsed
          have parsed := returned_of_refusal parsed
          obtain ⟨number, -, returned⟩ := bind_eq_ok.mp parsed
          cases returned
          exact ⟨_, rfl⟩
  · right
    obtain ⟨opening, closing, text, inside, uncoloned, parses⟩ :=
      parseHostport_eq_ok bracketed parsed
    obtain ⟨nonempty, ⟨name, rfl, rfl⟩ | ⟨address, rfl⟩⟩ := parseHost_eq_ok parses
    · refine ⟨⟨nonempty, ⟨fun member => opening (inside 91 member),
        fun member => closing (inside 93 member)⟩, uncoloned, parses⟩, ?_⟩
      exact fun byte member => .inl (inside byte member)
    · exact ⟨Host.plain_ipv4 reparses, fun byte member => .inr (mem_renderIpv4 member)⟩

/-- A parsed host and port are parsed again from their text, which has none of the
bytes that the input did not have and that no address has. -/
theorem parseHostport_render
    (parsed : parseHostport input = .ok (host, port)) (reparses : host.Reparses) :
    parseHostport (host.render ++ portText port) = .ok (host, port) ∧
      ∀ byte, byte ∉ input → isIpv6Byte byte = false → byte ≠ 91 → byte ≠ 93 →
        byte ∉ host.render ++ portText port := by
  have notPort (byte : UInt8) (other : isIpv6Byte byte = false) : byte ∉ portText port := by
    have checked : ∀ byte, isIpv6Byte byte = false → isDigit byte = false ∧ byte ≠ 58 := by
      intro byte
      simp [isIpv6Byte, isIpv4Byte, isDigit, UInt8.le_iff_toNat_le, ← UInt8.toNat_inj]
      omega
    obtain ⟨digit, colon⟩ := checked byte other
    exact not_mem_portText digit colon port
  obtain ⟨address, rfl⟩ | ⟨plain, inside⟩ := parseHostport_cases parsed reparses
  · refine ⟨parseHostport_ipv6 reparses port, ?_⟩
    intro byte absent other opening closing member
    obtain written | written := mem_append.mp member
    · simp only [Host.render, mem_append, mem_cons, not_mem_nil, or_false] at written
      obtain (rfl | written) | rfl := written
      · exact opening rfl
      · rw [mem_renderIpv6 written] at other
        cases other
      · exact closing rfl
    · exact notPort byte other written
  · refine ⟨plain.parseHostport port, ?_⟩
    intro byte absent other opening closing member
    obtain written | written := mem_append.mp member
    · obtain received | decimal := inside byte written
      · exact absent received
      · rw [isIpv6Byte_of_isIpv4Byte decimal] at other
        cases other
    · exact notPort byte other written

/-- The user part with its separator. -/
def userinfoText : Option Bytes → Bytes
  | some userinfo => userinfo ++ [64]
  | none => []

/-- What follows the user part may be any text without `@`. -/
theorem splitUserinfo_eq_ok
    {remainder : Bytes} {userinfo : Option Bytes}
    (splits : splitUserinfo input = .ok (userinfo, remainder)) :
    input = userinfoText userinfo ++ remainder ∧ 64 ∉ remainder ∧ ∀ other, 64 ∉ other →
        splitUserinfo (userinfoText userinfo ++ other) = .ok (userinfo, other) := by
  rw [splitUserinfo] at splits
  cases sign : cut 64 input with
  | none =>
    simp only [sign] at splits
    cases splits
    refine ⟨rfl, cut_eq_none.mp sign, fun other absent => ?_⟩
    simp [splitUserinfo, userinfoText, cut_eq_none.mpr absent]
  | some parts =>
    obtain ⟨before, after⟩ := parts
    obtain ⟨rfl, first⟩ := cut_eq_some.mp sign
    simp only [sign] at splits
    split_ifs at splits with second empty
    cases splits
    rw [contains_iff_mem] at second
    refine ⟨by simp [userinfoText], second, fun other absent => ?_⟩
    have again : cut 64 (userinfoText (some before) ++ other) = some (before, other) :=
      cut_eq_some.mpr ⟨by simp [userinfoText], first⟩
    simp only [splitUserinfo, again]
    rw [if_neg (by simpa using absent), if_neg empty]

/-- The text begins with a byte that ends the host and port. -/
def EndsHostport (tail : Bytes) : Prop := ∀ byte ∈ tail.head?, endsHostport byte = true

/-- The host and port end where the parameters or headers begin. -/
theorem takeWhile_hostport
    {hostport tail : Bytes} (semicolon : 59 ∉ hostport) (question : 63 ∉ hostport)
    (ends : EndsHostport tail) :
    (hostport ++ tail).takeWhile (!endsHostport ·) = hostport ∧
      (hostport ++ tail).dropWhile (!endsHostport ·) = tail := by
  have inside : ∀ byte ∈ hostport, (!endsHostport byte) = true := by
    intro byte member
    have first : byte ≠ 59 := fun same => semicolon (same ▸ member)
    have second : byte ≠ 63 := fun same => question (same ▸ member)
    simp [endsHostport, first, second]
  rw [takeWhile_append_of_pos inside, dropWhile_append_of_pos inside]
  cases tail with
  | nil => exact ⟨append_nil _, rfl⟩
  | cons byte tail => simp [ends byte rfl]

/-- The parts of a SIP URI: the URI before its parameters, the text of the host and
port, and what follows it.  From other texts in their places the same is parsed. -/
structure SipUri.Parts
    (scheme : SipScheme) (input : Bytes) (uri named : SipUri) (hostport tail : Bytes) : Prop where
  known : named.scheme = scheme
  begun : named.Begun
  tails : parseTail named tail = .ok uri
  hosts : parseHostport hostport = .ok (named.host, named.port)
  received : input = named.renderUser ++ hostport ++ tail
  outside : 59 ∉ hostport ∧ 63 ∉ hostport ∧ 64 ∉ hostport ∧ 64 ∉ tail
  ends : EndsHostport tail
  respelled : ∀ other more, parseHostport other = .ok (named.host, named.port) →
    59 ∉ other → 63 ∉ other → 64 ∉ other → 64 ∉ more → EndsHostport more →
    parseSipUri scheme (named.renderUser ++ other ++ more) = parseTail named more

theorem parseSipUri_parts (parsed : parseSipUri scheme input = .ok uri) :
    ∃ named hostport tail, Parts scheme input uri named hostport tail := by
  rw [parseSipUri] at parsed
  have parsed := returned_of_refusal parsed
  obtain ⟨⟨userinfo, remainder⟩, splits, parsed⟩ := bind_eq_ok.mp parsed
  obtain ⟨⟨host, port⟩, hosts, parsed⟩ := bind_eq_ok.mp parsed
  have bare : (new scheme host).Built := ⟨nofun, nofun, nofun, nofun⟩
  have taken : ∃ named, userinfo.elim (.ok (new scheme host))
      (applyUserinfo (new scheme host)) = .ok named ∧
      parseTail { named with port := port } (remainder.dropWhile (!endsHostport ·)) = .ok uri := by
    cases userinfo with
    | none => exact ⟨_, rfl, parsed⟩
    | some userinfo => exact bind_eq_ok.mp parsed
  obtain ⟨named, names, tails⟩ := taken
  have user : named = { new scheme host with
      user := named.user, password := named.password } ∧
      named.renderUser = userinfoText userinfo ∧ named.Built := by
    cases userinfo with
    | none =>
      cases names
      exact ⟨rfl, rfl, bare⟩
    | some userinfo => exact applyUserinfo_eq_ok rfl bare names
  obtain ⟨fields, written, built⟩ := user
  obtain ⟨received, sign, again⟩ := splitUserinfo_eq_ok splits
  have outside (byte : UInt8) (ends : endsHostport byte = true) :
      byte ∉ remainder.takeWhile (!endsHostport ·) := by
    intro member
    have passed := mem_takeWhile_imp member
    simp [ends] at passed
  refine ⟨{ named with port := port }, remainder.takeWhile (!endsHostport ·),
    remainder.dropWhile (!endsHostport ·), ?_, ?_, tails, ?_, ?_, ?_, ?_, ?_⟩
  · rw [fields]
    rfl
  · exact { built with noParameters := by rw [fields]; rfl, noHeaders := by rw [fields]; rfl }
  · rw [hosts, fields]
    rfl
  · rw [append_assoc, takeWhile_append_dropWhile, received, ← written]
    rfl
  · exact ⟨outside 59 (by decide), outside 63 (by decide),
      fun member => sign ((takeWhile_sublist _).subset member),
      fun member => sign ((dropWhile_sublist _).subset member)⟩
  · intro byte first
    have stops := head?_dropWhile_not (!endsHostport ·) remainder
    rw [Option.mem_def.mp first] at stops
    simpa using stops
  · intro other more otherHosts semicolon question absent noSign ends
    obtain ⟨front, back⟩ := takeWhile_hostport semicolon question ends
    rw [fields] at otherHosts
    have nonempty : other ≠ [] := by
      rintro rfl
      cases otherHosts
    have noSign : 64 ∉ other ++ more := by simp [absent, noSign]
    rw [parseSipUri, if_neg (by simp [nonempty]), append_assoc,
      show renderUser { named with port := port } = userinfoText userinfo from written,
      again _ noSign]
    simp only [ok_bind, front, back, otherHosts]
    cases userinfo with
    | none =>
      cases names
      rfl
    | some userinfo =>
      have names : applyUserinfo (new scheme host) userinfo = .ok named := names
      show applyUserinfo (new scheme host) userinfo >>= _ = _
      rw [names]
      rfl

/-- A SIP URI keeps what was received around its host and port, and is parsed from
any other spelling of these between the same texts. -/
theorem parseSipUri_eq_ok (parsed : parseSipUri scheme input = .ok uri) :
    uri.scheme = scheme ∧ uri.Built ∧
    ∃ hostport, parseHostport hostport = .ok (uri.host, uri.port) ∧
      input = uri.renderUser ++ hostport ++
        ((uri.parameters.flatMap fun parameter => 59 :: parameter.render) ++ uri.renderHeaders) ∧
      59 ∉ hostport ∧ 63 ∉ hostport ∧ 64 ∉ hostport ∧
      ∀ other, parseHostport other = .ok (uri.host, uri.port) →
        59 ∉ other → 63 ∉ other → 64 ∉ other →
        parseSipUri scheme (uri.renderUser ++ other ++
          ((uri.parameters.flatMap fun parameter => 59 :: parameter.render) ++
            uri.renderHeaders)) = .ok uri := by
  obtain ⟨named, hostport, tail, parts⟩ := parseSipUri_parts parsed
  obtain ⟨same, written, built, -⟩ := parseTail_eq_ok parts.begun parts.tails
  obtain ⟨semicolon, question, sign, tailSign⟩ := parts.outside
  have sameUser : uri.renderUser = named.renderUser := by
    rw [same]
    rfl
  have sameHost : (uri.host, uri.port) = (named.host, named.port) := by rw [same]
  refine ⟨by rw [same]; exact parts.known, built, hostport, ?_⟩
  rw [sameHost, sameUser, written]
  refine ⟨parts.hosts, parts.received, semicolon, question, sign, ?_⟩
  intro other hosts semicolon question sign
  exact (parts.respelled other tail hosts semicolon question sign tailSign parts.ends).trans
    parts.tails

theorem renderPort_eq (uri : SipUri) : uri.renderPort = portText uri.port := by
  rw [renderPort]
  cases uri.port <;> rfl

/-- The text of a parsed SIP URI after its scheme is parsed as the URI. -/
theorem parseSipUri_render
    (parsed : parseSipUri scheme input = .ok uri) (reparses : uri.host.Reparses) :
    ∃ rest, uri.render = wireBytes scheme.asStr ++ 58 :: rest ∧
      parseSipUri scheme rest = .ok uri := by
  obtain ⟨rfl, -, hostport, hosts, -, semicolon, question, sign, respelled⟩ :=
    parseSipUri_eq_ok parsed
  obtain ⟨again, outside⟩ := parseHostport_render hosts reparses
  have parses := respelled _ again (outside 59 semicolon (by decide) (by decide) (by decide))
    (outside 63 question (by decide) (by decide) (by decide))
    (outside 64 sign (by decide) (by decide) (by decide))
  refine ⟨_, ?_, parses⟩
  simp [render, renderPort_eq]

theorem pushHeaders_append (uri : SipUri) (first second : List Bytes) :
    pushHeaders uri (first ++ second) = pushHeaders uri first >>= (pushHeaders · second) := by
  induction first generalizing uri with
  | nil => rfl
  | cons raw first ih =>
    rw [cons_append, pushHeaders, pushHeaders]
    split_ifs
    · rfl
    · cases parseHeader raw with
      | error error => rfl
      | ok header =>
        simp only [ok_bind]
        cases (uri.pushHeader header).mapError mapBuildError with
        | error error => rfl
        | ok grown => exact ih grown

/-- The byte that a further header stands behind. -/
def SipUri.separator (uri : SipUri) : UInt8 := if uri.headers = [] then 63 else 38

/-- A header is added to the tail of a URI behind its separator. -/
theorem parseTail_addHeader
    {raw : Bytes} (begun : uri.Begun) (parsed : parseTail uri input = .ok next)
    (reads : parseHeader raw = .ok header) (single : 38 ∉ raw)
    (room : next.headers.length < maxUriHeaders) :
    parseTail uri (input ++ next.separator :: raw) =
      .ok { next with headers := next.headers ++ [header] } := by
  obtain ⟨-, -, -, noHeaders⟩ := parseTail_eq_ok begun parsed
  have nonempty : raw ≠ [] := by
    rintro rfl
    cases reads
  have adds {uri : SipUri} (room : uri.headers.length < maxUriHeaders) :
      pushHeaders uri [raw] = .ok { uri with headers := uri.headers ++ [header] } := by
    rw [pushHeaders, if_neg nonempty, reads, ok_bind, pushHeader, if_neg (by omega)]
    rfl
  have first {uri : SipUri} (room : uri.headers.length < maxUriHeaders) :
      parseHeaders uri raw = .ok { uri with headers := uri.headers ++ [header] } := by
    rw [parseHeaders, if_neg nonempty, splitOn_eq_singleton single, adds room]
  rw [parseTail] at parsed
  rw [parseTail, if_neg (by simp)]
  split_ifs at parsed with nothing
  · cases parsed
    rw [separator, if_pos begun.noHeaders, nothing, nil_append,
      cut_eq_some.mpr ⟨(nil_append _).symm, by simp⟩]
    simpa only [parseParameterPart, if_true, ok_bind] using first room
  cases question : cut 63 input with
  | none =>
    simp only [question] at parsed
    obtain ⟨middle, taken, returned⟩ := bind_eq_ok.mp parsed
    cases returned
    have absent := cut_eq_none.mp question
    rw [separator, if_pos (noHeaders.mpr absent), cut_eq_some.mpr ⟨rfl, absent⟩]
    simpa only [taken, ok_bind] using first room
  | some parts =>
    obtain ⟨before, after⟩ := parts
    obtain ⟨rfl, absent⟩ := cut_eq_some.mp question
    simp only [question] at parsed
    obtain ⟨middle, taken, parsed⟩ := bind_eq_ok.mp parsed
    rw [separator, if_neg (by rw [noHeaders]; simp), append_assoc,
      cons_append, cut_eq_some.mpr ⟨rfl, absent⟩]
    simp only [taken, ok_bind]
    rw [parseHeaders] at parsed
    rw [parseHeaders, if_neg (by simp), splitOn_append_cons_self,
      splitOn_eq_singleton single, pushHeaders_append, returned_of_refusal parsed, ok_bind]
    exact adds room

/-- A header is added to the text of a URI behind its separator. -/
theorem parseSipUri_addHeader {raw : Bytes}
    (parsed : parseSipUri scheme input = .ok uri)
    (reads : parseHeader raw = .ok header) (single : 38 ∉ raw) (unsigned : 64 ∉ raw)
    (room : uri.headers.length < maxUriHeaders) :
    parseSipUri scheme (input ++ uri.separator :: raw) =
      .ok { uri with headers := uri.headers ++ [header] } := by
  obtain ⟨named, hostport, tail, parts⟩ := parseSipUri_parts parsed
  obtain ⟨-, -, -, noHeaders⟩ := parseTail_eq_ok parts.begun parts.tails
  obtain ⟨semicolon, question, sign, tailSign⟩ := parts.outside
  have other : uri.separator ≠ 64 := by
    rw [separator]
    split_ifs <;> decide
  have ends : EndsHostport (tail ++ uri.separator :: raw) := by
    cases tail with
    | nil =>
      rw [separator, if_pos (noHeaders.mpr (by simp))]
      rintro _ ⟨⟩
      rfl
    | cons byte tail => exact parts.ends
  rw [parts.received, append_assoc]
  rw [parts.respelled hostport _ parts.hosts semicolon question sign
    (by simp [tailSign, unsigned, other.symm]) ends]
  exact parseTail_addHeader parts.begun parts.tails reads single room

/-- Without a question mark after the user part no text is read as a header. -/
theorem noHeaders_of_append {raw : Bytes} (parsed : parseSipUri scheme input = .ok uri)
    (none : uri.headers = []) (unquestioned : 63 ∉ raw)
    (extended : parseSipUri scheme (input ++ raw) = .ok next)
    (same : next.renderUser = uri.renderUser) :
    next.headers = [] := by
  obtain ⟨named, hostport, tail, parts⟩ := parseSipUri_parts parsed
  obtain ⟨named', hostport', tail', parts'⟩ := parseSipUri_parts extended
  obtain ⟨kept, -, -, noHeaders⟩ := parseTail_eq_ok parts.begun parts.tails
  obtain ⟨kept', -, -, noHeaders'⟩ := parseTail_eq_ok parts'.begun parts'.tails
  have user : named.renderUser = named'.renderUser := by
    rw [kept, kept'] at same
    exact same.symm
  have received := parts'.received
  rw [parts.received, ← user] at received
  simp only [append_assoc, append_cancel_left_eq] at received
  refine noHeaders'.mpr fun member => ?_
  have among : 63 ∈ hostport ++ (tail ++ raw) := by
    rw [received]
    exact mem_append_right _ member
  simp only [mem_append, unquestioned, or_false] at among
  exact among.elim parts.outside.2.1 (noHeaders.mp none)

/-- A URI of another scheme is its own text. -/
theorem parseAbsoluteUri_eq_ok
    {scheme value : Bytes} {uri : AbsoluteUri} (parsed : parseAbsoluteUri scheme value = .ok uri) :
    uri.render = scheme ++ 58 :: value := by
  rw [parseAbsoluteUri] at parsed
  have parsed := returned_of_refusal (returned_of_refusal parsed)
  obtain ⟨schemeText, readScheme, parsed⟩ := bind_eq_ok.mp parsed
  obtain ⟨valueText, readValue, makes⟩ := bind_eq_ok.mp parsed
  rw [mapError_eq_ok, AbsoluteUri.new] at makes
  have makes := returned_of_refusal (returned_of_refusal (returned_of_refusal makes))
  cases makes
  rw [AbsoluteUri.render, wireBytes_of_readText readScheme, wireBytes_of_readText readValue]

/-- The text of a SIP scheme selects the scheme. -/
theorem parseUri_of_scheme
    (scheme : SipScheme) {rest : Bytes}
    (small : (wireBytes scheme.asStr ++ 58 :: rest).length ≤ maxUriBytes) :
    parseUri (wireBytes scheme.asStr ++ 58 :: rest) = (parseSipUri scheme rest).map .sip := by
  have colon : 58 ∉ wireBytes scheme.asStr := by
    cases scheme <;> decide +kernel
  have separated : cut 58 (wireBytes scheme.asStr ++ 58 :: rest) =
      some (wireBytes scheme.asStr, rest) := cut_eq_some.mpr ⟨rfl, colon⟩
  have valid : validateScheme (wireBytes scheme.asStr) = true := by
    cases scheme <;> decide +kernel
  rw [parseUri, if_neg (by simp), if_neg (by omega)]
  simp only [separated]
  rw [if_neg (by simp [valid])]
  cases scheme with
  | sip => rw [if_pos (by decide +kernel)]
  | sips => rw [if_neg (by decide +kernel), if_pos (by decide +kernel)]

/-- A parsed URI is a SIP URI, or of another scheme and its own text. -/
theorem parseUri_eq_ok {uri : Uri} (parsed : parseUri input = .ok uri) :
    (∃ scheme value known sip, input = scheme ++ 58 :: value ∧ uri = .sip sip ∧
        parseSipUri known value = .ok sip) ∨
      ∃ scheme value absolute, input = scheme ++ 58 :: value ∧ uri = .absolute absolute ∧
        validateScheme scheme = true ∧ parseAbsoluteUri scheme value = .ok absolute := by
  rw [parseUri] at parsed
  have parsed := returned_of_refusal (returned_of_refusal parsed)
  cases colon : cut 58 input with
  | none => simp [colon] at parsed
  | some parts =>
    obtain ⟨scheme, value⟩ := parts
    obtain ⟨rfl, -⟩ := cut_eq_some.mp colon
    simp only [colon] at parsed
    split_ifs at parsed with invalid sip sips
    · obtain ⟨found, parses, rfl⟩ := map_eq_ok.mp parsed
      exact .inl ⟨scheme, value, .sip, found, rfl, rfl, parses⟩
    · obtain ⟨found, parses, rfl⟩ := map_eq_ok.mp parsed
      exact .inl ⟨scheme, value, .sips, found, rfl, rfl, parses⟩
    · obtain ⟨found, parses, rfl⟩ := map_eq_ok.mp parsed
      exact .inr ⟨scheme, value, found, rfl, rfl, by simpa using invalid, parses⟩

/-- The text of a parsed SIP URI is parsed as the URI. -/
theorem parseUri_sip_render
    {known : SipScheme} {value : Bytes} {sip : SipUri} (found : parseSipUri known value = .ok sip)
    (small : sip.render.length ≤ maxUriBytes) (reparses : sip.host.Reparses) :
    parseUri sip.render = .ok (.sip sip) := by
  obtain ⟨rest, written, again⟩ := parseSipUri_render found reparses
  rw [written] at small ⊢
  rw [parseUri_of_scheme known small, again]
  rfl

/-- The text of a parsed URI is parsed as the same URI. -/
theorem parseUri_render
    {input : Bytes} {uri : Uri} (parsed : parseUri input = .ok uri)
    (small : uri.render.length ≤ maxUriBytes)
    (reparses : ∀ sip, uri = .sip sip → sip.host.Reparses) :
    parseUri uri.render = .ok uri := by
  obtain ⟨_, _, known, sip, -, rfl, found⟩ | ⟨_, _, absolute, rfl, rfl, -, found⟩ :=
    parseUri_eq_ok parsed
  · exact parseUri_sip_render found small (reparses sip rfl)
  · rwa [Uri.render, parseAbsoluteUri_eq_ok found]

/-- A text whose scheme, address and port are respelled. -/
def sampleUriText : Bytes := wireBytes "SIP:alice;x=1:pw@[2001:DB8:0:0:0:0:0:1]:05060;lr?a=b"

/-- The URI that the text names. -/
def sampleUri : SipUri where
  scheme := .sip
  user := some "alice;x=1"
  password := some "pw"
  host := .ipv6 0x20010db8000000000000000000000001
  port := some 5060
  parameters := [⟨"lr", none⟩]
  headers := [⟨"a", "b"⟩]

theorem parseUri_render_sampleUri :
    parseUri sampleUriText = .ok (.sip sampleUri) ∧
      sampleUri.render = wireBytes "sip:alice;x=1:pw@[2001:db8::1]:5060;lr?a=b" ∧
      parseUri sampleUri.render = .ok (.sip sampleUri) := by
  have parsed : parseUri sampleUriText = .ok (.sip sampleUri) := by decide +kernel
  have text : sampleUri.render = wireBytes "sip:alice;x=1:pw@[2001:db8::1]:5060;lr?a=b" := by
    decide +kernel
  refine ⟨parsed, text, parseUri_render parsed ?_ ?_⟩
  · decide +kernel
  · intro sip same
    cases same
    show parseIpv6Addr _ = _
    decide +kernel

end Sip
end LiveAISIP
