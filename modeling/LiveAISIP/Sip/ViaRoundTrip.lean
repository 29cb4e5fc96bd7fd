import LiveAISIP.Sip.UriRoundTrip
import LiveAISIP.Sip.Via

/-!
# Via values as text

A Via value is parsed from its text, and the fields that a message splits its list
over are parsed as one field that joins them with commas.
-/

namespace LiveAISIP
namespace Sip
namespace Headers

open Ascii Outcome Quoted Text
open List ProtocolVersion SentProtocol

variable {input value text rest : Bytes} {name : String} {host : Host} {parameter : ViaParameter}
  {budget left : ParseBudget} {entry after : ViaEntry} {slots : Nat}

/-- A token passes its check whatever the errors are. -/
theorem validateToken_eq_ok
    {maximum : Nat}
    {missing : ViaParseError}
    {tooLong : Nat → Nat → ViaParseError}
    {invalid : Nat → UInt8 → ViaParseError} {value : Unit} :
    validateToken input maximum missing tooLong invalid = .ok value ↔
      input ≠ [] ∧ input.length ≤ maximum ∧ input.all isTokenByte = true := by
  have scan : (input.findIdx? fun byte => !isTokenByte byte) = none ↔
      input.all isTokenByte = true := by
    simp [findIdx?_eq_none_iff]
  simp only [validateToken, bind_eq_ok, ensure_eq_ok, exists_const]
  rw [← scan]
  cases found : input.findIdx? fun byte => !isTokenByte byte <;> simp

/-- The bytes of a text are read as the text. -/
theorem readViaText_wireBytes (text : String) (error : ViaParseError) :
    readViaText (wireBytes text) error = .ok text := by
  rw [readViaText, wireBytes, fromUtf8_toUTF8]

theorem wireBytes_of_readViaText {error : ViaParseError} {text : String}
    (read : readViaText input error = .ok text) :
    wireBytes text = input := by
  unfold readViaText at read
  cases decoded : fromUtf8 input with
  | none => simp [decoded] at read
  | some found =>
    simp only [decoded, Except.ok.injEq] at read
    subst read
    exact toUTF8_of_fromUtf8 decoded

/-- A byte of a token is none of the separators of a Via value. -/
theorem token_byte_spec {byte : UInt8} (token : isTokenByte byte = true) :
    isWsp byte = false ∧ byte ≠ 59 ∧ byte ≠ 34 ∧ byte ≠ 44 ∧ byte ≠ 47 ∧ byte ≠ 61 ∧ byte ≠ 91 := by
  have checked : ∀ byte, isTokenByte byte = true →
      isWsp byte = false ∧ byte ≠ 59 ∧ byte ≠ 34 ∧ byte ≠ 44 ∧ byte ≠ 47 ∧
        byte ≠ 61 ∧ byte ≠ 91 := by
    intro byte
    simp [isTokenByte, isWsp, UInt8.le_iff_toNat_le, ← UInt8.toNat_inj]
    omega
  exact checked byte token

/-- A nonempty text without space and without the separators of a Via value. -/
structure Bare (text : Bytes) : Prop where
  nonempty : text ≠ []
  solid : ∀ byte ∈ text, isWsp byte = false
  unseparated : ∀ byte ∈ text, byte ≠ 59
  unquoted : ∀ byte ∈ text, byte ≠ 34 ∧ byte ≠ 44

theorem bare_of_forall
    (class_ : UInt8 → Bool)
    (apart : ∀ byte, class_ byte = true → isWsp byte = false ∧ byte ≠ 59 ∧ byte ≠ 34 ∧ byte ≠ 44)
    (nonempty : text ≠ [])
    (all : text.all class_ = true) :
    Bare text := by
  have each (byte : UInt8) (member : byte ∈ text) :=
    apart byte (all_eq_true.mp all byte member)
  exact ⟨nonempty, fun byte member => (each byte member).1,
    fun byte member => (each byte member).2.1, fun byte member => (each byte member).2.2⟩

theorem bare_of_token (nonempty : text ≠ []) (token : text.all isTokenByte = true) : Bare text :=
  bare_of_forall isTokenByte (fun _ inside =>
    ⟨(token_byte_spec inside).1, (token_byte_spec inside).2.1,
      (token_byte_spec inside).2.2.1, (token_byte_spec inside).2.2.2.1⟩)
    nonempty token

theorem bare_digits (value : Nat) : Bare (digits value) := by
  refine bare_of_token (digits_ne_nil value) ?_
  have checked : ∀ byte, isDigit byte = true → isTokenByte byte = true := by
    intro byte
    simp [isDigit, isTokenByte, UInt8.le_iff_toNat_le, ← UInt8.toNat_inj]
    omega
  rw [all_eq_true]
  exact fun byte member => checked byte (isDigit_of_mem_digits member)

/-- A bare value ends at the next semicolon. -/
theorem Bare.takeUnquotedValue (bare : Bare value) (ends : ∀ byte ∈ rest.head?, byte = 59) :
    Headers.takeUnquotedValue (value ++ rest) = .ok (value, rest) := by
  obtain ⟨front, back⟩ := span_front rest
    (fun byte member => by simpa using bare.unseparated byte member :
      ∀ byte ∈ value, (byte != 59) = true)
    (fun byte member => by rw [ends byte member]; rfl)
  rw [Headers.takeUnquotedValue, front, back, trim_of_forall bare.solid, ensure_of bare.nonempty]
  rfl

/-- The text does not begin with space. -/
theorem Bare.trimStart_append (bare : Bare value) (rest : Bytes) :
    trimStart (value ++ rest) = value ++ rest := by
  obtain ⟨first, others, same⟩ := exists_cons_of_ne_nil bare.nonempty
  refine trimStart_of_head fun byte member => ?_
  rw [same] at member
  cases member
  exact bare.solid first (by rw [same]; simp)

theorem Bare.requireParameterValue (bare : Bare value) (rest : Bytes) :
    Headers.requireParameterValue (61 :: (value ++ rest)) = .ok (value ++ rest) := by
  have equals : trimStart (61 :: (value ++ rest)) = 61 :: (value ++ rest) :=
    trimStart_of_head (by simp [isWsp])
  have filled : value ++ rest ≠ [] := by simp [bare.nonempty]
  simp only [Headers.requireParameterValue, equals, bare.trimStart_append,
    ensure_of filled, ok_bind]
  rfl

/-- A protocol name is parsed again from its text, which is a token. -/
theorem ProtocolName.fromBytes_asStr
    {name : ProtocolName}
    (parsed : ProtocolName.fromBytes input = .ok name) :
    ProtocolName.fromBytes (wireBytes name.asStr) = .ok name ∧
      (wireBytes name.asStr).all isTokenByte = true ∧ wireBytes name.asStr ≠ [] := by
  have again := parsed
  simp only [ProtocolName.fromBytes, bind_eq_ok] at parsed
  obtain ⟨_, valid, parsed⟩ := parsed
  obtain ⟨nonempty, -, token⟩ := validateToken_eq_ok.mp valid
  split_ifs at parsed with standard
  · cases parsed
    exact ⟨by decide +kernel, by decide +kernel, by decide +kernel⟩
  · obtain ⟨text, read, rfl⟩ := map_eq_ok.mp parsed
    rw [ProtocolName.asStr, wireBytes_of_readViaText read]
    exact ⟨again, token, nonempty⟩

theorem ProtocolVersion.fromBytes_asStr {version : ProtocolVersion}
    (parsed : fromBytes input = .ok version) :
    fromBytes (wireBytes version.asStr) = .ok version ∧
      (wireBytes version.asStr).all isTokenByte = true ∧ wireBytes version.asStr ≠ [] := by
  have again := parsed
  simp only [fromBytes, bind_eq_ok] at parsed
  obtain ⟨_, valid, parsed⟩ := parsed
  obtain ⟨nonempty, -, token⟩ := validateToken_eq_ok.mp valid
  split_ifs at parsed with standard
  · cases parsed
    exact ⟨by decide +kernel, by decide +kernel, by decide +kernel⟩
  · obtain ⟨text, read, rfl⟩ := map_eq_ok.mp parsed
    rw [asStr, wireBytes_of_readViaText read]
    exact ⟨again, token, nonempty⟩

theorem ViaTransport.fromBytes_asStr {transport : ViaTransport}
    (parsed : ViaTransport.fromBytes input = .ok transport) :
    ViaTransport.fromBytes (wireBytes transport.asStr) = .ok transport ∧
      (wireBytes transport.asStr).all isTokenByte = true ∧ wireBytes transport.asStr ≠ [] := by
  have again := parsed
  simp only [ViaTransport.fromBytes, bind_eq_ok] at parsed
  obtain ⟨_, valid, parsed⟩ := parsed
  obtain ⟨nonempty, -, token⟩ := validateToken_eq_ok.mp valid
  split_ifs at parsed
  case neg =>
    obtain ⟨text, read, rfl⟩ := map_eq_ok.mp parsed
    rw [ViaTransport.asStr, wireBytes_of_readViaText read]
    exact ⟨again, token, nonempty⟩
  all_goals
    cases parsed
    exact ⟨by decide +kernel, by decide +kernel, by decide +kernel⟩

/-- What the text of a sent protocol needs in order to be parsed again. -/
structure SentProtocol.Valid (protocol : SentProtocol) : Prop where
  parses : parseSentProtocol protocol.render = .ok protocol
  bare : Bare protocol.render

theorem SentProtocol.valid_of_parse
    {protocol : SentProtocol}
    (parsed : parseSentProtocol input = .ok protocol) :
    protocol.Valid := by
  unfold parseSentProtocol at parsed
  cases slash : cut 47 input with
  | none => simp [slash] at parsed
  | some parts =>
    obtain ⟨name, rest⟩ := parts
    cases second : cut 47 rest with
    | none => simp [slash, second] at parsed
    | some parts =>
      obtain ⟨version, transport⟩ := parts
      simp only [slash, second, bind_eq_ok] at parsed
      obtain ⟨-, -, name, parsedName, version, parsedVersion, transport,
        parsedTransport, made⟩ := parsed
      cases made
      obtain ⟨nameAgain, nameToken, nameFilled⟩ := ProtocolName.fromBytes_asStr parsedName
      obtain ⟨versionAgain, versionToken, -⟩ := fromBytes_asStr parsedVersion
      obtain ⟨transportAgain, transportToken, -⟩ := ViaTransport.fromBytes_asStr parsedTransport
      have unslashed {text : Bytes} (token : text.all isTokenByte = true) : 47 ∉ text := by
        intro member
        have byte := all_eq_true.mp token 47 member
        cases byte
      refine ⟨?_, ?_⟩
      · have first : cut 47 (render ⟨name, version, transport⟩) =
            some (wireBytes name.asStr, wireBytes version.asStr ++
              47 :: wireBytes transport.asStr) :=
          cut_eq_some.mpr ⟨by simp [render], unslashed nameToken⟩
        have second : cut 47 (wireBytes version.asStr ++ 47 :: wireBytes transport.asStr) =
              some (wireBytes version.asStr, wireBytes transport.asStr) :=
          cut_eq_some.mpr ⟨rfl, unslashed versionToken⟩
        simp only [parseSentProtocol, first, second,
          ensure_of (unslashed transportToken), nameAgain, versionAgain,
          transportAgain, ok_bind]
        rfl
      · refine bare_of_forall (fun byte => isTokenByte byte || byte == 47)
          (forall_byte (by decide +kernel)) (by simp [render]) ?_
        simp only [render, all_append, all_cons, Bool.and_eq_true]
        have wider {text : Bytes} (token : text.all isTokenByte = true) :
            (text.all fun byte => isTokenByte byte || byte == 47) = true := by
          rw [all_eq_true] at token ⊢
          exact fun byte member => by simp [token byte member]
        exact ⟨⟨wider nameToken, by decide, wider versionToken⟩, by decide, wider transportToken⟩

theorem parseViaPort_eq_ok {port : UInt16} :
    parseViaPort input = .ok port ↔ parsePort input = .ok port := mapError_eq_ok

/-- What the text of a host needs in order to be parsed again as a value. -/
structure HostText (host : Host) : Prop where
  parses : parseViaHost host.render = some host
  bare : Bare host.render

/-- A host without brackets is the same for both parsers. -/
theorem parseViaHost_eq_some (unbracketed : input.head? ≠ some 91) :
    parseViaHost input = some host ↔ parseHost input = .ok host := by
  unfold parseViaHost parseHost
  by_cases empty : input = []
  · simp [empty]
  · rw [if_neg empty, if_neg empty, if_neg unbracketed]
    unfold readText
    cases fromUtf8 input with
    | none => simp
    | some text =>
      simp only [Option.bind_eq_bind, Option.bind_some, ok_bind]
      cases parseIpv4Addr (wireBytes text) with
      | some address =>
        constructor <;> intro same <;> cases same <;> rfl
      | none =>
        simp only [mapError_eq_ok]
        cases Host.fromDomain text <;> simp [Except.toOption]

theorem hostText_ipv6
    {address : BitVec 128} (reparses : parseIpv6Addr (renderIpv6 address) = some address) :
    HostText (.ipv6 address) := by
  have nonempty : renderIpv6 address ≠ [] := by
    intro empty
    rw [empty] at reparses
    cases reparses
  have ascii : ∀ byte ∈ renderIpv6 address, byte < 128 := fun byte member =>
    ascii_of_isIpv6Byte (mem_renderIpv6 member)
  obtain ⟨text, read⟩ := fromUtf8_of_ascii ascii
  have same : wireBytes text = renderIpv6 address := toUTF8_of_fromUtf8 read
  have long : ¬((Host.ipv6 address).render.getLast? ≠ some 93 ∨
      (Host.ipv6 address).render.length < 3) := by
    have positive := length_pos_iff.mpr nonempty
    simp only [Host.render, getLast?_concat, length_append, length_cons,
      length_nil, ne_eq, not_true, false_or]
    omega
  have inner : (Host.ipv6 address).render.tail.dropLast = renderIpv6 address := by
    simp [Host.render]
  refine ⟨?_, ?_⟩
  · rw [parseViaHost, if_neg (by simp [Host.render]), if_pos (by simp [Host.render]),
      if_neg long, inner, readViaIpv6, read, Option.bind_some, same, reparses]
    rfl
  · refine bare_of_forall
      (fun byte => isIpv6Byte byte || byte == 91 || byte == 93)
      (forall_byte (by decide +kernel)) (by simp [Host.render]) ?_
    rw [all_eq_true]
    intro byte member
    simp only [Host.render, mem_append, mem_cons, not_mem_nil, or_false] at member
    rcases member with (rfl | member) | rfl
    · decide
    · simp [mem_renderIpv6 member]
    · decide

/-- A parsed host is parsed again from its text. -/
theorem hostText_of_parse (parsed : parseViaHost input = some host)
    (reparses : host.Reparses) :
    HostText host := by
  by_cases bracketed : input.head? = some 91
  · rw [parseViaHost] at parsed
    split_ifs at parsed
    obtain ⟨address, -, rfl⟩ := Option.map_eq_some_iff.mp parsed
    exact hostText_ipv6 reparses
  · have again := (parseViaHost_eq_some bracketed).mp parsed
    obtain ⟨nonempty, ⟨name, rfl, rfl⟩ | ⟨address, rfl⟩⟩ := parseHost_eq_ok again
    · refine ⟨parsed, bare_of_token nonempty ?_⟩
      simp only [parseHost, if_neg nonempty, readText_wireBytes, ok_bind] at again
      cases address : parseIpv4Addr (wireBytes name) with
      | some found =>
        simp only [address] at again
        cases again
      | none =>
        simp only [address, mapError_eq_ok, Host.fromDomain] at again
        split_ifs at again with valid
        exact token_of_isValidHostname valid
    · have plain := Host.plain_ipv4 reparses
      have front : (Host.ipv4 address).render.head? ≠ some 91 := fun head =>
        plain.unbracketed.1 (mem_of_head? head)
      refine ⟨(parseViaHost_eq_some front).mpr plain.parses, ?_⟩
      exact bare_of_forall isIpv4Byte (forall_byte (by decide +kernel))
        plain.nonempty (all_renderIpv4 address)

/-- The host of a sent-by part without brackets is the host of a URI. -/
theorem bareSentBy_eq_ok
    {front : Bytes} (unbracketed : front.head? ≠ some 91) {port : Option UInt16}
    {hostport : Host × Option UInt16} :
    (match parseViaHost front with
      | none => .error .invalidSentByHost
      | some host => return (host, port) :
        Except ViaParseError (Host × Option UInt16)) = .ok hostport ↔
    (do
      let host ← parseHost front
      return (host, port) : Except UriParseError (Host × Option UInt16)) = .ok hostport := by
  cases found : parseViaHost front with
  | some host =>
    rw [(parseViaHost_eq_some unbracketed).mp found]
    simp [pure, Except.pure]
  | none =>
    cases other : parseHost front with
    | error error => simp
    | ok host =>
      rw [(parseViaHost_eq_some unbracketed).mpr other] at found
      cases found

/-- The sent-by part is what the host and port of a URI are. -/
theorem parseSentBy_eq_ok {hostport : Host × Option UInt16} :
    parseSentBy input = .ok hostport ↔ parseHostport input = .ok hostport := by
  unfold parseSentBy parseHostport
  by_cases empty : input = []
  · simp [empty]
  rw [if_neg empty, if_neg empty]
  by_cases bracketed : input.head? = some 91
  · rw [if_pos bracketed, if_pos bracketed, parseIpv6SentBy, parseIpv6Hostport]
    cases cut 93 input with
    | none => simp
    | some parts =>
      obtain ⟨inner, suffix⟩ := parts
      simp only
      by_cases short : inner.length ≤ 1
      · simp [short]
      rw [if_neg short, if_neg short, readViaIpv6, readText]
      cases fromUtf8 inner.tail with
      | none => simp
      | some text =>
        simp only [Option.bind_some, ok_bind]
        cases parseIpv6Addr (wireBytes text) with
        | none => simp
        | some address =>
          cases suffix with
          | nil => simp [pure, Except.pure]
          | cons first rest =>
            by_cases colon : first = 58
            · simp only [colon, ne_eq, not_true, if_false, map_eq_ok,
                bind_eq_ok, parseViaPort_eq_ok, pure, Except.pure, Except.ok.injEq]
            · simp [colon]
  · rw [if_neg bracketed, if_neg bracketed]
    by_cases brackets : input.contains 91 = true ∨ input.contains 93 = true
    · rw [if_pos brackets, if_pos brackets]
      simp
    rw [if_neg brackets, if_neg brackets]
    simp only [contains_iff_mem, not_or] at brackets
    cases colon : cut 58 input with
    | none => exact bareSentBy_eq_ok fun first => brackets.1 (mem_of_head? first)
    | some parts =>
      obtain ⟨front, port⟩ := parts
      obtain ⟨same, -⟩ := cut_eq_some.mp colon
      have host {port : Option UInt16} := @bareSentBy_eq_ok front
        (fun first => brackets.1 (by
          rw [same]
          exact mem_append_left _ (mem_of_head? first))) port
      simp only
      split_ifs with second
      · simp
      · simp only [bind_eq_ok, map_eq_ok, parseViaPort_eq_ok]
        constructor
        · rintro ⟨parts, ⟨number, parsed, rfl⟩, rest⟩
          exact ⟨_, ⟨number, parsed, rfl⟩, bind_eq_ok.mp (host.mp rest)⟩
        · rintro ⟨parts, ⟨number, parsed, rfl⟩, rest⟩
          exact ⟨_, ⟨number, parsed, rfl⟩, host.mpr (bind_eq_ok.mpr rest)⟩

/-- The address of a parameter is read back from its text. -/
def ViaParameter.Reparses : ViaParameter → Prop
  | .received address => parseIpAddr (renderIpAddr address) = some address
  | .maddr host => host.Reparses
  | .extension ⟨_, some (.host host)⟩ => host.Reparses
  | _ => True

/-- What the text of a parameter needs in order to be parsed again. -/
inductive ViaParameter.Valid : ViaParameter → Prop
  | branch
      {value : String}
      (valid : validateBranch (wireBytes value) = .ok ()) : Valid (.branch value)
  | received
      {address : IpAddress}
      (reads : parseIpAddr (renderIpAddr address) = some address) :
      Valid (.received address)
  | rport (value : RPort) : Valid (.rport value)
  | maddr {host : Host} (text : HostText host) : Valid (.maddr host)
  | ttl (value : UInt8) : Valid (.ttl value)
  | flag
      {name : String}
      (named : validateExtensionName (wireBytes name) = .ok ()) :
      Valid (.extension ⟨name, none⟩)
  | token
      {name value : String}
      (named : validateExtensionName (wireBytes name) = .ok ())
      (valid : validateExtensionTokenValue (wireBytes value) = .ok ()) :
      Valid (.extension ⟨name, some (.token value)⟩)
  | host
      {name : String} {host : Host}
      (named : validateExtensionName (wireBytes name) = .ok ())
      (text : HostText host)
      (apart : host.render.all isTokenByte = false) :
      Valid (.extension ⟨name, some (.host host)⟩)
  | quoted
      {name value : String}
      (named : validateExtensionName (wireBytes name) = .ok ())
      (valid : validateQuotedExtensionValue (wireBytes value) = .ok ()) :
      Valid (.extension ⟨name, some (.quoted value)⟩)

theorem validateExtensionName_eq_ok {value : Unit} : validateExtensionName input = .ok value ↔
      (input ≠ [] ∧ input.length ≤ maxViaParameterNameBytes ∧
        input.all isTokenByte = true) ∧ isReservedParameterName input = false := by
  simp only [validateExtensionName, bind_eq_ok, validateToken_eq_ok, ensure_eq_ok]
  simp

theorem validateQuotedExtensionValue_eq_ok {value : Unit} :
    validateQuotedExtensionValue input = .ok value ↔
      input.length ≤ maxViaParameterValueBytes ∧ input.any isControl = false := by
  simp only [validateQuotedExtensionValue, bind_eq_ok, ensure_eq_ok]
  simp

/-- The bytes that are read as a number are digits. -/
theorem readNumber_taken
    {radix maxDigits limit value : Nat} {allowZeroPrefix : Bool}
    (read : readNumber radix maxDigits limit allowZeroPrefix input = some (value, rest)) :
    ∃ taken : Bytes, input = taken ++ rest ∧
      ∀ byte ∈ taken, (digitValue radix byte).isSome = true := by
  simp only [readNumber] at read
  split_ifs at read
  simp only [Option.some.injEq, Prod.mk.injEq] at read
  refine ⟨input.takeWhile fun byte => (digitValue radix byte).isSome, ?_,
    fun byte member => mem_takeWhile_imp (p := fun byte =>
      (digitValue radix byte).isSome) member⟩
  rw [← read.2]
  exact takeWhile_append_dropWhile.symm

/-- The bytes that are read as an octet after a separator. -/
theorem readOctet_taken
    {index value : Nat}
    (read : readSeparator 46 index (readNumber 10 3 256 false) input = some (value, rest)) :
    ∃ taken : Bytes, input = taken ++ rest ∧ taken.all isIpv4Byte = true := by
  have digit : ∀ byte : UInt8, (digitValue 10 byte).isSome = true → isIpv4Byte byte = true := by
    intro byte
    simp [digitValue, isIpv4Byte, isDigit, UInt8.le_iff_toNat_le, ← UInt8.toNat_inj]
    grind
  have digits {input rest : Bytes} (read : readNumber 10 3 256 false input = some (value, rest)) :
      ∃ taken : Bytes, input = taken ++ rest ∧ taken.all isIpv4Byte = true := by
    obtain ⟨taken, same, each⟩ := readNumber_taken read
    refine ⟨taken, same, ?_⟩
    rw [all_eq_true]
    exact fun byte member => digit byte (each byte member)
  unfold readSeparator at read
  split_ifs at read with first
  · exact digits read
  · cases input with
    | nil => simp [readGivenChar] at read
    | cons byte input =>
      simp only [readGivenChar] at read
      split_ifs at read with dot
      · obtain ⟨taken, same, each⟩ := digits (by simpa using read)
        refine ⟨byte :: taken, by rw [same, cons_append], ?_⟩
        rw [all_cons, each, dot]
        decide
      · simp at read

/-- A text that is read as an IPv4 address has digits and dots only. -/
theorem all_of_parseIpv4Addr {address : BitVec 32} (read : parseIpv4Addr input = some address) :
    input.all isIpv4Byte = true := by
  rw [parseIpv4Addr] at read
  split_ifs at read
  rw [parseWith] at read
  cases taken : readIpv4Addr input with
  | none => simp [taken] at read
  | some found =>
    obtain ⟨value, rest⟩ := found
    cases rest with
    | cons byte rest => simp [taken] at read
    | nil =>
      simp only [readIpv4Addr, Option.bind_eq_bind, Option.bind_eq_some_iff] at taken
      obtain ⟨⟨first, second⟩, one, ⟨_, third⟩, two, ⟨_, fourth⟩, three, ⟨_, last⟩,
        four, made⟩ := taken
      obtain ⟨front, rfl, all⟩ := readOctet_taken one
      obtain ⟨next, rfl, others⟩ := readOctet_taken two
      obtain ⟨after, rfl, more⟩ := readOctet_taken three
      obtain ⟨final, rfl, end_⟩ := readOctet_taken four
      simp only [Option.pure_def, Option.some.injEq, Prod.mk.injEq] at made
      rw [made.2]
      simp [all, others, more, end_]

/-- The host of a value that is no token is an IPv6 address. -/
theorem apart_of_parseViaHost (parsed : parseViaHost input = some host)
    (apart : input.all isTokenByte = false) :
    host.render.all isTokenByte = false := by
  have notToken {byte : UInt8} (other : isTokenByte byte = false) {text : Bytes}
      (member : byte ∈ text) : text.all isTokenByte = false := by
    by_contra all
    rw [Bool.not_eq_false, all_eq_true] at all
    rw [all byte member] at other
    cases other
  unfold parseViaHost at parsed
  split_ifs at parsed
  · obtain ⟨address, -, rfl⟩ := Option.map_eq_some_iff.mp parsed
    exact notToken (by decide : isTokenByte 91 = false) (by simp [Host.render])
  · simp only [Option.bind_eq_bind, Option.bind_eq_some_iff] at parsed
    obtain ⟨text, read, parsed⟩ := parsed
    have same : wireBytes text = input := toUTF8_of_fromUtf8 read
    cases address : parseIpv4Addr (wireBytes text) with
    | some found =>
      have checked : ∀ byte, isIpv4Byte byte = true → isTokenByte byte = true := by
        intro byte
        simp [isIpv4Byte, isDigit, isTokenByte, UInt8.le_iff_toNat_le, ← UInt8.toNat_inj]
        omega
      have all := all_of_parseIpv4Addr address
      rw [same, all_eq_true] at all
      have token : input.all isTokenByte = true := by
        rw [all_eq_true]
        exact fun byte member => checked byte (all byte member)
      rw [token] at apart
      cases apart
    | none =>
      simp only [address, Host.fromDomain] at parsed
      split_ifs at parsed with valid
      · rw [same] at valid
        rw [token_of_isValidHostname valid] at apart
        cases apart
      · simp [Except.toOption] at parsed

/-- The extension parameters that are parsed. -/
theorem valid_of_parseExtensionParameter
    (parsed : parseExtensionParameter name input = .ok (parameter, rest))
    (reparses : parameter.Reparses) :
    parameter.Valid := by
  simp only [parseExtensionParameter, bind_eq_ok] at parsed
  obtain ⟨_, named, parsed⟩ := parsed
  have flag {rest' : Bytes}
      (parsed : (do
        let parameter ← ViaExtensionParameter.flag name
        return (.extension parameter, rest') :
          Except ViaParseError (ViaParameter × Bytes)) = .ok (parameter, rest)) :
      parameter.Valid := by
    simp only [ViaExtensionParameter.flag, bind_eq_ok] at parsed
    obtain ⟨_, ⟨_, -, made⟩, returned⟩ := parsed
    cases made
    cases returned
    exact .flag named
  cases front : trimStart input with
  | nil =>
    rw [front] at parsed
    exact flag parsed
  | cons first others =>
    simp only [front] at parsed
    split_ifs at parsed with separator
    · exact flag parsed
    · simp only [bind_eq_ok] at parsed
      obtain ⟨_, -, parsed⟩ := parsed
      cases value : trimStart others with
      | nil => simp [value] at parsed
      | cons first others =>
        simp only [value] at parsed
        split_ifs at parsed with opening
        · simp only [parseQuotedExtension, ViaExtensionParameter.quoted, bind_eq_ok] at parsed
          obtain ⟨_, -, _, -, _, ⟨_, -, _, valid, made⟩, returned⟩ := parsed
          cases made
          cases returned
          exact .quoted named valid
        · simp only [parseUnquotedExtension, bind_eq_ok] at parsed
          obtain ⟨⟨text, remaining⟩, -, parsed⟩ := parsed
          simp only at parsed
          cases found : text.findIdx? fun byte => !isTokenByte byte with
          | none =>
            simp only [found, ViaExtensionParameter.token, bind_eq_ok] at parsed
            obtain ⟨_, -, _, ⟨_, -, _, valid, made⟩, returned⟩ := parsed
            cases made
            cases returned
            exact .token named valid
          | some index =>
            simp only [found] at parsed
            cases located : parseViaHost text with
            | none => simp [located] at parsed
            | some host =>
              simp only [located, ViaExtensionParameter.host, bind_eq_ok] at parsed
              obtain ⟨_, ⟨_, -, made⟩, returned⟩ := parsed
              cases made
              cases returned
              refine .host named (hostText_of_parse located reparses)
                (apart_of_parseViaHost located ?_)
              rw [Bool.eq_false_iff]
              intro token
              rw [all_eq_true] at token
              have none : (text.findIdx? fun byte => !isTokenByte byte) = Option.none := by
                rw [findIdx?_eq_none_iff]
                exact fun byte member => by simp [token byte member]
              rw [none] at found
              cases found

/-- A parsed parameter is valid. -/
theorem valid_of_parseViaParameter
    (parsed : parseViaParameter name input = .ok (parameter, rest))
    (reparses : parameter.Reparses) :
    parameter.Valid := by
  unfold parseViaParameter at parsed
  split_ifs at parsed
  · simp only [parseBranchParameter, bind_eq_ok] at parsed
    obtain ⟨_, -, _, -, _, valid, text, read, returned⟩ := parsed
    cases returned
    rw [← wireBytes_of_readViaText read] at valid
    exact .branch valid
  · simp only [parseReceivedParameter, bind_eq_ok] at parsed
    obtain ⟨_, -, _, -, text, -, parsed⟩ := parsed
    cases address : parseIpAddr (wireBytes text) with
    | none => simp [address] at parsed
    | some found =>
      simp only [address] at parsed
      cases parsed
      exact .received reparses
  · unfold parseRPortParameter at parsed
    cases front : trimStart input with
    | nil =>
      simp only [front] at parsed
      cases parsed
      exact .rport _
    | cons first others =>
      simp only [front] at parsed
      split_ifs at parsed
      · cases parsed
        exact .rport _
      · simp only [bind_eq_ok] at parsed
        obtain ⟨_, -, _, -, _, -, _, -, returned⟩ := parsed
        cases returned
        exact .rport _
  · simp only [parseMaddrParameter, bind_eq_ok] at parsed
    obtain ⟨_, -, ⟨text, _⟩, -, parsed⟩ := parsed
    cases located : parseViaHost text with
    | none => simp [located] at parsed
    | some host =>
      simp only [located] at parsed
      cases parsed
      exact .maddr (hostText_of_parse located reparses)
  · simp only [parseTtlParameter, bind_eq_ok] at parsed
    obtain ⟨_, -, _, -, _, -, returned⟩ := parsed
    cases returned
    exact .ttl _
  · exact valid_of_parseExtensionParameter parsed reparses

/-- A byte after a name or value that is not part of it. -/
theorem parseParameterName_append (token : (wireBytes name).all isTokenByte = true)
    (nonempty : wireBytes name ≠ []) (short : (wireBytes name).length ≤ maxViaParameterNameBytes)
    (ends : ∀ byte ∈ rest.head?, isTokenByte byte = false) :
    parseParameterName (wireBytes name ++ rest) = .ok (name, rest) := by
  obtain ⟨front, back⟩ := span_front rest (all_eq_true.mp token) ends
  simp only [parseParameterName, front, back, ensure_of nonempty, ensure_of short,
    ok_bind, readViaText_wireBytes]
  rfl

/-- An escaped value is decoded up to its closing quotation mark. -/
theorem parseQuotedValue_escape
    (printable : ∀ byte ∈ value, isControl byte = false)
    (decoded rest : Bytes) :
    parseQuotedValue decoded (escape value ++ 34 :: rest) =
      (readViaText (decoded ++ value) .invalidQuotedString).map
        fun text => (text, rest) := by
  induction value generalizing decoded with
  | nil => cases rest <;> simp [parseQuotedValue]
  | cons byte value ih =>
    have clean : isControl byte = false := printable byte mem_cons_self
    have further := ih (fun each member => printable each (mem_cons_of_mem _ member))
      (decoded ++ [byte])
    rw [append_assoc, singleton_append] at further
    rw [escape_cons]
    split_ifs with special
    · rw [← further]
      simp [parseQuotedValue, clean]
    · obtain ⟨unquoted, plain⟩ := not_or.mp special
      have tab : byte ≠ 9 := by
        rintro rfl
        cases clean
      rw [← further, singleton_append, cons_append]
      cases escape value ++ 34 :: rest <;>
        simp [parseQuotedValue, unquoted, plain, tab, clean]

theorem parseIpAddr_nil : parseIpAddr [] = none := by decide

theorem bare_renderIpAddr
    {address : IpAddress} (reads : parseIpAddr (renderIpAddr address) = some address) :
    Bare (renderIpAddr address) := by
  have nonempty : renderIpAddr address ≠ [] := by
    intro empty
    rw [empty, parseIpAddr_nil] at reads
    cases reads
  refine bare_of_forall isIpv6Byte (forall_byte (by decide +kernel)) nonempty ?_
  cases address with
  | v4 address =>
    rw [renderIpAddr, all_eq_true]
    exact fun byte member => isIpv6Byte_of_isIpv4Byte (mem_renderIpv4 member)
  | v6 address => exact all_renderIpv6 address

theorem readViaText_renderIpAddr
    (address : IpAddress) (error : ViaParseError) :
    ∃ text, readViaText (renderIpAddr address) error = .ok text ∧
      wireBytes text = renderIpAddr address := by
  have ascii : ∀ byte ∈ renderIpAddr address, byte < 128 := by
    intro byte member
    cases address with
    | v4 address =>
      exact ascii_of_isIpv6Byte (isIpv6Byte_of_isIpv4Byte (mem_renderIpv4 member))
    | v6 address => exact ascii_of_isIpv6Byte (mem_renderIpv6 member)
  obtain ⟨text, decoded⟩ := fromUtf8_of_ascii ascii
  have read : readViaText (renderIpAddr address) error = .ok text := by
    rw [readViaText, decoded]
  exact ⟨text, read, wireBytes_of_readViaText read⟩

/-- A name that is not reserved is the name of an extension parameter. -/
theorem parseViaParameter_extension
    (named : validateExtensionName (wireBytes name) = .ok ())
    (input : Bytes) :
    parseViaParameter name input = parseExtensionParameter name input := by
  have free := (validateExtensionName_eq_ok.mp named).2
  simp only [isReservedParameterName, any_cons, any_nil, Bool.or_false,
    Bool.or_eq_false_iff] at free
  obtain ⟨branch, received, rport, maddr, ttl⟩ := free
  rw [parseViaParameter, eqIgnoreAsciiCase, eqIgnoreAsciiCase, eqIgnoreAsciiCase,
    eqIgnoreAsciiCase, eqIgnoreAsciiCase, branch, received, rport, maddr, ttl]
  simp

/-- An unquoted value of an extension parameter is read as such. -/
theorem parseExtensionParameter_bare (named : validateExtensionName (wireBytes name) = .ok ())
    (bare : Bare text) (rest : Bytes) :
    parseExtensionParameter name (61 :: (text ++ rest)) =
      parseUnquotedExtension name (text ++ rest) := by
  have equals : trimStart (61 :: (text ++ rest)) = 61 :: (text ++ rest) :=
    trimStart_of_head (by simp [isWsp])
  obtain ⟨first, others, same⟩ := exists_cons_of_ne_nil bare.nonempty
  have unquoted : first ≠ 34 := (bare.unquoted first (by rw [same]; simp)).1
  have front := bare.trimStart_append rest
  rw [same, cons_append] at front
  rw [parseExtensionParameter, named, ok_bind, equals, same, cons_append]
  simp only [front, if_neg unquoted]
  rfl

/-- What follows the name of a parameter. -/
def ViaParameter.tail : ViaParameter → Bytes
  | .branch value => 61 :: wireBytes value
  | .received address => 61 :: renderIpAddr address
  | .rport .requested => []
  | .rport (.value port) => 61 :: digits port.toNat
  | .maddr host => 61 :: host.render
  | .ttl value => 61 :: digits value.toNat
  | .extension ⟨_, none⟩ => []
  | .extension ⟨_, some value⟩ => 61 :: value.render

theorem ViaParameter.render_eq (parameter : ViaParameter) :
    parameter.render = wireBytes parameter.name ++ parameter.tail := by
  match parameter with
  | .branch _ => rfl
  | .received _ => rfl
  | .rport .requested => simp [render, name, tail]
  | .rport (.value _) => rfl
  | .maddr _ => rfl
  | .ttl _ => rfl
  | .extension ⟨_, none⟩ => rfl
  | .extension ⟨_, some _⟩ => rfl

/-- The name of a valid parameter is a token of bounded size. -/
theorem ViaParameter.Valid.name_spec (valid : parameter.Valid) :
    wireBytes parameter.name ≠ [] ∧ (wireBytes parameter.name).length ≤ maxViaParameterNameBytes ∧
        (wireBytes parameter.name).all isTokenByte = true := by
  have reserved : ∀ name ∈ (["branch", "received", "rport", "maddr", "ttl"] :
      List String), wireBytes name ≠ [] ∧ (wireBytes name).length ≤ maxViaParameterNameBytes ∧
          (wireBytes name).all isTokenByte = true := by
    decide +kernel
  cases valid with
  | branch | received | rport | maddr | ttl =>
    exact reserved _ (by simp [ViaParameter.name])
  | flag named | token named | host named | quoted named =>
    exact (validateExtensionName_eq_ok.mp named).1

/-- A valid parameter is parsed from what follows its name. -/
theorem ViaParameter.Valid.parse_tail (valid : parameter.Valid)
    (ends : ∀ byte ∈ rest.head?, byte = 59) :
    parseViaParameter parameter.name (trimStart (parameter.tail ++ rest)) =
      .ok (parameter, rest) := by
  have equals (value : Bytes) : trimStart (61 :: value) = 61 :: value :=
    trimStart_of_head (by simp [isWsp])
  have separator : (61 : UInt8) ≠ 59 := by decide
  have solidRest : trimStart rest = rest := by
    refine trimStart_of_head fun byte member => ?_
    rw [ends byte member]
    rfl
  cases valid with
  | @branch value valid =>
    obtain ⟨nonempty, -, token⟩ := validateToken_eq_ok.mp valid
    have bare := bare_of_token nonempty token
    have dispatch : parseViaParameter "branch" = parseBranchParameter := by
      funext input
      exact if_pos (by decide +kernel)
    rw [ViaParameter.name, ViaParameter.tail, cons_append, equals, dispatch,
      parseBranchParameter, bare.requireParameterValue, ok_bind, bare.takeUnquotedValue ends]
    simp only [ok_bind, valid, readViaText_wireBytes]
    rfl
  | @received address reads =>
    have bare := bare_renderIpAddr reads
    obtain ⟨text, read, same⟩ := readViaText_renderIpAddr address .invalidReceived
    have dispatch : parseViaParameter "received" = parseReceivedParameter := by
      funext input
      exact (if_neg (by decide +kernel)).trans (if_pos (by decide +kernel))
    rw [ViaParameter.name, ViaParameter.tail, cons_append, equals, dispatch,
      parseReceivedParameter, bare.requireParameterValue, ok_bind, bare.takeUnquotedValue ends]
    simp only [ok_bind, read, same, reads]
    rfl
  | rport value =>
    have dispatch : parseViaParameter "rport" = parseRPortParameter := by
      funext input
      exact (if_neg (by decide +kernel)).trans
        ((if_neg (by decide +kernel)).trans (if_pos (by decide +kernel)))
    rw [ViaParameter.name, dispatch]
    cases value with
    | requested =>
      rw [ViaParameter.tail, nil_append, solidRest, parseRPortParameter, solidRest]
      cases rest with
      | nil => rfl
      | cons first rest =>
        obtain rfl : first = 59 := ends first rfl
        rfl
    | value port =>
      have bare := bare_digits port.toNat
      have filled : digits port.toNat ++ rest ≠ [] := by simp [bare.nonempty]
      have parsed : parseViaPort (digits port.toNat) = .ok port :=
        parseViaPort_eq_ok.mpr (parsePort_digits port)
      rw [ViaParameter.tail, cons_append, equals, parseRPortParameter, equals]
      simp only [if_neg separator, bare.trimStart_append, ensure, if_true, ok_bind,
        if_pos filled, bare.takeUnquotedValue ends, parsed]
      rfl
  | @maddr host text =>
    have dispatch : parseViaParameter "maddr" = parseMaddrParameter := by
      funext input
      exact (if_neg (by decide +kernel)).trans ((if_neg (by decide +kernel)).trans
        ((if_neg (by decide +kernel)).trans (if_pos (by decide +kernel))))
    rw [ViaParameter.name, ViaParameter.tail, cons_append, equals, dispatch,
      parseMaddrParameter, text.bare.requireParameterValue, ok_bind,
      text.bare.takeUnquotedValue ends]
    simp only [ok_bind, text.parses]
    rfl
  | ttl value =>
    have bare := bare_digits value.toNat
    have parsed : parseTtl (digits value.toNat) = .ok value := by
      have checked : ∀ value : UInt8, parseTtl (digits value.toNat) = .ok value :=
        forall_byte (by decide +kernel)
      exact checked value
    have dispatch : parseViaParameter "ttl" = parseTtlParameter := by
      funext input
      exact (if_neg (by decide +kernel)).trans ((if_neg (by decide +kernel)).trans
        ((if_neg (by decide +kernel)).trans
          ((if_neg (by decide +kernel)).trans (if_pos (by decide +kernel)))))
    rw [ViaParameter.name, ViaParameter.tail, cons_append, equals, dispatch,
      parseTtlParameter, bare.requireParameterValue, ok_bind, bare.takeUnquotedValue ends]
    simp only [ok_bind, parsed]
    rfl
  | @flag name named =>
    have made : ViaExtensionParameter.flag name = .ok ⟨name, none⟩ := by
      rw [ViaExtensionParameter.flag, named]
      rfl
    rw [ViaParameter.name, parseViaParameter_extension named, ViaParameter.tail,
      nil_append, solidRest, parseExtensionParameter, named, ok_bind, solidRest, made]
    cases rest with
    | nil => rfl
    | cons first rest =>
      obtain rfl : first = 59 := ends first rfl
      rfl
  | @token name value named valid =>
    obtain ⟨nonempty, -, token⟩ := validateToken_eq_ok.mp valid
    have bare := bare_of_token nonempty token
    have made : ViaExtensionParameter.token name value = .ok ⟨name, some (.token value)⟩ := by
      rw [ViaExtensionParameter.token, named, ok_bind, valid]
      rfl
    have noOther : ((wireBytes value).findIdx? fun byte => !isTokenByte byte) = none := by
      rw [findIdx?_eq_none_iff]
      exact fun byte member => by simp [all_eq_true.mp token byte member]
    rw [ViaParameter.name, parseViaParameter_extension named, ViaParameter.tail,
      cons_append, equals, ViaExtensionValue.render, parseExtensionParameter_bare named bare,
      parseUnquotedExtension, bare.takeUnquotedValue ends]
    simp only [ok_bind, noOther, readViaText_wireBytes, made]
    rfl
  | @host name host named text apart =>
    have bare := text.bare
    have made : ViaExtensionParameter.host name host = .ok ⟨name, some (.host host)⟩ := by
      rw [ViaExtensionParameter.host, named]
      rfl
    have other : ∃ index, (host.render.findIdx? fun byte => !isTokenByte byte) = some index := by
      by_contra none
      have none := Option.eq_none_iff_forall_ne_some.mpr (fun index found => none ⟨index, found⟩)
      rw [findIdx?_eq_none_iff] at none
      have token : host.render.all isTokenByte = true := by
        rw [all_eq_true]
        exact fun byte member => by simpa using none byte member
      rw [token] at apart
      cases apart
    obtain ⟨index, found⟩ := other
    rw [ViaParameter.name, parseViaParameter_extension named, ViaParameter.tail,
      cons_append, equals, ViaExtensionValue.render, parseExtensionParameter_bare named bare,
      parseUnquotedExtension, bare.takeUnquotedValue ends]
    simp only [ok_bind, found, text.parses, made]
    rfl
  | @quoted name value named valid =>
    obtain ⟨-, printable⟩ := validateQuotedExtensionValue_eq_ok.mp valid
    have made : ViaExtensionParameter.quoted name value = .ok ⟨name, some (.quoted value)⟩ := by
      rw [ViaExtensionParameter.quoted, named, ok_bind, valid]
      rfl
    have decoded := parseQuotedValue_escape
      (fun byte member => by simpa using any_eq_false.mp printable byte member :
        ∀ byte ∈ wireBytes value, isControl byte = false) [] rest
    rw [nil_append, readViaText_wireBytes] at decoded
    have front (text : Bytes) : trimStart (34 :: text) = 34 :: text :=
      trimStart_of_head (by simp [isWsp])
    have after : rest = [] ∨ rest.head? = some 59 := by
      cases rest with
      | nil => exact .inl rfl
      | cons first rest =>
        obtain rfl : first = 59 := ends first rfl
        exact .inr rfl
    rw [ViaParameter.name, parseViaParameter_extension named, ViaParameter.tail,
      cons_append, equals, parseExtensionParameter, named, ok_bind, equals]
    have text : (ViaExtensionValue.quoted value).render ++ rest =
        34 :: (escape (wireBytes value) ++ 34 :: rest) := by
      simp [ViaExtensionValue.render, quote]
    simp only [if_neg separator, ensure, if_true, ok_bind, text, front]
    simp only [parseQuotedExtension, decoded, Except.map, ok_bind, solidRest, ensure_of after, made]
    rfl

/-- A valid parameter is parsed from its text. -/
theorem ViaParameter.Valid.parse (valid : parameter.Valid)
    (ends : ∀ byte ∈ rest.head?, byte = 59) :
    ∃ remaining, parseParameterName (parameter.render ++ rest) = .ok (parameter.name, remaining) ∧
        parseViaParameter parameter.name (trimStart remaining) = .ok (parameter, rest) := by
  obtain ⟨nonempty, short, token⟩ := valid.name_spec
  refine ⟨parameter.tail ++ rest, ?_, valid.parse_tail ends⟩
  have separated : ∀ byte ∈ (parameter.tail ++ rest).head?, byte = 61 ∨ byte = 59 := by
    intro byte member
    unfold ViaParameter.tail at member
    split at member <;> simp_all
  rw [parameter.render_eq, append_assoc]
  refine parseParameterName_append token nonempty short fun byte member => ?_
  rcases separated byte member with rfl | rfl <;> decide

/-- A budget that refuses nothing. -/
structure ParseBudget.Unlimited (budget : ParseBudget) : Prop where
  entries : budget.remainingEntries = usizeMax
  parameters : budget.remainingParameters = usizeMax

theorem ParseBudget.unlimited_new : (ParseBudget.new usizeMax usizeMax).Unlimited := ⟨rfl, rfl⟩

theorem saturatingSucc_le (count : Nat) : saturatingSucc count ≤ usizeMax := Nat.min_le_right _ _

theorem ParseBudget.Unlimited.checkEntry (unlimited : budget.Unlimited) (existing : Nat) :
    budget.checkEntry existing = .ok () := by
  rw [ParseBudget.checkEntry, unlimited.entries]
  exact ensure_of (saturatingSucc_le existing) _

theorem ParseBudget.Unlimited.consumeParameter (unlimited : budget.Unlimited) :
    ∃ spent, budget.consumeParameter = .ok spent ∧ spent.Unlimited := by
  refine ⟨_, if_neg ?_, ⟨unlimited.entries, unlimited.parameters⟩⟩
  rw [unlimited.parameters]
  exact Nat.not_lt.mpr (saturatingSucc_le _)

theorem plain_eq_ok {outcome : Except ViaParseError α} {value : α} :
    plain outcome = .ok value ↔ outcome = .ok value := mapError_eq_ok

/-- What pushing a parameter needs and does. -/
theorem ViaEntry.pushParameter_eq_ok :
    entry.pushParameter parameter = .ok after ↔ entry.parameters.length < maxViaParameters ∧
        (∀ existing ∈ entry.parameters, eqIgnoreAsciiCase existing.name parameter.name = false) ∧
        after = { entry with parameters := entry.parameters ++ [parameter] } := by
  rw [ViaEntry.pushParameter, refusal_eq_ok, refusal_eq_ok]
  simp [eq_comm (a := after)]

/-- The parameters end, or one is read and the rest follows. -/
theorem parseViaParameters_eq_ok :
    parseViaParameters slots entry input budget = .ok (after, left) ↔
      (trimStart input = [] ∧ entry = after ∧ budget = left) ∨
      ∃ rest fewer spent name remaining parameter others grown,
        trimStart input = 59 :: rest ∧ trimStart rest ≠ [] ∧ slots = fewer + 1 ∧
        budget.consumeParameter = .ok spent ∧
        parseParameterName (trimStart rest) = .ok (name, remaining) ∧
        parseViaParameter name (trimStart remaining) = .ok (parameter, others) ∧
        entry.pushParameter parameter = .ok grown ∧
        parseViaParameters fewer grown others spent = .ok (after, left) := by
  rw [parseViaParameters]
  cases trimStart input with
  | nil => simp
  | cons first rest =>
    simp only [bind_eq_ok, ensure_eq_ok]
    cases slots with
    | zero => simp
    | succ fewer =>
      simp only [bind_eq_ok, plain_eq_ok, List.cons.injEq, Nat.add_right_cancel_iff]
      constructor
      · rintro ⟨_, rfl, _, filled, spent, consumed, ⟨name, remaining⟩, named,
          ⟨parameter, others⟩, valued, grown, pushed, parsed⟩
        exact .inr ⟨rest, fewer, spent, name, remaining, parameter, others, grown,
          ⟨rfl, rfl⟩, filled, rfl, consumed, named, valued, pushed, parsed⟩
      · rintro (⟨none, -⟩ | ⟨_, _, spent, name, remaining, parameter, others, grown,
          ⟨rfl, rfl⟩, filled, rfl, consumed, named, valued, pushed, parsed⟩)
        · cases none
        · exact ⟨(), rfl, (), filled, spent, consumed, (name, remaining), named,
            (parameter, others), valued, grown, pushed, parsed⟩

/-- What is parsed within some budget is parsed without one. -/
theorem parseViaParameters_unlimited {free : ParseBudget}
    (parsed : parseViaParameters slots entry input budget = .ok (after, left))
    (unlimited : free.Unlimited) :
    ∃ left, parseViaParameters slots entry input free = .ok (after, left) ∧ left.Unlimited := by
  induction slots generalizing entry input budget free with
  | zero =>
    rcases parseViaParameters_eq_ok.mp parsed with
      ⟨none, rfl, rfl⟩ | ⟨_, _, _, _, _, _, _, _, _, _, slots, _⟩
    · exact ⟨free, parseViaParameters_eq_ok.mpr (.inl ⟨none, rfl, rfl⟩), unlimited⟩
    · cases slots
  | succ slots ih =>
    rcases parseViaParameters_eq_ok.mp parsed with
      ⟨none, rfl, rfl⟩ | ⟨rest, fewer, spent, name, remaining, parameter, others, grown,
        starts, filled, same, -, named, valued, pushed, parsed⟩
    · exact ⟨free, parseViaParameters_eq_ok.mpr (.inl ⟨none, rfl, rfl⟩), unlimited⟩
    · cases same
      obtain ⟨spent, consumed, unlimited⟩ := unlimited.consumeParameter
      obtain ⟨left, parsed, unlimited⟩ := ih parsed unlimited
      exact ⟨left, parseViaParameters_eq_ok.mpr (.inr ⟨rest, slots, spent, name,
        remaining, parameter, others, grown, starts, filled, rfl, consumed, named,
        valued, pushed, parsed⟩), unlimited⟩

/-- Parsing parameters adds them at the end. -/
theorem parseViaParameters_adds
    (parsed : parseViaParameters slots entry input budget = .ok (after, left)) :
    ∃ more, after = { entry with parameters := entry.parameters ++ more } := by
  induction slots generalizing entry input budget with
  | zero =>
    rcases parseViaParameters_eq_ok.mp parsed with
      ⟨-, rfl, -⟩ | ⟨_, _, _, _, _, _, _, _, _, _, slots, _⟩
    · exact ⟨[], by simp⟩
    · cases slots
  | succ slots ih =>
    rcases parseViaParameters_eq_ok.mp parsed with
      ⟨-, rfl, -⟩ | ⟨_, _, _, _, _, parameter, _, _, _, _, same, -, -, -, pushed, parsed⟩
    · exact ⟨[], by simp⟩
    · cases same
      obtain ⟨-, -, rfl⟩ := ViaEntry.pushParameter_eq_ok.mp pushed
      obtain ⟨more, rfl⟩ := ih parsed
      exact ⟨parameter :: more, by simp⟩

/-- What the parameters of an entry need in order to be parsed again. -/
structure ValidParameters (parameters : List ViaParameter) : Prop where
  valid : ∀ parameter ∈ parameters, parameter.Valid
  distinct : parameters.Pairwise fun first second =>
    eqIgnoreAsciiCase first.name second.name = false
  few : parameters.length ≤ maxViaParameters

theorem validParameters_of_parse
    (parsed : parseViaParameters slots entry input budget = .ok (after, left))
    (reparses : ∀ parameter ∈ after.parameters, parameter.Reparses)
    (before : ValidParameters entry.parameters) :
    ValidParameters after.parameters := by
  induction slots generalizing entry input budget with
  | zero =>
    rcases parseViaParameters_eq_ok.mp parsed with
      ⟨-, rfl, -⟩ | ⟨_, _, _, _, _, _, _, _, _, _, slots, _⟩
    · exact before
    · cases slots
  | succ slots ih =>
    rcases parseViaParameters_eq_ok.mp parsed with
      ⟨-, rfl, -⟩ | ⟨_, _, _, _, _, parameter, _, _, _, _, same, -, -, valued, pushed, parsed⟩
    · exact before
    · cases same
      obtain ⟨room, others, rfl⟩ := ViaEntry.pushParameter_eq_ok.mp pushed
      obtain ⟨more, rfl⟩ := parseViaParameters_adds parsed
      have last : parameter.Valid :=
        valid_of_parseViaParameter valued (reparses parameter (by simp))
      refine ih parsed ⟨?_, ?_, ?_⟩
      · intro each member
        rcases mem_append.mp member with inside | added
        · exact before.valid each inside
        · rw [mem_singleton.mp added]
          exact last
      · rw [pairwise_append]
        refine ⟨before.distinct, pairwise_singleton _ _, ?_⟩
        simpa using others
      · rw [length_append]
        exact room

/-- Valid parameters are parsed from their texts, each after a semicolon. -/
theorem parseViaParameters_render
    (entry : ViaEntry) (done todo : List ViaParameter) (valid : ValidParameters (done ++ todo))
    (room : todo.length ≤ slots) (unlimited : budget.Unlimited) :
    ∃ left, parseViaParameters slots { entry with parameters := done }
      (todo.flatMap fun parameter => 59 :: parameter.render) budget =
        .ok ({ entry with parameters := done ++ todo }, left) ∧ left.Unlimited := by
  induction todo generalizing done slots budget with
  | nil =>
    refine ⟨budget, parseViaParameters_eq_ok.mpr (.inl ⟨rfl, ?_, rfl⟩), unlimited⟩
    rw [append_nil]
  | cons parameter todo ih =>
    obtain ⟨fewer, rfl⟩ := Nat.exists_eq_add_of_le' (Nat.lt_of_lt_of_le (Nat.succ_pos _) room)
    obtain ⟨spent, consumed, unlimited⟩ := unlimited.consumeParameter
    have ends : ∀ byte ∈ (todo.flatMap fun parameter =>
        59 :: parameter.render).head?, byte = 59 := by
      cases todo <;> simp
    have each : parameter.Valid := valid.valid parameter (by simp)
    obtain ⟨remaining, named, valued⟩ := each.parse ends
    have pushed : ViaEntry.pushParameter { entry with parameters := done } parameter =
        .ok { entry with parameters := done ++ [parameter] } := by
      refine ViaEntry.pushParameter_eq_ok.mpr ⟨?_, ?_, rfl⟩
      · have few := valid.few
        rw [length_append, length_cons] at few
        simp only
        omega
      · intro existing member
        exact (pairwise_append.mp valid.distinct).2.2 existing member parameter mem_cons_self
    have rest : ValidParameters ((done ++ [parameter]) ++ todo) := by
      simpa using valid
    obtain ⟨left, parsed, unlimited⟩ := ih _ rest (Nat.le_of_succ_le_succ room) unlimited
    obtain ⟨nonempty, -, token⟩ := each.name_spec
    obtain ⟨first, others, same⟩ := exists_cons_of_ne_nil nonempty
    have solid (text : Bytes) :
        trimStart (parameter.render ++ text) = parameter.render ++ text := by
      refine trimStart_of_head fun byte member => ?_
      rw [parameter.render_eq, same] at member
      cases member
      exact (token_byte_spec (all_eq_true.mp token first (by rw [same]; simp))).1
    have filled (text : Bytes) : parameter.render ++ text ≠ [] := by
      rw [parameter.render_eq, same]
      simp
    refine ⟨left, ?_, unlimited⟩
    rw [append_assoc, singleton_append] at parsed
    rw [flatMap_cons, cons_append]
    refine parseViaParameters_eq_ok.mpr (.inr ⟨parameter.render ++
      todo.flatMap fun parameter => 59 :: parameter.render, fewer, spent, _, remaining,
      parameter, _, _, trimStart_of_head (by simp [isWsp]), ?_, rfl, consumed, ?_,
      valued, pushed, parsed⟩)
    · rw [solid]
      exact filled _
    · rw [solid]
      exact named

/-- The addresses of an entry are read back from their texts. -/
def ViaEntry.Reparses (entry : ViaEntry) : Prop :=
  entry.sentByHost.Reparses ∧ ∀ parameter ∈ entry.parameters, parameter.Reparses

/-- The host and port of an entry. -/
def ViaEntry.renderSentBy (entry : ViaEntry) : Bytes :=
  entry.sentByHost.render ++ portText entry.sentByPort

theorem ViaEntry.render_eq (entry : ViaEntry) :
    entry.render = entry.sentProtocol.render ++ 32 :: (entry.renderSentBy ++
      entry.parameters.flatMap fun parameter => 59 :: parameter.render) := by
  have port : entry.renderPort = portText entry.sentByPort := by
    unfold ViaEntry.renderPort
    cases entry.sentByPort <;> rfl
  simp [ViaEntry.render, ViaEntry.renderSentBy, port]

/-- What an entry needs in order to be parsed again. -/
structure ViaEntry.Valid (entry : ViaEntry) : Prop where
  protocol : entry.sentProtocol.Valid
  sentBy : parseSentBy entry.renderSentBy = .ok (entry.sentByHost, entry.sentByPort)
  bare : Bare entry.renderSentBy
  parameters : ValidParameters entry.parameters

theorem hostText_of_parseHostport {port : Option UInt16}
    (parsed : parseHostport input = .ok (host, port)) (reparses : host.Reparses) :
    HostText host := by
  rcases parseHostport_cases parsed reparses with ⟨address, rfl⟩ | ⟨plain, -⟩
  · exact hostText_ipv6 reparses
  · have front : host.render.head? ≠ some 91 := fun head =>
      plain.unbracketed.1 (mem_of_head? head)
    exact hostText_of_parse ((parseViaHost_eq_some front).mpr plain.parses) reparses

/-- A bare text and a bare text after a byte that separates nothing are bare. -/
theorem Bare.append_cons
    {first second : Bytes} (left : Bare first) {byte : UInt8}
    (other : isWsp byte = false ∧ byte ≠ 59 ∧ byte ≠ 34 ∧ byte ≠ 44) (right : Bare second) :
    Bare (first ++ byte :: second) := by
  have each {property : UInt8 → Prop} (front : ∀ item ∈ first, property item)
      (middle : property byte) (back : ∀ item ∈ second, property item) :
      ∀ item ∈ first ++ byte :: second, property item := by
    intro item member
    rcases mem_append.mp member with inside | inside
    · exact front item inside
    · rcases mem_cons.mp inside with rfl | inside
      · exact middle
      · exact back item inside
  exact ⟨by simp, each left.solid other.1 right.solid,
    each left.unseparated other.2.1 right.unseparated, each left.unquoted other.2.2 right.unquoted⟩

/-- What a parsed entry is made of. -/
theorem parseEntry_eq_ok :
    parseEntry input budget = .ok (entry, left) ↔
      input.dropWhile (!isWsp ·) ≠ [] ∧ input.takeWhile (!isWsp ·) ≠ [] ∧
      ∃ protocol host port, parseSentProtocol (input.takeWhile (!isWsp ·)) = .ok protocol ∧
        trimStart (input.dropWhile (!isWsp ·)) ≠ [] ∧
        trim ((trimStart (input.dropWhile (!isWsp ·))).takeWhile (· != 59)) ≠ [] ∧
        parseSentBy (trim ((trimStart (input.dropWhile (!isWsp ·))).takeWhile
          (· != 59))) = .ok (host, port) ∧
        parseViaParameters maxViaParameters (ViaEntry.new protocol host port)
          ((trimStart (input.dropWhile (!isWsp ·))).dropWhile (· != 59)) budget =
            .ok (entry, left) := by
  simp only [parseEntry, bind_eq_ok, ensure_eq_ok, plain_eq_ok]
  constructor
  · rintro ⟨_, after, _, filled, protocol, named, _, remaining, _, sent, ⟨host, port⟩,
      located, parsed⟩
    exact ⟨after, filled, protocol, host, port, named, remaining, sent, located, parsed⟩
  · rintro ⟨after, filled, protocol, host, port, named, remaining, sent, located, parsed⟩
    exact ⟨(), after, (), filled, protocol, named, (), remaining, (), sent,
      (host, port), located, parsed⟩

/-- A parsed entry is valid. -/
theorem ViaEntry.valid_of_parse
    (parsed : parseEntry input budget = .ok (entry, left)) (reparses : entry.Reparses) :
    entry.Valid := by
  obtain ⟨-, -, protocol, host, port, named, -, -, located, parsed⟩ := parseEntry_eq_ok.mp parsed
  have parameters := validParameters_of_parse parsed reparses.2
    ⟨by simp [ViaEntry.new], .nil, Nat.zero_le _⟩
  obtain ⟨more, rfl⟩ := parseViaParameters_adds parsed
  have hostport := parseSentBy_eq_ok.mp located
  have text := hostText_of_parseHostport hostport reparses.1
  refine ⟨valid_of_parse named, ?_, ?_, parameters⟩
  · exact parseSentBy_eq_ok.mpr (parseHostport_render hostport reparses.1).1
  · cases port with
    | none =>
      rw [ViaEntry.renderSentBy]
      simpa [ViaEntry.new, portText] using text.bare
    | some port =>
      exact text.bare.append_cons (by decide) (bare_digits port.toNat)

/-- A valid entry is parsed from its text. -/
theorem ViaEntry.Valid.parse (valid : entry.Valid) (unlimited : budget.Unlimited) :
    ∃ left, parseEntry entry.render budget = .ok (entry, left) ∧ left.Unlimited := by
  obtain ⟨left, parsed, unlimited⟩ := parseViaParameters_render entry []
    entry.parameters valid.parameters valid.parameters.few unlimited
  have separated : ∀ byte ∈ (entry.parameters.flatMap fun parameter =>
      59 :: parameter.render).head?, (byte != 59) = false := by
    cases entry.parameters <;> simp
  obtain ⟨sentBy, parameters⟩ := span_front (entry.parameters.flatMap fun parameter =>
      59 :: parameter.render)
    (fun byte member => by simpa using valid.bare.unseparated byte member :
      ∀ byte ∈ entry.renderSentBy, (byte != 59) = true) separated
  obtain ⟨protocol, after⟩ := span_front (32 :: (entry.renderSentBy ++
      entry.parameters.flatMap fun parameter => 59 :: parameter.render))
    (fun byte member => by simp [valid.protocol.bare.solid byte member] :
      ∀ byte ∈ entry.sentProtocol.render, (!isWsp byte) = true)
    (by simp [isWsp])
  have remaining := valid.bare.trimStart_append (entry.parameters.flatMap
    fun parameter => 59 :: parameter.render)
  refine ⟨left, ?_, unlimited⟩
  rw [entry.render_eq, parseEntry_eq_ok, protocol, after,
    trimStart_cons_of_wsp (by decide), remaining, sentBy, parameters,
    trim_of_forall valid.bare.solid]
  exact ⟨by simp, valid.protocol.bare.nonempty, entry.sentProtocol, entry.sentByHost,
    entry.sentByPort, valid.protocol.parses, by simp [valid.bare.nonempty],
    valid.bare.nonempty, valid.sentBy, parsed⟩

/-- A text that starts and ends with something else than space, and whose quoted
strings are closed. -/
structure Firm (text : Bytes) : Prop where
  solid : Solid 44 text
  starts : ∃ first rest, text = first :: rest ∧ isWsp first = false
  ends : ∃ front last, text = front ++ [last] ∧ isWsp last = false

theorem Firm.trim (firm : Firm text) : Quoted.trim text = text := by
  obtain ⟨first, rest, front, solidFirst⟩ := firm.starts
  obtain ⟨others, last, back, solidLast⟩ := firm.ends
  refine trim_of_ends ?_ ?_
  · rw [front]
    simpa using solidFirst
  · rw [back]
    simpa using solidLast

theorem Bare.firm (bare : Bare text) : Firm text := by
  refine ⟨solid_of_forall bare.unquoted, ?_, ?_⟩
  · obtain ⟨first, rest, same⟩ := exists_cons_of_ne_nil bare.nonempty
    exact ⟨first, rest, same, bare.solid first (by rw [same]; simp)⟩
  · obtain ⟨front, last, same⟩ := (eq_nil_or_concat text).resolve_left bare.nonempty
    rw [concat_eq_append] at same
    exact ⟨front, last, same, bare.solid last (by rw [same]; simp)⟩

theorem Firm.append_cons
    {first second : Bytes} (left : Firm first) {byte : UInt8}
    (other : byte ≠ 34 ∧ byte ≠ 44) (right : Firm second) :
    Firm (first ++ byte :: second) := by
  have middle : Solid 44 [byte] :=
    solid_of_forall fun each member => by
      rw [mem_singleton.mp member]
      exact other
  obtain ⟨start, others, front, solidStart⟩ := left.starts
  obtain ⟨before, last, back, solidLast⟩ := right.ends
  have joined : first ++ byte :: second = first ++ ([byte] ++ second) := rfl
  refine ⟨?_, ⟨start, others ++ byte :: second, by rw [front]; rfl, solidStart⟩,
    ⟨first ++ byte :: before, last, by rw [back]; simp, solidLast⟩⟩
  rw [joined]
  exact left.solid.append (middle.append right.solid)

theorem firm_quote (printable : ∀ byte ∈ value, isControl byte = false) :
    Firm (quote value) := by
  refine ⟨solid_quote (fun byte member => ?_) (by decide), ⟨34, escape value ++ [34], rfl,
    by decide⟩, ⟨34 :: escape value, 34, rfl, by decide⟩⟩
  have clean := printable byte member
  constructor <;> rintro rfl <;> cases clean

/-- The text of a valid parameter is firm. -/
theorem ViaParameter.Valid.firm (valid : parameter.Valid) : Firm parameter.render := by
  obtain ⟨nonempty, -, token⟩ := valid.name_spec
  have name := (bare_of_token nonempty token).firm
  rw [parameter.render_eq]
  have withValue {value : Bytes} (firm : Firm value) :
      Firm (wireBytes parameter.name ++ 61 :: value) :=
    name.append_cons (by decide) firm
  cases valid with
  | branch valid =>
    obtain ⟨filled, -, all⟩ := validateToken_eq_ok.mp valid
    exact withValue (bare_of_token filled all).firm
  | received reads => exact withValue (bare_renderIpAddr reads).firm
  | rport value =>
    cases value with
    | requested => simpa [ViaParameter.tail] using name
    | value port => exact withValue (bare_digits _).firm
  | maddr text => exact withValue text.bare.firm
  | ttl value => exact withValue (bare_digits _).firm
  | flag named => simpa [ViaParameter.tail] using name
  | token named valid =>
    obtain ⟨filled, -, all⟩ := validateToken_eq_ok.mp valid
    exact withValue (bare_of_token filled all).firm
  | host named text apart => exact withValue text.bare.firm
  | quoted named valid =>
    have printable := (validateQuotedExtensionValue_eq_ok.mp valid).2
    exact withValue (firm_quote fun byte member => by
      simpa using any_eq_false.mp printable byte member)

/-- The text of a valid entry is firm. -/
theorem ViaEntry.Valid.firm (valid : entry.Valid) :
    Firm entry.render := by
  have parameters {text : Bytes} (firm : Firm text) (parameters : List ViaParameter)
      (each : ∀ parameter ∈ parameters, parameter.Valid) :
      Firm (text ++ parameters.flatMap fun parameter => 59 :: parameter.render) := by
    induction parameters generalizing text with
    | nil => simpa using firm
    | cons parameter parameters ih =>
      have longer := ih (firm.append_cons (by decide : (59 : UInt8) ≠ 34 ∧ (59 : UInt8) ≠ 44)
          (each parameter mem_cons_self).firm)
        (fun other member => each other (mem_cons_of_mem _ member))
      rw [flatMap_cons]
      simpa using longer
  rw [entry.render_eq]
  have front := valid.protocol.bare.firm.append_cons
    (by decide : (32 : UInt8) ≠ 34 ∧ (32 : UInt8) ≠ 44) valid.bare.firm
  simpa using parameters front entry.parameters valid.parameters.valid

end Headers
end Sip
end LiveAISIP
