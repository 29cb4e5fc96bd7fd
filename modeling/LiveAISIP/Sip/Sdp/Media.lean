import LiveAISIP.Sip.Sdp.Line
import LiveAISIP.Sip.UriComponents

/-!
# Media descriptions

The value of an `m=` line of `sip/sdp/media.rs`: a media type, a port with an
optional count, a transport protocol and the formats, one space between any two.
Only the port is respelled when a parsed line is written.

Where the source reserves memory, `grants` tells whether a reservation of that
size is granted.
-/

namespace LiveAISIP
namespace Sip
namespace Sdp

open Ascii Text Outcome
open List

variable {input : Bytes}

/-- Maximum number of formats on one media line. -/
def maxMediaFormats : Nat := 64

/-- Maximum size of a media, transport or format token. -/
def maxMediaTokenBytes : Nat := 128

/-- Failure to parse or construct a media line. -/
inductive MediaError
  | invalidToken
  | invalidProtocol
  | invalidSyntax
  | invalidNumber
  | invalidPort
  | invalidPortRange
  | missingFormats
  | tooManyFormats (maximum : Nat)
  | invalidPayloadType
  | allocationFailed
  deriving DecidableEq

/-- Letters, digits and the marks of a token. -/
def isToken (byte : UInt8) : Bool :=
  isAlphanumeric byte || [45, 46, 33, 37, 42, 95, 43, 96, 39, 126].contains byte

/-- A bounded token. -/
def validateToken (input : Bytes) : Except MediaError Unit :=
  if input = [] ∨ maxMediaTokenBytes < input.length ∨ ¬input.all isToken then .error .invalidToken
  else .ok ()

/-- A bounded token with slashes. -/
def validateProtocol (input : Bytes) : Except MediaError Unit :=
  if input = [] ∨ maxMediaTokenBytes < input.length ∨
      ¬input.all (fun byte => isToken byte || byte == 47) then
    .error .invalidProtocol
  else .ok ()

/-- Media type. -/
inductive MediaType
  | audio
  | video
  | text
  | application
  | message
  | extension (value : String)
  deriving DecidableEq

namespace MediaType

/-- The media type of a token. -/
def ofToken (value : String) : MediaType :=
  if value = "audio" then audio
  else if value = "video" then video
  else if value = "text" then text
  else if value = "application" then application
  else if value = "message" then message
  else extension value

/-- Parse a media token. -/
def fromBytes (input : Bytes) : Except MediaError MediaType := do
  validateToken input
  match fromUtf8 input with
  | none => .error .invalidToken
  | some value => return ofToken value

/-- The token of a media type. -/
def asStr : MediaType → String
  | audio => "audio"
  | video => "video"
  | text => "text"
  | application => "application"
  | message => "message"
  | extension value => value

theorem asStr_ofToken (value : String) : (ofToken value).asStr = value := by
  rw [ofToken]
  split_ifs with audio video text application message
  · exact audio.symm
  · exact video.symm
  · exact text.symm
  · exact application.symm
  · exact message.symm
  · rfl

end MediaType

/-- Media transport protocol. -/
inductive TransportProtocol
  | rtpAvp
  | rtpSavp
  | rtpAvpf
  | rtpSavpf
  | udpTlsRtpSavpf
  | extension (value : String)
  deriving DecidableEq

namespace TransportProtocol

/-- The protocol of a token. -/
def ofToken (value : String) : TransportProtocol :=
  if value = "RTP/AVP" then rtpAvp
  else if value = "RTP/SAVP" then rtpSavp
  else if value = "RTP/AVPF" then rtpAvpf
  else if value = "RTP/SAVPF" then rtpSavpf
  else if value = "UDP/TLS/RTP/SAVPF" then udpTlsRtpSavpf
  else extension value

/-- Parse a protocol token. -/
def fromBytes (input : Bytes) : Except MediaError TransportProtocol := do
  validateProtocol input
  match fromUtf8 input with
  | none => .error .invalidProtocol
  | some value => return ofToken value

/-- The token of a protocol. -/
def asStr : TransportProtocol → String
  | rtpAvp => "RTP/AVP"
  | rtpSavp => "RTP/SAVP"
  | rtpAvpf => "RTP/AVPF"
  | rtpSavpf => "RTP/SAVPF"
  | udpTlsRtpSavpf => "UDP/TLS/RTP/SAVPF"
  | extension value => value

/-- The profile protects its media. -/
def isSecure : TransportProtocol → Bool
  | rtpSavp | rtpSavpf | udpTlsRtpSavpf => true
  | rtpAvp | rtpAvpf | extension _ => false

theorem asStr_ofToken (value : String) : (ofToken value).asStr = value := by
  rw [ofToken]
  split_ifs with avp savp avpf savpf tls
  · exact avp.symm
  · exact savp.symm
  · exact avpf.symm
  · exact savpf.symm
  · exact tls.symm
  · rfl

end TransportProtocol

/-- One media format token. -/
structure MediaFormat where
  value : String
  deriving DecidableEq

/-- Create a format token. -/
def MediaFormat.new (value : String) : Except MediaError MediaFormat := do
  validateToken (wireBytes value)
  return ⟨value⟩

/-- The number of values of 32 bits. -/
def u32Size : Nat := 4294967296

/-- A decimal number of 32 bits. -/
def parseU32 (input : Bytes) : Except MediaError Nat :=
  if input = [] ∨ ¬input.all isDigit then .error .invalidNumber
  else
    match decimalBelow u32Size 0 input with
    | none => .error .invalidNumber
    | some value => .ok value

/-- A decimal number of sixteen bits. -/
def parseU16 (input : Bytes) : Except MediaError UInt16 := do
  let value ← parseU32 input
  if 65535 < value then .error .invalidPort
  else .ok value.toUInt16

/-- A port with the number of ports from there on. -/
def parsePort (input : Bytes) : Except MediaError (UInt16 × UInt16) :=
  match input.splitOn 47 with
  | [port] => do
    let port ← parseU16 port
    return (port, 1)
  | port :: count :: rest => do
    let port ← parseU16 port
    let count ← parseU16 count
    if rest ≠ [] then .error .invalidPort
    else .ok (port, count)
  | [] => .error .invalidPort

/-- The text of a port; a single port has no count. -/
def portText (port count : UInt16) : Bytes :=
  digits port.toNat ++ if count ≠ 1 then 47 :: digits count.toNat else []

/-- The value of an `m=` line. -/
structure MediaLine where
  media : MediaType
  port : UInt16
  portCount : UInt16
  protocol : TransportProtocol
  formats : List MediaFormat
  deriving DecidableEq

namespace MediaLine

/-- Create a media line; its ports stay in range. -/
def new
    (media : MediaType) (port portCount : UInt16) (protocol : TransportProtocol)
    (formats : List MediaFormat) : Except MediaError MediaLine :=
  if portCount = 0 ∨ 65535 < port.toNat + (portCount.toNat - 1) then .error .invalidPortRange
  else if formats = [] then .error .missingFormats
  else if maxMediaFormats < formats.length then .error (.tooManyFormats maxMediaFormats)
  else .ok ⟨media, port, portCount, protocol, formats⟩

/-- The formats in order. -/
def parseFormats : List Bytes → Except MediaError (List MediaFormat)
  | [] => .ok []
  | input :: rest => do
    let format ←
      match fromUtf8 input with
      | none => .error .invalidToken
      | some value => MediaFormat.new value
    let formats ← parseFormats rest
    return format :: formats

/-- Parse the value of an `m=` line. -/
def fromBytes (grants : Nat → Bool) (input : Bytes) : Except MediaError MediaLine :=
  if input = [] ∨ input.contains 9 ∨ input.any (fun byte => byte == 13 || byte == 10) then
    .error .invalidSyntax
  else
    match input.splitOn 32 with
    | media :: port :: protocol :: format :: formats =>
      if (media :: port :: protocol :: format :: formats).any isEmpty then .error .invalidSyntax
      else do
        let media ← MediaType.fromBytes media
        let (port, portCount) ← parsePort port
        let protocol ← TransportProtocol.fromBytes protocol
        ensure ((format :: formats).length ≤ maxMediaFormats) (.tooManyFormats maxMediaFormats)
        ensure (grants (format :: formats).length = true) .allocationFailed
        let formats ← parseFormats (format :: formats)
        new media port portCount protocol formats
    | _ => .error .invalidSyntax

/-- The text of a media line. -/
def render (line : MediaLine) : Bytes :=
  wireBytes line.media.asStr ++ 32 :: portText line.port line.portCount ++
    32 :: wireBytes line.protocol.asStr ++
    line.formats.flatMap fun format => 32 :: wireBytes format.value

end MediaLine

theorem parseU32_eq_ok {value : Nat} (parsed : parseU32 input = .ok value) :
    (digits value).length ≤ input.length := by
  rw [parseU32] at parsed
  split_ifs at parsed with refused
  obtain ⟨nonempty, decimals⟩ := not_or.mp refused
  cases read : decimalBelow u32Size 0 input with
  | none => simp [read] at parsed
  | some found =>
    simp only [read, Except.ok.injEq] at parsed
    subst parsed
    exact length_digits_of_decimalBelow nonempty (not_not.mp decimals) read

theorem parseU16_eq_ok {value : UInt16} (parsed : parseU16 input = .ok value) :
    (digits value.toNat).length ≤ input.length := by
  obtain ⟨number, read, parsed⟩ := bind_eq_ok.mp parsed
  split_ifs at parsed with large
  cases parsed
  have exact_ : number.toUInt16.toNat = number := by
    simp only [Nat.toUInt16, UInt16.toNat_ofNat']
    omega
  rw [exact_]
  exact parseU32_eq_ok read

theorem parseU16_digits (value : UInt16) :
    parseU16 (digits value.toNat) = .ok value := by
  have below := value.toNat_lt
  have decimals : (digits value.toNat).all isDigit = true :=
    all_eq_true.mpr fun byte member => isDigit_of_mem_digits member
  have read : parseU32 (digits value.toNat) = .ok value.toNat := by
    rw [parseU32, if_neg (by simp [digits_ne_nil, decimals]),
      decimalBelow_digits (by rw [u32Size]; omega)]
  rw [parseU16, read]
  simp only [ok_bind]
  rw [if_neg (by omega)]
  simp

/-- What a respelled port has to be in order to stand in a media line. -/
structure PortSpelling (text : Bytes) (port count : UInt16) : Prop where
  parses : parsePort text = .ok (port, count)
  nonempty : text ≠ []
  plain : ∀ byte ∈ text, isDigit byte = true ∨ byte = 47

theorem mem_portText
    {port count : UInt16} {byte : UInt8} (member : byte ∈ portText port count) :
    isDigit byte = true ∨ byte = 47 := by
  rw [portText, mem_append] at member
  obtain first | second := member
  · exact .inl (isDigit_of_mem_digits first)
  · split_ifs at second
    · obtain rfl | second := mem_cons.mp second
      · exact .inr rfl
      · exact .inl (isDigit_of_mem_digits second)
    · cases second

/-- The text of a port is parsed as the port. -/
theorem portSpelling_portText (port count : UInt16) :
    PortSpelling (portText port count) port count := by
  have slash (value : Nat) : 47 ∉ digits value := by
    intro member
    have digit := isDigit_of_mem_digits member
    cases digit
  refine ⟨?_, by simp [portText, digits_ne_nil], fun byte member => mem_portText member⟩
  by_cases single : count = 1
  · have split : (portText port count).splitOn 47 = [digits port.toNat] := by
      have joined : ([47].intercalate [digits port.toNat]).splitOn 47 = [digits port.toNat] :=
        splitOn_intercalate 47 (by simp [slash]) (by simp)
      simpa [portText, single] using joined
    rw [parsePort, split, single]
    simp only [parseU16_digits, ok_bind]
    rfl
  · have split : (portText port count).splitOn 47 =
        [digits port.toNat, digits count.toNat] := by
      have joined : ([47].intercalate [digits port.toNat, digits count.toNat]).splitOn 47 =
          [digits port.toNat, digits count.toNat] :=
        splitOn_intercalate 47 (by simp [slash]) (by simp)
      simpa [portText, single] using joined
    rw [parsePort, split]
    simp only [parseU16_digits, ok_bind]
    rfl

/-- The text of a port is its shortest spelling. -/
theorem length_portText {port count : UInt16} (parsed : parsePort input = .ok (port, count)) :
    (portText port count).length ≤ input.length := by
  have joined : [47].intercalate (input.splitOn 47) = input := intercalate_splitOn 47
  rw [parsePort] at parsed
  match pieces : input.splitOn 47 with
  | [] => simp [pieces] at parsed
  | [first] =>
    simp only [pieces] at parsed joined
    obtain ⟨number, read, parsed⟩ := bind_eq_ok.mp parsed
    cases parsed
    rw [← joined]
    simpa [portText] using parseU16_eq_ok read
  | first :: second :: rest =>
    simp only [pieces] at parsed joined
    obtain ⟨number, read, parsed⟩ := bind_eq_ok.mp parsed
    obtain ⟨amount, readCount, parsed⟩ := bind_eq_ok.mp parsed
    split_ifs at parsed with more
    cases parsed
    obtain rfl : rest = [] := not_not.mp more
    rw [← joined]
    have firstLength := parseU16_eq_ok read
    have secondLength := parseU16_eq_ok readCount
    rw [portText]
    split_ifs
    all_goals
      simp [intercalate_cons_cons]
      omega

theorem validateToken_eq_ok {checked : Unit} (valid : validateToken input = .ok checked) :
    ∀ byte ∈ input, byte < 128 := by
  rw [validateToken] at valid
  split_ifs at valid with refused
  have tokens : input.all isToken = true := by
    by_contra other
    exact refused (.inr (.inr other))
  have ascii : ∀ byte, isToken byte = true → byte < 128 := by
    intro byte
    simp [isToken, isAlphanumeric, isAlphabetic, isDigit, UInt8.le_iff_toNat_le,
      UInt8.lt_iff_toNat_lt, ← UInt8.toNat_inj]
    omega
  exact fun byte member => ascii byte (all_eq_true.mp tokens byte member)

theorem validateProtocol_eq_ok {checked : Unit} (valid : validateProtocol input = .ok checked) :
    ∀ byte ∈ input, byte < 128 := by
  rw [validateProtocol] at valid
  split_ifs at valid with refused
  have tokens : input.all (fun byte => isToken byte || byte == 47) = true := by
    by_contra other
    exact refused (.inr (.inr other))
  have ascii : ∀ byte, (isToken byte || byte == 47) = true → byte < 128 := by
    intro byte
    simp [isToken, isAlphanumeric, isAlphabetic, isDigit, UInt8.le_iff_toNat_le,
      UInt8.lt_iff_toNat_lt, ← UInt8.toNat_inj]
    omega
  exact fun byte member => ascii byte (all_eq_true.mp tokens byte member)

theorem MediaType.fromBytes_eq_ok {media : MediaType} (parsed : fromBytes input = .ok media) :
    wireBytes media.asStr = input ∧ ∀ byte ∈ input, byte < 128 := by
  obtain ⟨_, valid, parsed⟩ := bind_eq_ok.mp parsed
  refine ⟨?_, validateToken_eq_ok valid⟩
  cases decoded : fromUtf8 input with
  | none => simp [decoded] at parsed
  | some value =>
    simp only [decoded] at parsed
    cases parsed
    rw [asStr_ofToken]
    exact toUTF8_of_fromUtf8 decoded

theorem TransportProtocol.fromBytes_eq_ok
    {protocol : TransportProtocol}
    (parsed : fromBytes input = .ok protocol) :
    wireBytes protocol.asStr = input ∧ ∀ byte ∈ input, byte < 128 := by
  obtain ⟨_, valid, parsed⟩ := bind_eq_ok.mp parsed
  refine ⟨?_, validateProtocol_eq_ok valid⟩
  cases decoded : fromUtf8 input with
  | none => simp [decoded] at parsed
  | some value =>
    simp only [decoded] at parsed
    cases parsed
    rw [asStr_ofToken]
    exact toUTF8_of_fromUtf8 decoded

theorem MediaFormat.new_eq_ok
    {value : String} {format : MediaFormat} (made : MediaFormat.new value = .ok format) :
    format.value = value ∧ ∀ byte ∈ wireBytes value, byte < 128 := by
  obtain ⟨_, valid, returned⟩ := bind_eq_ok.mp made
  cases returned
  exact ⟨rfl, validateToken_eq_ok valid⟩

namespace MediaLine

theorem parseFormats_eq_ok
    {inputs : List Bytes} {formats : List MediaFormat}
    (parsed : parseFormats inputs = .ok formats) :
    formats.map (fun format => wireBytes format.value) = inputs ∧
      ∀ input ∈ inputs, ∀ byte ∈ input, byte < 128 := by
  induction inputs generalizing formats with
  | nil =>
    cases parsed
    simp
  | cons input inputs ih =>
    rw [parseFormats] at parsed
    cases decoded : fromUtf8 input with
    | none => simp [decoded] at parsed
    | some value =>
      simp only [decoded] at parsed
      obtain ⟨format, made, parsed⟩ := bind_eq_ok.mp parsed
      obtain ⟨rest, parsesRest, returned⟩ := bind_eq_ok.mp parsed
      cases returned
      obtain ⟨same, ascii⟩ := MediaFormat.new_eq_ok made
      obtain ⟨others, asciiRest⟩ := ih parsesRest
      have bytes : wireBytes value = input := toUTF8_of_fromUtf8 decoded
      rw [bytes] at ascii
      refine ⟨by rw [map_cons, same, others, bytes], ?_⟩
      simpa using ⟨ascii, asciiRest⟩

theorem new_eq_ok
    {media : MediaType} {port count : UInt16} {protocol : TransportProtocol}
    {formats : List MediaFormat} {line : MediaLine}
    (made : new media port count protocol formats = .ok line) :
    line = ⟨media, port, count, protocol, formats⟩ := by
  have made := returned_of_refusal (returned_of_refusal (returned_of_refusal made))
  cases made
  rfl

theorem not_broken_iff {input : Bytes} : ¬(input = [] ∨ input.contains 9 ∨
        input.any (fun byte => byte == 13 || byte == 10)) ↔
      input ≠ [] ∧ ∀ byte ∈ input, byte ≠ 9 ∧ byte ≠ 13 ∧ byte ≠ 10 := by
  simp only [not_or, contains_iff_mem, any_eq_true, Bool.or_eq_true,
    beq_iff_eq, not_exists, not_and]
  constructor
  · rintro ⟨nonempty, tab, ends⟩
    refine ⟨nonempty, fun byte member => ⟨?_, ends byte member⟩⟩
    rintro rfl
    exact tab member
  · rintro ⟨nonempty, plain⟩
    exact ⟨nonempty, fun member => (plain 9 member).1 rfl, fun byte member => (plain byte member).2⟩

/-- A media line is written as it was read but for its port, and is parsed from any
other spelling of the port between the same texts. -/
theorem fromBytes_eq_ok
    {grants grants' : Nat → Bool} {input : Bytes} {line : MediaLine}
    (parsed : fromBytes grants input = .ok line) (granted : ∀ size, grants' size = true) :
    ∃ front port back, input = front ++ 32 :: (port ++ 32 :: back) ∧ 32 ∉ front ∧ 32 ∉ port ∧
      parsePort port = .ok (line.port, line.portCount) ∧
      (∀ byte ∈ front ++ back, byte < 128) ∧
      line.render = front ++ 32 :: (portText line.port line.portCount ++ 32 :: back) ∧
      ∀ other, PortSpelling other line.port line.portCount →
        fromBytes grants' (front ++ 32 :: (other ++ 32 :: back)) = .ok line := by
  rw [fromBytes] at parsed
  split_ifs at parsed with breaks
  match pieces : input.splitOn 32 with
  | [] | [_] | [_, _] | [_, _, _] => simp [pieces] at parsed
  | front :: port :: protocol :: format :: formats =>
    simp only [pieces] at parsed
    split_ifs at parsed with blank
    obtain ⟨media, parsesMedia, parsed⟩ := bind_eq_ok.mp parsed
    obtain ⟨⟨number, count⟩, parsesPort, parsed⟩ := bind_eq_ok.mp parsed
    obtain ⟨transport, parsesProtocol, parsed⟩ := bind_eq_ok.mp parsed
    obtain ⟨_, few, parsed⟩ := bind_eq_ok.mp parsed
    obtain ⟨_, -, parsed⟩ := bind_eq_ok.mp parsed
    obtain ⟨tokens, parsesFormats, made⟩ := bind_eq_ok.mp parsed
    obtain rfl := new_eq_ok made
    obtain ⟨after, rfl, noSpace, split⟩ := exists_of_splitOn pieces
    obtain ⟨back, rfl, noSpacePort, splitBack⟩ := exists_of_splitOn split
    have joined : back = protocol ++ ((format :: formats).flatMap fun format => 32 :: format) := by
      have whole : [32].intercalate (back.splitOn 32) = back := intercalate_splitOn 32
      rw [flatMap_separated 32 (by simp), joinBytes, ← whole, splitBack, intercalate_cons_cons]
      simp
    obtain ⟨sameMedia, asciiMedia⟩ := MediaType.fromBytes_eq_ok parsesMedia
    obtain ⟨sameProtocol, asciiProtocol⟩ := TransportProtocol.fromBytes_eq_ok parsesProtocol
    obtain ⟨sameFormats, asciiFormats⟩ := parseFormats_eq_ok parsesFormats
    refine ⟨front, port, back, rfl, noSpace, noSpacePort, parsesPort, ?_, ?_, ?_⟩
    · rw [joined]
      simp only [mem_append, mem_flatMap, mem_cons]
      rintro byte (member | member | ⟨token, isFormat, rfl | member⟩)
      · exact asciiMedia byte member
      · exact asciiProtocol byte member
      · decide
      · exact asciiFormats token (mem_cons.mpr isFormat) byte member
    · rw [render, sameMedia, sameProtocol, joined, ← sameFormats, flatMap_map]
      simp
    · intro other spelling
      have absent : 32 ∉ other := by
        intro member
        obtain digit | slash := spelling.plain 32 member
        · cases digit
        · cases slash
      have again : (front ++ 32 :: (other ++ 32 :: back)).splitOn 32 =
          front :: other :: protocol :: format :: formats := by
        rw [splitOn_append_cons_self_of_not_mem noSpace,
          splitOn_append_cons_self_of_not_mem absent, splitBack]
      have plain : ∀ byte ∈ other, byte ≠ 9 ∧ byte ≠ 13 ∧ byte ≠ 10 := by
        intro byte member
        have checked : ∀ byte, isDigit byte = true ∨ byte = 47 →
            byte ≠ 9 ∧ byte ≠ 13 ∧ byte ≠ 10 := by
          intro byte
          simp [isDigit, UInt8.le_iff_toNat_le, ← UInt8.toNat_inj]
          omega
        exact checked byte (spelling.plain byte member)
      have unbroken : ∀ byte ∈ front ++ 32 :: (other ++ 32 :: back),
          byte ≠ 9 ∧ byte ≠ 13 ∧ byte ≠ 10 := by
        have received := (not_broken_iff.mp breaks).2
        simp only [mem_append, mem_cons] at received ⊢
        rintro byte (member | rfl | member | rfl | member)
        · exact received byte (.inl member)
        · decide
        · exact plain byte member
        · decide
        · exact received byte (.inr (.inr (.inr (.inr member))))
      have filled : ¬(front :: other :: protocol :: format :: formats).any isEmpty := by
        simp only [any_cons, List.isEmpty_iff, Bool.or_eq_true, not_or] at blank ⊢
        exact ⟨blank.1, spelling.nonempty, blank.2.2⟩
      rw [fromBytes, if_neg (not_broken_iff.mpr ⟨by simp, unbroken⟩)]
      simp only [again]
      rw [if_neg filled, parsesMedia, spelling.parses, parsesProtocol, parsesFormats]
      simp only [ok_bind, granted, few, ensure_of]
      exact made

end MediaLine

end Sdp
end Sip
end LiveAISIP
