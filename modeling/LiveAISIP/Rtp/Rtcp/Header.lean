import LiveAISIP.Library.Ascii
import LiveAISIP.Library.BigEndian
import LiveAISIP.Library.Fault
import LiveAISIP.Rtp.Padding

/-!
# RTCP common headers

The common header of `rtp/packet/rtcp/header.rs`: version, padding bit, a
five-bit count, the packet type and the length in words.  A frame is one packet
on the wire: what the header says about it, its body and its padding.
-/

namespace LiveAISIP
namespace Rtp

open Ascii BigEndian Fault Outcome

/-- RTCP protocol version. -/
def rtcpVersion : UInt8 := 2

/-- Size of the common header. -/
def rtcpHeaderBytes : Nat := 4

/-- Smallest packet type of the multiplexing range. -/
def minRtcpPacketType : UInt8 := 192

/-- Largest packet type of the multiplexing range. -/
def maxRtcpPacketType : UInt8 := 223

/-- Largest packet of whole words in a UDP payload. -/
def maxRtcpPacketBytes : Nat := 65504

/-- Largest value of the count field. -/
def maxRtcpCount : UInt8 := 31

/-- RTCP packet type. -/
inductive RtcpPacketType
  | fir
  | nack
  | senderReport
  | receiverReport
  | sourceDescription
  | goodbye
  | applicationDefined
  | transportFeedback
  | payloadFeedback
  | extendedReport
  | other (value : UInt8)
  deriving DecidableEq

/-- Failure to parse or construct a common header. -/
inductive RtcpHeaderError
  | truncated (required available : Nat)
  | unsupportedVersion (version : UInt8)
  | packetTypeOutOfRange (packetType : UInt8)
  | countOutOfRange (count : UInt8)
  | packetTooShort (actual minimum : Nat)
  | packetNotWordAligned (actual : Nat)
  | packetTooLarge (actual maximum : Nat)
  | lengthOverflow
  | zeroPaddingLength
  | paddingExceedsBody (padding available : Nat)
  deriving DecidableEq

namespace RtcpPacketType

/-- Classify a packet-type octet. -/
def fromRaw (value : UInt8) : Except RtcpHeaderError RtcpPacketType :=
  match value.toNat with
  | 192 => .ok .fir
  | 193 => .ok .nack
  | 200 => .ok .senderReport
  | 201 => .ok .receiverReport
  | 202 => .ok .sourceDescription
  | 203 => .ok .goodbye
  | 204 => .ok .applicationDefined
  | 205 => .ok .transportFeedback
  | 206 => .ok .payloadFeedback
  | 207 => .ok .extendedReport
  | _ =>
    if minRtcpPacketType ≤ value ∧ value ≤ maxRtcpPacketType then .ok (.other value)
    else .error (.packetTypeOutOfRange value)

/-- The packet-type octet. -/
def asRaw : RtcpPacketType → UInt8
  | .fir => 192
  | .nack => 193
  | .senderReport => 200
  | .receiverReport => 201
  | .sourceDescription => 202
  | .goodbye => 203
  | .applicationDefined => 204
  | .transportFeedback => 205
  | .payloadFeedback => 206
  | .extendedReport => 207
  | .other value => value

/-- A classified octet is the octet of its type. -/
theorem asRaw_of_fromRaw {value : UInt8} {packetType : RtcpPacketType}
    (classified : fromRaw value = .ok packetType) :
    packetType.asRaw = value := by
  have checked : ∀ value : UInt8, (fromRaw value).toOption.all (·.asRaw == value) = true :=
    forall_byte (by decide +kernel)
  simpa [classified, Except.toOption] using checked value

end RtcpPacketType

/-- A common header with its resolved packet boundary. -/
structure RtcpHeader where
  padding : Bool
  count : UInt8
  packetType : RtcpPacketType
  packetLen : Nat
  paddingBytes : UInt8

/-- The first octet: version, padding bit and count. -/
def rtcpFirstByte (padding : Bool) (count : UInt8) : UInt8 :=
  rtcpVersion <<< 6 ||| padding.toUInt8 <<< 5 ||| count

namespace RtcpHeader

/-- Read the padding count of a packet that announces padding. -/
def parsePadding (input : List UInt8) (padding : Bool) (packetLen : Nat) :
    Except (Fault RtcpHeaderError) UInt8 :=
  if padding then do
    let value ← byteAt input (packetLen - 1)
    require (value ≠ 0) .zeroPaddingLength
    require (value.toNat ≤ packetLen - rtcpHeaderBytes)
      (.paddingExceedsBody value.toNat (packetLen - rtcpHeaderBytes))
    return value
  else .ok 0

/-- Parse a common header and check its whole declared boundary. -/
def parse (input : List UInt8) : Except (Fault RtcpHeaderError) RtcpHeader := do
  require (rtcpHeaderBytes ≤ input.length) (.truncated rtcpHeaderBytes input.length)
  let first ← byteAt input 0
  require (first >>> 6 = rtcpVersion) (.unsupportedVersion (first >>> 6))
  let second ← byteAt input 1
  let packetType ← (RtcpPacketType.fromRaw second).mapError .refused
  let lengthWordsMinusOne ← range input 2 4
  let packetLen := ((halfOf lengthWordsMinusOne.val).toNat + 1) * 4
  require (packetLen ≤ maxRtcpPacketBytes) (.packetTooLarge packetLen maxRtcpPacketBytes)
  require (packetLen ≤ input.length) (.truncated packetLen input.length)
  let paddingBytes ← parsePadding input (first &&& 0x20 != 0) packetLen
  return {
    padding := first &&& 0x20 != 0
    count := first &&& 0x1f
    packetType := packetType
    packetLen := packetLen
    paddingBytes := paddingBytes }

/-- Check the length of a packet to be built. -/
def validatePacketLen (packetLen : Nat) : Except RtcpHeaderError Unit := do
  ensure (rtcpHeaderBytes ≤ packetLen) (.packetTooShort packetLen rtcpHeaderBytes)
  ensure (4 ∣ packetLen) (.packetNotWordAligned packetLen)
  ensure (packetLen ≤ maxRtcpPacketBytes) (.packetTooLarge packetLen maxRtcpPacketBytes)

/-- Construct a common header for a packet of known size. -/
def new (count : UInt8) (packetType : RtcpPacketType) (packetLen : Nat)
    (paddingBytes : UInt8) : Except RtcpHeaderError RtcpHeader := do
  ensure (count ≤ maxRtcpCount) (.countOutOfRange count)
  let _ ← RtcpPacketType.fromRaw packetType.asRaw
  validatePacketLen packetLen
  ensure (paddingBytes.toNat ≤ packetLen - rtcpHeaderBytes)
    (.paddingExceedsBody paddingBytes.toNat (packetLen - rtcpHeaderBytes))
  return {
    padding := paddingBytes != 0
    count := count
    packetType := packetType
    packetLen := packetLen
    paddingBytes := paddingBytes }

/-- Construct the header of a packet that has a number of elements. -/
def forCount (wrap : RtcpHeaderError → ε) (overflow : ε) (packetType : RtcpPacketType)
    (count packetLen : Nat) (paddingBytes : UInt8) : Except ε RtcpHeader := do
  ensure (count ≤ 255) overflow
  (new count.toUInt8 packetType packetLen paddingBytes).mapError wrap

/-- The length of the body without its padding. -/
def unpaddedBodyLen (header : RtcpHeader) : Nat :=
  header.packetLen - rtcpHeaderBytes - header.paddingBytes.toNat

/-- Encode the four octets of a common header. -/
def encode (header : RtcpHeader) : Except RtcpHeaderError (List UInt8) := do
  let words := header.packetLen / 4
  ensure (1 ≤ words) .lengthOverflow
  ensure (words - 1 ≤ 65535) .lengthOverflow
  return [rtcpFirstByte header.padding header.count, header.packetType.asRaw] ++
    halfBytes (words - 1).toUInt16

end RtcpHeader

/-- One RTCP packet on the wire. -/
structure Frame where
  packetType : RtcpPacketType
  count : UInt8
  body : List UInt8
  paddingBytes : UInt8
  filler : List UInt8
  known : RtcpPacketType.fromRaw packetType.asRaw = .ok packetType
  count_le : count ≤ maxRtcpCount
  aligned : 4 ∣ body.length + paddingBytes.toNat
  fits : rtcpHeaderBytes + body.length + paddingBytes.toNat ≤ maxRtcpPacketBytes
  sized : filler.length = paddingBytes.toNat - 1

namespace Frame

/-- The length of a frame. -/
def length (frame : Frame) : Nat := rtcpHeaderBytes + frame.body.length + frame.paddingBytes.toNat

/-- The header of a frame. -/
def header (frame : Frame) : RtcpHeader :=
  { padding := frame.paddingBytes != 0
    count := frame.count
    packetType := frame.packetType
    packetLen := frame.length
    paddingBytes := frame.paddingBytes }

/-- The octets of the common header. -/
def headerBytes (frame : Frame) : List UInt8 :=
  [rtcpFirstByte (frame.paddingBytes != 0) frame.count, frame.packetType.asRaw] ++
    halfBytes (frame.length / 4 - 1).toUInt16

/-- The octets of a frame. -/
def bytes (frame : Frame) : List UInt8 :=
  frame.headerBytes ++ (frame.body ++ paddingWith frame.paddingBytes frame.filler)

theorem length_headerBytes (frame : Frame) :
    frame.headerBytes.length = rtcpHeaderBytes := by
  simp [headerBytes, rtcpHeaderBytes]

theorem length_bytes (frame : Frame) : frame.bytes.length = frame.length := by
  simp only [bytes, List.length_append, length_headerBytes, length_paddingWith frame.sized, length]
  omega

theorem unpaddedBodyLen_header (frame : Frame) :
    frame.header.unpaddedBodyLen = frame.body.length := by
  simp only [RtcpHeader.unpaddedBodyLen, header, length]
  omega

/-- What follows the common header. -/
theorem drop_header (frame : Frame) : frame.bytes.drop rtcpHeaderBytes =
      frame.body ++ paddingWith frame.paddingBytes frame.filler := by
  rw [bytes, ← frame.length_headerBytes, List.drop_left]

/-- The slice of the input that holds a frame. -/
theorem safe_packet (frame : Frame) (rest : List UInt8) :
    Safe (fun packet => packet.val = frame.bytes)
      (range (frame.bytes ++ rest) 0 frame.header.packetLen : Except (Fault ε) _) := by
  have length : frame.bytes.length = frame.header.packetLen := frame.length_bytes
  have inside : frame.header.packetLen ≤ (frame.bytes ++ rest).length := by
    rw [List.length_append, length]
    omega
  refine (safe_range (Nat.zero_le _) inside).mono fun packet stands => ?_
  have size := packet.property
  exact (List.append_inj stands (by omega)).1.symm

theorem range_packet (frame : Frame) (rest : List UInt8) :
    ∃ packet, (range (frame.bytes ++ rest) 0 frame.header.packetLen :
        Except (Fault ε) _) = .ok packet ∧ packet.val = frame.bytes := by
  have length : frame.bytes.length = frame.header.packetLen := frame.length_bytes
  refine ⟨⟨frame.bytes, length⟩, range_of_drop (List.drop_zero ..) length ?_, rfl⟩
  rw [List.length_append, length]
  exact ⟨Nat.zero_le _, Nat.le_add_right _ _⟩

/-- The frame with zeros in its padding. -/
def zeroed (frame : Frame) : Frame :=
  { frame with
    filler := List.replicate (frame.paddingBytes.toNat - 1) 0
    sized := List.length_replicate }

theorem bytes_zeroed (frame : Frame) :
    frame.zeroed.bytes = frame.headerBytes ++ (frame.body ++ zeroPadding frame.paddingBytes) :=
  rfl

theorem four_dvd_length (frame : Frame) : 4 ∣ frame.length := by
  have aligned := frame.aligned
  simp only [length, rtcpHeaderBytes]
  omega

end Frame

/-- The frame of a checked body. -/
theorem Frame.exists_of
    {packetType : RtcpPacketType} {count : Nat} {body : List UInt8} {paddingBytes : UInt8}
    (known : RtcpPacketType.fromRaw packetType.asRaw = .ok packetType)
    (few : count ≤ 31) (aligned : 4 ∣ body.length + paddingBytes.toNat)
    (fits : rtcpHeaderBytes + body.length + paddingBytes.toNat ≤ maxRtcpPacketBytes) :
    ∃ frame : Frame, frame.packetType = packetType ∧ frame.count.toNat = count ∧
      frame.body = body ∧ frame.paddingBytes = paddingBytes := by
  have octet : count.toUInt8.toNat = count := by
    rw [Nat.toUInt8_eq, UInt8.toNat_ofNat', Nat.mod_eq_of_lt (by omega)]
  have small : count.toUInt8 ≤ maxRtcpCount := by
    rw [UInt8.le_iff_toNat_le, octet]
    exact few
  exact ⟨⟨packetType, count.toUInt8, body, paddingBytes, List.replicate _ 0, known, small,
    aligned, fits, List.length_replicate⟩, rfl, octet, rfl, rfl⟩

/-- The fields of the first octet are read back. -/
theorem rtcpFirstByte_fields (padding : Bool) {count : UInt8}
    (small : count ≤ maxRtcpCount) :
    rtcpFirstByte padding count >>> 6 = rtcpVersion ∧ rtcpFirstByte padding count &&& 0x1f = count ∧
      (rtcpFirstByte padding count &&& 0x20 != 0) = padding := by
  have checked : ∀ count : UInt8, count ≤ maxRtcpCount → ∀ padding : Bool,
      rtcpFirstByte padding count >>> 6 = rtcpVersion ∧
        rtcpFirstByte padding count &&& 0x1f = count ∧
        (rtcpFirstByte padding count &&& 0x20 != 0) = padding :=
    forall_byte (by decide +kernel)
  exact checked count small padding

/-- A first octet of the right version is made of its fields. -/
theorem rtcpFirstByte_of_version {byte : UInt8} (version : byte >>> 6 = rtcpVersion) :
    rtcpFirstByte (byte &&& 0x20 != 0) (byte &&& 0x1f) = byte ∧ byte &&& 0x1f ≤ maxRtcpCount := by
  have checked : ∀ byte : UInt8, byte >>> 6 = rtcpVersion →
      rtcpFirstByte (byte &&& 0x20 != 0) (byte &&& 0x1f) = byte ∧ byte &&& 0x1f ≤ maxRtcpCount :=
    forall_byte (by decide +kernel)
  exact checked byte version

/-- The length field of a whole number of words. -/
theorem lengthField {words : Nat} (small : words * 4 ≤ maxRtcpPacketBytes)
    (positive : 0 < words) :
    ((words - 1).toUInt16.toNat + 1) * 4 = words * 4 := by
  have bound : words * 4 ≤ 65504 := small
  rw [Nat.toUInt16_eq, UInt16.toNat_ofNat', Nat.mod_eq_of_lt (by omega)]
  omega

namespace RtcpHeader

variable {packetType : RtcpPacketType} {packetLen : Nat} {paddingBytes : UInt8}

/-- The header of a frame can be constructed. -/
theorem new_frame (frame : Frame) :
    new frame.count frame.packetType frame.length frame.paddingBytes = .ok frame.header := by
  have short : rtcpHeaderBytes ≤ frame.length := by
    rw [Frame.length]
    omega
  have padding : frame.paddingBytes.toNat ≤ frame.length - rtcpHeaderBytes := by
    rw [Frame.length]
    omega
  have fits : frame.length ≤ maxRtcpPacketBytes := frame.fits
  rw [new, ensure_of frame.count_le, ok_bind, frame.known, ok_bind, validatePacketLen,
    ensure_of short, ok_bind, ensure_of frame.four_dvd_length, ok_bind,
    ensure_of fits, ok_bind, ensure_of padding, ok_bind]
  rfl

/-- What the constructor checks. -/
theorem of_new {count : UInt8} {header : RtcpHeader}
    (built : new count packetType packetLen paddingBytes = .ok header) :
    count ≤ maxRtcpCount ∧ 4 ∣ packetLen ∧ packetLen ≤ maxRtcpPacketBytes := by
  obtain ⟨_, small, built⟩ := bind_eq_ok.mp built
  obtain ⟨_, _, built⟩ := bind_eq_ok.mp built
  obtain ⟨_, checked, built⟩ := bind_eq_ok.mp built
  obtain ⟨_, _, checked⟩ := bind_eq_ok.mp checked
  obtain ⟨_, aligned, fits⟩ := bind_eq_ok.mp checked
  exact ⟨ensure_eq_ok.mp small, ensure_eq_ok.mp aligned, ensure_eq_ok.mp fits⟩

theorem forCount_frame {wrap : RtcpHeaderError → ε} {overflow : ε} {frame : Frame} {count : Nat}
    (type : frame.packetType = packetType) (counted : frame.count.toNat = count)
    (padded : frame.paddingBytes = paddingBytes) :
    forCount wrap overflow packetType count frame.length paddingBytes = .ok frame.header := by
  have bound := frame.count.toNat_lt
  subst type counted padded
  have octet : frame.count.toNat.toUInt8 = frame.count := by simp
  rw [forCount, ensure_of (by omega), ok_bind, octet, new_frame]
  rfl

theorem of_forCount {wrap : RtcpHeaderError → ε} {overflow : ε} {count : Nat}
    {header : RtcpHeader}
    (built : forCount wrap overflow packetType count packetLen paddingBytes = .ok header) :
    4 ∣ packetLen ∧ packetLen ≤ maxRtcpPacketBytes := by
  obtain ⟨_, _, built⟩ := bind_eq_ok.mp built
  exact (of_new (mapError_eq_ok.mp built)).2

theorem encode_frame (frame : Frame) :
    frame.header.encode = .ok frame.headerBytes := by
  have short : rtcpHeaderBytes ≤ frame.length := by
    rw [Frame.length]
    omega
  have fits : frame.length ≤ 65504 := frame.fits
  rw [rtcpHeaderBytes] at short
  have positive : 1 ≤ frame.header.packetLen / 4 := by
    simp only [Frame.header]
    omega
  have small : frame.header.packetLen / 4 - 1 ≤ 65535 := by
    simp only [Frame.header]
    omega
  simp only [encode]
  rw [ensure_of positive, ok_bind, ensure_of small, ok_bind]
  rfl

/-- The padding count stands at the end of the padding. -/
theorem safe_parsePadding {input : List UInt8} (padding : Bool)
    (short : rtcpHeaderBytes ≤ packetLen) (inside : packetLen ≤ input.length) :
    Safe (fun count => padding = (count != 0) ∧ ∃ content filler, filler.length = count.toNat - 1 ∧
          (input.drop rtcpHeaderBytes).take (packetLen - rtcpHeaderBytes) =
            content ++ paddingWith count filler)
      (parsePadding input padding packetLen) := by
  have four : rtcpHeaderBytes = 4 := rfl
  unfold parsePadding
  split_ifs with announced
  · refine .bind (safe_byteAt (by omega)) fun value stands => ?_
    refine .bind (safe_require _ _) fun _ nonzero => ?_
    refine .bind (safe_require _ _) fun _ whole => ?_
    have positive := toNat_ne_zero nonzero
    have size : ((input.drop rtcpHeaderBytes).take (packetLen - rtcpHeaderBytes)).length =
        packetLen - rtcpHeaderBytes := by
      rw [List.length_take, List.length_drop]
      omega
    have ends : ((input.drop rtcpHeaderBytes).take
        (packetLen - rtcpHeaderBytes)).getLast? = some value := by
      have found : input[packetLen - 1]? = some value := by
        simpa using congrArg List.head? stands
      rw [List.getLast?_eq_getElem?, size, List.getElem?_take_of_lt (by omega),
        List.getElem?_drop, ← found]
      congr 1
      omega
    obtain ⟨content, filler, sized, split⟩ := exists_paddingWith ends nonzero (by omega)
    exact ⟨by simp [announced, nonzero], content, filler, sized, split⟩
  · refine ⟨by simpa using announced,
      (input.drop rtcpHeaderBytes).take (packetLen - rtcpHeaderBytes), [], rfl, ?_⟩
    rw [paddingWith, if_pos rfl, List.append_nil]

/-- A parsed header is that of the frame at the front of the input. -/
theorem safe_parse (input : List UInt8) : Safe (fun header => ∃ frame : Frame, ∃ rest,
        header = frame.header ∧ input = frame.bytes ++ rest)
      (parse input) := by
  have four : rtcpHeaderBytes = 4 := rfl
  unfold parse
  refine .bind (safe_require _ _) fun _ fixed => ?_
  refine .bind (safe_byteAt (by omega)) fun first firstStands => ?_
  refine .bind (safe_require _ _) fun _ version => ?_
  refine .bind (safe_byteAt (by omega)) fun second secondStands => ?_
  have classified : Safe (fun packetType => RtcpPacketType.fromRaw second = .ok packetType)
      ((RtcpPacketType.fromRaw second).mapError Fault.refused) := by
    cases RtcpPacketType.fromRaw second <;> simp [Except.mapError]
  refine .bind classified fun packetType raw => ?_
  refine .bind (safe_range (by omega) (by omega)) fun words wordsStand => ?_
  refine .bind (safe_require _ _) fun _ fits => ?_
  refine .bind (safe_require _ _) fun _ inside => ?_
  obtain ⟨made, small⟩ := rtcpFirstByte_of_version version
  have short : rtcpHeaderBytes ≤ ((halfOf words.val).toNat + 1) * 4 := by omega
  refine .bind (safe_parsePadding _ short inside) fun count padded => ?_
  obtain ⟨flag, content, filler, sized, split⟩ := padded
  have size : content.length + count.toNat = (halfOf words.val).toNat * 4 := by
    have whole := congrArg List.length split
    rw [List.length_append, length_paddingWith sized, List.length_take, List.length_drop] at whole
    omega
  have known : RtcpPacketType.fromRaw packetType.asRaw = .ok packetType := by
    rw [RtcpPacketType.asRaw_of_fromRaw raw, raw]
  let frame : Frame :=
    { packetType := packetType
      count := first &&& 0x1f
      body := content
      paddingBytes := count
      filler := filler
      known := known
      count_le := small
      aligned := by omega
      fits := by omega
      sized := sized }
  have length : frame.length = ((halfOf words.val).toNat + 1) * 4 := by
    simp only [Frame.length, frame]
    omega
  have field : (frame.length / 4 - 1).toUInt16 = halfOf words.val := by
    rw [length, Nat.mul_div_cancel _ (by omega), Nat.add_sub_cancel]
    simp
  refine ⟨frame, input.drop (((halfOf words.val).toNat + 1) * 4), ?_, ?_⟩
  · rw [Frame.header, length]
    simp only [frame, flag]
  · have front : frame.headerBytes = [first, second] ++ words.val := by
      simp only [Frame.headerBytes, field, halfBytes_halfOf words.property]
      simp only [frame, ← flag, made, RtcpPacketType.asRaw_of_fromRaw raw]
    have tail : input.drop 4 = content ++ paddingWith count filler ++
        input.drop (((halfOf words.val).toNat + 1) * 4) := by
      rw [← split, four]
      have rest : input.drop (((halfOf words.val).toNat + 1) * 4) =
          (input.drop 4).drop (((halfOf words.val).toNat + 1) * 4 - 4) := by
        rw [List.drop_drop, Nat.add_sub_cancel' (by omega)]
      rw [rest, List.take_append_drop]
    rw [List.drop_zero] at firstStands
    rw [Frame.bytes, front]
    simp only [List.append_assoc] at tail ⊢
    rw [← tail, ← wordsStand, List.cons_append, List.cons_append, List.nil_append,
      ← secondStands, ← firstStands]

theorem parsePadding_frame (frame : Frame) (rest : List UInt8) :
    parsePadding (frame.bytes ++ rest) (frame.paddingBytes != 0) frame.length =
      .ok frame.paddingBytes := by
  unfold parsePadding
  by_cases none : frame.paddingBytes = 0
  · rw [if_neg (by simp [none]), none]
  · have positive := toNat_ne_zero none
    have size := frame.length_bytes
    have found : (frame.bytes ++ rest).drop (frame.length - 1) = frame.paddingBytes :: rest := by
      have shape : frame.bytes = (frame.headerBytes ++ (frame.body ++ frame.filler)) ++
          [frame.paddingBytes] := by
        simp [Frame.bytes, paddingWith, none]
      have front : frame.length - 1 =
          (frame.headerBytes ++ (frame.body ++ frame.filler)).length := by
        rw [← size, shape, List.length_append, List.length_singleton, Nat.add_sub_cancel]
      rw [front, shape, List.append_assoc, List.drop_left, List.singleton_append]
    rw [if_pos (by simp [none])]
    refine bind_of_ok (byteAt_of_drop found) ?_
    refine bind_of_ok (require_of none _) ?_
    refine bind_of_ok (require_of ?_ _) rfl
    rw [Frame.length]
    omega

/-- The header of a frame is parsed back, whatever follows it. -/
theorem parse_frame (frame : Frame) (rest : List UInt8) :
    parse (frame.bytes ++ rest) = .ok frame.header := by
  have four : rtcpHeaderBytes = 4 := rfl
  obtain ⟨version, count, padding⟩ := rtcpFirstByte_fields (frame.paddingBytes != 0) frame.count_le
  have padded := parsePadding_frame frame rest
  have size := frame.length_bytes
  have short : rtcpHeaderBytes ≤ frame.length := by
    rw [Frame.length]
    omega
  have fits : frame.length ≤ maxRtcpPacketBytes := frame.fits
  have words : ((halfOf (halfBytes (frame.length / 4 - 1).toUInt16)).toNat + 1) * 4 =
      frame.length := by
    have whole := Nat.div_mul_cancel frame.four_dvd_length
    rw [halfOf_halfBytes, lengthField (by omega) (by omega), whole]
  have at0 : (frame.bytes ++ rest).drop 0 =
      rtcpFirstByte (frame.paddingBytes != 0) frame.count :: frame.packetType.asRaw ::
      (halfBytes (frame.length / 4 - 1).toUInt16 ++ (frame.body ++
        (paddingWith frame.paddingBytes frame.filler ++ rest))) := by
    simp [Frame.bytes, Frame.headerBytes]
  have length : (frame.bytes ++ rest).length = frame.length + rest.length := by
    rw [List.length_append, size]
  generalize frame.bytes ++ rest = input at at0 length padded ⊢
  have at1 : input.drop 1 = _ := drop_succ_of_drop at0
  have at2 : input.drop 2 = _ := drop_succ_of_drop at1
  unfold parse
  refine bind_of_ok (require_of (by omega) _) ?_
  refine bind_of_ok (byteAt_of_drop at0) ?_
  refine bind_of_ok (require_of version _) ?_
  refine bind_of_ok (byteAt_of_drop at1) ?_
  refine bind_of_ok (mapError_eq_ok.mpr frame.known) ?_
  refine bind_of_ok (range_of_drop at2 (length_halfBytes _) (by omega)) ?_
  simp only [words, count, padding]
  refine bind_of_ok (require_of fits _) ?_
  refine bind_of_ok (require_of (by omega) _) ?_
  refine bind_of_ok padded rfl

end RtcpHeader

/-- An input has at most one frame at its front. -/
theorem Frame.eq_of_append {first second : Frame} {rest other : List UInt8}
    (same : first.bytes ++ rest = second.bytes ++ other) :
    first = second ∧ rest = other := by
  have headers : first.header = second.header := by
    have parsed := RtcpHeader.parse_frame first rest
    rw [same, RtcpHeader.parse_frame] at parsed
    exact (Except.ok.inj parsed).symm
  have lengths : first.bytes.length = second.bytes.length := by
    rw [first.length_bytes, second.length_bytes]
    exact congrArg RtcpHeader.packetLen headers
  obtain ⟨bytes, rests⟩ := List.append_inj same lengths
  refine ⟨?_, rests⟩
  have after := first.drop_header
  rw [bytes, second.drop_header] at after
  obtain ⟨packetType, count, body, paddingBytes, filler, _, _, _, _, sized⟩ := first
  obtain ⟨packetType', count', body', paddingBytes', filler', _, _, _, _, sized'⟩ := second
  have types : packetType = packetType' := congrArg RtcpHeader.packetType headers
  have counts : count = count' := congrArg RtcpHeader.count headers
  have paddings : paddingBytes = paddingBytes' := congrArg RtcpHeader.paddingBytes headers
  subst types counts paddings
  have bodies : body'.length = body.length := by
    have whole := congrArg RtcpHeader.packetLen headers
    simp only [header, length] at whole
    omega
  obtain ⟨bodiesAre, paddingsAre⟩ := List.append_inj after bodies
  have fillers : filler = filler' := by
    dsimp only at paddingsAre
    by_cases none : paddingBytes = 0
    · subst none
      rw [List.length_eq_zero_iff.mp sized, List.length_eq_zero_iff.mp sized']
    · rw [paddingWith, paddingWith, if_neg none, if_neg none] at paddingsAre
      exact (List.append_inj paddingsAre (sized'.trans sized.symm)).1.symm
  dsimp only at bodiesAre
  subst bodiesAre fillers
  rfl

end Rtp
end LiveAISIP
