import LiveAISIP.Rtp.Extension
import LiveAISIP.Rtp.Header
import LiveAISIP.Rtp.Padding

/-!
# RTP packets

The complete packet codec of `rtp/packet/rtp.rs`.  Version, number of sources,
number of extension words and padding count together fix where the payload of a
datagram stands; encoding a packet and parsing a datagram undo each other up to
the contents of the padding.
-/

namespace LiveAISIP
namespace Rtp

open BigEndian Fault Outcome
open RtpExtension

/-- Maximum packet size, the maximum payload of a UDP datagram. -/
def maxRtpPacketBytes : Nat := 65507

/-- Failure to parse, construct or serialize an RTP packet. -/
inductive RtpPacketError
  | header (error : RtpHeaderError)
  | extension (error : RtpExtensionError)
  | packetTooLarge (actual maximum : Nat)
  | lengthOverflow
  | missingPaddingLength
  | zeroPaddingLength
  | paddingExceedsBody (padding available : Nat)
  | allocationFailed
  deriving DecidableEq

/-- An RTP version-2 packet. -/
structure RtpPacket where
  header : RtpHeader
  extension : Option RtpExtension
  payload : List UInt8
  paddingBytes : UInt8

namespace RtpPacket

variable {packet : RtpPacket} {filler : List UInt8}

/-- The encoded size of an optional extension block. -/
def extensionLen (extension : Option RtpExtension) : Nat := extension.elim 0 RtpExtension.encodedLen

/-- The exact encoded size of a packet. -/
def encodedLen (packet : RtpPacket) : Nat :=
  packet.header.encodedLen + extensionLen packet.extension + packet.payload.length +
    packet.paddingBytes.toNat

/-- The exact encoded size of a packet that fits in a datagram. -/
def checkedEncodedLen (packet : RtpPacket) : Except RtpPacketError Nat :=
  if maxRtpPacketBytes < packet.encodedLen then
    .error (.packetTooLarge packet.encodedLen maxRtpPacketBytes)
  else .ok packet.encodedLen

/-- Construct a packet whose header flags follow from its parts. -/
def new
    (header : RtpHeader) (extension : Option RtpExtension) (payload : List UInt8)
    (paddingBytes : UInt8) : Except RtpPacketError RtpPacket := do
  let header := header.setExtension extension.isSome
  let header := header.setPadding (paddingBytes != 0)
  let packet : RtpPacket :=
    { header := header
      extension := extension
      payload := payload
      paddingBytes := paddingBytes }
  let _ ← packet.checkedEncodedLen
  return packet

/-- Parse the extension block that the header announces. -/
def parseExtension (input : List UInt8) (header : RtpHeader) (headerLength : Nat) :
    Except (Fault RtpPacketError) (Option RtpExtension × Nat) :=
  if header.extension then do
    let extensionInput ← rangeFrom input headerLength
    let (extension, extensionLength) ←
      (RtpExtension.parse extensionInput.val).mapError (Fault.map .extension)
    return (some extension, headerLength + extensionLength)
  else .ok (none, headerLength)

/-- Read the padding count that the header announces. -/
def parsePadding (header : RtpHeader) (body : List UInt8) : Except (Fault RtpPacketError) UInt8 :=
  if header.padding then
    match body.getLast? with
    | none => .error (.refused .missingPaddingLength)
    | some last => do
      require (last ≠ 0) .zeroPaddingLength
      require (last.toNat ≤ body.length) (.paddingExceedsBody last.toNat body.length)
      return last
  else .ok 0

/-- Parse one complete datagram. -/
def parse (grants : Nat → Bool) (input : List UInt8) :
    Except (Fault RtpPacketError) RtpPacket := do
  require (input.length ≤ maxRtpPacketBytes) (.packetTooLarge input.length maxRtpPacketBytes)
  let (header, headerLength) ← (RtpHeader.parse grants input).mapError (Fault.map .header)
  let (extension, payloadStart) ← parseExtension input header headerLength
  let body ← rangeFrom input payloadStart
  let paddingBytes ← parsePadding header body.val
  let payload ← range body.val 0 (body.val.length - paddingBytes.toNat)
  return {
    header := header
    extension := extension
    payload := payload.val
    paddingBytes := paddingBytes }

/-- Append the extension block, when there is one. -/
def appendExtension (extension : Option RtpExtension) (output : List UInt8) :
    Except RtpPacketError (List UInt8) :=
  match extension with
  | none => .ok output
  | some extension => (extension.appendEncoded output).mapError .extension

/-- Serialize a packet. -/
def encode (grants : Nat → Bool) (packet : RtpPacket) :
    Except RtpPacketError (List UInt8) := do
  let length ← packet.checkedEncodedLen
  ensure (grants length = true) .allocationFailed
  let output ← (packet.header.appendEncoded []).mapError .header
  let output ← appendExtension packet.extension output
  appendPadding .lengthOverflow packet.paddingBytes length (output ++ packet.payload)

/-- The flags of the header agree with the parts, and the packet fits in a datagram. -/
structure Canonical (packet : RtpPacket) : Prop where
  extension_flag : packet.header.extension = packet.extension.isSome
  padding_flag : packet.header.padding = (packet.paddingBytes != 0)
  fits : packet.encodedLen ≤ maxRtpPacketBytes

/-- The wire form of an optional extension block. -/
def extensionBytes (extension : Option RtpExtension) : List UInt8 :=
  extension.elim [] bytes

/-- The wire form of a packet with a filling of its padding. -/
def wire (packet : RtpPacket) (filler : List UInt8) : List UInt8 :=
  packet.header.bytes ++ (extensionBytes packet.extension ++
    (packet.payload ++ paddingWith packet.paddingBytes filler))

/-- The zeros that the encoder writes before the padding count. -/
def zeros (packet : RtpPacket) : List UInt8 := List.replicate (packet.paddingBytes.toNat - 1) 0

@[simp] theorem length_extensionBytes (extension : Option RtpExtension) :
    (extensionBytes extension).length = extensionLen extension := by
  cases extension with
  | none => rfl
  | some extension => exact extension.length_bytes

theorem length_wire
    (sized : filler.length = packet.paddingBytes.toNat - 1) :
    (packet.wire filler).length = packet.encodedLen := by
  simp only [wire, List.length_append, RtpHeader.length_bytes,
    length_extensionBytes, length_paddingWith sized, encodedLen]
  omega

theorem checkedEncodedLen_eq (canonical : packet.Canonical) :
    packet.checkedEncodedLen = .ok packet.encodedLen :=
  if_neg (Nat.not_lt.mpr canonical.fits)

/-- A constructed packet has its flags in order. -/
theorem canonical_new
    {header : RtpHeader} {extension : Option RtpExtension}
    {payload : List UInt8} {paddingBytes : UInt8}
    (built : new header extension payload paddingBytes = .ok packet) :
    packet.Canonical := by
  obtain ⟨length, checked, rest⟩ := bind_eq_ok.mp built
  cases rest
  refine ⟨rfl, rfl, ?_⟩
  unfold checkedEncodedLen at checked
  split_ifs at checked with large
  exact Nat.not_lt.mp large

theorem appendExtension_eq (extension : Option RtpExtension) (output : List UInt8) :
    appendExtension extension output = .ok (output ++ extensionBytes extension) := by
  cases extension with
  | none => simp [appendExtension, extensionBytes]
  | some extension =>
    rw [appendExtension, appendEncoded_eq]
    rfl

/-- A packet is encoded with zeros in its padding. -/
theorem encode_eq (canonical : packet.Canonical)
    {grants : Nat → Bool} (granted : grants packet.encodedLen = true) :
    packet.encode grants = .ok (packet.wire packet.zeros) := by
  have sized : packet.encodedLen = (packet.header.bytes ++ extensionBytes packet.extension ++
        packet.payload).length + packet.paddingBytes.toNat := by
    simp only [List.length_append, RtpHeader.length_bytes, length_extensionBytes, encodedLen]
  rw [encode, checkedEncodedLen_eq canonical, ok_bind, ensure_of granted, ok_bind,
    RtpHeader.appendEncoded_eq, List.nil_append]
  simp only [Except.mapError, ok_bind, appendExtension_eq]
  rw [appendPadding_eq sized]
  simp only [wire, zeros, zeroPadding, List.append_assoc]

/-- What the extension step consumes is the wire form of what it returns. -/
theorem safe_parseExtension
    {input : List UInt8} {header : RtpHeader} {headerLength : Nat}
    (inside : headerLength ≤ input.length) :
    Safe (fun parsed => header.extension = parsed.1.isSome ∧ parsed.2 ≤ input.length ∧
        input.drop headerLength = extensionBytes parsed.1 ++ input.drop parsed.2)
      (parseExtension input header headerLength) := by
  unfold parseExtension
  split_ifs with announced
  · refine .bind (safe_rangeFrom inside) fun extensionInput stands => ?_
    refine .bind ((RtpExtension.safe_parse _).map _) fun parsed front => ?_
    obtain ⟨size, split⟩ := front
    have bound : parsed.2 ≤ extensionInput.val.length := by
      rw [split, size, List.length_append]
      omega
    refine ⟨announced, ?_, ?_⟩
    · rw [extensionInput.property] at bound
      omega
    · rw [← stands, ← List.drop_drop, ← stands]
      exact split
  · refine ⟨?_, inside, rfl⟩
    simpa using announced

/-- The padding count is the last byte of the padding. -/
theorem safe_parsePadding (header : RtpHeader) (body : List UInt8) :
    Safe (fun count => header.padding = (count != 0) ∧
        ∃ payload filler, filler.length = count.toNat - 1 ∧
          body = payload ++ paddingWith count filler)
      (parsePadding header body) := by
  unfold parsePadding
  split_ifs with announced
  · split
    case h_1 => simp
    case h_2 last ends =>
      refine .bind (safe_require _ _) fun _ nonzero => ?_
      refine .bind (safe_require _ _) fun _ whole => ?_
      obtain ⟨content, filler, sized, split⟩ := exists_paddingWith ends nonzero whole
      exact ⟨by simp [announced, nonzero], content, filler, sized, split⟩
  · exact ⟨by simpa using announced, body, [], rfl, by simp [paddingWith]⟩

/-- A parsed packet has its flags in order and its wire form is the datagram. -/
theorem safe_parse (grants : Nat → Bool) (input : List UInt8) :
    Safe (fun packet => packet.Canonical ∧ ∃ filler, filler.length = packet.paddingBytes.toNat - 1 ∧
          input = packet.wire filler)
      (parse grants input) := by
  unfold parse
  refine .bind (safe_require _ _) fun _ small => ?_
  refine .bind ((RtpHeader.safe_parse grants input).map _) fun parsed front => ?_
  obtain ⟨header, headerLength⟩ := parsed
  obtain ⟨headerSize, headerStands⟩ := front
  have headerInside : headerLength ≤ input.length := by
    rw [headerStands, List.length_append]
    omega
  refine .bind (safe_parseExtension headerInside) fun parsed front => ?_
  obtain ⟨extension, payloadStart⟩ := parsed
  obtain ⟨extensionFlag, extensionInside, extensionStands⟩ := front
  refine .bind (safe_rangeFrom extensionInside) fun body bodyStands => ?_
  refine .bind (safe_parsePadding header body.val) fun count padded => ?_
  obtain ⟨paddingFlag, content, filler, fillerSize, bodySplit⟩ := padded
  have bodySize : body.val.length = content.length + count.toNat := by
    rw [bodySplit, List.length_append, length_paddingWith fillerSize]
  refine .bind (safe_range (Nat.zero_le _) (Nat.sub_le _ _)) fun payload stands => ?_
  have payloadIs : payload.val = content := by
    have size := payload.property
    rw [List.drop_zero] at stands
    exact (List.append_inj (bodySplit.symm.trans stands) (by omega)).1.symm
  have whole : input = wire ⟨header, extension, content, count⟩ filler := by
    rw [wire, ← bodySplit, bodyStands, ← extensionStands]
    exact headerStands
  simp only [meets_pure, payloadIs]
  refine ⟨⟨extensionFlag, paddingFlag, ?_⟩, filler, fillerSize, whole⟩
  rw [← length_wire fillerSize, ← whole]
  exact small

theorem parseExtension_eq (canonical : packet.Canonical)
    {input rest : List UInt8} {headerLength : Nat}
    (stands : input.drop headerLength = extensionBytes packet.extension ++ rest)
    (inside : headerLength ≤ input.length) :
    parseExtension input packet.header headerLength =
      .ok (packet.extension, headerLength + extensionLen packet.extension) := by
  have flag := canonical.extension_flag
  unfold parseExtension
  cases present : packet.extension with
  | none =>
    rw [present] at flag
    rw [if_neg (by simp [flag])]
    rfl
  | some extension =>
    rw [present] at flag stands
    rw [if_pos (by simp [flag])]
    refine bind_of_ok (rangeFrom_of_drop stands inside) ?_
    have parsed := extension.parse_bytes rest
    refine bind_of_ok (mapError_eq_ok.mpr parsed) ?_
    rw [length_bytes]
    rfl

theorem parsePadding_eq
    (canonical : packet.Canonical)
    (sized : filler.length = packet.paddingBytes.toNat - 1) :
    parsePadding packet.header (packet.payload ++ paddingWith packet.paddingBytes filler) =
        .ok packet.paddingBytes := by
  have size := length_paddingWith sized
  have flag := canonical.padding_flag
  unfold parsePadding
  by_cases none : packet.paddingBytes = 0
  · rw [if_neg (by simp [flag, none]), none]
  · rw [if_pos (by simp [flag, none]), getLast?_paddingWith none]
    dsimp only
    refine bind_of_ok (require_of none _) ?_
    refine bind_of_ok (require_of ?_ _) rfl
    rw [List.length_append, size]
    omega

/-- The wire form of a packet is parsed back, whatever fills its padding. -/
theorem parse_wire
    (canonical : packet.Canonical)
    (sized : filler.length = packet.paddingBytes.toNat - 1)
    {grants : Nat → Bool} (granted : grants packet.header.csrcs.length = true) :
    parse grants (packet.wire filler) = .ok packet := by
  have length := length_wire sized
  have header := packet.header.parse_bytes granted (extensionBytes packet.extension ++
      (packet.payload ++ paddingWith packet.paddingBytes filler))
  rw [← wire] at header
  generalize whole : packet.wire filler = input at header length ⊢
  have size : packet.header.bytes.length + extensionLen packet.extension ≤ input.length := by
    rw [length, encodedLen, RtpHeader.length_bytes]
    omega
  have at0 : input.drop 0 = packet.header.bytes ++ (extensionBytes packet.extension ++
      (packet.payload ++ paddingWith packet.paddingBytes filler)) := by
    rw [← whole]
    rfl
  have afterHeader := drop_next at0 rfl
  rw [Nat.zero_add] at afterHeader
  have afterExtension := drop_next afterHeader (length_extensionBytes _)
  unfold parse
  refine bind_of_ok (require_of (length ▸ canonical.fits) _) ?_
  refine bind_of_ok (mapError_eq_ok.mpr header) ?_
  refine bind_of_ok (parseExtension_eq canonical afterHeader (by omega)) ?_
  refine bind_of_ok (rangeFrom_of_drop afterExtension size) ?_
  refine bind_of_ok (parsePadding_eq canonical sized) ?_
  refine bind_of_ok (range_of_drop (List.drop_zero ..) ?_ ?_) rfl
  · rw [List.length_append, length_paddingWith sized]
    omega
  · exact ⟨Nat.zero_le _, Nat.sub_le _ _⟩

/-- The wire form of a padded packet. -/
theorem wire_of_padded (padded : packet.paddingBytes ≠ 0) :
    ∃ front, front.length = packet.encodedLen - packet.paddingBytes.toNat ∧
      ∀ filler, packet.wire filler = front ++ (filler ++ [packet.paddingBytes]) := by
  refine ⟨packet.header.bytes ++ (extensionBytes packet.extension ++ packet.payload), ?_, ?_⟩
  · simp only [List.length_append, RtpHeader.length_bytes, length_extensionBytes, encodedLen]
    omega
  · intro filler
    simp only [wire, paddingWith, if_neg padded, List.append_assoc]

/-- The encoder's filling differs from another only between payload and count. -/
theorem wire_zeros_getElem?
    (sized : filler.length = packet.paddingBytes.toNat - 1) (index : Nat)
    (inside : index < packet.encodedLen) :
    (packet.wire packet.zeros)[index]? =
      if packet.encodedLen - packet.paddingBytes.toNat ≤ index ∧
          index + 1 < packet.encodedLen then some 0
      else (packet.wire filler)[index]? := by
  by_cases none : packet.paddingBytes = 0
  · rw [if_neg (by simp [none]; omega)]
    simp only [wire, paddingWith, if_pos none]
  · have positive := toNat_ne_zero none
    have whole : packet.paddingBytes.toNat ≤ packet.encodedLen := by
      rw [encodedLen]
      omega
    obtain ⟨front, frontSize, shape⟩ := wire_of_padded none
    have zerosSize : packet.zeros.length = packet.paddingBytes.toNat - 1 := List.length_replicate
    rw [shape, shape]
    by_cases before : index < front.length
    · rw [if_neg (by omega), List.getElem?_append_left before, List.getElem?_append_left before]
    · have after : front.length ≤ index := Nat.not_lt.mp before
      rw [List.getElem?_append_right after, List.getElem?_append_right after]
      by_cases last : index + 1 = packet.encodedLen
      · rw [if_neg (by omega), List.getElem?_append_right (by omega),
          List.getElem?_append_right (by omega), zerosSize, sized]
      · rw [if_pos (by omega), List.getElem?_append_left (by omega), zeros,
          List.getElem?_replicate, if_pos (by omega)]

/--
A packet built from its parts is encoded in its checked length and parsed back.
A parsed datagram is encoded back to itself, except that zeros stand in its
padding before the count.  Parsing never reads outside the datagram.
-/
theorem rtp_packet_round_trips :
    (∀ header extension payload paddingBytes packet,
      new header extension payload paddingBytes = .ok packet →
      ∃ bytes, packet.checkedEncodedLen = .ok bytes.length ∧
        (∀ grants : Nat → Bool, grants bytes.length → packet.encode grants = .ok bytes) ∧
        (∀ grants : Nat → Bool, grants packet.header.csrcs.length →
          parse grants bytes = .ok packet)) ∧
    (∀ grants input packet, parse grants input = .ok packet → ∃ bytes, bytes.length = input.length ∧
        (∀ grants : Nat → Bool, grants bytes.length → packet.encode grants = .ok bytes) ∧
        ∀ index, index < input.length → bytes[index]? =
            if input.length - packet.paddingBytes.toNat ≤ index ∧
                index + 1 < input.length then some 0
            else input[index]?) ∧
    (∀ grants input, parse grants input ≠ .error .outOfBounds) := by
  refine ⟨?_, ?_, ?_⟩
  · intro header extension payload paddingBytes packet built
    have canonical := canonical_new built
    have length : (packet.wire packet.zeros).length = packet.encodedLen :=
      length_wire List.length_replicate
    refine ⟨packet.wire packet.zeros, ?_, ?_, ?_⟩
    · rw [length, checkedEncodedLen_eq canonical]
    · intro grants granted
      exact encode_eq canonical (length ▸ granted)
    · intro grants granted
      exact parse_wire canonical List.length_replicate granted
  · intro grants input packet parsed
    have safe := safe_parse grants input
    rw [parsed] at safe
    obtain ⟨canonical, filler, sized, rfl⟩ := safe
    have length : (packet.wire packet.zeros).length = packet.encodedLen :=
      length_wire List.length_replicate
    rw [length_wire sized]
    refine ⟨packet.wire packet.zeros, length, ?_, ?_⟩
    · intro grants granted
      exact encode_eq canonical (length ▸ granted)
    · intro index inside
      exact wire_zeros_getElem? sized index inside
  · intro grants input fault
    have safe := safe_parse grants input
    rw [fault] at safe
    exact safe rfl

/-- A packet with an extension block and four bytes of padding. -/
theorem padded_packet_round_trips :
    ∃ header extension packet bytes, RtpHeader.new 8 17 160 7 = .ok header ∧
      uninterpreted 0x1234 [1, 2, 3, 4] = .ok extension ∧
      new header (some extension) [5, 6, 7] 4 = .ok packet ∧
      packet.encode (fun _ => true) = .ok bytes ∧ bytes.length = 27 ∧
      parse (fun _ => true) bytes = .ok packet := by
  have built : ∃ header extension packet, RtpHeader.new 8 17 160 7 = .ok header ∧
      uninterpreted 0x1234 [1, 2, 3, 4] = .ok extension ∧
      new header (some extension) [5, 6, 7] 4 = .ok packet ∧
      packet.checkedEncodedLen = .ok 27 :=
    ⟨_, _, _, rfl, rfl, rfl, rfl⟩
  obtain ⟨header, extension, packet, headerBuilt, extensionBuilt, packetBuilt, size⟩ := built
  obtain ⟨bytes, length, encoded, parsed⟩ := rtp_packet_round_trips.1 _ _ _ _ _ packetBuilt
  refine ⟨header, extension, packet, bytes, headerBuilt, extensionBuilt, packetBuilt,
    encoded _ rfl, ?_, parsed _ rfl⟩
  rw [size] at length
  injection length with length
  exact length.symm

end RtpPacket

end Rtp
end LiveAISIP
