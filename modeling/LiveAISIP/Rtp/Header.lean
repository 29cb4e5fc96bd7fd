import LiveAISIP.Library.Ascii
import LiveAISIP.Library.BigEndian
import LiveAISIP.Library.Fault

/-!
# RTP headers

The bounded RTP version-2 header of `rtp/packet/header.rs`: the fixed fields
and at most fifteen contributing sources.  Where the source reserves memory,
`grants` tells whether a reservation of that many elements is granted.
-/

namespace LiveAISIP
namespace Rtp

open Ascii BigEndian Fault Outcome

/-- RTP protocol version. -/
def rtpVersion : UInt8 := 2

/-- Header size without contributing sources. -/
def rtpFixedHeaderBytes : Nat := 12

/-- Maximum number of contributing sources. -/
def maxCsrcCount : Nat := 15

/-- Failure to parse, change or serialize an RTP header. -/
inductive RtpHeaderError
  | truncated (required available : Nat)
  | unsupportedVersion (version : UInt8)
  | payloadTypeOutOfRange (payloadType : UInt8)
  | tooManyCsrcs (maximum : Nat)
  | allocationFailed
  deriving DecidableEq

/-- A validated RTP version-2 header. -/
structure RtpHeader where
  padding : Bool
  extension : Bool
  marker : Bool
  payloadType : UInt8
  sequenceNumber : UInt16
  timestamp : UInt32
  ssrc : UInt32
  csrcs : List UInt32
  payloadType_le : payloadType ≤ 127
  csrcs_le : csrcs.length ≤ maxCsrcCount

/-- The first header byte: version, flags and number of sources. -/
def firstByte (padding extension : Bool) (count : UInt8) : UInt8 :=
  rtpVersion <<< 6 ||| padding.toUInt8 <<< 5 ||| extension.toUInt8 <<< 4 ||| count

/-- The second header byte: marker and payload type. -/
def secondByte (marker : Bool) (payloadType : UInt8) : UInt8 := marker.toUInt8 <<< 7 ||| payloadType

/-- The fields of the first byte are read back. -/
theorem firstByte_fields (padding extension : Bool) {count : Nat}
    (small : count ≤ maxCsrcCount) :
    firstByte padding extension count.toUInt8 >>> 6 = rtpVersion ∧
      (firstByte padding extension count.toUInt8 &&& 0x0f).toNat = count ∧
      (firstByte padding extension count.toUInt8 &&& 0x20 != 0) = padding ∧
      (firstByte padding extension count.toUInt8 &&& 0x10 != 0) = extension := by
  have checked : ∀ padding extension : Bool, ∀ count : Fin 16,
      firstByte padding extension count.val.toUInt8 >>> 6 = rtpVersion ∧
        (firstByte padding extension count.val.toUInt8 &&& 0x0f).toNat = count ∧
        (firstByte padding extension count.val.toUInt8 &&& 0x20 != 0) = padding ∧
        (firstByte padding extension count.val.toUInt8 &&& 0x10 != 0) = extension := by
    decide +kernel
  exact checked padding extension ⟨count, Nat.lt_succ_of_le small⟩

/-- The two bytes are made of their fields, and the second one gives them back. -/
theorem leadingByte_checked (byte : UInt8) : (byte >>> 6 = rtpVersion →
      firstByte (byte &&& 0x20 != 0) (byte &&& 0x10 != 0) (byte &&& 0x0f).toNat.toUInt8 = byte) ∧
      (byte ≤ 127 → ∀ marker : Bool, (secondByte marker byte &&& 0x80 != 0) = marker ∧
          secondByte marker byte &&& 0x7f = byte) ∧
      secondByte (byte &&& 0x80 != 0) (byte &&& 0x7f) = byte := by
  revert byte
  exact forall_byte (by decide +kernel)

/-- A first byte of the right version is made of its fields. -/
theorem firstByte_of_version {byte : UInt8} (version : byte >>> 6 = rtpVersion) :
    firstByte (byte &&& 0x20 != 0) (byte &&& 0x10 != 0) (byte &&& 0x0f).toNat.toUInt8 = byte :=
  (leadingByte_checked byte).1 version

theorem count_le (byte : UInt8) : (byte &&& 0x0f).toNat ≤ maxCsrcCount := by
  rw [UInt8.toNat_and]
  exact Nat.and_le_right

theorem payloadType_le (byte : UInt8) : byte &&& 0x7f ≤ 127 := by
  rw [UInt8.le_iff_toNat_le, UInt8.toNat_and]
  exact Nat.and_le_right

/-- The fields of the second byte are read back. -/
theorem secondByte_fields (marker : Bool) {payloadType : UInt8}
    (small : payloadType ≤ 127) :
    (secondByte marker payloadType &&& 0x80 != 0) = marker ∧
      secondByte marker payloadType &&& 0x7f = payloadType :=
  (leadingByte_checked payloadType).2.1 small marker

theorem secondByte_of (byte : UInt8) : secondByte (byte &&& 0x80 != 0) (byte &&& 0x7f) = byte :=
  (leadingByte_checked byte).2.2

namespace RtpHeader

/-- Create a header without contributing sources. -/
def new
    (payloadType : UInt8) (sequenceNumber : UInt16)
    (timestamp ssrc : UInt32) : Except RtpHeaderError RtpHeader :=
  if small : payloadType ≤ 127 then
    .ok
      { padding := false
        extension := false
        marker := false
        payloadType := payloadType
        sequenceNumber := sequenceNumber
        timestamp := timestamp
        ssrc := ssrc
        csrcs := []
        payloadType_le := small
        csrcs_le := Nat.zero_le _ }
  else
    .error (.payloadTypeOutOfRange payloadType)

/-- Set the padding bit. -/
def setPadding (header : RtpHeader) (padding : Bool) : RtpHeader :=
  { header with padding := padding }

/-- Set the extension bit. -/
def setExtension (header : RtpHeader) (extension : Bool) : RtpHeader :=
  { header with extension := extension }

/-- Set the marker bit. -/
def setMarker (header : RtpHeader) (marker : Bool) : RtpHeader := { header with marker := marker }

/-- The exact encoded size. -/
def encodedLen (header : RtpHeader) : Nat := rtpFixedHeaderBytes + header.csrcs.length * 4

/-- The wire form of a header. -/
def bytes (header : RtpHeader) : List UInt8 :=
  [firstByte header.padding header.extension header.csrcs.length.toUInt8,
    secondByte header.marker header.payloadType] ++
  halfBytes header.sequenceNumber ++
  wordBytes header.timestamp ++ wordBytes header.ssrc ++
  header.csrcs.flatMap wordBytes

/-- Append the fixed header and the contributing sources. -/
def appendEncoded (header : RtpHeader) (output : List UInt8) : Except RtpHeaderError (List UInt8) :=
  if 255 < header.csrcs.length then .error (.tooManyCsrcs maxCsrcCount)
  else .ok (output ++ header.bytes)

/-- Parse a header and return its exact encoded length. -/
def parse (grants : Nat → Bool) (input : List UInt8) :
    Except (Fault RtpHeaderError) (RtpHeader × Nat) := do
  require (rtpFixedHeaderBytes ≤ input.length) (.truncated rtpFixedHeaderBytes input.length)
  let first ← byteAt input 0
  require (first >>> 6 = rtpVersion) (.unsupportedVersion (first >>> 6))
  let count := (first &&& 0x0f).toNat
  let length := rtpFixedHeaderBytes + count * 4
  require (length ≤ input.length) (.truncated length input.length)
  require (grants count) .allocationFailed
  let sources ← range input rtpFixedHeaderBytes length
  let second ← byteAt input 1
  let sequence ← range input 2 4
  let timestamp ← range input 4 8
  let ssrc ← range input 8 12
  return (
    { padding := first &&& 0x20 != 0
      extension := first &&& 0x10 != 0
      marker := second &&& 0x80 != 0
      payloadType := second &&& 0x7f
      sequenceNumber := halfOf sequence.val
      timestamp := wordOf timestamp.val
      ssrc := wordOf ssrc.val
      csrcs := wordsOf sources.val
      payloadType_le := Rtp.payloadType_le second
      csrcs_le := by
        have sized : sources.val.length = 4 * (first &&& 0x0f).toNat := by
          have sized := sources.property
          omega
        rw [length_wordsOf sized]
        exact Rtp.count_le first }, length)

theorem length_bytes (header : RtpHeader) :
    header.bytes.length = header.encodedLen := by
  simp only [bytes, encodedLen, rtpFixedHeaderBytes, List.length_append,
    List.length_cons, List.length_nil, length_halfBytes, length_wordBytes, length_flatMap_wordBytes]
  omega

theorem appendEncoded_eq (header : RtpHeader) (output : List UInt8) :
    header.appendEncoded output = .ok (output ++ header.bytes) := by
  have bound : header.csrcs.length ≤ 15 := header.csrcs_le
  rw [appendEncoded, if_neg (by omega)]

/-- A parsed header stands at the front of the input. -/
theorem safe_parse (grants : Nat → Bool) (input : List UInt8) :
    Safe (fun parsed => parsed.2 = parsed.1.bytes.length ∧
        input = parsed.1.bytes ++ input.drop parsed.2)
      (parse grants input) := by
  unfold parse
  refine .bind (safe_require _ _) fun _ fixed => ?_
  have twelve : rtpFixedHeaderBytes = 12 := rfl
  refine .bind (safe_byteAt (by omega)) fun first firstStands => ?_
  refine .bind (safe_require _ _) fun _ version => ?_
  refine .bind (safe_require _ _) fun _ whole => ?_
  refine .bind (safe_require _ _) fun _ _ => ?_
  refine .bind (safe_range (by omega) whole) fun sources sourcesStand => ?_
  refine .bind (safe_byteAt (by omega)) fun second secondStands => ?_
  refine .bind (safe_range (by omega) (by omega)) fun sequence sequenceStands => ?_
  refine .bind (safe_range (by omega) (by omega)) fun timestamp timestampStands => ?_
  refine .bind (safe_range (by omega) (by omega)) fun ssrc ssrcStands => ?_
  have sized : sources.val.length = 4 * (first &&& 0x0f).toNat := by
    have sized := sources.property
    omega
  obtain ⟨words, number, written⟩ := exists_words sized
  have csrcs : wordsOf sources.val = words := by
    rw [written, wordsOf_flatMap]
  simp only [meets_pure, length_bytes]
  refine ⟨?_, ?_⟩
  · simp only [encodedLen, csrcs, number]
  · rw [List.drop_zero] at firstStands
    simp only [bytes, csrcs, number,
      firstByte_of_version version, secondByte_of, halfBytes_halfOf sequence.property,
      wordBytes_wordOf timestamp.property, wordBytes_wordOf ssrc.property, List.append_assoc]
    rw [← written, ← sourcesStand, twelve, ← ssrcStands, ← timestampStands,
      ← sequenceStands, List.cons_append, List.cons_append, List.nil_append,
      ← secondStands, ← firstStands]

/-- The wire form of a header is parsed back, whatever follows it. -/
theorem parse_bytes
    {grants : Nat → Bool} (header : RtpHeader)
    (granted : grants header.csrcs.length = true) (rest : List UInt8) :
    parse grants (header.bytes ++ rest) = .ok (header, header.bytes.length) := by
  obtain ⟨version, count, padding, extension⟩ :=
    firstByte_fields header.padding header.extension header.csrcs_le
  obtain ⟨marker, payloadType⟩ := secondByte_fields header.marker header.payloadType_le
  have size := header.length_bytes
  rw [encodedLen, rtpFixedHeaderBytes] at size
  generalize whole : header.bytes ++ rest = input
  have length : input.length = 12 + header.csrcs.length * 4 + rest.length := by
    rw [← whole, List.length_append, size]
  have at0 : input.drop 0 = firstByte header.padding header.extension header.csrcs.length.toUInt8 ::
      secondByte header.marker header.payloadType ::
      (halfBytes header.sequenceNumber ++ (wordBytes header.timestamp ++
        (wordBytes header.ssrc ++ (header.csrcs.flatMap wordBytes ++ rest)))) := by
    rw [← whole]
    simp [bytes]
  have at1 : input.drop 1 = _ := drop_succ_of_drop at0
  have at2 : input.drop 2 = _ := drop_succ_of_drop at1
  have at4 : input.drop 4 = _ := drop_next at2 (length_halfBytes _)
  have at8 : input.drop 8 = _ := drop_next at4 (length_wordBytes _)
  have at12 : input.drop 12 = _ := drop_next at8 (length_wordBytes _)
  have stop : 12 + (firstByte header.padding header.extension
      header.csrcs.length.toUInt8 &&& 0x0f).toNat * 4 =
      12 + header.csrcs.length * 4 := by
    rw [count]
  have sourceSize : (header.csrcs.flatMap wordBytes).length =
      12 + (firstByte header.padding header.extension
        header.csrcs.length.toUInt8 &&& 0x0f).toNat * 4 - 12 := by
    rw [stop, length_flatMap_wordBytes]
    omega
  unfold parse
  refine bind_of_ok (require_of (by rw [rtpFixedHeaderBytes]; omega) _) ?_
  refine bind_of_ok (byteAt_of_drop at0) ?_
  refine bind_of_ok (require_of version _) ?_
  refine bind_of_ok (require_of (by rw [rtpFixedHeaderBytes]; omega) _) ?_
  refine bind_of_ok (require_of (by rw [count, granted]) _) ?_
  refine bind_of_ok (range_of_drop at12 sourceSize (by omega)) ?_
  refine bind_of_ok (byteAt_of_drop at1) ?_
  refine bind_of_ok (range_of_drop at2 (length_halfBytes _) (by omega)) ?_
  refine bind_of_ok (range_of_drop at4 (length_wordBytes _) (by omega)) ?_
  refine bind_of_ok (range_of_drop at8 (length_wordBytes _) (by omega)) ?_
  simp only [padding, extension, marker, payloadType, halfOf_halfBytes, wordOf_wordBytes,
    wordsOf_flatMap, rtpFixedHeaderBytes, stop, size]
  rfl

end RtpHeader

end Rtp
end LiveAISIP
