import LiveAISIP.Rtp.Rtcp.Report

/-!
# RTCP goodbyes

BYE packets of `rtp/packet/rtcp/bye.rs`: the sources that leave and an optional
reason.  The parser takes any number of zeros after the reason, also when the
padding that follows is not a whole number of words; the encoder fills the
reason to a word and refuses other padding.
-/

namespace LiveAISIP
namespace Rtp

open BigEndian Fault Outcome
open RtcpHeader

/-- Maximum number of sources. -/
def maxGoodbyeSources : Nat := 31

/-- Maximum length of a reason. -/
def maxGoodbyeReasonBytes : Nat := 255

/-- Failure to parse, construct or serialize a BYE packet. -/
inductive GoodbyeError
  | header (error : RtcpHeaderError)
  | wrongPacketType (actual : RtcpPacketType)
  | noSources
  | tooManySources (actual maximum : Nat)
  | sourcesTruncated (required available : Nat)
  | reasonTooLong (actual maximum : Nat)
  | reasonTruncated (required available : Nat)
  | nonZeroReasonAlignment
  | packetNotWordAligned (actual : Nat)
  | lengthOverflow
  | allocationFailed
  deriving DecidableEq

/-- A BYE packet. -/
structure Goodbye where
  sources : List UInt32
  reason : Option (List UInt8)
  paddingBytes : UInt8
  deriving DecidableEq

namespace Goodbye

variable {packet : Goodbye} {grants : Nat → Bool} {slack : Nat} {frame : Frame}

variable {reason : Option (List UInt8)}

/-- Read so many sources, the first of which has an index. -/
def readSources (packet : List UInt8) : Nat → Nat → Except (Fault GoodbyeError) (List UInt32)
  | _, 0 => .ok []
  | index, remaining + 1 => do
    let source ← readU32 packet (rtcpHeaderBytes + index * 4)
    let sources ← readSources packet (index + 1) remaining
    return source :: sources

/-- Read the reason between the sources and the end of the body. -/
def parseReason (grants : Nat → Bool) (packet : List UInt8) (sourcesEnd bodyEnd : Nat) :
    Except (Fault GoodbyeError) (Option (List UInt8)) :=
  if sourcesEnd = bodyEnd then .ok none
  else do
    let reasonLength ← byteAt packet sourcesEnd
    let valueEnd := sourcesEnd + 1 + reasonLength.toNat
    require (valueEnd ≤ bodyEnd) (.reasonTruncated reasonLength.toNat (bodyEnd - (sourcesEnd + 1)))
    let alignment ← range packet valueEnd bodyEnd
    require (alignment.val.all (· == 0)) .nonZeroReasonAlignment
    require (grants reasonLength.toNat) .allocationFailed
    let reason ← range packet (sourcesEnd + 1) valueEnd
    return some reason.val

/-- Parse one BYE packet at the front of the input. -/
def parse (grants : Nat → Bool) (input : List UInt8) :
    Except (Fault GoodbyeError) (Goodbye × Nat) := do
  let header ← (RtcpHeader.parse input).mapError (Fault.map .header)
  require (header.packetType = .goodbye) (.wrongPacketType header.packetType)
  let sourceCount := header.count.toNat
  require (sourceCount ≠ 0) .noSources
  let sourceBytes := sourceCount * 4
  let bodyEnd := rtcpHeaderBytes + header.unpaddedBodyLen
  let sourcesEnd := rtcpHeaderBytes + sourceBytes
  require (sourcesEnd ≤ bodyEnd) (.sourcesTruncated sourceBytes (bodyEnd - rtcpHeaderBytes))
  let packet ← range input 0 header.packetLen
  require (grants sourceCount) .allocationFailed
  let sources ← readSources packet.val 0 sourceCount
  let reason ← parseReason grants packet.val sourcesEnd bodyEnd
  return (
    { sources := sources
      reason := reason
      paddingBytes := header.paddingBytes }, header.packetLen)

/-- Check the sources and the reason. -/
def validateInputs (sources : List UInt32) (reason : Option (List UInt8)) :
    Except GoodbyeError Unit := do
  ensure (sources ≠ []) .noSources
  ensure (sources.length ≤ maxGoodbyeSources) (.tooManySources sources.length maxGoodbyeSources)
  match reason with
  | none => return
  | some reason =>
    ensure (reason.length ≤ maxGoodbyeReasonBytes)
      (.reasonTooLong reason.length maxGoodbyeReasonBytes)

/-- The length of a packet. -/
def packetLen (sourceCount : Nat) (reason : Option (List UInt8)) (paddingBytes : UInt8) :
    Except GoodbyeError Nat :=
  let length := rtcpHeaderBytes + sourceCount * 4
  let length := match reason with
    | none => length
    | some reason => alignToWord (length + 1 + reason.length)
  let length := length + paddingBytes.toNat
  if 4 ∣ length then .ok length else .error (.packetNotWordAligned length)

/-- Construct a BYE packet. -/
def new (grants : Nat → Bool) (sources : List UInt32) (reason : Option (List UInt8))
    (paddingBytes : UInt8) : Except GoodbyeError Goodbye := do
  validateInputs sources reason
  let length ← packetLen sources.length reason paddingBytes
  let _ ← forCount .header .lengthOverflow .goodbye sources.length length paddingBytes
  ensure (grants sources.length = true) .allocationFailed
  match reason with
  | none => pure ()
  | some reason => ensure (grants reason.length = true) .allocationFailed
  return { sources := sources, reason := reason, paddingBytes := paddingBytes }

/-- Append the reason, filled to a whole word. -/
def appendReason (output : List UInt8) : Option (List UInt8) → Except GoodbyeError (List UInt8)
  | none => .ok output
  | some reason => do
    ensure (reason.length ≤ 255) .lengthOverflow
    let output := output ++ reason.length.toUInt8 :: reason
    return resize output (alignToWord output.length)

/-- Serialize a BYE packet. -/
def encode (grants : Nat → Bool) (packet : Goodbye) : Except GoodbyeError (List UInt8) := do
  validateInputs packet.sources packet.reason
  let length ← packetLen packet.sources.length packet.reason packet.paddingBytes
  let header ← forCount .header .lengthOverflow .goodbye
    packet.sources.length length packet.paddingBytes
  ensure (grants length = true) .allocationFailed
  let output ← header.encode.mapError .header
  let output ← appendReason (output ++ packet.sources.flatMap wordBytes) packet.reason
  appendPadding .lengthOverflow packet.paddingBytes length output

/-- The wire form of a reason that so many zeros follow. -/
def reasonBytes (reason : Option (List UInt8)) (slack : Nat) : List UInt8 :=
  match reason with
  | none => []
  | some reason => reason.length.toUInt8 :: (reason ++ List.replicate slack 0)

/-- The number of zeros that fill a reason to a whole word. -/
def reasonFill (reason : Option (List UInt8)) : Nat :=
  match reason with
  | none => 0
  | some reason => alignToWord (1 + reason.length) - (1 + reason.length)

/-- The body of a packet with so many zeros after its reason. -/
def body (packet : Goodbye) (slack : Nat) : List UInt8 :=
  packet.sources.flatMap wordBytes ++ reasonBytes packet.reason slack

/-- A frame that carries a BYE packet, with so many zeros after the reason. -/
structure Carries (frame : Frame) (packet : Goodbye) (slack : Nat) : Prop where
  packetType : frame.packetType = .goodbye
  count : frame.count.toNat = packet.sources.length
  some_source : packet.sources ≠ []
  reason_le : ∀ reason, packet.reason = some reason → reason.length ≤ 255
  body : frame.body = packet.body slack
  paddingBytes : frame.paddingBytes = packet.paddingBytes

theorem length_reasonBytes_some (reason : List UInt8) (slack : Nat) :
    (reasonBytes (some reason) slack).length = 1 + reason.length + slack := by
  simp only [reasonBytes, List.length_cons, List.length_append, List.length_replicate]
  omega

theorem length_body (packet : Goodbye) (slack : Nat) : (packet.body slack).length =
      4 * packet.sources.length + (reasonBytes packet.reason slack).length := by
  rw [body, List.length_append, length_flatMap_wordBytes]

/-- Sources stand one after the other. -/
theorem safe_readSources {packet : List UInt8} (index remaining : Nat)
    (inside : rtcpHeaderBytes + (index + remaining) * 4 ≤ packet.length) :
    Safe (fun sources => sources.length = remaining ∧
        packet.drop (rtcpHeaderBytes + index * 4) = sources.flatMap wordBytes ++
          packet.drop (rtcpHeaderBytes + (index + remaining) * 4))
      (readSources packet index remaining) := by
  induction remaining generalizing index with
  | zero => exact ⟨rfl, rfl⟩
  | succ remaining ih =>
    refine .bind (safe_readU32 (by omega)) fun source sourceStands => ?_
    refine .bind (ih (index + 1) (by omega)) fun sources rest => ?_
    obtain ⟨number, stand⟩ := rest
    have next : rtcpHeaderBytes + index * 4 + 4 = rtcpHeaderBytes + (index + 1) * 4 := by
      omega
    have last : rtcpHeaderBytes + (index + 1 + remaining) * 4 =
        rtcpHeaderBytes + (index + (remaining + 1)) * 4 := by
      omega
    refine ⟨by simp [number], ?_⟩
    rw [sourceStands, next, stand, last, List.flatMap_cons, List.append_assoc]

theorem readSources_of_drop {packet rest : List UInt8} (index : Nat)
    (sources : List UInt32)
    (found : packet.drop (rtcpHeaderBytes + index * 4) = sources.flatMap wordBytes ++ rest)
    (inside : rtcpHeaderBytes + (index + sources.length) * 4 ≤ packet.length) :
    readSources packet index sources.length = .ok sources := by
  induction sources generalizing index with
  | nil => rfl
  | cons source sources ih =>
    rw [List.length_cons] at inside ⊢
    rw [List.flatMap_cons, List.append_assoc] at found
    have next : packet.drop (rtcpHeaderBytes + (index + 1) * 4) =
        sources.flatMap wordBytes ++ rest := by
      have dropped := drop_next found (length_wordBytes source)
      rwa [Nat.add_assoc, ← Nat.succ_mul] at dropped
    refine bind_of_ok (readU32_of_drop found (by omega)) ?_
    refine bind_of_ok (ih (index + 1) next (by omega)) rfl

/-- A reason fills the body up to its zeros. -/
theorem safe_parseReason (grants : Nat → Bool) {packet : List UInt8}
    {sourcesEnd bodyEnd : Nat} (ordered : sourcesEnd ≤ bodyEnd) (inside : bodyEnd ≤ packet.length) :
    Safe (fun reason => (∀ value, reason = some value → value.length ≤ 255) ∧
        ∃ slack, packet.drop sourcesEnd = reasonBytes reason slack ++ packet.drop bodyEnd)
      (parseReason grants packet sourcesEnd bodyEnd) := by
  unfold parseReason
  split_ifs with none
  · subst none
    exact ⟨by simp, 0, rfl⟩
  refine .bind (safe_byteAt (by omega)) fun length lengthStands => ?_
  refine .bind (safe_require _ _) fun _ whole => ?_
  refine .bind (safe_range (by omega) (by omega)) fun alignment alignmentStands => ?_
  refine .bind (safe_require _ _) fun _ zeros => ?_
  refine .bind (safe_require _ _) fun _ _ => ?_
  refine .bind (safe_range (by omega) (by omega)) fun value valueStands => ?_
  have bound := length.toNat_lt
  have size : value.val.length = length.toNat := by
    rw [value.property]
    omega
  have alignmentIs : alignment.val = List.replicate alignment.val.length 0 :=
    List.eq_replicate_iff.mpr ⟨rfl, by simpa using zeros⟩
  refine ⟨?_, alignment.val.length, ?_⟩
  · rintro reason ⟨⟩
    omega
  · rw [lengthStands, valueStands, alignmentStands, reasonBytes, ← alignmentIs, size]
    simp

theorem parseReason_of_drop (granted : ∀ size, grants size = true)
    {packet rest : List UInt8}
    {sourcesEnd bodyEnd : Nat}
    (found : packet.drop sourcesEnd = reasonBytes reason slack ++ rest)
    (small : ∀ value, reason = some value → value.length ≤ 255)
    (last : bodyEnd = sourcesEnd + (reasonBytes reason slack).length)
    (inside : bodyEnd ≤ packet.length) :
    parseReason grants packet sourcesEnd bodyEnd = .ok reason := by
  unfold parseReason
  cases reason with
  | none => rw [if_pos (by simp [last, reasonBytes])]
  | some reason =>
    have small := small reason rfl
    rw [length_reasonBytes_some] at last
    have octet : reason.length.toUInt8.toNat = reason.length := by
      rw [Nat.toUInt8_eq, UInt8.toNat_ofNat', Nat.mod_eq_of_lt (by omega)]
    have atLength : packet.drop sourcesEnd = reason.length.toUInt8 ::
        (reason ++ (List.replicate slack 0 ++ rest)) := by
      rw [found, reasonBytes]
      simp
    have atValue : packet.drop (sourcesEnd + 1) = _ := drop_succ_of_drop atLength
    have atZeros : packet.drop (sourcesEnd + 1 + reason.length.toUInt8.toNat) = _ :=
      drop_next atValue octet.symm
    rw [if_neg (by omega)]
    refine bind_of_ok (byteAt_of_drop atLength) ?_
    refine bind_of_ok (require_of (by omega) _) ?_
    refine bind_of_ok (range_of_drop atZeros ?_ (by omega)) ?_
    · rw [List.length_replicate]
      omega
    refine bind_of_ok (require_of (by simp) _) ?_
    refine bind_of_ok (require_of (granted _) _) ?_
    refine bind_of_ok (range_of_drop atValue (by omega) (by omega)) rfl

/-- A parsed BYE packet is carried by the frame at the front of the input. -/
theorem safe_parse (grants : Nat → Bool) (input : List UInt8) :
    Safe (fun parsed => ∃ frame : Frame, ∃ rest slack,
        input = frame.bytes ++ rest ∧ parsed.2 = frame.length ∧
        Carries frame parsed.1 slack)
      (parse grants input) := by
  unfold parse
  refine .bind ((RtcpHeader.safe_parse input).map _) fun header front => ?_
  obtain ⟨frame, rest, rfl, rfl⟩ := front
  refine .bind (safe_require _ _) fun _ type => ?_
  refine .bind (safe_require _ _) fun _ positive => ?_
  refine .bind (safe_require _ _) fun _ ordered => ?_
  refine .bind (frame.safe_packet rest) fun packet isFrame => ?_
  refine .bind (safe_require _ _) fun _ _ => ?_
  have bodyEnd := frame.unpaddedBodyLen_header
  have length : packet.val.length = rtcpHeaderBytes + frame.body.length +
      frame.paddingBytes.toNat := by
    rw [isFrame]
    exact frame.length_bytes
  refine .bind (safe_readSources 0 _ (by omega)) fun sources front => ?_
  obtain ⟨number, sourcesStand⟩ := front
  rw [Nat.zero_mul, Nat.add_zero, Nat.zero_add] at sourcesStand
  refine .bind (safe_parseReason grants ordered (by omega)) fun reason front => ?_
  obtain ⟨small, slack, reasonStands⟩ := front
  refine ⟨frame, rest, slack, rfl, rfl, type, number.symm, ?_, small, ?_, rfl⟩
  · rintro rfl
    exact positive number.symm
  rw [reasonStands, isFrame, frame.drop_header, ← List.append_assoc] at sourcesStand
  refine (List.append_inj sourcesStand ?_).1
  have dropped := congrArg List.length reasonStands
  rw [List.length_append, List.length_drop, List.length_drop] at dropped
  rw [List.length_append, length_flatMap_wordBytes, number]
  omega

/-- A BYE packet is parsed from a frame that carries it. -/
theorem parse_of_carries
    (granted : ∀ size, grants size = true)
    (carries : Carries frame packet slack)
    (rest : List UInt8) :
    parse grants (frame.bytes ++ rest) = .ok (packet, frame.length) := by
  have length : frame.bytes.length = rtcpHeaderBytes + frame.body.length +
      frame.paddingBytes.toNat := frame.length_bytes
  have bodyEnd := frame.unpaddedBodyLen_header
  have count : frame.header.count.toNat = packet.sources.length := carries.count
  have size := packet.length_body slack
  rw [← carries.body] at size
  have stands : frame.bytes.drop rtcpHeaderBytes = packet.sources.flatMap wordBytes ++
      (reasonBytes packet.reason slack ++ paddingWith frame.paddingBytes frame.filler) := by
    rw [frame.drop_header, carries.body, body, List.append_assoc]
  have atReason : frame.bytes.drop (rtcpHeaderBytes + frame.header.count.toNat * 4) =
      reasonBytes packet.reason slack ++ paddingWith frame.paddingBytes frame.filler := by
    rw [count, Nat.mul_comm]
    exact drop_next stands (length_flatMap_wordBytes _)
  have sources : readSources frame.bytes 0 frame.header.count.toNat = .ok packet.sources := by
    rw [count]
    exact readSources_of_drop 0 packet.sources (by rwa [Nat.zero_mul, Nat.add_zero]) (by omega)
  have positive : packet.sources.length ≠ 0 :=
    fun zero => carries.some_source (List.length_eq_zero_iff.mp zero)
  have reason := parseReason_of_drop granted atReason carries.reason_le
    (show rtcpHeaderBytes + frame.header.unpaddedBodyLen = _ by omega) (by omega)
  obtain ⟨slice, sliced, isFrame⟩ := frame.range_packet (ε := GoodbyeError) rest
  unfold parse
  refine bind_of_ok (mapError_eq_ok.mpr (parse_frame frame rest)) ?_
  refine bind_of_ok (require_of carries.packetType _) ?_
  refine bind_of_ok (require_of (by omega) _) ?_
  refine bind_of_ok (require_of (by omega) _) ?_
  refine bind_of_ok sliced ?_
  rw [isFrame]
  refine bind_of_ok (require_of (granted _) _) ?_
  refine bind_of_ok sources ?_
  refine bind_of_ok reason ?_
  simp only [Frame.header, carries.paddingBytes]
  rfl

theorem length_reasonFill (reason : List UInt8) :
    1 + reason.length + reasonFill (some reason) = alignToWord (1 + reason.length) := by
  have bound := le_alignToWord (1 + reason.length)
  rw [reasonFill]
  omega

theorem four_dvd_length_body (packet : Goodbye) :
    4 ∣ (packet.body (reasonFill packet.reason)).length := by
  rw [length_body]
  cases packet.reason with
  | none => exact ⟨packet.sources.length, rfl⟩
  | some reason =>
    rw [length_reasonBytes_some, length_reasonFill]
    exact Nat.dvd_add (Nat.dvd_mul_right _ _) (four_dvd_alignToWord _)

/-- The encoder's length is that of the filled body and the padding. -/
theorem packetLen_eq (packet : Goodbye) :
    packetLen packet.sources.length packet.reason packet.paddingBytes =
      if 4 ∣ packet.paddingBytes.toNat then
        .ok (rtcpHeaderBytes + (packet.body (reasonFill packet.reason)).length +
          packet.paddingBytes.toNat)
      else
        .error (.packetNotWordAligned
          (rtcpHeaderBytes + (packet.body (reasonFill packet.reason)).length +
            packet.paddingBytes.toNat)) := by
  have whole := packet.four_dvd_length_body
  have measured : (match packet.reason with
      | none => rtcpHeaderBytes + packet.sources.length * 4
      | some reason =>
        alignToWord (rtcpHeaderBytes + packet.sources.length * 4 + 1 + reason.length)) =
      rtcpHeaderBytes + (packet.body (reasonFill packet.reason)).length := by
    rw [length_body]
    cases packet.reason with
    | none =>
      dsimp only [reasonBytes, List.length_nil]
      omega
    | some reason =>
      rw [length_reasonBytes_some, length_reasonFill]
      dsimp only
      rw [alignToWord, alignToWord, rtcpHeaderBytes]
      omega
  simp only [packetLen]
  rw [measured]
  refine if_congr ?_ rfl rfl
  rw [rtcpHeaderBytes]
  omega

theorem validateInputs_of_carries
    (carries : Carries frame packet slack) :
    validateInputs packet.sources packet.reason = .ok () := by
  have few : packet.sources.length ≤ maxGoodbyeSources := by
    rw [← carries.count]
    exact frame.count_le
  have small := carries.reason_le
  unfold validateInputs
  rw [ensure_of carries.some_source, ok_bind, ensure_of few, ok_bind]
  cases given : packet.reason with
  | none => rfl
  | some reason => exact ensure_of (small reason given) _

/-- A packet whose padding is no whole number of words is not encoded. -/
theorem encode_of_unaligned
    (carries : Carries frame packet slack)
    (unaligned : ¬4 ∣ packet.paddingBytes.toNat) (grants : Nat → Bool) :
    ∃ error, encode grants packet = .error error := by
  rw [encode, validateInputs_of_carries carries, ok_bind, packetLen_eq, if_neg unaligned]
  exact ⟨_, rfl⟩

theorem appendReason_eq
    {output : List UInt8}
    (aligned : 4 ∣ output.length)
    (small : ∀ value, reason = some value → value.length ≤ 255) :
    appendReason output reason = .ok (output ++ reasonBytes reason (reasonFill reason)) := by
  cases reason with
  | none => simp [appendReason, reasonBytes]
  | some reason =>
    have filled := length_reasonFill reason
    have grown : alignToWord (output ++ reason.length.toUInt8 :: reason).length =
        (output ++ reason.length.toUInt8 :: reason).length + reasonFill (some reason) := by
      rw [List.length_append, List.length_cons]
      rw [alignToWord] at filled ⊢
      omega
    simp only [appendReason]
    rw [ensure_of (small reason rfl), ok_bind, grown, resize_add, reasonBytes]
    exact congrArg Except.ok (by simp)

/-- A BYE packet is encoded in the frame that carries it filled to a word. -/
theorem encode_of_carries
    (granted : ∀ size, grants size = true)
    (carries : Carries frame packet (reasonFill packet.reason)) :
    encode grants packet = .ok frame.zeroed.bytes := by
  have whole := packet.four_dvd_length_body
  have aligned := frame.aligned
  rw [carries.body, carries.paddingBytes] at aligned
  have length : rtcpHeaderBytes + (packet.body (reasonFill packet.reason)).length +
      packet.paddingBytes.toNat = frame.length := by
    rw [Frame.length, carries.body, carries.paddingBytes]
  have front : 4 ∣ (frame.headerBytes ++ packet.sources.flatMap wordBytes).length := by
    rw [List.length_append, frame.length_headerBytes, length_flatMap_wordBytes, rtcpHeaderBytes]
    omega
  have written : frame.headerBytes ++ packet.sources.flatMap wordBytes ++
      reasonBytes packet.reason (reasonFill packet.reason) =
      frame.headerBytes ++ frame.body := by
    rw [carries.body, body, List.append_assoc]
  have sized : frame.length =
      (frame.headerBytes ++ frame.body).length + packet.paddingBytes.toNat := by
    rw [List.length_append, frame.length_headerBytes, ← carries.paddingBytes]
    rfl
  rw [encode, validateInputs_of_carries carries, ok_bind, packetLen_eq,
    if_pos (by omega), length, ok_bind, forCount_frame carries.packetType
      carries.count carries.paddingBytes, ok_bind, ensure_of (granted _), ok_bind,
    encode_frame]
  refine bind_of_ok rfl ?_
  rw [appendReason_eq front carries.reason_le, ok_bind, written, appendPadding_eq sized,
    Frame.bytes_zeroed, carries.paddingBytes, List.append_assoc]

/-- The frame that carries a packet filled to a word is no longer than another. -/
theorem exists_filled
    (carries : Carries frame packet slack) (padded : 4 ∣ packet.paddingBytes.toNat) :
    ∃ filled, Carries filled packet (reasonFill packet.reason) ∧ filled.length ≤ frame.length := by
  have aligned := frame.aligned
  have fits := frame.fits
  rw [carries.body, carries.paddingBytes] at aligned fits
  have whole := packet.four_dvd_length_body
  have shorter : (packet.body (reasonFill packet.reason)).length ≤ (packet.body slack).length := by
    rw [length_body] at whole aligned ⊢
    rw [length_body]
    cases given : packet.reason with
    | none => exact Nat.le_refl _
    | some reason =>
      have filled := length_reasonFill reason
      rw [given, length_reasonBytes_some] at aligned
      rw [length_reasonBytes_some, length_reasonBytes_some]
      rw [alignToWord] at filled
      omega
  have few : packet.sources.length ≤ 31 := by
    rw [← carries.count]
    exact frame.count_le
  obtain ⟨filled, type, count, body, padding⟩ :=
    Frame.exists_of (show RtcpPacketType.fromRaw RtcpPacketType.goodbye.asRaw =
      .ok .goodbye from rfl) few (Nat.dvd_add whole padded) (by omega)
  refine ⟨filled, ⟨type, count, carries.some_source, carries.reason_le, body, padding⟩, ?_⟩
  rw [Frame.length, Frame.length, body, padding, carries.body, carries.paddingBytes]
  omega

/-- A constructed BYE packet has a frame. -/
theorem carries_of_new {sources : List UInt32} {paddingBytes : UInt8}
    (built : new grants sources reason paddingBytes = .ok packet) :
    ∃ frame, Carries frame packet (reasonFill packet.reason) := by
  obtain ⟨_, checked, built⟩ := bind_eq_ok.mp built
  obtain ⟨length, measured, built⟩ := bind_eq_ok.mp built
  obtain ⟨header, made, built⟩ := bind_eq_ok.mp built
  obtain ⟨_, _, built⟩ := bind_eq_ok.mp built
  have packetIs : packet = ⟨sources, reason, paddingBytes⟩ := by
    cases reason with
    | none =>
      cases built
      rfl
    | some reason =>
      obtain ⟨_, _, built⟩ := bind_eq_ok.mp built
      cases built
      rfl
  subst packetIs
  obtain ⟨_, someSource, checked⟩ := bind_eq_ok.mp checked
  obtain ⟨_, few, checked⟩ := bind_eq_ok.mp checked
  have small : ∀ value, reason = some value → value.length ≤ 255 := by
    rintro value rfl
    exact ensure_eq_ok.mp checked
  obtain ⟨aligned, fits⟩ := of_forCount made
  have measuredIs := packetLen_eq ⟨sources, reason, paddingBytes⟩
  rw [measured] at measuredIs
  split_ifs at measuredIs with padded
  injection measuredIs with measuredIs
  obtain ⟨frame, type, count, body, padding⟩ :=
    Frame.exists_of (show RtcpPacketType.fromRaw RtcpPacketType.goodbye.asRaw =
      .ok .goodbye from rfl) (ensure_eq_ok.mp few)
      (Nat.dvd_add (four_dvd_length_body ⟨sources, reason, paddingBytes⟩) padded)
      (by dsimp only at measuredIs ⊢; omega)
  exact ⟨frame, type, count, ensure_eq_ok.mp someSource, small, body, padding⟩

end Goodbye

end Rtp
end LiveAISIP
