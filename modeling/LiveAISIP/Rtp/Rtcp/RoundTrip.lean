import LiveAISIP.Rtp.Rtcp.Compound

/-!
# Compound RTCP round trips

A datagram is parsed exactly when it is a stream of frames that carry packets,
only the last of them padded.  Every stream that the encoder writes is one, so
constructed datagrams are parsed back; a parsed datagram is encoded again except
when its last packet is a BYE whose padding is no whole number of words.
-/

namespace LiveAISIP
namespace Rtp

open BigEndian Fault Outcome
open List

/-- The packet types with a parser of their own. -/
def TypedPacketType (packetType : RtcpPacketType) : Prop :=
  packetType = .senderReport ∨ packetType = .receiverReport ∨
    packetType = .sourceDescription ∨ packetType = .goodbye

/-- A frame that carries a packet. -/
def Frame.Carries (frame : Frame) : RtcpPacket → Prop
  | .senderReport packet => SenderReport.kind.Carries frame packet
  | .receiverReport packet => ReceiverReport.kind.Carries frame packet
  | .sourceDescription packet => SourceDescription.Carries frame packet
  | .goodbye packet => ∃ slack, Goodbye.Carries frame packet slack
  | .opaquePacket packet =>
    ¬TypedPacketType frame.packetType ∧
      packet = { packetType := frame.packetType, bytes := frame.bytes }

namespace RtcpPacket

variable {grants : Nat → Bool} {frame : Frame} {packet : RtcpPacket}

/-- What one packet is parsed to is carried by its frame. -/
theorem safe_parse (grants : Nat → Bool) (frame : Frame) (rest : List UInt8)
    (index : Nat) :
    Safe frame.Carries (parse grants (frame.bytes ++ rest) frame.header index) := by
  unfold parse
  split
  case h_1 type =>
    refine .bind ((ReportKind.safe_parse _ grants _).map _) fun parsed front => ?_
    obtain ⟨carrier, other, same, _, carries⟩ := front
    obtain ⟨rfl, _⟩ := Frame.eq_of_append same
    exact carries
  case h_2 type =>
    refine .bind ((ReportKind.safe_parse _ grants _).map _) fun parsed front => ?_
    obtain ⟨carrier, other, same, _, carries⟩ := front
    obtain ⟨rfl, _⟩ := Frame.eq_of_append same
    exact carries
  case h_3 type =>
    refine .bind ((SourceDescription.safe_parse grants _).map _) fun parsed front => ?_
    obtain ⟨carrier, other, same, _, carries⟩ := front
    obtain ⟨rfl, _⟩ := Frame.eq_of_append same
    exact carries
  case h_4 type =>
    refine .bind ((Goodbye.safe_parse grants _).map _) fun parsed front => ?_
    obtain ⟨carrier, other, slack, same, _, carries⟩ := front
    obtain ⟨rfl, _⟩ := Frame.eq_of_append same
    exact ⟨slack, carries⟩
  case h_5 sender receiver description goodbye =>
    have kept : Safe (fun packet : OpaqueRtcpPacket =>
          packet = ⟨frame.packetType, frame.bytes⟩)
        (OpaqueRtcpPacket.parse grants (frame.bytes ++ rest) frame.header) := by
      refine .bind (safe_require _ _) fun _ _ => ?_
      refine .bind (frame.safe_packet rest) fun packet isFrame => ?_
      rw [meets_pure, isFrame]
      rfl
    refine .bind kept fun packet isKept => ?_
    refine ⟨?_, isKept⟩
    rintro (type | type | type | type)
    · exact sender type
    · exact receiver type
    · exact description type
    · exact goodbye type

/-- A packet is parsed from a frame that carries it. -/
theorem parse_of_carries (granted : ∀ size, grants size = true) (carries : frame.Carries packet)
    (rest : List UInt8) (index : Nat) :
    parse grants (frame.bytes ++ rest) frame.header index = .ok packet := by
  unfold parse
  cases packet with
  | senderReport packet =>
    rw [show frame.header.packetType = .senderReport from carries.packetType]
    exact bind_of_ok (mapError_eq_ok.mpr (ReportKind.parse_of_carries granted carries rest)) rfl
  | receiverReport packet =>
    rw [show frame.header.packetType = .receiverReport from carries.packetType]
    exact bind_of_ok (mapError_eq_ok.mpr (ReportKind.parse_of_carries granted carries rest)) rfl
  | sourceDescription packet =>
    rw [show frame.header.packetType = .sourceDescription from carries.packetType]
    exact bind_of_ok (mapError_eq_ok.mpr
      (SourceDescription.parse_of_carries granted carries rest)) rfl
  | goodbye packet =>
    obtain ⟨slack, carries⟩ := carries
    rw [show frame.header.packetType = .goodbye from carries.packetType]
    exact bind_of_ok (mapError_eq_ok.mpr (Goodbye.parse_of_carries granted carries rest)) rfl
  | opaquePacket packet =>
    obtain ⟨other, rfl⟩ := carries
    obtain ⟨slice, sliced, isFrame⟩ := frame.range_packet (ε := CompoundRtcpError) rest
    have kept : OpaqueRtcpPacket.parse grants (frame.bytes ++ rest) frame.header =
        .ok ⟨frame.packetType, frame.bytes⟩ := by
      refine bind_of_ok (require_of (granted _) _) ?_
      refine bind_of_ok sliced ?_
      rw [isFrame]
      rfl
    have type : frame.header.packetType = frame.packetType := rfl
    split
    case h_1 known => exact absurd (.inl (type ▸ known)) other
    case h_2 known => exact absurd (.inr (.inl (type ▸ known))) other
    case h_3 known => exact absurd (.inr (.inr (.inl (type ▸ known)))) other
    case h_4 known => exact absurd (.inr (.inr (.inr (type ▸ known)))) other
    case h_5 => exact bind_of_ok kept rfl

/-- A packet tells whether its frame is padded. -/
theorem hasPadding_of_carries
    (carries : frame.Carries packet) :
    packet.hasPadding = .ok (frame.paddingBytes != 0) := by
  cases packet with
  | senderReport packet => rw [hasPadding, carries.paddingBytes]
  | receiverReport packet => rw [hasPadding, carries.paddingBytes]
  | sourceDescription packet => rw [hasPadding, carries.paddingBytes]
  | goodbye packet =>
    obtain ⟨slack, carries⟩ := carries
    rw [hasPadding, carries.paddingBytes]
  | opaquePacket packet =>
    obtain ⟨_, rfl⟩ := carries
    have parsed := RtcpHeader.parse_frame frame []
    rw [append_nil] at parsed
    exact bind_of_ok (mapError_eq_ok.mpr parsed) rfl

/-- Padding of a BYE packet is a whole number of words. -/
def Aligned : RtcpPacket → Prop
  | .goodbye packet => 4 ∣ packet.paddingBytes.toNat
  | _ => True

/-- A frame in which a packet is encoded. -/
structure Written (grants : Nat → Bool) (frame : Frame) (packet : RtcpPacket) : Prop where
  carries : frame.Carries packet
  encoded : packet.encode grants = .ok frame.bytes

/-- A carried packet is encoded in a frame of its own, no longer than the first. -/
theorem exists_written (granted : ∀ size, grants size = true) (carries : frame.Carries packet)
    (aligned : packet.Aligned) :
    ∃ written, Written grants written packet ∧ written.length ≤ frame.length ∧
      written.paddingBytes = frame.paddingBytes := by
  cases packet with
  | senderReport packet =>
    refine ⟨frame.zeroed, ⟨?_, ?_⟩, Nat.le_refl _, rfl⟩
    · exact ⟨carries.packetType, carries.count, carries.body, carries.paddingBytes⟩
    · exact mapError_eq_ok.mpr (ReportKind.encode_of_carries granted carries)
  | receiverReport packet =>
    refine ⟨frame.zeroed, ⟨?_, ?_⟩, Nat.le_refl _, rfl⟩
    · exact ⟨carries.packetType, carries.count, carries.body, carries.paddingBytes⟩
    · exact mapError_eq_ok.mpr (ReceiverReport.encode_of_carries granted carries)
  | sourceDescription packet =>
    refine ⟨frame.zeroed, ⟨?_, ?_⟩, Nat.le_refl _, rfl⟩
    · exact ⟨carries.packetType, carries.count, carries.body, carries.paddingBytes,
        carries.items, carries.known⟩
    · exact mapError_eq_ok.mpr (SourceDescription.encode_of_carries granted carries)
  | goodbye packet =>
    obtain ⟨slack, carries⟩ := carries
    obtain ⟨filled, carried, shorter⟩ := Goodbye.exists_filled carries aligned
    refine ⟨filled.zeroed, ⟨?_, ?_⟩, shorter, ?_⟩
    · exact ⟨_, carried.packetType, carried.count, carried.some_source,
        carried.reason_le, carried.body, carried.paddingBytes⟩
    · exact mapError_eq_ok.mpr (Goodbye.encode_of_carries granted carried)
    · exact carried.paddingBytes.trans carries.paddingBytes.symm
  | opaquePacket packet =>
    refine ⟨frame, ⟨carries, ?_⟩, Nat.le_refl _, rfl⟩
    obtain ⟨_, rfl⟩ := carries
    rfl

/-- A carried packet is encoded only when it is aligned. -/
theorem aligned_of_encode
    {encoded : List UInt8} (carries : frame.Carries packet)
    (returned : packet.encode grants = .ok encoded) :
    packet.Aligned := by
  cases packet with
  | goodbye packet =>
    obtain ⟨slack, carries⟩ := carries
    by_contra unaligned
    obtain ⟨error, failed⟩ := Goodbye.encode_of_unaligned carries unaligned grants
    rw [mapError_eq_ok.mp returned] at failed
    cases failed
  | _ => trivial

end RtcpPacket

/-- Frames that carry packets, only the last of them padded. -/
inductive Stream : List Frame → List RtcpPacket → Prop
  | nil : Stream [] []
  | cons {frame : Frame} {packet : RtcpPacket} {frames : List Frame}
      {packets : List RtcpPacket}
      (carries : frame.Carries packet)
      (last : frame.paddingBytes = 0 ∨ frames = [])
      (rest : Stream frames packets) :
      Stream (frame :: frames) (packet :: packets)

/-- The octets of a sequence of frames. -/
def streamBytes (frames : List Frame) : List UInt8 := frames.flatMap Frame.bytes

theorem streamBytes_cons (frame : Frame) (frames : List Frame) :
    streamBytes (frame :: frames) = frame.bytes ++ streamBytes frames :=
  flatMap_cons

theorem Frame.length_pos (frame : Frame) : 0 < frame.length := by
  rw [length, rtcpHeaderBytes]
  omega

theorem length_streamBytes_cons (frame : Frame) (frames : List Frame) :
    (streamBytes (frame :: frames)).length = frame.length + (streamBytes frames).length := by
  rw [streamBytes_cons, length_append, frame.length_bytes]

theorem four_dvd_length_streamBytes (frames : List Frame) :
    4 ∣ (streamBytes frames).length := by
  induction frames with
  | nil => exact Nat.dvd_zero 4
  | cons frame frames ih =>
    rw [length_streamBytes_cons]
    exact Nat.dvd_add frame.four_dvd_length ih

theorem streamBytes_eq_nil {frames : List Frame} (empty : streamBytes frames = []) :
    frames = [] := by
  cases frames with
  | nil => rfl
  | cons frame frames =>
    have positive := frame.length_pos
    have size := length_streamBytes_cons frame frames
    rw [empty, length_nil] at size
    omega

theorem Stream.length_eq {frames : List Frame} {packets : List RtcpPacket}
    (stream : Stream frames packets) : frames.length = packets.length := by
  induction stream with
  | nil => rfl
  | cons _ _ _ ih => simp [ih]

namespace CompoundRtcp

variable {grants : Nat → Bool} {frames : List Frame}

variable {packets : List RtcpPacket}

/-- What the loop parses is a stream that reaches to the end of the datagram. -/
theorem safe_parsePackets (grants : Nat → Bool) (input : List UInt8) (room offset : Nat)
    (packets : List RtcpPacket) (inside : offset ≤ input.length) :
    Safe (fun parsed => ∃ frames more, parsed = packets ++ more ∧
        Stream frames more ∧ more.length ≤ room ∧
        input.drop offset = streamBytes frames)
      (parsePackets grants input room offset packets) := by
  induction room generalizing offset packets with
  | zero =>
    unfold parsePackets
    split_ifs with within
    · simp
    · refine ⟨[], [], by simp, .nil, Nat.le_refl _, ?_⟩
      exact drop_eq_nil_of_le (Nat.not_lt.mp within)
  | succ room ih =>
    unfold parsePackets
    split_ifs with within
    swap
    · refine ⟨[], [], by simp, .nil, Nat.zero_le _, ?_⟩
      exact drop_eq_nil_of_le (Nat.not_lt.mp within)
    refine .bind (safe_rangeFrom inside) fun remaining stands => ?_
    refine .bind ((RtcpHeader.safe_parse _).map _) fun header front => ?_
    obtain ⟨frame, rest, rfl, split⟩ := front
    refine .bind (safe_require _ _) fun _ position => ?_
    rw [split]
    refine .bind (RtcpPacket.safe_parse grants frame rest _) fun packet carries => ?_
    refine .bind (safe_require _ _) fun _ _ => ?_
    have whole : input.drop offset = frame.bytes ++ rest := stands.symm.trans split
    have next : input.drop (offset + frame.header.packetLen) = rest :=
      drop_next whole frame.length_bytes
    have room : offset + frame.header.packetLen ≤ input.length := by
      have size := congrArg length whole
      rw [length_drop, length_append, frame.length_bytes] at size
      simp only [Frame.header]
      omega
    refine (ih _ _ room).mono ?_
    rintro parsed ⟨frames, more, rfl, stream, few, tail⟩
    refine ⟨frame :: frames, packet :: more, by simp, .cons carries ?_ stream,
      Nat.succ_le_succ few, ?_⟩
    · by_cases none : frame.paddingBytes = 0
      · exact .inl none
      · have final : offset + frame.header.packetLen = input.length := by
          by_contra before
          exact position ⟨by simp [Frame.header, none], before⟩
        refine .inr (streamBytes_eq_nil ?_)
        rw [← tail, final, drop_length]
    · rw [whole, streamBytes_cons, ← tail, next]

/-- A stream is parsed to its packets. -/
theorem parsePackets_of_stream
    (granted : ∀ size, grants size = true)
    {input : List UInt8}
    {more : List RtcpPacket}
    (stream : Stream frames more)
    (room offset : Nat) (packets : List RtcpPacket) (few : more.length ≤ room)
    (found : input.drop offset = streamBytes frames) (inside : offset ≤ input.length) :
    parsePackets grants input room offset packets = .ok (packets ++ more) := by
  have size := congrArg List.length found
  rw [length_drop] at size
  induction stream generalizing room offset packets with
  | nil =>
    have passed : ¬offset < input.length := by
      rw [streamBytes, flatMap_nil, length_nil] at size
      omega
    unfold parsePackets
    rw [if_neg passed, append_nil]
  | @cons frame packet frames more carries last stream ih =>
    obtain ⟨room, rfl⟩ : ∃ less, room = less + 1 :=
      Nat.exists_eq_succ_of_ne_zero (by rw [length_cons] at few; omega)
    have positive := frame.length_pos
    have length : frame.header.packetLen = frame.length := rfl
    rw [length_streamBytes_cons] at size
    rw [streamBytes_cons] at found
    have next := drop_next found frame.length_bytes
    have position : ¬(frame.header.padding = true ∧
        offset + frame.header.packetLen ≠ input.length) := by
      rintro ⟨padded, before⟩
      rcases last with none | rfl
      · simp [Frame.header, none] at padded
      · rw [streamBytes, flatMap_nil, length_nil] at size
        omega
    unfold parsePackets
    rw [if_pos (by omega)]
    refine bind_of_ok (rangeFrom_of_drop found (by omega)) ?_
    refine bind_of_ok (mapError_eq_ok.mpr (RtcpHeader.parse_frame frame _)) ?_
    refine bind_of_ok (require_of position _) ?_
    refine bind_of_ok (RtcpPacket.parse_of_carries granted carries _ _) ?_
    refine bind_of_ok (require_of (granted _) _) ?_
    rw [length, ih room _ (packets ++ [packet]) (Nat.le_of_succ_le_succ few) next (by omega)
      (by rw [← length_drop, next])]
    simp

theorem safe_validatePolicy (packets : List RtcpPacket) (policy : CompoundPolicy) :
    Safe (fun _ => validatePolicy packets policy = .ok () ∧ packets ≠ [])
      (validatePolicy packets policy) := by
  have safe : Safe (fun _ => packets ≠ []) (validatePolicy packets policy) := by
    have counted : Safe (fun _ => packets.length ≠ 0) (validatePacketCount packets.length) := by
      refine .bind (safe_require _ _) fun _ positive => ?_
      exact (safe_require _ _).mono fun _ _ => positive
    refine .bind counted fun _ positive => ?_
    split_ifs with reduced
    · intro none
      simp [none] at positive
    cases packets with
    | nil => exact absurd rfl positive
    | cons first rest =>
      dsimp only
      split
      · simp
      · exact (safe_require _ _).mono fun _ _ => cons_ne_nil _ _
  cases accepted : validatePolicy packets policy with
  | ok value =>
    rw [accepted] at safe
    exact ⟨rfl, safe⟩
  | error fault => rwa [accepted] at safe

/-- A parsed datagram is a stream of its packets. -/
theorem safe_parse (grants : Nat → Bool) (input : List UInt8) (policy : CompoundPolicy) :
    Safe (fun compound => compound.policy = policy ∧
        validatePolicy compound.packets policy = .ok () ∧
        compound.packets ≠ [] ∧
        input.length ≤ maxRtcpPacketBytes ∧
        compound.packets.length ≤ maxCompoundPackets ∧
        ∃ frames, Stream frames compound.packets ∧ input = streamBytes frames)
      (parse grants input policy) := by
  have shaped : Safe (fun _ => input.length ≤ maxRtcpPacketBytes)
      (validateDatagramShape input) := by
    refine .bind (safe_require _ _) fun _ _ => ?_
    refine .bind (safe_require _ _) fun _ fits => ?_
    exact (safe_require _ _).mono fun _ _ => fits
  refine .bind shaped fun _ fits => ?_
  refine .bind (safe_parsePackets grants input maxCompoundPackets 0 [] (Nat.zero_le _))
    fun parsed front => ?_
  obtain ⟨frames, packets, rfl, stream, few, whole⟩ := front
  refine .bind (safe_validatePolicy _ policy) fun _ accepted => ?_
  exact ⟨rfl, accepted.1, accepted.2, fits, few, frames, stream, whole⟩

/-- A stream that a policy accepts is parsed. -/
theorem parse_of_stream (granted : ∀ size, grants size = true) {policy : CompoundPolicy}
    (stream : Stream frames packets) (accepted : validatePolicy packets policy = .ok ())
    (nonempty : packets ≠ []) (few : packets.length ≤ maxCompoundPackets)
    (fits : (streamBytes frames).length ≤ maxRtcpPacketBytes) :
    parse grants (streamBytes frames) policy = .ok ⟨policy, packets⟩ := by
  have content : streamBytes frames ≠ [] := by
    intro empty
    have number := stream.length_eq
    rw [streamBytes_eq_nil empty, length_nil] at number
    exact nonempty (length_eq_zero_iff.mp number.symm)
  have shaped : validateDatagramShape (streamBytes frames) = .ok () := by
    refine bind_of_ok (require_of content _) ?_
    refine bind_of_ok (require_of fits _) ?_
    exact require_of (four_dvd_length_streamBytes frames) _
  refine bind_of_ok shaped ?_
  refine bind_of_ok (parsePackets_of_stream granted stream maxCompoundPackets 0 [] few
    (drop_zero ..) (Nat.zero_le _)) ?_
  rw [nil_append]
  exact bind_of_ok accepted rfl

theorem positions_of_stream
    (stream : Stream frames packets) (index : Nat) :
    validatePaddingPositions index packets = .ok () := by
  induction stream generalizing index with
  | nil => rfl
  | @cons frame packet frames packets carries last stream ih =>
    refine bind_of_ok (RtcpPacket.hasPadding_of_carries carries) ?_
    refine bind_of_ok (require_of ?_ _) (ih (index + 1))
    rintro ⟨padded, more⟩
    rcases last with none | rfl
    · simp [none] at padded
    · exact more (length_eq_zero_iff.mp stream.length_eq.symm)

/-- Packets with a frame each, in allowed positions, form a stream. -/
theorem stream_of_positions {index : Nat}
    (each : ∀ packet ∈ packets, ∃ frame, RtcpPacket.Written grants frame packet)
    (positioned : validatePaddingPositions index packets = .ok ()) :
    ∃ frames, Stream frames packets ∧ Forall₂ (RtcpPacket.Written grants) frames packets := by
  induction packets generalizing index with
  | nil => exact ⟨[], .nil, .nil⟩
  | cons packet packets ih =>
    obtain ⟨frame, written⟩ := each packet mem_cons_self
    obtain ⟨padded, told, positioned⟩ := bind_eq_ok.mp positioned
    obtain ⟨_, position, positioned⟩ := bind_eq_ok.mp positioned
    obtain ⟨frames, stream, all⟩ := ih
      (fun other among => each other (mem_cons_of_mem _ among)) positioned
    refine ⟨frame :: frames, .cons written.carries ?_ stream, .cons written all⟩
    rw [RtcpPacket.hasPadding_of_carries written.carries] at told
    cases told
    by_cases none : frame.paddingBytes = 0
    · exact .inl none
    · right
      have last : packets = [] := by
        by_contra more
        exact ensure_eq_ok.mp position ⟨by simp [none], more⟩
      have number := stream.length_eq
      rw [last, length_nil] at number
      exact length_eq_zero_iff.mp number

theorem checkedEncodedLen_of_written
    (written : Forall₂ (RtcpPacket.Written grants) frames packets) (length : Nat)
    (fits : length + (streamBytes frames).length ≤ maxRtcpPacketBytes) :
    checkedEncodedLen grants length packets = .ok (length + (streamBytes frames).length) := by
  induction written generalizing length with
  | nil => rfl
  | @cons frame packet frames packets written _ ih =>
    rw [length_streamBytes_cons] at fits ⊢
    refine bind_of_ok (mapError_eq_ok.mpr written.encoded) ?_
    rw [frame.length_bytes]
    refine bind_of_ok (require_of (by omega) _) ?_
    rw [ih _ (by omega), Nat.add_assoc]

theorem fits_of_checkedEncodedLen (written : Forall₂ (RtcpPacket.Written grants) frames packets)
    {length total : Nat} (small : length ≤ maxRtcpPacketBytes)
    (measured : checkedEncodedLen grants length packets = .ok total) :
    length + (streamBytes frames).length ≤ maxRtcpPacketBytes := by
  induction written generalizing length with
  | nil => exact small
  | @cons frame packet frames packets written _ ih =>
    obtain ⟨encoded, returned, measured⟩ := bind_eq_ok.mp measured
    obtain ⟨_, fits, measured⟩ := bind_eq_ok.mp measured
    rw [written.encoded] at returned
    cases returned
    have rest := ih (ensure_eq_ok.mp fits) measured
    rw [length_streamBytes_cons, ← frame.length_bytes]
    omega

theorem appendPackets_of_written (written : Forall₂ (RtcpPacket.Written grants) frames packets)
    (output : List UInt8) :
    appendPackets grants output packets = .ok (output ++ streamBytes frames) := by
  induction written generalizing output with
  | nil => exact congrArg Except.ok (append_nil output).symm
  | @cons frame packet frames packets written _ ih =>
    refine bind_of_ok (mapError_eq_ok.mpr written.encoded) ?_
    rw [ih, streamBytes_cons, append_assoc]

/-- A datagram of written packets is encoded as their stream and parsed back. -/
theorem round_trip_of_written (granted : ∀ size, grants size = true) {policy : CompoundPolicy}
    (stream : Stream frames packets)
    (written : Forall₂ (RtcpPacket.Written grants) frames packets)
    (accepted : validatePolicy packets policy = .ok ())
    (nonempty : packets ≠ []) (few : packets.length ≤ maxCompoundPackets)
    (fits : (streamBytes frames).length ≤ maxRtcpPacketBytes) :
    encode grants ⟨policy, packets⟩ = .ok (streamBytes frames) ∧
      parse grants (streamBytes frames) policy = .ok ⟨policy, packets⟩ := by
  have counted : validatePacketCount packets.length = .ok () := by
    refine bind_of_ok (require_of ?_ _) (require_of few _)
    exact fun zero => nonempty (length_eq_zero_iff.mp zero)
  refine ⟨?_, parse_of_stream granted stream accepted nonempty few fits⟩
  refine bind_of_ok counted ?_
  refine bind_of_ok (positions_of_stream stream 0) ?_
  refine bind_of_ok accepted ?_
  refine bind_of_ok (checkedEncodedLen_of_written written 0 (by omega)) ?_
  refine bind_of_ok (require_of (granted _) _) ?_
  rw [appendPackets_of_written written, nil_append]

/-- A packet made by one of the constructors, with item types as classified. -/
inductive Built : RtcpPacket → Prop
  | senderReport {grants : Nat → Bool} {information : SenderInformation}
      {reports : List ReceptionReport} {paddingBytes : UInt8} {packet : SenderReport}
      (built : SenderReport.new grants information reports paddingBytes = .ok packet) :
      Built (.senderReport packet)
  | receiverReport {grants : Nat → Bool} {receiverSsrc : UInt32}
      {reports : List ReceptionReport} {paddingBytes : UInt8} {packet : ReceiverReport}
      (built : ReceiverReport.new grants receiverSsrc reports paddingBytes = .ok packet) :
      Built (.receiverReport packet)
  | sourceDescription {grants : Nat → Bool} {chunks : List SdesChunk}
      {paddingBytes : UInt8} {packet : SourceDescription}
      (built : SourceDescription.new grants chunks paddingBytes = .ok packet)
      (classified : ∀ chunk ∈ packet.chunks, ∀ item ∈ chunk.items,
        ∃ raw, SdesItemType.fromRaw raw = .ok item.itemType) :
      Built (.sourceDescription packet)
  | goodbye {grants : Nat → Bool} {sources : List UInt32} {reason : Option (List UInt8)}
      {paddingBytes : UInt8} {packet : Goodbye}
      (built : Goodbye.new grants sources reason paddingBytes = .ok packet) :
      Built (.goodbye packet)

/-- A constructed packet is encoded in a frame that carries it. -/
theorem written_of_built (granted : ∀ size, grants size = true)
    {packet : RtcpPacket} (built : Built packet) :
    ∃ frame, RtcpPacket.Written grants frame packet := by
  have carried : ∃ frame : Frame, frame.Carries packet ∧ packet.Aligned := by
    cases built with
    | senderReport built | receiverReport built =>
      obtain ⟨frame, carries⟩ := ReportKind.carries_of_new built
      exact ⟨frame, carries, trivial⟩
    | sourceDescription built classified =>
      obtain ⟨frame, carries⟩ := SourceDescription.carries_of_new built
        fun chunk among item listed =>
          (classified chunk among item listed).elim fun _ => SdesItemType.known_of_fromRaw
      exact ⟨frame, carries, trivial⟩
    | @goodbye _ _ _ _ packet built =>
      obtain ⟨frame, carries⟩ := Goodbye.carries_of_new built
      have whole := packet.four_dvd_length_body
      have aligned := frame.aligned
      rw [carries.body, carries.paddingBytes] at aligned
      exact ⟨frame, ⟨_, carries⟩, (Nat.dvd_add_right whole).mp aligned⟩
  obtain ⟨frame, carries, aligned⟩ := carried
  obtain ⟨written, isWritten, _⟩ := RtcpPacket.exists_written granted carries aligned
  exact ⟨written, isWritten⟩

/-- A datagram constructed from constructed packets is encoded and parsed back. -/
theorem decode_undoes_encode {grants : Nat → Bool} (granted : ∀ size, grants size = true)
    {packets : List RtcpPacket} {policy : CompoundPolicy} {compound : CompoundRtcp}
    (built : ∀ packet ∈ packets, Built packet) (made : new grants packets policy = .ok compound) :
    ∃ bytes, compound.encode grants = .ok bytes ∧ parse grants bytes policy = .ok compound := by
  obtain ⟨_, counted, made⟩ := bind_eq_ok.mp made
  obtain ⟨_, positioned, made⟩ := bind_eq_ok.mp made
  obtain ⟨_, accepted, made⟩ := bind_eq_ok.mp made
  obtain ⟨total, measured, made⟩ := bind_eq_ok.mp made
  obtain ⟨_, _, made⟩ := bind_eq_ok.mp made
  cases made
  obtain ⟨_, positive, few⟩ := bind_eq_ok.mp counted
  have nonempty : packets ≠ [] := by
    rintro rfl
    exact ensure_eq_ok.mp positive rfl
  obtain ⟨frames, stream, written⟩ := stream_of_positions
    (fun packet among => written_of_built granted (built packet among)) positioned
  have fits := fits_of_checkedEncodedLen written (Nat.zero_le _) measured
  rw [Nat.zero_add] at fits
  exact ⟨streamBytes frames, round_trip_of_written granted stream written accepted
    nonempty (ensure_eq_ok.mp few) fits⟩

/-- A receiver report, a canonical name and a padded BYE with a reason. -/
theorem report_name_goodbye_round_trips :
    ∃ receiver description goodbye compound,
      ReceiverReport.new (fun _ => true) 7 [⟨9, 1, -2, 3, 4, 5, 6, by decide, by decide⟩] 0 =
        .ok receiver ∧
      SourceDescription.new (fun _ => true) [⟨7, [⟨.canonicalName, [97, 98], rfl⟩]⟩] 0 =
        .ok description ∧
      Goodbye.new (fun _ => true) [7] (some [98, 121, 101]) 4 = .ok goodbye ∧
      new (fun _ => true)
        [.receiverReport receiver, .sourceDescription description, .goodbye goodbye]
        .strict = .ok compound ∧
      ∃ bytes, compound.encode (fun _ => true) = .ok bytes ∧
        parse (fun _ => true) bytes .strict = .ok compound := by
  have made : ∃ receiver description goodbye compound,
      ReceiverReport.new (fun _ => true) 7 [⟨9, 1, -2, 3, 4, 5, 6, by decide, by decide⟩] 0 =
        .ok receiver ∧
      SourceDescription.new (fun _ => true) [⟨7, [⟨.canonicalName, [97, 98], rfl⟩]⟩] 0 =
        .ok description ∧
      Goodbye.new (fun _ => true) [7] (some [98, 121, 101]) 4 = .ok goodbye ∧
      new (fun _ => true)
        [.receiverReport receiver, .sourceDescription description, .goodbye goodbye]
        .strict = .ok compound ∧
      ∀ chunk ∈ description.chunks, ∀ item ∈ chunk.items,
        ∃ raw, SdesItemType.fromRaw raw = .ok item.itemType :=
    ⟨_, _, _, _, rfl, rfl, rfl, rfl, by simp; exact ⟨1, rfl⟩⟩
  obtain ⟨receiver, description, goodbye, compound, first, second, third, whole, known⟩ := made
  refine ⟨receiver, description, goodbye, compound, first, second, third, whole,
    decode_undoes_encode (fun _ => rfl) ?_ whole⟩
  intro packet among
  simp only [mem_cons, not_mem_nil, or_false] at among
  rcases among with rfl | rfl | rfl
  · exact .receiverReport first
  · exact .sourceDescription second known
  · exact .goodbye third

/-- The length that the header of a packet declares. -/
def declaredLen (packet : List UInt8) : Nat := ((halfOf ((packet.drop 2).take 2)).toNat + 1) * 4

/-- The last packet of a datagram, found by the declared lengths. -/
def finalPacket (input : List UInt8) : List UInt8 :=
  if declaredLen input < input.length then finalPacket (input.drop (declaredLen input))
  else input
  termination_by input.length
  decreasing_by
    rw [length_drop, declaredLen]
    omega

/-- A BYE packet with a padding count that is no multiple of four. -/
def UnalignedGoodbye (packet : List UInt8) : Prop :=
  packet[1]? = some 203 ∧ packet.head?.any (fun first => first &&& 0x20 != 0) ∧
    packet.getLast?.any (fun count => !decide (4 ∣ count.toNat))

theorem declaredLen_frame (frame : Frame) (rest : List UInt8) :
    declaredLen (frame.bytes ++ rest) = frame.length := by
  have fits : frame.length ≤ maxRtcpPacketBytes := frame.fits
  have positive := frame.length_pos
  have whole := Nat.div_mul_cancel frame.four_dvd_length
  have field : ((frame.bytes ++ rest).drop 2).take 2 =
      halfBytes (frame.length / 4 - 1).toUInt16 := by
    have front : (frame.bytes ++ rest).drop 2 = halfBytes (frame.length / 4 - 1).toUInt16 ++
          (frame.body ++ (paddingWith frame.paddingBytes frame.filler ++ rest)) := by
      simp [Frame.bytes, Frame.headerBytes]
    rw [front, take_left' (length_halfBytes _)]
  rw [declaredLen, field, halfOf_halfBytes, lengthField (by omega) (by omega), whole]

/-- The last packet of a stream is its last frame. -/
theorem finalPacket_streamBytes (frame : Frame) (frames : List Frame) :
    finalPacket (streamBytes (frame :: frames)) =
      ((frame :: frames).getLast (cons_ne_nil _ _)).bytes := by
  induction frames generalizing frame with
  | nil =>
    have length := declaredLen_frame frame []
    rw [append_nil] at length
    rw [streamBytes_cons, streamBytes, flatMap_nil, append_nil, finalPacket,
      if_neg (by rw [length, frame.length_bytes]; omega)]
    rfl
  | cons next frames ih =>
    have positive := next.length_pos
    have size := length_streamBytes_cons next frames
    have rest : (frame.bytes ++ streamBytes (next :: frames)).drop frame.length =
        streamBytes (next :: frames) := by
      rw [← frame.length_bytes, drop_left]
    rw [streamBytes_cons, finalPacket, declaredLen_frame, rest,
      if_pos (by rw [length_append, frame.length_bytes]; omega), ih next]
    rfl

/-- A frame of an unaligned BYE. -/
theorem unalignedGoodbye_frame (frame : Frame) : UnalignedGoodbye frame.bytes ↔
      frame.packetType = .goodbye ∧ ¬4 ∣ frame.paddingBytes.toNat := by
  obtain ⟨_, _, padding⟩ := rtcpFirstByte_fields (frame.paddingBytes != 0) frame.count_le
  have second : frame.bytes[1]? = some frame.packetType.asRaw := by
    simp [Frame.bytes, Frame.headerBytes]
  have first : frame.bytes.head? = some (rtcpFirstByte (frame.paddingBytes != 0) frame.count) := by
    simp [Frame.bytes, Frame.headerBytes]
  have type : frame.packetType.asRaw = 203 ↔ frame.packetType = .goodbye := by
    refine ⟨fun raw => ?_, fun isGoodbye => by rw [isGoodbye]; rfl⟩
    have known := frame.known
    rw [raw] at known
    exact (Except.ok.inj known).symm
  rw [UnalignedGoodbye, second, first, Option.some.injEq, type, Option.any_some, padding]
  by_cases none : frame.paddingBytes = 0
  · simp [none]
  · have ends : frame.bytes.getLast? = some frame.paddingBytes := by
      rw [Frame.bytes, ← append_assoc, getLast?_paddingWith none]
    rw [ends]
    simp [none]

/-- A packet is aligned when its frame is not that of an unaligned BYE. -/
theorem aligned_iff {frame : Frame} {packet : RtcpPacket}
    (carries : frame.Carries packet) :
    packet.Aligned ↔ ¬UnalignedGoodbye frame.bytes := by
  rw [unalignedGoodbye_frame]
  cases packet with
  | goodbye packet =>
    obtain ⟨slack, carries⟩ := carries
    rw [RtcpPacket.Aligned, carries.packetType, carries.paddingBytes]
    simp
  | senderReport packet =>
    simp [RtcpPacket.Aligned, carries.packetType, SenderReport.kind]
  | receiverReport packet =>
    simp [RtcpPacket.Aligned, carries.packetType, ReceiverReport.kind]
  | sourceDescription packet =>
    simp [RtcpPacket.Aligned, carries.packetType]
  | opaquePacket packet =>
    have other : frame.packetType ≠ .goodbye := fun type => carries.1 (.inr (.inr (.inr type)))
    simp [RtcpPacket.Aligned, other]

/-- Only the last packet of a stream can be unaligned. -/
theorem forall_aligned_iff {frame : Frame} (stream : Stream (frame :: frames) packets) :
    (∀ packet ∈ packets, packet.Aligned) ↔
      ¬UnalignedGoodbye ((frame :: frames).getLast (cons_ne_nil _ _)).bytes := by
  induction frames generalizing frame packets with
  | nil =>
    obtain _ | ⟨carries, _, rest⟩ := stream
    obtain _ | _ := rest
    rw [forall_mem_singleton, aligned_iff carries]
    rfl
  | cons next frames ih =>
    obtain _ | ⟨carries, last, rest⟩ := stream
    have unpadded : frame.paddingBytes = 0 := last.resolve_right (cons_ne_nil _ _)
    have first : ¬UnalignedGoodbye frame.bytes := by
      rw [unalignedGoodbye_frame, unpadded]
      simp
    rw [forall_mem_cons, aligned_iff carries, ih rest]
    exact and_iff_right first

/-- Aligned packets of a stream are written in a stream that is no longer. -/
theorem exists_written_stream
    (granted : ∀ size, grants size = true)
    (stream : Stream frames packets)
    (aligned : ∀ packet ∈ packets, packet.Aligned) :
    ∃ writtens, Stream writtens packets ∧
      Forall₂ (RtcpPacket.Written grants) writtens packets ∧
      (streamBytes writtens).length ≤ (streamBytes frames).length := by
  induction stream with
  | nil => exact ⟨[], .nil, .nil, Nat.le_refl _⟩
  | @cons frame packet frames packets carries last stream ih =>
    rw [forall_mem_cons] at aligned
    obtain ⟨written, isWritten, shorter, padding⟩ :=
      RtcpPacket.exists_written granted carries aligned.1
    obtain ⟨writtens, again, all, rest⟩ := ih aligned.2
    refine ⟨written :: writtens, .cons isWritten.carries ?_ again, .cons isWritten all, ?_⟩
    · rcases last with none | rfl
      · exact .inl (padding.trans none)
      · have number := again.length_eq
        rw [← stream.length_eq, length_nil] at number
        exact .inr (length_eq_zero_iff.mp number)
    · rw [length_streamBytes_cons, length_streamBytes_cons]
      omega

/-- The packets of an encoded datagram are aligned. -/
theorem aligned_of_checkedEncodedLen {length total : Nat} (stream : Stream frames packets)
    (measured : checkedEncodedLen grants length packets = .ok total) :
    ∀ packet ∈ packets, packet.Aligned := by
  induction stream generalizing length with
  | nil => simp
  | cons carries _ _ ih =>
    obtain ⟨encoded, returned, measured⟩ := bind_eq_ok.mp measured
    obtain ⟨_, _, measured⟩ := bind_eq_ok.mp measured
    rw [forall_mem_cons]
    exact ⟨RtcpPacket.aligned_of_encode carries (mapError_eq_ok.mp returned), ih measured⟩

/--
An accepted datagram is encoded again, in no more bytes and parsed to the same
packets, exactly when its last packet is not a BYE whose padding count is no
multiple of four.
-/
theorem accepted_datagram_reencodes_iff {grants : Nat → Bool}
    (granted : ∀ size, grants size = true) {input : List UInt8}
    {policy : CompoundPolicy} {compound : CompoundRtcp}
    (parsed : parse grants input policy = .ok compound) :
    (∃ bytes, compound.encode grants = .ok bytes ∧ bytes.length ≤ input.length ∧
      parse grants bytes policy = .ok compound) ↔
      ¬UnalignedGoodbye (finalPacket input) := by
  have safe := safe_parse grants input policy
  rw [parsed] at safe
  obtain ⟨policy, packets⟩ := compound
  obtain ⟨rfl, accepted, nonempty, fits, few, frames, stream, rfl⟩ := safe
  obtain ⟨frame, frames, rfl⟩ : ∃ frame rest, frames = frame :: rest := by
    cases stream with
    | nil => exact absurd rfl nonempty
    | cons => exact ⟨_, _, rfl⟩
  rw [finalPacket_streamBytes, ← forall_aligned_iff stream]
  refine ⟨?_, fun aligned => ?_⟩
  · rintro ⟨bytes, encoded, _⟩
    obtain ⟨_, _, encoded⟩ := bind_eq_ok.mp encoded
    obtain ⟨_, _, encoded⟩ := bind_eq_ok.mp encoded
    obtain ⟨_, _, encoded⟩ := bind_eq_ok.mp encoded
    obtain ⟨length, measured, _⟩ := bind_eq_ok.mp encoded
    exact aligned_of_checkedEncodedLen stream measured
  · obtain ⟨writtens, again, written, shorter⟩ := exists_written_stream granted stream aligned
    obtain ⟨encoded, back⟩ := round_trip_of_written granted again written accepted
      nonempty few (shorter.trans fits)
    exact ⟨streamBytes writtens, encoded, shorter, back⟩

/-- A BYE with zeros after its reason is encoded again without them. -/
theorem goodbye_with_slack_reencodes :
    ∃ compound, parse (fun _ => true) [0x81, 203, 0, 3, 0, 0, 0, 7, 1, 97, 0, 0, 0, 0, 0, 0]
        .reducedSize = .ok compound ∧
      ∃ bytes, compound.encode (fun _ => true) = .ok bytes ∧ bytes.length ≤ 16 ∧
        parse (fun _ => true) bytes .reducedSize = .ok compound := by
  have parsed : parse (fun _ => true)
      [0x81, 203, 0, 3, 0, 0, 0, 7, 1, 97, 0, 0, 0, 0, 0, 0] .reducedSize =
      .ok ⟨.reducedSize, [.goodbye ⟨[7], some [97], 0⟩]⟩ := by
    decide +kernel
  refine ⟨_, parsed, (accepted_datagram_reencodes_iff (fun _ => rfl) parsed).mpr ?_⟩
  rw [finalPacket, if_neg (by decide)]
  unfold UnalignedGoodbye
  decide

/-- A BYE with an empty reason and three bytes of padding is accepted and not encoded. -/
theorem unaligned_goodbye_not_reencoded :
    ∃ compound, parse (fun _ => true) [0xa1, 203, 0, 2, 0, 0, 0, 7, 0, 0, 0, 3] .reducedSize =
        .ok compound ∧
      ∀ bytes, compound.encode (fun _ => true) ≠ .ok bytes := by
  have parsed : parse (fun _ => true)
      [0xa1, 203, 0, 2, 0, 0, 0, 7, 0, 0, 0, 3] .reducedSize =
      .ok ⟨.reducedSize, [.goodbye ⟨[7], some [], 3⟩]⟩ := by
    decide +kernel
  refine ⟨_, parsed, fun bytes encoded => ?_⟩
  have failed : (encode (fun _ => true)
      ⟨.reducedSize, [.goodbye ⟨[7], some [], 3⟩]⟩).toBool = false := by
    decide +kernel
  rw [encoded] at failed
  cases failed

end CompoundRtcp

end Rtp
end LiveAISIP
