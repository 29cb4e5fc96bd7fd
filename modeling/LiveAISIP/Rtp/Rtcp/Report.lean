import LiveAISIP.Rtp.Rtcp.Header
import Mathlib.Data.Nat.Bitwise

/-!
# RTCP reports

Reception-report blocks of `rtp/packet/rtcp/report_block.rs` and the report
packets made of them, of `sender_report.rs` and `receiver_report.rs`.  The two
report packets differ in what stands before the blocks, so one parser and one
encoder serve both.
-/

namespace LiveAISIP
namespace Rtp

open BigEndian Fault Outcome
open RtcpHeader

variable {input : List UInt8} {offset : Nat}

/-- Lowest loss count of 24 signed bits. -/
def minCumulativeLost : Int := -8388608

/-- Highest loss count of 24 signed bits. -/
def maxCumulativeLost : Int := 8388607

/-- The signed number of 24 unsigned bits. -/
def lossOf (raw : Nat) : Int :=
  if raw &&& 0x800000 ≠ 0 then (raw : Int) - 2 ^ 24 else raw

/-- The low three bytes of a signed 32-bit number. -/
def lossBytes (cumulativeLost : Int) : List UInt8 :=
  (encode 4 (cumulativeLost % 2 ^ 32).toNat).drop 1

/-- The sign bit of 24 bits. -/
theorem signBit {raw : Nat} (small : raw < 2 ^ 24) :
    raw &&& 0x800000 ≠ 0 ↔ 2 ^ 23 ≤ raw := by
  have masked : raw &&& 0x800000 = (raw.testBit 23).toNat * 2 ^ 23 := Nat.and_two_pow raw 23
  rw [masked, Nat.testBit_eq_decide_div_mod_eq]
  by_cases high : 2 ^ 23 ≤ raw
  · have bit : raw / 2 ^ 23 % 2 = 1 := by omega
    rw [bit]
    exact iff_of_true (by decide) high
  · have bit : raw / 2 ^ 23 % 2 = 0 := by omega
    rw [bit]
    exact iff_of_false (by decide) high

theorem lossOf_mem {raw : Nat} (small : raw < 2 ^ 24) :
    minCumulativeLost ≤ lossOf raw ∧ lossOf raw ≤ maxCumulativeLost := by
  unfold lossOf minCumulativeLost maxCumulativeLost
  have sign := signBit small
  split_ifs with high
  · have bound := sign.mp high
    omega
  · have bound := mt sign.mpr high
    omega

theorem length_lossBytes (cumulativeLost : Int) :
    (lossBytes cumulativeLost).length = 3 := by
  simp [lossBytes]

/-- A loss count of 24 signed bits is read back. -/
theorem lossOf_lossBytes {cumulativeLost : Int}
    (lower : minCumulativeLost ≤ cumulativeLost) (upper : cumulativeLost ≤ maxCumulativeLost) :
    lossOf (decode (lossBytes cumulativeLost)) = cumulativeLost := by
  rw [minCumulativeLost] at lower
  rw [maxCumulativeLost] at upper
  rw [lossBytes, drop_encode_succ, decode_encode]
  have small : (cumulativeLost % 2 ^ 32).toNat % 256 ^ 3 < 2 ^ 24 := by omega
  have sign := signBit small
  unfold lossOf
  split_ifs with high
  · have bound := sign.mp high
    omega
  · have bound := mt sign.mpr high
    omega

theorem lossBytes_lossOf {bytes : List UInt8} (three : bytes.length = 3) :
    lossBytes (lossOf (decode bytes)) = bytes := by
  have small := decode_lt bytes
  rw [three] at small
  have same : ((lossOf (decode bytes)) % 2 ^ 32).toNat % 256 ^ bytes.length = decode bytes := by
    rw [three]
    unfold lossOf
    split_ifs <;> omega
  have whole := encode_eq_of_decode same
  rw [three] at whole
  rw [lossBytes, drop_encode_succ, whole]

/-- Size of a reception-report block. -/
def receptionReportBytes : Nat := 24

/-- Failure to parse or construct a reception-report block. -/
inductive ReceptionReportError
  | truncated (required available : Nat)
  | cumulativeLossOutOfRange (value minimum maximum : Int)
  deriving DecidableEq

/-- A reception-report block. -/
structure ReceptionReport where
  sourceSsrc : UInt32
  fractionLost : UInt8
  cumulativeLost : Int
  extendedHighestSequence : UInt32
  interarrivalJitter : UInt32
  lastSenderReport : UInt32
  delaySinceLastSenderReport : UInt32
  lower : minCumulativeLost ≤ cumulativeLost
  upper : cumulativeLost ≤ maxCumulativeLost
  deriving DecidableEq

/-- The 32-bit number at a position. -/
def readU32 (input : List UInt8) (offset : Nat) : Except (Fault ε) UInt32 := do
  let bytes ← range input offset (offset + 4)
  return wordOf bytes.val

/-- The 64-bit number at a position. -/
def readU64 (input : List UInt8) (offset : Nat) : Except (Fault ε) UInt64 := do
  let bytes ← range input offset (offset + 8)
  return (decode bytes.val).toUInt64

theorem safe_readU32
    (inside : offset + 4 ≤ input.length) :
    Safe (fun word => input.drop offset = wordBytes word ++ input.drop (offset + 4))
      (readU32 input offset : Except (Fault ε) UInt32) := by
  unfold readU32
  refine .bind (safe_range (by omega) inside) fun bytes stands => ?_
  have four : bytes.val.length = 4 := by
    rw [bytes.property]
    omega
  rw [meets_pure, wordBytes_wordOf four]
  exact stands

theorem readU32_of_drop {rest : List UInt8} {word : UInt32}
    (found : input.drop offset = wordBytes word ++ rest) (inside : offset + 4 ≤ input.length) :
    (readU32 input offset : Except (Fault ε) UInt32) = .ok word := by
  unfold readU32
  refine bind_of_ok (range_of_drop found ?_ ⟨by omega, inside⟩) ?_
  · rw [length_wordBytes]
    omega
  · rw [wordOf_wordBytes]
    rfl

theorem safe_readU64
    (inside : offset + 8 ≤ input.length) :
    Safe (fun word => input.drop offset = encode 8 word.toNat ++ input.drop (offset + 8))
      (readU64 input offset : Except (Fault ε) UInt64) := by
  unfold readU64
  refine .bind (safe_range (by omega) inside) fun bytes stands => ?_
  have eight : bytes.val.length = 8 := by
    rw [bytes.property]
    omega
  have bound := decode_lt bytes.val
  have again := encode_decode bytes.val
  rw [eight] at bound again
  rw [meets_pure, Nat.toUInt64_eq, UInt64.toNat_ofNat', Nat.mod_eq_of_lt (by omega), again]
  exact stands

theorem readU64_of_drop {rest : List UInt8} {word : UInt64}
    (found : input.drop offset = encode 8 word.toNat ++ rest) (inside : offset + 8 ≤ input.length) :
    (readU64 input offset : Except (Fault ε) UInt64) = .ok word := by
  have bound := word.toNat_lt
  unfold readU64
  refine bind_of_ok (range_of_drop found ?_ ⟨by omega, inside⟩) ?_
  · rw [length_encode]
    omega
  · rw [decode_encode, Nat.mod_eq_of_lt (by omega)]
    exact congrArg Except.ok (by simp)

namespace ReceptionReport

/-- Parse the block at the front of the input. -/
def parse (input : List UInt8) :
    Except (Fault ReceptionReportError) ReceptionReport := do
  require (receptionReportBytes ≤ input.length) (.truncated receptionReportBytes input.length)
  let lost ← range input 5 8
  let sourceSsrc ← readU32 input 0
  let fractionLost ← byteAt input 4
  let extendedHighestSequence ← readU32 input 8
  let interarrivalJitter ← readU32 input 12
  let lastSenderReport ← readU32 input 16
  let delaySinceLastSenderReport ← readU32 input 20
  have small : decode lost.val < 2 ^ 24 := by
    have bound := decode_lt lost.val
    rwa [lost.property] at bound
  return {
    sourceSsrc := sourceSsrc
    fractionLost := fractionLost
    cumulativeLost := lossOf (decode lost.val)
    extendedHighestSequence := extendedHighestSequence
    interarrivalJitter := interarrivalJitter
    lastSenderReport := lastSenderReport
    delaySinceLastSenderReport := delaySinceLastSenderReport
    lower := (lossOf_mem small).1
    upper := (lossOf_mem small).2 }

/-- Construct a block from metric values. -/
def new (sourceSsrc : UInt32) (fractionLost : UInt8) (cumulativeLost : Int)
    (extendedHighestSequence interarrivalJitter lastSenderReport
      delaySinceLastSenderReport : UInt32) :
    Except ReceptionReportError ReceptionReport :=
  if range : minCumulativeLost ≤ cumulativeLost ∧ cumulativeLost ≤ maxCumulativeLost then
    .ok
      { sourceSsrc := sourceSsrc
        fractionLost := fractionLost
        cumulativeLost := cumulativeLost
        extendedHighestSequence := extendedHighestSequence
        interarrivalJitter := interarrivalJitter
        lastSenderReport := lastSenderReport
        delaySinceLastSenderReport := delaySinceLastSenderReport
        lower := range.1
        upper := range.2 }
  else
    .error (.cumulativeLossOutOfRange cumulativeLost minCumulativeLost maxCumulativeLost)

/-- Serialize a block. -/
def encode (report : ReceptionReport) : List UInt8 :=
  wordBytes report.sourceSsrc ++ (report.fractionLost ::
    (lossBytes report.cumulativeLost ++
      (wordBytes report.extendedHighestSequence ++
        (wordBytes report.interarrivalJitter ++
          (wordBytes report.lastSenderReport ++ wordBytes report.delaySinceLastSenderReport)))))

theorem length_encode (report : ReceptionReport) :
    report.encode.length = receptionReportBytes := by
  simp [encode, length_lossBytes, receptionReportBytes]

/-- A parsed block stands at the front of the input. -/
theorem safe_parse (input : List UInt8) :
    Safe (fun report => input = report.encode ++ input.drop receptionReportBytes)
      (parse input) := by
  have size : receptionReportBytes = 24 := rfl
  unfold parse
  refine .bind (safe_require _ _) fun _ whole => ?_
  refine .bind (safe_range (by omega) (by omega)) fun lost lostStands => ?_
  refine .bind (safe_readU32 (by omega)) fun source sourceStands => ?_
  refine .bind (safe_byteAt (by omega)) fun fraction fractionStands => ?_
  refine .bind (safe_readU32 (by omega)) fun highest highestStands => ?_
  refine .bind (safe_readU32 (by omega)) fun jitter jitterStands => ?_
  refine .bind (safe_readU32 (by omega)) fun last lastStands => ?_
  refine .bind (safe_readU32 (by omega)) fun delay delayStands => ?_
  rw [List.drop_zero] at sourceStands
  simp only [meets_pure, encode, lossBytes_lossOf lost.property, List.append_assoc,
    List.cons_append]
  rw [size, ← delayStands, ← lastStands, ← jitterStands, ← highestStands, ← lostStands,
    ← fractionStands, ← sourceStands]

/-- An encoded block is parsed back, whatever follows it. -/
theorem parse_encode (report : ReceptionReport) (rest : List UInt8) :
    parse (report.encode ++ rest) = .ok report := by
  have size : receptionReportBytes = 24 := rfl
  have length : (report.encode ++ rest).length = 24 + rest.length := by
    rw [List.length_append, length_encode, size]
  have at0 : (report.encode ++ rest).drop 0 = wordBytes report.sourceSsrc ++ (report.fractionLost ::
        (lossBytes report.cumulativeLost ++ (wordBytes report.extendedHighestSequence ++
            (wordBytes report.interarrivalJitter ++ (wordBytes report.lastSenderReport ++
                (wordBytes report.delaySinceLastSenderReport ++ rest)))))) := by
    simp [encode]
  generalize report.encode ++ rest = input at at0 length ⊢
  have at4 : input.drop 4 = _ := drop_next at0 (length_wordBytes _)
  have at5 : input.drop 5 = _ := drop_succ_of_drop at4
  have at8 : input.drop 8 = _ := drop_next at5 (length_lossBytes _)
  have at12 : input.drop 12 = _ := drop_next at8 (length_wordBytes _)
  have at16 : input.drop 16 = _ := drop_next at12 (length_wordBytes _)
  have at20 : input.drop 20 = _ := drop_next at16 (length_wordBytes _)
  unfold parse
  refine bind_of_ok (require_of (by omega) _) ?_
  refine bind_of_ok (range_of_drop at5 (length_lossBytes _) (by omega)) ?_
  refine bind_of_ok (readU32_of_drop at0 (by omega)) ?_
  refine bind_of_ok (byteAt_of_drop at4) ?_
  refine bind_of_ok (readU32_of_drop at8 (by omega)) ?_
  refine bind_of_ok (readU32_of_drop at12 (by omega)) ?_
  refine bind_of_ok (readU32_of_drop at16 (by omega)) ?_
  refine bind_of_ok (readU32_of_drop at20 (by omega)) ?_
  simp only [lossOf_lossBytes report.lower report.upper]
  rfl

end ReceptionReport

/-- Maximum number of report blocks. -/
def maxReports : Nat := 31

/-- Failure to parse, construct or serialize a report packet. -/
inductive ReportError
  | header (error : RtcpHeaderError)
  | wrongPacketType (actual : RtcpPacketType)
  | bodyLengthMismatch (expected actual : Nat) (reportCount : UInt8)
  | report (index : Nat) (error : ReceptionReportError)
  | tooManyReports (actual maximum : Nat)
  | packetNotWordAligned (actual : Nat)
  | lengthOverflow
  | allocationFailed
  deriving DecidableEq

/-- What stands before the blocks of a report packet, with its reader and writer. -/
structure ReportKind (α : Type) where
  packetType : RtcpPacketType
  informationBytes : Nat
  write : α → List UInt8
  read : List UInt8 → Except (Fault ReportError) α
  known : RtcpPacketType.fromRaw packetType.asRaw = .ok packetType
  aligned : 4 ∣ informationBytes
  length_write : ∀ information, (write information).length = informationBytes
  safe_read : ∀ packet : List UInt8, rtcpHeaderBytes + informationBytes ≤ packet.length →
    Safe (fun information => packet.drop rtcpHeaderBytes =
        write information ++ packet.drop (rtcpHeaderBytes + informationBytes))
      (read packet)
  read_of_drop : ∀ (packet rest : List UInt8) (information : α),
    packet.drop rtcpHeaderBytes = write information ++ rest →
    rtcpHeaderBytes + informationBytes ≤ packet.length →
    read packet = .ok information

/-- A report packet. -/
structure ReportPacket (α : Type) where
  information : α
  reports : List ReceptionReport
  paddingBytes : UInt8
  deriving DecidableEq

/-- Parse so many blocks, the first of which has an index. -/
def parseReports (packet : List UInt8) (start : Nat) :
    Nat → Nat → Except (Fault ReportError) (List ReceptionReport)
  | _, 0 => .ok []
  | index, remaining + 1 => do
    let block ← rangeFrom packet (start + index * receptionReportBytes)
    let report ← (ReceptionReport.parse block.val).mapError (Fault.map (.report index))
    let reports ← parseReports packet start (index + 1) remaining
    return report :: reports

namespace ReportKind

variable {α : Type}

variable {packet : ReportPacket α} {grants : Nat → Bool}

variable {kind : ReportKind α}

/-- Parse one report packet at the front of the input. -/
def parse (kind : ReportKind α) (grants : Nat → Bool) (input : List UInt8) :
    Except (Fault ReportError) (ReportPacket α × Nat) := do
  let header ← (RtcpHeader.parse input).mapError (Fault.map .header)
  require (header.packetType = kind.packetType) (.wrongPacketType header.packetType)
  let expected := kind.informationBytes + header.count.toNat * receptionReportBytes
  require (header.unpaddedBodyLen = expected)
    (.bodyLengthMismatch expected header.unpaddedBodyLen header.count)
  let packet ← range input 0 header.packetLen
  let information ← kind.read packet.val
  require (grants header.count.toNat) .allocationFailed
  let reports ← parseReports packet.val (rtcpHeaderBytes + kind.informationBytes) 0
    header.count.toNat
  return (
    { information := information
      reports := reports
      paddingBytes := header.paddingBytes }, header.packetLen)

/-- The length of a packet of so many blocks. -/
def packetLen (kind : ReportKind α) (reportCount : Nat) (paddingBytes : UInt8) :
    Except ReportError Nat :=
  let length := reportCount * receptionReportBytes +
    (rtcpHeaderBytes + kind.informationBytes) + paddingBytes.toNat
  if 4 ∣ length then .ok length else .error (.packetNotWordAligned length)

/-- Construct a report packet. -/
def new (kind : ReportKind α) (grants : Nat → Bool) (information : α)
    (reports : List ReceptionReport) (paddingBytes : UInt8) :
    Except ReportError (ReportPacket α) := do
  ensure (reports.length ≤ maxReports) (.tooManyReports reports.length maxReports)
  let length ← kind.packetLen reports.length paddingBytes
  let _ ← forCount .header .lengthOverflow kind.packetType reports.length length paddingBytes
  ensure (grants reports.length = true) .allocationFailed
  return {
    information := information
    reports := reports
    paddingBytes := paddingBytes }

/-- Serialize a report packet. -/
def encode (kind : ReportKind α) (grants : Nat → Bool) (packet : ReportPacket α) :
    Except ReportError (List UInt8) := do
  let length ← kind.packetLen packet.reports.length packet.paddingBytes
  let header ← forCount .header .lengthOverflow kind.packetType
    packet.reports.length length packet.paddingBytes
  ensure (grants length = true) .allocationFailed
  let output ← header.encode.mapError .header
  appendPadding .lengthOverflow packet.paddingBytes length
    (output ++ (kind.write packet.information ++ packet.reports.flatMap ReceptionReport.encode))

/-- The body of a report packet. -/
def body (kind : ReportKind α) (packet : ReportPacket α) : List UInt8 :=
  kind.write packet.information ++ packet.reports.flatMap ReceptionReport.encode

/-- A frame that carries a report packet. -/
structure Carries (kind : ReportKind α) (frame : Frame) (packet : ReportPacket α) :
    Prop where
  packetType : frame.packetType = kind.packetType
  count : frame.count.toNat = packet.reports.length
  body : frame.body = kind.body packet
  paddingBytes : frame.paddingBytes = packet.paddingBytes

theorem length_flatMap_encode (reports : List ReceptionReport) :
    (reports.flatMap ReceptionReport.encode).length = reports.length * receptionReportBytes := by
  induction reports with
  | nil => simp
  | cons report reports ih =>
    rw [List.flatMap_cons, List.length_append, ReceptionReport.length_encode,
      ih, List.length_cons, Nat.add_mul, Nat.one_mul, Nat.add_comm]

theorem length_body (kind : ReportKind α) (packet : ReportPacket α) : (kind.body packet).length =
      kind.informationBytes + packet.reports.length * receptionReportBytes := by
  rw [body, List.length_append, kind.length_write, length_flatMap_encode]

/-- Parsed blocks stand one after the other. -/
theorem safe_parseReports {packet : List UInt8} {start : Nat} (index remaining : Nat)
    (inside : start + (index + remaining) * receptionReportBytes ≤ packet.length) :
    Safe (fun reports => reports.length = remaining ∧
        packet.drop (start + index * receptionReportBytes) =
          reports.flatMap ReceptionReport.encode ++
            packet.drop (start + (index + remaining) * receptionReportBytes))
      (parseReports packet start index remaining) := by
  simp only [receptionReportBytes] at inside ⊢
  induction remaining generalizing index with
  | zero => exact ⟨rfl, rfl⟩
  | succ remaining ih =>
    refine .bind (safe_rangeFrom (by simp only [receptionReportBytes]; omega))
      fun block blockStands => ?_
    refine .bind ((ReceptionReport.safe_parse _).map _) fun report front => ?_
    refine .bind (ih (index + 1) (by omega)) fun reports rest => ?_
    obtain ⟨number, stand⟩ := rest
    have next : start + index * 24 + 24 = start + (index + 1) * 24 := by omega
    have last : start + (index + 1 + remaining) * 24 =
        start + (index + (remaining + 1)) * 24 := by omega
    simp only [receptionReportBytes] at blockStands front
    rw [blockStands, List.drop_drop, next, stand, last] at front
    refine ⟨by simp [number], ?_⟩
    rw [front, List.flatMap_cons, List.append_assoc]

/-- Blocks that stand one after the other are parsed. -/
theorem parseReports_of_drop {packet rest : List UInt8} {start : Nat} (index : Nat)
    (reports : List ReceptionReport)
    (found : packet.drop (start + index * receptionReportBytes) =
      reports.flatMap ReceptionReport.encode ++ rest)
    (inside : start + (index + reports.length) * receptionReportBytes ≤ packet.length) :
    parseReports packet start index reports.length = .ok reports := by
  simp only [receptionReportBytes] at found inside
  induction reports generalizing index with
  | nil => rfl
  | cons report reports ih =>
    rw [List.length_cons] at inside ⊢
    rw [List.flatMap_cons, List.append_assoc] at found
    have next : packet.drop (start + (index + 1) * 24) =
        reports.flatMap ReceptionReport.encode ++ rest := by
      have dropped := drop_next found report.length_encode
      rwa [Nat.add_assoc, receptionReportBytes, ← Nat.succ_mul] at dropped
    refine bind_of_ok (rangeFrom_of_drop found (by omega)) ?_
    refine bind_of_ok (mapError_eq_ok.mpr (report.parse_encode _)) ?_
    refine bind_of_ok (ih (index + 1) next (by omega)) rfl

/-- A parsed report packet is carried by the frame at the front of the input. -/
theorem safe_parse (kind : ReportKind α) (grants : Nat → Bool) (input : List UInt8) :
    Safe (fun parsed => ∃ frame : Frame, ∃ rest,
        input = frame.bytes ++ rest ∧ parsed.2 = frame.length ∧
        kind.Carries frame parsed.1)
      (kind.parse grants input) := by
  unfold parse
  refine .bind ((RtcpHeader.safe_parse input).map _) fun header front => ?_
  obtain ⟨frame, rest, rfl, rfl⟩ := front
  refine .bind (safe_require _ _) fun _ type => ?_
  refine .bind (safe_require _ _) fun _ size => ?_
  rw [Frame.unpaddedBodyLen_header] at size
  refine .bind (frame.safe_packet rest) fun packet isFrame => ?_
  have length : packet.val.length = rtcpHeaderBytes + frame.body.length +
      frame.paddingBytes.toNat := by
    rw [isFrame]
    exact frame.length_bytes
  have whole : rtcpHeaderBytes + kind.informationBytes +
      (0 + frame.header.count.toNat) * receptionReportBytes ≤ packet.val.length := by
    rw [length, size, Nat.zero_add]
    omega
  refine .bind (kind.safe_read packet.val (by omega)) fun information stands => ?_
  refine .bind (safe_require _ _) fun _ _ => ?_
  refine .bind (safe_parseReports 0 _ whole) fun reports blocks => ?_
  obtain ⟨number, stand⟩ := blocks
  rw [Nat.zero_mul, Nat.add_zero] at stand
  refine ⟨frame, rest, rfl, rfl, type, number.symm, ?_, rfl⟩
  rw [isFrame, frame.drop_header, ← isFrame, stand, ← List.append_assoc] at stands
  refine (List.append_inj stands ?_).1
  rw [List.length_append, kind.length_write, length_flatMap_encode, number, size]

/-- A report packet is parsed from a frame that carries it. -/
theorem parse_of_carries
    (granted : ∀ size, grants size = true) {frame : Frame}
    (carries : kind.Carries frame packet) (rest : List UInt8) :
    kind.parse grants (frame.bytes ++ rest) = .ok (packet, frame.length) := by
  have size : frame.body.length =
      kind.informationBytes + packet.reports.length * receptionReportBytes := by
    rw [carries.body, length_body]
  have stands : frame.bytes.drop rtcpHeaderBytes = kind.write packet.information ++
      (packet.reports.flatMap ReceptionReport.encode ++
        paddingWith frame.paddingBytes frame.filler) := by
    rw [frame.drop_header, carries.body, body, List.append_assoc]
  have length : frame.bytes.length = rtcpHeaderBytes + frame.body.length +
      frame.paddingBytes.toNat := frame.length_bytes
  have blocks := drop_next stands (kind.length_write _)
  have reports : parseReports frame.bytes (rtcpHeaderBytes + kind.informationBytes) 0
      frame.header.count.toNat = .ok packet.reports := by
    rw [Frame.header, carries.count]
    refine parseReports_of_drop 0 _ (by rwa [Nat.zero_mul]) ?_
    rw [length, size, Nat.zero_add]
    omega
  obtain ⟨slice, sliced, isFrame⟩ := frame.range_packet (ε := ReportError) rest
  unfold parse
  refine bind_of_ok (mapError_eq_ok.mpr (parse_frame frame rest)) ?_
  refine bind_of_ok (require_of carries.packetType _) ?_
  refine bind_of_ok (require_of ?_ _) ?_
  · rw [Frame.unpaddedBodyLen_header, size, ← carries.count]
    rfl
  refine bind_of_ok sliced ?_
  rw [isFrame]
  refine bind_of_ok (kind.read_of_drop _ _ _ stands (by omega)) ?_
  refine bind_of_ok (require_of (granted _) _) ?_
  refine bind_of_ok reports ?_
  simp only [Frame.header, carries.paddingBytes]
  rfl

theorem packetLen_of_carries {frame : Frame} (carries : kind.Carries frame packet) :
    kind.packetLen packet.reports.length packet.paddingBytes = .ok frame.length := by
  have length : packet.reports.length * receptionReportBytes +
      (rtcpHeaderBytes + kind.informationBytes) + packet.paddingBytes.toNat =
      frame.length := by
    rw [Frame.length, carries.body, length_body, carries.paddingBytes]
    omega
  simp only [packetLen]
  rw [length, if_pos frame.four_dvd_length]

/-- A report packet is encoded in the frame that carries it. -/
theorem encode_of_carries
    (granted : ∀ size, grants size = true) {frame : Frame} (carries : kind.Carries frame packet) :
    kind.encode grants packet = .ok frame.zeroed.bytes := by
  have sized : frame.length =
      (frame.headerBytes ++ kind.body packet).length + packet.paddingBytes.toNat := by
    rw [List.length_append, frame.length_headerBytes, ← carries.body, ← carries.paddingBytes]
    rfl
  rw [encode, packetLen_of_carries carries, ok_bind, forCount_frame
    carries.packetType carries.count carries.paddingBytes, ok_bind, ensure_of (granted _),
    ok_bind, encode_frame]
  refine bind_of_ok rfl ?_
  rw [← body, appendPadding_eq sized, Frame.bytes_zeroed, carries.body,
    carries.paddingBytes, List.append_assoc]

/-- A constructed report packet has a frame. -/
theorem carries_of_new {information : α}
    {reports : List ReceptionReport} {paddingBytes : UInt8}
    (built : kind.new grants information reports paddingBytes = .ok packet) :
    ∃ frame, kind.Carries frame packet := by
  obtain ⟨_, few, built⟩ := bind_eq_ok.mp built
  obtain ⟨length, measured, built⟩ := bind_eq_ok.mp built
  obtain ⟨header, made, built⟩ := bind_eq_ok.mp built
  obtain ⟨_, _, built⟩ := bind_eq_ok.mp built
  cases built
  obtain ⟨aligned, fits⟩ := of_forCount made
  simp only [packetLen] at measured
  split_ifs at measured
  injection measured with measured
  have whole := kind.aligned
  rw [receptionReportBytes, rtcpHeaderBytes] at measured
  have size := kind.length_body ⟨information, reports, paddingBytes⟩
  rw [receptionReportBytes] at size
  dsimp only at size
  obtain ⟨frame, type, count, body, padding⟩ := Frame.exists_of kind.known (ensure_eq_ok.mp few)
      (show 4 ∣ (kind.body ⟨information, reports, paddingBytes⟩).length +
        paddingBytes.toNat by omega)
      (by rw [rtcpHeaderBytes]; omega)
  exact ⟨frame, type, count, body, padding⟩

end ReportKind

/-- Sender counters and clock correlation. -/
structure RtcpSenderInfo where
  ntpTimestamp : UInt64
  rtpTimestamp : UInt32
  senderPacketCount : UInt32
  senderOctetCount : UInt32
  deriving DecidableEq

/-- What stands before the blocks of a sender report. -/
structure SenderInformation where
  senderSsrc : UInt32
  senderInfo : RtcpSenderInfo
  deriving DecidableEq

/-- A sender report. -/
abbrev SenderReport := ReportPacket SenderInformation

namespace SenderReport

/-- The wire form of the sender information. -/
def writeInformation (information : SenderInformation) : List UInt8 :=
  wordBytes information.senderSsrc ++
    (BigEndian.encode 8 information.senderInfo.ntpTimestamp.toNat ++
      (wordBytes information.senderInfo.rtpTimestamp ++
        (wordBytes information.senderInfo.senderPacketCount ++
          wordBytes information.senderInfo.senderOctetCount)))

/-- Read the sender information of a packet. -/
def readInformation (packet : List UInt8) :
    Except (Fault ReportError) SenderInformation := do
  let senderSsrc ← readU32 packet 4
  let ntpTimestamp ← readU64 packet 8
  let rtpTimestamp ← readU32 packet 16
  let senderPacketCount ← readU32 packet 20
  let senderOctetCount ← readU32 packet 24
  return {
    senderSsrc := senderSsrc
    senderInfo :=
      { ntpTimestamp := ntpTimestamp
        rtpTimestamp := rtpTimestamp
        senderPacketCount := senderPacketCount
        senderOctetCount := senderOctetCount } }

theorem safe_readInformation (packet : List UInt8)
    (inside : rtcpHeaderBytes + 24 ≤ packet.length) :
    Safe (fun information => packet.drop rtcpHeaderBytes =
        writeInformation information ++ packet.drop (rtcpHeaderBytes + 24))
      (readInformation packet) := by
  rw [rtcpHeaderBytes] at inside
  unfold readInformation
  refine .bind (safe_readU32 (by omega)) fun ssrc ssrcStands => ?_
  refine .bind (safe_readU64 (by omega)) fun ntp ntpStands => ?_
  refine .bind (safe_readU32 (by omega)) fun rtp rtpStands => ?_
  refine .bind (safe_readU32 (by omega)) fun packets packetsStand => ?_
  refine .bind (safe_readU32 (by omega)) fun octets octetsStand => ?_
  simp only [meets_pure, writeInformation, List.append_assoc, rtcpHeaderBytes]
  rw [← octetsStand, ← packetsStand, ← rtpStands, ← ntpStands, ← ssrcStands]

theorem readInformation_of_drop (packet rest : List UInt8)
    (information : SenderInformation)
    (found : packet.drop rtcpHeaderBytes = writeInformation information ++ rest)
    (inside : rtcpHeaderBytes + 24 ≤ packet.length) :
    readInformation packet = .ok information := by
  rw [rtcpHeaderBytes] at inside
  simp only [writeInformation, List.append_assoc, rtcpHeaderBytes] at found
  have at8 : packet.drop 8 = _ := drop_next found (length_wordBytes _)
  have at16 : packet.drop 16 = _ := drop_next at8 (length_encode _ _)
  have at20 : packet.drop 20 = _ := drop_next at16 (length_wordBytes _)
  have at24 : packet.drop 24 = _ := drop_next at20 (length_wordBytes _)
  unfold readInformation
  refine bind_of_ok (readU32_of_drop found (by omega)) ?_
  refine bind_of_ok (readU64_of_drop at8 (by omega)) ?_
  refine bind_of_ok (readU32_of_drop at16 (by omega)) ?_
  refine bind_of_ok (readU32_of_drop at20 (by omega)) ?_
  refine bind_of_ok (readU32_of_drop at24 (by omega)) rfl

/-- Sender reports as report packets. -/
def kind : ReportKind SenderInformation where
  packetType := .senderReport
  informationBytes := 24
  write := writeInformation
  read := readInformation
  known := rfl
  aligned := by decide
  length_write information := by simp [writeInformation]
  safe_read := safe_readInformation
  read_of_drop := readInformation_of_drop

/-- Parse a sender report at the front of the input. -/
def parse (grants : Nat → Bool) (input : List UInt8) :
    Except (Fault ReportError) (SenderReport × Nat) :=
  kind.parse grants input

/-- Construct a sender report. -/
def new (grants : Nat → Bool) (information : SenderInformation)
    (reports : List ReceptionReport) (paddingBytes : UInt8) :
    Except ReportError SenderReport :=
  kind.new grants information reports paddingBytes

/-- Serialize a sender report. -/
def encode (grants : Nat → Bool) (report : SenderReport) : Except ReportError (List UInt8) :=
  kind.encode grants report

end SenderReport

/-- A receiver report. -/
abbrev ReceiverReport := ReportPacket UInt32

namespace ReceiverReport

/-- Receiver reports as report packets. -/
def kind : ReportKind UInt32 where
  packetType := .receiverReport
  informationBytes := 4
  write := wordBytes
  read packet := readU32 packet rtcpHeaderBytes
  known := rfl
  aligned := by decide
  length_write := length_wordBytes
  safe_read _ inside := safe_readU32 inside
  read_of_drop _ _ _ found inside := readU32_of_drop found inside

/-- Parse a receiver report at the front of the input. -/
def parse (grants : Nat → Bool) (input : List UInt8) :
    Except (Fault ReportError) (ReceiverReport × Nat) :=
  kind.parse grants input

/-- Construct a receiver report. -/
def new (grants : Nat → Bool) (receiverSsrc : UInt32)
    (reports : List ReceptionReport) (paddingBytes : UInt8) :
    Except ReportError ReceiverReport :=
  kind.new grants receiverSsrc reports paddingBytes

/-- Serialize a receiver report, whose number of blocks is checked once more. -/
def encode (grants : Nat → Bool) (report : ReceiverReport) :
    Except ReportError (List UInt8) := do
  ensure (report.reports.length ≤ maxReports) (.tooManyReports report.reports.length maxReports)
  kind.encode grants report

theorem encode_of_carries {grants : Nat → Bool} (granted : ∀ size, grants size = true)
    {frame : Frame} {report : ReceiverReport} (carries : kind.Carries frame report) :
    encode grants report = .ok frame.zeroed.bytes := by
  have few : report.reports.length ≤ maxReports := by
    rw [← carries.count]
    exact frame.count_le
  rw [encode, ensure_of few, ok_bind, ReportKind.encode_of_carries granted carries]

end ReceiverReport

end Rtp
end LiveAISIP
