import LiveAISIP.Rtp.SequenceReports
import LiveAISIP.Rtp.StreamSteps
import Mathlib.Data.UInt

/-!
# Report polling

The reports that a session sends, `rtp/session/rtcp.rs` with the report blocks of
`rtp/session/receive.rs` and the clamped loss of `rtp/stats/loss.rs`.  Building a
block closes the interval of the loss statistics before the time of the last sender
report is checked and before the descriptions are reserved.  An overflow of the
extended sequence number is a fault.
-/

namespace LiveAISIP
namespace Rtp

open Fault Outcome
open Transaction (Duration)

variable {grants : Nat → Bool}

/-- The part of the loss statistics that a report block carries. -/
structure LossSnapshot where
  fractionLost : UInt8
  rtcpCumulativeLost : Int

/-- A loss count cut to 24 signed bits. -/
def clampCumulativeLoss (value : Int) : Int :=
  if maxCumulativeLost < value then maxCumulativeLost
  else if value < minCumulativeLost then minCumulativeLost
  else value

/-- The loss of one snapshot. -/
def LossSnapshot.fromSequence (sequence : SequenceSnapshot) : LossSnapshot where
  fractionLost := sequence.fractionLost
  rtcpCumulativeLost := clampCumulativeLoss sequence.cumulativeLost

theorem clampCumulativeLoss_mem (value : Int) : minCumulativeLost ≤ clampCumulativeLoss value ∧
      clampCumulativeLoss value ≤ maxCumulativeLost := by
  unfold clampCumulativeLoss minCumulativeLost maxCumulativeLost
  split_ifs <;> omega

/-- A block is built of every loss in range. -/
theorem exists_receptionReport
    (sourceSsrc : UInt32) (fractionLost : UInt8)
    (extendedHighestSequence interarrivalJitter lastSenderReport delay : UInt32)
    {cumulativeLost : Int}
    (range : minCumulativeLost ≤ cumulativeLost ∧ cumulativeLost ≤ maxCumulativeLost) :
    ∃ block, ReceptionReport.new sourceSsrc fractionLost cumulativeLost
        extendedHighestSequence interarrivalJitter lastSenderReport delay = .ok block ∧
      block.sourceSsrc = sourceSsrc ∧ block.fractionLost = fractionLost ∧
      (block.lastSenderReport, block.delaySinceLastSenderReport) = (lastSenderReport, delay) := by
  rw [ReceptionReport.new, dif_pos range]
  exact ⟨_, rfl, rfl, rfl, rfl⟩

/-- The jitter in whole ticks. -/
def JitterEstimator.jitter (estimator : JitterEstimator) : UInt32 :=
  (min (estimator.jitterQ4 / 16) (2 ^ 32 - 1)).toUInt32

/-- The time since a sender report in units of 1/65536 s, cut to 32 bits. -/
def delaySinceSenderReport (elapsed : Nat) : UInt32 :=
  let seconds := elapsed / 10 ^ 9
  if 65536 ≤ seconds then 2 ^ 32 - 1
  else
    let whole := seconds * 65536
    let fraction := elapsed % 10 ^ 9 * 65536 / 10 ^ 9
    (whole + fraction).toUInt32

namespace RtpReceiveState

/-- The time of the last sender report and the delay since it came. -/
def senderReportTiming (state : RtpReceiveState) (now : Duration) :
    Except RtpStateError (UInt32 × UInt32) :=
  match state.lastSenderReport with
  | none => .ok (0, 0)
  | some reference =>
    if now.asNanos < reference.receivedAt.asNanos then .error .timeMovedBackwards
    else .ok (reference.compactNtp,
      delaySinceSenderReport (now.asNanos - reference.receivedAt.asNanos))

/-- The report block of an interval that was closed. -/
def closedReport (state : RtpReceiveState) (sourceSsrc : UInt32)
    (sequence : SequenceSnapshot) (now : Duration) :
    Except (Fault RtpStateError) ReceptionReport := do
  let loss := LossSnapshot.fromSequence sequence
  let timing ← (state.senderReportTiming now).mapError .refused
  (ReceptionReport.new sourceSsrc loss.fractionLost loss.rtcpCumulativeLost
    sequence.extendedHighestSequence.toUInt32 state.jitter.jitter timing.1
    timing.2).mapError fun error => .refused (.receptionReport error)

/-- Close the interval and build its report block. -/
def receptionReport (now : Duration) :
    Effect RtpReceiveState (Fault RtpStateError) ReceptionReport := fun state =>
  match state.boundSsrc with
  | none => (state, .error (.refused .sourceNotBound))
  | some sourceSsrc =>
    if ¬state.sequence.validated then (state, .error (.refused .sourceNotValidated))
    else
      match state.sequence.snapshot with
      | none => (state, .error .outOfBounds)
      | some (sequence, snapshot) =>
        let closed := { state with sequence := sequence }
        (closed, closed.closedReport sourceSsrc snapshot now)

end RtpReceiveState

/-- What a source was expected to send and what was received of it. -/
@[ext] structure Totals where
  expected : Nat
  received : Nat
  deriving DecidableEq

namespace SequenceTracker

/-- The totals of the current epoch. -/
def totals (tracker : SequenceTracker) : Totals where
  expected := saturatingAdd
    (tracker.cycles + tracker.maxSequence.toNat - tracker.baseSequence.toNat) 1
  received := tracker.received

/-- The totals at the last report. -/
def reported (tracker : SequenceTracker) : Totals where
  expected := tracker.expectedPrior
  received := tracker.receivedPrior

/-- The extended sequence number fits its counter. -/
def Countable (tracker : SequenceTracker) : Prop :=
  tracker.cycles + tracker.maxSequence.toNat < 2 ^ 64

instance (tracker : SequenceTracker) : Decidable tracker.Countable :=
  inferInstanceAs (Decidable (_ < _))

/-- The tracker after its totals were reported. -/
def closed (tracker : SequenceTracker) : SequenceTracker :=
  { tracker with
    expectedPrior := tracker.totals.expected
    receivedPrior := tracker.totals.received }

theorem closed_eq_iff (tracker : SequenceTracker) :
    tracker.closed = tracker ↔ tracker.reported = tracker.totals := by
  constructor
  · intro same
    rw [← same]
    rfl
  · intro same
    have expected := congrArg Totals.expected same
    have received := congrArg Totals.received same
    rw [closed, ← expected, ← received]
    rfl

end SequenceTracker

/-- The counts since earlier totals. -/
def Totals.since (later earlier : Totals) : Totals where
  expected := later.expected - earlier.expected
  received := later.received - earlier.received

/-- The lost share of an interval, in units of 1/256. -/
def Totals.fraction (interval : Totals) : UInt8 :=
  intervalFraction (signedDifference interval.expected interval.received) interval.expected

/-- A snapshot closes the interval since the last report. -/
theorem SequenceTracker.snapshot_eq
    {tracker : SequenceTracker} (validated : tracker.validated = true) :
    (tracker.Countable → ∃ snapshot, tracker.snapshot = some (tracker.closed, snapshot) ∧
        snapshot.fractionLost = (tracker.totals.since tracker.reported).fraction) ∧
      (¬tracker.Countable → tracker.snapshot = none) := by
  constructor
  · intro countable
    refine ⟨{
      extendedHighestSequence := tracker.cycles + tracker.maxSequence.toNat
      expectedPackets := tracker.totals.expected
      receivedPackets := tracker.totals.received
      cumulativeLost := signedDifference tracker.totals.expected tracker.totals.received
      fractionLost := (tracker.totals.since tracker.reported).fraction }, ?_, rfl⟩
    rw [SequenceTracker.snapshot, if_neg (by simp [validated]), if_neg (Nat.not_le.2 countable)]
    rfl
  · intro overflow
    rw [SequenceTracker.snapshot, if_neg (by simp [validated]), if_pos (Nat.not_lt.1 overflow)]

namespace RtpReceiveState

variable {state : RtpReceiveState}

/-- No sender report is later than the time of a report. -/
def InTime (state : RtpReceiveState) (now : Duration) : Prop :=
  ∀ reference ∈ state.lastSenderReport, reference.receivedAt.asNanos ≤ now.asNanos

instance (state : RtpReceiveState) (now : Duration) : Decidable (state.InTime now) :=
  inferInstanceAs (Decidable (∀ reference ∈ _, _ ≤ _))

/-- A report has a block of the source. -/
def Ready (state : RtpReceiveState) : Prop := state.boundSsrc.isSome ∧ state.sequence.validated

instance (state : RtpReceiveState) : Decidable state.Ready := inferInstanceAs (Decidable (_ ∧ _))

/-- A report of the source would close an interval in which packets were counted. -/
def OpenInterval (state : RtpReceiveState) : Prop :=
  state.Ready ∧ state.sequence.Countable ∧ state.sequence.reported ≠ state.sequence.totals

instance (state : RtpReceiveState) : Decidable state.OpenInterval :=
  inferInstanceAs (Decidable (_ ∧ _ ∧ _))

/-- The state after its totals were reported. -/
def closed (state : RtpReceiveState) : RtpReceiveState :=
  { state with sequence := state.sequence.closed }

/-- A report in time has the source, the lost share and the sender report of the
state. -/
structure Describes (state : RtpReceiveState) (now : Duration) (block : ReceptionReport) :
    Prop where
  source : state.boundSsrc = some block.sourceSsrc
  fraction : block.fractionLost = (state.sequence.totals.since state.sequence.reported).fraction
  timing : state.senderReportTiming now =
    .ok (block.lastSenderReport, block.delaySinceLastSenderReport)

theorem senderReportTiming_of_inTime {now : Duration} (inTime : state.InTime now) :
    ∃ timing, state.senderReportTiming now = .ok timing := by
  rw [senderReportTiming]
  cases noted : state.lastSenderReport with
  | none => exact ⟨_, rfl⟩
  | some reference =>
    have order := inTime reference noted
    dsimp only
    rw [if_neg (Nat.not_lt.2 order)]
    exact ⟨_, rfl⟩

theorem senderReportTiming_of_late {now : Duration} (late : ¬state.InTime now) :
    state.senderReportTiming now = .error .timeMovedBackwards := by
  rw [InTime] at late
  push Not at late
  obtain ⟨reference, noted, order⟩ := late
  have noted : state.lastSenderReport = some reference := noted
  rw [senderReportTiming, noted]
  dsimp only
  rw [if_pos order]

/-- A block is always built of checked times. -/
theorem closedReport_of_timing {now : Duration} {times : UInt32 × UInt32}
    (timed : state.senderReportTiming now = .ok times)
    (sourceSsrc : UInt32) (sequence : SequenceSnapshot) :
    ∃ block, state.closedReport sourceSsrc sequence now = .ok block ∧
      block.sourceSsrc = sourceSsrc ∧ block.fractionLost = sequence.fractionLost ∧
      (block.lastSenderReport, block.delaySinceLastSenderReport) = times := by
  obtain ⟨block, built, parts⟩ := exists_receptionReport sourceSsrc sequence.fractionLost
    sequence.extendedHighestSequence.toUInt32 state.jitter.jitter times.1 times.2
    (clampCumulativeLoss_mem sequence.cumulativeLost)
  refine ⟨block, ?_, parts⟩
  rw [closedReport, timed]
  simp only [Except.mapError, ok_bind, LossSnapshot.fromSequence, built]

/-- What a report of a bound and validated source does. -/
theorem receptionReport_cases (now : Duration) (ready : state.Ready) :
    (¬state.sequence.Countable ∧ state.receptionReport now = (state, .error .outOfBounds)) ∨
      (state.sequence.Countable ∧ ¬state.InTime now ∧ state.receptionReport now =
          (state.closed, .error (.refused .timeMovedBackwards))) ∨
      (state.sequence.Countable ∧ state.InTime now ∧
        ∃ block, state.receptionReport now = (state.closed, .ok block) ∧
          state.Describes now block) := by
  obtain ⟨bound, validated⟩ := ready
  obtain ⟨sourceSsrc, source⟩ := Option.isSome_iff_exists.1 bound
  obtain ⟨counted, overflowed⟩ := SequenceTracker.snapshot_eq validated
  by_cases countable : state.sequence.Countable
  · right
    obtain ⟨snapshot, taken, fraction⟩ := counted countable
    have reported : state.receptionReport now =
        (state.closed, state.closed.closedReport sourceSsrc snapshot now) := by
      simp only [receptionReport, source, validated, taken, closed]
      rfl
    have timing : state.closed.senderReportTiming now = state.senderReportTiming now := rfl
    by_cases inTime : state.InTime now
    · right
      obtain ⟨times, timed⟩ := senderReportTiming_of_inTime inTime
      obtain ⟨block, built, named, lost, times⟩ :=
        closedReport_of_timing (timing.trans timed) sourceSsrc snapshot
      refine ⟨countable, inTime, block, by rw [reported, built], ?_, ?_, ?_⟩
      · rw [source, named]
      · rw [lost, fraction]
      · rw [timed, times]
    · left
      refine ⟨countable, inTime, ?_⟩
      rw [reported, closedReport, timing, senderReportTiming_of_late inTime]
      rfl
  · left
    refine ⟨countable, ?_⟩
    simp only [receptionReport, source, validated, overflowed countable]
    rfl

theorem closed_eq_iff (state : RtpReceiveState) :
    state.closed = state ↔ state.sequence.reported = state.sequence.totals := by
  rw [← SequenceTracker.closed_eq_iff]
  constructor
  · intro same
    exact congrArg RtpReceiveState.sequence same
  · intro same
    rw [closed, same]

/-- A failed report leaves the state as it was exactly when no open interval meets
a sender report from the future. -/
theorem receptionReport_atomic_iff (state : RtpReceiveState) (now : Duration) :
    (∀ error, (state.receptionReport now).2 = .error (.refused error) →
        (state.receptionReport now).1 = state) ↔
      (state.OpenInterval → state.InTime now) := by
  by_cases ready : state.Ready
  · rcases receptionReport_cases now ready with
      ⟨overflow, run⟩ | ⟨countable, late, run⟩ | ⟨countable, inTime, block, run, -⟩
    · rw [run]
      exact iff_of_true (fun _ _ => rfl) fun opened => absurd opened.2.1 overflow
    · rw [run]
      constructor
      · intro atomic opened
        exact absurd (state.closed_eq_iff.1 (atomic _ rfl)) opened.2.2
      · intro condition error _
        by_contra changed
        exact late (condition ⟨ready, countable, fun same =>
          changed (state.closed_eq_iff.2 same)⟩)
    · rw [run]
      exact iff_of_true (fun error raised => by cases raised) fun _ => inTime
  · apply iff_of_true
    · intro error _
      rw [receptionReport]
      cases source : state.boundSsrc with
      | none => rfl
      | some sourceSsrc =>
        have unvalidated : ¬state.sequence.validated = true := fun validated =>
          ready ⟨by rw [source]; rfl, validated⟩
        dsimp only
        rw [if_pos unvalidated]
    · intro opened
      exact absurd opened.1 ready

end RtpReceiveState

/-- One report with the description of its sender. -/
inductive ScheduledReport
  | sender (report : SenderReport) (description : SourceDescription)
  | receiver (report : ReceiverReport) (description : SourceDescription)
  deriving DecidableEq

/-- The report blocks of a scheduled report. -/
def ScheduledReport.blocks : ScheduledReport → List ReceptionReport
  | sender report _ => report.reports
  | receiver report _ => report.reports

namespace RtcpScheduler

/-- Count one sent packet. -/
def noteRtpSent (scheduler : RtcpScheduler) (payloadOctets : Nat) : RtcpScheduler :=
  { scheduler with
    senderPackets := saturatingAdd scheduler.senderPackets 1
    senderOctets := saturatingAdd scheduler.senderOctets payloadOctets
    sentSinceReport := true }

/-- The description with the canonical name. -/
def description (scheduler : RtcpScheduler) (grants : Nat → Bool) :
    Except RtcpSchedulerError SourceDescription :=
  Except.mapError .sourceDescription do
    let item ← SdesItem.new grants .canonicalName scheduler.cname
    let chunk ← SdesChunk.new grants scheduler.localSsrc [item]
    SourceDescription.new grants [chunk] 0

/-- The report for the blocks, of the kind that is due. -/
def scheduled (scheduler : RtcpScheduler) (grants : Nat → Bool) (ntpTimestamp : UInt64)
    (rtpTimestamp : UInt32) (reports : List ReceptionReport)
    (description : SourceDescription) : Except RtcpSchedulerError ScheduledReport :=
  if scheduler.sentSinceReport then do
    let sender : RtcpSenderInfo :=
      { ntpTimestamp := ntpTimestamp
        rtpTimestamp := rtpTimestamp
        senderPacketCount := scheduler.senderPackets.toUInt32
        senderOctetCount := scheduler.senderOctets.toUInt32 }
    let report ← (SenderReport.kind.new grants ⟨scheduler.localSsrc, sender⟩ reports
      0).mapError .senderReport
    return .sender report description
  else do
    let report ← (ReceiverReport.kind.new grants scheduler.localSsrc reports
      0).mapError .receiverReport
    return .receiver report description

/-- Computations on a schedule and the receive state of its reports. -/
abbrev Polling (α : Type) :=
  Effect (RtcpScheduler × Option RtpReceiveState) (Fault RtcpSchedulerError) α

/-- The block of a bound and validated source. -/
def reception (now : Duration) : Polling (List ReceptionReport) := fun (scheduler, receive) =>
  match receive with
  | none => ((scheduler, none), .ok [])
  | some state =>
    if state.boundSsrc.isSome ∧ state.sequence.validated then
      ((scheduler, some (state.receptionReport now).1),
        ((state.receptionReport now).2.mapError (Fault.map .receiveState)).map ([·]))
    else ((scheduler, some state), .ok [])

/-- Build the report that is due. -/
def poll (grants : Nat → Bool) (now : Duration) (ntpTimestamp : UInt64)
    (rtpTimestamp : UInt32) : Polling (Option ScheduledReport) := do
  let (scheduler, _) ← .read id
  if now.asNanos < scheduler.nextReport.asNanos then return none
  else
    match now.checkedAdd scheduler.interval with
    | none => .fail (.refused .timeOverflow)
    | some next => do
      let reports ← reception now
      let description ← .ofExcept ((scheduler.description grants).mapError .refused)
      let report ← .ofExcept ((scheduler.scheduled grants ntpTimestamp rtpTimestamp
        reports description).mapError .refused)
      .modify fun (scheduler, receive) =>
        ({ scheduler with
            nextReport := next
            sentSinceReport := false
            reportsSent := saturatingAdd scheduler.reportsSent 1 }, receive)
      return some report

end RtcpScheduler

namespace RtpSession

/-- Count one sent payload for the next sender report. -/
def noteRtpSent (session : RtpSession) (payloadOctets : Nat) : RtpSession :=
  { session with rtcp := session.rtcp.map fun rtcp => rtcp.noteRtpSent payloadOctets }

/-- Build the report of the session that is due. -/
def pollRtcp (grants : Nat → Bool) (now : Duration) (ntpTimestamp : UInt64)
    (rtpTimestamp : UInt32) : Operation (Option ScheduledReport) := fun session =>
  match session.rtcp with
  | none => (session, .error (.refused .rtcpNotConfigured))
  | some rtcp =>
    let polled := RtcpScheduler.poll grants now ntpTimestamp rtpTimestamp
      (rtcp, some session.receive)
    ({ session with
        rtcp := some polled.1.1
        receive := polled.1.2.getD session.receive }, polled.2.mapError (Fault.map .rtcp))

end RtpSession

theorem SdesItem.exists_canonicalName
    {value : List UInt8}
    (short : value.length ≤ maxSdesItemBytes) :
    (∃ item, SdesItem.new grants .canonicalName value = .ok item) ↔ grants value.length = true := by
  have known : SdesItemType.fromRaw SdesItemType.canonicalName.asRaw = .ok .canonicalName := rfl
  have valid : validateItemValue .canonicalName value = .ok () := by
    unfold validateItemValue
    rw [ensure_of short]
    rfl
  rw [SdesItem.new, known, ok_bind]
  constructor
  · rintro ⟨item, built⟩
    split at built
    · cases built
    · obtain ⟨_, granted, -⟩ := bind_eq_ok.mp built
      exact ensure_eq_ok.mp granted
  · intro granted
    split
    case h_1 error refused =>
      rw [valid] at refused
      cases refused
    case h_2 _ =>
      rw [ensure_of granted, ok_bind]
      exact ⟨_, rfl⟩

/-- The header of an aligned packet of few elements is built. -/
theorem RtcpHeader.exists_forCount
    (wrap : RtcpHeaderError → ε) (overflow : ε) {packetType : RtcpPacketType}
    {count packetLen : Nat} (few : count ≤ 31)
    (known : RtcpPacketType.fromRaw packetType.asRaw = .ok packetType)
    (long : rtcpHeaderBytes ≤ packetLen) (aligned : 4 ∣ packetLen)
    (small : packetLen ≤ maxRtcpPacketBytes) :
    ∃ header, forCount wrap overflow packetType count packetLen 0 = .ok header := by
  have octet : count.toUInt8 ≤ maxRtcpCount := by
    rw [UInt8.le_iff_toNat_le, Nat.toUInt8_eq, UInt8.toNat_ofNat', Nat.mod_eq_of_lt (by omega)]
    exact few
  have checked : validatePacketLen packetLen = .ok () := by
    rw [validatePacketLen, ensure_of long, ok_bind, ensure_of aligned, ok_bind, ensure_of small]
  have unpadded : (0 : UInt8).toNat ≤ packetLen - rtcpHeaderBytes := Nat.zero_le _
  rw [forCount, ensure_of (by omega), ok_bind, new, ensure_of octet,
    ok_bind, known, ok_bind, checked, ok_bind, ensure_of unpadded]
  exact ⟨_, rfl⟩

/-- A description of one source with one short item is built when its list is granted. -/
theorem SourceDescription.exists_single
    (chunk : SdesChunk)
    {item : SdesItem}
    (items : chunk.items = [item]) :
    (∃ description, SourceDescription.new grants [chunk] 0 = .ok description) ↔
      grants 1 = true := by
  have valid : validateChunks [chunk] = .ok () := by
    simp [validateChunks, items, ensure, maxSdesChunks, maxSdesItems]
  have aligned : 4 ∣ rtcpHeaderBytes + chunk.encodedLen := by
    rw [SdesChunk.encodedLen]
    exact Nat.dvd_add (by decide) (four_dvd_alignToWord _)
  have small : rtcpHeaderBytes + chunk.encodedLen ≤ maxRtcpPacketBytes := by
    have short := item.value_le
    rw [SdesChunk.encodedLen, items, alignToWord, rtcpHeaderBytes, maxRtcpPacketBytes]
    simp only [List.foldl_cons, List.foldl_nil]
    omega
  have length : packetLen [chunk] 0 = .ok (rtcpHeaderBytes + chunk.encodedLen) := by
    simp [packetLen, aligned]
  obtain ⟨header, built⟩ : ∃ header, RtcpHeader.forCount SourceDescriptionError.header
      .lengthOverflow .sourceDescription [chunk].length
      (rtcpHeaderBytes + chunk.encodedLen) 0 = .ok header :=
    RtcpHeader.exists_forCount _ _ (by decide : 1 ≤ 31) rfl (Nat.le_add_right _ _) aligned small
  rw [SourceDescription.new, valid, ok_bind, length, ok_bind, built, ok_bind]
  constructor
  · rintro ⟨description, made⟩
    obtain ⟨_, granted, -⟩ := bind_eq_ok.mp made
    exact ensure_eq_ok.mp granted
  · intro granted
    have granted : grants [chunk].length = true := granted
    rw [ensure_of granted, ok_bind]
    exact ⟨_, rfl⟩

/-- A report of few blocks is built when its list is granted. -/
theorem ReportKind.exists_report
    (kind : ReportKind α) {reports : List ReceptionReport}
    (few : reports.length ≤ maxReports) (brief : kind.informationBytes ≤ 24) (information : α) :
    (∃ report, kind.new grants information reports 0 = .ok report) ↔
      grants reports.length = true := by
  have aligned : 4 ∣ reports.length * receptionReportBytes +
      (rtcpHeaderBytes + kind.informationBytes) :=
    Nat.dvd_add (Nat.dvd_mul_left_of_dvd (by decide) _) (Nat.dvd_add (by decide) kind.aligned)
  have length : kind.packetLen reports.length 0 = .ok (reports.length * receptionReportBytes +
        (rtcpHeaderBytes + kind.informationBytes)) := by
    simp [packetLen, aligned]
  obtain ⟨header, headed⟩ := RtcpHeader.exists_forCount ReportError.header .lengthOverflow
    few kind.known (by omega) aligned (by
      rw [maxReports] at few
      rw [receptionReportBytes, rtcpHeaderBytes, maxRtcpPacketBytes]
      omega)
  rw [ReportKind.new, ensure_of few, ok_bind, length, ok_bind, headed, ok_bind]
  constructor
  · rintro ⟨report, made⟩
    obtain ⟨_, granted, -⟩ := bind_eq_ok.mp made
    exact ensure_eq_ok.mp granted
  · intro granted
    rw [ensure_of granted, ok_bind]
    exact ⟨_, rfl⟩

/-- A report has the blocks it was built of. -/
theorem ReportKind.reports_of_new
    {kind : ReportKind α} {information : α}
    {reports : List ReceptionReport} {paddingBytes : UInt8} {report : ReportPacket α}
    (built : kind.new grants information reports paddingBytes = .ok report) :
    report.reports = reports := by
  obtain ⟨_, _, built⟩ := bind_eq_ok.mp built
  obtain ⟨_, _, built⟩ := bind_eq_ok.mp built
  obtain ⟨_, _, built⟩ := bind_eq_ok.mp built
  obtain ⟨_, _, built⟩ := bind_eq_ok.mp built
  cases built
  rfl

namespace RtcpScheduler

variable {scheduler : RtcpScheduler} {reports : List ReceptionReport}

/-- The name and the lists of a report with a block are granted. -/
def Granted (scheduler : RtcpScheduler) (grants : Nat → Bool) : Prop :=
  grants scheduler.cname.length = true ∧ grants 1 = true

instance (scheduler : RtcpScheduler) (grants : Nat → Bool) : Decidable (scheduler.Granted grants) :=
  inferInstanceAs (Decidable (_ ∧ _))

/-- A report is due, and the time of the next one can be told. -/
def Due (scheduler : RtcpScheduler) (now : Duration) : Prop :=
  scheduler.nextReport.asNanos ≤ now.asNanos ∧ (now.checkedAdd scheduler.interval).isSome

instance (scheduler : RtcpScheduler) (now : Duration) : Decidable (scheduler.Due now) :=
  inferInstanceAs (Decidable (_ ∧ _))

/-- The schedule after a report was built. -/
def advanced (scheduler : RtcpScheduler) (next : Duration) : RtcpScheduler :=
  { scheduler with
    nextReport := next
    sentSinceReport := false
    reportsSent := saturatingAdd scheduler.reportsSent 1 }

theorem exists_description (short : scheduler.cname.length ≤ maxRtcpCnameBytes)
    (grants : Nat → Bool) :
    (∃ description, scheduler.description grants = .ok description) ↔ scheduler.Granted grants := by
  have short : scheduler.cname.length ≤ maxSdesItemBytes := Nat.le_trans short (by decide)
  constructor
  · rintro ⟨description, built⟩
    obtain ⟨item, named, built⟩ := bind_eq_ok.mp (mapError_eq_ok.mp built)
    obtain ⟨chunk, chunked, -⟩ := bind_eq_ok.mp built
    obtain ⟨_, _, chunked⟩ := bind_eq_ok.mp chunked
    obtain ⟨_, granted, -⟩ := bind_eq_ok.mp chunked
    exact ⟨(SdesItem.exists_canonicalName short).1 ⟨item, named⟩, ensure_eq_ok.mp granted⟩
  · rintro ⟨nameGranted, granted⟩
    obtain ⟨item, named⟩ := (SdesItem.exists_canonicalName short).2 nameGranted
    have chunked : SdesChunk.new grants scheduler.localSsrc [item] =
        .ok ⟨scheduler.localSsrc, [item]⟩ := by
      have few : [item].length ≤ maxSdesItems := (by decide : 1 ≤ maxSdesItems)
      have granted : grants [item].length = true := granted
      rw [SdesChunk.new, ensure_of few, ok_bind, ensure_of granted]
      rfl
    obtain ⟨description, built⟩ :=
      (SourceDescription.exists_single ⟨scheduler.localSsrc, [item]⟩ rfl).2 granted
    refine ⟨description, mapError_eq_ok.mpr ?_⟩
    rw [named, ok_bind, chunked, ok_bind, built]

theorem exists_scheduled
    (scheduler : RtcpScheduler) (grants : Nat → Bool)
    (few : reports.length ≤ maxReports) (ntpTimestamp : UInt64) (rtpTimestamp : UInt32)
    (description : SourceDescription) :
    (∃ report, scheduler.scheduled grants ntpTimestamp rtpTimestamp reports description =
        .ok report) ↔ grants reports.length = true := by
  rw [scheduled]
  split
  · rw [← ReportKind.exists_report SenderReport.kind few (by decide)
      ⟨scheduler.localSsrc, ⟨ntpTimestamp, rtpTimestamp, scheduler.senderPackets.toUInt32,
        scheduler.senderOctets.toUInt32⟩⟩]
    constructor
    · rintro ⟨report, built⟩
      obtain ⟨sender, built, -⟩ := bind_eq_ok.mp built
      exact ⟨sender, mapError_eq_ok.mp built⟩
    · rintro ⟨sender, built⟩
      refine ⟨.sender sender description, bind_eq_ok.mpr ⟨sender, ?_, rfl⟩⟩
      exact mapError_eq_ok.mpr built
  · rw [← ReportKind.exists_report ReceiverReport.kind few (by decide)
      scheduler.localSsrc]
    constructor
    · rintro ⟨report, built⟩
      obtain ⟨receiver, built, -⟩ := bind_eq_ok.mp built
      exact ⟨receiver, mapError_eq_ok.mp built⟩
    · rintro ⟨receiver, built⟩
      refine ⟨.receiver receiver description, bind_eq_ok.mpr ⟨receiver, ?_, rfl⟩⟩
      exact mapError_eq_ok.mpr built

theorem blocks_of_scheduled {grants : Nat → Bool}
    {ntpTimestamp : UInt64} {rtpTimestamp : UInt32} {description : SourceDescription}
    {report : ScheduledReport}
    (built : scheduler.scheduled grants ntpTimestamp rtpTimestamp reports description =
      .ok report) :
    report.blocks = reports := by
  rw [scheduled] at built
  split at built
  · obtain ⟨sender, made, built⟩ := bind_eq_ok.mp built
    cases built
    exact ReportKind.reports_of_new (mapError_eq_ok.mp made)
  · obtain ⟨receiver, made, built⟩ := bind_eq_ok.mp built
    cases built
    exact ReportKind.reports_of_new (mapError_eq_ok.mp made)

/-- Build the report of the blocks and count it. -/
def finish (scheduler : RtcpScheduler) (grants : Nat → Bool) (ntpTimestamp : UInt64)
    (rtpTimestamp : UInt32) (next : Duration) (reports : List ReceptionReport) :
    RtcpScheduler × Except (Fault RtcpSchedulerError) (Option ScheduledReport) :=
  match scheduler.description grants with
  | .error error => (scheduler, .error (.refused error))
  | .ok description =>
    match scheduler.scheduled grants ntpTimestamp rtpTimestamp reports description with
    | .error error => (scheduler, .error (.refused error))
    | .ok report => (scheduler.advanced next, .ok (some report))

/-- What is left of a report after its blocks were built. -/
theorem finish_cases
    (short : scheduler.cname.length ≤ maxRtcpCnameBytes) (few : reports.length ≤ maxReports)
    (grants : Nat → Bool) (ntpTimestamp : UInt64) (rtpTimestamp : UInt32) (next : Duration) :
    (scheduler.Granted grants ∧ grants reports.length = true ∧ ∃ report, report.blocks = reports ∧
          scheduler.finish grants ntpTimestamp rtpTimestamp next reports =
            (scheduler.advanced next, .ok (some report))) ∨
      (¬(scheduler.Granted grants ∧ grants reports.length = true) ∧
        ∃ error, scheduler.finish grants ntpTimestamp rtpTimestamp next reports =
          (scheduler, .error (.refused error))) := by
  have described := exists_description short grants
  rw [finish]
  cases description : scheduler.description grants with
  | error error =>
    right
    refine ⟨?_, error, rfl⟩
    rintro ⟨granted, -⟩
    obtain ⟨found, built⟩ := described.2 granted
    rw [description] at built
    cases built
  | ok found =>
    have granted := described.1 ⟨found, description⟩
    have listed := scheduler.exists_scheduled grants few ntpTimestamp rtpTimestamp found
    cases built : scheduler.scheduled grants ntpTimestamp rtpTimestamp reports found with
    | error error =>
      right
      refine ⟨?_, error, by simp only [built]⟩
      rintro ⟨-, allowed⟩
      obtain ⟨report, made⟩ := listed.2 allowed
      rw [built] at made
      cases made
    | ok report =>
      left
      exact ⟨granted, listed.1 ⟨report, built⟩, report, blocks_of_scheduled built, by
        simp only [built]⟩

/-- Nothing is done before a report is due. -/
theorem poll_of_early {now : Duration} (early : ¬scheduler.Due now)
    (grants : Nat → Bool) (ntpTimestamp : UInt64) (rtpTimestamp : UInt32)
    (receive : Option RtpReceiveState) :
    (poll grants now ntpTimestamp rtpTimestamp (scheduler, receive)).1 = (scheduler, receive) ∧
      ∀ report, (poll grants now ntpTimestamp rtpTimestamp (scheduler, receive)).2 ≠
        .ok (some report) := by
  rw [poll, Effect.bind_of_ok (Effect.read_apply id _)]
  simp only [id_eq]
  by_cases waiting : now.asNanos < scheduler.nextReport.asNanos
  · rw [if_pos waiting]
    exact ⟨rfl, fun report raised => by cases raised⟩
  · rw [if_neg waiting]
    have late : now.checkedAdd scheduler.interval = none := by
      by_contra known
      exact early ⟨Nat.not_lt.1 waiting, Option.isSome_iff_ne_none.2 known⟩
    rw [late]
    exact ⟨rfl, fun report raised => by cases raised⟩

/-- A report that is due is built of the blocks of the source. -/
theorem poll_of_due {now : Duration} (due : scheduler.Due now)
    (grants : Nat → Bool) (ntpTimestamp : UInt64) (rtpTimestamp : UInt32)
    (receive : Option RtpReceiveState) :
    ∃ next, poll grants now ntpTimestamp rtpTimestamp (scheduler, receive) =
      match reception now (scheduler, receive) with
      | (after, .error error) => (after, .error error)
      | (after, .ok reports) =>
        ((( after.1.finish grants ntpTimestamp rtpTimestamp next reports).1, after.2),
          (after.1.finish grants ntpTimestamp rtpTimestamp next reports).2) := by
  obtain ⟨next, known⟩ := Option.isSome_iff_exists.1 due.2
  refine ⟨next, ?_⟩
  rw [poll, Effect.bind_of_ok (Effect.read_apply id _)]
  simp only [id_eq]
  rw [if_neg (Nat.not_lt.2 due.1), known]
  dsimp only
  have same : (reception now (scheduler, receive)).1.1 = scheduler := by
    cases receive with
    | none => rfl
    | some state =>
      unfold reception
      dsimp only
      split
      · rfl
      · rfl
  rw [Effect.bind_apply]
  rcases received : reception now (scheduler, receive) with ⟨after, error | reports⟩
  · rfl
  · dsimp only
    rw [received] at same
    obtain rfl : after.1 = scheduler := same
    rw [finish]
    cases described : after.1.description grants with
    | error error => rfl
    | ok description =>
      have read : (Effect.ofExcept ((Except.ok description).mapError .refused) :
          Polling SourceDescription) after = (after, .ok description) := rfl
      rw [Effect.bind_of_ok read]
      dsimp only
      cases built : after.1.scheduled grants ntpTimestamp rtpTimestamp reports description with
      | error error => rfl
      | ok report => rfl

/-- What a poll does with the source when a report is due. -/
inductive PollOutcome (scheduler : RtcpScheduler) (receive : Option RtpReceiveState)
    (grants : Nat → Bool) (now : Duration) :
    (RtcpScheduler × Option RtpReceiveState) ×
      Except (Fault RtcpSchedulerError) (Option ScheduledReport) → Prop
  | bare {report : ScheduledReport} {next : Duration}
      (unready : ∀ state ∈ receive, ¬state.Ready)
      (blocks : report.blocks = []) :
      PollOutcome scheduler receive grants now
        ((scheduler.advanced next, receive), .ok (some report))
  | refused {error : RtcpSchedulerError}
      (unready : ∀ state ∈ receive, ¬state.Ready) :
      PollOutcome scheduler receive grants now ((scheduler, receive), .error (.refused error))
  | overflowed {state : RtpReceiveState}
      (source : receive = some state) (uncountable : ¬state.sequence.Countable) :
      PollOutcome scheduler receive grants now ((scheduler, receive), .error .outOfBounds)
  | reported {state : RtpReceiveState} {block : ReceptionReport}
      {report : ScheduledReport} {next : Duration}
      (source : receive = some state) (ready : state.Ready)
      (countable : state.sequence.Countable)
      (inTime : state.InTime now) (granted : scheduler.Granted grants)
      (blocks : report.blocks = [block]) (describes : state.Describes now block) :
      PollOutcome scheduler receive grants now
        ((scheduler.advanced next, some state.closed), .ok (some report))
  | lost {state : RtpReceiveState} {error : RtcpSchedulerError}
      (source : receive = some state) (ready : state.Ready)
      (countable : state.sequence.Countable)
      (unfit : ¬(state.InTime now ∧ scheduler.Granted grants)) :
      PollOutcome scheduler receive grants now
        ((scheduler, some state.closed), .error (.refused error))

theorem poll_outcome {now : Duration}
    (short : scheduler.cname.length ≤ maxRtcpCnameBytes) (due : scheduler.Due now)
    (grants : Nat → Bool) (ntpTimestamp : UInt64) (rtpTimestamp : UInt32)
    (receive : Option RtpReceiveState) :
    PollOutcome scheduler receive grants now
      (poll grants now ntpTimestamp rtpTimestamp (scheduler, receive)) := by
  obtain ⟨next, polled⟩ := poll_of_due due grants ntpTimestamp rtpTimestamp receive
  rw [polled]
  by_cases ready : ∃ state, receive = some state ∧ state.Ready
  · obtain ⟨state, rfl, ready⟩ := ready
    have received : reception now (scheduler, some state) =
        ((scheduler, some (state.receptionReport now).1),
          ((state.receptionReport now).2.mapError (Fault.map .receiveState)).map ([·])) :=
      if_pos ready
    rcases RtpReceiveState.receptionReport_cases now ready with
      ⟨overflow, run⟩ | ⟨countable, late, run⟩ | ⟨countable, inTime, block, run, describes⟩
    · rw [received, run]
      exact .overflowed rfl overflow
    · rw [received, run]
      exact .lost rfl ready countable fun fit => late fit.1
    · rw [received, run]
      dsimp only [Except.mapError, Except.map]
      have few : [block].length ≤ maxReports := Nat.le_add_left 1 30
      rcases finish_cases short few grants ntpTimestamp rtpTimestamp next with
        ⟨granted, -, report, blocks, finished⟩ | ⟨refused, error, finished⟩
      · rw [finished]
        exact .reported rfl ready countable inTime granted blocks describes
      · rw [finished]
        exact .lost rfl ready countable fun fit => refused ⟨fit.2, fit.2.2⟩
  · have unready : ∀ state ∈ receive, ¬state.Ready := by
      intro state source stands
      exact ready ⟨state, source, stands⟩
    have received : reception now (scheduler, receive) = ((scheduler, receive), .ok []) := by
      cases receive with
      | none => rfl
      | some state => exact if_neg (unready state rfl)
    rw [received]
    dsimp only
    rcases finish_cases short (by decide : ([] : List ReceptionReport).length ≤ maxReports)
        grants ntpTimestamp rtpTimestamp next with
      ⟨granted, -, report, blocks, finished⟩ | ⟨refused, error, finished⟩
    · rw [finished]
      exact .bare unready blocks
    · rw [finished]
      exact .refused unready

/-- No open interval meets a sender report from the future or a refused list. -/
def Settles (scheduler : RtcpScheduler) (receive : Option RtpReceiveState)
    (grants : Nat → Bool) (now : Duration) : Prop :=
  scheduler.Due now → ∀ state ∈ receive, state.OpenInterval →
    state.InTime now ∧ scheduler.Granted grants

instance (scheduler : RtcpScheduler) (receive : Option RtpReceiveState)
    (grants : Nat → Bool) (now : Duration) :
    Decidable (scheduler.Settles receive grants now) :=
  inferInstanceAs (Decidable (_ → ∀ state ∈ _, _ → _))

/-- A failed poll leaves schedule and source as they were exactly when it loses no
interval. -/
theorem poll_atomic_iff (short : scheduler.cname.length ≤ maxRtcpCnameBytes)
    (grants : Nat → Bool) (now : Duration) (ntpTimestamp : UInt64) (rtpTimestamp : UInt32)
    (receive : Option RtpReceiveState) :
    (∀ error, (poll grants now ntpTimestamp rtpTimestamp (scheduler, receive)).2 =
          .error (.refused error) →
        (poll grants now ntpTimestamp rtpTimestamp (scheduler, receive)).1 = (scheduler, receive)) ↔
      scheduler.Settles receive grants now := by
  by_cases due : scheduler.Due now
  · have outcome := poll_outcome short due grants ntpTimestamp rtpTimestamp receive
    generalize poll grants now ntpTimestamp rtpTimestamp (scheduler, receive) = polled at outcome
    cases outcome with
    | bare unready blocks =>
      apply iff_of_true
      · intro error raised
        cases raised
      · intro _ state source opened
        exact absurd opened.1 (unready state source)
    | refused unready =>
      apply iff_of_true
      · intro error raised
        rfl
      · intro _ state source opened
        exact absurd opened.1 (unready state source)
    | overflowed source uncountable =>
      apply iff_of_true
      · intro error raised
        rfl
      · intro _ state found opened
        obtain rfl := Option.some.inj (source.symm.trans found)
        exact absurd opened.2.1 uncountable
    | reported source ready countable inTime granted blocks describes =>
      apply iff_of_true
      · intro error raised
        cases raised
      · intro _ state found opened
        obtain rfl := Option.some.inj (source.symm.trans found)
        exact ⟨inTime, granted⟩
    | lost source ready countable unfit =>
      subst source
      constructor
      · intro atomic _ state found opened
        obtain rfl := Option.some.inj found
        have same := congrArg Prod.snd (atomic _ rfl)
        exact absurd (RtpReceiveState.closed_eq_iff _ |>.1 (Option.some.inj same)) opened.2.2
      · intro settles error _
        by_contra changed
        refine unfit (settles due _ rfl ⟨ready, countable, fun same => ?_⟩)
        exact changed (by rw [(RtpReceiveState.closed_eq_iff _).2 same])
  · apply iff_of_true
    · intro error _
      exact (poll_of_early due grants ntpTimestamp rtpTimestamp receive).1
    · intro stands
      exact absurd stands due

end RtcpScheduler

end Rtp
end LiveAISIP
