import LiveAISIP.Rtp.ReportRuns

/-!
# The last sender report

A report block names the last sender report and the time since it came.  A compound
is accepted by the first source that it reports about, and then all of its sender
reports are noted, whatever source they are of.
-/

namespace LiveAISIP
namespace Rtp

open Fault
open Transaction (Duration)
open Run

/-- The delay is the whole number of units, cut to 32 bits. -/
theorem delaySinceSenderReport_eq (elapsed : Nat) : (delaySinceSenderReport elapsed).toNat =
      min (65536 * elapsed / 10 ^ 9) (2 ^ 32 - 1) := by
  have split : 65536 * elapsed / 10 ^ 9 =
      elapsed / 10 ^ 9 * 65536 + elapsed % 10 ^ 9 * 65536 / 10 ^ 9 := by
    have parts := Nat.div_add_mod elapsed (10 ^ 9)
    have scaled : 65536 * elapsed =
        elapsed % 10 ^ 9 * 65536 + 10 ^ 9 * (elapsed / 10 ^ 9 * 65536) := by
      omega
    rw [scaled, Nat.add_mul_div_left _ _ (by decide)]
    exact Nat.add_comm _ _
  have fraction : elapsed % 10 ^ 9 * 65536 / 10 ^ 9 < 65536 := by
    have small := Nat.mod_lt elapsed (by decide : 0 < 10 ^ 9)
    omega
  rw [split, delaySinceSenderReport]
  dsimp only
  split
  next long =>
    rw [Nat.min_eq_right (by omega)]
    rfl
  next short =>
    rw [Nat.min_eq_left (by omega), Nat.toUInt32_eq, UInt32.toNat_ofNat',
      Nat.mod_eq_of_lt (by omega)]

namespace RtpSession

variable {session start : RtpSession} {earlier : List ReportCall}

/-- The receive state after the last of some sender reports. -/
theorem noteReports_eq
    (arrival : Duration) (receive : RtpReceiveState) (packets : List RtcpPacket) :
    noteReports arrival receive packets =
      match (packets.filterMap senderReportOf).getLast? with
      | none => receive
      | some report =>
        receive.noteSenderReport (compactNtp report.information.senderInfo) arrival := by
  rw [noteReports]
  induction packets.filterMap senderReportOf using List.reverseRecOn with
  | nil => rfl
  | append_singleton reports report ih =>
    rw [List.foldl_append, ih, List.getLast?_concat]
    cases reports.getLast? with
    | none => rfl
    | some last => rfl

/-- The report is of the active source. -/
def ownReport (session : RtpSession) (report : SenderReport) : Bool :=
  session.source.active == some report.information.senderSsrc

/-- The packet is no sender report of another source. -/
def ofActive (session : RtpSession) (packet : RtcpPacket) : Bool :=
  (senderReportOf packet).all session.ownReport

/-- The last sender report of a compound, if there is one, is of the active source. -/
def OwnReports (session : RtpSession) : ReportCall → Prop
  | .media (.ingestRtcp grants _ datagram _ protection) =>
    ∀ report ∈ ((session.compoundOf grants datagram protection).filterMap
        senderReportOf).getLast?, session.source.active = some report.information.senderSsrc
  | _ => True

instance (session : RtpSession) (call : ReportCall) : Decidable (session.OwnReports call) :=
  match call with
  | .media (.ingestRtcp grants _ datagram _ protection) =>
    inferInstanceAs (Decidable (∀ report ∈
      ((session.compoundOf grants datagram protection).filterMap senderReportOf).getLast?,
      session.source.active = some report.information.senderSsrc))
  | .media (.configureTelephoneEvent _) | .media (.configureRtcp ..)
  | .media (.ingestRtp ..) | .media .popPlayoutPacket
  | .noteRtpSent _ | .pollRtcp .. => inferInstanceAs (Decidable True)

/-- The sender reports of other sources change nothing. -/
def ForeignIgnored (session : RtpSession) : ReportCall → Prop
  | .media (.ingestRtcp grants networkSource datagram arrival protection) =>
    (step session (.ingestRtcp grants networkSource datagram arrival
        protection)).1.receive.lastSenderReport =
      (noteReports arrival session.receive
        ((session.compoundOf grants datagram protection).filter session.ofActive)).lastSenderReport
  | _ => True

instance (session : RtpSession) (call : ReportCall) : Decidable (session.ForeignIgnored call) :=
  match call with
  | .media (.ingestRtcp grants networkSource datagram arrival protection) =>
    inferInstanceAs (Decidable (
      (step session (.ingestRtcp grants networkSource datagram arrival
          protection)).1.receive.lastSenderReport =
        (noteReports arrival session.receive
          ((session.compoundOf grants datagram protection).filter
            session.ofActive)).lastSenderReport))
  | .media (.configureTelephoneEvent _) | .media (.configureRtcp ..)
  | .media (.ingestRtp ..) | .media .popPlayoutPacket
  | .noteRtpSent _ | .pollRtcp .. => inferInstanceAs (Decidable True)

/-- A sender report of the source came earlier in the run and left the reference. -/
def Origin (start : RtpSession) (earlier : List ReportCall) (ssrc : UInt32)
    (reference : SenderReportReference) : Prop :=
  ∃ before after grants networkSource datagram protection report,
    earlier = before ++ .media (.ingestRtcp grants networkSource datagram
      reference.receivedAt protection) :: after ∧
    RtcpPacket.senderReport report ∈
      (Run.after reportStep start before).compoundOf grants datagram protection ∧
    report.information.senderSsrc = ssrc ∧
    compactNtp report.information.senderInfo = reference.compactNtp

/-- The block names a sender report of its source, which is the active one, and the time
since it came. -/
def Traced (start : RtpSession) (earlier : List ReportCall) (now : Duration)
    (block : ReceptionReport) : Prop :=
  (after reportStep start earlier).source.active = some block.sourceSsrc ∧
    ∃ receivedAt : Duration,
      Origin start earlier block.sourceSsrc ⟨block.lastSenderReport, receivedAt⟩ ∧
      receivedAt.asNanos ≤ now.asNanos ∧
      block.delaySinceLastSenderReport.toNat =
        min (65536 * (now.asNanos - receivedAt.asNanos) / 10 ^ 9) (2 ^ 32 - 1)

/-- All blocks of a poll that name a sender report are traced to it. -/
def BlocksTraced (start : RtpSession) (earlier : List ReportCall) : ReportCall → Prop
  | .pollRtcp grants now ntpTimestamp rtpTimestamp =>
    ∀ block ∈ (reportStep (after reportStep start earlier)
        (.pollRtcp grants now ntpTimestamp rtpTimestamp)).2.blocks,
      block.lastSenderReport ≠ 0 → Traced start earlier now block
  | _ => True

/-- The last of some reports is the last of those that pass where it passes itself. -/
theorem getLast?_filter_of_getLast?
    {items : List α} {accepts : α → Bool} (passes : ∀ last ∈ items.getLast?, accepts last = true) :
    (items.filter accepts).getLast? = items.getLast? := by
  induction items using List.reverseRecOn with
  | nil => rfl
  | append_singleton items last ih =>
    have accepted := passes last List.getLast?_concat
    rw [List.filter_append, List.filter_cons_of_pos accepted, List.filter_nil,
      List.getLast?_concat, List.getLast?_concat]

theorem filterMap_filter_ofActive (session : RtpSession) (packets : List RtcpPacket) :
    (packets.filter session.ofActive).filterMap senderReportOf =
      (packets.filterMap senderReportOf).filter session.ownReport := by
  rw [List.filterMap_filter, List.filter_filterMap]
  congr
  funext packet
  rw [ofActive]
  cases senderReportOf packet with
  | none => rfl
  | some report =>
    simp only [Option.all_some, Option.filter_some]

theorem foreignIgnored_of_own {call : ReportCall} (own : session.OwnReports call) :
    session.ForeignIgnored call := by
  cases call with
  | media call =>
    cases call with
    | ingestRtcp grants networkSource datagram arrival protection =>
      have receive : (step session (.ingestRtcp grants networkSource datagram arrival
          protection)).1.receive = noteReports arrival session.receive
            (session.compoundOf grants datagram protection) :=
        congrArg Stream.receive (stream_step session _).1
      rw [ForeignIgnored, receive, noteReports_eq, noteReports_eq,
        filterMap_filter_ofActive, getLast?_filter_of_getLast?]
      intro last found
      exact beq_iff_eq.2 (own last found)
    | _ => trivial
  | _ => trivial

theorem Origin.append {ssrc : UInt32}
    {reference : SenderReportReference} (origin : Origin start earlier ssrc reference)
    (call : ReportCall) :
    Origin start (earlier ++ [call]) ssrc reference := by
  obtain ⟨before, after, grants, networkSource, datagram, protection, report, split,
    facts⟩ := origin
  refine ⟨before, after ++ [call], grants, networkSource, datagram, protection, report, ?_, facts⟩
  rw [split, List.append_assoc, List.cons_append]

/-- The bound source is the active one, and its last sender report is its own. -/
structure Sourced (start : RtpSession) (earlier : List ReportCall) (stream : Stream) :
    Prop where
  bound : stream.receive.boundSsrc = stream.active
  reference : ∀ reference ∈ stream.receive.lastSenderReport,
    ∃ ssrc, stream.active = some ssrc ∧ Origin start earlier ssrc reference

theorem Sourced.append {stream : Stream}
    (sourced : Sourced start earlier stream) (call : ReportCall) :
    Sourced start (earlier ++ [call]) stream where
  bound := sourced.bound
  reference := by
    intro reference noted
    obtain ⟨ssrc, active, origin⟩ := sourced.reference reference noted
    exact ⟨ssrc, active, origin.append call⟩

theorem sourced_freshStream
    (start : RtpSession) (earlier : List ReportCall) (session : RtpSession) (ssrc : UInt32) :
    Sourced start earlier (session.freshStream ssrc) where
  bound := rfl
  reference := by
    intro reference noted
    cases noted

/-- A packet that reaches a stream keeps its source. -/
theorem Sourced.observe {stream : Stream}
    (sourced : Sourced start earlier stream) {packet : RtpPacket}
    (active : stream.active = some packet.header.ssrc) (session : RtpSession) (arrival : Duration) :
    Sourced start earlier (stream.observe session packet arrival) := by
  have check := session.checked_checkStream stream.receive packet arrival
  constructor
  · rcases check.boundSsrc with same | bound
    · exact same.trans sourced.bound
    · refine bound.trans ?_
      rw [sourced.bound, active]
      exact active.symm
  · intro reference noted
    have noted : (session.checkStream stream.receive packet arrival).1.lastSenderReport =
        some reference := noted
    rcases check.lastSenderReport with same | cleared
    · exact sourced.reference reference (same ▸ noted)
    · rw [cleared] at noted
      cases noted

/-- A packet reaches the stream of its own source. -/
theorem active_of_reached {grants : Nat → Bool} {datagram : List UInt8}
    {protection : PacketProtection} {fresh : Bool} {packet : RtpPacket}
    (reached : session.arrivalOf grants datagram protection = .reached fresh packet) :
    (session.checking fresh packet).active = some packet.header.ssrc := by
  rw [arrivalOf] at reached
  split at reached
  · cases reached
  · split at reached
    · cases reached
    · split at reached
      · cases reached
      next parsed _ =>
        split at reached
        next current =>
          cases reached
          rcases session.source.observe_cases packet.header.ssrc
              packet.header.sequenceNumber with
            ⟨active, -⟩ | ⟨-, rejected | ⟨observed, required, probation⟩⟩ | ⟨-, -, bound⟩ |
              ⟨-, switched⟩
          · exact active
          · rw [current] at rejected
            cases rejected
          · rw [current] at probation
            cases probation
          · rw [current] at bound
            cases bound
          · rw [current] at switched
            cases switched
        · cases reached
          rfl
        · cases reached
        · cases reached

/-- A sender report of the active source becomes the reference. -/
theorem Sourced.noteReports
    (reached : after reportStep start earlier = session)
    (sourced : Sourced start earlier session.stream)
    {grants : Nat → Bool} {networkSource : SocketAddress} {datagram : List UInt8}
    {arrival : Duration} {protection : PacketProtection}
    (own : session.OwnReports
      (.media (.ingestRtcp grants networkSource datagram arrival protection))) :
    Sourced start
      (earlier ++ [.media (.ingestRtcp grants networkSource datagram arrival protection)])
      (session.streamStep (.ingestRtcp grants networkSource datagram arrival protection)) := by
  rw [streamStep, noteReports_eq]
  cases last : ((session.compoundOf grants datagram protection).filterMap
      senderReportOf).getLast? with
  | none => exact sourced.append _
  | some report =>
    refine ⟨sourced.bound, ?_⟩
    intro reference noted
    have noted : (if compactNtp report.information.senderInfo = 0 then none
        else some ⟨compactNtp report.information.senderInfo, arrival⟩) = some reference := noted
    split at noted
    · cases noted
    · cases noted
      refine ⟨report.information.senderSsrc, own report last, earlier, [], grants,
        networkSource, datagram, protection, report, rfl, ?_, rfl, rfl⟩
      obtain ⟨packet, found, named⟩ := List.mem_filterMap.1 (List.mem_of_getLast? last)
      rw [reached]
      cases packet with
      | senderReport other =>
        cases named
        exact found
      | _ => cases named

/-- Every call keeps the reference with the active source. -/
theorem sourced_reportStep
    (reached : after reportStep start earlier = session) (named : session.Named)
    (sourced : Sourced start earlier session.stream) {call : ReportCall}
    (own : session.OwnReports call) :
    Sourced start (earlier ++ [call]) (reportStep session call).1.stream := by
  cases call with
  | media call =>
    have stream : (reportStep session (.media call)).1.stream = session.streamStep call :=
      (stream_step session call).1
    rw [stream]
    cases call with
    | ingestRtp grants networkSource datagram arrival protection =>
      rw [streamStep]
      cases arrived : session.arrivalOf grants datagram protection with
      | unseen => exact sourced.append _
      | switched packet => exact sourced_freshStream _ _ _ _
      | reached fresh packet =>
        have active := active_of_reached arrived
        rw [streamAfter]
        cases fresh with
        | true => exact (sourced_freshStream _ _ _ _).observe active _ _
        | false => exact (sourced.append _).observe active _ _
    | ingestRtcp grants networkSource datagram arrival protection =>
      exact sourced.noteReports reached own
    | _ => exact sourced.append _
  | noteRtpSent payloadOctets => exact sourced.append _
  | pollRtcp grants now ntpTimestamp rtpTimestamp =>
    obtain ⟨same, -, polled⟩ := sessionPoll named grants now ntpTimestamp rtpTimestamp
    have stream : (reportStep session (.pollRtcp grants now ntpTimestamp rtpTimestamp)).1.stream =
        { session.stream with
          receive :=
            (pollRtcp grants now ntpTimestamp rtpTimestamp session).1.receive } := by
      rw [reportStep, same]
      rfl
    rw [stream]
    generalize (pollRtcp grants now ntpTimestamp rtpTimestamp session).1.receive = receive,
      (ReportReply.polled
        (pollRtcp grants now ntpTimestamp rtpTimestamp session).2).blocks = blocks at polled ⊢
    cases polled with
    | quiet => exact sourced.append _
    | reported ready countable describes =>
      exact ⟨sourced.bound, (sourced.append _).reference⟩
    | lost ready countable unfit =>
      exact ⟨sourced.bound, (sourced.append _).reference⟩

/-- A block that names a sender report gives the reference of the state. -/
theorem reference_of_describes
    {state : RtpReceiveState} {now : Duration} {block : ReceptionReport}
    (describes : state.Describes now block) (named : block.lastSenderReport ≠ 0) :
    ∃ receivedAt : Duration, state.lastSenderReport = some ⟨block.lastSenderReport, receivedAt⟩ ∧
      receivedAt.asNanos ≤ now.asNanos ∧
      block.delaySinceLastSenderReport.toNat =
        min (65536 * (now.asNanos - receivedAt.asNanos) / 10 ^ 9) (2 ^ 32 - 1) := by
  have timing := describes.timing
  rw [RtpReceiveState.senderReportTiming] at timing
  cases noted : state.lastSenderReport with
  | none =>
    rw [noted] at timing
    have zero : (0, 0) = (block.lastSenderReport, block.delaySinceLastSenderReport) :=
      Except.ok.inj timing
    exact absurd (congrArg Prod.fst zero).symm named
  | some reference =>
    rw [noted] at timing
    dsimp only at timing
    split at timing
    · cases timing
    next late =>
      have times := Except.ok.inj timing
      have stamp : reference.compactNtp = block.lastSenderReport := congrArg Prod.fst times
      have delay := congrArg Prod.snd times
      refine ⟨reference.receivedAt, by rw [← stamp], Nat.not_lt.1 late, ?_⟩
      rw [← delaySinceSenderReport_eq]
      exact congrArg UInt32.toNat delay.symm

theorem blocksTraced_of_sourced
    (named : (after reportStep start earlier).Named)
    (sourced : Sourced start earlier (after reportStep start earlier).stream)
    (call : ReportCall) :
    BlocksTraced start earlier call := by
  cases call with
  | pollRtcp grants now ntpTimestamp rtpTimestamp =>
    intro block sent stamped
    obtain ⟨-, -, polled⟩ := sessionPoll named grants now ntpTimestamp rtpTimestamp
    have sent : block ∈ (ReportReply.polled (pollRtcp grants now ntpTimestamp rtpTimestamp
        (after reportStep start earlier)).2).blocks := sent
    generalize (pollRtcp grants now ntpTimestamp rtpTimestamp
        (after reportStep start earlier)).1.receive = receive,
      (ReportReply.polled (pollRtcp grants now ntpTimestamp rtpTimestamp
        (after reportStep start earlier)).2).blocks = blocks at polled sent
    cases polled with
    | quiet => cases sent
    | reported ready countable describes =>
      rw [List.mem_singleton] at sent
      subst sent
      obtain ⟨receivedAt, noted, order, delay⟩ := reference_of_describes describes stamped
      have active : (after reportStep start earlier).source.active = some block.sourceSsrc :=
        sourced.bound.symm.trans describes.source
      obtain ⟨ssrc, bound, origin⟩ := sourced.reference _ noted
      obtain rfl := Option.some.inj (bound.symm.trans active)
      exact ⟨active, receivedAt, origin, order, delay⟩
    | lost ready countable unfit => cases sent
  | _ => trivial

/-- In a run whose compounds each end with a sender report of the active source, every
block that names a sender report names one of its source, and the others change nothing. -/
theorem senderReports_traced
    {grants : Nat → Bool} {receiveConfig : RtpReceiveConfig}
    {sourcePolicy : SourcePolicy} {endpoints : SymmetricEndpoints}
    {security : MediaSecurityPolicy} {liveness : MediaLiveness}
    {capacity maximum : Nat} {start : RtpSession}
    (created : newWithPayloadLimit grants receiveConfig sourcePolicy endpoints security
      liveness capacity maximum = .ok start)
    (calls : List ReportCall)
    (own : AllSteps (fun earlier call => OwnReports (after reportStep start earlier) call) calls) :
    AllSteps
      (fun earlier call => BlocksTraced start earlier call ∧
        ForeignIgnored (after reportStep start earlier) call) calls := by
  intro earlier call later split
  have initial : Sourced start [] start.stream := by
    rw [(stream_new created).1]
    refine ⟨rfl, ?_⟩
    intro reference noted
    cases noted
  have before : AllSteps
      (fun earlier call => OwnReports (after reportStep start earlier) call) earlier :=
    (split ▸ own).of_append
  have sourced : Sourced start earlier (after reportStep start earlier).stream :=
    guarded_invariant
      (fun earlier (session : RtpSession) => Sourced start earlier session.stream) initial
      (fun earlier call own sourced =>
        sourced_reportStep rfl (named_run created earlier) sourced own) earlier before
  exact ⟨blocksTraced_of_sourced (named_run created earlier) sourced call,
    foreignIgnored_of_own (own earlier call later split)⟩

/-- A compound of the known source at two seconds that also holds a report of source 8. -/
def sampleForeignReport : Call := .ingestRtcp (fun _ => true) sampleEndpoint
    [0x80, 200, 0, 6, 0, 0, 0, 7, 0, 0, 0, 1, 0, 0, 0, 0, 0, 0, 0, 0, 0, 0, 0, 0, 0, 0, 0, 0,
      0x80, 200, 0, 6, 0, 0, 0, 8, 0, 0, 0, 2, 0, 0, 0, 0, 0, 0, 0, 0, 0, 0, 0, 0, 0, 0, 0, 0,
      0x81, 202, 0, 2, 0, 0, 0, 7, 1, 1, 97, 0]
    (.fromSecs 2) .plain

theorem senderReports_traced_poll :
    ∃ start, sampleSession = .ok start ∧ BlocksTraced start sampleReported (samplePoll 3) ∧
      (reportStep (after reportStep start sampleReported) (samplePoll 3)).2.blocks.map
        (fun block => (block.sourceSsrc, block.lastSenderReport,
          block.delaySinceLastSenderReport)) = [(7, 0x10000, 65536)] := by
  have tracing := fun start (created : sampleSession = .ok start) calls =>
    senderReports_traced created calls
  refine ⟨_, rfl, (tracing _ rfl (sampleReported ++ [samplePoll 3]) ?_ sampleReported
    (samplePoll 3) [] rfl).1, by decide +kernel⟩
  rw [allSteps_concat, show sampleReported = [] ++
      [.media (.configureRtcp (fun _ => true) (.fromSecs 1) 9 [97] .strict (.fromSecs 0))] ++
      [.media (sampleDatagram 10 1)] ++ [.media (sampleDatagram 11 2)] ++
      [.media sampleReport] from rfl,
    allSteps_concat, allSteps_concat, allSteps_concat, allSteps_concat]
  exact ⟨⟨⟨⟨⟨allSteps_nil _, trivial⟩, trivial⟩, trivial⟩, by decide +kernel⟩, trivial⟩

/-- The report of source 8 becomes the reference, and the block about source 7 names it. -/
theorem foreign_report_changes_reference :
    ∃ start, sampleSession = .ok start ∧ ¬ForeignIgnored (after reportStep start sampleReported)
        (.media sampleForeignReport) ∧
      (reportStep (after reportStep start
          (sampleReported ++ [.media sampleForeignReport])) (samplePoll 3)).2.blocks.map
        (fun block => (block.sourceSsrc, block.lastSenderReport)) = [(7, 0x20000)] :=
  ⟨_, rfl, by decide +kernel, by decide +kernel⟩

end RtpSession
end Rtp
end LiveAISIP
