import LiveAISIP.Rtp.DelayedLoss
import LiveAISIP.Rtp.StreamSteps

/-!
# Statistics at a restart of the sequence

Audio packets and telephone events share one sequence tracker, and either kind
of packet may confirm that the sequence began anew.  Only the audio path then
resets the jitter and the last sender report, and neither path resets the delayed
loss.
-/

namespace LiveAISIP
namespace Rtp

open Transaction (Duration)
open Run

namespace RtpSession

open DelayedLossTracker (extendNear)

/-- The packet that a call brings to the stream, and when. -/
def reachingPacket (session : RtpSession) : Call → Option (Bool × RtpPacket × Duration)
  | .ingestRtp grants _ datagram arrival protection =>
    match session.arrivalOf grants datagram protection with
    | .reached fresh packet => some (fresh, packet, arrival)
    | _ => none
  | _ => none

/-- The packet that makes the sequence tracker report a restart in a call. -/
def restartingPacket (session : RtpSession) (call : Call) : Option (RtpPacket × Duration) :=
  (session.reachingPacket call).bind fun (fresh, packet, arrival) =>
    if (session.checkStream (session.checking fresh packet).receive packet arrival).2 =
        some .sourceRestarted then some (packet, arrival)
    else none

/-- The transit of an audio packet, the only baseline that the jitter estimator
may hold after its arrival began the sequence anew. -/
def ownTransit (session : RtpSession) (packet : RtpPacket) (arrival : Duration) : Option UInt32 :=
  if session.isEvent packet then none
  else (session.receive.config.clockRate.ticksForDuration arrival).toOption.map
    fun ticks => ticks.toUInt32 - packet.header.timestamp

/-- All statistics begin anew with a packet. -/
structure Renewed (before after : RtpSession) (packet : RtpPacket) (arrival : Duration) :
    Prop where
  jitter : after.receive.jitter.previousTransit = before.ownTransit packet arrival
  lastSenderReport : after.receive.lastSenderReport = none
  delayedLoss : after.delayedLoss.counted ≤ before.delayedLoss.counted

/-- The call renews all statistics when its packet begins the sequence anew. -/
def RestartsRenew (session : RtpSession) (call : Call) : Prop :=
  ∀ packet arrival, session.restartingPacket call = some (packet, arrival) →
    Renewed session (step session call).1 packet arrival

instance (before after : RtpSession) (packet : RtpPacket) (arrival : Duration) :
    Decidable (Renewed before after packet arrival) :=
  decidable_of_iff
    (after.receive.jitter.previousTransit = before.ownTransit packet arrival ∧
      after.receive.lastSenderReport = none ∧
      after.delayedLoss.counted ≤ before.delayedLoss.counted)
    ⟨fun facts => ⟨facts.1, facts.2.1, facts.2.2⟩,
      fun renewed => ⟨renewed.jitter, renewed.lastSenderReport, renewed.delayedLoss⟩⟩

instance (session : RtpSession) (call : Call) : Decidable (session.RestartsRenew call) :=
  decidable_of_iff
    (∀ found ∈ session.restartingPacket call, Renewed session (step session call).1 found.1 found.2)
    ⟨fun all packet arrival restarted => all (packet, arrival) restarted,
      fun renews found restarted => renews found.1 found.2 restarted⟩

/-- Nothing is left over from before a restart: an event finds no jitter baseline
and no sender report, and a counted packet passes no number. -/
def NothingLeft (session : RtpSession) (packet : RtpPacket) (arrival : Duration) : Prop :=
  (session.isEvent packet → session.receive.jitter.previousTransit = none ∧
      session.receive.lastSenderReport = none) ∧
  (session.countsLoss session.receive packet arrival →
    ∀ top, session.delayedLoss.highest = some top →
      extendNear packet.header.sequenceNumber top ≤ top + 1)

/-- Each restart finds nothing left over. -/
def RestartsClean (session : RtpSession) (call : Call) : Prop :=
  ∀ packet arrival, session.restartingPacket call = some (packet, arrival) →
    session.NothingLeft packet arrival

end RtpSession

/-- The last transit is the next baseline. -/
theorem JitterEstimator.previousTransit_observe
    (estimator : JitterEstimator) (arrivalTimestamp rtpTimestamp : UInt32) :
    (estimator.observe arrivalTimestamp rtpTimestamp).1.previousTransit =
      some (arrivalTimestamp - rtpTimestamp) := by
  rw [observe]
  cases estimator.previousTransit with
  | none => rfl
  | some previous =>
    dsimp only
    split
    · rfl
    · rfl

/-- A source that was not validated yet does not begin anew. -/
theorem SequenceTracker.not_restarted_of_unvalidated
    {tracker : SequenceTracker} (unvalidated : tracker.validated = false) (sequence : UInt16) :
    (tracker.observe sequence).2 ≠ .sourceRestarted := by
  rw [observe_unvalidated unvalidated, observeProbation]
  split
  · simp
  · split
    · dsimp only
      split
      · simp
      · simp
    · simp

namespace RtpReceiveState

/-- What a checked packet of the telephone-event stream does. -/
theorem observeAuxiliary_of_accepted
    {state : RtpReceiveState} {packet : RtpPacket} {disposition : SequenceDisposition}
    (checked : (state.observeAuxiliary packet).2.disposition = some disposition) :
    (state.sequence.observe packet.header.sequenceNumber).2 = disposition ∧
      (state.observeAuxiliary packet).1.sequence =
        (state.sequence.observe packet.header.sequenceNumber).1 ∧
      (state.observeAuxiliary packet).1.jitter = state.jitter ∧
      (state.observeAuxiliary packet).1.lastSenderReport = state.lastSenderReport := by
  rw [observeAuxiliary] at checked ⊢
  split at checked
  · cases checked
  next bound =>
    rw [if_neg bound]
    dsimp only at checked ⊢
    split at checked
    next rejected =>
      rw [if_pos rejected]
      exact ⟨Option.some.inj checked, rfl, rfl, rfl⟩
    next accepted =>
      rw [if_neg accepted]
      exact ⟨Option.some.inj checked, rfl, rfl, rfl⟩

theorem jitter_observeAdmitted
    (state : RtpReceiveState) (packet : RtpPacket) (arrivalTimestamp : UInt32)
    (disposition : SequenceDisposition) :
    (state.observeAdmitted packet arrivalTimestamp disposition).1.jitter =
      ((if disposition = .sourceRestarted then state.restart else state).jitter.observe
        arrivalTimestamp packet.header.timestamp).1 :=
  rfl

/-- What an audio packet does that begins the sequence anew. -/
theorem observe_of_restarted
    {state : RtpReceiveState} {packet : RtpPacket} {arrival : Duration}
    (checked : (state.observe packet arrival).2.toOption.bind
      ReceivePacketOutcome.disposition = some .sourceRestarted) :
    (state.observe packet arrival).1.lastSenderReport = none ∧
      (state.observe packet arrival).1.jitter.previousTransit =
        (state.config.clockRate.ticksForDuration arrival).toOption.map
          fun ticks => ticks.toUInt32 - packet.header.timestamp := by
  rw [observe] at checked ⊢
  split at checked
  · cases checked
  next typed =>
    split at checked
    · cases checked
    next bound =>
      rw [if_neg typed, if_neg bound]
      dsimp only at checked ⊢
      cases ticked : state.config.clockRate.ticksForDuration arrival with
      | error error =>
        rw [ticked] at checked
        cases checked
      | ok ticks =>
        rw [ticked] at checked
        dsimp only at checked ⊢
        split at checked
        next rejected =>
          have same : (state.sequence.observe packet.header.sequenceNumber).2 =
              .sourceRestarted := Option.some.inj checked
          rw [same] at rejected
          exact absurd rfl rejected
        next accepted =>
          have same : (state.sequence.observe packet.header.sequenceNumber).2 =
              .sourceRestarted := Option.some.inj checked
          rw [if_neg accepted, same]
          refine ⟨rfl, ?_⟩
          rw [jitter_observeAdmitted]
          exact JitterEstimator.previousTransit_observe _ _ _

end RtpReceiveState

namespace RtpSession

open DelayedLossTracker (extendNear)

variable {session : RtpSession} {packet : RtpPacket} {arrival : Duration}

/-- A packet whose sequence number was checked had its number observed. -/
theorem sequence_of_checkStream {receive : RtpReceiveState} {disposition : SequenceDisposition}
    (checked : (session.checkStream receive packet arrival).2 = some disposition) :
    (receive.sequence.observe packet.header.sequenceNumber).2 = disposition ∧
      (session.checkStream receive packet arrival).1.sequence =
        (receive.sequence.observe packet.header.sequenceNumber).1 := by
  have check := session.checked_checkStream receive packet arrival
  rw [checked] at check
  exact ⟨check.disposition disposition rfl, check.sequence⟩

/-- Only the packets of a bound source restart its sequence. -/
theorem restartingPacket_eq_some {call : Call}
    (restarted : session.restartingPacket call = some (packet, arrival)) :
    session.streamStep call = session.stream.observe session packet arrival ∧
      (session.checkStream session.receive packet arrival).2 = some .sourceRestarted := by
  cases call with
  | ingestRtp grants networkSource datagram arrived protection =>
    rw [restartingPacket, reachingPacket] at restarted
    simp only [streamStep]
    cases reached : session.arrivalOf grants datagram protection with
    | unseen =>
      rw [reached] at restarted
      cases restarted
    | switched other =>
      rw [reached] at restarted
      cases restarted
    | reached fresh other =>
      simp only [reached, Option.bind_some, Option.ite_none_right_eq_some,
        Option.some.injEq, Prod.mk.injEq] at restarted
      obtain ⟨checked, rfl, rfl⟩ := restarted
      cases fresh with
      | true =>
        have observed := sequence_of_checkStream checked
        exact absurd observed.1 (SequenceTracker.not_restarted_of_unvalidated rfl _)
      | false => exact ⟨rfl, checked⟩
  | _ => cases restarted

/-- A restart renews the statistics exactly when nothing was left over. -/
theorem renewed_iff {call : Call}
    (waits : session.delayedLoss.Waits)
    (restarted : session.restartingPacket call = some (packet, arrival)) :
    Renewed session (step session call).1 packet arrival ↔ session.NothingLeft packet arrival := by
  obtain ⟨after, checked⟩ := restartingPacket_eq_some restarted
  have stream := (stream_step session call).1
  rw [after] at stream
  have receive : (step session call).1.receive =
      (session.checkStream session.receive packet arrival).1 := congrArg Stream.receive stream
  have loss : (step session call).1.delayedLoss =
      if session.countsLoss session.receive packet arrival then
        session.delayedLoss.observe packet.header.sequenceNumber
      else session.delayedLoss := congrArg Stream.delayedLoss stream
  have lossless : (step session call).1.delayedLoss.counted ≤ session.delayedLoss.counted ↔
      (session.countsLoss session.receive packet arrival →
        ∀ top, session.delayedLoss.highest = some top →
          extendNear packet.header.sequenceNumber top ≤ top + 1) := by
    rw [loss]
    split
    next counts => simpa [counts] using (waits.observe packet.header.sequenceNumber).2
    next skipped => simp [skipped]
  cases event : session.isEvent packet with
  | true =>
    rw [checkStream, if_pos event] at checked receive
    obtain ⟨-, -, jitter, report⟩ := RtpReceiveState.observeAuxiliary_of_accepted checked
    constructor
    · intro renewed
      refine ⟨fun _ => ⟨?_, ?_⟩, lossless.1 renewed.delayedLoss⟩
      · rw [← jitter, ← receive, renewed.jitter, ownTransit, if_pos event]
      · rw [← report, ← receive, renewed.lastSenderReport]
    · intro nothing
      refine ⟨?_, ?_, lossless.2 nothing.2⟩
      · rw [receive, jitter, ownTransit, if_pos event]
        exact (nothing.1 event).1
      · rw [receive, report]
        exact (nothing.1 event).2
  | false =>
    rw [checkStream, if_neg (by simp [event])] at checked receive
    obtain ⟨report, jitter⟩ := RtpReceiveState.observe_of_restarted checked
    constructor
    · intro renewed
      exact ⟨by simp [event], lossless.1 renewed.delayedLoss⟩
    · intro nothing
      refine ⟨?_, ?_, lossless.2 nothing.2⟩
      · rw [receive, jitter, ownTransit, if_neg (by simp [event])]
      · rw [receive, report]

/-- The delayed loss of every session in a run waits only for passed numbers. -/
theorem waits_step (waits : session.delayedLoss.Waits) (call : Call) :
    (step session call).1.delayedLoss.Waits := by
  have stream := congrArg Stream.delayedLoss (stream_step session call).1
  change (step session call).1.delayedLoss = _ at stream
  rw [stream]
  cases call with
  | ingestRtp grants networkSource datagram arrival protection =>
    simp only [streamStep]
    cases session.arrivalOf grants datagram protection with
    | unseen => exact waits
    | switched packet => exact .empty rfl
    | reached fresh packet =>
      have base : (session.checking fresh packet).delayedLoss.Waits := by
        cases fresh with
        | true => exact .empty rfl
        | false => exact waits
      simp only [streamAfter, Stream.observe]
      split
      · exact (base.observe _).1
      · exact base
  | _ => exact waits

/-- In every run each restart of the sequence, by an audio packet or by an event,
renews all statistics exactly when each finds nothing left over. -/
theorem restarts_renew_iff
    {grants : Nat → Bool} {receiveConfig : RtpReceiveConfig}
    {sourcePolicy : SourcePolicy} {endpoints : SymmetricEndpoints}
    {security : MediaSecurityPolicy} {liveness : MediaLiveness}
    {capacity maximum : Nat} {start : RtpSession}
    (created : newWithPayloadLimit grants receiveConfig sourcePolicy endpoints security
      liveness capacity maximum = .ok start)
    (calls : List Call) :
    AllSteps (fun earlier call => RestartsRenew (after step start earlier) call)
        calls ↔
      AllSteps (fun earlier call => RestartsClean (after step start earlier) call) calls := by
  apply allSteps_congr
  intro earlier call
  have initial : start.delayedLoss.Waits :=
    .empty (congrArg Stream.delayedLoss (stream_new created).1)
  have waits : (after step start earlier).delayedLoss.Waits :=
    invariant (fun session : RtpSession => session.delayedLoss.Waits) initial
      (fun session call waits => waits_step waits call) earlier
  apply forall_congr'
  intro packet
  apply forall_congr'
  intro arrival
  apply imp_congr_right
  intro restarted
  exact renewed_iff waits restarted

/-- A packet with a payload type, the high octet of its number and two low ones. -/
def samplePacket (payloadType high low : UInt8) : Call := .ingestRtp (fun _ => true) sampleEndpoint
    [0x80, payloadType, high, low, 0, 0, 0, low, 0, 0, 0, 7, 1, 10, 0, 160]
    (.fromSecs 1) .plain

theorem sampleEventType_le : (101 : UInt8) ≤ 127 := by decide

theorem sampleEventRate_pos : 0 < 8000 := by decide

/-- Audio packets 10 and 11, then a jump to number 0x2000. -/
def sampleJump (payloadType : UInt8) : List Call :=
  [.configureTelephoneEvent ⟨101, 8000, 0xffff, sampleEventType_le, sampleEventRate_pos⟩,
    samplePacket 0 0 10, samplePacket 0 0 11, samplePacket payloadType 0x20 0]

/-- A restart at a lower number passes no packet. -/
theorem restarts_renew_iff_lower :
    ∃ start, sampleSession = .ok start ∧
      AllSteps (fun earlier call => RestartsClean (after step start earlier) call)
        [samplePacket 0 0x20 0, samplePacket 0 0x20 1, samplePacket 0 0 10,
          samplePacket 0 0 11] := by
  have renewing := fun start (created : sampleSession = .ok start) calls =>
    restarts_renew_iff created calls
  refine ⟨_, rfl, ?_⟩
  rw [← renewing _ rfl, show [samplePacket 0 0x20 0, samplePacket 0 0x20 1,
    samplePacket 0 0 10, samplePacket 0 0 11] = [] ++ [samplePacket 0 0x20 0] ++
      [samplePacket 0 0x20 1] ++ [samplePacket 0 0 10] ++ [samplePacket 0 0 11] from rfl,
    allSteps_concat, allSteps_concat, allSteps_concat, allSteps_concat]
  exact ⟨⟨⟨⟨allSteps_nil _, by decide +kernel⟩, by decide +kernel⟩,
    by decide +kernel⟩, by decide +kernel⟩

/-- When the packet 0x2001 confirms the jump, the jump counts as lost, and after an
event the jitter estimator also keeps its baseline. -/
theorem restarts_keep_statistics :
    ∃ start, sampleSession = .ok start ∧
      ¬RestartsRenew (after step start (sampleJump 0)) (samplePacket 0 0x20 1) ∧
      ¬RestartsRenew (after step start (sampleJump 101)) (samplePacket 101 0x20 1) :=
  ⟨_, rfl, by decide +kernel, by decide +kernel⟩

end RtpSession
end Rtp
end LiveAISIP
