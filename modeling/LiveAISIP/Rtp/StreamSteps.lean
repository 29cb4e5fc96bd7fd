import LiveAISIP.Rtp.PlayoutIntegrity

/-!
# What the calls of a session do to its stream

The active source, its receive state and its delayed loss change together.  How
far a datagram gets is read off the checks alone, and tells what becomes of them,
whatever endpoint, liveness and playout make of the packet afterwards.
-/

namespace LiveAISIP
namespace Rtp

open Effect

open Transaction (Duration)

/-- The sequence number was checked, with this result. -/
def ReceivePacketOutcome.disposition : ReceivePacketOutcome → Option SequenceDisposition
  | .sequenceRejected disposition | .admitted disposition _ => some disposition
  | _ => none

/-- The sequence number was checked, with this result. -/
def AuxiliaryPacketOutcome.disposition :
    AuxiliaryPacketOutcome → Option SequenceDisposition
  | .sequenceRejected disposition | .admitted disposition => some disposition
  | _ => none

namespace RtpReceiveState

/-- A packet beside the audio is admitted exactly when its number was accepted. -/
theorem observeAuxiliary_outcome (state : RtpReceiveState) (packet : RtpPacket) :
    (state.observeAuxiliary packet).2 = .sourceRejected ∨
      ∃ disposition : SequenceDisposition, (state.observeAuxiliary packet).2 =
        if disposition.accepted then .admitted disposition
        else .sequenceRejected disposition := by
  rw [observeAuxiliary]
  split
  · exact Or.inl rfl
  · right
    refine ⟨(state.sequence.observe packet.header.sequenceNumber).2, ?_⟩
    dsimp only
    cases (state.sequence.observe packet.header.sequenceNumber).2.accepted <;> rfl

/-- An audio packet is admitted exactly when its number was accepted. -/
theorem observe_outcome
    (state : RtpReceiveState) (packet : RtpPacket) (arrival : Duration) :
    (∃ error, (state.observe packet arrival).2 = .error error) ∨
      (∃ outcome, (state.observe packet arrival).2 = .ok outcome ∧ outcome.disposition = none) ∨
      (∃ disposition, (state.observe packet arrival).2 =
        .ok (.sequenceRejected disposition) ∧ disposition.accepted = false) ∨
      ∃ disposition update, (state.observe packet arrival).2 =
        .ok (.admitted disposition update) ∧ disposition.accepted = true := by
  rw [observe]
  split
  · exact Or.inr (Or.inl ⟨_, rfl, rfl⟩)
  · split
    · exact Or.inr (Or.inl ⟨_, rfl, rfl⟩)
    · dsimp only
      split
      · exact Or.inl ⟨_, rfl⟩
      · cases accepted : (state.sequence.observe packet.header.sequenceNumber).2.accepted with
        | false => exact Or.inr (Or.inr (Or.inl ⟨_, by rw [if_pos (by simp)], accepted⟩))
        | true =>
          exact Or.inr (Or.inr (Or.inr ⟨_, _, by
            rw [if_neg (by simp)]
            rfl, accepted⟩))

/-- What the check of a packet changes. -/
structure Checked (state after : RtpReceiveState) (packet : RtpPacket)
    (checked : Option SequenceDisposition) : Prop where
  disposition : ∀ disposition ∈ checked,
    (state.sequence.observe packet.header.sequenceNumber).2 = disposition
  sequence : after.sequence = if checked.isSome then
    (state.sequence.observe packet.header.sequenceNumber).1 else state.sequence
  lastSenderReport : after.lastSenderReport = state.lastSenderReport ∨ after.lastSenderReport = none
  boundSsrc : after.boundSsrc = state.boundSsrc ∨
    after.boundSsrc = some (state.boundSsrc.getD packet.header.ssrc)

theorem checked_observeAuxiliary (state : RtpReceiveState) (packet : RtpPacket) :
    Checked state (state.observeAuxiliary packet).1 packet
      (state.observeAuxiliary packet).2.disposition := by
  rw [observeAuxiliary]
  split
  · exact ⟨fun _ found => (by cases found), rfl, .inl rfl, .inl rfl⟩
  · dsimp only
    split
    · exact ⟨fun _ found => Option.some.inj found, rfl, .inl rfl, .inr rfl⟩
    · exact ⟨fun _ found => Option.some.inj found, rfl, .inl rfl, .inr rfl⟩

theorem checked_observe
    (state : RtpReceiveState) (packet : RtpPacket) (arrival : Duration) :
    Checked state (state.observe packet arrival).1 packet
      ((state.observe packet arrival).2.toOption.bind ReceivePacketOutcome.disposition) := by
  rw [observe]
  split
  · exact ⟨fun _ found => (by cases found), rfl, .inl rfl, .inl rfl⟩
  · split
    · exact ⟨fun _ found => (by cases found), rfl, .inl rfl, .inl rfl⟩
    · next other =>
      have bound : some packet.header.ssrc = some (state.boundSsrc.getD packet.header.ssrc) := by
        cases source : state.boundSsrc with
        | none => rfl
        | some ssrc =>
          rw [source] at other
          simp only [Option.any_some, bne_iff_ne, ne_eq, Decidable.not_not] at other
          rw [other]
          rfl
      dsimp only
      split
      · exact ⟨fun _ found => (by cases found), rfl, .inl rfl, .inr bound⟩
      · split
        · exact ⟨fun _ found => Option.some.inj found, rfl, .inl rfl, .inr bound⟩
        · refine ⟨fun _ found => Option.some.inj found, ?_, ?_, ?_⟩
          · simp only [observeAdmitted, countAdmitted]
            split
            · rfl
            · rfl
          · simp only [observeAdmitted, countAdmitted]
            split
            · exact .inr rfl
            · exact .inl rfl
          · simp only [observeAdmitted, countAdmitted]
            split
            · exact .inr bound
            · exact .inr bound

end RtpReceiveState

namespace RtpSession

variable {session : RtpSession}

/-- The part of a session that follows the stream. -/
structure Stream where
  receive : RtpReceiveState
  delayedLoss : DelayedLossTracker
  active : Option UInt32

/-- The stream of a session. -/
def stream (session : RtpSession) : Stream where
  receive := session.receive
  delayedLoss := session.delayedLoss
  active := session.source.active

/-- A session with another stream. -/
def withStream (session : RtpSession) (stream : Stream) : RtpSession :=
  { session with
    receive := stream.receive
    delayedLoss := stream.delayedLoss
    source := { session.source with active := stream.active } }

/-- How far a datagram of the RTP socket gets. -/
inductive Arrival
  | unseen
  | switched (packet : RtpPacket)
  | reached (fresh : Bool) (packet : RtpPacket)

/-- The checks before the stream is reached. -/
def arrivalOf (session : RtpSession) (grants : Nat → Bool) (datagram : List UInt8)
    (protection : PacketProtection) : Arrival :=
  match session.security.admitPacket protection with
  | .error _ => .unseen
  | .ok _ =>
    if classify .rtp datagram ≠ .rtp then .unseen
    else
      match RtpPacket.parse grants datagram with
      | .error _ => .unseen
      | .ok packet =>
        match (session.source.observe packet.header.ssrc
            packet.header.sequenceNumber).2 with
        | .current => .reached false packet
        | .bound => .reached true packet
        | .switched => .switched packet
        | _ => .unseen

/-- The receive state of a source that was just bound. -/
def freshReceive (session : RtpSession) (ssrc : UInt32) : RtpReceiveState :=
  .new { session.receiveConfig with expectedSsrc := some ssrc }

/-- The packet is of the telephone-event stream. -/
def isEvent (session : RtpSession) (packet : RtpPacket) : Bool :=
  session.telephoneEvent.any fun config =>
    packet.header.payloadType == config.payloadType

/-- The check of a packet by a receive state. -/
def checkStream (session : RtpSession) (receive : RtpReceiveState) (packet : RtpPacket)
    (arrival : Duration) : RtpReceiveState × Option SequenceDisposition :=
  if session.isEvent packet then
    ((receive.observeAuxiliary packet).1, (receive.observeAuxiliary packet).2.disposition)
  else
    ((receive.observe packet arrival).1,
      (receive.observe packet arrival).2.toOption.bind ReceivePacketOutcome.disposition)

/-- What the check of a packet changes. -/
theorem checked_checkStream
    (session : RtpSession) (receive : RtpReceiveState) (packet : RtpPacket) (arrival : Duration) :
    receive.Checked (session.checkStream receive packet arrival).1 packet
      (session.checkStream receive packet arrival).2 := by
  rw [checkStream]
  split
  · exact receive.checked_observeAuxiliary packet
  · exact receive.checked_observe packet arrival

/-- An event of the telephone-event stream was negotiated. -/
def negotiatedEvent (session : RtpSession) (packet : RtpPacket) : Bool :=
  match TelephoneEvent.parse packet.payload with
  | .ok event => session.telephoneEvent.any fun config => config.allows event.code.asRaw
  | .error _ => false

/-- The packet is counted for delayed loss. -/
def countsLoss (session : RtpSession) (receive : RtpReceiveState) (packet : RtpPacket)
    (arrival : Duration) : Bool :=
  (session.checkStream receive packet arrival).2.any (·.accepted) &&
    (!session.isEvent packet || session.negotiatedEvent packet)

/-- The stream of a source that was just bound. -/
def freshStream (session : RtpSession) (ssrc : UInt32) : Stream where
  receive := session.freshReceive ssrc
  delayedLoss := .new
  active := some ssrc

/-- The stream that a packet reaches. -/
def checking (session : RtpSession) (fresh : Bool) (packet : RtpPacket) : Stream :=
  if fresh then session.freshStream packet.header.ssrc else session.stream

/-- The stream after a packet reached it. -/
def Stream.observe (stream : Stream) (session : RtpSession) (packet : RtpPacket)
    (arrival : Duration) : Stream where
  receive := (session.checkStream stream.receive packet arrival).1
  delayedLoss :=
    if session.countsLoss stream.receive packet arrival then
      stream.delayedLoss.observe packet.header.sequenceNumber
    else stream.delayedLoss
  active := stream.active

/-- The stream after a datagram of the RTP socket. -/
def streamAfter (session : RtpSession) (arrival : Duration) : Arrival → Stream
  | .unseen => session.stream
  | .switched packet => session.freshStream packet.header.ssrc
  | .reached fresh packet => (session.checking fresh packet).observe session packet arrival

/-- The stream and the settings that are read with it are the same. -/
structure Beside (before after : RtpSession) : Prop where
  stream : after.stream = before.stream
  receiveConfig : after.receiveConfig = before.receiveConfig
  telephoneEvent : after.telephoneEvent = before.telephoneEvent
  rtcp : after.rtcp = before.rtcp

theorem beside_refl (session : RtpSession) : Beside session session := ⟨rfl, rfl, rfl, rfl⟩

theorem Beside.trans {first second third : RtpSession}
    (before : Beside first second) (after : Beside second third) :
    Beside first third where
  stream := after.stream.trans before.stream
  receiveConfig := after.receiveConfig.trans before.receiveConfig
  telephoneEvent := after.telephoneEvent.trans before.telephoneEvent
  rtcp := after.rtcp.trans before.rtcp

section Keeps

variable {base : RtpSession}

/-- The computation works beside the stream. -/
abbrev KeepsStream (base : RtpSession) (run : Operation α) : Prop := Effect.Keeps (Beside base) run

theorem keepsStream_modify {change : RtpSession → RtpSession}
    (beside : ∀ session, Beside session (change session)) :
    KeepsStream base (.modify change) :=
  keeps_modify fun session stands => stands.trans (beside session)

theorem keepsStream_observeEndpoint
    (component : Component) (networkSource : SocketAddress) :
    KeepsStream base (observeEndpoint component networkSource) := by
  refine (keeps_read id).bind fun session => ?_
  refine (keeps_ofExcept _).bind fun observed => ?_
  refine (keepsStream_modify ?_).bind fun _ => keeps_pure _
  intro session
  exact ⟨rfl, rfl, rfl, rfl⟩

theorem keepsStream_noteReceive
    (note : MediaLiveness → Duration → Except MediaLivenessError MediaLiveness)
    (arrival : Duration) :
    KeepsStream base (noteReceive note arrival) := by
  refine (keeps_read id).bind fun session => ?_
  refine (keeps_ofExcept _).bind fun liveness => ?_
  exact keepsStream_modify fun _ => ⟨rfl, rfl, rfl, rfl⟩

theorem keepsStream_enqueue (slot : Nat) (endpoint : SymmetricObservation) :
    KeepsStream base (enqueue slot endpoint) := by
  intro session stands
  rw [enqueue]
  cases (session.ingress.push slot).2 with
  | accepted => exact stands.trans ⟨rfl, rfl, rfl, rfl⟩
  | droppedNewest dropped => exact stands.trans ⟨rfl, rfl, rfl, rfl⟩
  | droppedOldest dropped => exact stands.trans ⟨rfl, rfl, rfl, rfl⟩

theorem keepsStream_store (packet : RtpPacket) :
    KeepsStream base (onPool (PlayoutPacketPool.store packet)) :=
  keeps_zoom fun _ stands => stands.trans ⟨rfl, rfl, rfl, rfl⟩

end Keeps

theorem lift_of_ok
    {outcome : Except ε α} {value : α}
    (convert : ε → RtpSessionError) (returned : outcome = .ok value) (session : RtpSession) :
    lift convert outcome session = (session, .ok value) := by
  rw [returned]
  rfl

theorem lift_of_error
    {outcome : Except ε α} {error : ε}
    (convert : ε → RtpSessionError) (failed : outcome = .error error) (session : RtpSession) :
    lift convert outcome session = (session, .error (.refused (convert error))) := by
  rw [failed]
  rfl

theorem beside_ingestTelephoneEvent {packet : RtpPacket} {config : TelephoneEventConfig}
    (configured : session.telephoneEvent = some config)
    (routed : packet.header.payloadType = config.payloadType)
    (networkSource : SocketAddress) (arrival : Duration) :
    Beside (session.withStream (session.stream.observe session packet arrival))
      (ingestTelephoneEvent config packet networkSource arrival session).1 := by
  have event : session.isEvent packet = true := by
    simp [isEvent, configured, routed]
  have checked : session.checkStream session.receive packet arrival =
      ((session.receive.observeAuxiliary packet).1,
        (session.receive.observeAuxiliary packet).2.disposition) := by
    rw [checkStream, if_pos event]
  have observed : onReceive (fun receive =>
      ((receive.observeAuxiliary packet).1, .ok (receive.observeAuxiliary packet).2)) session =
      (session.withStream { session.stream with
          receive := (session.receive.observeAuxiliary packet).1 },
        .ok (session.receive.observeAuxiliary packet).2) := rfl
  have counts : session.countsLoss session.receive packet arrival =
      ((session.receive.observeAuxiliary packet).2.disposition.any (·.accepted) &&
        session.negotiatedEvent packet) := by
    simp [countsLoss, checked, event]
  have after : session.stream.observe session packet arrival =
      { session.stream with
        receive := (session.receive.observeAuxiliary packet).1
        delayedLoss :=
          if (session.receive.observeAuxiliary packet).2.disposition.any (·.accepted) &&
              session.negotiatedEvent packet then
            session.delayedLoss.observe packet.header.sequenceNumber
          else session.delayedLoss } := by
    rw [Stream.observe, ← counts]
    simp only [stream, checked]
    rfl
  rw [ingestTelephoneEvent, bind_of_ok observed, after]
  rcases session.receive.observeAuxiliary_outcome packet with rejected | ⟨disposition, outcome⟩
  · rw [rejected]
    exact beside_refl _
  · rw [outcome]
    cases accepted : disposition.accepted with
    | false =>
      simp only [Bool.false_eq_true, if_false, AuxiliaryPacketOutcome.disposition,
        Option.any_some, accepted, Bool.false_and]
      exact beside_refl _
    | true =>
      simp only [if_true, AuxiliaryPacketOutcome.disposition, Option.any_some, accepted,
        Bool.true_and]
      cases parsed : TelephoneEvent.parse packet.payload with
      | error error =>
        rw [bind_of_error (lift_of_error _ rfl _)]
        simp only [negotiatedEvent, parsed, Bool.false_eq_true, if_false]
        exact beside_refl _
      | ok event =>
        rw [bind_of_ok (lift_of_ok _ rfl _)]
        simp only [negotiatedEvent, parsed, configured, Option.any_some]
        cases allowed : config.allows event.code.asRaw with
        | false =>
          simp only [Bool.false_eq_true, not_false_eq_true, if_true, if_false]
          exact beside_refl _
        | true =>
          simp only [not_true_eq_false, if_false, if_true]
          rw [observeLoss, modify_bind]
          refine (((keepsStream_observeEndpoint _ _).bind fun endpoint =>
            (keepsStream_noteReceive _ _).bind fun _ => keeps_pure _) _ ?_)
          exact beside_refl _

theorem beside_ingestAudio {packet : RtpPacket} (audio : session.isEvent packet = false)
    (networkSource : SocketAddress) (arrival : Duration) :
    Beside (session.withStream (session.stream.observe session packet arrival))
      (ingestAudio packet networkSource arrival session).1 := by
  have checked : session.checkStream session.receive packet arrival =
      ((session.receive.observe packet arrival).1,
        (session.receive.observe packet arrival).2.toOption.bind
          ReceivePacketOutcome.disposition) := by
    rw [checkStream, if_neg (by simp [audio])]
  have counts : session.countsLoss session.receive packet arrival =
      ((session.receive.observe packet arrival).2.toOption.bind
        ReceivePacketOutcome.disposition).any (·.accepted) := by
    simp [countsLoss, checked, audio]
  have ran : onReceive (RtpReceiveState.observe packet arrival) session =
      (session.withStream { session.stream with
          receive := (session.receive.observe packet arrival).1 },
        (session.receive.observe packet arrival).2.mapError fun error =>
          .refused (.receiveState error)) := rfl
  have after : session.stream.observe session packet arrival =
      { session.stream with
        receive := (session.receive.observe packet arrival).1
        delayedLoss :=
          if ((session.receive.observe packet arrival).2.toOption.bind
              ReceivePacketOutcome.disposition).any (·.accepted) then
            session.delayedLoss.observe packet.header.sequenceNumber
          else session.delayedLoss } := by
    rw [Stream.observe, ← counts]
    simp only [stream, checked]
    rfl
  rw [ingestAudio, after]
  rcases session.receive.observe_outcome packet arrival with
    ⟨error, outcome⟩ | ⟨rejection, outcome, unchecked⟩ | ⟨disposition, outcome, rejected⟩ |
      ⟨disposition, update, outcome, accepted⟩
  · rw [outcome] at ran ⊢
    rw [bind_of_error ran]
    exact beside_refl _
  · rw [outcome] at ran ⊢
    rw [bind_of_ok ran]
    cases rejection with
    | payloadTypeRejected actual expected => exact beside_refl _
    | sourceRejected => exact beside_refl _
    | sequenceRejected disposition => cases unchecked
    | admitted disposition update => cases unchecked
  · rw [outcome] at ran ⊢
    rw [bind_of_ok ran]
    simp only [Except.toOption, Option.bind_some, ReceivePacketOutcome.disposition,
      Option.any_some, rejected, Bool.false_eq_true, if_false]
    exact beside_refl _
  · rw [outcome] at ran ⊢
    rw [bind_of_ok ran]
    simp only [Except.toOption, Option.bind_some, ReceivePacketOutcome.disposition,
      Option.any_some, accepted, if_true]
    rw [observeLoss, modify_bind]
    refine (((keepsStream_observeEndpoint _ _).bind fun endpoint =>
      (keepsStream_noteReceive _ _).bind fun _ =>
        (keepsStream_store packet).bind fun slot => keepsStream_enqueue slot endpoint) _ ?_)
    exact beside_refl _

/-- A packet that reaches the stream is checked, and counted when it is admitted. -/
theorem beside_ingestPacket
    (session : RtpSession) (packet : RtpPacket) (networkSource : SocketAddress)
    (arrival : Duration) :
    Beside (session.withStream (session.stream.observe session packet arrival))
      (ingestPacket packet networkSource arrival session).1 := by
  cases configured : session.telephoneEvent with
  | none =>
    have audio : session.isEvent packet = false := by simp [isEvent, configured]
    have run := beside_ingestAudio audio networkSource arrival
    rw [ingestPacket, bind_of_ok (read_apply id session)]
    simpa only [id_eq, configured] using run
  | some config =>
    rw [ingestPacket, bind_of_ok (read_apply id session)]
    by_cases routed : packet.header.payloadType = config.payloadType
    · have run := beside_ingestTelephoneEvent configured routed networkSource arrival
      simpa only [id_eq, configured, routed, if_true] using run
    · have audio : session.isEvent packet = false := by
        simp [isEvent, configured, routed]
      have run := beside_ingestAudio audio networkSource arrival
      simpa only [id_eq, configured, routed, if_false] using run

theorem beside_ingestParsed
    (session : RtpSession) (packet : RtpPacket) (networkSource : SocketAddress)
    (arrival : Duration) :
    Beside (session.withStream (session.streamAfter arrival
        (match (session.source.observe packet.header.ssrc
            packet.header.sequenceNumber).2 with
          | .current => .reached false packet
          | .bound => .reached true packet
          | .switched => .switched packet
          | _ => .unseen)))
      (ingestParsed packet networkSource arrival session).1 := by
  have observed : observeSource packet.header.ssrc packet.header.sequenceNumber session =
      ({ session with
          source := (session.source.observe packet.header.ssrc
            packet.header.sequenceNumber).1 }, .ok (session.source.observe packet.header.ssrc
          packet.header.sequenceNumber).2) := rfl
  rw [ingestParsed, bind_of_ok observed]
  rcases session.source.observe_cases packet.header.ssrc packet.header.sequenceNumber with
    ⟨before, active, current⟩ | ⟨same, rejected | ⟨count, required, probation⟩⟩ |
      ⟨before, active, bound⟩ | ⟨active, switched⟩
  · rw [current]
    simp only
    refine Beside.trans ?_ (beside_ingestPacket _ packet networkSource arrival)
    refine ⟨?_, rfl, rfl, rfl⟩
    simp only [withStream, stream, streamAfter, checking, Stream.observe, active, before]
    rfl
  · rw [rejected]
    refine ⟨?_, rfl, rfl, rfl⟩
    simp only [withStream, stream, streamAfter, same, pure_apply]
  · rw [probation]
    refine ⟨?_, rfl, rfl, rfl⟩
    simp only [withStream, stream, streamAfter, same, pure_apply]
  · rw [bound]
    simp only
    rw [bind_of_ok (rebindReceiveState_eq _ _)]
    refine Beside.trans ?_ (beside_ingestPacket _ packet networkSource arrival)
    refine ⟨?_, rfl, rfl, rfl⟩
    simp only [withStream, stream, streamAfter, checking, Stream.observe, rebound, active]
    rfl
  · rw [switched]
    simp only
    rw [bind_of_ok (rebindReceiveState_eq _ _)]
    refine ⟨?_, rfl, rfl, rfl⟩
    simp only [withStream, stream, streamAfter, rebound, active, pure_apply]
    rfl

/-- What a datagram of the RTP socket does to the stream. -/
theorem beside_ingestRtp
    (session : RtpSession) (grants : Nat → Bool) (networkSource : SocketAddress)
    (datagram : List UInt8) (arrival : Duration) (protection : PacketProtection) :
    Beside (session.withStream (session.streamAfter arrival
        (session.arrivalOf grants datagram protection)))
      (ingestRtp grants networkSource datagram arrival protection session).1 := by
  rw [ingestRtp, bind_of_ok (read_apply id session), arrivalOf]
  simp only [id_eq]
  cases admitted : session.security.admitPacket protection with
  | error error =>
    rw [bind_of_error (lift_of_error _ rfl _)]
    exact beside_refl _
  | ok _ =>
    rw [bind_of_ok (lift_of_ok _ rfl _)]
    by_cases other : classify .rtp datagram ≠ .rtp
    · simp only [if_pos other]
      exact beside_refl _
    · simp only [if_neg other]
      cases parsed : RtpPacket.parse grants datagram with
      | error fault =>
        exact beside_refl session
      | ok packet =>
        exact beside_ingestParsed session packet networkSource arrival

/-- The packets of a datagram that passes the checks before its reports count. -/
def compoundOf (session : RtpSession) (grants : Nat → Bool) (datagram : List UInt8)
    (protection : PacketProtection) : List RtcpPacket :=
  match session.security.admitPacket protection with
  | .error _ => []
  | .ok _ =>
    if classify .rtcp datagram ≠ .rtcp then []
    else
      match CompoundRtcp.parse grants datagram session.rtcpPolicy with
      | .error _ => []
      | .ok compound =>
        if session.source.active.isNone ∨ compound.packets.findSome? RtcpPacket.primarySource ≠
              session.source.active then []
        else compound.packets

/-- The sender report of a packet. -/
def senderReportOf : RtcpPacket → Option SenderReport
  | .senderReport report => some report
  | _ => none

/-- The receive state after its sender reports were noted. -/
def noteReports (arrival : Duration) (receive : RtpReceiveState)
    (packets : List RtcpPacket) : RtpReceiveState :=
  (packets.filterMap senderReportOf).foldl
    (fun receive report =>
      receive.noteSenderReport (compactNtp report.information.senderInfo) arrival)
    receive

theorem noteSenderReports_eq
    (arrival : Duration) (packets : List RtcpPacket) (session : RtpSession) :
    noteSenderReports arrival packets session =
      ({ session with receive := noteReports arrival session.receive packets }, .ok ()) := by
  induction packets generalizing session with
  | nil => rfl
  | cons packet packets ih =>
    rw [noteSenderReports, each]
    cases packet with
    | senderReport report =>
      rw [modify_bind]
      exact ih _
    | _ => exact ih session

/-- What a datagram of the RTCP socket does to the stream. -/
theorem beside_ingestRtcp
    (session : RtpSession) (grants : Nat → Bool) (networkSource : SocketAddress)
    (datagram : List UInt8) (arrival : Duration) (protection : PacketProtection) :
    Beside
      (session.withStream { session.stream with
        receive := noteReports arrival session.receive
          (session.compoundOf grants datagram protection) })
      (ingestRtcp grants networkSource datagram arrival protection session).1 := by
  rw [ingestRtcp, bind_of_ok (read_apply id session), compoundOf]
  simp only [id_eq]
  cases admitted : session.security.admitPacket protection with
  | error error =>
    rw [bind_of_error (lift_of_error _ rfl _)]
    exact beside_refl _
  | ok _ =>
    rw [bind_of_ok (lift_of_ok _ rfl _)]
    by_cases other : classify .rtcp datagram ≠ .rtcp
    · simp only [if_pos other]
      exact beside_refl _
    · simp only [if_neg other]
      cases parsed : CompoundRtcp.parse grants datagram session.rtcpPolicy with
      | error fault => exact beside_refl session
      | ok compound =>
        have read : (ofExcept ((Except.ok compound).mapError
            (Fault.map RtpSessionError.compoundRtcp)) : Operation CompoundRtcp) session =
            (session, .ok compound) := rfl
        rw [bind_of_ok read]
        by_cases foreign : session.source.active.isNone ∨
            compound.packets.findSome? RtcpPacket.primarySource ≠ session.source.active
        · simp only [if_pos foreign]
          exact beside_refl _
        · simp only [if_neg foreign]
          rw [bind_of_ok (noteSenderReports_eq _ _ _)]
          refine ((keepsStream_observeEndpoint _ _).bind fun endpoint =>
            (keepsStream_noteReceive _ _).bind fun _ => keeps_pure _) _ ?_
          exact beside_refl _

/-- The stream after a call. -/
def streamStep (session : RtpSession) : Call → Stream
  | .ingestRtp grants _ datagram arrival protection =>
    session.streamAfter arrival (session.arrivalOf grants datagram protection)
  | .ingestRtcp grants _ datagram arrival protection =>
    { session.stream with
      receive := noteReports arrival session.receive
        (session.compoundOf grants datagram protection) }
  | _ => session.stream

/-- Playing out works beside the stream. -/
theorem beside_popPlayoutPacket (session : RtpSession) :
    Beside session (step session .popPlayoutPacket).1 := by
  have quiet : KeepsStream session popPlayoutPacket := by
    refine Effect.Keeps.bind ?_ ?_
    · intro state stands
      exact stands.trans ⟨rfl, rfl, rfl, rfl⟩
    · intro slot
      cases slot with
      | none => exact keeps_pure _
      | some slot =>
        intro state stands
        simp only [checkout]
        split
        · exact stands
        · exact stands
        · exact stands.trans ⟨rfl, rfl, rfl, rfl⟩
  exact quiet session (beside_refl session)

theorem stream_step (session : RtpSession) (call : Call) :
    (step session call).1.stream = session.streamStep call ∧
      (step session call).1.receiveConfig = session.receiveConfig := by
  cases call with
  | configureTelephoneEvent config =>
    simp only [step, reply, streamStep, configureTelephoneEvent]
    split
    · exact ⟨rfl, rfl⟩
    · exact ⟨rfl, rfl⟩
  | configureRtcp grants interval localSsrc cname policy now =>
    simp only [step, reply, streamStep, configureRtcp]
    cases built : RtcpScheduler.new grants interval localSsrc cname now with
    | error error =>
      rw [bind_of_error (lift_of_error _ rfl _)]
      exact ⟨rfl, rfl⟩
    | ok scheduler =>
      rw [bind_of_ok (lift_of_ok _ rfl _)]
      exact ⟨rfl, rfl⟩
  | ingestRtp grants networkSource datagram arrival protection =>
    have beside := beside_ingestRtp session grants networkSource datagram arrival protection
    exact ⟨beside.stream, beside.receiveConfig⟩
  | ingestRtcp grants networkSource datagram arrival protection =>
    have beside := beside_ingestRtcp session grants networkSource datagram arrival protection
    exact ⟨beside.stream, beside.receiveConfig⟩
  | popPlayoutPacket =>
    have beside := beside_popPlayoutPacket session
    exact ⟨beside.stream, beside.receiveConfig⟩

/-- The stream of a new session. -/
theorem stream_new
    {grants : Nat → Bool} {receiveConfig : RtpReceiveConfig}
    {sourcePolicy : SourcePolicy} {endpoints : SymmetricEndpoints}
    {security : MediaSecurityPolicy} {liveness : MediaLiveness} {capacity maximum : Nat}
    (created : newWithPayloadLimit grants receiveConfig sourcePolicy endpoints security
      liveness capacity maximum = .ok session) :
    session.stream =
        { receive := .new receiveConfig
          delayedLoss := .new
          active := receiveConfig.expectedSsrc } ∧
      session.receiveConfig = receiveConfig ∧ session.rtcp = none := by
  obtain ⟨ingress, queue, created⟩ := Outcome.bind_eq_ok.mp created
  obtain ⟨pool, slots, created⟩ := Outcome.bind_eq_ok.mp created
  cases created
  exact ⟨rfl, rfl, rfl⟩

end RtpSession
end Rtp
end LiveAISIP
