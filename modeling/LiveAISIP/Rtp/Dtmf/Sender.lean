import LiveAISIP.Library.Effect
import LiveAISIP.Rtp.Dtmf.Event
import LiveAISIP.Rtp.Sequence

/-!
# Telephone-event transmission

The generator of `rtp/dtmf/sender.rs`.  The timestamp of an event stays the same
while its duration grows; the packets at its end repeat one final duration.

The packets of a run are numbered by their events, so that what is said of a
later packet can be compared with what was sent before.
-/

namespace LiveAISIP
namespace Rtp

/-- Maximum number of end packets. -/
def maxEndRepetitions : UInt8 := 10

/-- Limits of event generation. -/
structure DtmfSenderConfig where
  packetTicks : UInt16
  maximumTicks : UInt16
  volume : UInt8
  endRepetitions : UInt8
  packetTicks_pos : 0 < packetTicks.toNat
  packetTicks_le : packetTicks.toNat ≤ maximumTicks.toNat
  volume_le : volume ≤ maxTelephoneEventVolume
  endRepetitions_pos : 0 < endRepetitions.toNat
  endRepetitions_le : endRepetitions ≤ maxEndRepetitions

/-- Failure of the sender. -/
inductive DtmfSenderError
  | zeroPacketDuration
  | maximumDurationTooShort (maximum packetDuration : UInt16)
  | volumeOutOfRange (volume maximum : UInt8)
  | endRepetitionsOutOfRange (repetitions maximum : UInt8)
  | eventAlreadyActive
  | noActiveEvent
  | payloadConstructionFailed

/-- Checked limits of event generation. -/
def DtmfSenderConfig.new (packetTicks maximumTicks : UInt16) (volume endRepetitions : UInt8) :
    Except DtmfSenderError DtmfSenderConfig :=
  if positive : 0 < packetTicks.toNat then
    if fits : packetTicks.toNat ≤ maximumTicks.toNat then
      if quiet : volume ≤ maxTelephoneEventVolume then
        if repeated : 0 < endRepetitions.toNat ∧ endRepetitions ≤ maxEndRepetitions then
          .ok ⟨packetTicks, maximumTicks, volume, endRepetitions, positive, fits, quiet,
            repeated.1, repeated.2⟩
        else .error (.endRepetitionsOutOfRange endRepetitions maxEndRepetitions)
      else .error (.volumeOutOfRange volume maxTelephoneEventVolume)
    else .error (.maximumDurationTooShort maximumTicks packetTicks)
  else .error .zeroPacketDuration

/-- The limits are those that pass their checks. -/
theorem DtmfSenderConfig.new_self (config : DtmfSenderConfig) :
    new config.packetTicks config.maximumTicks config.volume config.endRepetitions =
      .ok config := by
  simp [new, config.packetTicks_pos, config.packetTicks_le, config.volume_le,
    config.endRepetitions_pos, config.endRepetitions_le]

/-- Whether the end of an event is being sent. -/
inductive Phase
  | active
  | ending (remaining : UInt8) (finalDurationReady : Bool)

/-- The event being sent. -/
structure ActiveEvent where
  code : TelephoneEventCode
  timestamp : UInt32
  duration : UInt16
  packets : Nat
  phase : Phase

/-- An event payload with what its RTP header needs. -/
structure DtmfTransmitPacket where
  timestamp : UInt32
  marker : Bool
  event : TelephoneEvent
  finalRetransmission : Bool
  deriving DecidableEq

/-- The telephone-event generator. -/
structure DtmfSender where
  config : DtmfSenderConfig
  active : Option ActiveEvent
  started : Nat
  completed : Nat
  cancelled : Nat
  emitted : Nat

namespace DtmfSender

variable {event : ActiveEvent} {sender : DtmfSender}

/-- An idle sender. -/
def new (config : DtmfSenderConfig) : DtmfSender := ⟨config, none, 0, 0, 0, 0⟩

/-- Start an event. -/
def start (code : TelephoneEventCode) (timestamp : UInt32) :
    Effect DtmfSender DtmfSenderError Unit := fun sender =>
  match sender.active with
  | some _ => (sender, .error .eventAlreadyActive)
  | none =>
    ({ sender with
        active := some ⟨code, timestamp, 0, 0, .active⟩
        started := saturatingAdd sender.started 1 }, .ok ())

/-- Ask for the end of the event. -/
def requestEnd : Effect DtmfSender DtmfSenderError Unit := fun sender =>
  match sender.active with
  | none => (sender, .error .noActiveEvent)
  | some event =>
    match event.phase with
    | .active =>
      ({ sender with
          active := some { event with
            phase := .ending sender.config.endRepetitions false } }, .ok ())
    | .ending _ _ => (sender, .ok ())

/-- One packet longer, up to the maximum. -/
def increment (duration : UInt16) (config : DtmfSenderConfig) : UInt16 :=
  (min (min (duration.toNat + config.packetTicks.toNat) 65535) config.maximumTicks.toNat).toUInt16

/-- The event after its next packet, with the marks of an end packet and of the
last one. -/
def advance (event : ActiveEvent) (config : DtmfSenderConfig) : ActiveEvent × Bool × Bool :=
  match event.phase with
  | .active =>
    let duration := increment event.duration config
    if duration = config.maximumTicks then
      let remaining := config.endRepetitions - 1
      ({ event with duration := duration, phase := .ending remaining true }, true, remaining == 0)
    else ({ event with duration := duration }, false, false)
  | .ending remaining finalDurationReady =>
    let duration :=
      if finalDurationReady then event.duration else increment event.duration config
    ({ event with duration := duration, phase := .ending (remaining - 1) true },
      true, remaining - 1 == 0)

/-- The next packet; nothing when idle. -/
def nextPacket : Effect DtmfSender DtmfSenderError (Option DtmfTransmitPacket) := fun sender =>
    match sender.active with
    | none => (sender, .ok none)
    | some event =>
      let (next, isEnd, finalRetransmission) := advance event sender.config
      let next := { next with packets := min (event.packets + 1) (2 ^ 32 - 1) }
      match TelephoneEvent.new next.code isEnd sender.config.volume next.duration with
      | .error _ => (sender, .error .payloadConstructionFailed)
      | .ok payload =>
        let packet := ⟨next.timestamp, event.packets == 0, payload, finalRetransmission⟩
        if finalRetransmission then
          ({ sender with
              emitted := saturatingAdd sender.emitted 1
              active := none
              completed := saturatingAdd sender.completed 1 }, .ok (some packet))
        else
          ({ sender with
              emitted := saturatingAdd sender.emitted 1
              active := some next }, .ok (some packet))

/-- Give an event up. -/
def cancel (sender : DtmfSender) : DtmfSender × Bool :=
  match sender.active with
  | some _ =>
    ({ sender with
        active := none
        cancelled := saturatingAdd sender.cancelled 1 }, true)
  | none => (sender, false)

/-- The calls on a sender. -/
inductive Call
  | start (code : TelephoneEventCode) (timestamp : UInt32)
  | requestEnd
  | nextPacket
  | cancel

/-- An event that was started. -/
structure StartedEvent where
  number : Nat
  code : TelephoneEventCode
  timestamp : UInt32

/-- A packet with the number of its event. -/
structure SentPacket where
  number : Nat
  packet : DtmfTransmitPacket
  deriving DecidableEq

/-- The events that a run starts, numbered from the one after `number` on. -/
def startedEvents (sender : DtmfSender) (number : Nat) : List Call → List StartedEvent
  | [] => []
  | .start code timestamp :: calls =>
    match sender.start code timestamp with
    | (next, .ok ()) =>
      ⟨number + 1, code, timestamp⟩ :: next.startedEvents (number + 1) calls
    | (next, .error _) => next.startedEvents number calls
  | .requestEnd :: calls => sender.requestEnd.1.startedEvents number calls
  | .nextPacket :: calls => sender.nextPacket.1.startedEvents number calls
  | .cancel :: calls => sender.cancel.1.startedEvents number calls

/-- The packets that a run sends, while the event in progress has a number. -/
def sentPackets (sender : DtmfSender) (number : Nat) : List Call → List SentPacket
  | [] => []
  | .start code timestamp :: calls =>
    match sender.start code timestamp with
    | (next, .ok ()) => next.sentPackets (number + 1) calls
    | (next, .error _) => next.sentPackets number calls
  | .requestEnd :: calls => sender.requestEnd.1.sentPackets number calls
  | .nextPacket :: calls =>
    match sender.nextPacket with
    | (next, .ok (some packet)) => ⟨number, packet⟩ :: next.sentPackets number calls
    | (next, _) => next.sentPackets number calls
  | .cancel :: calls => sender.cancel.1.sentPackets number calls

/-- The final duration of the event was sent. -/
def ready (event : ActiveEvent) : Bool :=
  match event.phase with
  | .active => false
  | .ending _ finalDurationReady => finalDurationReady

/-- An event without its final duration can still grow, and one that ends has
packets left. -/
structure Running (event : ActiveEvent) (config : DtmfSenderConfig) : Prop where
  room : ready event = false → event.duration.toNat < config.maximumTicks.toNat
  remaining : ∀ remaining finalDurationReady,
    event.phase = .ending remaining finalDurationReady → remaining ≠ 0

/-- The event of a sender is a running one. -/
def Sound (sender : DtmfSender) : Prop :=
  ∀ event, sender.active = some event → Running event sender.config

/-- A packet of an event is an end packet with its final duration, or longer than
all before. -/
structure Continues (event : ActiveEvent) (packet : DtmfTransmitPacket) : Prop where
  code : packet.event.code = event.code
  timestamp : packet.timestamp = event.timestamp
  final : ready event = true → packet.event.isEnd = true ∧ packet.event.duration = event.duration
  longer : ready event = false → event.duration.toNat < packet.event.duration.toNat

/-- The event is as its last packet told. -/
structure Sent (event : ActiveEvent) (packet : DtmfTransmitPacket) : Prop where
  code : event.code = packet.event.code
  timestamp : event.timestamp = packet.timestamp
  duration : event.duration = packet.event.duration
  ready : ready event = packet.event.isEnd

theorem sound_new (config : DtmfSenderConfig) : (new config).Sound := by
  intro event active
  cases active

/-- A duration below the maximum grows, up to the maximum. -/
theorem increment_toNat
    {duration : UInt16} {config : DtmfSenderConfig}
    (room : duration.toNat < config.maximumTicks.toNat) :
    duration.toNat < (increment duration config).toNat ∧
      (increment duration config).toNat ≤ config.maximumTicks.toNat := by
  have positive := config.packetTicks_pos
  have bound := config.maximumTicks.toNat_lt
  have value : (increment duration config).toNat =
      min (min (duration.toNat + config.packetTicks.toNat) 65535) config.maximumTicks.toNat := by
    rw [increment, Nat.toUInt16_eq, UInt16.toNat_ofNat']
    omega
  omega

/-- What one more packet makes of a running event. -/
structure Advances (config : DtmfSenderConfig) (event : ActiveEvent)
    (result : ActiveEvent × Bool × Bool) : Prop where
  code : result.1.code = event.code
  timestamp : result.1.timestamp = event.timestamp
  ready : ready result.1 = result.2.1
  final : DtmfSender.ready event = true → result.2.1 = true ∧ result.1.duration = event.duration
  longer : DtmfSender.ready event = false → event.duration.toNat < result.1.duration.toNat
  running : result.2.2 = false → Running result.1 config

theorem advances_advance {config : DtmfSenderConfig} (running : Running event config) :
    Advances config event (advance event config) := by
  obtain ⟨code, timestamp, duration, packets, phase⟩ := event
  cases phase with
  | active =>
    have room : duration.toNat < config.maximumTicks.toNat := running.room rfl
    have grown := increment_toNat room
    simp only [advance]
    split
    next atMaximum =>
      refine ⟨rfl, rfl, rfl, by simp [ready], fun _ => grown.1, fun more => ?_⟩
      exact ⟨by simp [ready], by grind⟩
    next below =>
      refine ⟨rfl, rfl, rfl, by simp [ready], fun _ => grown.1, fun _ => ?_⟩
      refine ⟨fun _ => ?_, by simp⟩
      have different : (increment duration config).toNat ≠ config.maximumTicks.toNat :=
        fun same => below (UInt16.toNat_inj.mp same)
      exact Nat.lt_of_le_of_ne grown.2 different
  | ending remaining finalDurationReady =>
    simp only [advance]
    refine ⟨rfl, rfl, rfl, ?_, ?_, fun more => ⟨by simp [ready], by grind⟩⟩
    · intro readyNow
      have isReady : finalDurationReady = true := readyNow
      simp [isReady]
    · intro notReady
      have isNotReady : finalDurationReady = false := notReady
      have grown := increment_toNat (running.room notReady)
      simpa [isNotReady] using grown.1

/-- An idle sender starts an event. -/
theorem start_of_idle (idle : sender.active = none)
    (code : TelephoneEventCode) (timestamp : UInt32) :
    ∃ next, sender.start code timestamp = (next, .ok ()) ∧ next.Sound ∧
      next.active = some ⟨code, timestamp, 0, 0, .active⟩ := by
  refine ⟨{ sender with
      active := some ⟨code, timestamp, 0, 0, .active⟩
      started := saturatingAdd sender.started 1 }, by simp [start, idle], ?_, rfl⟩
  intro event same
  cases same
  refine ⟨fun _ => ?_, fun _ _ ending => by cases ending⟩
  have positive := sender.config.packetTicks_pos
  have bound := sender.config.packetTicks_le
  exact Nat.lt_of_lt_of_le positive bound

/-- Giving an event up leaves an idle sender. -/
theorem cancel_idle (sender : DtmfSender) :
    sender.cancel.1.active = none ∧ sender.cancel.1.Sound := by
  have idle : sender.cancel.1.active = none := by
    cases active : sender.active <;> simp [cancel, active]
  refine ⟨idle, fun event found => ?_⟩
  rw [idle] at found
  cases found

/-- The next packet of the event in progress. -/
theorem nextPacket_of_active
    (sound : sender.Sound) (active : sender.active = some event) :
    ∃ next packet, sender.nextPacket = (next, .ok (some packet)) ∧
      Continues event packet ∧ next.Sound ∧
      ∀ follower, next.active = some follower → Sent follower packet := by
  have advances := advances_advance (sound event active)
  rcases step : advance event sender.config with ⟨following, isEnd, finalRetransmission⟩
  rw [step] at advances
  obtain ⟨code, timestamp, readyAfter, final, longer, running⟩ := advances
  simp only at code timestamp readyAfter final longer running
  have volume : ¬ maxTelephoneEventVolume < sender.config.volume := by
    rw [UInt8.not_lt]
    exact sender.config.volume_le
  have continues : Continues event ⟨following.timestamp, event.packets == 0,
        ⟨following.code, isEnd, sender.config.volume, following.duration⟩,
        finalRetransmission⟩ := ⟨code, timestamp, final, longer⟩
  cases finalRetransmission with
  | true =>
    refine ⟨{ sender with
        emitted := saturatingAdd sender.emitted 1
        active := none
        completed := saturatingAdd sender.completed 1 }, _, ?_, continues, ?_, ?_⟩
    · simp [nextPacket, active, step, TelephoneEvent.new, volume]
    · intro follower none
      cases none
    · intro follower none
      cases none
  | false =>
    refine ⟨{ sender with
        emitted := saturatingAdd sender.emitted 1
        active := some { following with
          packets := min (event.packets + 1) (2 ^ 32 - 1) } }, _, ?_, continues, ?_, ?_⟩
    · simp [nextPacket, active, step, TelephoneEvent.new, volume]
    · intro follower same
      cases same
      exact ⟨(running rfl).room, (running rfl).remaining⟩
    · intro follower same
      cases same
      exact ⟨rfl, rfl, rfl, readyAfter⟩

/-- What continues an event after a packet continues it before. -/
theorem Continues.trans
    {follower : ActiveEvent} {packet later : DtmfTransmitPacket}
    (first : Continues event packet) (sent : Sent follower packet)
    (second : Continues follower later) :
    Continues event later := by
  constructor
  · rw [second.code, sent.code, first.code]
  · rw [second.timestamp, sent.timestamp, first.timestamp]
  · intro readyNow
    obtain ⟨isEnd, duration⟩ := first.final readyNow
    obtain ⟨stillEnd, sameDuration⟩ := second.final (sent.ready.trans isEnd)
    exact ⟨stillEnd, by rw [sameDuration, sent.duration, duration]⟩
  · intro notReady
    have grown := first.longer notReady
    have before := sent.duration
    cases isReady : ready follower with
    | true =>
      rw [(second.final isReady).2, before]
      exact grown
    | false =>
      have again := second.longer isReady
      rw [before] at again
      exact Nat.lt_trans grown again

/-- Asking for the end leaves what an event was sent with. -/
theorem requestEnd_sound (sound : sender.Sound) :
    sender.requestEnd.1.Sound ∧ ∀ event packet, sender.requestEnd.1.active = some event →
        Continues event packet →
        ∃ before, sender.active = some before ∧ Continues before packet := by
  rcases active : sender.active with _ | event
  · have same : sender.requestEnd.1 = sender := by simp [requestEnd, active]
    rw [same, active]
    exact ⟨sound, by simp⟩
  cases phase : event.phase with
  | ending remaining finalDurationReady =>
    have same : sender.requestEnd.1 = sender := by simp [requestEnd, active, phase]
    rw [same, active]
    exact ⟨sound, fun before packet found continues => ⟨before, found, continues⟩⟩
  | active =>
    have running := sound event active
    have notReady : ready event = false := by simp [ready, phase]
    have changed : sender.requestEnd.1 =
        { sender with
          active := some { event with
            phase := .ending sender.config.endRepetitions false } } := by
      simp [requestEnd, active, phase]
    rw [changed]
    constructor
    · intro follower same
      cases same
      refine ⟨fun _ => running.room notReady, ?_⟩
      intro remaining finalDurationReady ending
      have positive := sender.config.endRepetitions_pos
      cases ending
      intro zero
      rw [zero] at positive
      exact Nat.lt_irrefl 0 positive
    · intro follower packet same continues
      cases same
      refine ⟨event, rfl, continues.code, continues.timestamp, ?_, ?_⟩
      · intro readyNow
        rw [notReady] at readyNow
        cases readyNow
      · intro _
        exact continues.longer rfl

/-- A packet after another of the same run: of a later event, or of the same one
and then final or longer. -/
structure Later (earlier later : SentPacket) : Prop where
  number : earlier.number ≤ later.number
  event : earlier.number = later.number → later.packet.event.code = earlier.packet.event.code ∧
      later.packet.timestamp = earlier.packet.timestamp
  final : earlier.number = later.number → earlier.packet.event.isEnd = true →
    later.packet.event.isEnd = true ∧ later.packet.event.duration = earlier.packet.event.duration
  longer : earlier.number = later.number → earlier.packet.event.isEnd = false →
    earlier.packet.event.duration.toNat < later.packet.event.duration.toNat

/-- What a run sends belongs to the event in progress or to later ones. -/
theorem sentPackets_continue
    (calls : List Call) (sound : sender.Sound) (number : Nat) :
    ∀ sent ∈ sender.sentPackets number calls, number ≤ sent.number ∧ (sent.number = number →
          ∃ event, sender.active = some event ∧ Continues event sent.packet) := by
  induction calls generalizing sender number with
  | nil => simp [sentPackets]
  | cons call calls ih =>
    intro sent among
    cases call with
    | start code timestamp =>
      rcases active : sender.active with _ | event
      · obtain ⟨next, returned, fresh, _⟩ := start_of_idle active code timestamp
        simp only [sentPackets, returned] at among
        have later := (ih fresh (number + 1) sent among).1
        exact ⟨by omega, by omega⟩
      · simp only [sentPackets, start, active] at among
        rw [← active]
        exact ih sound number sent among
    | requestEnd =>
      obtain ⟨soundAfter, before⟩ := requestEnd_sound sound
      obtain ⟨later, continues⟩ := ih soundAfter number sent among
      refine ⟨later, fun same => ?_⟩
      obtain ⟨event, found, packets⟩ := continues same
      exact before event sent.packet found packets
    | nextPacket =>
      rcases active : sender.active with _ | event
      · simp only [sentPackets, nextPacket, active] at among
        rw [← active]
        exact ih sound number sent among
      · obtain ⟨next, packet, returned, first, soundAfter, told⟩ :=
          nextPacket_of_active sound active
        simp only [sentPackets, returned, List.mem_cons] at among
        rcases among with rfl | among
        · exact ⟨Nat.le_refl _, fun _ => ⟨event, rfl, first⟩⟩
        · obtain ⟨later, continues⟩ := ih soundAfter number sent among
          refine ⟨later, fun same => ?_⟩
          obtain ⟨follower, found, second⟩ := continues same
          exact ⟨event, rfl, first.trans (told follower found) second⟩
    | cancel =>
      obtain ⟨idle, soundAfter⟩ := cancel_idle sender
      obtain ⟨later, continues⟩ := ih soundAfter number sent among
      refine ⟨later, fun same => ?_⟩
      obtain ⟨follower, found, _⟩ := continues same
      rw [idle] at found
      cases found

/-- The packets of a run are in order. -/
theorem sentPackets_later
    (calls : List Call) (sound : sender.Sound) (number : Nat) :
    (sender.sentPackets number calls).Pairwise Later := by
  induction calls generalizing sender number with
  | nil => exact .nil
  | cons call calls ih =>
    cases call with
    | start code timestamp =>
      rcases active : sender.active with _ | event
      · obtain ⟨next, returned, fresh, _⟩ := start_of_idle active code timestamp
        simpa only [sentPackets, returned] using ih fresh (number + 1)
      · simpa only [sentPackets, start, active] using ih sound number
    | requestEnd => exact ih (requestEnd_sound sound).1 number
    | nextPacket =>
      rcases active : sender.active with _ | event
      · simpa only [sentPackets, nextPacket, active] using ih sound number
      · obtain ⟨next, packet, returned, first, soundAfter, told⟩ :=
          nextPacket_of_active sound active
        simp only [sentPackets, returned]
        refine .cons ?_ (ih soundAfter number)
        intro sent among
        obtain ⟨later, continues⟩ := sentPackets_continue calls soundAfter number sent among
        refine ⟨later, ?_, ?_, ?_⟩
        · intro same
          obtain ⟨follower, found, second⟩ := continues same.symm
          have last := told follower found
          exact ⟨second.code.trans last.code, second.timestamp.trans last.timestamp⟩
        · intro same isEnd
          obtain ⟨follower, found, second⟩ := continues same.symm
          have last := told follower found
          obtain ⟨stillEnd, duration⟩ := second.final (last.ready.trans isEnd)
          exact ⟨stillEnd, duration.trans last.duration⟩
        · intro same notEnd
          obtain ⟨follower, found, second⟩ := continues same.symm
          have last := told follower found
          have grown := second.longer (last.ready.trans notEnd)
          rwa [last.duration] at grown
    | cancel => exact ih (cancel_idle sender).2 number

/-- A run numbers the events that it starts upwards. -/
theorem startedEvents_number
    (calls : List Call) (sender : DtmfSender) (number : Nat) :
    ∀ event ∈ sender.startedEvents number calls, number < event.number := by
  induction calls generalizing sender number with
  | nil => simp [startedEvents]
  | cons call calls ih =>
    intro event among
    cases call with
    | start code timestamp =>
      rcases returned : sender.start code timestamp with ⟨next, error | _⟩
      · simp only [startedEvents, returned] at among
        exact ih next number event among
      · simp only [startedEvents, returned, List.mem_cons] at among
        rcases among with rfl | among
        · exact Nat.lt_succ_self number
        · have later := ih next (number + 1) event among
          omega
    | requestEnd => exact ih _ number event among
    | nextPacket => exact ih _ number event among
    | cancel => exact ih _ number event among

/-- The packets of a run are of the event in progress or of one that it starts. -/
theorem sentPackets_started
    (calls : List Call) (sender : DtmfSender) (number : Nat) :
    ∀ sent ∈ sender.sentPackets number calls, sent.number = number ∨
        ∃ event ∈ sender.startedEvents number calls, event.number = sent.number := by
  induction calls generalizing sender number with
  | nil => simp [sentPackets]
  | cons call calls ih =>
    intro sent among
    cases call with
    | start code timestamp =>
      rcases returned : sender.start code timestamp with ⟨next, error | _⟩
      · simp only [startedEvents, sentPackets, returned] at among ⊢
        exact ih next number sent among
      · simp only [startedEvents, sentPackets, returned] at among ⊢
        rcases ih next (number + 1) sent among with same | ⟨event, started, same⟩
        · exact .inr ⟨_, List.mem_cons_self, same.symm⟩
        · exact .inr ⟨event, List.mem_cons_of_mem _ started, same⟩
    | requestEnd => exact ih _ number sent among
    | nextPacket =>
      rcases returned : sender.nextPacket with ⟨next, error | _ | packet⟩
      · simp only [startedEvents, sentPackets, returned] at among ⊢
        exact ih next number sent among
      · simp only [startedEvents, sentPackets, returned] at among ⊢
        exact ih next number sent among
      · simp only [startedEvents, sentPackets, returned] at among ⊢
        rcases List.mem_cons.mp among with rfl | among
        · exact .inl rfl
        · exact ih next number sent among
    | cancel => exact ih _ number sent among

/-- The packets of an event have its code. -/
theorem sentPackets_code
    (calls : List Call) (sound : sender.Sound) (number : Nat) :
    ∀ event ∈ sender.startedEvents number calls, ∀ sent ∈ sender.sentPackets number calls,
        sent.number = event.number → sent.packet.event.code = event.code := by
  induction calls generalizing sender number with
  | nil => simp [startedEvents]
  | cons call calls ih =>
    intro event started sent among same
    cases call with
    | start code timestamp =>
      rcases active : sender.active with _ | running
      · obtain ⟨next, returned, fresh, begun⟩ := start_of_idle active code timestamp
        simp only [startedEvents, sentPackets, returned, List.mem_cons] at started among
        rcases started with rfl | started
        · obtain ⟨_, continues⟩ := sentPackets_continue calls fresh (number + 1) sent among
          obtain ⟨follower, found, packet⟩ := continues same
          rw [begun] at found
          cases found
          exact packet.code
        · exact ih fresh (number + 1) event started sent among same
      · simp only [startedEvents, sentPackets, start, active] at started among
        exact ih sound number event started sent among same
    | requestEnd =>
      exact ih (requestEnd_sound sound).1 number event started sent among same
    | nextPacket =>
      rcases active : sender.active with _ | running
      · simp only [startedEvents, sentPackets, nextPacket, active] at started among
        exact ih sound number event started sent among same
      · obtain ⟨next, packet, returned, _, soundAfter, _⟩ := nextPacket_of_active sound active
        simp only [startedEvents, sentPackets, returned, List.mem_cons] at started among
        rcases among with rfl | among
        · have later := startedEvents_number calls next number event started
          simp only at same
          omega
        · exact ih soundAfter number event started sent among same
    | cancel => exact ih (cancel_idle sender).2 number event started sent among same

end DtmfSender
end Rtp
end LiveAISIP
