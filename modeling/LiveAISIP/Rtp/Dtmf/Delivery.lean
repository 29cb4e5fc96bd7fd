import LiveAISIP.Rtp.Dtmf.Receiver
import LiveAISIP.Rtp.Dtmf.Sender

/-!
# Telephone events over a lossy channel

The packets of a sender reach a receiver in order, some of them lost and some of
them twice or more often.  What the receiver makes of a packet depends only on the
packet delivered before it.
-/

namespace LiveAISIP
namespace Rtp

open DtmfSender (SentPacket StartedEvent Later)
open DtmfReceiver List

variable {previous : Option SentPacket} {sent before : SentPacket} {receiver : DtmfReceiver}
  {delivered : List SentPacket}

/-- A channel that keeps the order and may lose or duplicate. -/
inductive Delivery : List SentPacket → List SentPacket → Prop
  | nil : Delivery [] []
  | lose {sent : SentPacket} {emitted delivered : List SentPacket} :
      Delivery emitted delivered → Delivery (sent :: emitted) delivered
  | deliver {sent : SentPacket} {emitted delivered : List SentPacket} :
      Delivery (sent :: emitted) delivered →
      Delivery (sent :: emitted) (sent :: delivered)

/-- One delivered packet and what the receiver returned for it. -/
structure Observation where
  sent : SentPacket
  result : Except DtmfReceiveError DtmfReceiveUpdate

/-- The receiver after the delivered packets, with its results. -/
def observeAll (receiver : DtmfReceiver) : List SentPacket → DtmfReceiver × List Observation
  | [] => (receiver, [])
  | sent :: delivered =>
    let (next, result) :=
      receiver.observe sent.packet.timestamp sent.packet.marker sent.packet.event
    let (final, observations) := observeAll next delivered
    (final, ⟨sent, result⟩ :: observations)

/-- The code and the duration of an `ended` update. -/
def Observation.ended (observation : Observation) : Option (TelephoneEventCode × UInt16) :=
  match observation.result with
  | .ok (.ended code duration _) => some (code, duration)
  | _ => none

/-- The `ended` updates for the packets of one event. -/
def endingsOf (number : Nat) (observations : List Observation) :
    List (TelephoneEventCode × UInt16) :=
  observations.filterMap fun observation =>
    if observation.sent.number = number then observation.ended else none

/-- The receiver accepts every packet, ends each event of which an end packet came
exactly once, and counts what it ends. -/
structure ExactlyOnce (started : List StartedEvent) (delivered : List SentPacket) :
    Prop where
  accepted : ∀ observation ∈
      (observeAll (.new .interoperable) delivered).2, ∃ update, observation.result = .ok update
  once : ∀ event ∈ started, ∀ sent ∈ delivered,
    sent.number = event.number → sent.packet.event.isEnd = true →
      endingsOf event.number (observeAll (.new .interoperable) delivered).2 =
        [(event.code, sent.packet.event.duration)]
  counted : ((observeAll (.new .interoperable) delivered).2.filterMap
      Observation.ended).length =
    (observeAll (.new .interoperable) delivered).1.completedEvents

/-- Each delivered packet with the one delivered before it. -/
def transitions (previous : Option SentPacket) :
    List SentPacket → List (Option SentPacket × SentPacket)
  | [] => []
  | sent :: delivered => (previous, sent) :: transitions (some sent) delivered

/-- A packet of a new event lies less than half the timestamp range after the event
before. -/
def near (transition : Option SentPacket × SentPacket) : Bool := transition.1.all fun previous =>
    previous.number == transition.2.number ||
      decide (0 < signedTimestampDistance transition.2.packet.timestamp previous.packet.timestamp)

/-- The first end packet of an event. -/
def completes (transition : Option SentPacket × SentPacket) : Bool :=
  transition.2.packet.event.isEnd &&
    !transition.1.any fun previous =>
      previous.number == transition.2.number && previous.packet.event.isEnd

/-- A packet that is not the end of an unseen event right after an event whose end
is missing. -/
def visible (transition : Option SentPacket × SentPacket) : Bool :=
  !transition.2.packet.event.isEnd ||
    transition.1.all fun previous =>
      previous.number == transition.2.number || previous.packet.event.isEnd

/-- What the `ended` update of a packet tells. -/
def endingOf (transition : Option SentPacket × SentPacket) : Option (TelephoneEventCode × UInt16) :=
  if completes transition && visible transition then
    some (transition.2.packet.event.code, transition.2.packet.event.duration)
  else none

/-- The first end packets of one event. -/
def completionsOf (number : Nat) (previous : Option SentPacket)
    (delivered : List SentPacket) : List (Option SentPacket × SentPacket) :=
  (transitions previous delivered).filter fun transition =>
    transition.2.number == number && completes transition

/-- The same packet again, or a later one. -/
def Follows (earlier later : SentPacket) : Prop := earlier = later ∨ Later earlier later

/-- The event of the receiver is that of the last packet. -/
def Tracks (receiver : DtmfReceiver) : Option SentPacket → Prop
  | none => receiver.active = none ∧ receiver.completed = none
  | some sent =>
    ∃ volume,
      let state : EventState := ⟨sent.packet.event.code, sent.packet.timestamp, volume,
        sent.packet.event.duration⟩
      if sent.packet.event.isEnd then receiver.active = none ∧ receiver.completed = some state
      else receiver.active = some state

/-- What observing one packet does, given the packet before. -/
structure Observes (receiver : DtmfReceiver) (transition : Option SentPacket × SentPacket)
    (returned : DtmfReceiver × Except DtmfReceiveError DtmfReceiveUpdate) : Prop where
  config : returned.1.config = receiver.config
  tracks : Tracks returned.1 (some transition.2)
  accepted : ∃ update, returned.2 = .ok update
  ended : Observation.ended ⟨transition.2, returned.2⟩ = endingOf transition
  completedEvents : returned.1.completedEvents =
    if completes transition then saturatingAdd receiver.completedEvents 1
    else receiver.completedEvents

/-- The first packet of an event when none is in progress. -/
theorem observes_startOrRecover
    (receiver : DtmfReceiver) (idle : receiver.active = none)
    (ended : ∀ before ∈ previous, before.number ≠ sent.number ∧ before.packet.event.isEnd = true) :
    Observes receiver (previous, sent)
      ((receiver.startOrRecover sent.packet.timestamp sent.packet.event).1,
        .ok (receiver.startOrRecover sent.packet.timestamp sent.packet.event).2) := by
  have shown : visible (previous, sent) = true := by
    cases previous with
    | none => simp [visible]
    | some before => simp [visible, (ended before rfl).2]
  have first : completes (previous, sent) = sent.packet.event.isEnd := by
    cases previous with
    | none => simp [completes]
    | some before => simp [completes, (ended before rfl).1]
  cases isEnd : sent.packet.event.isEnd with
  | true =>
    constructor <;>
      simp [startOrRecover, stateOf, Tracks, Observation.ended, endingOf, isEnd, idle, shown, first]
  | false =>
    constructor <;>
      simp [startOrRecover, stateOf, Tracks, Observation.ended, endingOf, isEnd, shown, first]

/-- The first packet of an event while another is in progress. -/
theorem observes_replaceActive
    (receiver : DtmfReceiver) (active : EventState)
    (other : before.number ≠ sent.number) (unfinished : before.packet.event.isEnd = false) :
    Observes receiver (some before, sent)
      ((receiver.replaceActive active sent.packet.timestamp sent.packet.event).1,
        .ok (receiver.replaceActive active sent.packet.timestamp sent.packet.event).2) := by
  have first : completes (some before, sent) = sent.packet.event.isEnd := by
    simp [completes, other]
  have shown : visible (some before, sent) = !sent.packet.event.isEnd := by
    simp [visible, other, unfinished]
  cases isEnd : sent.packet.event.isEnd <;> constructor <;>
      simp [replaceActive, stateOf, Tracks, Observation.ended, endingOf, isEnd, shown, first]

/-- A later packet of the event in progress. -/
theorem observes_observeActive
    (receiver : DtmfReceiver) {volume : UInt8}
    (active : receiver.active = some ⟨before.packet.event.code, before.packet.timestamp,
      volume, before.packet.event.duration⟩)
    (follows : Follows before sent) (same : before.number = sent.number)
    (unfinished : before.packet.event.isEnd = false) :
    Observes receiver (some before, sent)
      (receiver.observeActive ⟨before.packet.event.code, before.packet.timestamp, volume,
        before.packet.event.duration⟩ sent.packet.event) := by
  have first : completes (some before, sent) = sent.packet.event.isEnd := by
    simp [completes, unfinished]
  have shown : visible (some before, sent) = true := by simp [visible, same]
  rcases follows with rfl | later
  · constructor <;>
      simp [observeActive, Tracks, Observation.ended, endingOf, unfinished, shown, first, active]
  · obtain ⟨code, timestamp⟩ := later.event same
    have grown := later.longer same unfinished
    have longer : ¬ sent.packet.event.duration < before.packet.event.duration := by
      rw [UInt16.lt_iff_toNat_lt]
      omega
    have different : ¬ sent.packet.event.duration = before.packet.event.duration := by
      intro equal
      rw [equal] at grown
      exact Nat.lt_irrefl _ grown
    cases isEnd : sent.packet.event.isEnd <;> constructor <;>
        simp [observeActive, Tracks, Observation.ended, endingOf, isEnd, shown, first,
          code, timestamp, longer, different]

/-- A packet of the completed event. -/
theorem observes_duplicate
    (receiver : DtmfReceiver) {volume : UInt8} (idle : receiver.active = none)
    (completed : receiver.completed = some ⟨before.packet.event.code,
      before.packet.timestamp, volume, before.packet.event.duration⟩)
    (follows : Follows before sent) (same : before.number = sent.number)
    (finished : before.packet.event.isEnd = true) :
    Observes receiver (some before, sent)
      ({ receiver with duplicates := saturatingAdd receiver.duplicates 1 }, .ok .duplicate) := by
  have again : completes (some before, sent) = false := by
    simp [completes, same, finished]
  have final : sent.packet.event.isEnd = true ∧ sent.packet.event.code = before.packet.event.code ∧
      sent.packet.timestamp = before.packet.timestamp ∧
      sent.packet.event.duration = before.packet.event.duration := by
    rcases follows with rfl | later
    · exact ⟨finished, rfl, rfl, rfl⟩
    · obtain ⟨isEnd, duration⟩ := later.final same finished
      exact ⟨isEnd, (later.event same).1, (later.event same).2, duration⟩
  obtain ⟨isEnd, code, timestamp, duration⟩ := final
  constructor <;>
    simp [Tracks, Observation.ended, endingOf, isEnd, again, idle, completed, code, timestamp,
      duration]

/-- The policy of an interoperable receiver lets every packet start an event. -/
theorem validateNewStart_interoperable (config : receiver.config = .interoperable) (marker : Bool) :
    receiver.validateNewStart marker = .ok () := by
  simp [validateNewStart, config, DtmfReceiverConfig.interoperable]

theorem not_le_zero_of_near (other : before.number ≠ sent.number)
    (close : near (some before, sent) = true) :
    ¬ signedTimestampDistance sent.packet.timestamp before.packet.timestamp ≤ 0 ∧
      ¬ before.packet.timestamp = sent.packet.timestamp := by
  have positive : 0 < signedTimestampDistance sent.packet.timestamp
      before.packet.timestamp := by simpa [near, other] using close
  refine ⟨Int32.not_le.mpr positive, fun same => ?_⟩
  rw [same, signedTimestampDistance_self] at positive
  exact Int32.lt_irrefl positive

/-- Observing a packet after another. -/
theorem observes_observe
    (config : receiver.config = .interoperable) (tracks : Tracks receiver previous)
    (follows : ∀ before ∈ previous, Follows before sent) (close : near (previous, sent) = true) :
    Observes receiver (previous, sent)
      (receiver.observe sent.packet.timestamp sent.packet.marker sent.packet.event) := by
  let counted := { receiver with packets := saturatingAdd receiver.packets 1 }
  have valid : counted.validateNewStart sent.packet.marker = .ok () :=
    validateNewStart_interoperable config sent.packet.marker
  -- Counting the packet touches nothing that is said of an observation.
  suffices observed : Observes counted (previous, sent)
      (receiver.observe sent.packet.timestamp sent.packet.marker sent.packet.event) from
    ⟨observed.config, observed.tracks, observed.accepted, observed.ended, observed.completedEvents⟩
  cases previous with
  | none =>
    obtain ⟨idle, fresh⟩ := tracks
    have started : receiver.observe sent.packet.timestamp sent.packet.marker sent.packet.event =
        ((counted.startOrRecover sent.packet.timestamp sent.packet.event).1,
          .ok (counted.startOrRecover sent.packet.timestamp sent.packet.event).2) := by
      simp only [observe, idle, fresh]
      simp only [counted, idle, fresh] at valid ⊢
      rw [valid]
    rw [started]
    exact observes_startOrRecover counted idle (by simp)
  | some before =>
    have followed := follows before rfl
    obtain ⟨volume, state⟩ := tracks
    cases finished : before.packet.event.isEnd with
    | true =>
      simp only [finished, if_true] at state
      obtain ⟨idle, completed⟩ := state
      by_cases same : before.number = sent.number
      · have timestamp : before.packet.timestamp = sent.packet.timestamp ∧
            before.packet.event.code = sent.packet.event.code := by
          rcases followed with rfl | later
          · exact ⟨rfl, rfl⟩
          · exact ⟨(later.event same).2.symm, (later.event same).1.symm⟩
        have repeated : receiver.observe sent.packet.timestamp sent.packet.marker
            sent.packet.event =
            ({ counted with duplicates := saturatingAdd counted.duplicates 1 },
              .ok .duplicate) := by
          simp [observe, idle, completed, timestamp, counted]
        rw [repeated]
        exact observes_duplicate counted idle completed followed same finished
      · obtain ⟨later, different⟩ := not_le_zero_of_near same close
        have started : receiver.observe sent.packet.timestamp sent.packet.marker
            sent.packet.event =
            ((counted.startOrRecover sent.packet.timestamp sent.packet.event).1,
              .ok (counted.startOrRecover sent.packet.timestamp sent.packet.event).2) := by
          simp only [observe, idle, completed, different, later, if_false]
          simp only [counted, idle, completed] at valid ⊢
          rw [valid]
        rw [started]
        refine observes_startOrRecover counted idle ?_
        intro packet last
        cases last
        exact ⟨same, finished⟩
    | false =>
      have active : receiver.active = some ⟨before.packet.event.code,
          before.packet.timestamp, volume, before.packet.event.duration⟩ := by
        simpa [finished] using state
      by_cases same : before.number = sent.number
      · have timestamp : before.packet.timestamp = sent.packet.timestamp := by
          rcases followed with rfl | later
          · rfl
          · exact (later.event same).2.symm
        have continued : receiver.observe sent.packet.timestamp sent.packet.marker
            sent.packet.event =
            counted.observeActive ⟨before.packet.event.code, before.packet.timestamp,
              volume, before.packet.event.duration⟩ sent.packet.event := by
          simp only [observe, active, timestamp, if_true, counted]
        rw [continued]
        exact observes_observeActive counted active followed same finished
      · obtain ⟨later, different⟩ := not_le_zero_of_near same close
        have replaced : receiver.observe sent.packet.timestamp sent.packet.marker
            sent.packet.event =
            ((counted.replaceActive ⟨before.packet.event.code, before.packet.timestamp,
                volume, before.packet.event.duration⟩ sent.packet.timestamp
                sent.packet.event).1, .ok (counted.replaceActive ⟨before.packet.event.code,
                before.packet.timestamp, volume, before.packet.event.duration⟩
                sent.packet.timestamp sent.packet.event).2) := by
          simp only [observe, active, different, later, if_false]
          simp only [counted, active] at valid ⊢
          rw [valid]
        rw [replaced]
        exact observes_replaceActive counted _ same finished

/-- The packets follow each other, from the one before them on. -/
def InOrder (previous : Option SentPacket) (delivered : List SentPacket) : Prop :=
  (∀ before ∈ previous, ∀ sent ∈ delivered, Follows before sent) ∧ delivered.Pairwise Follows

theorem InOrder.tail
    (order : InOrder previous (sent :: delivered)) :
    InOrder (some sent) delivered := by
  obtain ⟨first, rest⟩ := pairwise_cons.mp order.2
  refine ⟨fun before last => ?_, rest⟩
  cases last
  exact first

/-- What is delivered was emitted. -/
theorem Delivery.mem
    {emitted : List SentPacket} (delivery : Delivery emitted delivered) :
    ∀ sent ∈ delivered, sent ∈ emitted := by
  induction delivery with
  | nil => simp
  | lose _ ih => exact fun sent among => mem_cons_of_mem _ (ih sent among)
  | deliver _ ih =>
    intro sent among
    rcases mem_cons.mp among with rfl | among
    · exact mem_cons_self
    · exact ih sent among

/-- The channel keeps the order. -/
theorem Delivery.pairwise
    {emitted : List SentPacket} (delivery : Delivery emitted delivered)
    (order : emitted.Pairwise Later) :
    delivered.Pairwise Follows := by
  induction delivery with
  | nil => exact .nil
  | lose _ ih => exact ih (pairwise_cons.mp order).2
  | deliver delivery ih =>
    refine .cons ?_ (ih order)
    intro sent among
    rcases mem_cons.mp (delivery.mem sent among) with rfl | later
    · exact .inl rfl
    · exact .inr ((pairwise_cons.mp order).1 sent later)

/-- Every observation of a delivery is that of its transition. -/
theorem observeAll_spec
    (delivered : List SentPacket) (config : receiver.config = .interoperable)
    (tracks : Tracks receiver previous) (order : InOrder previous delivered)
    (close : ∀ transition ∈ transitions previous delivered, near transition = true)
    (bound : receiver.completedEvents ≤ 2 ^ 64 - 1) :
    (∀ observation ∈ (observeAll receiver delivered).2, ∃ update, observation.result = .ok update) ∧
      (observeAll receiver delivered).2.map
          (fun observation => (observation.sent, observation.ended)) =
        (transitions previous delivered).map (fun transition =>
          (transition.2, endingOf transition)) ∧
      (observeAll receiver delivered).1.completedEvents = saturatingAdd receiver.completedEvents
          ((transitions previous delivered).countP completes) := by
  induction delivered generalizing receiver previous with
  | nil => simpa [observeAll, transitions, saturatingAdd] using bound
  | cons sent delivered ih =>
    have step := observes_observe config tracks
      (fun before last => order.1 before last sent mem_cons_self)
      (close (previous, sent) mem_cons_self)
    rcases returned : receiver.observe sent.packet.timestamp sent.packet.marker
      sent.packet.event with ⟨next, result⟩
    rw [returned] at step
    have still : next.completedEvents ≤ 2 ^ 64 - 1 := by
      have counted := step.completedEvents
      simp only at counted
      rw [counted]
      split
      · exact Nat.min_le_right _ _
      · exact bound
    obtain ⟨accepted, ended, counted⟩ := ih (step.config.trans config) step.tracks
      order.tail (fun transition later => close transition (mem_cons_of_mem _ later))
      still
    simp only [observeAll, returned, transitions]
    refine ⟨?_, ?_, ?_⟩
    · intro observation among
      rcases mem_cons.mp among with rfl | among
      · exact step.accepted
      · exact accepted observation among
    · simp only [map_cons, ended, step.ended]
    · rw [counted, step.completedEvents, countP_cons]
      split
      · simp only [saturatingAdd]
        omega
      · rfl

/-- The packets of a transition were delivered. -/
theorem mem_of_mem_transitions
    {transition : Option SentPacket × SentPacket}
    (among : transition ∈ transitions previous delivered) :
    transition.2 ∈ delivered := by
  induction delivered generalizing previous with
  | nil => cases among
  | cons sent delivered ih =>
    rcases mem_cons.mp among with rfl | later
    · exact mem_cons_self
    · exact mem_cons_of_mem _ (ih later)

theorem completionsOf_eq_nil
    {number : Nat} (absent : ∀ sent ∈ delivered, sent.number ≠ number) :
    completionsOf number previous delivered = [] := by
  rw [completionsOf, filter_eq_nil_iff]
  intro transition among
  simp [absent transition.2 (mem_of_mem_transitions among)]

/-- No first end packet of an event comes after an end packet of it. -/
theorem completionsOf_of_ended
    (delivered : List SentPacket) (order : InOrder (some before) delivered)
    (ended : before.packet.event.isEnd = true) :
    completionsOf before.number (some before) delivered = [] := by
  induction delivered generalizing before with
  | nil => rfl
  | cons sent delivered ih =>
    have follows := order.1 before rfl sent mem_cons_self
    by_cases same : before.number = sent.number
    · have still : sent.packet.event.isEnd = true := by
        rcases follows with rfl | later
        · exact ended
        · exact (later.final same ended).1
      have again : completes (some before, sent) = false := by
        simp [completes, same, ended]
      have rest := ih order.tail still
      rw [← same] at rest
      simpa [completionsOf, transitions, again] using rest
    · -- Every packet from here on is of a later event.
      have later : ∀ packet ∈ sent :: delivered, before.number < packet.number := by
        have first : before.number < sent.number := by
          rcases follows with rfl | later
          · exact absurd rfl same
          · exact Nat.lt_of_le_of_ne later.number same
        intro packet among
        rcases mem_cons.mp among with rfl | among
        · exact first
        · rcases order.tail.1 sent rfl packet among with rfl | further
          · exact first
          · exact Nat.lt_of_lt_of_le first further.number
      exact completionsOf_eq_nil fun packet among equal =>
        Nat.lt_irrefl _ (equal ▸ later packet among)

/-- An event with an end packet among the delivered ones has one first end packet,
with its code and its final duration. -/
theorem completionsOf_of_end
    (delivered : List SentPacket) (order : InOrder previous delivered)
    (open_ : ∀ before ∈ previous, before.number = sent.number → before.packet.event.isEnd = false)
    (among : sent ∈ delivered) (isEnd : sent.packet.event.isEnd = true) :
    ∃ transition, completionsOf sent.number previous delivered = [transition] ∧
      transition.2.packet.event.code = sent.packet.event.code ∧
      transition.2.packet.event.duration = sent.packet.event.duration := by
  induction delivered generalizing previous with
  | nil => cases among
  | cons first delivered ih =>
    by_cases ends : first.number = sent.number ∧ first.packet.event.isEnd = true
    · obtain ⟨number, ended⟩ := ends
      have completing : completes (previous, first) = true := by
        cases previous with
        | none => simp [completes, ended]
        | some before =>
          have unfinished := open_ before rfl
          rw [← number] at unfinished
          simpa [completes, ended, imp_iff_not_or] using unfinished
      have rest := completionsOf_of_ended delivered order.tail ended
      have final : first.packet.event.code = sent.packet.event.code ∧
          first.packet.event.duration = sent.packet.event.duration := by
        rcases mem_cons.mp among with rfl | later
        · exact ⟨rfl, rfl⟩
        · rcases order.tail.1 first rfl sent later with rfl | follows
          · exact ⟨rfl, rfl⟩
          · exact ⟨(follows.event number).1.symm, (follows.final number ended).2.symm⟩
      refine ⟨(previous, first), ?_, final⟩
      rw [number] at rest
      simpa [completionsOf, transitions, number, completing] using rest
    · have skipped : (first.number == sent.number && completes (previous, first)) =
          false := by
        rw [not_and] at ends
        cases number : first.number == sent.number with
        | false => rfl
        | true => simp [completes, ends (beq_iff_eq.mp number)]
      have later : sent ∈ delivered := by
        rcases mem_cons.mp among with rfl | later
        · exact absurd ⟨rfl, isEnd⟩ ends
        · exact later
      have still : ∀ before ∈ some first,
          before.number = sent.number → before.packet.event.isEnd = false := by
        intro before last number
        cases last
        simpa [number] using ends
      obtain ⟨transition, only, final⟩ := ih order.tail still later
      refine ⟨transition, ?_, final⟩
      rw [← only]
      simp [completionsOf, transitions, skipped]

/-- The `ended` updates of one event come from its first end packets. -/
theorem endingsOf_eq
    {observations : List Observation}
    (ended : observations.map (fun observation => (observation.sent, observation.ended)) =
      (transitions none delivered).map (fun transition => (transition.2, endingOf transition)))
    (number : Nat) :
    endingsOf number observations = (completionsOf number none delivered).filterMap endingOf := by
  have paired := congrArg (filterMap fun entry :
    SentPacket × Option (TelephoneEventCode × UInt16) =>
      if entry.1.number = number then entry.2 else none) ended
  rw [filterMap_map, filterMap_map] at paired
  rw [completionsOf, filterMap_filter]
  refine paired.trans (filterMap_congr fun transition _ => ?_)
  by_cases same : transition.2.number = number <;>
    cases first : completes transition <;> simp [same, first, endingOf]

/-- The `ended` updates are as many as the first end packets that are visible. -/
theorem length_ended
    {observations : List Observation}
    (ended : observations.map (fun observation => (observation.sent, observation.ended)) =
      (transitions none delivered).map (fun transition => (transition.2, endingOf transition))) :
    (observations.filterMap Observation.ended).length =
      (transitions none delivered).countP fun transition =>
        completes transition && visible transition := by
  have paired := congrArg (filterMap fun entry :
    SentPacket × Option (TelephoneEventCode × UInt16) => entry.2) ended
  rw [filterMap_map, filterMap_map] at paired
  have same : observations.filterMap Observation.ended =
      (transitions none delivered).filterMap endingOf := paired
  rw [same, length_filterMap_eq_countP]
  congr 1
  ext transition
  rw [endingOf]
  split <;> simp_all

theorem countP_of_visible
    {steps : List (Option SentPacket × SentPacket)}
    (shown : ∀ transition ∈ steps, visible transition = true) :
    steps.countP (fun transition => completes transition && visible transition) =
      steps.countP completes := by
  refine countP_congr fun transition member => ?_
  simp [shown transition member]

/-- An invisible packet is the first end packet of its event. -/
theorem completes_of_hidden
    {transition : Option SentPacket × SentPacket} (hidden : visible transition = false) :
    transition.2.packet.event.isEnd = true ∧ completes transition = true := by
  obtain ⟨_ | previous, sent⟩ := transition
  · simp [visible] at hidden
  · simp only [visible, Option.all_some, Bool.or_eq_false_iff, Bool.not_eq_false',
      beq_eq_false_iff_ne] at hidden
    obtain ⟨isEnd, other, _⟩ := hidden
    simp [completes, isEnd, other]

/-- Every delivered packet is of an event that was started. -/
theorem started_of_delivered
    {config : DtmfSenderConfig} {calls : List DtmfSender.Call}
    (delivery : Delivery ((DtmfSender.new config).sentPackets 0 calls) delivered)
    (among : sent ∈ delivered) :
    ∃ event ∈ (DtmfSender.new config).startedEvents 0 calls, event.number = sent.number := by
  have emitted := delivery.mem sent among
  rcases DtmfSender.sentPackets_started calls _ 0 sent emitted with zero | started
  · obtain ⟨_, continues⟩ := DtmfSender.sentPackets_continue calls
      (DtmfSender.sound_new config) 0 sent emitted
    obtain ⟨event, active, _⟩ := continues zero
    cases active
  · exact started

/-- Over a channel that loses and duplicates, an interoperable receiver ends each
event exactly once if and only if no event is first seen by an end packet while the
event before lacks its own, and the count of events fits its counter. -/
theorem exactlyOnce_iff
    (config : DtmfSenderConfig) (calls : List DtmfSender.Call) (delivered : List SentPacket)
    (delivery : Delivery ((DtmfSender.new config).sentPackets 0 calls) delivered)
    (close : ∀ transition ∈ transitions none delivered, near transition = true) :
    ExactlyOnce ((DtmfSender.new config).startedEvents 0 calls) delivered ↔
      (∀ transition ∈ transitions none delivered, visible transition = true) ∧
        (transitions none delivered).countP completes < 2 ^ 64 := by
  have sound := DtmfSender.sound_new config
  have order : InOrder none delivered :=
    ⟨by simp, delivery.pairwise (DtmfSender.sentPackets_later calls sound 0)⟩
  obtain ⟨accepted, ended, counted⟩ := observeAll_spec delivered
    (show (new .interoperable).config = _ from rfl)
    (show Tracks _ none from ⟨rfl, rfl⟩) order close (Nat.zero_le _)
  have endings := endingsOf_eq ended
  have length := length_ended ended
  have count : (observeAll (.new .interoperable) delivered).1.completedEvents =
      min ((transitions none delivered).countP completes) (2 ^ 64 - 1) := by
    rw [counted]
    simp [saturatingAdd, new]
  constructor
  · intro once
    have shown : ∀ transition ∈ transitions none delivered, visible transition = true := by
      intro transition member
      by_contra hidden
      rw [Bool.not_eq_true] at hidden
      obtain ⟨isEnd, first⟩ := completes_of_hidden hidden
      have among := mem_of_mem_transitions member
      obtain ⟨event, started, number⟩ := started_of_delivered delivery among
      obtain ⟨only, single, _⟩ := completionsOf_of_end delivered order (by simp) among isEnd
      have found : transition ∈ completionsOf transition.2.number none delivered :=
        mem_filter.mpr ⟨member, by simp [first]⟩
      rw [single, mem_singleton] at found
      have ending := once.once event started transition.2 among number.symm isEnd
      rw [endings, number, single, ← found] at ending
      simp [endingOf, hidden] at ending
    have same := once.counted
    rw [length, count, countP_of_visible shown] at same
    exact ⟨shown, by omega⟩
  · rintro ⟨shown, few⟩
    refine ⟨accepted, ?_, ?_⟩
    · intro event started sent among number isEnd
      have code := DtmfSender.sentPackets_code calls sound 0 event started sent
        (delivery.mem sent among) number
      obtain ⟨transition, only, sameCode, sameDuration⟩ :=
        completionsOf_of_end delivered order (by simp) among isEnd
      obtain ⟨member, tagged⟩ := mem_filter.mp (only ▸ mem_singleton_self transition)
      rw [Bool.and_eq_true] at tagged
      rw [endings, ← number, only]
      simp [endingOf, shown transition member, tagged.2, sameCode, sameDuration, code]
    · rw [length, count, countP_of_visible shown]
      omega

/-- Event start timestamps that increase, each within half the range of the one
before. -/
def Increasing (started : List StartedEvent) : Prop := started.IsChain fun earlier later =>
    0 < signedTimestampDistance later.timestamp earlier.timestamp

/-- A sender with two end packets for each event. -/
def sampleSenderConfig : DtmfSenderConfig where
  packetTicks := 160
  maximumTicks := 1600
  volume := 10
  endRepetitions := 2
  packetTicks_pos := by decide
  packetTicks_le := by decide
  volume_le := by decide
  endRepetitions_pos := by decide
  endRepetitions_le := by decide

/-- The key 1 and the key 2. -/
def sampleCalls : List DtmfSender.Call :=
  [.start (.digit .one) 0, .nextPacket, .requestEnd, .nextPacket, .nextPacket,
    .start (.digit .two) 1000, .requestEnd, .nextPacket, .nextPacket]

/-- A packet of `sampleCalls`. -/
def samplePacket (number : Nat) (key : DtmfDigit) (timestamp : UInt32) (marker isEnd : Bool)
    (duration : UInt16) (final : Bool) : SentPacket :=
  ⟨number, ⟨timestamp, marker, ⟨.digit key, isEnd, 10, duration⟩, final⟩⟩

theorem sentPackets_sampleCalls :
    (DtmfSender.new sampleSenderConfig).sentPackets 0 sampleCalls =
      [samplePacket 1 .one 0 true false 160 false, samplePacket 1 .one 0 false true 320 false,
        samplePacket 1 .one 0 false true 320 true, samplePacket 2 .two 1000 true true 160 false,
        samplePacket 2 .two 1000 false true 160 true] := by
  decide +kernel

/-- The end packets of the key 1 come twice, and one end packet of the key 2. -/
theorem exactlyOnce_iff_sampleCalls :
    ExactlyOnce ((DtmfSender.new sampleSenderConfig).startedEvents 0 sampleCalls)
      [samplePacket 1 .one 0 true false 160 false, samplePacket 1 .one 0 false true 320 false,
        samplePacket 1 .one 0 false true 320 false,
        samplePacket 2 .two 1000 false true 160 true] := by
  refine (exactlyOnce_iff sampleSenderConfig sampleCalls _ ?_ ?_).mpr ?_
  · rw [sentPackets_sampleCalls]
    exact .deliver (.lose (.deliver (.deliver (.lose (.lose (.lose (.deliver (.lose .nil))))))))
  · decide +kernel
  · decide +kernel

/-- The end packets of the key 1 are lost, and the key 2 is first seen by one of its
end packets: it is completed and counted, but no `ended` update tells of it. -/
theorem not_exactlyOnce_sampleCalls :
    Increasing ((DtmfSender.new sampleSenderConfig).startedEvents 0 sampleCalls) ∧
      Delivery ((DtmfSender.new sampleSenderConfig).sentPackets 0 sampleCalls)
        [samplePacket 1 .one 0 true false 160 false, samplePacket 2 .two 1000 true true 160 false] ∧
      ¬ ExactlyOnce ((DtmfSender.new sampleSenderConfig).startedEvents 0 sampleCalls)
        [samplePacket 1 .one 0 true false 160 false,
          samplePacket 2 .two 1000 true true 160 false] := by
  refine ⟨?_, ?_, fun once => ?_⟩
  · rw [Increasing]
    decide +kernel
  · rw [sentPackets_sampleCalls]
    exact .deliver (.lose (.lose (.lose (.deliver (.lose (.lose .nil))))))
  · exact absurd once.counted (by decide +kernel)

end Rtp
end LiveAISIP
