import LiveAISIP.Call.Lifecycle
import LiveAISIP.Library.AtomicCounter
import LiveAISIP.Rtp.Source
import Mathlib.Data.List.Perm.Basic

/-!
# The command queue of a call

The bounded mailbox of `call/execution/handle.rs`.  A counter reserves the places of the
channel before anything is sent, and the last place is kept for a shutdown.  Any number
of producers send at once; the counter and the channel are different words, so a message
may be on its way into the channel, or out of it, while the others run.
-/

namespace LiveAISIP
namespace Call

open AtomicCounter Rtp
open List

/-- Hard per-call queue capacity ceiling. -/
def maxCallQueueCapacity : Nat := 65536

/-- Smallest supported per-call native stack. -/
def minCallThreadStackBytes : Nat := 128 * 1024

/-- Largest supported per-call native stack. -/
def maxCallThreadStackBytes : Nat := 8 * 1024 * 1024

/-- Failure of a call thread's resource policy. -/
inductive CallThreadError
  | invalidMailboxCapacity
  | invalidActionCapacity
  | invalidStackSize

/-- Validated native call-thread resource policy. -/
structure CallThreadConfig where
  mailboxCapacity : Nat
  actionCapacity : Nat
  stackSize : Nat
  mailbox : 2 ≤ mailboxCapacity ∧ mailboxCapacity ≤ maxCallQueueCapacity
  action : 0 < actionCapacity ∧ actionCapacity ≤ maxCallQueueCapacity
  stack : minCallThreadStackBytes ≤ stackSize ∧ stackSize ≤ maxCallThreadStackBytes

theorem CallThreadConfig.capacity_pos (config : CallThreadConfig) : 0 < config.mailboxCapacity :=
  Nat.lt_of_lt_of_le Nat.two_pos config.mailbox.1

/-- Validate bounded queues and native stack size. -/
def CallThreadConfig.new
    (mailboxCapacity actionCapacity stackSize : Nat) :
    Except CallThreadError CallThreadConfig :=
  if mailbox : 2 ≤ mailboxCapacity ∧ mailboxCapacity ≤ maxCallQueueCapacity then
    if action : 0 < actionCapacity ∧ actionCapacity ≤ maxCallQueueCapacity then
      if stack : minCallThreadStackBytes ≤ stackSize ∧ stackSize ≤ maxCallThreadStackBytes then
        .ok ⟨mailboxCapacity, actionCapacity, stackSize, mailbox, action, stack⟩
      else
        .error .invalidStackSize
    else
      .error .invalidActionCapacity
  else
    .error .invalidMailboxCapacity

/-- Native audio queue direction. -/
inductive AudioDirection
  | receive
  | transmit

/-- Bounded mailbox message entering a call thread. -/
inductive CallMessage
  | event (event : CallEvent)
  | networkReady (component : Component)
  | signalingReady
  | audioReady (generation : UInt64) (direction : AudioDirection)
  | shutdown

/-- Everything but a shutdown. -/
def CallMessage.isOrdinary : CallMessage → Bool
  | shutdown => false
  | _ => true

/-- Bounded call submission rejection class. -/
inductive CallSubmitErrorKind
  | full
  | closed

/-- Up to where a message may fill the queue. -/
def sendLimit (capacity : Nat) : CallMessage → Nat
  | .shutdown => capacity
  | _ => capacity - 1

/-- Where a call of `CommandSender::try_send` stands. -/
inductive SendPhase (capacity : Nat)
  /-- Before the load of the depth. -/
  | starting (message : CallMessage)
  /-- Between the load and the compare-exchange. -/
  | trying (message : CallMessage) (seen : Fin (sendLimit capacity message))
  /-- Reserved, before the channel was asked. -/
  | reserved (message : CallMessage)
  /-- Refused by the channel, before the release. -/
  | releasing (message : CallMessage) (kind : CallSubmitErrorKind)
  | sent
  | failed (message : CallMessage) (kind : CallSubmitErrorKind)

namespace SendPhase

variable {capacity : Nat}

/-- What the loop of the reservation makes of a call. -/
def ofIncrement (message : CallMessage) :
    Increment (sendLimit capacity message) → SendPhase capacity
  | .trying seen => .trying message seen
  | .refused => .failed message .full
  | .done => .reserved message

/-- The call holds a reservation for a message of some kind. -/
def holds (kind : CallMessage → Bool) : SendPhase capacity → Bool
  | reserved message | releasing message _ => kind message
  | _ => false

end SendPhase

/-- The counter, the channel, and the calls on both sides. -/
structure CommandQueue (capacity : Nat) where
  depth : Nat
  channel : List CallMessage
  /-- The receiver has not been dropped. -/
  connected : Bool
  /-- The messages that were in the channel when its receiver was dropped. -/
  lost : List CallMessage
  sends : List (SendPhase capacity)
  /-- The messages that were received and whose places were not given back yet. -/
  received : List CallMessage

/-- One step of one party. -/
inductive QueueStep
  | trySend (message : CallMessage)
  | load (call : Nat)
  | compareExchange (call : Nat) (spurious : Bool)
  | channelSend (call : Nat)
  | releaseSend (call : Nat)
  | channelReceive
  | releaseReceived (index : Nat)
  | dropReceiver

/-- What a step lets an observer see. -/
inductive QueueEvent
  | refused (message : CallMessage)
  | channelFull
  | released (previous : Nat)

namespace CommandQueue

variable {capacity : Nat}

variable {queue old : CommandQueue capacity}

/-- A queue nobody has used. -/
def new (capacity : Nat) : CommandQueue capacity := ⟨0, [], true, [], [], []⟩

/-- A call comes to its next phase. -/
def advance
    (queue : CommandQueue capacity) (call : Nat) (phase : SendPhase capacity) :
    CommandQueue capacity :=
  { queue with sends := queue.sends.set call phase }

/-- A look of the reservation at the depth. -/
def look
    (queue : CommandQueue capacity) (call : Nat) (message : CallMessage) :
    CommandQueue capacity × Option QueueEvent :=
  let increment := Increment.look (sendLimit capacity message) queue.depth
  (queue.advance call (.ofIncrement message increment),
    if increment = .refused then some (.refused message) else none)

/-- The load of `QueueMetrics::reserve`. -/
def load (queue : CommandQueue capacity) (call : Nat) : CommandQueue capacity × Option QueueEvent :=
  match queue.sends[call]? with
  | some (.starting message) => queue.look call message
  | _ => (queue, none)

/-- The compare-exchange of `QueueMetrics::reserve`. -/
def compareExchange (queue : CommandQueue capacity) (call : Nat) (spurious : Bool) :
    CommandQueue capacity × Option QueueEvent :=
  match queue.sends[call]? with
  | some (.trying message seen) =>
    match Increment.exchange seen queue.depth spurious with
    | (depth, .done) => ({ queue with depth := depth }.advance call (.reserved message), none)
    | _ => queue.look call message
  | _ => (queue, none)

/-- `SyncSender::try_send` on the bounded channel. -/
def channelSend (queue : CommandQueue capacity) (call : Nat) :
    CommandQueue capacity × Option QueueEvent :=
  match queue.sends[call]? with
  | some (.reserved message) =>
    if !queue.connected then
      (queue.advance call (.releasing message .closed), none)
    else if queue.channel.length < capacity then
      ({ queue with channel := queue.channel ++ [message] }.advance call .sent, none)
    else
      (queue.advance call (.releasing message .full), some .channelFull)
  | _ => (queue, none)

/-- The release of a send that the channel refused. -/
def releaseSend (queue : CommandQueue capacity) (call : Nat) :
    CommandQueue capacity × Option QueueEvent :=
  match queue.sends[call]? with
  | some (.releasing message kind) =>
    ({ queue with depth := fetchSub queue.depth }.advance call (.failed message kind),
      some (.released queue.depth))
  | _ => (queue, none)

/-- `Receiver::try_recv` on the bounded channel. -/
def channelReceive (queue : CommandQueue capacity) : CommandQueue capacity :=
  match queue.channel with
  | message :: rest =>
    { queue with channel := rest, received := queue.received ++ [message] }
  | [] => queue

/-- The release of a message that was received. -/
def releaseReceived (queue : CommandQueue capacity) (index : Nat) :
    CommandQueue capacity × Option QueueEvent :=
  match queue.received[index]? with
  | some _ =>
    ({ queue with
        depth := fetchSub queue.depth
        received := queue.received.eraseIdx index }, some (.released queue.depth))
  | none => (queue, none)

/-- The drop of the receiver discards what is in the channel. -/
def dropReceiver (queue : CommandQueue capacity) : CommandQueue capacity :=
  { queue with connected := false, channel := [], lost := queue.lost ++ queue.channel }

/-- One step.  A step that the party cannot take changes nothing. -/
def step (queue : CommandQueue capacity) : QueueStep → CommandQueue capacity × Option QueueEvent
  | .trySend message => ({ queue with sends := queue.sends ++ [.starting message] }, none)
  | .load call => queue.load call
  | .compareExchange call spurious => queue.compareExchange call spurious
  | .channelSend call => queue.channelSend call
  | .releaseSend call => queue.releaseSend call
  | .channelReceive => (queue.channelReceive, none)
  | .releaseReceived index => queue.releaseReceived index
  | .dropReceiver => (queue.dropReceiver, none)

/-- The queue after a list of steps. -/
def reached (capacity : Nat) (steps : List QueueStep) : CommandQueue capacity :=
  Run.after step (new capacity) steps

/-- The sends between their reservation and their completion. -/
def sending (queue : CommandQueue capacity) : Nat :=
  queue.sends.countP (SendPhase.holds fun _ => true)

/-- The reservations for messages of some kind: in the channel, on the way into it, on
the way out of it, or gone with its receiver. -/
def reservations (queue : CommandQueue capacity) (kind : CallMessage → Bool) : Nat :=
  queue.channel.countP kind + queue.lost.countP kind +
    queue.sends.countP (SendPhase.holds kind) + queue.received.countP kind

theorem reservations_advance {call : Nat} {before : SendPhase capacity}
    (found : queue.sends[call]? = some before)
    (after : SendPhase capacity) (kind : CallMessage → Bool) :
    (queue.advance call after).reservations kind + (before.holds kind).toNat =
      queue.reservations kind + (after.holds kind).toNat := by
  have moved := countP_set_add found after (SendPhase.holds kind)
  simp only [reservations, advance]
  omega

/-- The counter and the reservations move together in one of three ways. -/
inductive Change (old : CommandQueue capacity) : Option QueueEvent → CommandQueue capacity → Prop
  | idle {new : CommandQueue capacity} {event : Option QueueEvent}
      (depth : new.depth = old.depth)
      (reservations : ∀ kind, new.reservations kind = old.reservations kind)
      (refused : ∀ message, event = some (.refused message) →
        sendLimit capacity message ≤ old.depth)
      (full : event = some .channelFull → capacity < old.reservations fun _ => true)
      (released : ∀ previous, event ≠ some (.released previous)) :
      Change old event new
  | reserved {new : CommandQueue capacity} (message : CallMessage)
      (room : old.depth < sendLimit capacity message)
      (depth : new.depth = old.depth + 1)
      (reservations : ∀ kind,
        new.reservations kind = old.reservations kind + (kind message).toNat) :
      Change old none new
  | released {new : CommandQueue capacity} (message : CallMessage)
      (depth : new.depth = fetchSub old.depth)
      (reservations : ∀ kind,
        new.reservations kind + (kind message).toNat = old.reservations kind) :
      Change old (some (.released old.depth)) new

/-- A step that only moves messages between the places that hold a reservation. -/
theorem Change.of_moved
    {new : CommandQueue capacity} (depth : new.depth = old.depth)
    (reservations : ∀ kind, new.reservations kind = old.reservations kind) :
    Change old none new :=
  .idle depth reservations (by simp) (by simp) (by simp)

theorem change_trySend (queue : CommandQueue capacity) (message : CallMessage) :
    Change queue none { queue with sends := queue.sends ++ [.starting message] } :=
  .of_moved rfl fun kind => by simp [reservations, SendPhase.holds]

/-- A look at the depth reserves nothing; a refusal has seen the limit. -/
theorem change_look {call : Nat} {before : SendPhase capacity}
    (found : queue.sends[call]? = some before)
    (free : ∀ kind, before.holds kind = false) (message : CallMessage) :
    Change queue (queue.look call message).2 (queue.look call message).1 := by
  have unreserved : ∀ kind, (SendPhase.ofIncrement message
      (Increment.look (sendLimit capacity message) queue.depth)).holds kind = false := by
    intro kind
    unfold Increment.look
    split_ifs <;> rfl
  refine .idle rfl ?_ ?_ ?_ ?_
  · intro kind
    have moved := reservations_advance found (.ofIncrement message
      (Increment.look (sendLimit capacity message) queue.depth)) kind
    rw [free kind, unreserved kind] at moved
    exact moved
  · intro refused event
    simp only [look] at event
    split_ifs at event with limit
    cases event
    exact Increment.limit_le_of_look limit
  · intro event
    simp only [look] at event
    split_ifs at event
    cases event
  · intro previous event
    simp only [look] at event
    split_ifs at event
    cases event

theorem change_load (queue : CommandQueue capacity) (call : Nat) :
    Change queue (queue.load call).2 (queue.load call).1 := by
  unfold load
  split
  · next found => exact change_look found (fun _ => rfl) _
  · exact .of_moved rfl fun _ => rfl

theorem change_compareExchange
    (queue : CommandQueue capacity) (call : Nat) (spurious : Bool) :
    Change queue (queue.compareExchange call spurious).2
      (queue.compareExchange call spurious).1 := by
  unfold compareExchange
  split
  · next message seen found =>
    rcases Increment.exchange_cases seen queue.depth spurious with ⟨room, result⟩ | result
    · rw [result]
      refine .reserved message room rfl fun kind => ?_
      have moved : (queue.advance call (.reserved message)).reservations kind =
          queue.reservations kind + (kind message).toNat := by
        simpa [SendPhase.holds] using reservations_advance found (.reserved message) kind
      exact moved
    · rw [result]
      have notDone := Increment.look_ne_done (sendLimit capacity message) queue.depth
      split
      · next depth looked => exact absurd (congrArg Prod.snd looked) notDone
      · exact change_look found (fun _ => rfl) _
  · exact .of_moved rfl fun _ => rfl

theorem change_channelSend (queue : CommandQueue capacity) (call : Nat) :
    Change queue (queue.channelSend call).2 (queue.channelSend call).1 := by
  unfold channelSend
  split
  · next message found =>
    split_ifs with disconnected room
    · refine .of_moved rfl fun kind => ?_
      have moved := reservations_advance found (.releasing message .closed) kind
      simpa [SendPhase.holds] using moved
    · refine .of_moved rfl fun kind => ?_
      have moved := countP_set_add found (.sent : SendPhase capacity) (SendPhase.holds kind)
      simp only [SendPhase.holds, Bool.toNat_false] at moved
      simp only [reservations, advance, countP_append, countP_singleton, ite_eq_toNat]
      omega
    · refine .idle rfl (fun kind => ?_) (by simp) (fun _ => ?_) (by simp)
      · have moved := reservations_advance found (.releasing message .full) kind
        simpa [SendPhase.holds] using moved
      · have holder : 0 < queue.sends.countP (SendPhase.holds fun _ => true) :=
          countP_pos_iff.mpr ⟨_, mem_of_getElem? found, rfl⟩
        simp only [reservations, countP_true]
        omega
  · exact .of_moved rfl fun _ => rfl

theorem change_releaseSend (queue : CommandQueue capacity) (call : Nat) :
    Change queue (queue.releaseSend call).2 (queue.releaseSend call).1 := by
  unfold releaseSend
  split
  · next message reason found =>
    refine .released message rfl fun kind => ?_
    have moved : (queue.advance call (.failed message reason)).reservations kind +
        (kind message).toNat = queue.reservations kind := by
      simpa [SendPhase.holds] using reservations_advance found (.failed message reason) kind
    exact moved
  · exact .of_moved rfl fun _ => rfl

theorem change_channelReceive (queue : CommandQueue capacity) :
    Change queue none queue.channelReceive := by
  unfold channelReceive
  split
  · next message rest content =>
    refine .of_moved rfl fun kind => ?_
    simp only [reservations, content, countP_append, countP_cons, countP_nil]
    omega
  · exact .of_moved rfl fun _ => rfl

theorem change_releaseReceived (queue : CommandQueue capacity) (index : Nat) :
    Change queue (queue.releaseReceived index).2 (queue.releaseReceived index).1 := by
  unfold releaseReceived
  split
  · next message found =>
    refine .released message rfl fun kind => ?_
    obtain ⟨inside, rfl⟩ := List.getElem?_eq_some_iff.mp found
    have taken := (getElem_cons_eraseIdx_perm inside).countP_eq kind
    rw [countP_cons, ite_eq_toNat] at taken
    simp only [reservations]
    omega
  · exact .of_moved rfl fun _ => rfl

theorem change_dropReceiver (queue : CommandQueue capacity) :
    Change queue none queue.dropReceiver := by
  refine .of_moved rfl fun kind => ?_
  simp only [reservations, dropReceiver, countP_append, countP_nil]
  omega

/-- Every step is one of the three changes. -/
theorem change_step (queue : CommandQueue capacity) (action : QueueStep) :
    Change queue (queue.step action).2 (queue.step action).1 := by
  cases action with
  | trySend message => exact change_trySend queue message
  | load call => exact change_load queue call
  | compareExchange call spurious => exact change_compareExchange queue call spurious
  | channelSend call => exact change_channelSend queue call
  | releaseSend call => exact change_releaseSend queue call
  | channelReceive => exact change_channelReceive queue
  | releaseReceived index => exact change_releaseReceived queue index
  | dropReceiver => exact change_dropReceiver queue

/-- The depth is the reservations, and one place is free of ordinary messages. -/
structure Accounted (queue : CommandQueue capacity) : Prop where
  depth : queue.depth = queue.reservations fun _ => true
  bounded : queue.depth ≤ capacity
  spare : queue.reservations CallMessage.isOrdinary ≤ capacity - 1

/-- A reservation is for an ordinary message or for a shutdown. -/
theorem reservations_split (queue : CommandQueue capacity) : (queue.reservations fun _ => true) =
      queue.reservations CallMessage.isOrdinary +
        queue.reservations fun message => !message.isOrdinary := by
  have message_split : ∀ message : CallMessage,
      true.toNat = message.isOrdinary.toNat + (!message.isOrdinary).toNat := by
    intro message
    cases message.isOrdinary <;> rfl
  have phase_split : ∀ phase : SendPhase capacity,
      (phase.holds fun _ => true).toNat = (phase.holds CallMessage.isOrdinary).toNat +
        (phase.holds fun message => !message.isOrdinary).toNat := by
    intro phase
    cases phase with
    | reserved message => exact message_split message
    | releasing message kind => exact message_split message
    | starting | trying | sent | failed => rfl
  have messages := fun list : List CallMessage => countP_eq_add message_split list
  have calls := countP_eq_add phase_split queue.sends
  simp only [reservations, messages, calls]
  omega

theorem sendLimit_le (capacity : Nat) (message : CallMessage) :
    sendLimit capacity message ≤ capacity := by
  cases message <;> simp [sendLimit]

theorem accounted_change
    {new : CommandQueue capacity} {event : Option QueueEvent}
    (accounted : Accounted old) (change : Change old event new) : Accounted new := by
  obtain ⟨depth, bounded, spare⟩ := accounted
  cases change with
  | idle sameDepth reservations refused full released =>
    exact ⟨by rw [sameDepth, reservations, depth], by omega, by rw [reservations]; omega⟩
  | reserved message room moreDepth reservations =>
    have limit := sendLimit_le capacity message
    have all := reservations fun _ => true
    have ordinary := reservations CallMessage.isOrdinary
    have split := reservations_split old
    refine ⟨by simp only [Bool.toNat_true] at all; omega, by omega, ?_⟩
    cases message <;> simp only [CallMessage.isOrdinary, sendLimit, Bool.toNat_true,
      Bool.toNat_false] at ordinary room <;> omega
  | released message lessDepth reservations =>
    have all := reservations fun _ => true
    have ordinary := reservations CallMessage.isOrdinary
    simp only [Bool.toNat_true] at all
    have positive : 0 < old.depth := by omega
    have subtracted := fetchSub_add_one positive
    exact ⟨by omega, by omega, by omega⟩

theorem accounted_reached (capacity : Nat) (steps : List QueueStep) :
    Accounted (reached capacity steps) := by
  apply Run.invariant (fun queue : CommandQueue capacity => Accounted queue)
  · exact ⟨rfl, Nat.zero_le _, Nat.zero_le _⟩
  · intro queue action accounted
    exact accounted_change accounted (change_step queue action)

/-- While the receiver is there, no message is lost with it. -/
theorem lost_of_connected (capacity : Nat) (steps : List QueueStep) :
    (reached capacity steps).connected = true → (reached capacity steps).lost = [] := by
  apply Run.invariant
    (fun queue : CommandQueue capacity => queue.connected = true → queue.lost = [])
  · intro _
    rfl
  · intro queue action keeps
    cases action with
    | trySend message => exact keeps
    | load call =>
      simp only [step, load]
      split <;> exact keeps
    | compareExchange call spurious =>
      simp only [step, compareExchange]
      split
      · split <;> exact keeps
      · exact keeps
    | channelSend call =>
      simp only [step, channelSend]
      split
      · split_ifs <;> exact keeps
      · exact keeps
    | releaseSend call =>
      simp only [step, releaseSend]
      split <;> exact keeps
    | channelReceive =>
      simp only [step, channelReceive]
      split <;> exact keeps
    | releaseReceived index =>
      simp only [step, releaseReceived]
      split <;> exact keeps
    | dropReceiver => simp [step, dropReceiver]

/-- A shutdown is in the channel, on its way into it or out of it, or was lost with the
receiver. -/
def HoldsShutdown (queue : CommandQueue capacity) : Prop := .shutdown ∈ queue.channel ∨
    (∃ phase ∈ queue.sends, phase = .reserved .shutdown ∨
      ∃ kind, phase = .releasing .shutdown kind) ∨
    .shutdown ∈ queue.received ∨ .shutdown ∈ queue.lost

/-- A reservation that is not for an ordinary message is for a shutdown. -/
theorem holdsShutdown_of_reservations
    (some_ : 0 < queue.reservations fun message => !message.isOrdinary) :
    HoldsShutdown queue := by
  have shutdown : ∀ message : CallMessage, (!message.isOrdinary) = true → message = .shutdown := by
    intro message special
    cases message <;> simp [CallMessage.isOrdinary] at special ⊢
  have member : ∀ messages : List CallMessage,
      0 < messages.countP (fun message => !message.isOrdinary) → .shutdown ∈ messages := by
    intro messages positive
    obtain ⟨message, inside, special⟩ := countP_pos_iff.mp positive
    exact shutdown message special ▸ inside
  unfold reservations at some_
  by_cases channel : 0 < queue.channel.countP fun message => !message.isOrdinary
  · exact .inl (member _ channel)
  by_cases lost : 0 < queue.lost.countP fun message => !message.isOrdinary
  · exact .inr (.inr (.inr (member _ lost)))
  by_cases received : 0 < queue.received.countP fun message => !message.isOrdinary
  · exact .inr (.inr (.inl (member _ received)))
  obtain ⟨phase, inside, special⟩ : ∃ phase ∈ queue.sends,
      phase.holds (fun message => !message.isOrdinary) = true :=
    countP_pos_iff.mp (by omega)
  refine .inr (.inl ⟨phase, inside, ?_⟩)
  cases phase with
  | reserved message =>
    obtain rfl := shutdown message special
    exact .inl rfl
  | releasing message kind =>
    obtain rfl := shutdown message special
    exact .inr ⟨kind, rfl⟩
  | starting | trying | sent | failed => cases special

/-- What a step lets an observer see. -/
theorem observed
    {new : CommandQueue capacity} {event : Option QueueEvent}
    (positive : 0 < capacity) (accounted : Accounted old) (change : Change old event new) :
    (∀ previous, event = some (.released previous) → 0 < previous) ∧ event ≠ some .channelFull ∧
      (event = some (.refused .shutdown) → HoldsShutdown old) := by
  obtain ⟨depth, bounded, spare⟩ := accounted
  cases change with
  | idle sameDepth reservations refused full released =>
    refine ⟨?_, ?_, ?_⟩
    · intro previous event
      exact absurd event (released previous)
    · intro event
      have crowded := full event
      omega
    · intro event
      have limit : capacity ≤ old.depth := refused .shutdown event
      have split := reservations_split old
      apply holdsShutdown_of_reservations
      omega
  | reserved => exact ⟨by simp, by simp, by simp⟩
  | released message lessDepth reservations =>
    refine ⟨?_, by simp, by simp⟩
    rintro previous event
    cases event
    have all := reservations fun _ => true
    rw [depth, ← all]
    simp

/-- What holds in every interleaving. -/
structure Deliverable (capacity : Nat) (steps : List QueueStep) : Prop where
  /-- The depth is the messages in the channel, on their way into it and out of it, and
  those that were lost with the receiver, of which there are none while it is there. -/
  depth : (reached capacity steps).depth =
    (reached capacity steps).channel.length + (reached capacity steps).sending +
      (reached capacity steps).received.length + (reached capacity steps).lost.length
  lost : (reached capacity steps).connected = true → (reached capacity steps).lost = []
  bounded : (reached capacity steps).depth ≤ capacity
  /-- No release finds the depth at zero. -/
  noUnderflow : ∀ earlier action later, steps = earlier ++ action :: later →
    ∀ previous, Run.output step (new capacity) earlier action = some (.released previous) →
      0 < previous
  /-- The channel never reports that it is full. -/
  neverFull : ∀ earlier action later, steps = earlier ++ action :: later →
    Run.output step (new capacity) earlier action ≠ some .channelFull
  /-- A shutdown is refused only while another one holds a reservation. -/
  shutdown : ∀ earlier action later, steps = earlier ++ action :: later →
    Run.output step (new capacity) earlier action = some (.refused .shutdown) →
      HoldsShutdown (reached capacity earlier)

/-- In every interleaving, the depth accounts for every message, and ordinary messages
never keep a shutdown out. -/
theorem deliverable (config : CallThreadConfig) (steps : List QueueStep) :
    Deliverable config.mailboxCapacity steps where
  depth := by
    have accounted := (accounted_reached config.mailboxCapacity steps).depth
    simp only [reservations, countP_true] at accounted
    rw [sending]
    omega
  lost := lost_of_connected config.mailboxCapacity steps
  bounded := (accounted_reached config.mailboxCapacity steps).bounded
  noUnderflow := by
    rintro earlier action later - previous event
    exact (observed config.capacity_pos (accounted_reached _ earlier) (change_step _ action)).1
      previous event
  neverFull := by
    rintro earlier action later - event
    exact
      (observed config.capacity_pos (accounted_reached _ earlier) (change_step _ action)).2.1 event
  shutdown := by
    rintro earlier action later - event
    exact
      (observed config.capacity_pos (accounted_reached _ earlier) (change_step _ action)).2.2 event

end CommandQueue
end Call
end LiveAISIP
