import LiveAISIP.Sip.Transport.Service

/-!
# Ownership of reliable writes

A message that a flow admits moves from the connection queue to the in-flight slot and from
there into the batch of a poll, or is recovered when the connection fails.  A ledger of
what the calls on one flow returned is kept beside the service; it balances as long as no
driver fails in a poll that had already committed a message.
-/

namespace LiveAISIP
namespace Sip
namespace Transport

open AList Run

variable {flow : ActiveFlow} {queue : List Bytes}

namespace PendingWrite

theorem sent_append_remaining (pending : PendingWrite) :
    pending.sent ++ pending.remaining = pending.message :=
  List.take_append_drop _ _

/-- What reached the kernel of an unfinished message. -/
theorem sent_advance (pending : PendingWrite) (length : Nat) : (pending.advance length).sent =
      pending.sent ++ pending.remaining.take (min length (pending.remaining.length - 1)) := by
  simp only [sent, advance, remaining, List.take_add]

/-- An unfinished message stays unfinished. -/
theorem advance_lt {pending : PendingWrite} (unfinished : pending.offset < pending.message.length)
    (length : Nat) : (pending.advance length).offset < pending.message.length := by
  simp only [advance, remaining, List.length_drop]
  omega

end PendingWrite

namespace ReliableDriver

variable {driver : ReliableDriver}

/-- What reached the kernel of the message that is being written. -/
def partly (driver : ReliableDriver) : Bytes := (driver.pendingWrite.map PendingWrite.sent).getD []

@[simp] theorem closing_withPending (driver : ReliableDriver) (pending : Option PendingWrite) :
    (driver.withPending pending).closing = driver.closing := by
  cases driver <;> rfl

theorem hasPendingWrite_eq_false
    (unfinished : ∀ pending, driver.pendingWrite = some pending →
      pending.offset < pending.message.length)
    (idle : ¬driver.hasPendingWrite = true) : driver.pendingWrite = none := by
  rcases writing : driver.pendingWrite with _ | pending
  · rfl
  · exfalso
    apply idle
    have short := unfinished pending writing
    cases driver with
    | tcp driver =>
      simp only [pendingWrite] at writing
      simp only [hasPendingWrite, writing, Option.map_some, Option.getD_some, bne_iff_ne]
      omega
    | tls driver =>
      simp only [pendingWrite] at writing
      simp [hasPendingWrite, writing]

theorem flushSend_of_pending {pending : PendingWrite}
    (writing : driver.pendingWrite = some pending) (attempt : WriteAttempt) :
    driver.flushSend attempt =
      (driver.withPending (pending.write attempt).pending, (pending.write attempt).sent,
        (pending.write attempt).result) := by
  unfold flushSend
  rw [writing]

/-- An attempt finishes the message, or leaves it unfinished. -/
theorem flushSend_cases {pending : PendingWrite}
    (writing : driver.pendingWrite = some pending)
    (unfinished : pending.offset < pending.message.length) (attempt : WriteAttempt) :
    (attempt = .complete ∧
        driver.flushSend attempt = (driver.withPending none, pending.remaining, .ok true)) ∨
      ∃ later sent result,
        driver.flushSend attempt = (driver.withPending (some later), sent, result) ∧
        later.message = pending.message ∧ later.offset < later.message.length ∧
        later.sent = pending.sent ++ sent ∧
        (result = .ok false ∨
          (∃ length, attempt = .failed length) ∧ ∃ error, result = .error error) := by
  rw [flushSend_of_pending writing]
  cases attempt with
  | complete => exact .inl ⟨rfl, rfl⟩
  | short length =>
    exact .inr ⟨pending.advance length, _, .ok false, rfl, rfl,
      PendingWrite.advance_lt unfinished length, pending.sent_advance length, .inl rfl⟩
  | failed length =>
    exact .inr ⟨pending.advance length, _, .error .send, rfl, rfl,
      PendingWrite.advance_lt unfinished length, pending.sent_advance length,
      .inr ⟨⟨length, rfl⟩, .send, rfl⟩⟩

theorem pendingWrite_of_hasPendingWrite (busy : driver.hasPendingWrite = true) :
    ∃ pending, driver.pendingWrite = some pending := by
  cases driver with
  | tcp driver =>
    rcases writing : driver.pendingWrite with _ | pending
    · simp [hasPendingWrite, writing] at busy
    · exact ⟨pending, writing⟩
  | tls driver => exact Option.isSome_iff_exists.mp busy

end ReliableDriver

/-- A message that a driver takes. -/
def Sendable (message : Bytes) : Prop := message ≠ [] ∧ message.length ≤ Framing.maxMessageBytes

theorem ReliableDriver.startSend_of_sendable
    {driver : ReliableDriver} {message : Bytes} (sendable : Sendable message)
    (open_ : driver.closing = false) (idle : driver.pendingWrite = none) (attempt : WriteAttempt) :
    driver.startSend message attempt =
      (driver.withPending (some ⟨message, 0⟩)).flushSend attempt := by
  unfold startSend
  rw [if_neg (by simp [open_]), if_neg (by simp [idle]), if_neg sendable.1,
    if_neg (Nat.not_lt.mpr sendable.2)]

/-- A flow and its queue as the service keeps them. -/
structure Carried (queue : List Bytes) (flow : ActiveFlow) : Prop where
  fits : ∀ pending, flow.driver.pendingWrite = some pending →
    flow.inflight = some pending.message ∧ pending.offset < pending.message.length
  closing : flow.driver.closing = true → flow.driver.pendingWrite = none
  sendable : ∀ message ∈ queue, Sendable message

/-- A flow with nothing in flight whose driver takes a message. -/
structure Clear (flow : ActiveFlow) : Prop where
  inflight : flow.inflight = none
  idle : flow.driver.pendingWrite = none
  open_ : flow.driver.closing = false

theorem Clear.carried (clear : Clear flow)
    (sendable : ∀ message ∈ queue, Sendable message) : Carried queue flow := by
  refine ⟨?_, fun _ => clear.idle, sendable⟩
  intro pending writing
  cases clear.idle.symm.trans writing

/-- How the messages of a flow move while it is polled. -/
structure Moved
    (flow : ActiveFlow) (queue : List Bytes) (committed handed : List Bytes) (sent : Bytes)
    (after : ActiveFlow) (rest : List Bytes) : Prop where
  kept : flow.inflight.toList ++ queue = committed ++ after.inflight.toList ++ rest
  handed : flow.inflight.toList ++ handed = committed ++ after.inflight.toList
  sent : flow.driver.partly ++ sent = committed.flatten ++ after.driver.partly

/-- What a message committed by one turn adds to the later turns. -/
theorem Moved.cons
    {after : ActiveFlow} {driver : ReliableDriver} {message : Bytes}
    {rest later committed given handed : List Bytes} {sentNow sent : Bytes}
    (kept : flow.inflight.toList ++ queue = message :: rest)
    (given_ : flow.inflight.toList ++ given = [message])
    (sent_ : flow.driver.partly ++ sentNow = message) (idle : driver.pendingWrite = none)
    (moved : Moved ⟨driver, none⟩ rest committed handed sent after later) :
    Moved flow queue ([message] ++ committed) (given ++ handed) (sentNow ++ sent) after later := by
  have keptLater := moved.kept
  have handedLater := moved.handed
  have sentLater := moved.sent
  simp only [ReliableDriver.partly, idle, Option.map_none, Option.getD_none,
    Option.toList_none, List.nil_append] at keptLater handedLater sentLater
  refine ⟨?_, ?_, ?_⟩
  · rw [kept, keptLater]
    simp
  · rw [← List.append_assoc, given_, handedLater]
    simp
  · rw [← List.append_assoc, sent_, sentLater]
    simp [ReliableDriver.partly]

/-- Less than all of the message in flight has reached the kernel. -/
theorem Carried.balanced_partly (carried : Carried queue flow) :
    flow.driver.partly = [] ∨ ∃ message rest, flow.inflight = some message ∧ rest ≠ [] ∧
      message = flow.driver.partly ++ rest := by
  rcases writing : flow.driver.pendingWrite with _ | pending
  · simp [ReliableDriver.partly, writing]
  · obtain ⟨inflight, unfinished⟩ := carried.fits pending writing
    refine .inr ⟨pending.message, pending.remaining, inflight, ?_, ?_⟩
    · simp [PendingWrite.remaining, unfinished]
    · simp [ReliableDriver.partly, writing, pending.sent_append_remaining]

namespace TransportService

variable {id : ConnectionId} {connection : Connection} {flow : ActiveFlow}
  {service : TransportService}

variable {manager : TransportManager}

/-- The driver completes some messages of a poll and then fails on the next. -/
def FailsAt (budget work : Nat) (attempts : List WriteAttempt) (count : Nat) : Prop :=
  count < budget ∧ count < work ∧ attempts.take count = List.replicate count .complete ∧
    ∃ length, attempts[count]? = some (.failed length)

/-- What the loop of a poll leaves of a flow. -/
structure Looped
    (id : ConnectionId) (flow : ActiveFlow) (queue : List Bytes) (loop : WriteLoop)
    (connection : Connection) : Prop where
  found : loop.manager.connections.lookup id = some connection
  carried : Carried connection.queue loop.flow
  moved : Moved flow queue loop.committed loop.handed loop.sent loop.flow connection.queue

/-- The unfinished message of a turn. -/
theorem Looped.unfinished
    (found : manager.connections.lookup id = some connection)
    (sendable : ∀ message ∈ connection.queue, Sendable message)
    {queue : List Bytes}
    {driver : ReliableDriver}
    {later : PendingWrite}
    {handed : List Bytes} {sent : Bytes} {result : Except ServiceError Unit}
    (unfinished : later.offset < later.message.length) (open_ : driver.closing = false)
    (kept : flow.inflight.toList ++ queue = later.message :: connection.queue)
    (given_ : flow.inflight.toList ++ handed = [later.message])
    (partly : later.sent = flow.driver.partly ++ sent) :
    Looped id flow queue
      ⟨manager, ⟨driver.withPending (some later), some later.message⟩, [], handed, sent, result⟩
      connection := by
  refine ⟨found, ⟨?_, ?_, sendable⟩, ?_, ?_, ?_⟩
  · intro pending writing
    cases (driver.pendingWrite_withPending (some later)).symm.trans writing
    exact ⟨rfl, unfinished⟩
  · intro closing
    cases (open_.symm.trans (driver.closing_withPending _).symm).trans closing
  · simpa using kept
  · simpa using given_
  · simpa [ReliableDriver.partly] using partly.symm

/-- One turn of the loop: it ends the poll with nothing committed, or commits the next
message and goes on from a clear flow. -/
theorem writeLoop_turn (found : manager.connections.lookup id = some connection)
    (carried : Carried connection.queue flow) (budget : Nat) (attempts : List WriteAttempt) :
    (∃ left, Looped id flow connection.queue
        (writeLoop id (budget + 1) attempts manager flow) left ∧
      (writeLoop id (budget + 1) attempts manager flow).committed = [] ∧
      ((writeLoop id (budget + 1) attempts manager flow).result ≠ .ok () → Clear flow →
        FailsAt (budget + 1) (flow.inflight.toList ++ connection.queue).length attempts 0)) ∨
    ∃ message after left driver given sent, writeLoop id (budget + 1) attempts manager flow =
        (writeLoop id budget attempts.tail after ⟨driver, none⟩).after [message] given sent ∧
      attempts.head? = some .complete ∧
      after.connections.lookup id = some left ∧ Clear ⟨driver, none⟩ ∧
      (∀ message ∈ left.queue, Sendable message) ∧
      flow.inflight.toList ++ connection.queue = message :: left.queue ∧
      flow.inflight.toList ++ given = [message] ∧
      flow.driver.partly ++ sent = message ∧
      (flow.driver.hasPendingWrite = true ∨ Clear flow) := by
  have head : ∀ attempt : WriteAttempt, attempts.headD (.short 0) = attempt →
      attempt ≠ .short 0 → attempts.head? = some attempt := by
    intro attempt same other
    cases attempts with
    | nil => exact absurd same.symm other
    | cons first later => exact congrArg some same
  obtain ⟨loop, unrolled⟩ : ∃ loop, writeLoop id (budget + 1) attempts manager flow = loop :=
    ⟨_, rfl⟩
  rw [unrolled]
  unfold writeLoop at unrolled
  by_cases busy : flow.driver.hasPendingWrite = true
  · -- the message of an earlier poll goes on
    rw [if_pos busy] at unrolled
    obtain ⟨pending, writing⟩ := ReliableDriver.pendingWrite_of_hasPendingWrite busy
    obtain ⟨inflight, unfinished⟩ := carried.fits pending writing
    have open_ : flow.driver.closing = false := by
      rcases closing : flow.driver.closing with _ | _
      · rfl
      · cases (carried.closing closing).symm.trans writing
    have partly : flow.driver.partly = pending.sent := by
      simp [ReliableDriver.partly, writing]
    rcases ReliableDriver.flushSend_cases writing unfinished (attempts.headD (.short 0)) with
      ⟨complete, flushed⟩ | ⟨later, sent, result, flushed, same, short, sentLater, outcome⟩
    · rw [flushed, inflight] at unrolled
      subst unrolled
      refine .inr ⟨pending.message, manager, connection, _, [], _, rfl, head _ complete (by simp),
        found, ⟨rfl, by simp, by simpa using open_⟩, carried.sendable, by simp [inflight],
        by simp [inflight], ?_, .inl busy⟩
      rw [partly]
      exact pending.sent_append_remaining
    · rw [flushed] at unrolled
      have looped : ∀ result, Looped id flow connection.queue
          ⟨manager, ⟨flow.driver.withPending (some later), flow.inflight⟩, [], [], sent, result⟩
          connection := by
        intro result
        rw [show flow.inflight = some later.message by rw [inflight, same]]
        exact .unfinished found carried.sendable short open_ (by simp [inflight, same])
          (by simp [inflight, same]) (by rw [partly]; exact sentLater)
      refine .inl ⟨connection, ?_⟩
      rcases outcome with rfl | ⟨-, error, rfl⟩ <;> subst unrolled
      · exact ⟨looped _, rfl, fun failed => absurd rfl failed⟩
      · refine ⟨looped _, rfl, ?_⟩
        intro _ clear
        cases clear.idle.symm.trans writing
  · rw [if_neg busy] at unrolled
    have idle := ReliableDriver.hasPendingWrite_eq_false
      (fun pending writing => (carried.fits pending writing).2) busy
    by_cases stuck : flow.inflight.isSome = true
    · rw [if_pos stuck] at unrolled
      subst unrolled
      refine .inl ⟨connection, ⟨found, carried, by simp, by simp, by simp⟩, rfl, ?_⟩
      intro _ clear
      simp [clear.inflight] at stuck
    rw [if_neg stuck] at unrolled
    have free : flow.inflight = none := by simpa using stuck
    rcases queued : connection.queue with _ | ⟨message, rest⟩
    · have popped : manager.popFront id = (manager.put id connection, .ok none) := by
        simp [TransportManager.popFront, found, Connection.popFront, queued]
      rw [popped] at unrolled
      subst unrolled
      refine .inl ⟨connection, ⟨lookup_insert _, carried, ?_, ?_, ?_⟩, rfl,
        fun failed => absurd rfl failed⟩
      · simp [queued]
      · simp
      · simp
    · obtain ⟨left, leftQueue, popped⟩ : ∃ left, left.queue = rest ∧
          manager.popFront id = (manager.put id left, .ok (some message)) := by
        refine ⟨{ connection with
          queue := rest
          queuedBytes := connection.queuedBytes - message.length }, rfl, ?_⟩
        simp [TransportManager.popFront, found, Connection.popFront, queued]
      subst leftQueue
      rw [popped] at unrolled
      have foundAfter : (manager.put id left).connections.lookup id = some left :=
        lookup_insert _
      have sendable : ∀ other ∈ message :: left.queue, Sendable other := queued ▸ carried.sendable
      have sendableRest : ∀ other ∈ left.queue, Sendable other :=
        fun other member => sendable other (List.mem_cons_of_mem _ member)
      have partly : flow.driver.partly = [] := by simp [ReliableDriver.partly, idle]
      dsimp only at unrolled
      rcases closing : flow.driver.closing with _ | _
      swap
      · -- the driver has begun to close and rejects the message
        have rejected : flow.driver.startSend message (attempts.headD (.short 0)) =
            (flow.driver, [], .error .writeSideClosing) := by
          simp [ReliableDriver.startSend, closing]
        rw [rejected] at unrolled
        subst unrolled
        refine .inl ⟨left, ⟨foundAfter, ⟨?_, fun _ => idle, sendableRest⟩, ?_, ?_, ?_⟩, rfl, ?_⟩
        · intro pending writing
          cases idle.symm.trans writing
        · simp [free]
        · simp [free]
        · simp [partly]
        · intro _ clear
          cases clear.open_.symm.trans closing
      · rw [ReliableDriver.startSend_of_sendable (sendable message List.mem_cons_self) closing
          idle] at unrolled
        have unfinished : (PendingWrite.mk message 0).offset <
            (PendingWrite.mk message 0).message.length :=
          List.length_pos_iff.mpr (sendable message List.mem_cons_self).1
        rcases ReliableDriver.flushSend_cases
            (flow.driver.pendingWrite_withPending (some ⟨message, 0⟩)) unfinished
            (attempts.headD (.short 0)) with
          ⟨complete, flushed⟩ | ⟨later, sent, result, flushed, same, short, sentLater, outcome⟩
        · rw [flushed] at unrolled
          subst unrolled
          refine .inr ⟨message, _, left, _, [message], _, rfl, head _ complete (by simp),
            foundAfter, ⟨rfl, by simp, by simpa using closing⟩, sendableRest, by simp [free],
            by simp [free], ?_, .inr ⟨free, idle, closing⟩⟩
          simp [partly, PendingWrite.remaining]
        · rw [flushed] at unrolled
          have looped : ∀ result, Looped id flow (message :: left.queue) ⟨manager.put id left,
                ⟨(flow.driver.withPending (some ⟨message, 0⟩)).withPending (some later),
                  some message⟩, [], [message], sent, result⟩ left := by
            intro result
            rw [show some message = some later.message by rw [same]]
            refine .unfinished foundAfter sendableRest short (by simpa using closing)
              (by simp [free, same]) (by simp [free, same]) ?_
            rw [partly, sentLater]
            rfl
          refine .inl ⟨left, ?_⟩
          rcases outcome with rfl | ⟨⟨length, failed⟩, error, rfl⟩ <;> subst unrolled
          · exact ⟨looped _, rfl, fun failed => absurd rfl failed⟩
          · refine ⟨looped _, rfl, ?_⟩
            intro _ _
            refine ⟨Nat.succ_pos _, ?_, rfl, length, ?_⟩
            · rw [List.length_append, List.length_cons]
              omega
            · rw [← List.head?_eq_getElem?]
              exact head _ failed (by simp)

theorem FailsAt.succ
    {budget work count : Nat} {attempts : List WriteAttempt}
    (complete : attempts.head? = some .complete) (fails : FailsAt budget work attempts.tail count) :
    FailsAt (budget + 1) (work + 1) attempts (count + 1) := by
  cases attempts with
  | nil => cases complete
  | cons first later =>
    cases complete
    obtain ⟨inBudget, inWork, completes, length, failed⟩ := fails
    refine ⟨Nat.succ_lt_succ inBudget, Nat.succ_lt_succ inWork, ?_, length, failed⟩
    rw [List.take_succ_cons, List.replicate_succ]
    exact congrArg _ completes

/-- A failure that drops committed messages is that of a driver that had completed one. -/
theorem writeLoop_spec (found : manager.connections.lookup id = some connection)
    (carried : Carried connection.queue flow) (budget : Nat) (attempts : List WriteAttempt) :
    (∃ left, Looped id flow connection.queue (writeLoop id budget attempts manager flow) left) ∧
      ((writeLoop id budget attempts manager flow).result ≠ .ok () → Clear flow → ∃ count,
          FailsAt budget (flow.inflight.toList ++ connection.queue).length attempts count) ∧
      ((writeLoop id budget attempts manager flow).result ≠ .ok () →
        (writeLoop id budget attempts manager flow).committed ≠ [] →
        (flow.driver.hasPendingWrite = true ∨ Clear flow) ∧
        ∃ count, 0 < count ∧
          FailsAt budget (flow.inflight.toList ++ connection.queue).length attempts count) := by
  induction budget generalizing attempts manager connection flow with
  | zero =>
    refine ⟨⟨connection, found, carried, by simp [writeLoop], by simp [writeLoop],
      by simp [writeLoop]⟩, ?_, ?_⟩
    · intro failed
      exact absurd rfl failed
    · intro failed
      exact absurd rfl failed
  | succ budget ih =>
    rcases writeLoop_turn found carried budget attempts with
      ⟨left, looped, none_, fails⟩ |
      ⟨message, after, left, driver, given, sent, unrolled, complete, foundAfter, clear,
        sendable, kept, given_, sent_, writes⟩
    · refine ⟨⟨left, looped⟩, fun failed clear => ⟨0, fails failed clear⟩, ?_⟩
      intro _ some_
      exact absurd none_ some_
    · obtain ⟨⟨rest, looped⟩, fails, -⟩ := ih foundAfter (clear.carried sendable) attempts.tail
      -- whatever fails later fails after this message
      have failsLater : (writeLoop id (budget + 1) attempts manager flow).result ≠ .ok () →
          ∃ count, 0 < count ∧ FailsAt (budget + 1)
            (flow.inflight.toList ++ connection.queue).length attempts count := by
        intro failed
        rw [unrolled] at failed
        obtain ⟨count, fails⟩ := fails failed clear
        rw [kept]
        exact ⟨count + 1, Nat.succ_pos _, fails.succ complete⟩
      refine ⟨⟨rest, ?_⟩, ?_, fun failed _ => ⟨writes, failsLater failed⟩⟩
      · rw [unrolled]
        exact ⟨looped.found, looped.carried, looped.moved.cons kept given_ sent_ clear.idle⟩
      · intro failed _
        obtain ⟨count, -, fails⟩ := failsLater failed
        exact ⟨count, fails⟩

/-- A call on one flow. -/
inductive FlowCall
  | enqueueReliable (message : Bytes) (granted : Bool)
  | pollWrite (granted : Bool) (flush : Attempt) (attempts : List WriteAttempt)
  | shutdownConnection (attempt : Attempt)
  | failConnection

/-- The call of the service. -/
def FlowCall.on (id : ConnectionId) : FlowCall → ServiceCall
  | enqueueReliable message granted => .enqueueReliable id message granted
  | pollWrite granted flush attempts => .pollWrite id granted flush attempts
  | shutdownConnection attempt => .shutdownConnection id attempt
  | failConnection => .failConnection id

/-- What the calls on a flow have returned, and what its driver and the kernel got. -/
structure Ledger where
  admitted : List Bytes
  reported : List Bytes
  recoveredInflight : Option Bytes
  recoveredQueued : List Bytes
  handed : List Bytes
  wire : Bytes

variable {ledger : Ledger}

namespace Ledger

/-- The ledger before any call. -/
def empty : Ledger := ⟨[], [], none, [], [], []⟩

/-- Enter what a call returned. -/
def record (ledger : Ledger) : FlowCall → ServiceResult → Ledger
  | .enqueueReliable message _, .enqueueReliable (.ok ()) =>
    { ledger with admitted := ledger.admitted ++ [message] }
  | .pollWrite _ _ _, .pollWrite ⟨handed, sent, .ok batch⟩ =>
    { ledger with
      reported := ledger.reported ++ batch.committed
      handed := ledger.handed ++ handed
      wire := ledger.wire ++ sent }
  | .pollWrite _ _ _, .pollWrite ⟨handed, sent, .error _⟩ =>
    { ledger with
      handed := ledger.handed ++ handed
      wire := ledger.wire ++ sent }
  | .failConnection, .failConnection (.ok failed) =>
    { ledger with
      recoveredInflight := failed.inflight
      recoveredQueued := failed.queued }
  | _, _ => ledger

end Ledger

/-- A call on a flow, entered into its ledger. -/
def track (id : ConnectionId) (state : Ledger × TransportService) (call : FlowCall) :
    (Ledger × TransportService) × ServiceResult :=
  ((state.1.record call (state.2.step (call.on id)).2, (state.2.step (call.on id)).1),
    (state.2.step (call.on id)).2)

/-- The ledger agrees with the message in flight and the queue of a flow. -/
structure Balanced
    (ledger : Ledger) (inflight : Option Bytes) (queue : List Bytes) (partly : Bytes) : Prop where
  admitted : ledger.admitted = ledger.reported ++ inflight.toList ++ queue
  handed : ledger.handed = ledger.reported ++ inflight.toList
  wire : ledger.wire = ledger.reported.flatten ++ partly
  /-- Less than all of the message in flight has reached the kernel. -/
  partly : partly = [] ∨ ∃ message rest, inflight = some message ∧ rest ≠ [] ∧
    message = partly ++ rest

/-- Where the messages of a flow are: with the flow, or with the one who let it fail. -/
inductive Accounted (id : ConnectionId) (ledger : Ledger) (service : TransportService) : Prop
  | attached (flow : ActiveFlow) (connection : Connection)
      (flowFound : service.active.lookup id = some flow)
      (connectionFound : service.manager.connections.lookup id = some connection)
      (carried : Carried connection.queue flow)
      (unrecovered : ledger.recoveredInflight = none ∧ ledger.recoveredQueued = [])
      (balanced : Balanced ledger flow.inflight connection.queue flow.driver.partly)
  | removed
      (noFlow : service.active.lookup id = none)
      (noConnection : service.manager.connections.lookup id = none)
      (balanced : ∃ partly, Balanced ledger ledger.recoveredInflight ledger.recoveredQueued partly)

/-- In a poll that gets as far as writing, the driver does not fail once it has completed
a message. -/
def FailsOnlyFirst (id : ConnectionId) (service : TransportService) : FlowCall → Prop
  | .pollWrite granted flush attempts =>
    ∀ flow connection count, granted = true → service.active.lookup id = some flow →
      service.manager.connections.lookup id = some connection →
      flow.driver.hasPendingWrite = true ∨
        Clear flow ∧ flow.driver.flushTransport flush = .ok true →
      FailsAt service.config.writeCommitsPerPoll
        (flow.inflight.toList ++ connection.queue).length attempts count →
      count = 0
  | _ => True

/-- What a poll reports and what it leaves balance what there was. -/
theorem Balanced.moved {after : ActiveFlow} {queue rest committed handed : List Bytes}
    {sent : Bytes} (balanced : Balanced ledger flow.inflight queue flow.driver.partly)
    (moved : Moved flow queue committed handed sent after rest) (carried : Carried rest after) :
    Balanced
      { ledger with
        reported := ledger.reported ++ committed
        handed := ledger.handed ++ handed
        wire := ledger.wire ++ sent }
      after.inflight rest after.driver.partly := by
  refine ⟨?_, ?_, ?_, carried.balanced_partly⟩
  · calc ledger.admitted
        = ledger.reported ++ (flow.inflight.toList ++ queue) := by
          rw [balanced.admitted, List.append_assoc]
      _ = ledger.reported ++ committed ++ after.inflight.toList ++ rest := by
          rw [moved.kept]
          simp
  · calc ledger.handed ++ handed
        = ledger.reported ++ (flow.inflight.toList ++ handed) := by
          rw [balanced.handed, List.append_assoc]
      _ = ledger.reported ++ committed ++ after.inflight.toList := by
          rw [moved.handed]
          simp
  · calc ledger.wire ++ sent
        = ledger.reported.flatten ++ (flow.driver.partly ++ sent) := by
          rw [balanced.wire, List.append_assoc]
      _ = (ledger.reported ++ committed).flatten ++ after.driver.partly := by
          rw [moved.sent]
          simp

/-- A poll keeps the account, unless it drops what it had committed. -/
theorem Accounted.pollWrite
    (accounted : Accounted id ledger service) {granted : Bool} {flush : Attempt}
    {attempts : List WriteAttempt}
    (met : FailsOnlyFirst id service (.pollWrite granted flush attempts)) :
    Accounted id (ledger.record (.pollWrite granted flush attempts)
        (.pollWrite (service.pollWrite id granted flush attempts).2))
      (service.pollWrite id granted flush attempts).1 := by
  have silent : ∀ error, ledger.record (.pollWrite granted flush attempts)
      (.pollWrite ⟨[], [], .error error⟩) = ledger := by
    intro error
    simp [Ledger.record]
  obtain ⟨result, polled⟩ : ∃ result, service.pollWrite id granted flush attempts = result :=
    ⟨_, rfl⟩
  rw [polled]
  unfold TransportService.pollWrite at polled
  by_cases refused : ¬granted
  · rw [if_pos refused] at polled
    subst polled
    rw [silent]
    exact accounted
  rw [if_neg refused] at polled
  cases accounted with
  | removed noFlow noConnection balanced =>
    rw [noFlow] at polled
    subst polled
    rw [silent]
    exact .removed noFlow noConnection balanced
  | attached flow connection flowFound connectionFound carried unrecovered balanced =>
    rw [flowFound] at polled
    dsimp only at polled
    split at polled
    · subst polled
      rw [silent]
      exact .attached flow connection flowFound connectionFound carried unrecovered balanced
    · next ready readiness =>
      obtain ⟨budget, sameBudget⟩ :
          ∃ budget, (if ready then service.config.writeCommitsPerPoll else 0) = budget :=
        ⟨_, rfl⟩
      obtain ⟨⟨left, looped⟩, -, fails⟩ := writeLoop_spec connectionFound carried budget attempts
      rw [sameBudget] at polled
      rcases ended : (writeLoop id budget attempts service.manager flow).result with error | _
      · -- the driver failed: nothing may have been committed before
        have nothing : (writeLoop id budget attempts service.manager flow).committed = [] := by
          by_contra some_
          obtain ⟨writes, count, positive, failsAt⟩ := fails (by rw [ended]; simp) some_
          have running : ready = true := by
            by_contra idle
            rw [if_neg idle] at sameBudget
            exact Nat.not_lt_zero _ (sameBudget ▸ failsAt.1)
          rw [if_pos running] at sameBudget
          have zero : count = 0 := by
            apply met flow connection count (not_not.mp refused) flowFound connectionFound ?_
              (sameBudget ▸ failsAt)
            rcases writes with busy | clear
            · exact .inl busy
            · by_cases busy : flow.driver.hasPendingWrite = true
              · exact .inl busy
              · rw [if_neg busy, running] at readiness
                exact .inr ⟨clear, readiness⟩
          omega
        have moved := looped.moved
        rw [nothing] at moved
        rw [ended] at polled
        subst polled
        refine .attached _ left (lookup_insert _) looped.found looped.carried unrecovered ?_
        have after := balanced.moved moved looped.carried
        rw [List.append_nil] at after
        exact after
      · rw [ended] at polled
        dsimp only at polled
        rw [looped.found] at polled
        subst polled
        exact .attached _ left (lookup_insert _) looped.found looped.carried unrecovered
          (balanced.moved looped.moved looped.carried)

theorem enqueue_sendable
    {queued : Connection} {message : Bytes} {granted : Bool}
    (admitted : connection.enqueue message granted = .ok queued) : Sendable message := by
  unfold Connection.enqueue at admitted
  split_ifs at admitted with state empty large
  exact ⟨empty, Nat.le_of_not_lt large⟩

theorem Accounted.enqueueReliable
    (accounted : Accounted id ledger service) (message : Bytes) (granted : Bool) :
    Accounted id (ledger.record (.enqueueReliable message granted)
        (.enqueueReliable (service.enqueueReliable id message granted).2))
      (service.enqueueReliable id message granted).1 := by
  cases accounted with
  | removed noFlow noConnection balanced =>
    have unknown : id ∉ service.active := lookup_eq_none.mp noFlow
    have nothing : service.enqueueReliable id message granted =
        (service, .error .connectionNotAttached) := if_pos unknown
    rw [nothing]
    exact .removed noFlow noConnection balanced
  | attached flow connection flowFound connectionFound carried unrecovered balanced =>
    have known : ¬id ∉ service.active := by
      rw [not_not, ← lookup_isSome, flowFound]
      rfl
    unfold TransportService.enqueueReliable
    rw [if_neg known]
    unfold TransportManager.enqueue
    by_cases fenced : service.manager.shuttingDown = true
    · rw [if_pos fenced]
      exact .attached flow connection flowFound connectionFound carried unrecovered balanced
    rw [if_neg fenced, connectionFound]
    dsimp only
    rcases admission : connection.enqueue message granted with error | queued
    · exact .attached flow connection flowFound connectionFound carried unrecovered balanced
    · obtain ⟨-, rfl⟩ := Connection.enqueue_eq_ok admission
      refine .attached flow _ flowFound (lookup_insert _)
        ⟨carried.fits, carried.closing, ?_⟩ unrecovered
        ⟨?_, balanced.handed, balanced.wire, balanced.partly⟩
      · intro other member
        rcases List.mem_append.mp member with old | new
        · exact carried.sendable other old
        · exact List.mem_singleton.mp new ▸ enqueue_sendable admission
      · simp only [Ledger.record, Except.mapError, balanced.admitted, List.append_assoc]

theorem Accounted.failConnection
    (accounted : Accounted id ledger service) :
    Accounted id (ledger.record .failConnection (.failConnection (service.failConnection id).2))
      (service.failConnection id).1 := by
  cases accounted with
  | removed noFlow noConnection balanced =>
    have nothing : service.failConnection id =
        ({ service with active := service.active.erase id }, .error .connectionNotPlanned) := by
      simp [TransportService.failConnection, TransportManager.take, noFlow, noConnection]
    rw [nothing]
    exact .removed (lookup_erase _ _) noConnection balanced
  | attached flow connection flowFound connectionFound carried unrecovered balanced =>
    have taken : service.failConnection id =
        ({ service with
            manager := { service.manager with
              connections := service.manager.connections.erase id
              destinations := service.manager.destinations.erase connection.destination }
            active := service.active.erase id },
          .ok ⟨id, flow.inflight, connection.queue⟩) := by
      simp [TransportService.failConnection, TransportManager.take, flowFound, connectionFound]
    rw [taken]
    exact .removed (lookup_erase _ _) (lookup_erase _ _)
      ⟨flow.driver.partly, balanced.admitted, balanced.handed, balanced.wire, balanced.partly⟩

/-- Closing a driver begins and ends no message. -/
theorem pendingWrite_shutdown (driver : ReliableDriver) (attempt : Attempt) :
    (driver.shutdown attempt).1.pendingWrite = driver.pendingWrite := by
  unfold ReliableDriver.shutdown
  split
  · rfl
  · rfl
  · rfl
  · split_ifs
    · rfl
    · rfl
    · split <;> rfl

theorem Accounted.shutdownConnection
    (accounted : Accounted id ledger service) (attempt : Attempt) :
    Accounted id (ledger.record (.shutdownConnection attempt)
        (.shutdownConnection (service.shutdownConnection id attempt).2))
      (service.shutdownConnection id attempt).1 := by
  cases accounted with
  | removed noFlow noConnection balanced =>
    have nothing : service.shutdownConnection id attempt =
        (service, .error .connectionNotPlanned) := by
      unfold TransportService.shutdownConnection
      rw [noConnection]
    rw [nothing]
    exact .removed noFlow noConnection balanced
  | attached flow connection flowFound connectionFound carried unrecovered balanced =>
    unfold TransportService.shutdownConnection
    rw [connectionFound, flowFound]
    dsimp only
    by_cases busy : connection.queue.length ≠ 0 ∨ flow.inflight.isSome = true
    · rw [if_pos busy]
      exact .attached flow connection flowFound connectionFound carried unrecovered balanced
    rw [if_neg busy]
    obtain ⟨drained, free⟩ : connection.queue = [] ∧ flow.inflight = none := by
      simpa using busy
    have idle : flow.driver.pendingWrite = none := by
      rcases writing : flow.driver.pendingWrite with _ | pending
      · rfl
      · cases free.symm.trans (carried.fits pending writing).1
    have still := (pendingWrite_shutdown flow.driver attempt).trans idle
    have stays : ∀ driver : ReliableDriver, driver.pendingWrite = none → Accounted id ledger
        { service with
          active := service.active.insert id { flow with driver := driver } } := by
      intro driver quiet
      refine .attached _ connection (lookup_insert _) connectionFound
        ⟨?_, fun _ => quiet, carried.sendable⟩ unrecovered
        ⟨balanced.admitted, balanced.handed, ?_, .inl ?_⟩
      · intro pending writing
        cases quiet.symm.trans writing
      · simpa [ReliableDriver.partly, quiet, idle] using balanced.wire
      · simp [ReliableDriver.partly, quiet]
    rcases closed : flow.driver.shutdown attempt with ⟨driver, error | progress⟩
    · rw [closed] at still
      exact stays driver still
    · rw [closed] at still
      cases progress with
      | pending => exact stays driver still
      | complete =>
        refine .removed (lookup_erase _ _) ?_ ⟨flow.driver.partly, ?_⟩
        · simp [TransportManager.remove, TransportManager.take, connectionFound]
        · obtain ⟨noInflight, noQueued⟩ := unrecovered
          rw [free, drained] at balanced
          simp only [Ledger.record, noInflight, noQueued]
          exact balanced

/-- Every call keeps the account, polls under their condition. -/
theorem accounted_track {state : Ledger × TransportService} {call : FlowCall}
    (met : FailsOnlyFirst id state.2 call) (accounted : Accounted id state.1 state.2) :
    Accounted id (track id state call).1.1 (track id state call).1.2 := by
  cases call with
  | enqueueReliable message granted => exact accounted.enqueueReliable message granted
  | pollWrite granted flush attempts => exact accounted.pollWrite met
  | shutdownConnection attempt => exact accounted.shutdownConnection attempt
  | failConnection => exact accounted.failConnection

/-- A graceful close removes only a flow that has nothing queued or in flight. -/
theorem drained_of_shutdownConnection
    {attempt : Attempt}
    (flowFound : service.active.lookup id = some flow)
    (connectionFound : service.manager.connections.lookup id = some connection)
    (gone : (service.shutdownConnection id attempt).1.active.lookup id = none) :
    flow.inflight = none ∧ connection.queue = [] := by
  unfold TransportService.shutdownConnection at gone
  rw [connectionFound, flowFound] at gone
  dsimp only at gone
  by_cases busy : connection.queue.length ≠ 0 ∨ flow.inflight.isSome = true
  · rw [if_pos busy] at gone
    cases flowFound.symm.trans gone
  · obtain ⟨drained, free⟩ : connection.queue = [] ∧ flow.inflight = none := by
      simpa using busy
    exact ⟨free, drained⟩

/-- A connection that is still connecting has nothing queued. -/
def ConnectingEmpty (manager : TransportManager) : Prop :=
  ∀ id connection, manager.connections.lookup id = some connection →
    connection.state = .connecting → connection.queue = []

theorem ConnectingEmpty.put (empty : ConnectingEmpty manager)
    {after : Connection} (own : after.state = .connecting → after.queue = []) :
    ConnectingEmpty (manager.put id after) := by
  intro other connection found connecting
  obtain ⟨rfl, rfl⟩ | ⟨-, before⟩ := KeyMap.lookup_insert_cases found
  · exact own connecting
  · exact empty other connection before connecting

theorem ConnectingEmpty.take (empty : ConnectingEmpty manager) (id : ConnectionId) :
    ConnectingEmpty (manager.take id).1 := by
  unfold TransportManager.take
  split
  · exact empty
  · intro other connection found connecting
    exact empty other connection (KeyMap.lookup_of_erase found).2 connecting

theorem connectingEmpty_step
    (manager : TransportManager) (call : ManagerCall) (empty : ConnectingEmpty manager) :
    ConnectingEmpty (manager.step call).1 := by
  cases call with
  | register destination connectionGranted destinationGranted =>
    have registered := TransportManager.registered_register manager destination
      connectionGranted destinationGranted
    simp only [TransportManager.step]
    generalize manager.register destination connectionGranted destinationGranted = result
      at registered ⊢
    cases registered with
    | kept | refused => exact empty
    | entered => exact ConnectingEmpty.put empty fun _ => rfl
  | establish id =>
    simp only [TransportManager.step, TransportManager.establish]
    split
    · exact empty
    · split
      · exact empty
      · next moved transitioned =>
        rw [Connection.transition_eq_ok transitioned]
        exact empty.put (by simp)
  | enqueue id message granted =>
    simp only [TransportManager.step, TransportManager.enqueue]
    by_cases fenced : manager.shuttingDown = true
    · rw [if_pos fenced]
      exact empty
    · rw [if_neg fenced]
      split
      · exact empty
      · split
        · exact empty
        · next queued admitted =>
          obtain ⟨state, rfl⟩ := Connection.enqueue_eq_ok admitted
          exact empty.put (by simp [state])
  | popFront id =>
    simp only [TransportManager.step, TransportManager.popFront]
    split
    · exact empty
    · next connection found =>
      apply empty.put
      obtain ⟨-, -, state, queue⟩ := connection.popFront_spec
      intro connecting
      have none_ := empty id connection found (state ▸ connecting)
      rw [none_, List.append_eq_nil_iff] at queue
      exact queue.2
  | take id => exact empty.take id
  | remove id => exact empty.take id
  | beginShutdown =>
    intro id connection found connecting
    obtain ⟨before, -, rfl, -⟩ := TransportManager.lookup_beginShutdown.mp found
    unfold Connection.beginShutdown at connecting
    split at connecting <;> simp_all

/-- An attached flow begins with an empty account. -/
theorem accounted_attach (empty : ConnectingEmpty service.manager)
    {driver : ReliableDriver} {granted : Bool} (idle : driver.pendingWrite = none)
    (attached : (service.attach id driver granted).2 = .ok ()) :
    Accounted id .empty (service.attach id driver granted).1 := by
  unfold attach at attached ⊢
  by_cases known : id ∈ service.active
  · rw [if_pos known] at attached
    cases attached
  rw [if_neg known] at attached ⊢
  split at attached
  · cases attached
  · next connection found =>
    split_ifs at attached ⊢ with state protocol peer flow memory
    have drained : connection.queue = [] := empty id connection found (not_not.mp state)
    unfold TransportManager.establish at attached ⊢
    rw [found] at attached ⊢
    dsimp only at attached ⊢
    rcases transitioned : connection.transition .established with error | moved
    · rw [transitioned] at attached
      cases attached
    · rw [Connection.transition_eq_ok transitioned]
      refine .attached ⟨driver, none⟩ _ (lookup_insert _) (lookup_insert _)
        ⟨?_, fun _ => idle, ?_⟩ ⟨rfl, rfl⟩ ⟨?_, rfl, ?_, .inl ?_⟩
      · intro pending writing
        cases idle.symm.trans writing
      · simp [drained]
      · simp [drained, Ledger.empty]
      · simp [Ledger.empty, ReliableDriver.partly, idle]
      · simp [ReliableDriver.partly, idle]

/-- The service with a driver just attached, and an empty ledger. -/
def attachedAfter
    (service : TransportService) (earlier : List ServiceCall) (id : ConnectionId)
    (driver : ReliableDriver) (granted : Bool) : Ledger × TransportService :=
  (.empty, ((after step service earlier).attach id driver granted).1)

/-- After some calls on a flow, every admitted message is accounted for, and a graceful
close would remove the flow only when nothing is queued or in flight. -/
def Conserved
    (id : ConnectionId) (start : Ledger × TransportService) (calls : List FlowCall) : Prop :=
  Accounted id (after (track id) start calls).1 (after (track id) start calls).2 ∧
    ∀ attempt flow connection, (after (track id) start calls).2.active.lookup id = some flow →
      (after (track id) start calls).2.manager.connections.lookup id = some connection →
      ((after (track id) start calls).2.shutdownConnection id attempt).1.active.lookup id = none →
      flow.inflight = none ∧ connection.queue = []

/-- Reliable writes are conserved over every run in which no driver fails in a poll that
had already committed a message. -/
theorem writes_conserved
    {config : ServiceConfig} {service : TransportService} (created : new config = .ok service)
    (earlier : List ServiceCall) {id : ConnectionId} {driver : ReliableDriver} {granted : Bool}
    (idle : driver.pendingWrite = none)
    (attached : ((after step service earlier).attach id driver granted).2 = .ok ())
    (calls : List FlowCall)
    (met : AllSteps
      (fun before call => FailsOnlyFirst id
        (after (track id) (attachedAfter service earlier id driver granted) before).2 call) calls) :
    Conserved id (attachedAfter service earlier id driver granted) calls := by
  obtain ⟨registry, -⟩ := new_eq_ok created
  obtain ⟨trace, manager, -, -, -⟩ := through_run service earlier
  have empty : ConnectingEmpty (after step service earlier).manager := by
    rw [manager]
    apply invariant ConnectingEmpty
    · unfold TransportManager.new at registry
      split at registry
      · cases registry
      · rw [← Except.ok.inj registry]
        intro id connection found
        simp at found
    · exact connectingEmpty_step
  constructor
  · apply guarded_invariant
      (fun _ (state : Ledger × TransportService) => Accounted id state.1 state.2)
      (accounted_attach empty idle attached) ?_ calls met
    intro before call condition accounted
    exact accounted_track condition accounted
  · intro attempt flow connection flowFound connectionFound gone
    exact drained_of_shutdownConnection flowFound connectionFound gone

/-- A TCP peer. -/
def sampleDestination : Destination := ⟨.tcp, ⟨.v4 0x7f000001, 5060, 0, 0⟩, none⟩

/-- The first identity of a registry. -/
def sampleId : ConnectionId := ⟨1, by decide⟩

/-- A fresh driver for it. -/
def sampleDriver : ReliableDriver :=
  .tcp ⟨Transport.flowId sampleId, sampleDestination.remote, none⟩

/-- A small service. -/
def sampleService : TransportService :=
  ⟨⟨sampleManagerConfig, 16⟩, ⟨sampleManagerConfig, 1, false, ∅, ∅⟩, ∅⟩

/-- The service with its first flow. -/
def sampleAttached : Ledger × TransportService :=
  attachedAfter sampleService [.planReliable sampleDestination true true] sampleId sampleDriver true

/-- A poll that commits its only message, and one that fails on its only message. -/
def settledCalls : List FlowCall :=
  [.enqueueReliable [1] true, .pollWrite true .done [.complete],
    .enqueueReliable [2] true, .pollWrite true .done [.failed 0]]

/-- Two messages, and a poll in which the socket takes the first one and fails on the second. -/
def failingCalls : List FlowCall :=
  [.enqueueReliable [1] true, .enqueueReliable [2] true,
    .pollWrite true .done [.complete, .failed 0]]

/-- Writes are conserved in a run whose polls fail on their first message at most. -/
theorem writes_conserved_sampleService :
    new ⟨sampleManagerConfig, 16⟩ = .ok sampleService ∧
      Conserved sampleId sampleAttached settledCalls := by
  have created : new ⟨sampleManagerConfig, 16⟩ = .ok sampleService := rfl
  have single (service : TransportService) (attempt : WriteAttempt) :
      FailsOnlyFirst sampleId service (.pollWrite true .done [attempt]) := by
    rintro flow connection count - - - - ⟨-, -, -, length, failed⟩
    cases count with
    | zero => rfl
    | succ count => simp at failed
  refine ⟨created, writes_conserved created [.planReliable sampleDestination true true] rfl rfl
    settledCalls ?_⟩
  rw [show settledCalls = ((([] ++ [.enqueueReliable [1] true]) ++
      [.pollWrite true .done [.complete]]) ++ [.enqueueReliable [2] true]) ++
        [.pollWrite true .done [.failed 0]] from rfl]
  simp only [allSteps_concat]
  exact ⟨⟨⟨⟨by simp, trivial⟩, single _ _⟩, trivial⟩, single _ _⟩

/-- The first message reached the kernel and is nowhere to be found. -/
theorem not_conserved_failingCalls :
    new ⟨sampleManagerConfig, 16⟩ = .ok sampleService ∧
      ((after step sampleService [.planReliable sampleDestination true true]).attach sampleId
        sampleDriver true).2 = .ok () ∧
      ¬Conserved sampleId sampleAttached failingCalls := by
  refine ⟨rfl, rfl, ?_⟩
  rintro ⟨accounted, -⟩
  have admitted : (after (track sampleId) sampleAttached failingCalls).1.admitted =
      [[1], [2]] := rfl
  have reported : (after (track sampleId) sampleAttached failingCalls).1.reported = [] := rfl
  have inflight : ((after (track sampleId) sampleAttached failingCalls).2.active.lookup
      sampleId).map ActiveFlow.inflight = some (some [2]) := rfl
  cases accounted with
  | removed noFlow noConnection balanced =>
    rw [noFlow] at inflight
    cases inflight
  | attached flow connection flowFound connectionFound carried unrecovered balanced =>
    rw [flowFound, Option.map_some, Option.some.injEq] at inflight
    have kept := balanced.admitted
    rw [admitted, reported, inflight] at kept
    simp at kept

end TransportService

end Transport
end Sip
end LiveAISIP
