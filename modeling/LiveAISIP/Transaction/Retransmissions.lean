import LiveAISIP.Transaction.ClientDelivery
import Mathlib.Data.List.Sort
import Mathlib.Tactic.Ring

/-!
# Timed retransmissions

A client transaction with a clock.  Each scheduled timer has a deadline, and
the timers fire at their deadlines, the earliest first.  The intervals of an
INVITE double until Timer B ends the transaction; those of any other request
grow up to T2.
-/

namespace LiveAISIP
namespace Transaction

open Sip
open TimerProfile

/-- A client transaction, the time since its start in nanoseconds, and the
deadline of each outstanding timer. -/
structure TimedClient where
  transaction : ClientTransaction
  now : Nat
  deadline : Timer → Option Nat

/-- One event of a timed run. -/
inductive TimedInput
  | fire (timer : Timer)
  | response (instant : Nat) (response : ValidatedResponse)

namespace TimedClient

variable {retransmissions : Nat} {inputs : List TimedInput}

/-- The deadlines after one action. -/
def interpret (now : Nat) (deadline : Timer → Option Nat) : Action → Timer → Option Nat
  | .schedule timer delay =>
    Function.update deadline timer (some (now + delay.asNanos))
  | .cancel timer => Function.update deadline timer none
  | _ => deadline

/-- The client after an operation with the given result. -/
def settle
    (now : Nat) (deadline : Timer → Option Nat)
    (result : ClientTransaction × ClientTransaction.Outcome) :
    TimedClient × (Nat × ClientTransaction.Outcome) :=
  (⟨result.1, now, (ClientTransaction.actionsOf result.2).foldl (interpret now) deadline⟩,
    now, result.2)

/-- Start a transaction at time zero. -/
def begin (tx : ClientTransaction) : TimedClient × (Nat × ClientTransaction.Outcome) :=
  settle 0 (fun _ => none) tx.start

/-- Apply one event: a timer fires at its deadline, a response arrives at its
instant. -/
def advance (client : TimedClient) : TimedInput → TimedClient × (Nat × ClientTransaction.Outcome)
  | .fire timer =>
    match client.deadline timer with
    | none => (client, client.now, .ok [])
    | some instant =>
      settle instant (Function.update client.deadline timer none) (client.transaction.onTimer timer)
  | .response instant response =>
    settle instant client.deadline (client.transaction.onResponse response)

/-- No outstanding timer is due before an instant. -/
def NoneBefore (client : TimedClient) (instant : Nat) : Prop :=
  ∀ timer deadline, client.deadline timer = some deadline → instant ≤ deadline

/-- The event comes next: a timer at the earliest deadline, a response between
now and the earliest deadline. -/
def Next (client : TimedClient) : TimedInput → Prop
  | .fire timer =>
    ∃ instant, client.deadline timer = some instant ∧ client.NoneBefore instant
  | .response instant _ => client.now ≤ instant ∧ client.NoneBefore instant

/-- Whether no timer is due before an instant, by looking at each of them. -/
instance (client : TimedClient) (instant : Nat) : Decidable (client.NoneBefore instant) :=
  decidable_of_iff
    (∀ timer ∈ [Timer.retransmit, .requestTimeout, .linger],
      ∀ deadline ∈ client.deadline timer, instant ≤ deadline)
    ⟨fun listed timer => listed timer (by cases timer <;> simp), fun all timer _ => all timer⟩

instance (client : TimedClient) : DecidablePred client.Next
  | .fire timer =>
    decidable_of_iff (∃ instant ∈ client.deadline timer, client.NoneBefore instant) Iff.rfl
  | .response instant _ =>
    inferInstanceAs (Decidable (client.now ≤ instant ∧ client.NoneBefore instant))

/-- No timer is outstanding. -/
def Settled (client : TimedClient) : Prop := ∀ timer, client.deadline timer = none

/-- The client after a run of events. -/
def timedAfter (tx : ClientTransaction) (inputs : List TimedInput) : TimedClient :=
  Run.after advance (begin tx).1 inputs

/-- Every event of the run comes at its time. -/
def InOrder (tx : ClientTransaction) (inputs : List TimedInput) : Prop :=
  Run.AllSteps (fun earlier input => (timedAfter tx earlier).Next input) inputs

/-- The outcomes of a run with the time of each, the start included. -/
def trace (tx : ClientTransaction) (inputs : List TimedInput) :
    List (Nat × ClientTransaction.Outcome) :=
  (begin tx).2 :: Run.outputs advance (begin tx).1 inputs

/-- The selected actions of an outcome, with its time. -/
def selected
    (select : Action → Option β) (entry : Nat × ClientTransaction.Outcome) : List (Nat × β) :=
  ((ClientTransaction.actionsOf entry.2).filterMap select).map (Prod.mk entry.1)

/-- The selected actions of a run, with the time of each. -/
def occurrences
    (select : Action → Option β) (tx : ClientTransaction)
    (inputs : List TimedInput) : List (Nat × β) :=
  (trace tx inputs).flatMap (selected select)

/-- The request of a transmission. -/
def transmission : Action → Option Bytes
  | .send bytes => some bytes
  | _ => none

/-- The end of a transaction. -/
def termination : Action → Option Unit
  | .terminate => some ()
  | _ => none

/-- The interval up to the next transmission. -/
def interval : Action → Option Nat
  | .schedule .retransmit delay => some delay.asNanos
  | _ => none

/-- The intervals between the transmissions of a run. -/
def intervals (tx : ClientTransaction) (inputs : List TimedInput) : List Nat :=
  (occurrences interval tx inputs).map Prod.snd

/-- How many timers fired in a run. -/
def firings (inputs : List TimedInput) : Nat := inputs.countP fun
    | .fire _ => true
    | .response .. => false

@[simp] theorem timedAfter_concat
    (tx : ClientTransaction) (inputs : List TimedInput) (last : TimedInput) :
    timedAfter tx (inputs ++ [last]) = ((timedAfter tx inputs).advance last).1 := by
  simp [timedAfter]

theorem trace_concat
    (tx : ClientTransaction) (inputs : List TimedInput) (last : TimedInput) :
    trace tx (inputs ++ [last]) = trace tx inputs ++ [((timedAfter tx inputs).advance last).2] := by
  simp [trace, Run.outputs_concat, Run.output, timedAfter]

theorem occurrences_concat
    (select : Action → Option β) (tx : ClientTransaction)
    (inputs : List TimedInput) (last : TimedInput) :
    occurrences select tx (inputs ++ [last]) = occurrences select tx inputs ++
        selected select ((timedAfter tx inputs).advance last).2 := by
  simp [occurrences, trace_concat]

theorem intervals_concat
    (tx : ClientTransaction) (inputs : List TimedInput) (last : TimedInput) :
    intervals tx (inputs ++ [last]) = intervals tx inputs ++ (ClientTransaction.actionsOf
        ((timedAfter tx inputs).advance last).2.2).filterMap interval := by
  simp [intervals, occurrences_concat, selected]

theorem inOrder_concat
    (tx : ClientTransaction) (inputs : List TimedInput) (last : TimedInput) :
    InOrder tx (inputs ++ [last]) ↔ InOrder tx inputs ∧ (timedAfter tx inputs).Next last :=
  Run.allSteps_concat ..

/-- While a timer is outstanding, one of them comes next. -/
theorem exists_next
    {client : TimedClient} (busy : ¬client.Settled) :
    ∃ timer, client.Next (.fire timer) := by
  classical
  simp only [Settled, not_forall] at busy
  obtain ⟨timer, outstanding⟩ := busy
  have some : ∃ instant timer, client.deadline timer = some instant := by
    obtain ⟨instant, present⟩ := Option.ne_none_iff_exists'.mp outstanding
    exact ⟨instant, timer, present⟩
  obtain ⟨earliest, present⟩ := Nat.find_spec some
  refine ⟨earliest, Nat.find some, present, ?_⟩
  intro other deadline outstanding
  exact Nat.find_min' some ⟨other, outstanding⟩

/-- A transaction that is about to start over an unreliable transport. -/
structure Fresh (timers : TimerConfig) (tx : ClientTransaction) : Prop where
  profile : tx.profile = timers.profile false
  pending : tx.nextRetransmit = some timers.t1
  unstarted : tx.started = false
  allowed : tx.RetransmitAllowed

theorem fresh_new
    {fromRequest : ValidatedRequest → Except AckBuildError Non2xxAckTemplate}
    {request : ValidatedRequest} {timers : TimerConfig} {tx : ClientTransaction}
    (created : ClientTransaction.new fromRequest request false timers = .ok tx) :
    Fresh timers tx := by
  have allowed := ClientTransaction.retransmitAllowed_new created
  obtain ⟨key, template, -, -, rfl⟩ := ClientTransaction.new_eq_ok created
  exact ⟨rfl, rfl, rfl, allowed⟩

/-- The overall timeout is 64 T1, without saturation. -/
theorem Fresh.requestTimeout
    {timers : TimerConfig} {tx : ClientTransaction} (fresh : Fresh timers tx) :
    tx.requestTimeout.asNanos = 64 * timers.t1.asNanos := by
  have timeout : ((timers.t1.checkedMul 64).getD .max).asNanos = 64 * timers.t1.asNanos := by
    obtain ⟨product, multiplied⟩ := Option.isSome_iff_exists.mp timers.sixtyFourT1_representable
    rw [multiplied]
    simp only [Duration.checkedMul, Duration.ofNanos] at multiplied
    split_ifs at multiplied
    simp only [Option.some.injEq] at multiplied
    rw [← multiplied]
    simp only [Option.getD_some]
    omega
  unfold ClientTransaction.requestTimeout
  rw [fresh.profile]
  cases tx.kind <;> exact timeout

/-- Starting sends the request and schedules both timers. -/
theorem Fresh.start
    {timers : TimerConfig} {tx : ClientTransaction} (fresh : Fresh timers tx) :
    tx.start = (tx.launch, .ok [.send tx.request, .schedule .requestTimeout tx.requestTimeout,
      .schedule .retransmit timers.t1]) := by
  simp [ClientTransaction.start, fresh.unstarted, fresh.pending]

theorem Fresh.t1_pos
    {timers : TimerConfig} {tx : ClientTransaction} (_ : Fresh timers tx) :
    0 < timers.t1.asNanos := by
  have lower := timers.t1_lower
  have positive : 0 < minT1.asNanos := by decide
  omega

/-- The times of the transmissions up to the given retransmission. -/
def transmissionTimes (t1 retransmissions : Nat) : List Nat :=
  (List.range (retransmissions + 1)).map fun sent => (2 ^ sent - 1) * t1

/-- The run has made a number of retransmissions and waits for the next one. -/
structure InviteProgress
    (timers : TimerConfig) (tx : ClientTransaction) (inputs : List TimedInput)
    (retransmissions : Nat) : Prop where
  length : inputs.length = retransmissions
  few : retransmissions ≤ 6
  transaction : ∃ pending : Duration, pending.asNanos = 2 ^ retransmissions * timers.t1.asNanos ∧
      (timedAfter tx inputs).transaction = tx.launch.setRetransmit (some pending)
  retransmit : (timedAfter tx inputs).deadline .retransmit =
    some ((2 ^ (retransmissions + 1) - 1) * timers.t1.asNanos)
  requestTimeout : (timedAfter tx inputs).deadline .requestTimeout = some (64 * timers.t1.asNanos)
  linger : (timedAfter tx inputs).deadline .linger = none
  accepted : ∀ entry ∈ trace tx inputs, ∃ actions, entry.2 = .ok actions
  transmissions : occurrences transmission tx inputs =
    (transmissionTimes timers.t1.asNanos retransmissions).map (·, tx.request)
  terminations : occurrences termination tx inputs = []

/-- The run has ended with Timer B. -/
structure InviteEnded
    (timers : TimerConfig) (tx : ClientTransaction) (inputs : List TimedInput) : Prop where
  length : inputs.length = 7
  settled : (timedAfter tx inputs).Settled
  accepted : ∀ entry ∈ trace tx inputs, ∃ actions, entry.2 = .ok actions
  transmissions : occurrences transmission tx inputs =
    (transmissionTimes timers.t1.asNanos 6).map (·, tx.request)
  terminations : occurrences termination tx inputs = [(64 * timers.t1.asNanos, ())]

variable {timers : TimerConfig} {tx : ClientTransaction}

/-- At the start nothing has been retransmitted. -/
theorem inviteProgress_nil (fresh : Fresh timers tx) :
    InviteProgress timers tx [] 0 := by
  have began : begin tx = settle 0 (fun _ => none) (tx.launch, .ok
      [.send tx.request, .schedule .requestTimeout tx.requestTimeout,
        .schedule .retransmit timers.t1]) := by
    rw [begin, fresh.start]
  have timeout := fresh.requestTimeout
  have pending := fresh.pending
  refine ⟨rfl, by omega, ⟨timers.t1, by omega, ?_⟩, ?_, ?_, ?_, ?_, ?_, ?_⟩
  · simp [timedAfter, began, settle, ClientTransaction.launch,
      ClientTransaction.setRetransmit, pending]
  · simp [timedAfter, began, settle, interpret]
  · simp [timedAfter, began, settle, interpret, timeout]
  · simp [timedAfter, began, settle, interpret]
  · simp [trace, began, settle]
  · simp [occurrences, trace, began, settle, selected, transmission, transmissionTimes]
  · simp [occurrences, trace, began, settle, selected, termination]

/-- The interval doubles without overflow. -/
theorem checkedMul_two
    {pending : Duration} (few : retransmissions ≤ 6)
    (current : pending.asNanos = 2 ^ retransmissions * timers.t1.asNanos) :
    ∃ next : Duration, pending.checkedMul 2 = some next ∧
      next.asNanos = 2 ^ (retransmissions + 1) * timers.t1.asNanos := by
  have upper := timers.t1_upper
  have base : maxBaseTimer.asNanos = 30000000000 := rfl
  have doubled : pending.asNanos * 2 = 2 ^ (retransmissions + 1) * timers.t1.asNanos := by
    rw [current, pow_succ]
    ring
  have bounded : 2 ^ (retransmissions + 1) * timers.t1.asNanos ≤ 2 ^ 7 * 30000000000 := by
    apply Nat.mul_le_mul
    · exact Nat.pow_le_pow_right (by omega) (by omega)
    · omega
  have fits : pending.asNanos * 2 ≤ maxDurationNanos := by
    rw [doubled]
    simp only [maxDurationNanos]
    omega
  exact ⟨⟨pending.asNanos * 2, fits⟩,
    by simp [Duration.checkedMul, Duration.ofNanos, fits], doubled⟩

/-- Up to the sixth, a retransmission leads to the next interval. -/
theorem InviteProgress.retransmits (fresh : Fresh timers tx)
    (invite : tx.kind = .invite) (progress : InviteProgress timers tx inputs retransmissions)
    (more : retransmissions < 6) :
    InviteProgress timers tx (inputs ++ [.fire .retransmit]) (retransmissions + 1) := by
  obtain ⟨pending, current, transaction⟩ := progress.transaction
  obtain ⟨next, doubled, following⟩ := checkedMul_two progress.few current
  have fired : (timedAfter tx inputs).transaction.onTimer .retransmit =
      (tx.launch.setRetransmit (some next),
        .ok [.send tx.request, .schedule .retransmit next]) := by
    rw [transaction]
    have initial : tx.profile.retransmitInitial = some timers.t1 := by
      rw [fresh.profile]
      rfl
    have allowed : (tx.launch.setRetransmit (some pending)).RetransmitAllowed := fresh.allowed
    refine (ClientTransaction.TimerStep.retransmit pending next rfl allowed ?_).onTimer_eq rfl
    simp only [ClientTransaction.followingRetransmit]
    rw [show (tx.launch.setRetransmit (some pending)).kind = .invite from invite]
    simp only [nextInviteClientRetransmit, ClientTransaction.profile_setRetransmit]
    rw [show tx.launch.profile.retransmitInitial = some timers.t1 from initial]
    exact doubled
  have advanced : (timedAfter tx inputs).advance (.fire .retransmit) =
      settle ((2 ^ (retransmissions + 1) - 1) * timers.t1.asNanos)
        (Function.update (timedAfter tx inputs).deadline .retransmit none)
        (tx.launch.setRetransmit (some next),
          .ok [.send tx.request, .schedule .retransmit next]) := by
    simp only [advance, progress.retransmit, fired]
  refine ⟨by simp [progress.length], more, ⟨next, following, ?_⟩, ?_, ?_, ?_, ?_, ?_, ?_⟩
  · simp [advanced, settle]
  · -- The next deadline is one doubled interval after this one.
    have later : (2 ^ (retransmissions + 1) - 1) * timers.t1.asNanos +
        2 ^ (retransmissions + 1) * timers.t1.asNanos =
          (2 ^ (retransmissions + 1 + 1) - 1) * timers.t1.asNanos := by
      rw [← Nat.add_mul]
      have positive : 0 < 2 ^ (retransmissions + 1) := Nat.two_pow_pos _
      congr 1
      rw [pow_succ 2 (retransmissions + 1)]
      omega
    simp [advanced, settle, interpret, following, later]
  · simp [advanced, settle, interpret, progress.requestTimeout]
  · simp [advanced, settle, interpret, progress.linger]
  · intro entry mem
    rw [trace_concat, List.mem_append, List.mem_singleton] at mem
    rcases mem with before | rfl
    · exact progress.accepted entry before
    · exact ⟨_, by rw [advanced]; rfl⟩
  · rw [occurrences_concat, progress.transmissions, advanced]
    simp [transmissionTimes, List.range_succ, settle, selected, transmission]
  · rw [occurrences_concat, progress.terminations, advanced]
    simp [settle, selected, termination]

/-- Timer B ends the transaction. -/
theorem InviteProgress.times_out (fresh : Fresh timers tx)
    (progress : InviteProgress timers tx inputs 6) :
    InviteEnded timers tx (inputs ++ [.fire .requestTimeout]) := by
  obtain ⟨pending, -, transaction⟩ := progress.transaction
  have fired : (timedAfter tx inputs).transaction.onTimer .requestTimeout =
      ((tx.launch.setRetransmit (some pending)).moveTo .terminated,
        .ok [.cancel .retransmit, .terminate]) := by
    rw [transaction]
    have unanswered : ClientTransaction.IsUnanswered
        (tx.launch.setRetransmit (some pending)).state :=
      fresh.allowed.unanswered
    exact (ClientTransaction.TimerStep.requestTimeout unanswered).onTimer_eq rfl
  have advanced : (timedAfter tx inputs).advance (.fire .requestTimeout) =
      settle (64 * timers.t1.asNanos)
        (Function.update (timedAfter tx inputs).deadline .requestTimeout none)
        ((tx.launch.setRetransmit (some pending)).moveTo .terminated,
          .ok [.cancel .retransmit, .terminate]) := by
    simp only [advance, progress.requestTimeout, fired]
  refine ⟨by simp [progress.length], ?_, ?_, ?_, ?_⟩
  · intro timer
    cases timer <;> simp [advanced, settle, interpret, progress.linger]
  · intro entry mem
    rw [trace_concat, List.mem_append, List.mem_singleton] at mem
    rcases mem with before | rfl
    · exact progress.accepted entry before
    · exact ⟨_, by rw [advanced]; rfl⟩
  · rw [occurrences_concat, progress.transmissions, advanced]
    simp [settle, selected, transmission]
  · rw [occurrences_concat, progress.terminations, advanced]
    rfl

/-- Timer B comes next exactly after the sixth retransmission. -/
theorem InviteProgress.next {timer : Timer} (fresh : Fresh timers tx)
    (progress : InviteProgress timers tx inputs retransmissions)
    (next : (timedAfter tx inputs).Next (.fire timer)) :
    (timer = .retransmit ∧ retransmissions < 6) ∨
      (timer = .requestTimeout ∧ retransmissions = 6) := by
  obtain ⟨instant, due, earliest⟩ := next
  have positive := fresh.t1_pos
  have few := progress.few
  have beforeRetransmit := earliest _ _ progress.retransmit
  have beforeTimeout := earliest _ _ progress.requestTimeout
  cases timer with
  | linger => simp [progress.linger] at due
  | retransmit =>
    left
    refine ⟨rfl, ?_⟩
    by_contra many
    obtain rfl : retransmissions = 6 := by omega
    rw [progress.retransmit, Option.some.injEq] at due
    omega
  | requestTimeout =>
    right
    refine ⟨rfl, ?_⟩
    rw [progress.requestTimeout, Option.some.injEq] at due
    by_contra other
    have power : 2 ^ (retransmissions + 1) ≤ 2 ^ 6 := Nat.pow_le_pow_right (by omega) (by omega)
    have early : (2 ^ (retransmissions + 1) - 1) * timers.t1.asNanos ≤ 63 * timers.t1.asNanos :=
      Nat.mul_le_mul_right _ (by omega)
    omega

/-- Every run of an unanswered INVITE is one of the seven stages, or has
ended. -/
theorem invite_progress
    (fresh : Fresh timers tx) (invite : tx.kind = .invite)
    (inputs : List TimedInput) (ordered : InOrder tx inputs)
    (unanswered : ∀ input ∈ inputs, ∃ timer, input = .fire timer) :
    (∃ retransmissions, InviteProgress timers tx inputs retransmissions) ∨
      InviteEnded timers tx inputs := by
  induction inputs using List.reverseRecOn with
  | nil => exact .inl ⟨0, inviteProgress_nil fresh⟩
  | append_singleton earlier input ih =>
    obtain ⟨prior, next⟩ := (inOrder_concat ..).mp ordered
    obtain ⟨timer, rfl⟩ := unanswered input (by simp)
    rcases ih prior
        (fun input mem => unanswered input (by simp [mem])) with
      ⟨retransmissions, progress⟩ | ended
    · rcases progress.next fresh next with ⟨rfl, more⟩ | ⟨rfl, rfl⟩
      · exact .inl ⟨_, progress.retransmits fresh invite more⟩
      · exact .inr (progress.times_out fresh)
    · obtain ⟨instant, due, -⟩ := next
      simp [ended.settled timer] at due

/-- What an operation does to the intervals: it schedules none and leaves the
pending one or drops it, or it schedules the one that follows. -/
inductive PaceStep (before after : ClientTransaction) (scheduled : List Nat) : Prop
  | kept
      (none : scheduled = [])
      (same : after.nextRetransmit = before.nextRetransmit)
  | dropped
      (none : scheduled = [])
      (absent : after.nextRetransmit = .none)
  | grown
      (current next : Duration)
      (pending : before.nextRetransmit = some current)
      (following : before.followingRetransmit current = some next)
      (advanced : after.nextRetransmit = some next)
      (one : scheduled = [next.asNanos])

theorem paceStep_onTimer (client : ClientTransaction) (timer : Timer) :
    PaceStep client (client.onTimer timer).1
      ((ClientTransaction.actionsOf (client.onTimer timer).2).filterMap interval) := by
  rcases client.onTimer_cases timer with
    ⟨error, refused⟩ | ⟨after, actions, taken, -, step⟩
  · rw [refused]
    exact .kept rfl rfl
  · rw [taken]
    cases step with
    | requestTimeout state => exact .kept rfl rfl
    | linger state => exact .kept rfl rfl
    | retransmit current next pending allowed following =>
      exact .grown current next pending following rfl rfl

theorem paceStep_onResponse
    (client : ClientTransaction) (response : ValidatedResponse) :
    PaceStep client (client.onResponse response).1
      ((ClientTransaction.actionsOf (client.onResponse response).2).filterMap interval) := by
  have unpaced (ack : Option Bytes) :
      (ClientTransaction.ackActions ack).filterMap interval = [] := by
    cases ack <;> rfl
  rcases client.onResponse_cases response with
    ⟨error, refused⟩ | ⟨after, actions, taken, -, -, step⟩
  · rw [refused]
    exact .kept rfl rfl
  · rw [taken]
    cases step with
    | firstProvisional => exact .dropped rfl rfl
    | provisional => exact .kept rfl rfl
    | lingers ack | ends ack =>
      refine .dropped ?_ rfl
      rw [ClientTransaction.actionsOf_ok, List.filterMap_append, unpaced]
      rfl
    | repeatedSuccess => exact .kept rfl rfl
    | lateSuccess => exact .kept rfl rfl
    | repeatedFailure bytes acked => exact .kept rfl rfl
    | repeatedFinal => exact .kept rfl rfl

/-- Every event of a run is such an operation, and keeps the identity of the
transaction. -/
theorem paceStep_advance (client : TimedClient) (input : TimedInput) :
    PaceStep client.transaction (client.advance input).1.transaction
        ((ClientTransaction.actionsOf (client.advance input).2.2).filterMap interval) ∧
      client.transaction.SameIdentity (client.advance input).1.transaction := by
  cases input with
  | fire timer =>
    simp only [advance]
    cases client.deadline timer with
    | none => exact ⟨.kept rfl rfl, .refl _⟩
    | some instant =>
      exact ⟨paceStep_onTimer client.transaction timer,
        ClientTransaction.sameIdentity_step client.transaction (.timer timer)⟩
  | response instant response =>
    exact ⟨paceStep_onResponse client.transaction response,
      ClientTransaction.sameIdentity_step client.transaction (.response response)⟩

/-- The interval that follows is at least the current one, and at most T2. -/
theorem followingRetransmit_bounds
    {client : ClientTransaction} {current next : Duration} (other : client.kind = .nonInvite)
    (profile : client.profile = timers.profile false) (capped : current.asNanos ≤ timers.t2.asNanos)
    (following : client.followingRetransmit current = some next) :
    current.asNanos ≤ next.asNanos ∧ next.asNanos ≤ timers.t2.asNanos := by
  have maximum : client.profile.retransmitMaximum = some timers.t2 := by
    rw [profile]
    rfl
  simp only [ClientTransaction.followingRetransmit, other,
    nextNonInviteClientRetransmit, maximum] at following
  by_cases proceeding : client.state = .proceeding
  · simp only [proceeding, decide_true, ↓reduceIte, Option.some.injEq] at following
    rw [← following]
    exact ⟨capped, Nat.le_refl _⟩
  · simp only [proceeding, decide_false, Bool.false_eq_true, ↓reduceIte,
      Option.some.injEq] at following
    rw [← following]
    have doubled : current.asNanos ≤ ((current.checkedMul 2).getD timers.t2).asNanos := by
      simp only [Duration.checkedMul, Duration.ofNanos]
      split_ifs
      · simp only [Option.getD_some]
        omega
      · exact capped
    simp only [doubledUpTo, Duration.min]
    split_ifs with smaller
    · exact ⟨doubled, smaller⟩
    · exact ⟨capped, Nat.le_refl _⟩

/-- The intervals of a run so far. -/
structure Paced
    (timers : TimerConfig) (tx : ClientTransaction) (inputs : List TimedInput) : Prop where
  kind : (timedAfter tx inputs).transaction.kind = .nonInvite
  profile : (timedAfter tx inputs).transaction.profile = timers.profile false
  pending : ∀ current, (timedAfter tx inputs).transaction.nextRetransmit = some current →
      timers.t1.asNanos ≤ current.asNanos ∧ current.asNanos ≤ timers.t2.asNanos ∧
        ∀ interval ∈ intervals tx inputs, interval ≤ current.asNanos
  capped : ∀ interval ∈ intervals tx inputs, interval ≤ timers.t2.asNanos
  growing : (intervals tx inputs).Pairwise (· ≤ ·)

theorem paced_nil (fresh : Fresh timers tx) (other : tx.kind = .nonInvite) :
    Paced timers tx [] := by
  have began : begin tx = settle 0 (fun _ => none) (tx.launch, .ok
      [.send tx.request, .schedule .requestTimeout tx.requestTimeout,
        .schedule .retransmit timers.t1]) := by
    rw [begin, fresh.start]
  have first : intervals tx [] = [timers.t1.asNanos] := by
    rw [intervals, occurrences, trace, began]
    rfl
  have ordered := timers.t2_lower
  refine ⟨?_, ?_, ?_, by simpa [first] using ordered, by simp [first]⟩
  · rw [timedAfter, Run.after_nil, began]
    exact other
  · rw [timedAfter, Run.after_nil, began]
    exact fresh.profile
  · intro current pending
    have same : tx.nextRetransmit = some current := by
      simpa [timedAfter, began, settle] using pending
    rw [fresh.pending, Option.some.injEq] at same
    subst same
    simpa [first] using ordered

/-- Every event keeps the intervals paced. -/
theorem Paced.advance (paced : Paced timers tx inputs) (input : TimedInput) :
    Paced timers tx (inputs ++ [input]) := by
  obtain ⟨pace, identity⟩ := paceStep_advance (timedAfter tx inputs) input
  have kind := identity.kind.trans paced.kind
  have profile := identity.profile.trans paced.profile
  have extended := intervals_concat tx inputs input
  cases pace with
  | kept none same =>
    rw [none, List.append_nil] at extended
    refine ⟨by simpa using kind, by simpa using profile, ?_,
      by simpa [extended] using paced.capped,
      by simpa [extended] using paced.growing⟩
    rw [timedAfter_concat, same, extended]
    exact paced.pending
  | dropped none absent =>
    rw [none, List.append_nil] at extended
    refine ⟨by simpa using kind, by simpa using profile, ?_,
      by simpa [extended] using paced.capped,
      by simpa [extended] using paced.growing⟩
    rw [timedAfter_concat, absent]
    simp
  | grown current next pending following advanced one =>
    obtain ⟨lower, capped, latest⟩ := paced.pending current pending
    obtain ⟨grows, upper⟩ := followingRetransmit_bounds paced.kind paced.profile capped following
    rw [one] at extended
    have earlier : ∀ interval ∈ intervals tx inputs, interval ≤ next.asNanos :=
      fun interval mem => Nat.le_trans (latest interval mem) grows
    refine ⟨by simpa using kind, by simpa using profile, ?_, ?_, ?_⟩
    · rw [timedAfter_concat, advanced, extended]
      rintro _ ⟨rfl⟩
      refine ⟨by omega, upper, ?_⟩
      intro interval mem
      rw [List.mem_append, List.mem_singleton] at mem
      rcases mem with before | rfl
      · exact earlier interval before
      · exact Nat.le_refl _
    · intro interval mem
      rw [extended, List.mem_append, List.mem_singleton] at mem
      rcases mem with before | rfl
      · exact paced.capped interval before
      · exact upper
    · rw [extended, List.pairwise_append]
      refine ⟨paced.growing, List.pairwise_singleton _ _, ?_⟩
      simpa using earlier

theorem paced_run
    (fresh : Fresh timers tx) (other : tx.kind = .nonInvite) (inputs : List TimedInput) :
    Paced timers tx inputs := by
  induction inputs using List.reverseRecOn with
  | nil => exact paced_nil fresh other
  | append_singleton earlier input ih =>
    exact ih.advance input

/-- No final response arrives in the run. -/
def Unfinished (inputs : List TimedInput) : Prop :=
  ∀ instant response, .response instant response ∈ inputs → ¬response.status.Final

/-- The run still waits for a final response. -/
structure Waiting
    (timers : TimerConfig) (tx : ClientTransaction) (inputs : List TimedInput) : Prop where
  started : (timedAfter tx inputs).transaction.started = true
  allowed : (timedAfter tx inputs).transaction.RetransmitAllowed
  pending : (timedAfter tx inputs).transaction.nextRetransmit.isSome
  requestTimeout : (timedAfter tx inputs).deadline .requestTimeout = some (64 * timers.t1.asNanos)
  linger : (timedAfter tx inputs).deadline .linger = none
  retransmit : ∃ deadline, (timedAfter tx inputs).deadline .retransmit = some deadline ∧
      (firings inputs + 1) * timers.t1.asNanos ≤ deadline
  few : firings inputs ≤ 64
  terminations : occurrences termination tx inputs = []

/-- The run has ended with Timer F. -/
structure Ended
    (timers : TimerConfig) (tx : ClientTransaction) (inputs : List TimedInput) : Prop where
  state : (timedAfter tx inputs).transaction.state = .terminated
  settled : (timedAfter tx inputs).Settled
  few : firings inputs ≤ 65
  terminations : occurrences termination tx inputs = [(64 * timers.t1.asNanos, ())]

theorem firings_fire (inputs : List TimedInput) (timer : Timer) :
    firings (inputs ++ [.fire timer]) = firings inputs + 1 := by
  simp [firings]

theorem firings_response
    (inputs : List TimedInput) (instant : Nat) (response : ValidatedResponse) :
    firings (inputs ++ [.response instant response]) = firings inputs := by
  simp [firings]

theorem waiting_nil (fresh : Fresh timers tx) : Waiting timers tx [] := by
  have began : begin tx = settle 0 (fun _ => none) (tx.launch, .ok
      [.send tx.request, .schedule .requestTimeout tx.requestTimeout,
        .schedule .retransmit timers.t1]) := by
    rw [begin, fresh.start]
  have after : timedAfter tx [] = (begin tx).1 := rfl
  have timeout := fresh.requestTimeout
  refine ⟨?_, ?_, ?_, ?_, ?_, ⟨timers.t1.asNanos, ?_, ?_⟩, by simp [firings], ?_⟩
  · simp [after, began, settle]
  · rw [after, began]
    exact fresh.allowed
  · simp [after, began, settle, fresh.pending]
  · simp [after, began, settle, interpret, timeout]
  · simp [after, began, settle, interpret]
  · simp [after, began, settle, interpret]
  · simp [firings]
  · rw [occurrences, trace, began]
    rfl

/-- A retransmission moves the next deadline on by at least T1. -/
theorem Waiting.retransmits (waiting : Waiting timers tx inputs)
    (paced : Paced timers tx inputs) (fresh : Fresh timers tx)
    (next : (timedAfter tx inputs).Next (.fire .retransmit)) :
    Waiting timers tx (inputs ++ [.fire .retransmit]) := by
  obtain ⟨deadline, due, late⟩ := waiting.retransmit
  obtain ⟨current, pending⟩ := Option.isSome_iff_exists.mp waiting.pending
  obtain ⟨lower, capped, -⟩ := paced.pending current pending
  have maximum : (timedAfter tx inputs).transaction.profile.retransmitMaximum = some timers.t2 := by
    rw [paced.profile]
    rfl
  obtain ⟨following, follows⟩ : ∃ following,
      (timedAfter tx inputs).transaction.followingRetransmit current = some following := by
    simp only [ClientTransaction.followingRetransmit, paced.kind,
      nextNonInviteClientRetransmit, maximum]
    split_ifs <;> exact ⟨_, rfl⟩
  obtain ⟨grows, -⟩ := followingRetransmit_bounds paced.kind paced.profile capped follows
  have fired := (ClientTransaction.TimerStep.retransmit current following pending
    waiting.allowed follows).onTimer_eq waiting.started
  have advanced : (timedAfter tx inputs).advance (.fire .retransmit) = settle deadline
        (Function.update (timedAfter tx inputs).deadline .retransmit none)
        ((timedAfter tx inputs).transaction.setRetransmit (some following),
          .ok [.send (timedAfter tx inputs).transaction.request,
            .schedule .retransmit following]) := by
    simp only [TimedClient.advance, due, fired]
  obtain ⟨instant, same, earliest⟩ := next
  obtain rfl : deadline = instant := by simpa [due] using same
  have early := earliest _ _ waiting.requestTimeout
  have positive := fresh.t1_pos
  have few : firings inputs + 1 ≤ 64 := by
    by_contra many
    have : 65 * timers.t1.asNanos ≤ (firings inputs + 1) * timers.t1.asNanos :=
      Nat.mul_le_mul_right _ (by omega)
    omega
  refine ⟨?_, ?_, ?_, ?_, ?_, ⟨deadline + following.asNanos, ?_, ?_⟩, ?_, ?_⟩
  · simpa [advanced, settle] using waiting.started
  · rw [timedAfter_concat, advanced]
    exact waiting.allowed
  · simp [advanced, settle]
  · simp [advanced, settle, interpret, waiting.requestTimeout]
  · simp [advanced, settle, interpret, waiting.linger]
  · simp [advanced, settle, interpret]
  · rw [firings_fire, Nat.add_mul]
    omega
  · rw [firings_fire]
    exact few
  · rw [occurrences_concat, waiting.terminations, advanced]
    rfl

/-- Timer F ends the transaction. -/
theorem Waiting.times_out (waiting : Waiting timers tx inputs) :
    Ended timers tx (inputs ++ [.fire .requestTimeout]) := by
  have fired := (ClientTransaction.TimerStep.requestTimeout
    waiting.allowed.unanswered).onTimer_eq waiting.started
  have advanced : (timedAfter tx inputs).advance (.fire .requestTimeout) =
      settle (64 * timers.t1.asNanos)
        (Function.update (timedAfter tx inputs).deadline .requestTimeout none)
        ((timedAfter tx inputs).transaction.moveTo .terminated,
          .ok [.cancel .retransmit, .terminate]) := by
    simp only [TimedClient.advance, waiting.requestTimeout, fired]
  have few := waiting.few
  refine ⟨?_, ?_, ?_, ?_⟩
  · simp [advanced, settle]
  · intro timer
    cases timer <;> simp [advanced, settle, interpret, waiting.linger]
  · rw [firings_fire]
    omega
  · rw [occurrences_concat, waiting.terminations, advanced]
    rfl

/-- A provisional response leaves the deadlines as they are. -/
theorem Waiting.responds {instant : Nat} {response : ValidatedResponse}
    (waiting : Waiting timers tx inputs) (paced : Paced timers tx inputs)
    (unfinished : ¬response.status.Final) :
    Waiting timers tx (inputs ++ [.response instant response]) := by
  obtain ⟨deadline, due, late⟩ := waiting.retransmit
  -- The response is refused or moves the transaction to Proceeding.
  obtain ⟨after, outcome, answered, quiet, started, allowed, pending⟩ :
      ∃ after outcome, (timedAfter tx inputs).transaction.onResponse response = (after, outcome) ∧
          (ClientTransaction.actionsOf outcome = [] ∨
            ClientTransaction.actionsOf outcome = [.deliverResponse]) ∧
          after.started = true ∧ after.RetransmitAllowed ∧
          after.nextRetransmit.isSome := by
    rcases (timedAfter tx inputs).transaction.onResponse_cases response with
      ⟨error, refused⟩ | ⟨after, actions, taken, -, -, step⟩
    · exact ⟨_, _, refused, .inl rfl, waiting.started, waiting.allowed, waiting.pending⟩
    · cases step with
      | provisional state status =>
        exact ⟨_, _, taken, .inr rfl, waiting.started, .inr ⟨paced.kind, .inr rfl⟩, waiting.pending⟩
      | firstProvisional kind => simp [paced.kind] at kind
      | lingers ack delay acked state status => exact absurd status unfinished
      | ends ack acked state status => exact absurd status unfinished
      | repeatedSuccess kind => simp [paced.kind] at kind
      | lateSuccess kind => simp [paced.kind] at kind
      | repeatedFailure bytes acked kind => simp [paced.kind] at kind
      | repeatedFinal kind state status => exact absurd status unfinished
  have advanced : (timedAfter tx inputs).advance (.response instant response) =
      (⟨after, instant, (timedAfter tx inputs).deadline⟩, instant, outcome) := by
    simp only [TimedClient.advance, answered, settle]
    rcases quiet with none | one
    · rw [none]
      rfl
    · rw [one]
      rfl
  have silent : selected termination (instant, outcome) = [] := by
    rcases quiet with none | one
    · rw [selected, none]
      rfl
    · rw [selected, one]
      rfl
  refine ⟨?_, ?_, ?_, ?_, ?_, ⟨deadline, ?_, ?_⟩, ?_, ?_⟩
  · simpa [advanced] using started
  · simpa [advanced] using allowed
  · simpa [advanced] using pending
  · simpa [advanced] using waiting.requestTimeout
  · simpa [advanced] using waiting.linger
  · simpa [advanced] using due
  · simpa [firings_response] using late
  · simpa [firings_response] using waiting.few
  · rw [occurrences_concat, waiting.terminations, advanced]
    exact silent

/-- Nothing more happens to a transaction that has ended. -/
theorem Ended.responds {instant : Nat} {response : ValidatedResponse}
    (ended : Ended timers tx inputs) :
    Ended timers tx (inputs ++ [.response instant response]) := by
  have state := ended.state
  obtain ⟨error, refused⟩ : ∃ error, (timedAfter tx inputs).transaction.onResponse response =
        ((timedAfter tx inputs).transaction, .error error) := by
    rcases (timedAfter tx inputs).transaction.onResponse_cases response with
      refused | ⟨after, actions, -, -, -, step⟩
    · exact refused
    · cases step <;> simp_all
  have advanced : (timedAfter tx inputs).advance (.response instant response) =
      (⟨(timedAfter tx inputs).transaction, instant,
        (timedAfter tx inputs).deadline⟩, instant, .error error) := by
    simp only [advance, refused, settle]
    rfl
  refine ⟨?_, ?_, ?_, ?_⟩
  · simpa [advanced] using state
  · rw [timedAfter_concat, advanced]
    exact ended.settled
  · simpa [firings_response] using ended.few
  · rw [occurrences_concat, ended.terminations, advanced]
    rfl

/-- Without a final response every run waits for Timer F, or has ended with
it. -/
theorem waiting_or_ended
    (fresh : Fresh timers tx) (other : tx.kind = .nonInvite)
    (inputs : List TimedInput) (ordered : InOrder tx inputs) (unfinished : Unfinished inputs) :
    Waiting timers tx inputs ∨ Ended timers tx inputs := by
  induction inputs using List.reverseRecOn with
  | nil => exact .inl (waiting_nil fresh)
  | append_singleton earlier input ih =>
    obtain ⟨prior, next⟩ := (inOrder_concat ..).mp ordered
    have paced := paced_run fresh other earlier
    have before : Unfinished earlier := fun instant response mem =>
      unfinished instant response (by simp [mem])
    rcases ih prior before with waiting | ended
    · cases input with
      | fire timer =>
        cases timer with
        | retransmit => exact .inl (waiting.retransmits paced fresh next)
        | requestTimeout => exact .inr waiting.times_out
        | linger =>
          obtain ⟨instant, due, -⟩ := next
          simp [waiting.linger] at due
      | response instant response =>
        exact .inl (waiting.responds paced (unfinished instant response (by simp)))
    · cases input with
      | fire timer =>
        obtain ⟨instant, due, -⟩ := next
        simp [ended.settled timer] at due
      | response instant response => exact .inr ended.responds

/-- Over an unreliable transport, an INVITE that gets no response is sent
exactly seven times, at 0, T1, 3 T1, 7 T1, 15 T1, 31 T1 and 63 T1, without any
interval overflowing, before Timer B ends the transaction at 64 T1.  The
intervals of any other request are at most T2 and never shrink, whatever
responses arrive, and without a final response Timer F ends the transaction at
64 T1. -/
theorem retransmissions_bounded
    (fromRequest : ValidatedRequest → Except AckBuildError Non2xxAckTemplate)
    (request : ValidatedRequest) (timers : TimerConfig) (tx : ClientTransaction)
    (created : ClientTransaction.new fromRequest request false timers = .ok tx)
    (inputs : List TimedInput) (ordered : InOrder tx inputs) :
    (TransactionKind.fromMethod request.method = .invite →
      (∀ input ∈ inputs, ∃ timer, input = .fire timer) →
      (∀ entry ∈ trace tx inputs, ∃ actions, entry.2 = .ok actions) ∧
      inputs.length ≤ 7 ∧
      (¬(timedAfter tx inputs).Settled → ∃ timer, (timedAfter tx inputs).Next (.fire timer)) ∧
      ((timedAfter tx inputs).Settled → occurrences transmission tx inputs =
          [0, 1, 3, 7, 15, 31, 63].map (fun units => (units * timers.t1.asNanos, request.bytes)) ∧
        occurrences termination tx inputs = [(64 * timers.t1.asNanos, ())])) ∧
    (TransactionKind.fromMethod request.method = .nonInvite →
      (∀ interval ∈ intervals tx inputs, interval ≤ timers.t2.asNanos) ∧
      (intervals tx inputs).Pairwise (· ≤ ·) ∧
      (Unfinished inputs → firings inputs ≤ 65 ∧ (¬(timedAfter tx inputs).Settled →
          ∃ timer, (timedAfter tx inputs).Next (.fire timer)) ∧
        ((timedAfter tx inputs).Settled → occurrences termination tx inputs =
            [(64 * timers.t1.asNanos, ())]))) := by
  have fresh := fresh_new created
  obtain ⟨kind, bytes⟩ :
      tx.kind = TransactionKind.fromMethod request.method ∧ tx.request = request.bytes := by
    obtain ⟨key, template, -, -, rfl⟩ := ClientTransaction.new_eq_ok created
    exact ⟨rfl, rfl⟩
  constructor
  · intro invite unanswered
    rcases invite_progress fresh (kind.trans invite) inputs ordered unanswered with
      ⟨retransmissions, progress⟩ | ended
    · refine ⟨progress.accepted, ?_, exists_next, ?_⟩
      · have few := progress.few
        rw [progress.length]
        omega
      · intro settled
        have due := progress.requestTimeout
        simp [settled .requestTimeout] at due
    · refine ⟨ended.accepted, ended.length.le, exists_next, ?_⟩
      intro _
      refine ⟨?_, ended.terminations⟩
      rw [ended.transmissions, bytes]
      rfl
  · intro other
    have paced := paced_run fresh (kind.trans other) inputs
    refine ⟨paced.capped, paced.growing, ?_⟩
    intro unfinished
    rcases waiting_or_ended fresh (kind.trans other) inputs ordered unfinished with
      waiting | ended
    · refine ⟨Nat.le_trans waiting.few (by omega), exists_next, ?_⟩
      intro settled
      have due := waiting.requestTimeout
      simp [settled .requestTimeout] at due
    · exact ⟨ended.few, exists_next, fun _ => ended.terminations⟩

/-- With the default timers an unanswered INVITE is sent for the last time
after 31.5 seconds. -/
theorem retransmissions_bounded_default :
    ∃ tx, ClientTransaction.new (fun _ => .ok inviteAckTemplate) inviteRequest
        false .default = .ok tx ∧
      occurrences transmission tx
          [.fire .retransmit, .fire .retransmit, .fire .retransmit,
            .fire .retransmit, .fire .retransmit, .fire .retransmit, .fire .requestTimeout] =
        [0, 1, 3, 7, 15, 31, 63].map
          (fun units => (units * (500 * 10 ^ 6), inviteRequest.bytes)) := by
  refine ⟨_, rfl, ?_⟩
  refine (((retransmissions_bounded (fun _ => .ok inviteAckTemplate)
    inviteRequest .default _ rfl _ ?_).1 rfl (by simp)).2.2.2 ?_).1
  · refine (inOrder_concat _ [_, _, _, _, _, _] _).mpr ⟨?_, by decide +kernel⟩
    refine (inOrder_concat _ [_, _, _, _, _] _).mpr ⟨?_, by decide +kernel⟩
    refine (inOrder_concat _ [_, _, _, _] _).mpr ⟨?_, by decide +kernel⟩
    refine (inOrder_concat _ [_, _, _] _).mpr ⟨?_, by decide +kernel⟩
    refine (inOrder_concat _ [_, _] _).mpr ⟨?_, by decide +kernel⟩
    refine (inOrder_concat _ [_] _).mpr ⟨?_, by decide +kernel⟩
    exact (inOrder_concat _ [] _).mpr ⟨Run.allSteps_nil _, by decide +kernel⟩
  · intro timer
    cases timer <;> decide +kernel

end TimedClient

end Transaction
end LiveAISIP
