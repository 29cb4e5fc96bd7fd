import LiveAISIP.Library.Run
import LiveAISIP.Transaction.Client
import Mathlib.Data.Finset.Basic

/-!
# Client timer discipline

A scheduler interprets the actions of a client transaction over the set of
outstanding timers: a schedule adds a timer, a cancellation removes it, and a
timer is removed when it fires.  Only outstanding timers fire.
-/

namespace LiveAISIP
namespace Transaction

open Sip
open ClientTransaction

/-- A client transaction with its outstanding timers. -/
structure SupervisedClient where
  transaction : ClientTransaction
  outstanding : Finset Timer

namespace SupervisedClient

variable {client : SupervisedClient}

/-- The outstanding timers after one action. -/
def interpret (outstanding : Finset Timer) : Action → Finset Timer
  | .schedule timer _ => insert timer outstanding
  | .cancel timer => outstanding.erase timer
  | _ => outstanding

/-- The outstanding timers after a list of actions. -/
def interpretAll (outstanding : Finset Timer) (actions : List Action) : Finset Timer :=
  actions.foldl interpret outstanding

/-- A transaction without outstanding timers. -/
def idle (tx : ClientTransaction) : SupervisedClient := ⟨tx, ∅⟩

/-- The client after an operation with the given result. -/
def settle
    (outstanding : Finset Timer) (result : ClientTransaction × Outcome) :
    SupervisedClient × Outcome :=
  (⟨result.1, interpretAll outstanding (actionsOf result.2)⟩, result.2)

/-- Apply one input; a timer that is not outstanding does not fire. -/
def supervise (client : SupervisedClient) :
    ClientInput → SupervisedClient × Outcome
  | .start => settle client.outstanding client.transaction.start
  | .response response =>
    settle client.outstanding (client.transaction.onResponse response)
  | .timer timer =>
    if timer ∈ client.outstanding then
      settle (client.outstanding.erase timer) (client.transaction.onTimer timer)
    else
      (client, .ok [])

/-- The current state of the transaction. -/
def state (client : SupervisedClient) : ClientState := client.transaction.state

/-- The supervised client after a run of inputs. -/
def clientAfter (tx : ClientTransaction) (inputs : List ClientInput) : SupervisedClient :=
  Run.after supervise (idle tx) inputs

/-- The invariant of a supervised client. -/
structure Disciplined (client : SupervisedClient) : Prop where
  linger : .linger ∈ client.outstanding ↔ IsLingering client.state
  requestTimeout : .requestTimeout ∈ client.outstanding ↔ client.transaction.started = true ∧
      IsUnanswered client.state
  retransmit : .retransmit ∈ client.outstanding → client.transaction.RetransmitAllowed ∧
      client.transaction.nextRetransmit.isSome
  pending : client.transaction.nextRetransmit.isSome →
    client.transaction.profile.retransmitInitial.isSome ∧
      client.transaction.profile.retransmitMaximum.isSome
  unstarted : client.transaction.started = false →
    client.transaction.RetransmitAllowed ∧ client.outstanding = ∅

@[simp] theorem interpretAll_nil (outstanding : Finset Timer) :
    interpretAll outstanding [] = outstanding := rfl

@[simp] theorem interpretAll_cons
    (outstanding : Finset Timer) (action : Action) (actions : List Action) :
    interpretAll outstanding (action :: actions) =
      interpretAll (interpret outstanding action) actions := rfl

@[simp] theorem interpretAll_ackActions
    (outstanding : Finset Timer) (ack : Option Bytes) (actions : List Action) :
    interpretAll outstanding (ackActions ack ++ actions) = interpretAll outstanding actions := by
  cases ack <;> rfl

theorem Disciplined.started (disciplined : client.Disciplined)
    {timer : Timer} (outstanding : timer ∈ client.outstanding) :
    client.transaction.started = true := by
  by_contra unstarted
  have empty := (disciplined.unstarted (Bool.eq_false_iff.mpr unstarted)).2
  simp [empty] at outstanding

/-- Starting a transaction keeps the invariant. -/
theorem Disciplined.start (disciplined : client.Disciplined) :
    (settle client.outstanding client.transaction.start).1.Disciplined := by
  obtain ⟨tx, outstanding⟩ := client
  by_cases started : tx.started = true
  · simpa [settle, start, started] using disciplined
  · obtain ⟨allowed, rfl⟩ := disciplined.unstarted (Bool.eq_false_iff.mpr started)
    have unanswered := allowed.unanswered
    have lingering := unanswered.not_lingering
    have pending := disciplined.pending
    simp only [settle, start, if_neg started]
    cases delay : tx.nextRetransmit with
    | none =>
      refine ⟨?_, ?_, ?_, pending, ?_⟩
      · simpa [interpret, state] using lingering
      · simpa [interpret, state] using unanswered
      · simp [interpret]
      · simp
    | some delay =>
      refine ⟨?_, ?_, ?_, pending, ?_⟩
      · simpa [interpret, state] using lingering
      · simpa [interpret, state] using unanswered
      · exact fun _ => ⟨allowed, by simp [delay]⟩
      · simp

/-- A response keeps the invariant. -/
theorem Disciplined.onResponse (disciplined : client.Disciplined) (response : ValidatedResponse) :
    (settle client.outstanding (client.transaction.onResponse response)).1.Disciplined := by
  obtain ⟨tx, outstanding⟩ := client
  rcases tx.onResponse_cases response with
    ⟨error, refused⟩ | ⟨after, actions, taken, started, -, step⟩
  · simpa [settle, refused] using disciplined
  · obtain ⟨linger, requestTimeout, retransmit, pending, -⟩ := disciplined
    simp only [SupervisedClient.state] at linger requestTimeout retransmit pending
    simp only [settle, taken]
    cases step with
    | firstProvisional kind state status =>
      constructor <;>
        simp_all [interpret, SupervisedClient.state]
    | provisional state status =>
      constructor
      · rcases state with state | ⟨-, state⟩ <;>
          simp_all [interpret, SupervisedClient.state]
      · rcases state with state | ⟨-, state⟩ <;>
          simp_all [interpret, SupervisedClient.state]
      · intro member
        obtain ⟨allowed, pending⟩ := retransmit member
        refine ⟨?_, pending⟩
        rcases state with state | ⟨kind, state⟩ <;>
        simp_all [RetransmitAllowed]
      · simpa using pending
      · simp [started]
    | lingers ack delay acked state status lingering =>
      constructor
      · simpa [interpret, SupervisedClient.state] using tx.isLingering_finalState response.status
      · simpa [interpret, SupervisedClient.state] using
          fun _ => (tx.isLingering_finalState response.status).not_unanswered
      · simp [interpret]
      · simp
      · simp [started]
    | ends ack acked state status lingering =>
      constructor
      · simpa [interpret, SupervisedClient.state, linger] using state.not_lingering
      · simp [interpret, SupervisedClient.state]
      · simp [interpret]
      · simp
      · simp [started]
    | repeatedSuccess kind state status =>
      constructor <;> simp_all [interpret, SupervisedClient.state]
    | lateSuccess kind state status | repeatedFailure bytes acked kind state status =>
      constructor <;> simp_all [interpret, SupervisedClient.state, RetransmitAllowed]
    | repeatedFinal kind state status =>
      constructor <;> simp_all [interpret, SupervisedClient.state]

/-- The doubled Timer A interval leaves the range of durations. -/
def TimerAOverflows (tx : ClientTransaction) : Prop := tx.kind = .invite ∧
    ∃ current, tx.nextRetransmit = some current ∧ current.checkedMul 2 = none

/-- An outstanding timer is taken unless doubling Timer A overflows. -/
theorem Disciplined.fires (disciplined : client.Disciplined)
    {timer : Timer} (outstanding : timer ∈ client.outstanding) :
    (∃ after actions, TimerStep client.transaction timer after actions) ∨
      (timer = .retransmit ∧ TimerAOverflows client.transaction) := by
  obtain ⟨tx, timers⟩ := client
  cases timer with
  | requestTimeout =>
    exact .inl ⟨_, _, .requestTimeout (disciplined.requestTimeout.mp outstanding).2⟩
  | linger => exact .inl ⟨_, _, .linger (disciplined.linger.mp outstanding)⟩
  | retransmit =>
    obtain ⟨allowed, scheduled⟩ := disciplined.retransmit outstanding
    obtain ⟨current, pending⟩ := Option.isSome_iff_exists.mp scheduled
    obtain ⟨hasInitial, hasMaximum⟩ := disciplined.pending scheduled
    obtain ⟨initial, initial_eq⟩ := Option.isSome_iff_exists.mp hasInitial
    obtain ⟨maximum, maximum_eq⟩ := Option.isSome_iff_exists.mp hasMaximum
    cases following : tx.followingRetransmit current with
    | some next =>
      exact .inl ⟨_, _, .retransmit current next pending allowed following⟩
    | none =>
      right
      simp only at pending initial_eq maximum_eq
      rcases allowed with ⟨kind, -⟩ | ⟨kind, -⟩
      · refine ⟨rfl, kind, current, pending, ?_⟩
        simpa [followingRetransmit, kind, initial_eq,
          TimerProfile.nextInviteClientRetransmit] using following
      · simp only [followingRetransmit, kind, maximum_eq,
          TimerProfile.nextNonInviteClientRetransmit] at following
        split_ifs at following

/-- An outstanding timer that fires keeps the invariant. -/
theorem Disciplined.onTimer (disciplined : client.Disciplined)
    {timer : Timer} (outstanding : timer ∈ client.outstanding) :
    (settle (client.outstanding.erase timer) (client.transaction.onTimer timer)).1.Disciplined := by
  obtain ⟨tx, timers⟩ := client
  have started := disciplined.started outstanding
  have fires := disciplined.fires outstanding
  obtain ⟨linger, requestTimeout, retransmit, pending, -⟩ := disciplined
  simp only [SupervisedClient.state] at *
  rcases tx.onTimer_cases timer with
    ⟨error, refused⟩ | ⟨after, actions, taken, -, step⟩
  · -- Only Timer A can be refused, and it was not rescheduled.
    obtain rfl : timer = .retransmit := by
      rcases fires with ⟨after, actions, step⟩ | ⟨isRetransmit, -⟩
      · simp [step.onTimer_eq started] at refused
      · exact isRetransmit
    simp only [settle, refused]
    constructor
    · simpa [SupervisedClient.state] using linger
    · simpa [SupervisedClient.state] using requestTimeout
    · simp
    · exact pending
    · simp [started]
  · simp only [settle, taken]
    cases step with
    | requestTimeout state =>
      constructor
      · simpa [interpret, SupervisedClient.state, linger] using state.not_lingering
      · simp [interpret, SupervisedClient.state]
      · simp [interpret]
      · simpa using pending
      · simp [started]
    | linger state =>
      constructor
      · simp [interpret, SupervisedClient.state]
      · simpa [interpret, SupervisedClient.state, requestTimeout] using
          fun _ => state.not_unanswered
      · intro member
        simp [interpret] at member
        exact absurd (retransmit member).1.unanswered state.not_unanswered
      · simpa using pending
      · simp [started]
    | retransmit current next current_eq allowed following =>
      constructor
      · simpa [interpret, SupervisedClient.state] using linger
      · simpa [interpret, SupervisedClient.state] using requestTimeout
      · exact fun _ => ⟨allowed, rfl⟩
      · exact fun _ => pending (by simp [current_eq])
      · simp [started]

/-- Every input keeps the invariant. -/
theorem Disciplined.supervise (disciplined : client.Disciplined) (input : ClientInput) :
    (client.supervise input).1.Disciplined := by
  cases input with
  | start => exact disciplined.start
  | response response => exact disciplined.onResponse response
  | timer timer =>
    simp only [SupervisedClient.supervise]
    split_ifs with outstanding
    · exact disciplined.onTimer outstanding
    · exact disciplined

/-- A new transaction without timers satisfies the invariant. -/
theorem disciplined_new
    {fromRequest : ValidatedRequest → Except AckBuildError Non2xxAckTemplate}
    {request : ValidatedRequest} {reliable : Bool} {timers : TimerConfig} {tx : ClientTransaction}
    (created : new fromRequest request reliable timers = .ok tx) :
    (idle tx).Disciplined := by
  have allowed := retransmitAllowed_new created
  obtain ⟨key, template, -, -, rfl⟩ := new_eq_ok created
  constructor
  · simpa [idle, state] using allowed.unanswered.not_lingering
  · simp [idle]
  · simp [idle]
  · cases reliable <;> simp [idle, TimerConfig.profile]
  · exact fun _ => ⟨allowed, rfl⟩

/-- The invariant holds in every run of a new transaction. -/
theorem disciplined_clientAfter
    {fromRequest : ValidatedRequest → Except AckBuildError Non2xxAckTemplate}
    {request : ValidatedRequest} {reliable : Bool} {timers : TimerConfig} {tx : ClientTransaction}
    (created : new fromRequest request reliable timers = .ok tx)
    (inputs : List ClientInput) :
    (clientAfter tx inputs).Disciplined :=
  Run.invariant Disciplined (disciplined_new created)
    (fun _ input kept => kept.supervise input) inputs

/-- An operation emits one `terminate` exactly when it enters the terminated
state, which is never left. -/
structure TerminatesOnce
    (tx : ClientTransaction) (result : ClientTransaction × Outcome) : Prop where
  emitted : (actionsOf result.2).count .terminate =
    if tx.state ≠ .terminated ∧ result.1.state = .terminated then 1 else 0
  absorbed : tx.state = .terminated → result.1.state = .terminated

theorem terminatesOnce_start (tx : ClientTransaction) :
    TerminatesOnce tx tx.start := by
  unfold start
  by_cases started : tx.started = true
  · simp only [started, ↓reduceIte]
    exact ⟨by simp, id⟩
  · rw [if_neg started]
    refine ⟨?_, id⟩
    cases tx.nextRetransmit <;> simp

theorem terminatesOnce_onResponse
    (tx : ClientTransaction) (response : ValidatedResponse) :
    TerminatesOnce tx (tx.onResponse response) := by
  rcases tx.onResponse_cases response with
    ⟨error, refused⟩ | ⟨after, actions, taken, -, -, step⟩
  · rw [refused]
    exact ⟨by simp, id⟩
  · rw [taken]
    cases step with
    | firstProvisional kind state status => constructor <;> simp [state]
    | provisional state status =>
      rcases state with state | ⟨-, state⟩ <;> constructor <;> simp [state]
    | lingers ack delay acked state status lingering =>
      have final := tx.isLingering_finalState response.status
      refine ⟨?_, fun ended => absurd ended state.not_terminated⟩
      simp [List.count_eq_zero, final.not_terminated]
    | ends ack acked state status lingering =>
      refine ⟨?_, fun ended => absurd ended state.not_terminated⟩
      simp [List.count_eq_zero, state.not_terminated]
    | repeatedSuccess kind state status => constructor <;> simp [state]
    | lateSuccess kind state status => constructor <;> simp [state]
    | repeatedFailure bytes acked kind state status =>
      constructor <;> simp [state]
    | repeatedFinal kind state status => constructor <;> simp [state]

theorem terminatesOnce_onTimer (tx : ClientTransaction) (timer : Timer) :
    TerminatesOnce tx (tx.onTimer timer) := by
  rcases tx.onTimer_cases timer with
    ⟨error, refused⟩ | ⟨after, actions, taken, -, step⟩
  · rw [refused]
    exact ⟨by simp, id⟩
  · rw [taken]
    cases step with
    | requestTimeout state =>
      rcases state with state | state | state <;> constructor <;> simp [state]
    | linger state => rcases state with state | state <;> constructor <;> simp [state]
    | retransmit current next pending allowed following =>
      exact ⟨by simp, id⟩

/-- Every supervised input emits one `terminate` exactly when it enters the
terminated state. -/
theorem terminatesOnce_supervise
    (client : SupervisedClient) (input : ClientInput) :
    TerminatesOnce client.transaction
      ((client.supervise input).1.transaction, (client.supervise input).2) := by
  cases input with
  | start => exact terminatesOnce_start client.transaction
  | response response =>
    exact terminatesOnce_onResponse client.transaction response
  | timer timer =>
    simp only [supervise]
    split_ifs
    · exact terminatesOnce_onTimer client.transaction timer
    · exact ⟨by simp, id⟩

/-- The actions emitted by a supervised run. -/
def emittedBy (tx : ClientTransaction) (inputs : List ClientInput) : List Action :=
  (Run.outputs supervise (idle tx) inputs).flatMap actionsOf

/-- A run emits one `terminate` once it is terminated, and none before. -/
theorem count_terminate_emittedBy
    (tx : ClientTransaction) (running : tx.state ≠ .terminated) (inputs : List ClientInput) :
    (emittedBy tx inputs).count .terminate =
      if (clientAfter tx inputs).state = .terminated then 1 else 0 := by
  induction inputs using List.reverseRecOn with
  | nil => simp [emittedBy, clientAfter, idle, state, running]
  | append_singleton earlier input ih =>
    have last := terminatesOnce_supervise (clientAfter tx earlier) input
    have extended : clientAfter tx (earlier ++ [input]) =
        ((clientAfter tx earlier).supervise input).1 := by
      simp [clientAfter]
    have appended : emittedBy tx (earlier ++ [input]) =
        emittedBy tx earlier ++ actionsOf ((clientAfter tx earlier).supervise input).2 := by
      simp [emittedBy, Run.outputs_concat, Run.output, clientAfter]
    rw [appended, List.count_append, ih, last.emitted, extended]
    simp only [state]
    by_cases before : (clientAfter tx earlier).transaction.state = .terminated
    · have after := last.absorbed before
      simp only at after
      simp [before, after]
    · by_cases after :
          ((clientAfter tx earlier).supervise input).1.transaction.state = .terminated <;>
        simp [before, after]

/-- A supervised input is a step of the transaction, or does not reach it. -/
theorem transaction_supervise (client : SupervisedClient) (input : ClientInput) :
    (client.supervise input).1.transaction = (client.transaction.step input).1 ∨
      (client.supervise input).1.transaction = client.transaction := by
  cases input with
  | start => exact .inl rfl
  | response response => exact .inl rfl
  | timer timer =>
    simp only [supervise]
    split_ifs
    · exact .inl rfl
    · exact .inr rfl

/-- A supervised input keeps the identity of the transaction. -/
theorem sameIdentity_supervise (client : SupervisedClient) (input : ClientInput) :
    SameIdentity client.transaction (client.supervise input).1.transaction := by
  rcases client.transaction_supervise input with stepped | same
  · rw [stepped]
    exact client.transaction.sameIdentity_step input
  · rw [same]
    exact .refl _

/-- A run keeps the identity of the transaction. -/
theorem sameIdentity_clientAfter
    (tx : ClientTransaction) (inputs : List ClientInput) :
    SameIdentity tx (clientAfter tx inputs).transaction :=
  Run.invariant (fun client => SameIdentity tx client.transaction) (.refl tx)
    (fun client input kept => kept.trans (sameIdentity_supervise client input))
    inputs

/-- A run that has received its `start` is started. -/
theorem started_clientAfter
    (tx : ClientTransaction) (inputs : List ClientInput) (received : .start ∈ inputs) :
    (clientAfter tx inputs).transaction.started = true := by
  induction inputs using List.reverseRecOn with
  | nil => simp at received
  | append_singleton earlier input ih =>
    have extended : clientAfter tx (earlier ++ [input]) =
        ((clientAfter tx earlier).supervise input).1 := by
      simp [clientAfter]
    rw [extended]
    rcases List.mem_append.mp received with before | last
    · exact (sameIdentity_supervise _ input).started (ih before)
    · obtain rfl := List.mem_singleton.mp last
      simp only [supervise, settle, start]
      split_ifs with started
      · exact started
      · rfl

/-- In every run of a client transaction, the outstanding timers are those
its state calls for, termination is announced once, and an outstanding timer
is taken unless doubling Timer A overflows. -/
theorem timers_disciplined
    (fromRequest : ValidatedRequest → Except AckBuildError Non2xxAckTemplate)
    (request : ValidatedRequest) (reliable : Bool) (timers : TimerConfig) (tx : ClientTransaction)
    (created : new fromRequest request reliable timers = .ok tx)
    (inputs : List ClientInput) :
    let client := clientAfter tx inputs
    (.linger ∈ client.outstanding ↔ client.state = .completed ∨ client.state = .accepted) ∧
    (.start ∈ inputs → client.state = .calling ∨ client.state = .trying →
      .requestTimeout ∈ client.outstanding) ∧
    (.requestTimeout ∈ client.outstanding → client.state ≠ .completed ∧ client.state ≠ .accepted ∧
        client.state ≠ .terminated) ∧
    (.retransmit ∈ client.outstanding → reliable = false ∧
        ((client.transaction.kind = .invite ∧ client.state = .calling) ∨
          (client.transaction.kind = .nonInvite ∧
            (client.state = .trying ∨ client.state = .proceeding)))) ∧
    (client.state = .terminated → client.outstanding = ∅) ∧
    (emittedBy tx inputs).count .terminate = (if client.state = .terminated then 1 else 0) ∧
    Run.AllSteps
      (fun earlier input =>
        .terminate ∈ actionsOf
            ((clientAfter tx earlier).supervise input).2 ↔
          (clientAfter tx earlier).state ≠ .terminated ∧
            (clientAfter tx (earlier ++ [input])).state = .terminated) inputs ∧
    (∀ timer ∈ client.outstanding, (timer = .retransmit → ¬TimerAOverflows client.transaction) →
      ∃ actions, (client.transaction.onTimer timer).2 = .ok actions) := by
  have disciplined := disciplined_clientAfter created inputs
  have running := (isUnanswered_new created).not_terminated
  have unreliable :
      (clientAfter tx inputs).transaction.profile.retransmitInitial.isSome → reliable = false := by
    obtain ⟨key, template, -, -, rfl⟩ := new_eq_ok created
    rw [(sameIdentity_clientAfter _ inputs).profile]
    cases reliable <;> simp [TimerConfig.profile]
  refine ⟨disciplined.linger, ?_, ?_, ?_, ?_, count_terminate_emittedBy tx running inputs, ?_, ?_⟩
  · intro received early
    refine disciplined.requestTimeout.mpr ⟨started_clientAfter tx inputs received, ?_⟩
    rcases early with state | state <;> simp [state]
  · intro member
    have unanswered := (disciplined.requestTimeout.mp member).2
    have lingering := not_or.mp unanswered.not_lingering
    exact ⟨lingering.1, lingering.2, unanswered.not_terminated⟩
  · intro member
    obtain ⟨allowed, pending⟩ := disciplined.retransmit member
    exact ⟨unreliable (disciplined.pending pending).1, allowed⟩
  · intro ended
    refine Finset.eq_empty_of_forall_notMem fun timer member => ?_
    cases timer with
    | linger => exact (disciplined.linger.mp member).not_terminated ended
    | requestTimeout =>
      exact (disciplined.requestTimeout.mp member).2.not_terminated ended
    | retransmit =>
      exact (disciplined.retransmit member).1.unanswered.not_terminated ended
  · intro earlier input later split
    have last := terminatesOnce_supervise (clientAfter tx earlier) input
    have extended : clientAfter tx (earlier ++ [input]) =
        ((clientAfter tx earlier).supervise input).1 := by
      simp [clientAfter]
    rw [extended, ← List.count_pos_iff, last.emitted]
    simp only [state]
    split_ifs with enters <;> simp [enters]
  · intro timer member bounded
    rcases disciplined.fires member with ⟨after, actions, step⟩ | ⟨rfl, overflows⟩
    · exact ⟨actions, by rw [step.onTimer_eq (disciplined.started member)]⟩
    · exact absurd overflows (bounded rfl)

/-- A started BYE over an unreliable transport awaits its timeout. -/
theorem timers_disciplined_bye :
    ∃ tx, new (fun _ => .error .missingMaxForwards) byeRequest
        false .default = .ok tx ∧
      .requestTimeout ∈ (clientAfter tx [.start]).outstanding := by
  refine ⟨_, rfl, ?_⟩
  exact (timers_disciplined (fun _ => .error .missingMaxForwards) byeRequest
    false .default _ rfl [.start]).2.1 (by simp) (.inr rfl)

end SupervisedClient

end Transaction
end LiveAISIP
