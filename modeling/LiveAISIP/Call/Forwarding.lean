import LiveAISIP.Call.Batches
import LiveAISIP.Transaction.ResponseRouting

/-!
# Which call actions reach the engine

The lifecycle returns the ACK, BYE and CANCEL requests of a call as actions; the
runtime hands them to the engine.  It does so for every event while transactions
can be started.  A shutdown closes the registry first and keeps the actions of
its own hangup to itself.
-/

namespace LiveAISIP

open Sip Effect
open List

namespace Transaction
namespace TransactionManager

/-- Only a shutdown fences the registry. -/
theorem shuttingDown_apply
    (manager : TransactionManager) {operation : ManagerOperation}
    (other : operation ≠ .beginShutdown) :
    (manager.apply operation).shuttingDown = manager.shuttingDown := by
  have drawn (key : TransactionKey) (role : Role) :
      (manager.token key role).1.shuttingDown = manager.shuttingDown := by
    unfold token
    split_ifs <;> rfl
  cases operation with
  | insertClient transaction allocated =>
    simp only [apply, insertClient]
    have same := drawn transaction.key .client
    repeat' split
    all_goals simp_all
  | startClient transaction allocated =>
    simp only [apply, startClient]
    have same := drawn transaction.key .client
    repeat' split
    all_goals simp_all
  | insertServer transaction allocated =>
    simp only [apply, insertServer]
    have same := drawn transaction.key .server
    repeat' split
    all_goals simp_all
  | startServer transaction allocated =>
    simp only [apply, startServer]
    have same := drawn transaction.key .server
    repeat' split
    all_goals simp_all
  | respondServer token status bytes =>
    simp only [apply, respondServer]
    repeat' split
    all_goals rfl
  | routeResponse response =>
    simp only [apply, routeResponse]
    repeat' split
    all_goals rfl
  | routeResponseAt response now =>
    exact (manager.sameBut_routeResponseAt response now).shuttingDown
  | routeRequest request =>
    simp only [apply, routeRequest]
    repeat' split
    all_goals rfl
  | routeAck request =>
    simp only [apply, routeAck]
    repeat' split
    all_goals rfl
  | clientTimer token timer =>
    simp only [apply, clientTimer]
    repeat' split
    all_goals rfl
  | serverTimer token timer =>
    simp only [apply, serverTimer]
    repeat' split
    all_goals rfl
  | remove token =>
    simp only [apply, remove]
    split <;> rfl
  | completeAt token now allocated =>
    simp only [apply, completeAt]
    repeat' split
    all_goals rfl
  | sweepCompletions now => rfl
  | beginShutdown => exact absurd rfl other

end TransactionManager
end Transaction

namespace Call

open Transaction

variable {actions : List CallAction}

/-- The action puts a request on the wire for a call that is under way. -/
def CallAction.isWire : CallAction → Bool
  | .sendAck _ | .sendBye _ | .sendCancel => true
  | _ => false

/-- The ACK, BYE and CANCEL requests among some actions. -/
def wire (actions : List CallAction) : List CallAction := actions.filter CallAction.isWire

@[simp] theorem wire_append (first second : List CallAction) :
    wire (first ++ second) = wire first ++ wire second :=
  filter_append ..

/-- The actions that an event of the lifecycle may have. -/
inductive Emission : List CallAction → Prop
  | none : Emission []
  | starts : Emission [.sendInvite]
  | cancels : Emission [.sendCancel]
  | hangsUp (branch : DialogBranchId) : Emission [.sendBye branch]
  | transfers (target : TransferTarget) : Emission [.sendRefer target]
  | attends (otherCall : CallReference) : Emission [.sendReferReplaces otherCall]
  | previews (branch : DialogBranchId) : Emission [.applyEarlyMedia branch]
  | acknowledges (branch : DialogBranchId) : Emission [.sendAck branch]
  | declines (branch : DialogBranchId) : Emission [.sendAck branch, .sendBye branch]
  | selects (branch : DialogBranchId) : Emission [.sendAck branch, .selectBranch branch]
  | modifies (method : SessionModificationMethod) (hasOffer : Bool) :
      Emission [.applySessionModification method hasOffer]
  | ends (reason : CallEndReason) : Emission [.ended reason]

/-- Every event has one of these lists of actions. -/
theorem emission_handle
    {call : CallLifecycle} {event : CallEvent} (handled : (call.handle event).2 = .ok actions) :
    Emission actions := by
  unfold CallLifecycle.handle at handled
  split at handled
  · cases handled
  cases event with
  | command command =>
    cases command <;> simp only [CallLifecycle.command] at handled <;> repeat' split at handled
    all_goals cases handled
    all_goals constructor
  | provisional branch hasSdp =>
    simp only [CallLifecycle.provisional] at handled
    repeat' split at handled
    all_goals cases handled
    all_goals constructor
  | inviteAccepted branch =>
    simp only [CallLifecycle.accepted] at handled
    repeat' split at handled
    all_goals cases handled
    all_goals constructor
  | inviteRejected branch status =>
    simp only [CallLifecycle.rejected] at handled
    repeat' split at handled
    all_goals cases handled
    all_goals constructor
  | byeCompleted branch =>
    simp only [CallLifecycle.byeCompleted] at handled
    repeat' split at handled
    all_goals cases handled
    all_goals constructor
  | cancelAccepted | remoteBye | signalingTimedOut | mediaTimedOut
  | transportFailed =>
    cases handled
    constructor
  | sessionModification method hasOffer =>
    simp only at handled
    split at handled
    all_goals cases handled
    constructor

/-- An INVITE is started alone. -/
theorem Emission.wire_of_starts (emission : Emission actions) (starts : .sendInvite ∈ actions) :
    wire actions = [] := by
  cases emission <;> simp_all [wire, CallAction.isWire]

/-- A branch is selected with an ACK. -/
theorem Emission.wire_of_selects (emission : Emission actions)
    (selects : CallRuntime.selectsBranch actions = true) :
    wire actions ≠ [] := by
  cases emission <;> simp_all [wire, CallAction.isWire, CallRuntime.selectsBranch]

/-- The journal with further entries. -/
def Journal.append
    (journal : Journal) (handled executed : List CallAction) : Journal :=
  ⟨journal.handled ++ handled, journal.executed ++ executed⟩

@[simp] theorem Journal.append_nil (journal : Journal) :
    journal.append [] [] = journal := by
  simp [append]

@[simp] theorem Journal.append_append
    (journal : Journal) (handled executed more rest : List CallAction) :
    (journal.append handled executed).append more rest =
      journal.append (handled ++ more) (executed ++ rest) := by
  simp [append]

/-- The entries of a journal after those of an earlier one. -/
def Journal.since (journal earlier : Journal) : Journal :=
  ⟨journal.handled.drop earlier.handled.length, journal.executed.drop earlier.executed.length⟩

@[simp] theorem Journal.since_append
    (journal : Journal) (handled executed : List CallAction) :
    (journal.append handled executed).since journal = ⟨handled, executed⟩ := by
  simp [since, append]

namespace CallRuntime

variable {δ μ : Type}

variable {runtime next : CallRuntime δ μ}

/-- The actions that the context returns for an event. -/
def actionsFor
    (runtime : CallRuntime δ μ) (event : CallEvent) (now : Duration) : List CallAction :=
  match (runtime.context.handle event now).2 with
  | .ok actions => actions
  | .error _ => []

theorem emission_actionsFor
    (runtime : CallRuntime δ μ) (event : CallEvent) (now : Duration) :
    Emission (runtime.actionsFor event now) := by
  unfold actionsFor
  by_cases early : now.asNanos < runtime.context.startedAt.asNanos
  · simp only [CallContext.handle, if_pos early]
    exact .none
  · rw [CallContext.handle_of_onTime early]
    cases handled : (runtime.context.lifecycle.handle event).2 with
    | error error => exact .none
    | ok actions => exact emission_handle handled

/-- What a computation has added to the journal: with an open registry every
request that the context returned has been handed to the engine, and with a
fenced one none has. -/
structure Journals
    (runtime next : CallRuntime δ μ) (handled executed : List CallAction) : Prop where
  fence : next.isFenced = runtime.isFenced
  grown : next.journal = runtime.journal.append handled executed
  forwarded : runtime.isFenced = false → wire handled = wire executed
  withheld : runtime.isFenced = true → executed = []

/-- A computation that leaves the fence and the journal adds nothing. -/
theorem Journals.of_same (fence : next.isFenced = runtime.isFenced)
    (journal : next.journal = runtime.journal) :
    Journals runtime next [] [] :=
  ⟨fence, by rw [journal, Journal.append_nil], fun _ => rfl, fun _ => rfl⟩

theorem Journals.trans
    {middle : CallRuntime δ μ} {handled executed more rest : List CallAction}
    (first : Journals runtime middle handled executed) (second : Journals middle next more rest) :
    Journals runtime next (handled ++ more) (executed ++ rest) where
  fence := second.fence.trans first.fence
  grown := by rw [second.grown, first.grown, Journal.append_append]
  forwarded := fun accepting => by
    rw [wire_append, wire_append, first.forwarded accepting,
      second.forwarded (first.fence.trans accepting)]
  withheld := fun fenced => by
    rw [first.withheld fenced, second.withheld (first.fence.trans fenced), append_nil]

/-- The fence is an invariant of every operation of the engine. -/
theorem keptQuietly_fence (fenced : Bool) :
    KeptQuietly fun manager => manager.shuttingDown = fenced := by
  intro manager operation quiet same
  rw [manager.shuttingDown_apply]
  · exact same
  · rintro rfl
    exact quiet

theorem keptByStart_fence (fenced : Bool) :
    KeptByStart fun manager => manager.shuttingDown = fenced := by
  intro manager transaction allocated same
  rw [manager.shuttingDown_apply (by simp)]
  exact same

/-- The engine keeps the fence; the rest of the runtime is not its own. -/
theorem fence_onEngine
    {inner : SignalingEngine.Operation δ α}
    (keeps : ∀ fenced, Effect.Keeps (SignalingEngine.Has
      (fun manager => manager.shuttingDown = fenced) fun _ => True) inner)
    (runtime : CallRuntime δ μ) :
    (onEngine inner runtime).1.isFenced = runtime.isFenced :=
  (keeps runtime.isFenced runtime.engine ⟨rfl, trivial⟩).registry

/-- The engine is handed the actions, and notes them while it is open. -/
theorem execute_spec
    (codec : MessageCodec) (actions : List CallAction)
    (grants : Nat → StartGrant δ) (now : Duration) (runtime : CallRuntime δ μ) :
    (execute codec actions grants now runtime).1.isFenced = runtime.isFenced ∧
    (execute codec actions grants now runtime).1.journal =
      runtime.journal.append [] (if runtime.isFenced then [] else actions) ∧
    (execute codec actions grants now runtime).1.context = runtime.context := by
  have noted : (noteExecuted actions runtime).1.journal =
      runtime.journal.append [] (if runtime.isFenced then [] else actions) := by
    simp [noteExecuted, Journal.append]
  rw [execute, bind_apply]
  refine ⟨fence_onEngine (fun fenced => SignalingEngine.keeps_executeCallActions
    (keptQuietly_fence fenced) (keptByStart_fence fenced) codec actions grants now) _, noted, rfl⟩

/-- A handled event is noted in the journal, and an event that is turned away
leaves it. -/
theorem handleEvent_spec
    (event : CallEvent) (now : Duration) (runtime : CallRuntime δ μ) :
    (handleEvent event now runtime).1.isFenced = runtime.isFenced ∧
    (handleEvent event now runtime).1.journal =
      runtime.journal.append (runtime.actionsFor event now) [] ∧
    (∀ actions, (handleEvent event now runtime).2 = .ok actions →
      actions = runtime.actionsFor event now) ∧
    ∀ error, (handleEvent event now runtime).2 = .error error →
      runtime.actionsFor event now = [] := by
  rcases returned : runtime.context.handle event now with ⟨reached, error | produced⟩
  · rw [handleEvent_of_error returned, actionsFor, returned]
    exact ⟨rfl, by simp, by simp, by simp⟩
  · rw [handleEvent_of_ok returned, actionsFor, returned]
    exact ⟨rfl, by simp [noteHandled, Journal.append], by simp, by simp⟩

/-- Handled actions that are handed on are journaled on both sides. -/
theorem Journals.of_execute
    {handled : CallRuntime δ μ} {actions : List CallAction}
    (fence : handled.isFenced = runtime.isFenced)
    (journal : handled.journal = runtime.journal.append actions [])
    (codec : MessageCodec) (grants : Nat → StartGrant δ) (now : Duration) :
    Journals runtime (execute codec actions grants now handled).1 actions
      (if runtime.isFenced then [] else actions) := by
  obtain ⟨kept, noted, -⟩ := execute_spec codec actions grants now handled
  refine ⟨kept.trans fence, ?_, ?_, ?_⟩
  · rw [noted, journal, Journal.append_append, fence, append_nil, nil_append]
  · intro accepting
    rw [accepting]
    rfl
  · intro fenced
    rw [fenced]
    rfl

/-- An event that is handled and handed on is journaled on both sides, before
anything that follows. -/
theorem journals_forward
    (codec : MessageCodec) (event : CallEvent) (grants : Nat → StartGrant δ)
    (now : Duration) (rest : List CallAction → Operation δ μ α) (runtime : CallRuntime δ μ) :
    ∃ middle executed, Journals runtime middle (runtime.actionsFor event now) executed ∧
      (((do
          let actions ← handleEvent event now
          execute codec actions grants now
          rest actions) runtime).1 = middle ∨
        ((do
          let actions ← handleEvent event now
          execute codec actions grants now
          rest actions) runtime).1 = (rest (runtime.actionsFor event now) middle).1) := by
  obtain ⟨fence, journal, returned, refused⟩ := handleEvent_spec event now runtime
  rcases handles : handleEvent event now runtime with ⟨handled, error | produced⟩
  · rw [handles] at fence journal refused
    have nothing := refused error rfl
    rw [nothing] at journal ⊢
    refine ⟨handled, [], .of_same fence (journal.trans (Journal.append_nil _)), .inl ?_⟩
    rw [bind_of_error handles]
  · rw [handles] at fence journal returned
    obtain rfl := returned produced rfl
    refine ⟨_, _, .of_execute fence journal codec grants now, ?_⟩
    rw [bind_of_ok handles, bind_apply]
    rcases execute codec (runtime.actionsFor event now) grants now handled with
      ⟨reached, error | value⟩
    · exact .inl rfl
    · exact .inr rfl

section Outcomes

variable (plane : MediaPlane μ) (codec : MessageCodec) (now : Duration)

/-- Applying a media answer journals at most a hangup, and only where the outcome
selected a branch. -/
theorem journals_applyMedia
    (media : Option MediaAnswerOutcome) (produced : List CallAction)
    (grants : Nat → StartGrant δ) (runtime : CallRuntime δ μ) :
    ∃ handled executed,
      Journals runtime (applyMedia plane codec media produced grants now runtime).1
        handled executed ∧
      (selectsBranch produced = false → handled = []) := by
  have nothing : ∃ handled executed, Journals runtime runtime handled executed ∧
      (selectsBranch produced = false → handled = []) :=
    ⟨[], [], .of_same rfl rfl, fun _ => rfl⟩
  cases media with
  | none => exact nothing
  | some answer =>
    cases answer with
    | negotiated answer =>
      simp only [applyMedia]
      split_ifs
      · rw [bind_apply, onMedia]
        rcases plane.applyAnswer answer now runtime.media with ⟨media, _ | _⟩
        · exact ⟨[], [], .of_same rfl rfl, fun _ => rfl⟩
        · exact ⟨[], [], .of_same rfl rfl, fun _ => rfl⟩
      · exact nothing
    | invalid error =>
      simp only [applyMedia]
      split_ifs with selects
      · obtain ⟨middle, executed, journals, reached | reached⟩ :=
          journals_forward codec (.command .hangup) grants now pure runtime
        · rw [reached]
          exact ⟨_, _, journals, fun unselected => by simp [selects] at unselected⟩
        · rw [reached]
          exact ⟨_, _, journals, fun unselected => by simp [selects] at unselected⟩
      · exact nothing

/-- An outcome journals the actions of its event, and a hangup at most where these
have requests of their own. -/
theorem journals_processOutcome
    (outcome : SignalingOutcome) (grant : OutcomeGrant δ) (runtime : CallRuntime δ μ) :
    ∃ handled executed, Journals runtime (processOutcome plane codec outcome grant now runtime).1
        handled executed ∧
      (wire handled = [] ↔ wire (runtime.actionsFor outcome.event now) = []) := by
  obtain ⟨middle, executed, journals, reached | reached⟩ :=
    journals_forward codec outcome.event grant.produced now (fun produced => do
      let followup ← applyMedia plane codec outcome.media produced grant.followup now
      pure (produced ++ followup)) runtime
  · rw [processOutcome, reached]
    exact ⟨_, _, journals, Iff.rfl⟩
  · obtain ⟨more, rest, followed, unselected⟩ := journals_applyMedia plane codec now
      outcome.media (runtime.actionsFor outcome.event now) grant.followup middle
    have state : (processOutcome plane codec outcome grant now runtime).1 =
        (applyMedia plane codec outcome.media (runtime.actionsFor outcome.event now)
          grant.followup now middle).1 := by
      rw [processOutcome, reached, state_bind_pure]
    rw [state]
    refine ⟨_, _, journals.trans followed, ?_⟩
    rw [wire_append, append_eq_nil_iff]
    refine ⟨And.left, fun quiet => ⟨quiet, ?_⟩⟩
    have kept : selectsBranch (runtime.actionsFor outcome.event now) = false := by
      by_contra selects
      exact (runtime.emission_actionsFor outcome.event now).wire_of_selects
        (by simpa using selects) quiet
    rw [unselected kept]
    rfl

/-- The property holds at every outcome that a batch comes to. -/
def AtEveryOutcome
    (property : CallRuntime δ μ → SignalingOutcome → Prop)
    (outcomes : List (SignalingOutcome × OutcomeGrant δ)) (runtime : CallRuntime δ μ) : Prop :=
  ∀ earlier outcome grant later before actions, outcomes = earlier ++ (outcome, grant) :: later →
    processOutcomes plane codec now earlier runtime = (before, .ok actions) →
    property before outcome

/-- A batch comes to its first outcome, and from there to those that follow. -/
theorem atEveryOutcome_cons
    (property : CallRuntime δ μ → SignalingOutcome → Prop)
    (outcome : SignalingOutcome) (grant : OutcomeGrant δ)
    (outcomes : List (SignalingOutcome × OutcomeGrant δ)) (runtime : CallRuntime δ μ) :
    AtEveryOutcome plane codec now property ((outcome, grant) :: outcomes) runtime ↔
      property runtime outcome ∧
      ∀ next actions, processOutcome plane codec outcome grant now runtime = (next, .ok actions) →
        AtEveryOutcome plane codec now property outcomes next := by
  constructor
  · intro every
    refine ⟨every [] outcome grant outcomes runtime [] rfl rfl, ?_⟩
    intro next actions processes earlier other otherGrant later before more split processed
    refine every ((outcome, grant) :: earlier) other otherGrant later before
      (actions ++ more) (by rw [split, cons_append]) ?_
    rw [processOutcomes, bind_of_ok processes, bind_of_ok processed]
    rfl
  · rintro ⟨first, rest⟩ earlier other otherGrant later before more split processed
    cases earlier with
    | nil =>
      cases split
      cases processed
      exact first
    | cons numbered earlier =>
      cases split
      rw [processOutcomes, bind_eq_ok] at processed
      obtain ⟨next, actions, processes, remaining⟩ := processed
      rw [bind_eq_ok] at remaining
      obtain ⟨reached, following, processed, joined⟩ := remaining
      cases joined
      exact rest next actions processes earlier other otherGrant later _ following rfl processed

/-- A batch journals a request exactly when one of the outcomes that it comes to
has one. -/
theorem journals_processOutcomes
    (outcomes : List (SignalingOutcome × OutcomeGrant δ)) (runtime : CallRuntime δ μ) :
    ∃ handled executed, Journals runtime (processOutcomes plane codec now outcomes runtime).1
        handled executed ∧
      (wire handled = [] ↔ AtEveryOutcome plane codec now
        (fun before outcome => wire (before.actionsFor outcome.event now) = [])
        outcomes runtime) := by
  induction outcomes generalizing runtime with
  | nil =>
    refine ⟨[], [], .of_same rfl rfl, ?_⟩
    simp [wire, AtEveryOutcome]
  | cons numbered outcomes ih =>
    obtain ⟨outcome, grant⟩ := numbered
    rw [atEveryOutcome_cons]
    obtain ⟨handled, executed, journals, quiet⟩ :=
      journals_processOutcome plane codec now outcome grant runtime
    rcases processes : processOutcome plane codec outcome grant now runtime with
      ⟨next, error | actions⟩
    · rw [processes] at journals
      refine ⟨handled, executed, ?_, ?_⟩
      · rw [processOutcomes, bind_of_error processes]
        exact journals
      · simp [quiet]
    · rw [processes] at journals
      obtain ⟨more, rest, further, others⟩ := ih next
      refine ⟨handled ++ more, executed ++ rest, ?_, ?_⟩
      · have state : (processOutcomes plane codec now ((outcome, grant) :: outcomes)
            runtime).1 = (processOutcomes plane codec now outcomes next).1 := by
          rw [processOutcomes, bind_of_ok processes, state_bind_pure]
        rw [state]
        exact journals.trans further
      · rw [wire_append, append_eq_nil_iff, quiet, others]
        simp

end Outcomes

section Deadlines

variable {now : Duration}

variable {event : CallEvent}

/-- Deadlines of the call report timeouts and failures only. -/
theorem isTimeout_of_callDeadline
    {timer : CallTimer} {runtime before : CallRuntime δ μ}
    (reported : callDeadline timer now runtime = (before, .ok (some event))) :
    event = .signalingTimedOut ∨ event = .mediaTimedOut ∨ event = .transportFailed := by
  cases timer with
  | noAnswer =>
    cases reported
    exact .inl rfl
  | mediaInactivity =>
    cases reported
    exact .inr (.inl rfl)
  | transportLiveness =>
    cases reported
    exact .inr (.inr rfl)
  | transfer =>
    obtain ⟨next, transfer, -, applied⟩ := bind_eq_ok.mp reported
    cases transfer with
    | none => cases applied
    | some state =>
      obtain ⟨last, _, -, returned⟩ := bind_eq_ok.mp applied
      cases returned
  | sessionRefresh =>
    obtain ⟨next, session, -, applied⟩ := bind_eq_ok.mp reported
    cases session with
    | none => cases applied
    | some timer =>
      simp only at applied
      cases due : timer.action now with
      | expired =>
        simp only [due] at applied
        cases applied
        exact .inl rfl
      | none =>
        simp only [due] at applied
        cases applied
      | refresh =>
        simp only [due] at applied
        obtain ⟨last, _, -, returned⟩ := bind_eq_ok.mp applied
        cases returned

/-- Deadlines report timeouts and failures only. -/
theorem isTimeout_of_deadlineEvent
    {due : DueDeadline} {grants : Nat → Grant δ} {runtime before : CallRuntime δ μ}
    (reported : deadlineEvent due grants now runtime = (before, .ok (some event))) :
    event = .signalingTimedOut ∨ event = .mediaTimedOut ∨ event = .transportFailed := by
  unfold deadlineEvent at reported
  cases owner : due.owner with
  | transaction =>
    simp only [owner] at reported
    obtain ⟨next, installed, -, applied⟩ := bind_eq_ok.mp reported
    split_ifs at applied
    · rcases fired : SignalingEngine.onDeadline due.id grants now next.engine with
        ⟨engine, error | found⟩
      · simp [onEngine, fired, Except.mapError] at applied
      · simp only [onEngine, mapError_apply, zoom_apply, fired,
          Except.mapError, Prod.mk.injEq, Except.ok.injEq] at applied
        obtain ⟨-, rfl⟩ := applied
        have outcome : (next.engine.call.onDeadline due.id grants now).2 =
            .ok (some event) := congrArg Prod.snd fired
        exact .inl (CallSignaling.onDeadline_eq_some (Prod.ext rfl outcome)).1
    · cases applied
  | call =>
    simp only [owner] at reported
    cases kind : CallTimer.fromKind due.kind with
    | none =>
      simp only [kind] at reported
      cases reported
    | some timer =>
      simp only [kind] at reported
      exact isTimeout_of_callDeadline reported
  | dialog | media | transport =>
    simp only [owner] at reported
    cases reported

/-- The end of a call by a timeout or a failure sends no request. -/
theorem wire_actionsFor_of_timeout
    (timeout : event = .signalingTimedOut ∨ event = .mediaTimedOut ∨ event = .transportFailed)
    (runtime : CallRuntime δ μ) :
    wire (runtime.actionsFor event now) = [] := by
  unfold actionsFor
  by_cases early : now.asNanos < runtime.context.startedAt.asNanos
  · simp [CallContext.handle, if_pos early, wire]
  · rw [CallContext.handle_of_onTime early]
    rcases timeout with rfl | rfl | rfl <;> unfold CallLifecycle.handle <;> split_ifs <;> rfl

/-- The journal has grown without requests since it was as given. -/
def Silent (journal : Journal) (runtime : CallRuntime δ μ) : Prop :=
  ∃ handled, runtime.journal = journal.append handled [] ∧ wire handled = []

theorem silent_dueTurn
    (journal : Journal) (grants : Nat → Grant δ) :
    Effect.Keeps (Silent (δ := δ) (μ := μ) journal) (dueTurn grants now) := by
  intro runtime silent
  rcases found : nextDue now runtime with ⟨polled, error | due⟩
  · cases found
  have same : Silent journal polled := by
    cases found
    exact silent
  rw [dueTurn, bind_of_ok found]
  cases due with
  | none => exact same
  | some due =>
    have kept : Silent journal (deadlineEvent due grants now polled).1 :=
      keeps_deadlineEvent (fun _ _ _ silent => silent) (fun _ _ silent => silent)
        (fun _ _ silent => silent) due grants polled same
    simp only
    rcases reported : deadlineEvent due grants now polled with
      ⟨before, error | event⟩
    · rw [bind_of_error reported]
      rw [reported] at kept
      exact kept
    rw [reported] at kept
    rw [bind_of_ok reported]
    cases event with
    | none => exact kept
    | some event =>
      obtain ⟨handled, grown, quiet⟩ := kept
      obtain ⟨-, noted, -⟩ := handleEvent_spec event now before
      have next : Silent journal (handleEvent event now before).1 := by
        refine ⟨handled ++ before.actionsFor event now, ?_, ?_⟩
        · rw [noted, grown, Journal.append_append, append_nil]
        · rw [wire_append, quiet, wire_actionsFor_of_timeout (isTimeout_of_deadlineEvent reported)]
          rfl
      simp only
      rcases handles : handleEvent event now before with ⟨after, error | actions⟩
      · rw [bind_of_error handles]
        rw [handles] at next
        exact next
      · rw [bind_of_ok handles]
        rw [handles] at next
        exact next

theorem silent_dueTurns
    (journal : Journal) (grants : Nat → Nat → Grant δ) (turns : Nat) :
    Effect.Keeps (Silent (δ := δ) (μ := μ) journal) (dueTurns grants now turns) := by
  induction turns with
  | zero => exact keeps_pure _
  | succ turns ih =>
    refine ih.bind fun turned => ?_
    obtain ⟨earlier, goesOn⟩ := turned
    cases goesOn with
    | false => exact keeps_pure _
    | true => exact (silent_dueTurn journal _).bind fun _ => keeps_pure _

/-- No cycle of due deadlines journals a request. -/
theorem silent_processDueDeadlines
    (plane : MediaPlane μ) (journal : Journal) (grants : Nat → Nat → Grant δ) :
    Effect.Keeps (Silent (δ := δ) journal) (processDueDeadlines plane grants now) := by
  refine (silent_dueTurns journal grants _).bind fun turned => ?_
  have ticks : Effect.Keeps (Silent (δ := δ) journal)
      (onMedia (plane.processClock now)) := fun _ silent => silent
  have forces : Effect.Keeps (Silent (δ := δ) (μ := μ) journal)
      (forceEnd .localHangup) := fun _ silent => silent
  refine ticks.bind fun _ => (keeps_read _).bind fun _ =>
    (keeps_read _).bind fun _ => ?_
  split_ifs
  · exact forces.bind fun _ => keeps_pure _
  · exact keeps_pure _

end Deadlines

/-- An event of the mailbox journals its actions. -/
theorem journals_handleMessageEvent (installed : runtime.signalingInstalled = true)
    (codec : MessageCodec) (event : CallEvent) (start : StartGrant δ)
    (grants : Nat → StartGrant δ) (now : Duration) :
    ∃ executed, Journals runtime
      (handleMessageEvent codec event start grants now runtime).1
      (runtime.actionsFor event now) executed := by
  obtain ⟨fence, journal, returned, refused⟩ := handleEvent_spec event now runtime
  have settled : (handleEvent event now runtime).1.signalingInstalled = true := by
    rw [← installed, handleEvent]
    split <;> rfl
  rcases handles : handleEvent event now runtime with ⟨handled, error | produced⟩
  · rw [handles] at fence journal refused
    have nothing := refused error rfl
    rw [nothing] at journal ⊢
    rw [handleMessageEvent, bind_of_error handles]
    exact ⟨[], .of_same fence (journal.trans (Journal.append_nil _))⟩
  rw [handles] at fence journal returned settled
  obtain rfl := returned produced rfl
  rw [handleMessageEvent, bind_of_ok handles,
    bind_of_ok (read_apply CallRuntime.signalingInstalled handled), if_pos settled]
  split_ifs with starts
  · -- the INVITE may fail to start, but no other request is started with it
    have kept := fence_onEngine (fun fenced => SignalingEngine.keeps_onCall
      (CallSignaling.keeps_start (keptQuietly_fence fenced) (keptByStart_fence fenced)
        codec.ackTemplate start.allocated start.grants now)) handled
    have same : (onEngine (SignalingEngine.start codec start now) handled).1.journal =
        handled.journal := rfl
    rcases started : onEngine (SignalingEngine.start codec start now) handled with
      ⟨next, error | value⟩
    · rw [bind_of_error started]
      rw [SignalingEngine.start] at started
      rw [started] at kept
      rw [SignalingEngine.start, started] at same
      refine ⟨[], kept.trans fence, same.trans journal, fun _ => ?_, fun _ => rfl⟩
      exact (runtime.emission_actionsFor event now).wire_of_starts starts
    · rw [bind_of_ok started, state_bind_pure]
      rw [SignalingEngine.start] at started
      rw [started] at kept
      rw [SignalingEngine.start, started] at same
      exact ⟨_, .of_execute (kept.trans fence) (same.trans journal) codec grants now⟩
  · rw [state_bind_pure]
    exact ⟨_, .of_execute fence journal codec grants now⟩

/-- A poll leaves the fence to its outcomes. -/
theorem fence_poll
    (codec : MessageCodec) (receipts : List (Datagram × Turn δ))
    (now : Duration) (runtime : CallRuntime δ μ) :
    (onEngine (SignalingEngine.poll codec receipts now) runtime).1.isFenced = runtime.isFenced := by
  refine fence_onEngine (fun fenced => SignalingEngine.keeps_poll ?_ receipts) runtime
  intro datagram turn
  refine SignalingEngine.keeps_receive (keptQuietly_fence fenced) fun response _ => ?_
  exact SignalingEngine.keeps_retryAuthenticatedInvite (keptQuietly_fence fenced)
    (keptByStart_fence fenced) codec response turn now

/-- The outcomes of a poll with the runtime that they are applied to. -/
def polledOutcomes
    (codec : MessageCodec) (receipts : List (Datagram × Turn δ))
    (grants : Nat → OutcomeGrant δ) (now : Duration) (runtime : CallRuntime δ μ) :
    List (SignalingOutcome × OutcomeGrant δ) × CallRuntime δ μ :=
  match runtime.engine.poll codec receipts now with
  | (engine, .ok outcomes) =>
    (numbered grants outcomes, { runtime with engine := engine })
  | (engine, .error _) => ([], { runtime with engine := engine })

/-- The condition under which an operation hands on every request. -/
def Delivers
    (plane : MediaPlane μ) (codec : MessageCodec) (now : Duration)
    (runtime : CallRuntime δ μ) : RuntimeOperation δ μ → Prop
  | .event event _ _ =>
    runtime.isFenced = false ∨ wire (runtime.actionsFor event now) = []
  | .pollSignaling receipts grants =>
    runtime.isFenced = false ∨ AtEveryOutcome plane codec now
        (fun before outcome => wire (before.actionsFor outcome.event now) = [])
        (polledOutcomes codec receipts grants now runtime).1
        (polledOutcomes codec receipts grants now runtime).2
  | .shutdown =>
    runtime.shuttingDown = true ∨ now.checkedAdd runtime.shutdownGrace = none ∨
      (runtime.context.lifecycle.state ≠ .inviting ∧
        runtime.context.lifecycle.state ≠ .established) ∨
      wire (runtime.actionsFor (.command .hangup) now) = []
  | .media _ | .processDueDeadlines _ => True

/-- Every ACK, BYE and CANCEL that the context returns in an operation is handed
to an engine that may start transactions. -/
def Forwards
    (plane : MediaPlane μ) (codec : MessageCodec) (now : Duration)
    (runtime : CallRuntime δ μ) (operation : RuntimeOperation δ μ) : Prop :=
  let journal := (perform plane codec now operation runtime).1.journal
  wire (journal.since runtime.journal).handled = wire (journal.since runtime.journal).executed

/-- Journaled requests are forwarded by an open registry, and by a fenced one only
where there are none. -/
theorem Journals.forwards_iff {handled executed : List CallAction}
    (journals : Journals runtime next handled executed) :
    wire (next.journal.since runtime.journal).handled =
        wire (next.journal.since runtime.journal).executed ↔
      runtime.isFenced = false ∨ wire handled = [] := by
  rw [journals.grown, Journal.since_append]
  cases fenced : runtime.isFenced with
  | false => simp [journals.forwarded fenced]
  | true => simp [journals.withheld fenced, wire]

/-- A poll forwards what the outcomes that it comes to call for. -/
theorem forwards_pollSignaling_iff
    (plane : MediaPlane μ)
    (codec : MessageCodec)
    (now : Duration)
    (installed : runtime.signalingInstalled = true)
    (receipts : List (Datagram × Turn δ)) (grants : Nat → OutcomeGrant δ) :
    Forwards plane codec now runtime (.pollSignaling receipts grants) ↔
      Delivers plane codec now runtime (.pollSignaling receipts grants) := by
  have kept := fence_poll codec receipts now runtime
  simp only [Forwards, Delivers, perform, polledOutcomes]
  rw [pollSignaling, bind_of_ok (read_apply CallRuntime.signalingInstalled runtime),
    if_pos installed]
  rcases polled : runtime.engine.poll codec receipts now with ⟨engine, error | outcomes⟩
  · have failed : (onEngine (SignalingEngine.poll codec receipts now) : Operation δ μ _) runtime =
          ({ runtime with engine := engine }, .error (.signaling error)) := by
      simp [onEngine, polled, Except.mapError]
    rw [failed] at kept
    rw [bind_of_error failed]
    have nothing : Journals runtime { runtime with engine := engine } [] [] :=
      .of_same kept rfl
    rw [nothing.forwards_iff]
    simp [wire, AtEveryOutcome]
  · have drained : (onEngine (SignalingEngine.poll codec receipts now) : Operation δ μ _) runtime =
          ({ runtime with engine := engine }, .ok outcomes) := by
      simp [onEngine, polled, Except.mapError]
    rw [drained] at kept
    rw [bind_of_ok drained]
    obtain ⟨handled, executed, journals, quiet⟩ := journals_processOutcomes plane codec
      now (numbered grants outcomes) { runtime with engine := engine }
    have whole := (Journals.of_same kept rfl).trans journals
    rw [nil_append, nil_append] at whole
    exact whole.forwards_iff.trans (or_congr_right quiet)

/-- A shutdown journals the actions of its hangup, and hands on none. -/
theorem journal_beginShutdown
    (plane : MediaPlane μ) (codec : MessageCodec) (now : Duration) (runtime : CallRuntime δ μ) :
    ∃ handled, (beginShutdown plane now runtime).1.journal = runtime.journal.append handled [] ∧
      (wire handled = [] ↔ Delivers plane codec now runtime .shutdown) := by
  have nothing : runtime.journal = runtime.journal.append [] [] := by simp
  simp only [Delivers]
  rw [beginShutdown, bind_of_ok (read_apply CallRuntime.shuttingDown runtime)]
  by_cases shutting : runtime.shuttingDown = true
  · rw [if_pos shutting]
    exact ⟨[], nothing, by simp [shutting, wire]⟩
  rw [if_neg shutting]
  obtain ⟨closed, fences, context, journal, grace⟩ : ∃ closed,
      fence plane runtime = (closed, .ok ()) ∧ closed.context = runtime.context ∧
      closed.journal = runtime.journal ∧
      closed.shutdownGrace = runtime.shutdownGrace := ⟨_, rfl, rfl, rfl, rfl⟩
  rw [bind_of_ok fences]
  cases limit : now.checkedAdd runtime.shutdownGrace with
  | none =>
    have overflows : setShutdownDeadline now closed = (closed, .error .timeOverflow) := by
      rw [setShutdownDeadline, bind_of_ok (read_apply _ _), grace, limit]
      rfl
    rw [bind_of_error overflows]
    exact ⟨[], journal.trans nothing, by simp [wire]⟩
  | some deadline =>
    obtain ⟨ready, sets, context, journal⟩ : ∃ ready,
        setShutdownDeadline now closed = (ready, .ok ()) ∧
        ready.context = runtime.context ∧ ready.journal = runtime.journal := by
      rw [setShutdownDeadline, bind_of_ok (read_apply CallRuntime.shutdownGrace closed)]
      simp only [grace, limit]
      exact ⟨_, rfl, context, journal⟩
    rw [bind_of_ok sets, bind_of_ok (read_apply _ ready), context]
    have same : ready.actionsFor (.command .hangup) now =
        runtime.actionsFor (.command .hangup) now := by
      simp only [actionsFor, context]
    obtain ⟨-, noted, -⟩ := handleEvent_spec (.command .hangup) now ready
    rw [journal, same] at noted
    cases state : runtime.context.lifecycle.state with
    | idle | cancelling | terminating | ended reason =>
      exact ⟨[], journal.trans nothing, by simp [wire]⟩
    | inviting | established => exact ⟨_, noted, by simp [shutting]⟩

/-- With signaling installed, an operation hands every ACK, BYE and CANCEL that the
context returns to an engine that may start transactions, exactly when the
registry is open while an event returns one, and the operation is not the
shutdown of a call that has a request to send.  Deadlines and media never return
one. -/
theorem requests_forwarded_iff
    (plane : MediaPlane μ) (codec : MessageCodec) (now : Duration)
    (runtime : CallRuntime δ μ) (installed : runtime.signalingInstalled = true)
    (operation : RuntimeOperation δ μ) :
    Forwards plane codec now runtime operation ↔ Delivers plane codec now runtime operation := by
  cases operation with
  | event event start grants =>
    obtain ⟨executed, journals⟩ :=
      journals_handleMessageEvent installed codec event start grants now
    exact journals.forwards_iff
  | media work =>
    have same : (perform plane codec now (.media work) runtime).1.journal = runtime.journal := by
      rw [perform, state_bind_pure]
      rfl
    simp [Forwards, Delivers, same, Journal.since, wire]
  | pollSignaling receipts grants =>
    exact forwards_pollSignaling_iff plane codec now installed receipts grants
  | processDueDeadlines grants =>
    have silent : Silent runtime.journal (processDueDeadlines plane grants now runtime).1 :=
      silent_processDueDeadlines plane runtime.journal grants runtime
        ⟨[], (Journal.append_nil _).symm, rfl⟩
    obtain ⟨handled, grown, quiet⟩ := silent
    simp only [Forwards, Delivers, perform, grown, Journal.since_append, quiet, iff_true]
    rfl
  | shutdown =>
    obtain ⟨handled, grown, quiet⟩ := journal_beginShutdown plane codec now runtime
    simp only [← quiet, Forwards, perform, grown, Journal.since_append]
    rfl

/-- A sample call with its INVITE out. -/
def invitingRuntime : Option (CallRuntime Unit Unit) :=
  (idleRuntime none).map fun runtime => runtime.after sampleMedia sampleCodec
    [(.fromSecs 1, sampleEvent (.command .start))]

/-- That call after its answer. -/
def establishedRuntime : Option (CallRuntime Unit Unit) :=
  invitingRuntime.map fun runtime => runtime.after sampleMedia sampleCodec
    [(.fromSecs 2, samplePoll [.response
      (sampleInbound inviteRequest.topmostVia ⟨1, .invite⟩ .ok tagB)])]

/-- The hangup of the sample call hands its CANCEL to the engine. -/
theorem hangup_forwards_cancel :
    ∃ runtime, invitingRuntime = some runtime ∧
      runtime.actionsFor (.command .hangup) (.fromSecs 2) = [.sendCancel] ∧
      Forwards sampleMedia sampleCodec (.fromSecs 2) runtime (sampleEvent (.command .hangup)) := by
  refine ⟨_, rfl, rfl, ?_⟩
  exact (requests_forwarded_iff sampleMedia sampleCodec (.fromSecs 2) _ rfl
    (sampleEvent (.command .hangup))).mpr (.inl rfl)

/-- The shutdown of the established sample call returns a BYE and sends none; so
does that of the ringing call with its CANCEL. -/
theorem shutdown_drops_requests :
    (∃ runtime, establishedRuntime = some runtime ∧ runtime.context.lifecycle.state = .established ∧
      (beginShutdown sampleMedia (.fromSecs 3) runtime).2 = .ok [.sendBye (branchOfTag tagB)] ∧
      ¬Forwards sampleMedia sampleCodec (.fromSecs 3) runtime .shutdown) ∧
    ∃ runtime, invitingRuntime = some runtime ∧ runtime.context.lifecycle.state = .inviting ∧
      (beginShutdown sampleMedia (.fromSecs 3) runtime).2 = .ok [.sendCancel] ∧
      ¬Forwards sampleMedia sampleCodec (.fromSecs 3) runtime .shutdown := by
  refine ⟨⟨_, rfl, rfl, rfl, fun forwards => ?_⟩, ⟨_, rfl, rfl, rfl, fun forwards => ?_⟩⟩
  · cases forwards
  · cases forwards

end CallRuntime

end Call
end LiveAISIP
