import LiveAISIP.Call.Requests
import LiveAISIP.Call.RuntimeInvariant

/-!
# Events after the end of a call

The outcomes of one poll, and the deadlines due together, are handled one after
another.  Neither loop looks at the end of the call before it hands an event to
the lifecycle, except that a deadline of the call itself leaves the deadline
loop; so an event that follows the end in its batch fails the whole operation.
-/

namespace LiveAISIP
namespace Call

open Sip Transaction Effect
open CallContext

namespace CallLifecycle

/-- Exactly a call that has ended turns an event away as late. -/
theorem handle_eq_alreadyEnded_iff (call : CallLifecycle) (event : CallEvent) :
    (call.handle event).2 = .error .alreadyEnded ↔ call.state.isTerminal = true := by
  constructor
  · intro late
    by_contra live
    simp only [handle, if_neg live] at late
    cases event with
    | command command =>
      cases command <;> simp only [CallLifecycle.command] at late <;> repeat' split at late
      all_goals cases late
    | provisional branch hasSdp =>
      simp only [provisional] at late
      repeat' split at late
      all_goals cases late
    | inviteAccepted branch =>
      simp only [accepted] at late
      repeat' split at late
      all_goals cases late
    | inviteRejected branch status =>
      simp only [rejected] at late
      repeat' split at late
      all_goals cases late
    | byeCompleted branch =>
      simp only [byeCompleted] at late
      repeat' split at late
      all_goals cases late
    | cancelAccepted | remoteBye | signalingTimedOut | mediaTimedOut
    | transportFailed => cases late
    | sessionModification method hasOffer =>
      simp only at late
      split at late
      all_goals cases late
  · intro terminal
    simp [handle, terminal]

/-- An event that ends a call has the end as its only action. -/
theorem actions_of_ends
    {call : CallLifecycle} {event : CallEvent} (live : call.state.isTerminal = false)
    (ended : (call.handle event).1.state.isTerminal = true) :
    ∃ reason, (call.handle event).2 = .ok [.ended reason] := by
  have made := call.transition_apply (.handle event)
  simp only [apply] at made
  generalize produced : actionsOf (call.handle event).2 = actions at made
  generalize reached : (call.handle event).1 = next at made ended
  cases made with
  | keeps state => simp [state, live] at ended
  | starts | cancels | hangsUp | declines | selects =>
    simp [CallState.isTerminal] at ended
  | repeats => simp [live] at ended
  | ends reason =>
    refine ⟨reason, ?_⟩
    cases outcome : (call.handle event).2 with
    | error error => simp [outcome] at produced
    | ok actions =>
      rw [outcome] at produced
      exact congrArg Except.ok produced

end CallLifecycle

/-- Once the call has started, the context does what its lifecycle does. -/
theorem CallContext.handle_of_onTime
    {context : CallContext} {now : Duration}
    (onTime : ¬now.asNanos < context.startedAt.asNanos) (event : CallEvent) :
    context.handle event now = ({ context with lifecycle := (context.lifecycle.handle event).1 },
        (context.lifecycle.handle event).2.mapError .lifecycle) := by
  rw [CallContext.handle, if_neg onTime]
  rcases context.lifecycle.handle event with ⟨lifecycle, error | actions⟩
  · rfl
  · rfl

namespace CallRuntime

variable {δ μ : Type}

variable {runtime : CallRuntime δ μ} {event : CallEvent}

variable {now : Duration}

/-- The runtime once its context returned some actions. -/
def noteHandled
    (runtime : CallRuntime δ μ) (context : CallContext)
    (actions : List CallAction) : CallRuntime δ μ :=
  { runtime with
    context := context
    journal := { runtime.journal with
      handled := runtime.journal.handled ++ actions } }

/-- An event is handled by the context. -/
theorem handleEvent_of_ok
    {context : CallContext} {actions : List CallAction}
    (handled : runtime.context.handle event now = (context, .ok actions)) :
    handleEvent event now runtime = (runtime.noteHandled context actions, .ok actions) := by
  rw [handleEvent, handled]
  rfl

/-- An event is turned away by the context. -/
theorem handleEvent_of_error
    {context : CallContext} {error : CallContextError}
    (refused : runtime.context.handle event now = (context, .error error)) :
    handleEvent event now runtime =
      ({ runtime with context := context }, .error (.context error)) := by
  rw [handleEvent, refused]

/-- The event ends the call. -/
structure EndedBy
    (runtime : CallRuntime δ μ) (event : CallEvent) (now : Duration) : Prop where
  live : runtime.isFinished = false
  ended : (runtime.context.handle event now).1.lifecycle.state.isTerminal = true

/-- The state of the lifecycle once the event was handled. -/
def stateAfter
    (runtime : CallRuntime δ μ) (event : CallEvent) (now : Duration) : CallState :=
  (runtime.context.handle event now).1.lifecycle.state

/-- An event that ends the call came after the start of the call, and is handled
with the end as its only action. -/
theorem EndedBy.handleEvent
    (ends : runtime.EndedBy event now) :
    ¬now.asNanos < runtime.context.startedAt.asNanos ∧
    ∃ reason, handleEvent event now runtime =
      (runtime.noteHandled (runtime.context.handle event now).1 [.ended reason],
        .ok [.ended reason]) := by
  obtain ⟨live, ended⟩ := ends
  have onTime : ¬now.asNanos < runtime.context.startedAt.asNanos := by
    intro early
    simp only [CallContext.handle, if_pos early] at ended
    exact Bool.false_ne_true (live.symm.trans ended)
  have handled := handle_of_onTime onTime event
  rw [handled] at ended ⊢
  obtain ⟨reason, actions⟩ := CallLifecycle.actions_of_ends live ended
  rw [actions] at handled
  exact ⟨onTime, reason, handleEvent_of_ok handled⟩

/-- A call that has ended turns every event away. -/
theorem handleEvent_of_finished (finished : runtime.isFinished = true)
    (onTime : ¬now.asNanos < runtime.context.startedAt.asNanos) (event : CallEvent) :
    handleEvent event now runtime = (runtime, .error (.context (.lifecycle .alreadyEnded))) := by
  have late := (CallLifecycle.handle_eq_alreadyEnded_iff _ event).mpr finished
  have stays : (runtime.context.lifecycle.handle event).1 = runtime.context.lifecycle :=
    CallLifecycle.apply_of_terminal finished (.handle event)
  have refused := handle_of_onTime onTime event
  rw [late, stays] at refused
  exact handleEvent_of_error refused

/-- An event is turned away as late only by a call that has ended. -/
theorem finished_of_late
    {next : CallRuntime δ μ}
    (late : handleEvent event now runtime = (next, .error (.context (.lifecycle .alreadyEnded)))) :
    runtime.isFinished = true := by
  apply (CallLifecycle.handle_eq_alreadyEnded_iff _ event).mp
  by_cases early : now.asNanos < runtime.context.startedAt.asNanos
  · simp [handleEvent, CallContext.handle, early] at late
  · have handled := handle_of_onTime early event
    cases outcome : (runtime.context.lifecycle.handle event).2 with
    | ok actions =>
      rw [outcome] at handled
      simp [handleEvent_of_ok handled] at late
    | error error =>
      rw [outcome] at handled
      simp only [handleEvent_of_error handled, Prod.mk.injEq,
        Except.error.injEq, CallRuntimeError.context.injEq,
        CallContextError.lifecycle.injEq] at late
      rw [late.2]

section Outcomes

variable {runtime before : CallRuntime δ μ} {outcome : SignalingOutcome}

/-- The end of a call leaves nothing to execute and no media to apply. -/
theorem EndedBy.processOutcome {now : Duration}
    (ends : runtime.EndedBy outcome.event now) (plane : MediaPlane μ)
    (codec : MessageCodec) (grant : OutcomeGrant δ) :
    ∃ next actions, processOutcome plane codec outcome grant now runtime = (next, .ok actions) ∧
      next.context = (runtime.context.handle outcome.event now).1 := by
  obtain ⟨-, reason, handles⟩ := ends.handleEvent
  rw [CallRuntime.processOutcome, bind_of_ok handles]
  cases media : outcome.media with
  | none => exact ⟨_, _, rfl, rfl⟩
  | some answer => cases answer <;> exact ⟨_, _, rfl, rfl⟩

variable (plane : MediaPlane μ) (codec : MessageCodec) (now : Duration)

/-- The rest of a batch follows on its processed part. -/
theorem processOutcomes_append {earlier : List (SignalingOutcome × OutcomeGrant δ)}
    {actions : List CallAction}
    (processed : processOutcomes plane codec now earlier runtime = (before, .ok actions))
    (rest : List (SignalingOutcome × OutcomeGrant δ)) :
    processOutcomes plane codec now (earlier ++ rest) runtime =
      ((processOutcomes plane codec now rest before).1,
        (processOutcomes plane codec now rest before).2.map (actions ++ ·)) := by
  induction earlier generalizing runtime actions with
  | nil =>
    cases processed
    rw [List.nil_append]
    rcases processOutcomes plane codec now rest before with ⟨next, error | more⟩
    · rfl
    · rfl
  | cons numbered earlier ih =>
    simp only [processOutcomes, bind_eq_ok] at processed
    obtain ⟨middle, first, processes, next, others, processed, joined⟩ := processed
    cases joined
    rw [List.cons_append, processOutcomes, bind_of_ok processes, bind_apply, ih processed]
    rcases processOutcomes plane codec now rest before with ⟨next, error | more⟩
    · rfl
    · simp [Except.map, pure_apply]

/-- The outcomes of a poll with what their actions are granted. -/
def numbered
    (grants : Nat → OutcomeGrant δ)
    (outcomes : List SignalingOutcome) : List (SignalingOutcome × OutcomeGrant δ) :=
  outcomes.zipIdx.map fun numbered => (numbered.1, grants numbered.2)

/-- A poll comes to this outcome, with others left. -/
structure PollReaches
    (receipts : List (Datagram × Turn δ)) (grants : Nat → OutcomeGrant δ)
    (runtime before : CallRuntime δ μ) (outcome : SignalingOutcome)
    (later : List (SignalingOutcome × OutcomeGrant δ)) : Prop where
  installed : runtime.signalingInstalled = true
  reached : ∃ engine outcomes earlier grant actions,
    runtime.engine.poll codec receipts now = (engine, .ok outcomes) ∧
    numbered grants outcomes = earlier ++ (outcome, grant) :: later ∧
    processOutcomes plane codec now earlier { runtime with engine := engine } =
      (before, .ok actions)

/-- Whatever outcome of the poll ends the call, the poll finishes its batch and
leaves the call in the state of this end. -/
def PollAbsorbsEnd
    (receipts : List (Datagram × Turn δ)) (grants : Nat → OutcomeGrant δ)
    (runtime : CallRuntime δ μ) : Prop :=
  ∀ before outcome later, PollReaches plane codec now receipts grants runtime before outcome later →
    before.EndedBy outcome.event now → (∃ actions,
        (pollSignaling plane codec receipts grants now runtime).2 = .ok actions) ∧
      (pollSignaling plane codec receipts grants now
        runtime).1.context.lifecycle.state = before.stateAfter outcome.event now

/-- The outcome that ends the call is the last one of its poll. -/
def PollEndsLast
    (receipts : List (Datagram × Turn δ)) (grants : Nat → OutcomeGrant δ)
    (runtime : CallRuntime δ μ) : Prop :=
  ∀ before outcome later, PollReaches plane codec now receipts grants runtime before outcome later →
    before.EndedBy outcome.event now → later = []

variable {plane codec now}

/-- From the outcome that it reaches, a poll goes on with that outcome. -/
theorem PollReaches.pollSignaling
    {receipts : List (Datagram × Turn δ)} {grants : Nat → OutcomeGrant δ}
    {later : List (SignalingOutcome × OutcomeGrant δ)}
    (reaches : PollReaches plane codec now receipts grants runtime before outcome later) :
    ∃ grant actions, pollSignaling plane codec receipts grants now runtime =
      ((processOutcomes plane codec now ((outcome, grant) :: later) before).1,
        (processOutcomes plane codec now ((outcome, grant) :: later)
          before).2.map (actions ++ ·)) := by
  obtain ⟨installed, engine, outcomes, earlier, grant, actions, polled, split, processed⟩ := reaches
  refine ⟨grant, actions, ?_⟩
  rw [← processOutcomes_append plane codec now processed, ← split]
  have drained : (onEngine (SignalingEngine.poll codec receipts now) :
      Operation δ μ _) runtime = ({ runtime with engine := engine }, .ok outcomes) := by
    simp [onEngine, polled, Except.mapError]
  rw [CallRuntime.pollSignaling, bind_of_ok (read_apply CallRuntime.signalingInstalled runtime),
    if_pos installed, bind_of_ok drained]
  rfl

/-- Where the reached outcome ends the call, the poll returns when nothing is left
and fails otherwise. -/
theorem PollReaches.outcome_of_ends
    {receipts : List (Datagram × Turn δ)} {grants : Nat → OutcomeGrant δ}
    {later : List (SignalingOutcome × OutcomeGrant δ)}
    (reaches : PollReaches plane codec now receipts grants runtime before outcome later)
    (ends : before.EndedBy outcome.event now) :
    (later = [] ∧ (∃ actions, (CallRuntime.pollSignaling plane codec receipts grants now
        runtime).2 = .ok actions) ∧
      (CallRuntime.pollSignaling plane codec receipts grants now
        runtime).1.context.lifecycle.state = before.stateAfter outcome.event now) ∨
    (later ≠ [] ∧ (CallRuntime.pollSignaling plane codec receipts grants now runtime).2 =
        .error (.context (.lifecycle .alreadyEnded))) := by
  obtain ⟨grant, actions, continues⟩ := reaches.pollSignaling
  obtain ⟨next, produced, processes, context⟩ := ends.processOutcome plane codec grant
  rw [continues, processOutcomes, bind_of_ok processes]
  cases later with
  | nil =>
    exact .inl ⟨rfl, ⟨_, rfl⟩, congrArg (fun c => c.lifecycle.state) context⟩
  | cons following later =>
    have finished : next.isFinished = true := by
      rw [isFinished, context]
      exact ends.ended
    have onTime : ¬now.asNanos < next.context.startedAt.asNanos := by
      rw [context, handle_of_onTime ends.handleEvent.1]
      exact ends.handleEvent.1
    refine .inr ⟨by simp, ?_⟩
    have late : processOutcomes plane codec now (following :: later) next =
        (next, .error (.context (.lifecycle .alreadyEnded))) := by
      rw [processOutcomes, CallRuntime.processOutcome]
      exact bind_of_error (bind_of_error (handleEvent_of_finished finished onTime _) _) _
    rw [bind_of_error late]
    rfl

theorem pollAbsorbsEnd_iff
    (receipts : List (Datagram × Turn δ)) (grants : Nat → OutcomeGrant δ)
    (runtime : CallRuntime δ μ) :
    PollAbsorbsEnd plane codec now receipts grants runtime ↔
      PollEndsLast plane codec now receipts grants runtime := by
  constructor
  · intro absorbs before outcome later reaches ends
    obtain ⟨⟨actions, returned⟩, -⟩ := absorbs before outcome later reaches ends
    rcases reaches.outcome_of_ends ends with ⟨none, -⟩ | ⟨-, failed⟩
    · exact none
    · rw [failed] at returned
      cases returned
  · intro last before outcome later reaches ends
    rcases reaches.outcome_of_ends ends with ⟨-, absorbed⟩ | ⟨some, -⟩
    · exact absorbed
    · exact absurd (last before outcome later reaches ends) some

end Outcomes

section Deadlines

variable {grants : Nat → Nat → Grant δ}

variable {runtime before : CallRuntime δ μ} {turn : Nat} {event : CallEvent}

/-- One turn of the deadline loop reports an event. -/
structure Reports
    (grants : Nat → Nat → Grant δ) (now : Duration) (runtime : CallRuntime δ μ)
    (turn : Nat) (before : CallRuntime δ μ) (event : CallEvent) : Prop where
  inCycle : turn < maxDueDeadlinesPerCycle
  reported : ∃ reached actions polled due,
    dueTurns grants now turn runtime = (reached, .ok (actions, true)) ∧
    nextDue now reached = (polled, .ok (some due)) ∧
    deadlineEvent due (grants turn) now polled = (before, .ok (some event))

/-- Whatever due deadline ends the call, no later one fails the cycle for coming
late, and the call is left in the state of this end. -/
def DeadlinesAbsorbEnd
    (plane : MediaPlane μ) (grants : Nat → Nat → Grant δ) (now : Duration)
    (runtime : CallRuntime δ μ) : Prop :=
  ∀ turn before event, Reports grants now runtime turn before event → before.EndedBy event now →
      (processDueDeadlines plane grants now runtime).2 ≠
        .error (.context (.lifecycle .alreadyEnded)) ∧
      (processDueDeadlines plane grants now runtime).1.context.lifecycle.state =
        before.stateAfter event now

/-- The due deadline that ends the call is the last one that reports an event. -/
def DeadlinesEndLast
    (grants : Nat → Nat → Grant δ) (now : Duration) (runtime : CallRuntime δ μ) : Prop :=
  ∀ turn before event, Reports grants now runtime turn before event →
    before.EndedBy event now → ∀ later, turn < later →
        ∀ next other, ¬Reports grants now runtime later next other

/-- Finding the event of a deadline does not fail for coming late. -/
theorem raisesOnly_deadlineEvent (due : DueDeadline) (grants : Nat → Grant δ) :
    Effect.RaisesOnly (fun error => ∀ cause, error ≠ .context cause)
      (deadlineEvent due grants now : Operation δ μ (Option CallEvent)) := by
  unfold deadlineEvent
  split
  · refine (raisesOnly_read _).bind fun installed => ?_
    split
    · exact raisesOnly_mapError (by simp) _
    · exact raisesOnly_fail (by simp)
  · split
    · exact raisesOnly_fail (by simp)
    · unfold callDeadline
      split
      · exact raisesOnly_pure _
      · exact raisesOnly_pure _
      · exact raisesOnly_pure _
      · refine (raisesOnly_read _).bind fun transfer => ?_
        split
        · exact raisesOnly_fail (by simp)
        · refine (raisesOnly_modify _).bind fun _ => ?_
          exact raisesOnly_pure _
      · refine (raisesOnly_read _).bind fun timer => ?_
        split
        · exact raisesOnly_fail (by simp)
        · split
          · exact raisesOnly_pure _
          · exact raisesOnly_fail (by simp)
          · refine (raisesOnly_modify _).bind fun _ => ?_
            exact raisesOnly_fail (by split_ifs <;> simp)
  · exact raisesOnly_fail (by simp)

/-- The event of a turn is handed to the lifecycle. -/
theorem dueTurns_of_report
    {reached polled : CallRuntime δ μ} {earlier : List CallAction} {due : DueDeadline}
    (turned : dueTurns grants now turn runtime = (reached, .ok (earlier, true)))
    (found : nextDue now reached = (polled, .ok (some due)))
    (reported : deadlineEvent due (grants turn) now polled = (before, .ok (some event))) :
    dueTurns grants now (turn + 1) runtime = ((handleEvent event now before).1,
        (handleEvent event now before).2.map fun actions =>
          (earlier ++ actions, due.owner = .transaction ||
            !(handleEvent event now before).1.isFinished)) := by
  rw [dueTurns, bind_of_ok turned]
  simp only [↓reduceIte]
  have turns : dueTurn (grants turn) now reached = ((handleEvent event now before).1,
        (handleEvent event now before).2.map fun actions =>
          (actions, due.owner = .transaction || !(handleEvent event now before).1.isFinished)) := by
    rw [dueTurn, bind_of_ok found]
    simp only
    rw [bind_of_ok reported]
    simp only
    rcases handled : handleEvent event now before with ⟨next, error | actions⟩
    · exact bind_of_error handled _
    · exact bind_of_ok handled _
  rw [bind_apply, turns]
  rcases handleEvent event now before with ⟨next, error | actions⟩
  · rfl
  · rfl

/-- A turn on a call that has ended leaves its lifecycle alone. -/
theorem keeps_context_dueTurn
    {context : CallContext} (terminal : context.lifecycle.state.isTerminal = true)
    (turnGrants : Nat → Grant δ) :
    Effect.Keeps (fun runtime : CallRuntime δ μ => runtime.context = context)
      (dueTurn turnGrants now) := by
  have handles (event : CallEvent) :
      Effect.Keeps (fun runtime : CallRuntime δ μ => runtime.context = context)
        (handleEvent event now) := by
    rintro runtime rfl
    have finished : runtime.isFinished = true := terminal
    by_cases early : now.asNanos < runtime.context.startedAt.asNanos
    · simp [handleEvent, CallContext.handle, early]
    · rw [handleEvent_of_finished finished early]
  have finds : Effect.Keeps (fun runtime : CallRuntime δ μ =>
      runtime.context = context) (nextDue now) := fun _ same => same
  refine finds.bind fun due => ?_
  split
  · exact keeps_pure _
  · refine (keeps_deadlineEvent (fun _ _ _ same => same) (fun _ _ same => same)
      (fun _ _ same => same) _ turnGrants).bind fun event => ?_
    split
    · exact (keeps_pure _).bind fun _ => (keeps_read _).bind fun _ =>
        keeps_pure _
    · exact (handles _).bind fun _ => (keeps_read _).bind fun _ =>
        keeps_pure _

/-- Once the call has ended, further turns leave its lifecycle alone. -/
theorem context_dueTurns_of_finished {turns : Nat}
    (finished : (dueTurns grants now turns runtime).1.isFinished = true) (more : Nat) :
    (dueTurns grants now (turns + more) runtime).1.context =
      (dueTurns grants now turns runtime).1.context := by
  induction more with
  | zero => rfl
  | succ more ih =>
    rw [← Nat.add_assoc, dueTurns, bind_apply]
    rcases turned : dueTurns grants now (turns + more) runtime with
      ⟨reached, error | ⟨earlier, goesOn⟩⟩
    · rw [turned] at ih
      exact ih
    · rw [turned] at ih
      cases goesOn with
      | false => exact ih
      | true =>
        refine ((keeps_context_dueTurn finished _).bind fun _ =>
          keeps_pure _) reached ih

/-- A failed turn fails all further ones. -/
theorem dueTurns_of_error
    {next : CallRuntime δ μ} {turns : Nat} {error : CallRuntimeError}
    (failed : dueTurns grants now turns runtime = (next, .error error)) (more : Nat) :
    dueTurns grants now (turns + more) runtime = (next, .error error) := by
  induction more with
  | zero => exact failed
  | succ more ih =>
    rw [← Nat.add_assoc, dueTurns, bind_of_error ih]

/-- A turn fails for coming late only where it reports an event to a call that
has ended. -/
theorem reports_of_late_turn
    {reached : CallRuntime δ μ} {turnGrants : Nat → Grant δ}
    (late : (dueTurn turnGrants now reached).2 = .error (.context (.lifecycle .alreadyEnded))) :
    ∃ polled due before event, nextDue now reached = (polled, .ok (some due)) ∧
      deadlineEvent due turnGrants now polled = (before, .ok (some event)) ∧
      before.isFinished = true := by
  rcases found : nextDue now reached with ⟨polled, error | due⟩
  · cases found
  rw [dueTurn, bind_of_ok found] at late
  cases due with
  | none => cases late
  | some due =>
    simp only at late
    rcases reported : deadlineEvent due turnGrants now polled with
      ⟨before, error | event⟩
    · rw [bind_of_error reported] at late
      cases late
      exact absurd rfl (raisesOnly_deadlineEvent due turnGrants polled _ (by rw [reported]) _)
    rw [bind_of_ok reported] at late
    cases event with
    | none => cases late
    | some event =>
      refine ⟨polled, due, before, event, rfl, reported, ?_⟩
      rcases handled : handleEvent event now before with ⟨next, error | actions⟩
      · simp only [bind_of_error handled] at late
        cases late
        exact finished_of_late handled
      · simp only [bind_of_ok handled] at late
        cases late

/-- Turns fail for coming late only where one of them reports an event to a call
that has ended. -/
theorem reports_of_late {turns : Nat} (inCycle : turns ≤ maxDueDeadlinesPerCycle)
    (late : (dueTurns grants now turns runtime).2 = .error (.context (.lifecycle .alreadyEnded))) :
    ∃ turn before event, Reports grants now runtime turn before event ∧
      before.isFinished = true := by
  induction turns with
  | zero => cases late
  | succ turns ih =>
    rcases turned : dueTurns grants now turns runtime with
      ⟨reached, error | ⟨earlier, goesOn⟩⟩
    · rw [dueTurns, bind_of_error turned] at late
      cases late
      exact ih (by omega) (by rw [turned])
    rw [dueTurns, bind_of_ok turned] at late
    cases goesOn with
    | false => cases late
    | true =>
      have turnLate : (dueTurn (grants turns) now reached).2 =
          .error (.context (.lifecycle .alreadyEnded)) := by
        simp only [↓reduceIte, bind_apply] at late
        rcases turns : dueTurn (grants turns) now reached with
          ⟨next, error | actions⟩
        · rw [turns] at late
          exact late
        · rw [turns] at late
          cases late
      obtain ⟨polled, due, before, event, found, reported, finished⟩ :=
        reports_of_late_turn turnLate
      exact ⟨turns, before, event, ⟨by omega, reached, earlier, polled, due,
        turned, found, reported⟩, finished⟩

/-- The end of a cycle does not fail for coming late. -/
theorem raisesOnly_finishCycle
    (plane : MediaPlane μ) (actions : List CallAction) :
    Effect.RaisesOnly (fun error => ∀ cause, error ≠ .context cause)
      (finishCycle plane actions now : Operation δ μ (List CallAction)) := by
  have ticks : Effect.RaisesOnly (fun error => ∀ cause, error ≠ .context cause)
      (onMedia (plane.processClock now) : Operation δ μ Unit) := by
    intro runtime error raised
    simp only [onMedia] at raised
    split_ifs at raised
    cases raised
    simp
  have forces : Effect.RaisesOnly (fun error => ∀ cause, error ≠ .context cause)
      (forceEnd .localHangup : Operation δ μ (List CallAction)) := by
    intro runtime error raised
    cases raised
  refine ticks.bind fun _ => (raisesOnly_read _).bind fun _ =>
    (raisesOnly_read _).bind fun _ => ?_
  split_ifs
  · exact forces.bind fun _ => raisesOnly_pure _
  · exact raisesOnly_pure _

/-- The end of a cycle leaves a call that has ended alone. -/
theorem context_finishCycle_of_finished
    (plane : MediaPlane μ) (actions : List CallAction) (finished : runtime.isFinished = true) :
    (finishCycle plane actions now runtime).1.context = runtime.context := by
  rw [finishCycle, bind_apply, onMedia]
  rcases plane.processClock now runtime.media with ⟨media, _ | _⟩
  · rfl
  · have stays : ({ runtime with media := media } : CallRuntime δ μ).isFinished = true := finished
    simp [bind_apply, stays, pure_apply]

/-- A cycle fails for coming late exactly when its turns do. -/
theorem late_processDueDeadlines_iff
    (plane : MediaPlane μ) (runtime : CallRuntime δ μ) :
    (processDueDeadlines plane grants now runtime).2 =
        .error (.context (.lifecycle .alreadyEnded)) ↔
      (dueTurns grants now maxDueDeadlinesPerCycle runtime).2 =
        .error (.context (.lifecycle .alreadyEnded)) := by
  rcases turned : dueTurns grants now maxDueDeadlinesPerCycle runtime with
    ⟨reached, error | ⟨actions, goesOn⟩⟩
  · rw [processDueDeadlines, bind_of_error turned]
    simp
  · rw [processDueDeadlines, bind_of_ok turned]
    constructor
    · intro late
      exact absurd rfl (raisesOnly_finishCycle plane actions reached _ late _)
    · intro late
      cases late

/-- A cycle leaves a call that ends in its turns in the state of that end. -/
theorem context_processDueDeadlines_of_finished
    (plane : MediaPlane μ)
    (finished : (dueTurns grants now maxDueDeadlinesPerCycle runtime).1.isFinished = true) :
    (processDueDeadlines plane grants now runtime).1.context =
      (dueTurns grants now maxDueDeadlinesPerCycle runtime).1.context := by
  rcases turned : dueTurns grants now maxDueDeadlinesPerCycle runtime with
    ⟨reached, error | ⟨actions, goesOn⟩⟩
  · rw [processDueDeadlines, bind_of_error turned]
  · rw [turned] at finished
    rw [processDueDeadlines, bind_of_ok turned]
    exact context_finishCycle_of_finished plane actions finished

/-- The event of a turn is found with the lifecycle that the turn began with. -/
theorem Reports.before_context
    (reports : Reports grants now runtime turn before event) :
    before.context = (dueTurns grants now turn runtime).1.context := by
  obtain ⟨-, reached, earlier, polled, due, turned, found, reported⟩ := reports
  have keeps : Effect.Keeps (fun runtime : CallRuntime δ μ => runtime.context = reached.context)
      (deadlineEvent due (grants turn) now) :=
    keeps_deadlineEvent (fun _ _ _ same => same) (fun _ _ same => same)
      (fun _ _ same => same) due (grants turn)
  have same := keeps polled (congrArg (fun result => result.1.context) found).symm
  rw [reported] at same
  rw [turned]
  exact same

/-- An event that is reported to a call that has ended fails the cycle. -/
theorem Reports.late_of_finished
    (reports : Reports grants now runtime turn before event) (finished : before.isFinished = true)
    (onTime : ¬now.asNanos < before.context.startedAt.asNanos) :
    (dueTurns grants now maxDueDeadlinesPerCycle runtime).2 =
      .error (.context (.lifecycle .alreadyEnded)) := by
  obtain ⟨inCycle, reached, earlier, polled, due, turned, found, reported⟩ := reports
  have failed := dueTurns_of_report turned found reported
  rw [handleEvent_of_finished finished onTime] at failed
  obtain ⟨more, rest⟩ := Nat.exists_eq_add_of_lt inCycle
  rw [rest, Nat.add_right_comm, dueTurns_of_error failed more]

/-- After the turn whose event ends the call, the call has the state of that
end. -/
theorem Reports.context_of_ends
    (reports : Reports grants now runtime turn before event) (ends : before.EndedBy event now) :
    ∀ turns, turn < turns → (dueTurns grants now turns runtime).1.context =
        (before.context.handle event now).1 := by
  obtain ⟨-, reached, earlier, polled, due, turned, found, reported⟩ := reports
  obtain ⟨-, reason, handles⟩ := ends.handleEvent
  have next := dueTurns_of_report turned found reported
  rw [handles] at next
  intro turns after
  have context : (dueTurns grants now (turn + 1) runtime).1.context =
      (before.context.handle event now).1 := by
    rw [next]
    rfl
  obtain ⟨more, rfl⟩ := Nat.exists_eq_add_of_lt after
  rw [Nat.add_right_comm, context_dueTurns_of_finished ?_ more, context]
  rw [isFinished, context]
  exact ends.ended

theorem deadlinesAbsorbEnd_iff
    (plane : MediaPlane μ) (runtime : CallRuntime δ μ) :
    DeadlinesAbsorbEnd plane grants now runtime ↔ DeadlinesEndLast grants now runtime := by
  constructor
  · intro absorbs turn before event reports ends later after next other late
    apply (absorbs turn before event reports ends).1
    have context : next.context = (before.context.handle event now).1 := by
      rw [late.before_context, (reports.context_of_ends ends) later after]
    rw [late_processDueDeadlines_iff]
    refine late.late_of_finished ?_ ?_
    · rw [isFinished, context]
      exact ends.ended
    · rw [context, handle_of_onTime ends.handleEvent.1]
      exact ends.handleEvent.1
  · intro last turn before event reports ends
    have ended := reports.context_of_ends ends _ reports.inCycle
    have finished : (dueTurns grants now maxDueDeadlinesPerCycle runtime).1.isFinished = true := by
      rw [isFinished, ended]
      exact ends.ended
    refine ⟨fun late => ?_, ?_⟩
    · rw [late_processDueDeadlines_iff] at late
      obtain ⟨other, middle, cause, others, done⟩ := reports_of_late (Nat.le_refl _) late
      rcases Nat.lt_or_ge turn other with after | before'
      · exact last turn before event reports ends other after middle cause others
      · -- no event is reported to an ended call before the end
        obtain ⟨more, rfl⟩ := Nat.exists_eq_add_of_le before'
        rw [isFinished, others.before_context] at done
        have live := ends.live
        rw [isFinished, reports.before_context,
          context_dueTurns_of_finished done more, done] at live
        cases live
    · rw [context_processDueDeadlines_of_finished plane finished, ended]
      rfl

end Deadlines

/-- For every runtime: a poll finishes the batch in which the call ends, and a
cycle of due deadlines is not failed by what is due after the end, exactly when
the outcome, or the deadline, that ends the call is the last one of its batch that
reports an event. -/
theorem late_events_harmless_iff
    (plane : MediaPlane μ) (codec : MessageCodec) (now : Duration) (runtime : CallRuntime δ μ) :
    (∀ (receipts : List (Datagram × Turn δ)) (grants : Nat → OutcomeGrant δ),
      PollAbsorbsEnd plane codec now receipts grants runtime ↔
        PollEndsLast plane codec now receipts grants runtime) ∧
    (∀ grants : Nat → Nat → Grant δ, DeadlinesAbsorbEnd plane grants now runtime ↔
        DeadlinesEndLast grants now runtime) :=
  ⟨fun receipts grants => pollAbsorbsEnd_iff receipts grants runtime,
    fun _ => deadlinesAbsorbEnd_iff plane runtime⟩

/-- A sample call that was hung up while its INVITE was out. -/
def cancelledRuntime : Option (CallRuntime Unit Unit) :=
  (idleRuntime none).map fun runtime => runtime.after sampleMedia sampleCodec
    [(.fromSecs 1, sampleEvent (.command .start)), (.fromSecs 2, sampleEvent (.command .hangup))]

/-- The 487 to its INVITE, followed by the 200 to its CANCEL. -/
def cancelAnswers : List (Datagram × Turn Unit) :=
  [(.response (sampleInbound inviteRequest.topmostVia ⟨1, .invite⟩
      ⟨487, by decide, by decide⟩ tagB), sampleTurn),
    (.response (sampleInbound inviteRequest.topmostVia ⟨1, .cancel⟩ .ok tagB), sampleTurn)]

/-- The requests that those answers call for, with everything granted. -/
def cancelGrants : Nat → OutcomeGrant Unit := fun _ =>
  ⟨fun _ => sampleStart "z9hG4bK-two", fun _ => sampleStart "z9hG4bK-three"⟩

/-- When the 487 and the 200 that answer a hangup arrive together, the 487 ends
the call and the 200 fails the poll. -/
theorem cancel_answer_fails_poll :
    ∃ runtime, cancelledRuntime = some runtime ∧
      ¬PollAbsorbsEnd sampleMedia sampleCodec (.fromSecs 3) cancelAnswers cancelGrants runtime ∧
      (pollSignaling sampleMedia sampleCodec cancelAnswers cancelGrants (.fromSecs 3)
        runtime).2 = .error (.context (.lifecycle .alreadyEnded)) := by
  refine ⟨_, rfl, fun absorbs => ?_, rfl⟩
  obtain ⟨⟨actions, returned⟩, -⟩ := absorbs _
    ⟨.inviteRejected (branchOfTag tagB) 487, none⟩
    [(⟨.cancelAccepted, none⟩, cancelGrants 1)]
    ⟨rfl, _, [⟨.inviteRejected (branchOfTag tagB) 487, none⟩,
      ⟨.cancelAccepted, none⟩], [], cancelGrants 0, [], rfl, rfl, rfl⟩ ⟨rfl, rfl⟩
  cases returned

end CallRuntime
end Call
end LiveAISIP
