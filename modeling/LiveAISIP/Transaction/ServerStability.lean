import LiveAISIP.Library.Run
import LiveAISIP.Transaction.Server

/-!
# Stability of the final response

Which response bytes a server transaction sends and replays after its first
final response.  The machine takes a further final response in its completed
state, and the stored bytes are then replaced.
-/

namespace LiveAISIP
namespace Transaction

open Sip
open ServerMachine ServerOutput

namespace ServerTransaction

variable {tx : ServerTransaction} {input : ServerInput}

/-- The transaction takes this response. -/
def Takes (tx : ServerTransaction) (status : StatusCode) (bytes : Bytes) : Prop :=
  tx.started = true ∧ bytes ≠ [] ∧ ∃ state, tx.machine.next status = .ok state

/-- What no operation changes. -/
structure SameIdentity (tx after : ServerTransaction) : Prop where
  kind : after.kind = tx.kind
  started : tx.started = true → after.started = true

/-- What an input can do to the state and the stored response, with the
response bytes it sends or replays. -/
inductive StepEffect (tx : ServerTransaction) : ServerInput → ServerTransaction → List Bytes → Prop
  | sent
      {status : StatusCode} {bytes : Bytes} {next : ServerState}
      {after : ServerTransaction}
      (same : SameIdentity tx after)
      (takes : tx.Takes status bytes)
      (taken : tx.machine.next status = .ok next)
      (stored : after.lastResponse = some bytes)
      (entered : after.state = next ∨ (next = .completed ∧ after.state = .terminated)) :
      StepEffect tx (.sendResponse status bytes) after [bytes]
  | trying
      {after : ServerTransaction} {carried : List Bytes}
      (same : SameIdentity tx after)
      (before : tx.state = .proceeding)
      (still : after.state = .proceeding) :
      StepEffect tx (.timer .trying) after carried
  | quiet
      {input : ServerInput} {after : ServerTransaction} {carried : List Bytes}
      (same : SameIdentity tx after)
      (kept : after.lastResponse = tx.lastResponse)
      (replayed : ∀ bytes ∈ carried, tx.lastResponse = some bytes)
      (state : after.state = tx.state ∨ (tx.state ≠ .proceeding ∧
          (after.state = .confirmed ∨ after.state = .terminated))) :
      StepEffect tx input after carried

theorem StepEffect.same
    {after : ServerTransaction} {carried : List Bytes}
    (effect : StepEffect tx input after carried) :
    SameIdentity tx after := by
  cases effect <;> assumption

/-- An input without effect. -/
theorem StepEffect.idle
    (tx : ServerTransaction) (input : ServerInput) :
    StepEffect tx input tx [] :=
  .quiet ⟨rfl, id⟩ rfl (by simp) (.inl rfl)

@[simp] theorem carried_transmission (tx : ServerTransaction) (bytes : Bytes) :
    (tx.transmission bytes).filterMap ServerAction.carried = [bytes] := by
  unfold transmission
  cases tx.machineKind <;> rfl

theorem onTerminationTimeout_eq
    (final : tx.state = .completed ∨ tx.state = .confirmed ∨ tx.state = .accepted) :
    tx.machine.onTerminationTimeout = .ok ⟨tx.machine.kind, .terminated⟩ := by
  unfold onTerminationTimeout
  rcases final with state | state | state <;>
    rw [show tx.machine.state = _ from state]

/-- Entering a final state stores and sends nothing. -/
theorem enterFinal_effect
    (tx : ServerTransaction) (final : tx.state = .completed ∨ tx.state = .accepted) :
    ∃ after actions, tx.enterFinal = (after, .ok actions) ∧
      SameIdentity tx after ∧ actions.filterMap ServerAction.carried = [] ∧
      after.lastResponse = tx.lastResponse ∧
      (after.state = tx.state ∨ (tx.state = .completed ∧ after.state = .terminated)) := by
  unfold enterFinal
  cases family : tx.machineKind with
  | invite =>
    rcases final with state | state <;> rw [state]
    · refine ⟨_, _, rfl, ⟨rfl, id⟩, ?_, rfl, .inl state⟩
      cases tx.reliable <;> cases tx.nextRetransmit <;> rfl
    · exact ⟨_, _, rfl, ⟨rfl, id⟩, rfl, rfl, .inl state⟩
  | nonInvite =>
    rcases final with state | state <;> rw [state]
    · cases tx.profile.serverNonInviteLifetime with
      | some delay => exact ⟨_, _, rfl, ⟨rfl, id⟩, rfl, rfl, .inl state⟩
      | none =>
        simp only [onTerminationTimeout_eq (.inl state)]
        exact ⟨_, _, rfl, ⟨rfl, id⟩, rfl, rfl, .inr ⟨trivial, rfl⟩⟩
    · exact ⟨_, _, rfl, ⟨rfl, id⟩, rfl, rfl, .inl state⟩

/-- A response that is taken is stored and sent. -/
theorem sendResponse_taken {status : StatusCode} {bytes : Bytes}
    {next : ServerState} (started : tx.started = true) (nonempty : bytes ≠ [])
    (taken : tx.machine.next status = .ok next) :
    ∃ after actions, tx.sendResponse status bytes = (after, .ok actions) ∧ SameIdentity tx after ∧
      actions.filterMap ServerAction.carried = [bytes] ∧
      after.lastResponse = some bytes ∧
      (after.state = next ∨ (next = .completed ∧ after.state = .terminated)) := by
  have moved : tx.machine.onResponse status = .ok ⟨tx.machine.kind, next⟩ := by
    simp [onResponse, taken]
  rw [sendResponse, if_neg (not_not.mpr started), if_neg nonempty, moved]
  by_cases enters : next ≠ tx.state ∧ (next = .completed ∨ next = .accepted)
  · simp only [if_pos enters]
    obtain ⟨after, actions, entered, same, silent, kept, state⟩ := enterFinal_effect
      { tx with
        machine := ⟨tx.machine.kind, next⟩
        lastResponse := some bytes } enters.2
    rw [entered]
    exact ⟨after, _, rfl, ⟨same.kind, same.started⟩, by simp [silent], kept, state⟩
  · simp only [if_neg enters]
    exact ⟨_, _, rfl, ⟨rfl, id⟩, by simp, rfl, .inl rfl⟩

/-- A response that is not taken changes nothing. -/
theorem sendResponse_refused {status : StatusCode} {bytes : Bytes}
    (refused : ¬tx.Takes status bytes) :
    ∃ error, tx.sendResponse status bytes = (tx, .error error) := by
  unfold sendResponse
  by_cases started : tx.started = true
  · rw [if_neg (not_not.mpr started)]
    by_cases empty : bytes = []
    · exact ⟨_, if_pos empty⟩
    · rw [if_neg empty]
      cases taken : tx.machine.next status with
      | error error => exact ⟨_, by simp [onResponse, taken]; rfl⟩
      | ok next => exact absurd ⟨started, empty, next, taken⟩ refused
  · exact ⟨_, if_pos started⟩

/-- An ACK stores and sends nothing. -/
theorem onAck_effect (tx : ServerTransaction) :
    StepEffect tx .ack (tx.step .ack).1 (tx.step .ack).2.carried := by
  simp only [step, answered, onAck]
  by_cases started : tx.started = true
  · rw [if_neg (not_not.mpr started)]
    by_cases refused : tx.machine.kind ≠ .invite ∨ tx.machine.state ≠ .completed
    · simp only [ServerMachine.onAck, if_pos refused]
      exact .idle tx .ack
    · have completed : tx.state = .completed := not_not.mp (not_or.mp refused).2
      have left : tx.state ≠ .proceeding := by simp [completed]
      simp only [ServerMachine.onAck, if_neg refused]
      cases tx.profile.confirmedInviteLinger with
      | some delay =>
        exact .quiet ⟨rfl, id⟩ rfl (by simp [carried, ServerAction.carried])
          (.inr ⟨left, .inl rfl⟩)
      | none =>
        exact .quiet ⟨rfl, id⟩ rfl (by simp [carried, ServerAction.carried,
          onTerminationTimeout]) (.inr ⟨left, .inr rfl⟩)
  · rw [if_pos started]
    exact .idle tx .ack

/-- The end of a final state stores and sends nothing. -/
theorem onTermination_effect {actions : List ServerAction} (input : ServerInput)
    (final : tx.state = .completed ∨ tx.state = .confirmed ∨ tx.state = .accepted)
    (silent : actions.filterMap ServerAction.carried = []) :
    StepEffect tx input (tx.onTermination actions).1
      (ServerOutput.outcome (tx.onTermination actions).2).carried := by
  have left : tx.state ≠ .proceeding := by
    rcases final with state | state | state <;> simp [state]
  simp only [onTermination, onTerminationTimeout_eq final]
  exact .quiet ⟨rfl, id⟩ rfl (by simp [carried, silent]) (.inr ⟨left, .inr rfl⟩)

/-- The automatic response leaves the proceeding state as it is. -/
theorem onTrying_effect (proceeding : tx.state = .proceeding) :
    SameIdentity tx tx.onTrying.1 ∧ tx.onTrying.1.state = .proceeding := by
  have next : tx.machine.next .trying = .ok .proceeding := by
    unfold ServerMachine.next
    rw [show tx.machine.state = _ from proceeding]
    cases tx.machine.kind <;> rfl
  unfold onTrying
  cases tx.automaticTrying with
  | none => exact ⟨⟨rfl, id⟩, proceeding⟩
  | some response =>
    simp only [onResponse, next]
    exact ⟨⟨rfl, id⟩, rfl⟩

/-- A timer sends the stored response, or the automatic one while no response
was sent. -/
theorem onTimer_effect (tx : ServerTransaction) (timer : ServerTimer) :
    StepEffect tx (.timer timer) (tx.step (.timer timer)).1 (tx.step (.timer timer)).2.carried := by
  simp only [step, answered, onTimer]
  by_cases started : tx.started = true
  · rw [if_neg (not_not.mpr started)]
    cases timer with
    | trying =>
      simp only
      split_ifs with due
      · obtain ⟨same, still⟩ := onTrying_effect due.2.1
        exact .trying same due.2.1 still
      · exact .idle tx _
    | retransmit =>
      simp only
      split_ifs with due
      · unfold onRetransmit
        cases stored : tx.lastResponse with
        | none => exact .idle tx _
        | some response =>
          cases tx.nextRetransmit with
          | none => exact .idle tx _
          | some current =>
            simp only
            cases tx.profile.nextInviteServerRetransmit current with
            | none => exact .idle tx _
            | some next =>
              exact .quiet ⟨rfl, id⟩ stored.symm
                (by simp [carried, ServerAction.carried, stored]) (.inl rfl)
      · exact .idle tx _
    | finalResponseLifetime =>
      simp only
      split_ifs with due
      · exact onTermination_effect _ (due.imp_right .inr) rfl
      · exact .idle tx _
    | termination =>
      simp only
      split_ifs with due
      · exact onTermination_effect _ (due.imp_right .inl) rfl
      · exact .idle tx _
  · rw [if_pos started]
    exact .idle tx _

/-- Every input has one of the effects above. -/
theorem step_effect (tx : ServerTransaction) (input : ServerInput) :
    StepEffect tx input (tx.step input).1 (tx.step input).2.carried := by
  cases input with
  | start =>
    simp only [step, answered, start]
    split_ifs
    · exact .idle tx _
    · refine .quiet ⟨rfl, fun _ => rfl⟩ rfl ?_ (.inl rfl)
      cases tx.machineKind <;> simp [ServerOutput.carried, ServerAction.carried]
  | duplicateRequest =>
    refine .quiet ⟨rfl, id⟩ rfl ?_ (.inl rfl)
    simp only [step, onDuplicateRequest]
    cases tx.state <;> cases stored : tx.lastResponse <;>
      simp [ServerOutput.carried]
  | ack => exact tx.onAck_effect
  | timer timer => exact tx.onTimer_effect timer
  | sendResponse status bytes =>
    by_cases takes : tx.Takes status bytes
    · obtain ⟨started, nonempty, next, taken⟩ := id takes
      obtain ⟨after, actions, sent, same, carried, stored, entered⟩ :=
        sendResponse_taken started nonempty taken
      simp only [step, answered, sent, ServerOutput.carried, carried]
      exact .sent same takes taken stored entered
    · obtain ⟨error, refused⟩ := sendResponse_refused takes
      simp only [step, answered, refused]
      exact .idle tx _

/-- Nothing but its start happens to a transaction that is not started. -/
theorem state_step_of_unstarted (unstarted : ¬tx.started = true) (input : ServerInput) :
    (tx.step input).1.state = tx.state := by
  cases input with
  | start =>
    simp only [step, answered, start, if_neg unstarted]
    rfl
  | sendResponse status bytes => simp [step, answered, sendResponse, unstarted]
  | duplicateRequest => rfl
  | ack => simp [step, answered, onAck, unstarted]
  | timer timer => simp [step, answered, onTimer, unstarted]

/-- The transaction after a run of inputs. -/
def after (tx : ServerTransaction) (inputs : List ServerInput) : ServerTransaction :=
  Run.after step tx inputs

@[simp] theorem after_concat
    (tx : ServerTransaction) (inputs : List ServerInput) (last : ServerInput) :
    tx.after (inputs ++ [last]) = ((tx.after inputs).step last).1 := by
  simp [after]

/-- No input changes the identity of a transaction. -/
theorem sameIdentity_step (tx : ServerTransaction) (input : ServerInput) :
    SameIdentity tx (tx.step input).1 :=
  (tx.step_effect input).same

/-- A run keeps the identity of the transaction. -/
theorem sameIdentity_after (tx : ServerTransaction) (inputs : List ServerInput) :
    SameIdentity tx (tx.after inputs) :=
  Run.invariant (SameIdentity tx) ⟨rfl, id⟩
    (fun later input kept =>
      have same := later.sameIdentity_step input
      ⟨same.kind.trans kept.kind, same.started ∘ kept.started⟩) inputs

/-- The bytes of a final response that the transaction accepts: any final one
for a non-INVITE, a non-2xx one for an INVITE. -/
def concludes (tx : ServerTransaction) : ServerInput → Option Bytes
  | .sendResponse status bytes =>
    match (tx.sendResponse status bytes).2 with
    | .ok _ => if Conclusive tx.kind status then some bytes else none
    | .error _ => none
  | _ => none

/-- The first final response of a run. -/
def firstFinal (tx : ServerTransaction) (inputs : List ServerInput) : Option Bytes :=
  Run.first concludes step tx inputs

theorem firstFinal_concat
    (tx : ServerTransaction) (inputs : List ServerInput) (last : ServerInput) :
    tx.firstFinal (inputs ++ [last]) =
      (tx.firstFinal inputs).or ((tx.after inputs).concludes last) :=
  Run.first_concat ..

/-- The states that follow a final response. -/
def IsSettled (state : ServerState) : Prop :=
  state = .completed ∨ state = .confirmed ∨ state = .terminated

/-- A final response concludes the transaction when it is taken. -/
theorem concludes_eq_some_iff
    (tx : ServerTransaction) (input : ServerInput) (bytes : Bytes) :
    tx.concludes input = some bytes ↔ ∃ status, input = .sendResponse status bytes ∧
        Conclusive tx.kind status ∧ tx.Takes status bytes := by
  constructor
  · intro concluded
    cases input with
    | start | duplicateRequest | ack | timer => cases concluded
    | sendResponse status sent =>
      by_cases takes : tx.Takes status sent
      · obtain ⟨after, actions, accepted, -⟩ :=
          sendResponse_taken takes.1 takes.2.1 takes.2.2.choose_spec
        simp only [concludes, accepted] at concluded
        split_ifs at concluded with conclusive
        cases concluded
        exact ⟨status, rfl, conclusive, takes⟩
      · obtain ⟨error, refused⟩ := sendResponse_refused takes
        simp [concludes, refused] at concluded
  · rintro ⟨status, rfl, conclusive, started, nonempty, next, taken⟩
    obtain ⟨after, actions, accepted, -⟩ := sendResponse_taken started nonempty taken
    simp [concludes, accepted, conclusive]

/-- A final response is stored and settles the transaction. -/
theorem concludes_effect {bytes : Bytes}
    (concluded : tx.concludes input = some bytes) :
    IsSettled (tx.step input).1.state ∧ (tx.step input).1.lastResponse = some bytes := by
  obtain ⟨status, rfl, conclusive, started, nonempty, next, taken⟩ :=
    (tx.concludes_eq_some_iff input bytes).mp concluded
  obtain ⟨after, actions, accepted, -, -, stored, entered⟩ :=
    sendResponse_taken started nonempty taken
  have completed : next = .completed := (next_eq_ok taken).1.mpr conclusive
  simp only [step, answered, accepted]
  refine ⟨?_, stored⟩
  rcases entered with state | ⟨-, state⟩
  · exact .inl (state.trans completed)
  · exact .inr (.inr state)

/-- A settled transaction stays settled.  A response it takes is a final one,
in the completed state; every other input replays what is stored. -/
theorem settled_effect (settled : IsSettled tx.state) (input : ServerInput) :
    IsSettled (tx.step input).1.state ∧ ((∃ status bytes, input = .sendResponse status bytes ∧
          tx.state = .completed ∧ Conclusive tx.kind status ∧ bytes ≠ [] ∧
          (tx.step input).1.lastResponse = some bytes ∧
          (tx.step input).2.carried = [bytes]) ∨
        ((tx.step input).1.lastResponse = tx.lastResponse ∧
          ∀ bytes ∈ (tx.step input).2.carried, tx.lastResponse = some bytes)) := by
  have notProceeding : tx.state ≠ .proceeding := by
    rcases settled with state | state | state <;> simp [state]
  have effect := tx.step_effect input
  generalize (tx.step input).1 = after, (tx.step input).2.carried = carried at effect ⊢
  cases effect with
  | sent same takes taken stored entered =>
    obtain ⟨completes, origin⟩ := next_eq_ok taken
    obtain ⟨origin, final⟩ := origin.resolve_left notProceeding
    have completed : tx.state = .completed := by
      rcases final with accepted | completed
      · have state : tx.state = .accepted := origin.trans accepted
        rcases settled with other | other | other <;> simp [state] at other
      · exact origin.trans completed
    have next := origin.symm.trans completed
    refine ⟨?_, .inl ⟨_, _, rfl, completed, completes.mp next, takes.2.1, stored, rfl⟩⟩
    rcases entered with state | ⟨-, state⟩
    · exact .inl (state.trans next)
    · exact .inr (.inr state)
  | trying same before still => exact absurd before notProceeding
  | quiet same kept replayed state =>
    refine ⟨?_, .inr ⟨kept, replayed⟩⟩
    rcases state with state | ⟨-, state | state⟩
    · rwa [state]
    · exact .inr (.inl state)
    · exact .inr (.inr state)

/-- A transaction that is completed was so before, or has been concluded by
the last input. -/
theorem completed_of_step
    (completed : (tx.step input).1.state = .completed) :
    tx.state = .completed ∨ ∃ bytes, tx.concludes input = some bytes := by
  have effect := tx.step_effect input
  generalize (tx.step input).1 = after, (tx.step input).2.carried = carried at effect completed
  cases effect with
  | sent same takes taken stored entered =>
    rename_i status bytes next
    right
    have completes : next = .completed := by
      rcases entered with state | ⟨completes, -⟩
      · exact state.symm.trans completed
      · exact completes
    exact ⟨bytes, (tx.concludes_eq_some_iff _ _).mpr ⟨status, rfl,
      (next_eq_ok taken).1.mp completes, takes⟩⟩
  | trying same before still => simp [still] at completed
  | quiet same kept replayed state =>
    rcases state with state | ⟨-, state | state⟩
    · exact .inl (state.symm.trans completed)
    · simp [state] at completed
    · simp [state] at completed

/-- A completed transaction has sent a final response, and a transaction that
has sent one is settled. -/
theorem firstFinal_of_state (fresh : tx.state = .proceeding) (inputs : List ServerInput) :
    ((tx.after inputs).state = .completed → ∃ bytes, tx.firstFinal inputs = some bytes) ∧
      (∀ bytes, tx.firstFinal inputs = some bytes → IsSettled (tx.after inputs).state) := by
  induction inputs using List.reverseRecOn with
  | nil =>
    refine ⟨fun completed => ?_, fun bytes sent => by cases sent⟩
    simp [after, fresh] at completed
  | append_singleton earlier input ih =>
    obtain ⟨sentBefore, settledBefore⟩ := ih
    rw [firstFinal_concat, after_concat]
    constructor
    · intro completed
      cases sent : tx.firstFinal earlier with
      | some bytes => exact ⟨bytes, rfl⟩
      | none =>
        rcases completed_of_step completed with before | concluded
        · obtain ⟨bytes, sent'⟩ := sentBefore before
          simp [sent] at sent'
        · exact concluded
    · intro bytes sent
      cases before : tx.firstFinal earlier with
      | some earlierBytes =>
        exact (settled_effect (settledBefore _ before) input).1
      | none =>
        rw [before] at sent
        exact (concludes_effect sent).1

/-- A transaction that has left its proceeding state was started. -/
theorem started_after (fresh : tx.state = .proceeding) (inputs : List ServerInput)
    (answered : (tx.after inputs).state ≠ .proceeding) :
    (tx.after inputs).started = true := by
  induction inputs using List.reverseRecOn with
  | nil => exact absurd fresh answered
  | append_singleton earlier input ih =>
    rw [after_concat] at answered ⊢
    have kept := ((tx.after earlier).sameIdentity_step input).started
    by_cases started : (tx.after earlier).started = true
    · exact kept started
    · rw [state_step_of_unstarted started input] at answered
      exact kept (ih answered)

/-- The first final response of a run stays: it is what is stored, and every
later answer sends or replays exactly its bytes. -/
def FinalResponseStable (tx : ServerTransaction) (inputs : List ServerInput) : Prop := Run.AllSteps
    (fun earlier input => ∀ bytes, tx.firstFinal earlier = some bytes →
      (tx.after earlier).lastResponse = some bytes ∧
        ∀ carried ∈ ((tx.after earlier).step input).2.carried, carried = bytes)
    inputs

/-- The transaction user repeats the stored bytes in every final response it
passes to a completed transaction. -/
def RepeatsStoredFinal (tx : ServerTransaction) (inputs : List ServerInput) : Prop := Run.AllSteps
    (fun earlier input => ∀ status bytes, input = .sendResponse status bytes →
      (tx.after earlier).state = .completed →
      Conclusive tx.kind status → bytes ≠ [] →
      (tx.after earlier).lastResponse = some bytes)
    inputs

/-- While the transaction user repeats the stored bytes, an input that follows
the first final response stores and carries nothing else. -/
theorem repeated_effect (fresh : tx.state = .proceeding)
    {earlier : List ServerInput} {first : Bytes} (sent : tx.firstFinal earlier = some first)
    (stored : (tx.after earlier).lastResponse = some first)
    (repeats : ∀ status bytes, input = .sendResponse status bytes →
      (tx.after earlier).state = .completed →
      Conclusive tx.kind status → bytes ≠ [] →
      (tx.after earlier).lastResponse = some bytes) :
    ((tx.after earlier).step input).1.lastResponse = some first ∧
      ∀ carried ∈ ((tx.after earlier).step input).2.carried, carried = first := by
  have settled := (firstFinal_of_state fresh earlier).2 first sent
  rcases (settled_effect settled input).2 with
    ⟨status, bytes, rfl, completed, conclusive, nonempty, replaced, carried⟩ |
    ⟨kept, replayed⟩
  · rw [(tx.sameIdentity_after earlier).kind] at conclusive
    have repeated := repeats status bytes rfl completed conclusive nonempty
    obtain rfl : bytes = first := by simpa [stored] using repeated.symm
    exact ⟨replaced, by simp [carried]⟩
  · refine ⟨kept.trans stored, fun bytes member => ?_⟩
    simpa [stored] using (replayed bytes member).symm

/-- While the transaction user repeats the stored bytes, the first final
response stays stored. -/
theorem stored_of_repeats (fresh : tx.state = .proceeding)
    (inputs : List ServerInput) (repeats : tx.RepeatsStoredFinal inputs)
    (first : Bytes) (sent : tx.firstFinal inputs = some first) :
    (tx.after inputs).lastResponse = some first := by
  refine Run.guarded_invariant (fun inputs (later : ServerTransaction) => ∀ first,
      tx.firstFinal inputs = some first → later.lastResponse = some first)
    (fun _ none => by cases none) ?_ inputs repeats first sent
  intro earlier input repeated stored first sent
  rw [firstFinal_concat] at sent
  cases before : tx.firstFinal earlier with
  | some bytes =>
    obtain rfl : bytes = first := by simpa [before] using sent
    exact (repeated_effect fresh before (stored _ before) repeated).1
  | none =>
    rw [before] at sent
    exact (concludes_effect sent).2

/-- In every run of a new server transaction, the first final response stays
exactly when the transaction user repeats its bytes in every final response
it passes to the completed transaction. -/
theorem final_response_stable_iff
    (buildTrying : ValidatedRequest → Option Bytes) (request : ValidatedRequest)
    (reliable : Bool) (timers : TimerConfig) (tx : ServerTransaction)
    (created : new buildTrying request reliable timers = .ok tx) (inputs : List ServerInput) :
    tx.FinalResponseStable inputs ↔ tx.RepeatsStoredFinal inputs := by
  have fresh : tx.state = .proceeding := state_new created
  constructor
  · rintro stable earlier input later rfl status bytes rfl completed conclusive nonempty
    obtain ⟨first, sent⟩ := (firstFinal_of_state fresh earlier).1 completed
    obtain ⟨stored, carried⟩ := stable earlier _ later rfl first sent
    have started := started_after fresh earlier (by simp [completed])
    have taken : (tx.after earlier).machine.next status = .ok .completed := by
      refine next_of_completed completed ?_
      rwa [show (tx.after earlier).machine.kind = tx.kind from
        (tx.sameIdentity_after earlier).kind]
    obtain ⟨after, actions, accepted, -, sentBytes, -⟩ := sendResponse_taken started nonempty taken
    have same : bytes = first := by
      apply carried
      simp [step, answered, accepted, ServerOutput.carried, sentBytes]
    rw [same]
    exact stored
  · rintro repeats earlier input later rfl first sent
    have stored := stored_of_repeats fresh earlier repeats.of_append first sent
    exact ⟨stored, (repeated_effect fresh sent stored (repeats earlier input later rfl)).2⟩

/-- A BYE answered once keeps its answer. -/
theorem final_response_stable_bye :
    ∃ tx, new (fun _ => none) byeRequest false .default = .ok tx ∧ tx.FinalResponseStable
        [.start, .sendResponse .ok [50, 48, 48], .duplicateRequest] := by
  refine ⟨_, rfl, (final_response_stable_iff (fun _ => none) byeRequest false
    .default _ rfl _).mpr ?_⟩
  rintro earlier input later split status bytes rfl completed - -
  rcases earlier with - | ⟨first, - | ⟨second, - | ⟨third, rest⟩⟩⟩
  · cases split
  · cases split
    exact absurd completed (by decide)
  · cases split
  · simp at split

/-- A second final response of a BYE replaces the first one. -/
theorem second_answer_replaces_first :
    ∃ tx, new (fun _ => none) byeRequest false .default = .ok tx ∧ ¬tx.FinalResponseStable
        [.start, .sendResponse .ok [50, 48, 48],
          .sendResponse .serverInternalError [53, 48, 48]] := by
  refine ⟨_, rfl, fun stable => ?_⟩
  have changed := (stable
    [.start, .sendResponse .ok [50, 48, 48]]
    _ [] rfl [50, 48, 48] (by decide)).2 [53, 48, 48] (by decide)
  exact absurd changed (by decide)

end ServerTransaction

end Transaction
end LiveAISIP
