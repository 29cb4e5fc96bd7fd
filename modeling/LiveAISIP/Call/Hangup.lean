import LiveAISIP.Call.Wire

/-!
# The completion of a hangup

The call lifecycle together with the BYE transactions that it has started.
Each `SendBye` starts one BYE client transaction, and the final response of
that transaction is translated as every delivered response is.
-/

namespace LiveAISIP
namespace Call

open Sip
open CallLifecycle

/-- The final response to the BYE transaction of one branch. -/
structure ByeAnswer where
  branch : DialogBranchId
  response : ValidatedResponse
  method : response.cseq.method = .bye
  final : response.status.Final

/-- A call, the branches of its unanswered BYE transactions, and whether it
was hung up after it had been established. -/
structure HangupCall where
  call : CallLifecycle
  byes : List DialogBranchId
  hungUp : Bool

/-- An operation of the owner, or the answer to a BYE transaction. -/
inductive HangupInput
  | operation (operation : CallOperation)
  | answer (answer : ByeAnswer)

namespace HangupCall

variable {answer : ByeAnswer} {hangup : HangupCall}

/-- The idle call without BYE transactions. -/
def idle : HangupCall := ⟨.idle, [], false⟩

/-- The branch whose BYE transaction an action starts. -/
def byeBranch : CallAction → Option DialogBranchId
  | .sendBye branch => some branch
  | _ => none

/-- The branches whose BYE transactions an outcome starts. -/
def byesOf (outcome : Outcome) : List DialogBranchId :=
  (actionsOf outcome).filterMap byeBranch

/-- An established call accepts the hangup of its owner. -/
def AcceptsHangup (call : CallLifecycle) (operation : CallOperation) : Prop :=
  operation = .handle (.command .hangup) ∧ call.state = .established ∧
    (call.apply operation).2.isOk = true

instance (call : CallLifecycle) (operation : CallOperation) :
    Decidable (AcceptsHangup call operation) :=
  inferInstanceAs (Decidable (_ ∧ _ ∧ _))

/-- Apply one operation and start the BYE transactions it asks for. -/
def operate (hangup : HangupCall) (operation : CallOperation) : HangupCall where
  call := (hangup.call.apply operation).1
  byes := hangup.byes ++ byesOf (hangup.call.apply operation).2
  hungUp := hangup.hungUp || decide (AcceptsHangup hangup.call operation)

/-- Handle the event of a delivered response, if it has one. -/
def receive (hangup : HangupCall) (response : ValidatedResponse) : HangupCall :=
  match responseEvent response with
  | .ok (some event) => hangup.operate (.handle event)
  | _ => hangup

/-- Take one input; only an unanswered BYE transaction can be answered. -/
def step (hangup : HangupCall) : HangupInput → HangupCall × Unit
  | .operation operation => (hangup.operate operation, ())
  | .answer answer =>
    if answer.branch ∈ hangup.byes then
      let received := hangup.receive answer.response
      (⟨received.call, received.byes.erase answer.branch, received.hungUp⟩, ())
    else
      (hangup, ())

/-- The state after a run of inputs. -/
def after (inputs : List HangupInput) : HangupCall := Run.after step idle inputs

@[simp] theorem after_concat (inputs : List HangupInput) (last : HangupInput) :
    after (inputs ++ [last]) = ((after inputs).step last).1 := by
  simp [after]

/-- The call was hung up and every BYE transaction has been answered. -/
def Answered (hangup : HangupCall) : Prop := hangup.hungUp = true ∧ hangup.byes = []

/-- The call has ended. -/
def HasEnded (hangup : HangupCall) : Prop := ∃ reason, hangup.call.state = .ended reason

/-- The answer settles the last BYE transaction of a call that was hung up
and has not ended. -/
structure AwaitsOnly (hangup : HangupCall) (answer : ByeAnswer) : Prop where
  hungUp : hangup.hungUp = true
  terminating : hangup.call.state = .terminating
  byes : hangup.byes = [answer.branch]

/-- The answer is a 2xx, its branch fits into the fork set, and no other
branch is live. -/
structure Concludes (hangup : HangupCall) (answer : ByeAnswer) : Prop where
  success : answer.response.status.Success
  admitted : hangup.call.forks.Admits (branchOf answer.response)
  alone : ∀ noted ∈ hangup.call.forks.branches,
    noted.id ≠ branchOf answer.response → noted.state = .terminated

/-- A 2xx to a BYE completes the BYE of the branch that it names. -/
theorem receive_of_success
    (hangup : HangupCall) (success : answer.response.status.Success) :
    hangup.receive answer.response =
      hangup.operate (.handle (.byeCompleted (branchOf answer.response))) := by
  have notTrying : answer.response.status.asU16 ≠ 100 := by
    have lower : 200 ≤ answer.response.status.asU16 := success.final
    omega
  simp [receive, responseEvent_eq, notTrying, branchEvent, answer.method, success]

/-- Any other final response to a BYE is not an event of the call. -/
theorem receive_of_failure
    (hangup : HangupCall) (failure : ¬answer.response.status.Success) :
    hangup.receive answer.response = hangup := by
  have notTrying : answer.response.status.asU16 ≠ 100 := by
    have lower : 200 ≤ answer.response.status.asU16 := answer.final
    omega
  simp [receive, responseEvent_eq, notTrying, branchEvent, answer.method, failure]

theorem HasEnded.terminal (ended : hangup.HasEnded) :
    hangup.call.state.isTerminal = true := by
  obtain ⟨reason, ended⟩ := ended
  rw [ended]
  rfl

/-- A call that has ended stays ended and starts no BYE. -/
theorem HasEnded.operate (ended : hangup.HasEnded) (operation : CallOperation) :
    (hangup.operate operation).HasEnded := by
  rw [HasEnded, HangupCall.operate, apply_of_terminal ended.terminal]
  exact ended

theorem HasEnded.step (ended : hangup.HasEnded) (input : HangupInput) :
    (hangup.step input).1.HasEnded := by
  cases input with
  | operation operation => exact ended.operate operation
  | answer answer =>
    simp only [HangupCall.step]
    split_ifs
    · by_cases success : answer.response.status.Success
      · rw [receive_of_success hangup success]
        exact ended.operate _
      · rw [receive_of_failure hangup success]
        exact ended
    · exact ended

/-- The BYE of an accepted hangup is unanswered. -/
theorem byesOf_of_acceptsHangup
    {call : CallLifecycle} {operation : CallOperation} (accepts : AcceptsHangup call operation) :
    byesOf (call.apply operation).2 ≠ [] ∧ (call.apply operation).1.state = .terminating := by
  obtain ⟨rfl, established, accepted⟩ := accepts
  simp only [apply, handle, established,
    CallState.isTerminal, Bool.false_eq_true, ↓reduceIte,
    command, reduceCtorEq, or_self] at accepted ⊢
  cases selection : call.selected with
  | none => simp [selection, Except.isOk, Except.toBool] at accepted
  | some branch => simp [byesOf, byeBranch]

/-- A call that was hung up is being torn down. -/
def Closes (hangup : HangupCall) : Prop := hangup.hungUp = true → hangup.call.IsClosing

/-- A call that has not ended is terminating once it was hung up. -/
theorem Closes.terminating (closes : hangup.Closes)
    (hungUp : hangup.hungUp = true) (unfinished : ¬hangup.HasEnded) :
    hangup.call.state = .terminating :=
  (closes hungUp).resolve_right unfinished

theorem Closes.operate (closes : hangup.Closes) (operation : CallOperation) :
    (hangup.operate operation).Closes := by
  intro hungUp
  rcases Bool.or_eq_true_iff.mp hungUp with before | now
  · rcases closes before with terminating | ended
    · exact isClosing_apply_of_terminating terminating operation
    · exact .inr (HasEnded.operate ended operation)
  · exact .inl (byesOf_of_acceptsHangup (of_decide_eq_true now)).2

theorem Closes.step (closes : hangup.Closes) (input : HangupInput) :
    (hangup.step input).1.Closes := by
  cases input with
  | operation operation => exact closes.operate operation
  | answer answer =>
    simp only [HangupCall.step]
    split_ifs
    · by_cases success : answer.response.status.Success
      · rw [receive_of_success hangup success]
        exact closes.operate _
      · rw [receive_of_failure hangup success]
        exact closes
    · exact closes

/-- In every run, a call that was hung up is being torn down. -/
theorem closes_after (inputs : List HangupInput) : (after inputs).Closes :=
  Run.invariant Closes (by simp [Closes, idle]) (fun _ input closes => closes.step input) inputs

/-- The completion of a BYE starts no BYE and is no hangup. -/
theorem operate_byeCompleted
    (hangup : HangupCall) (branch : DialogBranchId) :
    hangup.operate (.handle (.byeCompleted branch)) =
      ⟨(hangup.call.handle (.byeCompleted branch)).1, hangup.byes, hangup.hungUp⟩ := by
  have silent : byesOf (hangup.call.handle (.byeCompleted branch)).2 = [] := by
    unfold handle
    by_cases terminal : hangup.call.state.isTerminal = true
    · rw [if_pos terminal]
      rfl
    · rw [if_neg terminal]
      simp only [byeCompleted]
      cases hangup.call.forks.noteTerminated branch with
      | error error => rfl
      | ok forks =>
        simp only
        split_ifs <;> rfl
  simp [operate, apply, AcceptsHangup, silent]

/-- What an answer leaves of the BYE transactions. -/
theorem step_answer (outstanding : answer.branch ∈ hangup.byes) :
    (hangup.step (.answer answer)).1.byes = hangup.byes.erase answer.branch ∧
      (hangup.step (.answer answer)).1.hungUp = hangup.hungUp := by
  simp only [HangupCall.step, if_pos outstanding]
  by_cases success : answer.response.status.Success
  · rw [receive_of_success hangup success, operate_byeCompleted]
    exact ⟨rfl, rfl⟩
  · rw [receive_of_failure hangup success]
    exact ⟨rfl, rfl⟩

/-- The answer to the last BYE ends the call exactly when it concludes it. -/
theorem hasEnded_answer_iff (last : hangup.AwaitsOnly answer) :
    (hangup.step (.answer answer)).1.HasEnded ↔ hangup.Concludes answer := by
  have outstanding : answer.branch ∈ hangup.byes := by simp [last.byes]
  unfold HasEnded
  simp only [HangupCall.step, if_pos outstanding]
  by_cases success : answer.response.status.Success
  · rw [receive_of_success hangup success, operate_byeCompleted]
    rw [ended_byeCompleted_iff last.terminating]
    constructor
    · rintro ⟨admitted, alone⟩
      exact ⟨success, admitted, alone⟩
    · rintro ⟨-, admitted, alone⟩
      exact ⟨admitted, alone⟩
  · rw [receive_of_failure hangup success]
    refine iff_of_false ?_ fun concludes => success concludes.success
    simp [last.terminating]

/-- The first state in which every BYE is answered is reached by the answer to
the last BYE. -/
theorem awaitsOnly_of_answered (closes : hangup.Closes) {input : HangupInput}
    (unanswered : ¬hangup.Answered) (answered : (hangup.step input).1.Answered) :
    hangup.HasEnded ∨ ∃ answer, input = .answer answer ∧ hangup.AwaitsOnly answer := by
  obtain ⟨hungUp, settled⟩ := answered
  cases input with
  | operation operation =>
    obtain ⟨noneBefore, noneNew⟩ := List.append_eq_nil_iff.mp settled
    rcases Bool.or_eq_true_iff.mp hungUp with before | now
    · exact absurd ⟨before, noneBefore⟩ unanswered
    · exact absurd noneNew (byesOf_of_acceptsHangup (of_decide_eq_true now)).1
  | answer answer =>
    by_cases outstanding : answer.branch ∈ hangup.byes
    · obtain ⟨remaining, same⟩ := step_answer outstanding
      rw [same] at hungUp
      rw [remaining] at settled
      by_cases ended : hangup.HasEnded
      · exact .inl ended
      · refine .inr ⟨answer, rfl, hungUp, closes.terminating hungUp ended, ?_⟩
        have only := List.perm_cons_erase outstanding
        rw [settled] at only
        exact List.perm_singleton.mp only
    · simp only [HangupCall.step, if_neg outstanding] at hungUp settled
      exact absurd ⟨hungUp, settled⟩ unanswered

/-- A call whose BYEs were all answered at an earlier state has ended. -/
theorem hasEnded_of_prior
    {inputs : List HangupInput}
    (prior : Run.AllSteps (fun earlier input => ((after earlier).step input).1.Answered →
        ((after earlier).step input).1.HasEnded) inputs)
    (answered : (after inputs).Answered) :
    (after inputs).HasEnded := by
  rcases List.eq_nil_or_concat inputs with rfl | ⟨earlier, last, rfl⟩
  · exact absurd answered.1 (by simp [after, idle])
  · rw [List.concat_eq_append] at *
    rw [after_concat] at *
    exact ((Run.allSteps_concat _ _ _).mp prior).2 answered

/-- In every run, whenever a call was hung up after it had been established
and every BYE that it sent has been answered with a final response, the call
has ended, exactly when each answer to the last unanswered BYE is a 2xx whose
branch the fork set can note while no other branch is live. -/
theorem hangup_completes_iff (inputs : List HangupInput) : Run.AllSteps
        (fun earlier input => ((after earlier).step input).1.Answered →
          ((after earlier).step input).1.HasEnded) inputs ↔
      Run.AllSteps
        (fun earlier input => ∀ answer, input = .answer answer → (after earlier).AwaitsOnly answer →
          (after earlier).Concludes answer) inputs := by
  refine Run.allSteps_congr_of_prior (fun earlier input prior => ?_) inputs
  constructor
  · rintro completes answer rfl last
    refine (hasEnded_answer_iff last).mp (completes ?_)
    have outstanding : answer.branch ∈ (after earlier).byes := by
      simp [last.byes]
    obtain ⟨remaining, same⟩ := step_answer outstanding
    refine ⟨same.trans last.hungUp, ?_⟩
    rw [remaining, last.byes]
    simp
  · intro concludes answered
    by_cases before : (after earlier).Answered
    · exact (hasEnded_of_prior prior before).step input
    · rcases awaitsOnly_of_answered (closes_after earlier) before answered with
        ended | ⟨answer, rfl, last⟩
      · exact ended.step input
      · exact (hasEnded_answer_iff last).mpr (concludes answer rfl last)

/-- One branch rings, another answers, the call is hung up and its BYE is
answered with a 200. -/
def hangupAfterFork : List HangupInput := [.operation (.handle (.command .start)),
    .operation (.handle (.provisional (branchOfTag tagA) false)),
    .operation (.handle (.inviteAccepted (branchOfTag tagB))),
    .operation (.handle (.command .hangup)), .answer
      { branch := branchOfTag tagB
        response := responseTo byeRequest .ok (some tagB)
        method := rfl
        final := by decide }]

/-- The branch that only rang keeps a completed hangup terminating. -/
theorem ringing_branch_keeps_terminating :
    (after hangupAfterFork).Answered ∧ ¬(after hangupAfterFork).HasEnded := by
  refine ⟨⟨by decide +kernel, by decide +kernel⟩, ?_⟩
  rintro ⟨reason, ended⟩
  have terminating : (after hangupAfterFork).call.state = .terminating := by
    decide +kernel
  simp [terminating] at ended

end HangupCall

end Call
end LiveAISIP
