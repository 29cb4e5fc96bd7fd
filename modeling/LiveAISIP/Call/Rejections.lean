import LiveAISIP.Call.Lifecycle

/-!
# Events that a lifecycle rejects

An event that fails leaves a call as it was, with one exception: a final status is noted
before the fork set has taken its branch, and stays noted when the set is full.
-/

namespace LiveAISIP
namespace Call
namespace CallLifecycle

variable {error : LifecycleError}

/-- An event that fails changes nothing. -/
def Atomic (call : CallLifecycle) (event : CallEvent) : Prop :=
  ∀ error, (call.handle event).2 = .error error → (call.handle event).1 = call

/-- A final status, other than the last one noted, of a branch that the full fork set does
not know. -/
def UnplacedRejection (call : CallLifecycle) : CallEvent → Prop
  | .inviteRejected branch status =>
    call.state.isTerminal = false ∧ (300 ≤ status ∧ status ≤ 699) ∧
      ¬call.forks.Admits branch ∧ call.lastSipStatus ≠ some status
  | _ => False

theorem atomic_command
    (call : CallLifecycle) (command : CallCommand)
    (failed : (call.command command).2 = .error error) : (call.command command).1 = call := by
  cases command with
  | start =>
    simp only [CallLifecycle.command] at failed ⊢
    split_ifs at failed ⊢
    rfl
  | hangup =>
    simp only [CallLifecycle.command] at failed ⊢
    split_ifs at failed ⊢
    · split at failed
      · rfl
      · cases failed
    · rfl
  | blindTransfer target | attendedTransfer otherCall =>
    simp only [CallLifecycle.command]
    split_ifs <;> rfl

theorem atomic_provisional
    (call : CallLifecycle) (branch : DialogBranchId) (hasSdp : Bool)
    (failed : (call.provisional branch hasSdp).2 = .error error) :
    (call.provisional branch hasSdp).1 = call := by
  unfold provisional at failed ⊢
  by_cases open_ : call.state = .inviting ∨ call.state = .cancelling
  · rw [if_pos open_] at failed ⊢
    cases noted : call.forks.noteEarly branch with
    | error reason => rfl
    | ok forks =>
      rw [noted] at failed
      cases failed
  · rw [if_neg open_]

theorem atomic_accepted
    (call : CallLifecycle) (branch : DialogBranchId)
    (failed : (call.accepted branch).2 = .error error) : (call.accepted branch).1 = call := by
  unfold accepted at failed ⊢
  by_cases awaits : call.AwaitsAnswer
  · rw [if_pos awaits] at failed ⊢
    cases noted : call.forks.noteConfirmed branch with
    | error reason => rfl
    | ok forks =>
      rw [noted] at failed
      dsimp only at failed
      split_ifs at failed
      split at failed
      · cases failed
      · cases failed
  · rw [if_neg awaits]

theorem atomic_byeCompleted
    (call : CallLifecycle) (branch : DialogBranchId)
    (failed : (call.byeCompleted branch).2 = .error error) :
    (call.byeCompleted branch).1 = call := by
  unfold byeCompleted at failed ⊢
  cases noted : call.forks.noteTerminated branch with
  | error reason => rfl
  | ok forks =>
    rw [noted] at failed
    dsimp only at failed
    split_ifs at failed <;> cases failed

/-- What a rejected INVITE leaves behind when it fails. -/
theorem rejected_failed_iff
    (call : CallLifecycle) (branch : DialogBranchId) (status : Nat) :
    (∀ error, (call.rejected branch status).2 = .error error →
        (call.rejected branch status).1 = call) ↔
      ¬((300 ≤ status ∧ status ≤ 699) ∧ ¬call.forks.Admits branch ∧
        call.lastSipStatus ≠ some status) := by
  unfold rejected
  by_cases final : 300 ≤ status ∧ status ≤ 699
  · rw [if_pos final]
    by_cases admits : call.forks.Admits branch
    · obtain ⟨forks, noted, -⟩ := ForkSet.upsert_of_admits admits .terminated
      simp only [ForkSet.noteTerminated, noted]
      refine iff_of_true ?_ fun unplaced => unplaced.2.1 admits
      intro error failed
      split_ifs at failed <;> cases failed
    · simp only [ForkSet.noteTerminated, ForkSet.upsert_of_not_admits admits]
      constructor
      · rintro unchanged ⟨-, -, other⟩
        exact other (congrArg lastSipStatus (unchanged _ rfl)).symm
      · intro placed error _
        have same : call.lastSipStatus = some status := by
          by_contra other
          exact placed ⟨final, admits, other⟩
        rw [← same]
  · rw [if_neg final]
    exact iff_of_true (fun _ _ => rfl) fun unplaced => final unplaced.1

/-- An event that fails changes nothing exactly when it is no unplaced rejection. -/
theorem atomic_iff (call : CallLifecycle) (event : CallEvent) :
    call.Atomic event ↔ ¬call.UnplacedRejection event := by
  unfold Atomic handle
  by_cases terminal : call.state.isTerminal = true
  · rw [if_pos terminal]
    refine iff_of_true (fun _ _ => rfl) ?_
    cases event <;> simp [UnplacedRejection, terminal]
  rw [if_neg terminal]
  cases event with
  | command command => exact iff_of_true (fun _ => call.atomic_command command) id
  | provisional branch hasSdp =>
    exact iff_of_true (fun _ => call.atomic_provisional branch hasSdp) id
  | inviteAccepted branch => exact iff_of_true (fun _ => call.atomic_accepted branch) id
  | inviteRejected branch status =>
    rw [call.rejected_failed_iff branch status, UnplacedRejection]
    simp [terminal]
  | byeCompleted branch => exact iff_of_true (fun _ => call.atomic_byeCompleted branch) id
  | cancelAccepted => exact iff_of_true (fun _ _ => rfl) id
  | remoteBye | signalingTimedOut | mediaTimedOut | transportFailed =>
    exact iff_of_true (fun _ failed => by cases failed) fun holds => holds
  | sessionModification method hasOffer =>
    refine iff_of_true ?_ id
    intro error _
    dsimp only
    split_ifs <;> rfl

end CallLifecycle

/-- In every run, an event that fails changes nothing exactly when it is no unplaced
rejection. -/
theorem failed_event_atomic_iff (operations : List CallOperation) (event : CallEvent) :
    (callAfter operations).Atomic event ↔ ¬(callAfter operations).UnplacedRejection event :=
  (callAfter operations).atomic_iff event

/-- A call with as many early branches as a fork set holds. -/
def sixteenBranches : List CallOperation := .handle (.command .start) ::
    (List.finRange 16).map fun index =>
      .handle (.provisional (letterBranch index.castSucc) false)

/-- The busy answer of a seventeenth branch is rejected, and is the last status noted. -/
theorem not_atomic_seventeenth_rejection :
    ¬(callAfter sixteenBranches).Atomic (.inviteRejected (letterBranch 16) 486) := by
  intro atomic
  have unchanged := atomic (.fork .branchLimitExceeded) (by decide +kernel)
  have noted : ((callAfter sixteenBranches).handle
      (.inviteRejected (letterBranch 16) 486)).1.lastSipStatus = some 486 := by
    decide +kernel
  have before : (callAfter sixteenBranches).lastSipStatus = none := by
    decide +kernel
  rw [unchanged, before] at noted
  cases noted

end Call
end LiveAISIP
