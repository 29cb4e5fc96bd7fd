import LiveAISIP.Call.Branch
import LiveAISIP.Library.Run

/-!
# Call lifecycle

The single-authority state machine of `call/model/lifecycle.rs`, with the
states, events and actions of `call/model/state.rs` and
`call/model/events.rs`.  `handle` consumes one event; it returns the next
lifecycle together with the ordered actions, or the error, of that event.
-/

namespace LiveAISIP
namespace Call

open Sip
open ForkSet

/-- SDK-stable reason for the end of a call. -/
inductive CallEndReason
  | remoteBusy
  | remoteRejected
  | remoteUnavailable
  | noAnswer
  | canceled
  | localHangup
  | remoteHangup
  | signalingTimeout
  | transportFailure
  | authenticationFailed
  | mediaTimeout
  | mediaNegotiationFailed
  | securityFailure
  | internalError
  | transferred
  deriving DecidableEq

/-- Actor-owned outbound call lifecycle. -/
inductive CallState
  | idle
  | inviting
  | cancelling
  | established
  | terminating
  | ended (reason : CallEndReason)
  deriving DecidableEq

/-- No further call mutation is valid. -/
def CallState.isTerminal : CallState → Bool
  | .ended _ => true
  | _ => false

/-- Map a final INVITE status into an SDK-stable reason. -/
def reasonFromStatus (status : Nat) : CallEndReason :=
  if status = 401 ∨ status = 407 then .authenticationFailed
  else if status = 404 ∨ status = 410 ∨ status = 480 ∨ status = 502 ∨
      status = 503 ∨ status = 504 then .remoteUnavailable
  else if status = 408 then .noAnswer
  else if status = 486 ∨ status = 600 then .remoteBusy
  else if status = 487 then .canceled
  else .remoteRejected

/-- Generation-fenced reference to another local call actor. -/
structure CallReference where
  callId : UInt64
  generation : UInt64
  deriving DecidableEq

/-- Validated SIP or SIPS target for blind transfer. -/
structure TransferTarget where
  uri : SipUri
  deriving DecidableEq

/-- Commands accepted from the control plane. -/
inductive CallCommand
  | start
  | hangup
  | blindTransfer (target : TransferTarget)
  | attendedTransfer (otherCall : CallReference)
  deriving DecidableEq

/-- SIP method initiating an in-dialog session modification. -/
inductive SessionModificationMethod
  | invite
  | update
  deriving DecidableEq

/-- Serialized network, timer, media and control event. -/
inductive CallEvent
  | command (command : CallCommand)
  | provisional (branch : DialogBranchId) (hasSdp : Bool)
  | inviteAccepted (branch : DialogBranchId)
  | inviteRejected (branch : DialogBranchId) (status : Nat)
  | cancelAccepted
  | byeCompleted (branch : DialogBranchId)
  | remoteBye
  | signalingTimedOut
  | mediaTimedOut
  | transportFailed
  | sessionModification (method : SessionModificationMethod) (hasOffer : Bool)
  deriving DecidableEq

/-- Explicit side effect produced by deterministic call state. -/
inductive CallAction
  | sendInvite
  | sendCancel
  | sendAck (branch : DialogBranchId)
  | sendBye (branch : DialogBranchId)
  | selectBranch (branch : DialogBranchId)
  | applyEarlyMedia (branch : DialogBranchId)
  | sendRefer (target : TransferTarget)
  | sendReferReplaces (otherCall : CallReference)
  | applySessionModification
      (method : SessionModificationMethod) (hasOffer : Bool)
  | ended (reason : CallEndReason)
  deriving DecidableEq

/-- Call lifecycle failure. -/
inductive LifecycleError
  | invalidEvent
  | invalidFinalStatus
  | alreadyEnded
  | missingSelectedBranch
  | fork (error : ForkError)
  deriving DecidableEq

/-- Single-authority call lifecycle. -/
structure CallLifecycle where
  state : CallState
  forks : ForkSet
  selected : Option DialogBranchId
  cancelRequested : Bool
  cancelSent : Bool
  lastSipStatus : Option Nat

namespace CallLifecycle

/-- The actions of one event, or its error. -/
abbrev Outcome := Except LifecycleError (List CallAction)

/-- Idle call state over an empty fork set. -/
def idle : CallLifecycle where
  state := .idle
  forks := .empty
  selected := none
  cancelRequested := false
  cancelSent := false
  lastSipStatus := none

/-- Create idle call state once the fork storage could be reserved. -/
def new (reserved : Bool) : Except LifecycleError CallLifecycle :=
  match ForkSet.new reserved with
  | .ok forks => .ok { idle with forks := forks }
  | .error error => .error (.fork error)

/-- Enter the terminal state. -/
def finish
    (call : CallLifecycle) (reason : CallEndReason) : CallLifecycle × Outcome :=
  ({ call with state := .ended reason }, .ok [.ended reason])

/-- Apply one owner command. -/
def command (call : CallLifecycle) : CallCommand → CallLifecycle × Outcome
  | .start =>
    if call.state = .idle then ({ call with state := .inviting }, .ok [.sendInvite])
    else (call, .error .invalidEvent)
  | .hangup =>
    if call.state = .inviting ∨ call.state = .cancelling then
      if call.cancelSent then
        ({ call with cancelRequested := true, state := .cancelling }, .ok [])
      else
        ({ call with
            cancelRequested := true
            state := .cancelling
            cancelSent := true }, .ok [.sendCancel])
    else if call.state = .established then
      match call.selected with
      | none => (call, .error .missingSelectedBranch)
      | some branch =>
        ({ call with state := .terminating }, .ok [.sendBye branch])
    else
      (call, .error .invalidEvent)
  | .blindTransfer target =>
    if call.state = .established then (call, .ok [.sendRefer target])
    else (call, .error .invalidEvent)
  | .attendedTransfer otherCall =>
    if call.state = .established then (call, .ok [.sendReferReplaces otherCall])
    else (call, .error .invalidEvent)

/-- Apply a tagged provisional response. -/
def provisional
    (call : CallLifecycle) (branch : DialogBranchId) (hasSdp : Bool) : CallLifecycle × Outcome :=
  if call.state = .inviting ∨ call.state = .cancelling then
    match call.forks.noteEarly branch with
    | .error error => (call, .error (.fork error))
    | .ok forks =>
      ({ call with forks := forks }, .ok (if hasSdp then [.applyEarlyMedia branch] else []))
  else
    (call, .error .invalidEvent)

/-- The states in which a 2xx to the INVITE is taken. -/
def AwaitsAnswer (call : CallLifecycle) : Prop :=
  call.state = .inviting ∨ call.state = .cancelling ∨
    call.state = .established ∨ call.state = .terminating

instance (call : CallLifecycle) : Decidable call.AwaitsAnswer :=
  inferInstanceAs (Decidable (_ ∨ _ ∨ _ ∨ _))

/-- Apply a 2xx to the INVITE from one branch. -/
def accepted
    (call : CallLifecycle) (branch : DialogBranchId) : CallLifecycle × Outcome :=
  if call.AwaitsAnswer then
    match call.forks.noteConfirmed branch with
    | .error error => (call, .error (.fork error))
    | .ok forks =>
      if call.cancelRequested ∨ call.state = .terminating then
        ({ call with forks := forks, state := .terminating },
          .ok [.sendAck branch, .sendBye branch])
      else
        match call.selected with
        | none =>
          ({ call with
              forks := forks
              selected := some branch
              state := .established }, .ok [.sendAck branch, .selectBranch branch])
        | some selected =>
          ({ call with forks := forks },
            .ok (if selected = branch then [.sendAck branch]
              else [.sendAck branch, .sendBye branch]))
  else
    (call, .error .invalidEvent)

/-- Apply a non-2xx final response from one branch. -/
def rejected
    (call : CallLifecycle) (branch : DialogBranchId) (status : Nat) : CallLifecycle × Outcome :=
  if 300 ≤ status ∧ status ≤ 699 then
    match call.forks.noteTerminated branch with
    | .error error =>
      ({ call with lastSipStatus := some status }, .error (.fork error))
    | .ok forks =>
      let noted := { call with lastSipStatus := some status, forks := forks }
      if noted.selected.isSome ∨ forks.hasLiveBranches then
        (noted, .ok [])
      else
        noted.finish
          (if noted.cancelRequested then .canceled
            else reasonFromStatus status)
  else
    (call, .error .invalidFinalStatus)

/-- Apply the completion of the BYE of one branch. -/
def byeCompleted
    (call : CallLifecycle) (branch : DialogBranchId) : CallLifecycle × Outcome :=
  match call.forks.noteTerminated branch with
  | .error error => (call, .error (.fork error))
  | .ok forks =>
    let noted := { call with forks := forks }
    if noted.state = .terminating ∧ ¬forks.hasLiveBranches then
      noted.finish (if noted.cancelRequested then .canceled else .localHangup)
    else
      (noted, .ok [])

/-- Apply exactly one serialized event. -/
def handle (call : CallLifecycle) (event : CallEvent) : CallLifecycle × Outcome :=
  if call.state.isTerminal then
    (call, .error .alreadyEnded)
  else
    match event with
    | .command command => call.command command
    | .provisional branch hasSdp => call.provisional branch hasSdp
    | .inviteAccepted branch => call.accepted branch
    | .inviteRejected branch status => call.rejected branch status
    | .cancelAccepted => (call, .ok [])
    | .byeCompleted branch => call.byeCompleted branch
    | .remoteBye => call.finish .remoteHangup
    | .signalingTimedOut => call.finish .signalingTimeout
    | .mediaTimedOut => call.finish .mediaTimeout
    | .transportFailed => call.finish .transportFailure
    | .sessionModification method hasOffer =>
      if call.state = .established then (call, .ok [.applySessionModification method hasOffer])
      else (call, .error .invalidEvent)

/-- Force one terminal transition; a call that has ended stays as it is. -/
def forceEnd
    (call : CallLifecycle) (reason : CallEndReason) : CallLifecycle × Outcome :=
  if call.state.isTerminal then (call, .ok []) else call.finish reason

end CallLifecycle

/-- One use of a lifecycle by its owner. -/
inductive CallOperation
  | handle (event : CallEvent)
  | forceEnd (reason : CallEndReason)
  deriving DecidableEq

/-- Apply one operation. -/
def CallLifecycle.apply
    (call : CallLifecycle) : CallOperation → CallLifecycle × Outcome
  | .handle event => call.handle event
  | .forceEnd reason => call.forceEnd reason

/-- The lifecycle after a run of operations from the idle call. -/
def callAfter (operations : List CallOperation) : CallLifecycle :=
  Run.after CallLifecycle.apply .idle operations

/-- The actions of an outcome; a rejected event has none. -/
def actionsOf : CallLifecycle.Outcome → List CallAction
  | .ok actions => actions
  | .error _ => []

@[simp] theorem actionsOf_ok (actions : List CallAction) : actionsOf (.ok actions) = actions := rfl

@[simp] theorem actionsOf_error (error : LifecycleError) : actionsOf (.error error) = [] := rfl

/-- All actions emitted by a run of operations from the idle call. -/
def emitted (operations : List CallOperation) : List CallAction :=
  (Run.outputs CallLifecycle.apply .idle operations).flatMap actionsOf

theorem emitted_concat (operations : List CallOperation) (last : CallOperation) :
    emitted (operations ++ [last]) =
      emitted operations ++ actionsOf ((callAfter operations).apply last).2 := by
  simp [emitted, Run.outputs_concat, Run.output, callAfter]

namespace CallLifecycle

variable {call : CallLifecycle}

/-- The INVITE is out, nothing was selected and every noted branch is early. -/
structure Waiting (call : CallLifecycle) : Prop where
  state : call.state = .inviting
  selected : call.selected = none
  early : ∀ branch ∈ call.forks.branches, branch.state = .early

theorem Waiting.not_terminal (waiting : call.Waiting) :
    call.state.isTerminal = false := by
  rw [waiting.state]
  rfl

/-- A provisional response keeps the call waiting. -/
theorem Waiting.handle_provisional
    (waiting : call.Waiting)
    (branch : DialogBranchId)
    (hasSdp : Bool) :
    (call.handle (.provisional branch hasSdp)).1.Waiting := by
  have reduced : call.handle (.provisional branch hasSdp) = call.provisional branch hasSdp := by
    simp [handle, waiting.not_terminal]
  rw [reduced, provisional, if_pos (.inl waiting.state)]
  by_cases admits : call.forks.Admits branch
  · obtain ⟨forks, noted, members⟩ := upsert_of_admits admits .early
    simp only [noteEarly, noted]
    refine ⟨waiting.state, waiting.selected, fun other member => ?_⟩
    rcases (members other).mp member with rfl | ⟨old, -⟩
    · rfl
    · exact waiting.early other old
  · simp only [noteEarly, upsert_of_not_admits admits]
    exact waiting

/-- A non-2xx final response ends a waiting call exactly when no other branch
was noted; otherwise the call keeps inviting. -/
theorem Waiting.handle_rejected (waiting : call.Waiting) (branch : DialogBranchId)
    {status : Nat} (final : 300 ≤ status ∧ status ≤ 699) :
    ((∃ reason, (call.handle (.inviteRejected branch status)).1.state = .ended reason) ∧
      ∀ other ∈ call.forks.branches, other.id = branch) ∨
    ((call.handle (.inviteRejected branch status)).1.state = .inviting ∧
      ∃ other ∈ call.forks.branches, other.id ≠ branch) := by
  have reduced : call.handle (.inviteRejected branch status) = call.rejected branch status := by
    simp [handle, waiting.not_terminal]
  rw [reduced, rejected, if_pos final]
  by_cases admits : call.forks.Admits branch
  · obtain ⟨forks, noted, members⟩ := upsert_of_admits admits .terminated
    have live : forks.hasLiveBranches = true ↔
        ∃ other ∈ call.forks.branches, other.id ≠ branch := by
      rw [hasLiveBranches_iff]
      constructor
      · rintro ⟨other, member, alive⟩
        rcases (members other).mp member with rfl | ⟨old, different⟩
        · exact absurd rfl alive
        · exact ⟨other, old, different⟩
      · rintro ⟨other, old, different⟩
        refine ⟨other, (members other).mpr (.inr ⟨old, different⟩), ?_⟩
        simp [waiting.early other old]
    simp only [noteTerminated, noted, waiting.selected,
      Option.isSome_none, Bool.false_eq_true, false_or]
    by_cases others : ∃ other ∈ call.forks.branches, other.id ≠ branch
    · right
      rw [if_pos (live.mpr others)]
      exact ⟨waiting.state, others⟩
    · left
      rw [if_neg (fun alive => others (live.mp alive))]
      refine ⟨⟨_, rfl⟩, fun other member => ?_⟩
      by_contra different
      exact others ⟨other, member, different⟩
  · right
    simp only [noteTerminated, upsert_of_not_admits admits]
    refine ⟨waiting.state, ?_⟩
    obtain ⟨unknown, noRoom⟩ := not_or.mp admits
    obtain ⟨other, member⟩ := List.exists_mem_of_length_pos
      (Nat.lt_of_lt_of_le (by decide : 0 < maxForkedDialogs) (Nat.not_lt.mp noRoom))
    exact ⟨other, member, fun same =>
      unknown (same ▸ List.mem_map_of_mem member)⟩

/-- No operation changes a call that has ended. -/
theorem apply_of_terminal (terminal : call.state.isTerminal = true) (operation : CallOperation) :
    (call.apply operation).1 = call := by
  cases operation with
  | handle event => simp [apply, handle, terminal]
  | forceEnd reason => simp [apply, forceEnd, terminal]

/-- The states of a call that is being torn down. -/
def IsClosing (call : CallLifecycle) : Prop :=
  call.state = .terminating ∨ ∃ reason, call.state = .ended reason

/-- A terminating call keeps terminating until it ends. -/
theorem isClosing_apply_of_terminating
    (terminating : call.state = .terminating)
    (operation : CallOperation) :
    (call.apply operation).1.IsClosing := by
  have kept (next : CallLifecycle) (same : next.state = call.state) :
      next.IsClosing := .inl (same.trans terminating)
  have finished (next : CallLifecycle) (reason : CallEndReason) :
      (next.finish reason).1.IsClosing := .inr ⟨reason, rfl⟩
  have live : call.state.isTerminal = false := by
    rw [terminating]
    rfl
  cases operation with
  | forceEnd reason =>
    simp only [apply, forceEnd, live, Bool.false_eq_true, ↓reduceIte]
    exact finished call reason
  | handle event =>
    simp only [apply, handle, live, Bool.false_eq_true, ↓reduceIte]
    cases event with
    | command command =>
      refine kept _ ?_
      cases command <;> simp [CallLifecycle.command, terminating]
    | provisional branch hasSdp =>
      refine kept _ ?_
      simp [provisional, terminating]
    | inviteAccepted branch =>
      refine kept _ ?_
      cases noted : call.forks.noteConfirmed branch with
      | error error => simp [accepted, AwaitsAnswer, terminating, noted]
      | ok forks => simp [accepted, AwaitsAnswer, terminating, noted]
    | inviteRejected branch status =>
      simp only [rejected]
      by_cases final : 300 ≤ status ∧ status ≤ 699
      · rw [if_pos final]
        cases call.forks.noteTerminated branch with
        | error error => exact kept _ rfl
        | ok forks =>
          simp only
          split_ifs
          · exact kept _ rfl
          · exact finished _ _
          · exact finished _ _
      · rw [if_neg final]
        exact kept _ rfl
    | byeCompleted branch =>
      simp only [byeCompleted]
      cases call.forks.noteTerminated branch with
      | error error => exact kept _ rfl
      | ok forks =>
        simp only
        split_ifs
        · exact finished _ _
        · exact finished _ _
        · exact kept _ rfl
    | cancelAccepted => exact kept _ rfl
    | remoteBye | signalingTimedOut | mediaTimedOut | transportFailed =>
      exact finished call _
    | sessionModification method hasOffer =>
      refine kept _ ?_
      simp [terminating]

/-- The completion of a BYE ends a terminating call exactly when the fork set
can note its branch and every other branch is terminated. -/
theorem ended_byeCompleted_iff (terminating : call.state = .terminating) (branch : DialogBranchId) :
    (∃ reason, (call.handle (.byeCompleted branch)).1.state = .ended reason) ↔
      call.forks.Admits branch ∧ ∀ noted ∈ call.forks.branches, noted.id ≠ branch →
          noted.state = .terminated := by
  have reduced : call.handle (.byeCompleted branch) = call.byeCompleted branch := by
    simp [handle, terminating, CallState.isTerminal]
  rw [reduced, byeCompleted]
  by_cases admits : call.forks.Admits branch
  · obtain ⟨forks, noted, members⟩ := upsert_of_admits admits .terminated
    have live : forks.hasLiveBranches = true ↔ ¬∀ noted ∈ call.forks.branches, noted.id ≠ branch →
          noted.state = .terminated := by
      rw [hasLiveBranches_iff]
      push Not
      constructor
      · rintro ⟨other, member, alive⟩
        rcases (members other).mp member with rfl | ⟨old, different⟩
        · exact absurd rfl alive
        · exact ⟨other, old, different, alive⟩
      · rintro ⟨other, old, different, alive⟩
        exact ⟨other, (members other).mpr (.inr ⟨old, different⟩), alive⟩
    simp only [noteTerminated, noted, live, not_not, true_and, admits]
    by_cases alone : ∀ noted ∈ call.forks.branches, noted.id ≠ branch → noted.state = .terminated
    · rw [if_pos ⟨terminating, alone⟩]
      exact iff_of_true ⟨_, rfl⟩ alone
    · rw [if_neg fun both => alone both.2]
      refine iff_of_false ?_ alone
      simp [terminating]
  · simp only [noteTerminated, upsert_of_not_admits admits]
    refine iff_of_false ?_ fun both => admits both.1
    simp [terminating]

end CallLifecycle

/-- A 2xx of `branch` is acknowledged: the ACK is the first action, and the
branch either is selected or is sent a BYE with it. -/
def CallLifecycle.Acknowledges
    (call : CallLifecycle) (branch : DialogBranchId) : Prop :=
  ∃ rest, (call.handle (.inviteAccepted branch)).2 = .ok (.sendAck branch :: rest) ∧
    ((call.handle (.inviteAccepted branch)).1.selected = some branch ∨ .sendBye branch ∈ rest)

theorem CallLifecycle.AwaitsAnswer.not_terminal
    {call : CallLifecycle} (awaits : call.AwaitsAnswer) :
    call.state.isTerminal = false := by
  rcases awaits with state | state | state | state <;> rw [state] <;> rfl

/-- A lifecycle that awaits an answer acknowledges a 2xx exactly when its
fork set admits the branch. -/
theorem CallLifecycle.acknowledges_iff
    {call : CallLifecycle} (awaits : call.AwaitsAnswer) (branch : DialogBranchId) :
    call.Acknowledges branch ↔ call.forks.Admits branch := by
  have reduced : call.handle (.inviteAccepted branch) = call.accepted branch := by
    simp [handle, awaits.not_terminal]
  unfold Acknowledges
  rw [reduced]
  constructor
  · rintro ⟨rest, answered, -⟩
    by_contra refused
    simp [accepted, awaits, noteConfirmed, upsert_of_not_admits refused] at answered
  · intro admits
    obtain ⟨forks, noted, -⟩ := upsert_of_admits admits .confirmed
    simp only [accepted, awaits, ↓reduceIte, noteConfirmed, noted]
    by_cases unwanted : call.cancelRequested ∨ call.state = .terminating
    · exact ⟨[.sendBye branch], by simp [unwanted]⟩
    · simp only [unwanted, ↓reduceIte]
      cases selection : call.selected with
      | none => exact ⟨[.selectBranch branch], by simp⟩
      | some selected =>
        by_cases same : selected = branch
        · exact ⟨[], by simp [same]⟩
        · exact ⟨[.sendBye branch], by simp [same]⟩

/-- The action that selects a confirmed branch. -/
def CallAction.isSelectBranch : CallAction → Bool
  | .selectBranch _ => true
  | _ => false

/-- One when a branch is selected, zero otherwise. -/
def CallLifecycle.selections (call : CallLifecycle) : Nat :=
  if call.selected.isSome then 1 else 0

/-- The selections of a step are those before it and those it makes. -/
def CallLifecycle.SelectsOnce
    (call : CallLifecycle) (result : CallLifecycle × Outcome) : Prop :=
  result.1.selections = call.selections + (actionsOf result.2).countP CallAction.isSelectBranch

namespace CallLifecycle

/-- A step that keeps the selection and selects nothing counts right. -/
theorem selectsOnce_of_same
    {call next : CallLifecycle} {outcome : Outcome} (kept : next.selected = call.selected)
    (unselecting : ∀ action ∈ actionsOf outcome, action.isSelectBranch = false) :
    call.SelectsOnce (next, outcome) := by
  have none : (actionsOf outcome).countP CallAction.isSelectBranch = 0 := by
    rw [List.countP_eq_zero]
    intro action member
    simp [unselecting action member]
  simp [SelectsOnce, selections, kept, none]

theorem selectsOnce_command (call : CallLifecycle) (command : CallCommand) :
    call.SelectsOnce (call.command command) := by
  cases command <;> simp only [CallLifecycle.command] <;> split_ifs <;>
    try exact selectsOnce_of_same rfl (by simp [CallAction.isSelectBranch])
  cases selection : call.selected with
  | none => exact selectsOnce_of_same rfl (by simp)
  | some branch =>
    exact selectsOnce_of_same selection.symm (by simp [CallAction.isSelectBranch])

theorem selectsOnce_provisional
    (call : CallLifecycle) (branch : DialogBranchId) (hasSdp : Bool) :
    call.SelectsOnce (call.provisional branch hasSdp) := by
  unfold provisional
  by_cases open_ : call.state = .inviting ∨ call.state = .cancelling
  · rw [if_pos open_]
    cases call.forks.noteEarly branch with
    | error error => exact selectsOnce_of_same rfl (by simp)
    | ok forks =>
      cases hasSdp <;>
        exact selectsOnce_of_same rfl (by simp [CallAction.isSelectBranch])
  · rw [if_neg open_]
    exact selectsOnce_of_same rfl (by simp)

/-- A 2xx selects its branch only where none was selected. -/
theorem selectsOnce_accepted (call : CallLifecycle) (branch : DialogBranchId) :
    call.SelectsOnce (call.accepted branch) := by
  unfold accepted
  by_cases awaits : call.AwaitsAnswer
  · rw [if_pos awaits]
    cases call.forks.noteConfirmed branch with
    | error error => exact selectsOnce_of_same rfl (by simp)
    | ok forks =>
      by_cases unwanted : call.cancelRequested ∨ call.state = .terminating
      · simp only [if_pos unwanted]
        exact selectsOnce_of_same rfl (by simp [CallAction.isSelectBranch])
      · simp only [if_neg unwanted]
        cases selection : call.selected with
        | none =>
          simp [SelectsOnce, selections, selection, CallAction.isSelectBranch]
        | some selected =>
          refine selectsOnce_of_same selection.symm ?_
          split_ifs <;> simp [CallAction.isSelectBranch]
  · rw [if_neg awaits]
    exact selectsOnce_of_same rfl (by simp)

theorem selectsOnce_rejected
    (call : CallLifecycle) (branch : DialogBranchId) (status : Nat) :
    call.SelectsOnce (call.rejected branch status) := by
  unfold rejected
  by_cases final : 300 ≤ status ∧ status ≤ 699
  · rw [if_pos final]
    cases call.forks.noteTerminated branch with
    | error error => exact selectsOnce_of_same rfl (by simp)
    | ok forks =>
      simp only
      split_ifs <;>
        exact selectsOnce_of_same rfl (by simp [CallAction.isSelectBranch])
  · rw [if_neg final]
    exact selectsOnce_of_same rfl (by simp)

theorem selectsOnce_byeCompleted
    (call : CallLifecycle) (branch : DialogBranchId) :
    call.SelectsOnce (call.byeCompleted branch) := by
  unfold byeCompleted
  cases call.forks.noteTerminated branch with
  | error error => exact selectsOnce_of_same rfl (by simp)
  | ok forks =>
    simp only
    split_ifs <;>
      exact selectsOnce_of_same rfl (by simp [CallAction.isSelectBranch])

theorem selectsOnce_finish (call : CallLifecycle) (reason : CallEndReason) :
    call.SelectsOnce (call.finish reason) :=
  selectsOnce_of_same rfl (by simp [CallAction.isSelectBranch])

/-- Every operation selects a branch only where none was selected. -/
theorem selectsOnce_apply (call : CallLifecycle) (operation : CallOperation) :
    call.SelectsOnce (call.apply operation) := by
  have unchanged (outcome : Outcome) (empty : actionsOf outcome = []) :
      call.SelectsOnce (call, outcome) :=
    selectsOnce_of_same rfl (by simp [empty])
  cases operation with
  | forceEnd reason =>
    simp only [apply, forceEnd]
    split_ifs
    · exact unchanged _ rfl
    · exact call.selectsOnce_finish reason
  | handle event =>
    simp only [apply, handle]
    by_cases terminal : call.state.isTerminal = true
    · rw [if_pos terminal]
      exact unchanged _ rfl
    · rw [if_neg terminal]
      cases event with
      | command command => exact call.selectsOnce_command command
      | provisional branch hasSdp =>
        exact call.selectsOnce_provisional branch hasSdp
      | inviteAccepted branch => exact call.selectsOnce_accepted branch
      | inviteRejected branch status =>
        exact call.selectsOnce_rejected branch status
      | byeCompleted branch => exact call.selectsOnce_byeCompleted branch
      | cancelAccepted => exact unchanged _ rfl
      | remoteBye | signalingTimedOut | mediaTimedOut | transportFailed =>
        exact call.selectsOnce_finish _
      | sessionModification method hasOffer =>
        simp only
        split_ifs
        · exact selectsOnce_of_same rfl (by simp [CallAction.isSelectBranch])
        · exact unchanged _ rfl

end CallLifecycle

/-- A run emits one selection once a branch is selected, and none before. -/
theorem countP_isSelectBranch_emitted (operations : List CallOperation) :
    (emitted operations).countP CallAction.isSelectBranch = (callAfter operations).selections := by
  induction operations using List.reverseRecOn with
  | nil => rfl
  | append_singleton earlier operation ih =>
    rw [emitted_concat, List.countP_append, ih]
    have counted := (callAfter earlier).selectsOnce_apply operation
    rw [CallLifecycle.SelectsOnce] at counted
    rw [← counted]
    simp [callAfter]

/-- In every run, each 2xx that reaches a call awaiting an answer is
acknowledged and at most one branch is ever selected, exactly when each such
2xx comes from a branch the fork set knows or still has room for. -/
theorem forked_successes_acknowledged_iff (operations : List CallOperation) : (Run.AllSteps
        (fun earlier operation => ∀ branch, operation = .handle (.inviteAccepted branch) →
          (callAfter earlier).AwaitsAnswer →
          (callAfter earlier).Acknowledges branch) operations ∧
      (emitted operations).countP CallAction.isSelectBranch ≤ 1) ↔
      Run.AllSteps
        (fun earlier operation => ∀ branch, operation = .handle (.inviteAccepted branch) →
          (callAfter earlier).AwaitsAnswer →
          (callAfter earlier).forks.Admits branch) operations := by
  have selectedOnce : (emitted operations).countP CallAction.isSelectBranch ≤ 1 := by
    rw [countP_isSelectBranch_emitted, CallLifecycle.selections]
    split_ifs <;> omega
  rw [and_iff_left selectedOnce]
  refine Run.allSteps_congr (fun earlier operation => ?_) operations
  constructor
  · intro acknowledged branch isAnswer awaits
    exact (CallLifecycle.acknowledges_iff awaits branch).mp (acknowledged branch isAnswer awaits)
  · intro admitted branch isAnswer awaits
    exact (CallLifecycle.acknowledges_iff awaits branch).mpr (admitted branch isAnswer awaits)

/-- One of seventeen distinct branch identities. -/
def letterBranch (index : Fin 17) : DialogBranchId where
  asStr := String.ofList [Char.ofNat (97 + index)]
  nonempty := by revert index; decide
  bounded := by revert index; decide
  printable := by revert index; decide

/-- The seventeenth forked 2xx of a call is neither acknowledged nor ended. -/
theorem seventeenth_success_unacknowledged :
    ¬Run.AllSteps
      (fun earlier operation => ∀ branch, operation = .handle (.inviteAccepted branch) →
        (callAfter earlier).AwaitsAnswer →
        (callAfter earlier).Acknowledges branch)
      (.handle (.command .start) ::
        (List.finRange 17).map fun index =>
          .handle (.inviteAccepted (letterBranch index))) := by
  intro acknowledged
  let earlier : List CallOperation := .handle (.command .start) ::
    ((List.finRange 17).take 16).map fun index =>
      .handle (.inviteAccepted (letterBranch index))
  have awaits : (callAfter earlier).AwaitsAnswer := by decide +kernel
  have refused : ¬(callAfter earlier).forks.Admits (letterBranch 16) := by
    decide +kernel
  exact refused ((CallLifecycle.acknowledges_iff awaits _).mp
    (acknowledged earlier (.handle (.inviteAccepted (letterBranch 16))) [] rfl _ rfl awaits))

end Call
end LiveAISIP
