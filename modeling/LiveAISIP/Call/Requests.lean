import LiveAISIP.Call.Lifecycle

/-!
# The CANCEL and BYE requests of a call

One operation of a call makes one of a few transitions; each of them says
what becomes of the state, the selection and the cancel flags, and which
CANCEL or BYE is emitted.  What a whole run emits follows from these
transitions and from which 2xx responses the run has taken in.
-/

namespace LiveAISIP
namespace Call

open Sip
open CallAction ForkSet List Run

/-- The action starts a CANCEL or BYE request. -/
def CallAction.isTeardown : CallAction → Bool
  | .sendCancel => true
  | .sendBye _ => true
  | _ => false

/-- The call takes in a 2xx of `branch`: it awaits an answer and its fork set
admits the branch. -/
def CallLifecycle.Takes
    (call : CallLifecycle) (operation : CallOperation) (branch : DialogBranchId) : Prop :=
  operation = .handle (.inviteAccepted branch) ∧ call.AwaitsAnswer ∧ call.forks.Admits branch

instance
    (call : CallLifecycle) (operation : CallOperation) (branch : DialogBranchId) :
    Decidable (call.Takes operation branch) :=
  inferInstanceAs (Decidable (_ ∧ _ ∧ _))

/-- No branch is forgotten. -/
def ForkSet.Retains (later earlier : ForkSet) : Prop :=
  ∀ branch, earlier.Knows branch → later.Knows branch

theorem ForkSet.Retains.refl (forks : ForkSet) : forks.Retains forks := fun _ known => known

/-- An update keeps every branch and knows the updated one. -/
theorem ForkSet.upsert_retains
    {forks updated : ForkSet} {id : DialogBranchId} {state : BranchState}
    (upserted : forks.upsert id state = .ok updated) :
    updated.Retains forks ∧ updated.Knows id := by
  by_cases admits : forks.Admits id
  · obtain ⟨result, same, members⟩ := upsert_of_admits admits state
    obtain rfl : result = updated := by
      rw [same] at upserted
      exact Except.ok.inj upserted
    have known : result.Knows id := mem_map.mpr ⟨⟨id, state⟩, (members _).mpr (.inl rfl), rfl⟩
    refine ⟨fun branch earlier => ?_, known⟩
    obtain ⟨old, member, rfl⟩ := mem_map.mp earlier
    by_cases different : old.id = id
    · exact different ▸ known
    · exact mem_map.mpr ⟨old, (members _).mpr (.inr ⟨member, different⟩), rfl⟩
  · rw [upsert_of_not_admits admits] at upserted
    cases upserted

namespace CallLifecycle

variable {call : CallLifecycle} {operation : CallOperation}

/-- The transition that one operation makes. -/
inductive Transition (call : CallLifecycle) (operation : CallOperation) :
    CallLifecycle → List CallAction → Prop
  /-- The state, the selection and the cancel flags stay. -/
  | keeps
      {next : CallLifecycle}
      {actions : List CallAction}
      (state : next.state = call.state)
      (selected : next.selected = call.selected)
      (cancelRequested : next.cancelRequested = call.cancelRequested)
      (cancelSent : next.cancelSent = call.cancelSent)
      (forks : next.forks.Retains call.forks)
      (quiet : ∀ action ∈ actions, action.isTeardown = false)
      (untaken : ∀ branch, ¬call.Takes operation branch)
      (unheard : operation = .handle (.command .hangup) → call.state ≠ .inviting) :
      Transition call operation next actions
  /-- The INVITE is sent. -/
  | starts
      (start : operation = .handle (.command .start))
      (idle : call.state = .idle) :
      Transition call operation { call with state := .inviting } [.sendInvite]
  /-- The INVITE is cancelled, with one CANCEL. -/
  | cancels
      (hangup : operation = .handle (.command .hangup))
      (unanswered : call.state = .inviting ∨ call.state = .cancelling) :
      Transition call operation
        { call with
            cancelRequested := true
            state := .cancelling
            cancelSent := true }
        (if call.cancelSent then [] else [.sendCancel])
  /-- The established dialog is ended with a BYE. -/
  | hangsUp
      (branch : DialogBranchId)
      (hangup : operation = .handle (.command .hangup))
      (established : call.state = .established)
      (selected : call.selected = some branch) :
      Transition call operation { call with state := .terminating } [.sendBye branch]
  /-- An unwanted 2xx is acknowledged and its dialog ended. -/
  | declines
      {forks : ForkSet}
      (branch : DialogBranchId)
      (takes : call.Takes operation branch)
      (unwanted : call.cancelRequested = true ∨ call.state = .terminating)
      (noted : call.forks.noteConfirmed branch = .ok forks) :
      Transition call operation
        { call with forks := forks, state := .terminating }
        [.sendAck branch, .sendBye branch]
  /-- The first wanted 2xx is acknowledged and selected. -/
  | selects
      {forks : ForkSet}
      (branch : DialogBranchId)
      (takes : call.Takes operation branch)
      (wanted : call.cancelRequested = false ∧ call.state ≠ .terminating)
      (unselected : call.selected = none)
      (noted : call.forks.noteConfirmed branch = .ok forks) :
      Transition call operation
        { call with
            forks := forks
            selected := some branch
            state := .established }
        [.sendAck branch, .selectBranch branch]
  /-- A further 2xx is acknowledged, and ended unless it is the selected one. -/
  | repeats
      {forks : ForkSet}
      {selected : DialogBranchId}
      (branch : DialogBranchId)
      (takes : call.Takes operation branch)
      (wanted : call.cancelRequested = false ∧ call.state ≠ .terminating)
      (selection : call.selected = some selected)
      (noted : call.forks.noteConfirmed branch = .ok forks) :
      Transition call operation { call with forks := forks }
        (if selected = branch then [.sendAck branch]
          else [.sendAck branch, .sendBye branch])
  /-- The call ends. -/
  | ends
      {next : CallLifecycle}
      (reason : CallEndReason)
      (live : call.state.isTerminal = false)
      (ended : next.state = .ended reason)
      (cancelSent : next.cancelSent = call.cancelSent)
      (forks : next.forks.Retains call.forks)
      (untaken : ∀ branch, ¬call.Takes operation branch)
      (unheard : operation ≠ .handle (.command .hangup)) :
      Transition call operation next [.ended reason]

/-- An outcome of the call that neither changes it nor emits a request. -/
theorem Transition.of_unchanged {actions : List CallAction}
    (quiet : ∀ action ∈ actions, action.isTeardown = false)
    (untaken : ∀ branch, ¬call.Takes operation branch)
    (unheard : operation = .handle (.command .hangup) → call.state ≠ .inviting) :
    call.Transition operation call actions :=
  .keeps rfl rfl rfl rfl (.refl _) quiet untaken unheard

theorem transition_command
    (call : CallLifecycle) (command : CallCommand) :
    call.Transition (.handle (.command command)) (call.command command).1
      (actionsOf (call.command command).2) := by
  have untaken (branch : DialogBranchId) : ¬call.Takes (.handle (.command command)) branch := by
    simp [Takes]
  cases command with
  | start =>
    simp only [CallLifecycle.command]
    split_ifs with idle
    · exact .starts rfl idle
    · exact .of_unchanged (by simp) untaken (by simp)
  | hangup =>
    simp only [CallLifecycle.command]
    split_ifs with unanswered sent established
    · simpa [sent] using Transition.cancels rfl unanswered
    · simpa [sent] using Transition.cancels rfl unanswered
    · cases selection : call.selected with
      | none =>
        exact .of_unchanged (by simp) untaken (by simp [established])
      | some branch =>
        simpa only [selection, actionsOf_ok] using
          Transition.hangsUp branch rfl established selection
    · refine .of_unchanged (by simp) untaken fun _ inviting => ?_
      exact unanswered (.inl inviting)
  | blindTransfer target | attendedTransfer otherCall =>
    simp only [CallLifecycle.command]
    split_ifs <;>
      exact .of_unchanged (by simp [isTeardown]) untaken (by simp)

theorem transition_provisional
    (call : CallLifecycle) (branch : DialogBranchId) (hasSdp : Bool) :
    call.Transition (.handle (.provisional branch hasSdp)) (call.provisional branch hasSdp).1
      (actionsOf (call.provisional branch hasSdp).2) := by
  have untaken (other : DialogBranchId) :
      ¬call.Takes (.handle (.provisional branch hasSdp)) other := by
    simp [Takes]
  unfold provisional
  by_cases unanswered : call.state = .inviting ∨ call.state = .cancelling
  · rw [if_pos unanswered]
    cases noted : call.forks.noteEarly branch with
    | error error => exact .of_unchanged (by simp) untaken (by simp)
    | ok forks =>
      refine .keeps rfl rfl rfl rfl (upsert_retains noted).1 ?_ untaken (by simp)
      cases hasSdp <;> simp [isTeardown]
  · rw [if_neg unanswered]
    exact .of_unchanged (by simp) untaken (by simp)

theorem transition_accepted (call : CallLifecycle) (branch : DialogBranchId) :
    call.Transition (.handle (.inviteAccepted branch)) (call.accepted branch).1
      (actionsOf (call.accepted branch).2) := by
  unfold accepted
  by_cases awaits : call.AwaitsAnswer
  · rw [if_pos awaits]
    by_cases admits : call.forks.Admits branch
    · have takes : call.Takes (.handle (.inviteAccepted branch)) branch := ⟨rfl, awaits, admits⟩
      obtain ⟨forks, noted, -⟩ := upsert_of_admits admits .confirmed
      rw [← noteConfirmed] at noted
      simp only [noted]
      split_ifs with unwanted
      · exact .declines branch takes unwanted noted
      · obtain ⟨unrequested, staying⟩ := not_or.mp unwanted
        have wanted : call.cancelRequested = false ∧
            call.state ≠ .terminating := ⟨by simpa using unrequested, staying⟩
        cases selection : call.selected with
        | none => exact .selects branch takes wanted selection noted
        | some selected =>
          simpa only [selection, actionsOf_ok] using
            Transition.repeats branch takes wanted selection noted
    · have untaken (other : DialogBranchId) :
          ¬call.Takes (.handle (.inviteAccepted branch)) other := by
        rintro ⟨same, -, admitted⟩
        simp only [CallOperation.handle.injEq, CallEvent.inviteAccepted.injEq] at same
        exact admits (same ▸ admitted)
      simp only [noteConfirmed, upsert_of_not_admits admits]
      exact .of_unchanged (by simp) untaken (by simp)
  · rw [if_neg awaits]
    exact .of_unchanged (by simp) (fun _ takes => awaits takes.2.1) (by simp)

theorem transition_rejected (live : call.state.isTerminal = false)
    (branch : DialogBranchId) (status : Nat) :
    call.Transition (.handle (.inviteRejected branch status)) (call.rejected branch status).1
      (actionsOf (call.rejected branch status).2) := by
  have untaken (other : DialogBranchId) :
      ¬call.Takes (.handle (.inviteRejected branch status)) other := by
    simp [Takes]
  unfold rejected
  split_ifs with final
  · cases noted : call.forks.noteTerminated branch with
    | error error =>
      exact .keeps rfl rfl rfl rfl (.refl _) (by simp) untaken (by simp)
    | ok forks =>
      have retains := (upsert_retains noted).1
      simp only
      split_ifs
      · exact .keeps rfl rfl rfl rfl retains (by simp) untaken (by simp)
      · exact .ends _ live rfl rfl retains untaken (by simp)
      · exact .ends _ live rfl rfl retains untaken (by simp)
  · exact .of_unchanged (by simp) untaken (by simp)

theorem transition_byeCompleted (live : call.state.isTerminal = false) (branch : DialogBranchId) :
    call.Transition (.handle (.byeCompleted branch)) (call.byeCompleted branch).1
      (actionsOf (call.byeCompleted branch).2) := by
  have untaken (other : DialogBranchId) : ¬call.Takes (.handle (.byeCompleted branch)) other := by
    simp [Takes]
  unfold byeCompleted
  cases noted : call.forks.noteTerminated branch with
  | error error => exact .of_unchanged (by simp) untaken (by simp)
  | ok forks =>
    have retains := (upsert_retains noted).1
    simp only
    split_ifs
    · exact .ends _ live rfl rfl retains untaken (by simp)
    · exact .ends _ live rfl rfl retains untaken (by simp)
    · exact .keeps rfl rfl rfl rfl retains (by simp) untaken (by simp)

/-- Every operation makes one of the transitions. -/
theorem transition_apply (call : CallLifecycle) (operation : CallOperation) :
    call.Transition operation (call.apply operation).1 (actionsOf (call.apply operation).2) := by
  by_cases terminal : call.state.isTerminal = true
  · have untaken (branch : DialogBranchId) :
        ¬call.Takes operation branch := by
      rintro ⟨-, awaits, -⟩
      simp [awaits.not_terminal] at terminal
    have silent : actionsOf (call.apply operation).2 = [] := by
      cases operation with
      | handle event => simp [apply, handle, terminal]
      | forceEnd reason => simp [apply, forceEnd, terminal]
    rw [apply_of_terminal terminal, silent]
    refine .of_unchanged (by simp) untaken fun _ inviting => ?_
    simp [inviting, CallState.isTerminal] at terminal
  · have live : call.state.isTerminal = false := by simpa using terminal
    cases operation with
    | forceEnd reason =>
      simp only [apply, forceEnd, live, Bool.false_eq_true, ↓reduceIte]
      exact .ends reason live rfl rfl (.refl _) (by simp [Takes]) (by simp)
    | handle event =>
      simp only [apply, handle, live, Bool.false_eq_true, ↓reduceIte]
      cases event with
      | command command => exact call.transition_command command
      | provisional branch hasSdp =>
        exact call.transition_provisional branch hasSdp
      | inviteAccepted branch => exact call.transition_accepted branch
      | inviteRejected branch status =>
        exact transition_rejected live branch status
      | byeCompleted branch => exact transition_byeCompleted live branch
      | cancelAccepted =>
        exact .of_unchanged (by simp) (by simp [Takes]) (by simp)
      | remoteBye | signalingTimedOut | mediaTimedOut | transportFailed =>
        exact .ends _ live rfl rfl (.refl _) (by simp [Takes]) (by simp)
      | sessionModification method hasOffer =>
        simp only
        split_ifs <;>
          exact .of_unchanged (by simp [isTeardown]) (by simp [Takes]) (by simp)

/-- No final response has been taken in yet. -/
def Unanswered (call : CallLifecycle) : Prop :=
  call.state = .idle ∨ call.state = .inviting ∨ call.state = .cancelling

/-- A 2xx of `branch` is answered with a BYE. -/
def Declines (call : CallLifecycle) (branch : DialogBranchId) : Prop := call.state = .terminating ∨
    (call.state = .established ∧ call.selected ≠ some branch)

/-- How the branches that a call has taken in and the BYEs that it has sent
determine each other. -/
structure Accounts
    (taken : DialogBranchId → Prop) (byes : DialogBranchId → Nat)
    (call : CallLifecycle) : Prop where
  unanswered : call.Unanswered → ∀ branch, ¬taken branch
  unselected : call.Unanswered → call.selected = none
  requested : call.cancelRequested = true →
    call.state ≠ .idle ∧ call.state ≠ .inviting ∧ call.state ≠ .established
  cancelling : call.state = .cancelling → call.cancelRequested = true
  selection : call.state = .established →
    ∃ branch, call.selected = some branch ∧ taken branch ∧ byes branch = 0
  known : ∀ branch, taken branch → call.forks.Knows branch
  untaken : ∀ branch, ¬taken branch → byes branch = 0
  sent : ∀ branch, taken branch → call.Declines branch → 0 < byes branch

/-- The BYEs to a branch among some actions. -/
def byesTo (actions : List CallAction) (branch : DialogBranchId) : Nat :=
  actions.count (.sendBye branch)

theorem byesTo_of_quiet
    {actions : List CallAction} (quiet : ∀ action ∈ actions, action.isTeardown = false)
    (branch : DialogBranchId) :
    byesTo actions branch = 0 := by
  apply count_eq_zero.mpr
  intro member
  simpa [isTeardown] using quiet _ member

theorem Takes.eq
    {first second : DialogBranchId} (takesFirst : call.Takes operation first)
    (takesSecond : call.Takes operation second) :
    second = first := by
  have same := takesSecond.1.symm.trans takesFirst.1
  simpa using same

/-- An operation that is no 2xx takes in no branch. -/
theorem not_takes_of_command {command : CallCommand}
    (isCommand : operation = .handle (.command command)) (branch : DialogBranchId) :
    ¬call.Takes operation branch := by
  simp [Takes, isCommand]

section Accounts

variable
    {taken : DialogBranchId → Prop}
    {byes : DialogBranchId → Nat}
    {call : CallLifecycle}

/-- A call that takes in a wanted 2xx has none selected only while it is
inviting. -/
theorem Accounts.inviting_of_unselected
    (accounts : call.Accounts taken byes) (awaits : call.AwaitsAnswer)
    (wanted : call.cancelRequested = false ∧ call.state ≠ .terminating)
    (unselected : call.selected = none) :
    call.state = .inviting := by
  rcases awaits with state | state | state | state
  · exact state
  · have requested := accounts.cancelling state
    simp [wanted.1] at requested
  · obtain ⟨branch, selected, -⟩ := accounts.selection state
    simp [selected] at unselected
  · exact absurd state wanted.2

/-- A call that takes in a 2xx after its selection is established. -/
theorem Accounts.established_of_selected
    (accounts : call.Accounts taken byes) (awaits : call.AwaitsAnswer)
    (wanted : call.cancelRequested = false ∧ call.state ≠ .terminating)
    {branch : DialogBranchId} (selected : call.selected = some branch) :
    call.state = .established := by
  rcases awaits with state | state | state | state
  · simpa [selected] using accounts.unselected (.inr (.inl state))
  · simpa [selected] using accounts.unselected (.inr (.inr state))
  · exact state
  · exact absurd state wanted.2

/-- In a call that declines every 2xx, each branch taken in was sent a BYE. -/
theorem Accounts.sent_of_unwanted
    (accounts : call.Accounts taken byes) (awaits : call.AwaitsAnswer)
    (unwanted : call.cancelRequested = true ∨ call.state = .terminating)
    {branch : DialogBranchId} (wasTaken : taken branch) :
    0 < byes branch := by
  by_cases terminating : call.state = .terminating
  · exact accounts.sent branch wasTaken (.inl terminating)
  · obtain ⟨-, notInviting, notEstablished⟩ :=
      accounts.requested (unwanted.resolve_right terminating)
    have cancelling : call.state = .cancelling := by
      rcases awaits with state | state | state | state
      · exact absurd state notInviting
      · exact state
      · exact absurd state notEstablished
      · exact absurd state terminating
    exact absurd wasTaken (accounts.unanswered (.inr (.inr cancelling)) branch)

/-- Every transition keeps the accounts. -/
theorem Accounts.step
    {operation : CallOperation} {next : CallLifecycle}
    {actions : List CallAction} (accounts : call.Accounts taken byes)
    (transition : call.Transition operation next actions) :
    next.Accounts (fun branch => taken branch ∨ call.Takes operation branch)
      (fun branch => byes branch + byesTo actions branch) := by
  have sameTaken (untaken : ∀ branch, ¬call.Takes operation branch) :
      (fun branch => taken branch ∨ call.Takes operation branch) = taken := by
    funext branch
    simp [untaken branch]
  have sameByes (quiet : ∀ action ∈ actions, action.isTeardown = false) :
      (fun branch => byes branch + byesTo actions branch) = byes := by
    funext branch
    rw [byesTo_of_quiet quiet, Nat.add_zero]
  cases transition with
  | keeps state selected requested sent forks quiet untaken unheard =>
    rw [sameTaken untaken, sameByes quiet]
    refine ⟨?_, ?_, ?_, ?_, ?_, ?_, accounts.untaken, ?_⟩
    · simpa only [Unanswered, state] using accounts.unanswered
    · simpa only [Unanswered, state, selected] using accounts.unselected
    · simpa only [state, requested] using accounts.requested
    · simpa only [state, requested] using accounts.cancelling
    · simpa only [state, selected] using accounts.selection
    · exact fun branch wasTaken =>
        forks branch (accounts.known branch wasTaken)
    · simpa only [Declines, state, selected] using accounts.sent
  | starts start idle =>
    rw [sameTaken (not_takes_of_command start), sameByes (by simp [isTeardown])]
    have unanswered := accounts.unanswered (.inl idle)
    refine ⟨fun _ => unanswered, fun _ => accounts.unselected (.inl idle),
      fun requested => absurd idle (accounts.requested requested).1, by simp,
      by simp, accounts.known, accounts.untaken, ?_⟩
    intro branch wasTaken
    exact absurd wasTaken (unanswered branch)
  | cancels hangup open_ =>
    have quiet (branch : DialogBranchId) : byesTo
        (if call.cancelSent then [] else [.sendCancel]) branch = 0 := by
      split_ifs <;> simp [byesTo]
    have unanswered : call.Unanswered := .inr open_
    simp only [quiet, Nat.add_zero]
    rw [sameTaken (not_takes_of_command hangup)]
    refine ⟨fun _ => accounts.unanswered unanswered,
      fun _ => accounts.unselected unanswered, by simp, by simp, by simp,
      accounts.known, accounts.untaken, ?_⟩
    intro branch wasTaken
    exact absurd wasTaken (accounts.unanswered unanswered branch)
  | hangsUp branch hangup established selected =>
    rw [sameTaken (not_takes_of_command hangup)]
    obtain ⟨chosen, isChosen, chosenTaken, -⟩ := accounts.selection established
    obtain rfl : chosen = branch := by simpa [selected] using isChosen.symm
    refine ⟨by simp [Unanswered], by simp [Unanswered], by simp, by simp,
      by simp, accounts.known, ?_, ?_⟩
    · intro other otherUntaken
      have different : chosen ≠ other := by
        rintro rfl
        exact otherUntaken chosenTaken
      simp [byesTo, accounts.untaken other otherUntaken, different]
    · intro other otherTaken _
      by_cases same : other = chosen
      · simp [byesTo, same]
      · have declined : call.Declines other :=
          .inr ⟨established, by simpa [selected] using Ne.symm same⟩
        exact Nat.lt_of_lt_of_le (accounts.sent other otherTaken declined) (Nat.le_add_right _ _)
  | declines branch takes unwanted noted =>
    obtain ⟨retains, known⟩ := upsert_retains noted
    refine ⟨by simp [Unanswered], by simp [Unanswered], by simp, by simp, by simp, ?_, ?_, ?_⟩
    · rintro other (otherTaken | otherTakes)
      · exact retains other (accounts.known other otherTaken)
      · exact takes.eq otherTakes ▸ known
    · intro other otherUntaken
      obtain ⟨before, now⟩ := not_or.mp otherUntaken
      have different : branch ≠ other := by
        rintro rfl
        exact now takes
      simp [byesTo, accounts.untaken other before, different]
    · rintro other (otherTaken | otherTakes) _
      · exact Nat.lt_of_lt_of_le
          (accounts.sent_of_unwanted takes.2.1 unwanted otherTaken)
          (Nat.le_add_right _ _)
      · simp [byesTo, takes.eq otherTakes]
  | selects branch takes wanted unselected noted =>
    obtain ⟨retains, known⟩ := upsert_retains noted
    have inviting := accounts.inviting_of_unselected takes.2.1 wanted unselected
    have unanswered := accounts.unanswered (.inr (.inl inviting))
    rw [sameByes (by simp [isTeardown])]
    refine ⟨by simp [Unanswered], by simp [Unanswered], ?_, by simp, ?_, ?_, ?_, ?_⟩
    · intro requested
      simp [wanted.1] at requested
    · intro _
      exact ⟨branch, rfl, .inr takes, accounts.untaken branch (unanswered branch)⟩
    · rintro other (otherTaken | otherTakes)
      · exact retains other (accounts.known other otherTaken)
      · exact takes.eq otherTakes ▸ known
    · intro other otherUntaken
      exact accounts.untaken other (unanswered other)
    · rintro other (otherTaken | otherTakes) declined
      · exact absurd otherTaken (unanswered other)
      · simp [Declines, takes.eq otherTakes] at declined
  | @repeats forks selected branch takes wanted selection noted =>
    obtain ⟨retains, known⟩ := upsert_retains noted
    have established := accounts.established_of_selected takes.2.1 wanted selection
    obtain ⟨chosen, isChosen, chosenTaken, unsent⟩ := accounts.selection established
    obtain rfl : chosen = selected := by simpa [selection] using isChosen.symm
    refine ⟨by simp [Unanswered, established], by simp [Unanswered, established],
      by simp [wanted.1], by simp [established], ?_, ?_, ?_, ?_⟩
    · intro _
      refine ⟨chosen, selection, .inl chosenTaken, ?_⟩
      split_ifs with same
      · simp [byesTo, unsent]
      · simp [byesTo, unsent, Ne.symm same]
    · rintro other (otherTaken | otherTakes)
      · exact retains other (accounts.known other otherTaken)
      · exact takes.eq otherTakes ▸ known
    · intro other otherUntaken
      obtain ⟨before, now⟩ := not_or.mp otherUntaken
      have different : branch ≠ other := by
        rintro rfl
        exact now takes
      split_ifs <;> simp [byesTo, accounts.untaken other before, different]
    · rintro other (otherTaken | otherTakes) declined
      · exact Nat.lt_of_lt_of_le (accounts.sent other otherTaken declined) (Nat.le_add_right _ _)
      · obtain rfl := takes.eq otherTakes
        have different : chosen ≠ other := by
          simpa [Declines, established, selection] using declined
        simp [byesTo, different]
  | ends reason live ended cancelSent forks untaken unheard =>
    rw [sameTaken untaken, sameByes (by simp [isTeardown])]
    exact ⟨by simp [Unanswered, ended], by simp [Unanswered, ended],
      by simp [ended], by simp [ended], by simp [ended],
      fun branch wasTaken => forks branch (accounts.known branch wasTaken),
      accounts.untaken, by simp [Declines, ended]⟩

end Accounts

end CallLifecycle

/-- The run has taken in a 2xx of `branch`. -/
def Taken (operations : List CallOperation) (branch : DialogBranchId) : Prop := SomeStep
    (fun earlier operation => (callAfter earlier).Takes operation branch)
    operations

theorem taken_concat
    (operations : List CallOperation) (last : CallOperation) (branch : DialogBranchId) :
    Taken (operations ++ [last]) branch ↔
      Taken operations branch ∨ (callAfter operations).Takes last branch :=
  someStep_concat _ operations last

@[simp] theorem callAfter_concat
    (operations : List CallOperation) (last : CallOperation) :
    callAfter (operations ++ [last]) = ((callAfter operations).apply last).1 := by
  simp [callAfter]

theorem byesTo_emitted_concat
    (operations : List CallOperation) (last : CallOperation) (branch : DialogBranchId) :
    CallLifecycle.byesTo (emitted (operations ++ [last])) branch =
      CallLifecycle.byesTo (emitted operations) branch +
        CallLifecycle.byesTo (actionsOf ((callAfter operations).apply last).2) branch := by
  rw [emitted_concat]
  exact count_append

/-- The accounts of a run hold after it. -/
theorem accounts_callAfter (operations : List CallOperation) :
    (callAfter operations).Accounts (Taken operations)
      (CallLifecycle.byesTo (emitted operations)) := by
  induction operations using reverseRecOn with
  | nil =>
    have untaken (branch : DialogBranchId) : ¬Taken [] branch := not_someStep_nil _
    exact ⟨fun _ => untaken, fun _ => rfl, by simp [callAfter, CallLifecycle.idle],
      by simp [callAfter, CallLifecycle.idle],
      by simp [callAfter, CallLifecycle.idle], fun branch taken => absurd taken (untaken branch),
      fun branch _ => rfl, fun branch taken => absurd taken (untaken branch)⟩
  | append_singleton earlier last ih =>
    have stepped := ih.step ((callAfter earlier).transition_apply last)
    have sameTaken : Taken (earlier ++ [last]) = fun branch =>
        Taken earlier branch ∨ (callAfter earlier).Takes last branch := by
      funext branch
      exact propext (taken_concat earlier last branch)
    have sameByes : CallLifecycle.byesTo (emitted (earlier ++ [last])) =
        fun branch => CallLifecycle.byesTo (emitted earlier) branch + CallLifecycle.byesTo
            (actionsOf ((callAfter earlier).apply last).2) branch := by
      funext branch
      exact byesTo_emitted_concat earlier last branch
    rw [sameTaken, sameByes, callAfter_concat]
    exact stepped

/-- A repeated 2xx reaches a call that has ended, or the established call
that selected its branch. -/
def RepeatsHarmlessly
    (earlier : List CallOperation) (operation : CallOperation) : Prop :=
  ∀ branch, operation = .handle (.inviteAccepted branch) → Taken earlier branch →
    (callAfter earlier).state.isTerminal = true ∨ ((callAfter earlier).state = .established ∧
        (callAfter earlier).selected = some branch)

namespace CallLifecycle

/-- A transition sends a BYE to a branch only where it hangs that branch up or
takes in a 2xx of it that is not the selected one. -/
theorem Transition.byesTo_cases
    {taken : DialogBranchId → Prop} {byes : DialogBranchId → Nat}
    {call next : CallLifecycle} {operation : CallOperation} {actions : List CallAction}
    (transition : call.Transition operation next actions)
    (accounts : call.Accounts taken byes) (branch : DialogBranchId) :
    byesTo actions branch = 0 ∨ (byesTo actions branch = 1 ∧
        ((call.state = .established ∧ call.selected = some branch) ∨ (call.Takes operation branch ∧
            ¬(call.state = .established ∧ call.selected = some branch)))) := by
  cases transition with
  | keeps state selected requested sent forks quiet untaken unheard =>
    exact .inl (byesTo_of_quiet quiet branch)
  | starts start idle => exact .inl (by simp [byesTo])
  | cancels hangup open_ => exact .inl (by split_ifs <;> simp [byesTo])
  | hangsUp chosen hangup established selected =>
    by_cases same : chosen = branch
    · subst same
      exact .inr ⟨by simp [byesTo], .inl ⟨established, selected⟩⟩
    · exact .inl (by simp [byesTo, same])
  | declines answered takes unwanted noted =>
    by_cases same : answered = branch
    · subst same
      refine .inr ⟨by simp [byesTo], .inr ⟨takes, ?_⟩⟩
      rintro ⟨established, -⟩
      rcases unwanted with requested | terminating
      · exact (accounts.requested requested).2.2 established
      · simp [terminating] at established
    · exact .inl (by simp [byesTo, same])
  | selects answered takes wanted unselected noted =>
    exact .inl (by simp [byesTo])
  | @repeats forks chosen answered takes wanted selection noted =>
    by_cases isChosen : chosen = answered
    · exact .inl (by simp [byesTo, isChosen])
    · by_cases same : answered = branch
      · subst same
        refine .inr ⟨by simp [byesTo, isChosen], .inr ⟨takes, ?_⟩⟩
        simp [selection, isChosen]
      · exact .inl (by simp [byesTo, isChosen, same])
  | ends reason live ended cancelSent forks untaken unheard => exact .inl (by simp [byesTo])

/-- A 2xx that is taken in and declined sends its branch a BYE. -/
theorem Transition.byesTo_of_declines
    {taken : DialogBranchId → Prop} {byes : DialogBranchId → Nat}
    {call next : CallLifecycle} {operation : CallOperation} {actions : List CallAction}
    (transition : call.Transition operation next actions)
    (accounts : call.Accounts taken byes) {branch : DialogBranchId}
    (takes : call.Takes operation branch) (declined : call.Declines branch) :
    byesTo actions branch = 1 := by
  cases transition with
  | keeps state selected requested sent forks quiet untaken unheard =>
    exact absurd takes (untaken branch)
  | starts start idle => exact absurd takes (not_takes_of_command start branch)
  | cancels hangup open_ | hangsUp chosen hangup established selected =>
    exact absurd takes (not_takes_of_command hangup branch)
  | declines answered takesAnswered unwanted noted =>
    simp [byesTo, takesAnswered.eq takes]
  | selects answered takesAnswered wanted unselected noted =>
    have inviting := accounts.inviting_of_unselected takes.2.1 wanted unselected
    simp [Declines, inviting] at declined
  | @repeats forks chosen answered takesAnswered wanted selection noted =>
    obtain rfl := takesAnswered.eq takes
    have different : chosen ≠ branch := by
      simpa [Declines, wanted.2, selection,
        accounts.established_of_selected takes.2.1 wanted selection]
        using declined
    simp [byesTo, different]
  | ends reason live ended cancelSent forks untaken unheard =>
    exact absurd takes (untaken branch)

end CallLifecycle

/-- Where every branch was sent at most one BYE so far, one more operation
keeps that exactly when it is no harmful repetition. -/
theorem byesTo_concat_le_one_iff
    {earlier : List CallOperation}
    (once : ∀ branch, CallLifecycle.byesTo (emitted earlier) branch ≤ 1)
    (operation : CallOperation) :
    (∀ branch, CallLifecycle.byesTo (emitted (earlier ++ [operation])) branch ≤ 1) ↔
      RepeatsHarmlessly earlier operation := by
  have accounts := accounts_callAfter earlier
  have transition := (callAfter earlier).transition_apply operation
  constructor
  · rintro still branch rfl taken
    by_contra harmful
    obtain ⟨live, unselected⟩ := not_or.mp harmful
    have answered : ¬(callAfter earlier).Unanswered := fun unanswered =>
      accounts.unanswered unanswered branch taken
    have declined : (callAfter earlier).Declines branch := by
      cases state : (callAfter earlier).state with
      | idle => exact absurd (.inl state) answered
      | inviting => exact absurd (.inr (.inl state)) answered
      | cancelling => exact absurd (.inr (.inr state)) answered
      | established =>
        exact .inr ⟨state, fun same => unselected ⟨state, same⟩⟩
      | terminating => exact .inl state
      | ended reason => simp [state, CallState.isTerminal] at live
    have awaits : (callAfter earlier).AwaitsAnswer := by
      rcases declined with terminating | ⟨established, -⟩
      · exact .inr (.inr (.inr terminating))
      · exact .inr (.inr (.inl established))
    have sentAgain := transition.byesTo_of_declines accounts
      ⟨rfl, awaits, .inl (accounts.known branch taken)⟩ declined
    have sentBefore := accounts.sent branch taken declined
    have total := still branch
    rw [byesTo_emitted_concat] at total
    omega
  · intro harmless branch
    rw [byesTo_emitted_concat]
    rcases transition.byesTo_cases accounts branch with
      silent | ⟨sends, ⟨established, selected⟩ | ⟨takes, unselected⟩⟩
    · have := once branch
      omega
    · obtain ⟨chosen, isChosen, -, unsent⟩ := accounts.selection established
      obtain rfl : chosen = branch := by simpa [selected] using isChosen.symm
      omega
    · have untaken : ¬Taken earlier branch := by
        intro taken
        rcases harmless branch takes.1 taken with terminal | chosen
        · simp [takes.2.1.not_terminal] at terminal
        · exact unselected chosen
      have unsent := accounts.untaken branch untaken
      omega

/-- In every run, each branch is sent at most one BYE exactly when every
repeated 2xx of a branch reaches a call that has ended, or the established
call that selected this branch. -/
theorem one_bye_per_branch_iff (operations : List CallOperation) :
    (∀ branch, (emitted operations).count (.sendBye branch) ≤ 1) ↔
      AllSteps RepeatsHarmlessly operations := by
  induction operations using reverseRecOn with
  | nil => simp [emitted]
  | append_singleton earlier last ih =>
    rw [allSteps_concat, ← ih]
    constructor
    · intro still
      have once (branch : DialogBranchId) : CallLifecycle.byesTo (emitted earlier) branch ≤ 1 := by
        have total := still branch
        rw [← CallLifecycle.byesTo, byesTo_emitted_concat] at total
        omega
      exact ⟨once, (byesTo_concat_le_one_iff once last).mp still⟩
    · rintro ⟨once, harmless⟩
      exact (byesTo_concat_le_one_iff once last).mpr harmless

/-- A cancelled call whose 2xx is received twice. -/
def cancelledAnswerTwice : List CallOperation :=
  [.handle (.command .start), .handle (.command .hangup),
    .handle (.inviteAccepted (letterBranch 0)), .handle (.inviteAccepted (letterBranch 0))]

/-- A retransmitted 2xx of a cancelled call is sent a second BYE. -/
theorem retransmitted_answer_byed_twice :
    ¬∀ branch, (emitted cancelledAnswerTwice).count (.sendBye branch) ≤ 1 := by
  intro once
  have twice : (emitted cancelledAnswerTwice).count (.sendBye (letterBranch 0)) = 2 := by
    decide +kernel
  have atMostOnce := once (letterBranch 0)
  omega

/-- The CANCEL of a call is sent when it is cancelled, and only then. -/
structure CallLifecycle.CancelFlags (call : CallLifecycle) : Prop where
  unsent : call.state = .idle ∨ call.state = .inviting → call.cancelSent = false
  sent : call.state = .cancelling → call.cancelSent = true

namespace CallLifecycle

/-- Every transition keeps the flags right. -/
theorem CancelFlags.step
    {call next : CallLifecycle} {operation : CallOperation}
    {actions : List CallAction} (flags : call.CancelFlags)
    (transition : call.Transition operation next actions) :
    next.CancelFlags := by
  cases transition with
  | keeps state selected requested sent forks quiet untaken unheard =>
    refine ⟨?_, ?_⟩
    · simpa only [state, sent] using flags.unsent
    · simpa only [state, sent] using flags.sent
  | starts start idle => exact ⟨fun _ => flags.unsent (.inl idle), by simp⟩
  | cancels hangup open_ => exact ⟨by simp, fun _ => rfl⟩
  | hangsUp branch hangup established selected => exact ⟨by simp, by simp⟩
  | declines branch takes unwanted noted => exact ⟨by simp, by simp⟩
  | selects branch takes wanted unselected noted => exact ⟨by simp, by simp⟩
  | repeats branch takes wanted selection noted =>
    exact ⟨flags.unsent, flags.sent⟩
  | ends reason live ended sent forks untaken unheard =>
    exact ⟨by simp [ended], by simp [ended]⟩

/-- The number of CANCELs that some actions send. -/
def cancels (actions : List CallAction) : Nat := actions.count .sendCancel

/-- A transition sends a CANCEL exactly when an inviting call is hung up. -/
theorem CancelFlags.cancels_eq
    {call next : CallLifecycle} {operation : CallOperation}
    {actions : List CallAction} (flags : call.CancelFlags)
    (transition : call.Transition operation next actions) :
    cancels actions = (if operation = .handle (.command .hangup) ∧ call.state = .inviting
          then 1 else 0) ∧
      cancels actions + call.cancelSent.toNat = next.cancelSent.toNat := by
  cases transition with
  | keeps state selected requested sent forks quiet untaken unheard =>
    have silent : cancels actions = 0 := by
      apply count_eq_zero.mpr
      intro member
      simpa [isTeardown] using quiet _ member
    rw [silent, sent, if_neg fun both => unheard both.1 both.2]
    simp
  | starts start idle => simp [cancels, start]
  | cancels hangup open_ =>
    rcases open_ with inviting | cancelling
    · simp [cancels, hangup, inviting, flags.unsent (.inr inviting)]
    · simp [cancels, cancelling, flags.sent cancelling]
  | hangsUp branch hangup established selected =>
    simp [cancels, established]
  | declines branch takes unwanted noted => simp [cancels, takes.1]
  | selects branch takes wanted unselected noted => simp [cancels, takes.1]
  | repeats branch takes wanted selection noted =>
    split_ifs <;> simp_all [cancels, takes.1]
  | ends reason live ended sent forks untaken unheard =>
    simp [cancels, unheard, sent]

end CallLifecycle

/-- The CANCEL flags are right after every run. -/
theorem cancelFlags_callAfter (operations : List CallOperation) :
    (callAfter operations).CancelFlags :=
  invariant CallLifecycle.CancelFlags ⟨fun _ => rfl, by simp [CallLifecycle.idle]⟩
    (fun call operation flags => flags.step (call.transition_apply operation))
    operations

/-- A run sends one CANCEL once the flag is set, and none before. -/
theorem cancels_emitted (operations : List CallOperation) :
    CallLifecycle.cancels (emitted operations) = (callAfter operations).cancelSent.toNat := by
  induction operations using reverseRecOn with
  | nil => rfl
  | append_singleton earlier last ih =>
    have counted := ((cancelFlags_callAfter earlier).cancels_eq
      ((callAfter earlier).transition_apply last)).2
    rw [callAfter_concat, ← counted, ← ih, emitted_concat]
    simp only [CallLifecycle.cancels, count_append]
    omega

/-- A non-2xx final response ends the call. -/
def CallLifecycle.EndsRejected
    (call : CallLifecycle) (operation : CallOperation) : Prop :=
  (∃ branch status, operation = .handle (.inviteRejected branch status)) ∧
    (call.apply operation).1.state.isTerminal = true

/-- A call that has ended stays ended. -/
theorem isTerminal_of_endsRejected
    {operations : List CallOperation}
    (rejected : SomeStep (fun earlier operation => (callAfter earlier).EndsRejected operation)
      operations) :
    (callAfter operations).state.isTerminal = true := by
  induction operations using reverseRecOn with
  | nil => exact absurd rejected (not_someStep_nil _)
  | append_singleton earlier last ih =>
    rw [callAfter_concat]
    rcases (someStep_concat _ _ _).mp rejected with before | now
    · have terminal := ih before
      rw [CallLifecycle.apply_of_terminal terminal]
      exact terminal
    · exact now.2

/-- In every run, the CANCEL is sent at most once; it is sent exactly by the
hangup of a call that is inviting, whether or not a provisional response was
observed, and never after a 2xx was taken in or a non-2xx final response ended
the call. -/
theorem cancel_sent_by_first_hangup (operations : List CallOperation) :
    (emitted operations).count .sendCancel ≤ 1 ∧ AllSteps
        (fun earlier operation =>
          CallAction.sendCancel ∈
              actionsOf ((callAfter earlier).apply operation).2 ↔
            operation = .handle (.command .hangup) ∧
              (callAfter earlier).state = .inviting) operations ∧
      AllSteps
        (fun earlier operation =>
          CallAction.sendCancel ∈
              actionsOf ((callAfter earlier).apply operation).2 →
            (∀ branch, ¬Taken earlier branch) ∧ ¬SomeStep (fun prior rejection =>
                (callAfter prior).EndsRejected rejection) earlier)
        operations := by
  have sends (earlier : List CallOperation) (operation : CallOperation) : CallAction.sendCancel ∈
          actionsOf ((callAfter earlier).apply operation).2 ↔
        operation = .handle (.command .hangup) ∧ (callAfter earlier).state = .inviting := by
    have counted := ((cancelFlags_callAfter earlier).cancels_eq
      ((callAfter earlier).transition_apply operation)).1
    rw [← count_pos_iff, ← CallLifecycle.cancels, counted]
    split_ifs with hungUp <;> simp [hungUp]
  refine ⟨?_, fun earlier operation _ _ => sends earlier operation, ?_⟩
  · rw [← CallLifecycle.cancels, cancels_emitted]
    exact Bool.toNat_le _
  · intro earlier operation later _ sent
    have inviting := ((sends earlier operation).mp sent).2
    refine ⟨(accounts_callAfter earlier).unanswered (.inr (.inl inviting)), ?_⟩
    intro rejected
    have terminal := isTerminal_of_endsRejected rejected
    simp [inviting, CallState.isTerminal] at terminal

/-- A call hung up before any response sends its CANCEL at once. -/
theorem cancel_sent_before_provisional :
    ¬AllSteps
      (fun earlier operation =>
        CallAction.sendCancel ∈
            actionsOf ((callAfter earlier).apply operation).2 →
          ∃ branch hasSdp, CallOperation.handle (.provisional branch hasSdp) ∈ earlier)
      [.handle (.command .start), .handle (.command .hangup)] := by
  intro delayed
  obtain ⟨branch, hasSdp, provisional⟩ := delayed
    [.handle (.command .start)] (.handle (.command .hangup)) [] rfl
    (by decide +kernel)
  simp at provisional

end Call
end LiveAISIP
