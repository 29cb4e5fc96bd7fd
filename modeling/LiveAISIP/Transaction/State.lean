import LiveAISIP.Sip.Types

/-!
# Transaction states

The role-aware state graphs of `sip/transaction/state.rs`.  A machine keeps
its method family next to its state; a rejected event leaves the machine as
it was.
-/

namespace LiveAISIP
namespace Transaction

open Sip
open StatusCode

/-- Transaction method family. -/
inductive TransactionKind
  | invite
  | nonInvite
  deriving DecidableEq

/-- Classify a method. -/
def TransactionKind.fromMethod : Method → TransactionKind
  | .invite => .invite
  | _ => .nonInvite

/-- The final statuses of which a transaction of each family carries one:
every final response of a non-INVITE, a non-2xx one of an INVITE. -/
def Conclusive : TransactionKind → StatusCode → Prop
  | .nonInvite, status => status.Final
  | .invite, status => status.Failure

instance : (kind : TransactionKind) → DecidablePred (Conclusive kind)
  | .nonInvite => inferInstanceAs (DecidablePred Final)
  | .invite => inferInstanceAs (DecidablePred Failure)

theorem Conclusive.final
    {kind : TransactionKind} {status : StatusCode} (conclusive : Conclusive kind status) :
    status.Final := by
  cases kind with
  | nonInvite => exact conclusive
  | invite => exact Failure.final conclusive

/-- Client transaction state. -/
inductive ClientState
  | calling
  | trying
  | proceeding
  | completed
  | accepted
  | terminated
  deriving DecidableEq

/-- Server transaction state. -/
inductive ServerState
  | proceeding
  | completed
  | confirmed
  | accepted
  | terminated
  deriving DecidableEq

/-- Illegal transaction state transition. -/
inductive StateError
  | terminal
  | invalidClientTransition (kind : TransactionKind) (current : ClientState)
  | invalidServerTransition (kind : TransactionKind) (current : ServerState)

/-- Client state machine. -/
structure ClientMachine where
  kind : TransactionKind
  state : ClientState

namespace ClientMachine

/-- The initial state of a transaction kind. -/
def new (kind : TransactionKind) : ClientMachine where
  kind := kind
  state :=
    match kind with
    | .invite => .calling
    | .nonInvite => .trying

/-- The error of an event the current state does not take. -/
def refusal (machine : ClientMachine) : StateError :=
  .invalidClientTransition machine.kind machine.state

/-- The state that a received response status leads to. -/
def next (machine : ClientMachine) (status : StatusCode) : Except StateError ClientState :=
  match machine.kind, machine.state with
  | _, .terminated => .error .terminal
  | .invite, .calling | .invite, .proceeding =>
    if status.Provisional then .ok .proceeding
    else if status.Success then .ok .accepted
    else .ok .completed
  | .invite, .accepted =>
    if status.Success then .ok .accepted else .error machine.refusal
  | .invite, .completed =>
    if status.Provisional then .error machine.refusal
    else if status.Success then .ok .accepted
    else .ok .completed
  | .nonInvite, .trying | .nonInvite, .proceeding =>
    if status.Provisional then .ok .proceeding else .ok .completed
  | .nonInvite, .completed =>
    if status.Provisional then .error machine.refusal else .ok .completed
  | _, _ => .error machine.refusal

/-- Apply a received response status. -/
def onResponse (machine : ClientMachine) (status : StatusCode) : Except StateError ClientMachine :=
  match machine.next status with
  | .ok state => .ok { machine with state := state }
  | .error error => .error error

/-- Everything that an accepted response can do to a machine. -/
theorem onResponse_cases
    {machine after : ClientMachine} {status : StatusCode}
    (taken : machine.onResponse status = .ok after) :
    (status.Provisional ∧ after = { machine with state := .proceeding } ∧
      ((machine.kind = .invite ∧ machine.state = .calling) ∨ machine.state = .proceeding ∨
        (machine.kind = .nonInvite ∧ machine.state = .trying))) ∨
    (status.Final ∧ (machine.state = .calling ∨ machine.state = .trying ∨
        machine.state = .proceeding) ∧
      after = { machine with
        state := if machine.kind = .invite ∧ status.Success then .accepted
          else .completed }) ∨
    (machine = ⟨.invite, .accepted⟩ ∧ status.Success ∧ after = machine) ∨
    (machine = ⟨.invite, .completed⟩ ∧ status.Success ∧ after = ⟨.invite, .accepted⟩) ∨
    (machine = ⟨.invite, .completed⟩ ∧ status.Failure ∧ after = machine) ∨
    (machine = ⟨.nonInvite, .completed⟩ ∧ status.Final ∧ after = machine) := by
  obtain ⟨kind, state⟩ := machine
  have classes := status.classes
  have final : ¬status.Provisional → status.Final := final_of_not_provisional
  unfold onResponse next at taken
  cases kind <;> cases state <;> simp only [refusal, reduceCtorEq] at taken <;>
    split_ifs at taken <;> simp only [Except.ok.injEq] at taken <;>
    subst taken <;> simp_all

/-- Apply the state-appropriate terminal timer. -/
def onLingerTimeout (machine : ClientMachine) : Except StateError ClientMachine :=
  match machine.state with
  | .completed | .accepted => .ok { machine with state := .terminated }
  | _ => .error machine.refusal

/-- Apply the B/F request timeout. -/
def onRequestTimeout (machine : ClientMachine) : Except StateError ClientMachine :=
  match machine.state with
  | .calling | .trying | .proceeding =>
    .ok { machine with state := .terminated }
  | _ => .error machine.refusal

end ClientMachine

/-- Server state machine. -/
structure ServerMachine where
  kind : TransactionKind
  state : ServerState

namespace ServerMachine

/-- The initial proceeding state. -/
def new (kind : TransactionKind) : ServerMachine where
  kind := kind
  state := .proceeding

/-- The error of an event the current state does not take. -/
def refusal (machine : ServerMachine) : StateError :=
  .invalidServerTransition machine.kind machine.state

/-- The state that an application response leads to. -/
def next (machine : ServerMachine) (status : StatusCode) : Except StateError ServerState :=
  match machine.state, machine.kind with
  | .terminated, _ => .error .terminal
  | .proceeding, .invite =>
    if status.Provisional then .ok .proceeding
    else if status.Success then .ok .accepted
    else .ok .completed
  | .proceeding, .nonInvite =>
    if status.Provisional then .ok .proceeding else .ok .completed
  | .accepted, .invite =>
    if status.Success then .ok .accepted else .error machine.refusal
  | .completed, .invite =>
    if status.Failure then .ok .completed else .error machine.refusal
  | .completed, .nonInvite =>
    if status.Provisional then .error machine.refusal else .ok .completed
  | _, _ => .error machine.refusal

/-- Apply an application response. -/
def onResponse (machine : ServerMachine) (status : StatusCode) : Except StateError ServerMachine :=
  match machine.next status with
  | .ok state => .ok { machine with state := state }
  | .error error => .error error

/-- A response that concludes the transaction leads to the completed state,
and no other does; only the proceeding state is left by a response. -/
theorem next_eq_ok
    {machine : ServerMachine} {status : StatusCode} {state : ServerState}
    (taken : machine.next status = .ok state) :
    (state = .completed ↔ Conclusive machine.kind status) ∧ (machine.state = .proceeding ∨
        (machine.state = state ∧ (state = .accepted ∨ state = .completed))) := by
  obtain ⟨kind, current⟩ := machine
  have classes := status.classes
  have final : ¬status.Provisional → status.Final := final_of_not_provisional
  have provisional : status.Provisional → ¬status.Final := Provisional.not_final
  have unfailed : status.Provisional → ¬status.Failure := Provisional.not_failure
  have success : status.Success → ¬status.Failure := Success.not_failure
  unfold next at taken
  cases kind <;> cases current <;>
    simp only [refusal, reduceCtorEq] at taken <;>
    split_ifs at taken <;> simp only [Except.ok.injEq] at taken <;>
    subst taken <;> simp_all [Conclusive]

/-- The completed state takes every response that concludes it. -/
theorem next_of_completed
    {machine : ServerMachine} {status : StatusCode} (completed : machine.state = .completed)
    (conclusive : Conclusive machine.kind status) :
    machine.next status = .ok .completed := by
  obtain ⟨kind, current⟩ := machine
  obtain rfl : current = .completed := completed
  cases kind with
  | invite => exact if_pos conclusive
  | nonInvite =>
    exact if_neg fun provisional =>
      Provisional.not_final provisional conclusive

/-- Apply an ACK to a completed INVITE server transaction. -/
def onAck (machine : ServerMachine) : Except StateError ServerMachine :=
  if machine.kind ≠ .invite ∨ machine.state ≠ .completed then .error machine.refusal
  else .ok { machine with state := .confirmed }

/-- Apply the appropriate terminal timer. -/
def onTerminationTimeout (machine : ServerMachine) : Except StateError ServerMachine :=
  match machine.state with
  | .completed | .confirmed | .accepted =>
    .ok { machine with state := .terminated }
  | _ => .error machine.refusal

end ServerMachine

end Transaction
end LiveAISIP
