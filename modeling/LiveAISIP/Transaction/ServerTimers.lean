import LiveAISIP.Library.Run
import LiveAISIP.Transaction.Server
import Mathlib.Data.Finset.Basic
import Mathlib.Data.List.Induction

/-!
# Server timer discipline

A scheduler interprets the actions of a server transaction over the set of
outstanding timers, as it does for a client.  The method families of the
machine and of the key agree for every request but an ACK.
-/

namespace LiveAISIP
namespace Transaction

open Sip
open ServerOutput ServerMachine TransactionKind Finset TransactionKey

/-- A response keeps the state, or it leaves the proceeding state. -/
theorem ServerMachine.next_cases
    {machine : ServerMachine} {status : StatusCode} {state : ServerState}
    (taken : machine.next status = .ok state) :
    (state = machine.state ∧ (state = .proceeding ∨ state = .accepted ∨ state = .completed)) ∨
    (machine.state = .proceeding ∧
      ((machine.kind = .invite ∧ state = .accepted) ∨ state = .completed)) := by
  obtain ⟨kind, current⟩ := machine
  unfold next at taken
  cases kind <;> cases current <;>
    simp only [refusal, reduceCtorEq] at taken <;>
    split_ifs at taken <;> simp only [Except.ok.injEq] at taken <;>
    subst taken <;> simp

namespace ServerTransaction

/-- What a taken response does besides its transmission. -/
inductive ResponseStep (tx : ServerTransaction) (bytes : Bytes) :
    ServerTransaction → List ServerAction → Prop
  | stays
      (state : tx.state = .proceeding ∨ tx.state = .accepted ∨ tx.state = .completed) :
      ResponseStep tx bytes { tx with lastResponse := some bytes } []
  | accepts (kind : tx.kind = .invite) (state : tx.state = .proceeding) : ResponseStep tx bytes
        { tx with machine := ⟨tx.kind, .accepted⟩, lastResponse := some bytes }
        [.schedule .finalResponseLifetime tx.profile.inviteTimeout]
  | completes (kind : tx.kind = .invite) (state : tx.state = .proceeding) : ResponseStep tx bytes
        { tx with machine := ⟨tx.kind, .completed⟩, lastResponse := some bytes }
        ((match tx.reliable, tx.nextRetransmit with
          | false, some delay => [.schedule .retransmit delay]
          | _, _ => []) ++
          [.schedule .finalResponseLifetime tx.profile.inviteTimeout])
  | lingers (kind : tx.kind = .nonInvite) (state : tx.state = .proceeding)
      (delay : Duration) :
      ResponseStep tx bytes
        { tx with machine := ⟨tx.kind, .completed⟩, lastResponse := some bytes }
        [.schedule .termination delay]
  | ends (kind : tx.kind = .nonInvite) (state : tx.state = .proceeding) : ResponseStep tx bytes
        { tx with machine := ⟨tx.kind, .terminated⟩, lastResponse := some bytes }
        [.terminate]

/-- The method family of the key survives every change of state. -/
theorem machineKind_of_key
    (tx : ServerTransaction) (machine : ServerMachine) (bytes : Option Bytes) :
    machineKind { tx with machine := machine, lastResponse := bytes } = tx.machineKind := rfl

/-- A response is refused, or it is transmitted and takes its step. -/
theorem sendResponse_cases
    {tx : ServerTransaction} (matched : tx.machineKind = tx.kind)
    (status : StatusCode) (bytes : Bytes) :
    (∃ error, tx.sendResponse status bytes = (tx, .error error)) ∨
      ∃ after actions, tx.sendResponse status bytes =
          (after, .ok (tx.transmission bytes ++ actions)) ∧
        tx.started = true ∧ ResponseStep tx bytes after actions := by
  unfold sendResponse
  by_cases started : tx.started = true
  swap
  · exact .inl ⟨_, if_pos started⟩
  rw [if_neg (not_not.mpr started)]
  by_cases empty : bytes = []
  · exact .inl ⟨_, if_pos empty⟩
  rw [if_neg empty]
  cases taken : tx.machine.next status with
  | error error =>
    exact .inl ⟨.state error, by simp only [onResponse, taken]⟩
  | ok next =>
    right
    simp only [onResponse, taken]
    rcases next_cases taken with ⟨rfl, state⟩ | ⟨state, entered⟩
    · rw [if_neg fun enters => enters.1 rfl]
      exact ⟨_, [], by rw [List.append_nil], started, .stays state⟩
    · have notCompleted : ServerState.completed ≠ tx.state := by
        rw [show tx.state = .proceeding from state]
        decide
      have notAccepted : ServerState.accepted ≠ tx.state := by
        rw [show tx.state = .proceeding from state]
        decide
      rcases entered with ⟨kind, rfl⟩ | rfl
      · have family : tx.machineKind = .invite := matched.trans kind
        rw [if_pos ⟨notAccepted, .inr rfl⟩]
        unfold enterFinal
        simp only [machineKind_of_key, family, ServerTransaction.state]
        exact ⟨_, _, rfl, started, .accepts kind state⟩
      · rw [if_pos ⟨notCompleted, .inl rfl⟩]
        unfold enterFinal
        cases kind : tx.kind with
        | invite =>
          have family : tx.machineKind = .invite := matched.trans kind
          simp only [machineKind_of_key, family, ServerTransaction.state]
          exact ⟨_, _, rfl, started, .completes kind state⟩
        | nonInvite =>
          have family : tx.machineKind = .nonInvite := matched.trans kind
          simp only [machineKind_of_key, family, ServerTransaction.state]
          cases tx.profile.serverNonInviteLifetime with
          | some delay =>
            exact ⟨_, _, rfl, started, .lingers kind state delay⟩
          | none => exact ⟨_, _, rfl, started, .ends kind state⟩

/-- What an acknowledged final response does besides its cancellations. -/
inductive AckStep (tx : ServerTransaction) : ServerTransaction → List ServerAction → Prop
  | confirms (delay : Duration) : AckStep tx { tx with machine := ⟨tx.kind, .confirmed⟩ }
        [.schedule .termination delay]
  | ends : AckStep tx { tx with machine := ⟨tx.kind, .terminated⟩ } [.terminate]

/-- An ACK is refused, or it ends the retransmissions of a completed INVITE. -/
theorem onAck_cases (tx : ServerTransaction) : (∃ error, tx.onAck = (tx, .error error)) ∨
      ∃ after actions, tx.onAck = (after, .ok ([.cancel .retransmit,
          .cancel .finalResponseLifetime] ++ actions)) ∧
        tx.started = true ∧ tx.kind = .invite ∧ tx.state = .completed ∧
        AckStep tx after actions := by
  unfold onAck
  by_cases started : tx.started = true
  swap
  · exact .inl ⟨_, if_pos started⟩
  rw [if_neg (not_not.mpr started)]
  by_cases refused : tx.machine.kind ≠ .invite ∨ tx.machine.state ≠ .completed
  · simp only [ServerMachine.onAck, if_pos refused]
    exact .inl ⟨_, rfl⟩
  · obtain ⟨invite, completed⟩ := not_or.mp refused
    simp only [ServerMachine.onAck, if_neg refused]
    right
    cases tx.profile.confirmedInviteLinger with
    | some delay =>
      exact ⟨_, _, rfl, started, not_not.mp invite, not_not.mp completed, .confirms delay⟩
    | none =>
      exact ⟨_, _, rfl, started, not_not.mp invite, not_not.mp completed, .ends⟩

/-- What a timer that is due does. -/
inductive TimerStep (tx : ServerTransaction) :
    ServerTimer → ServerTransaction → List ServerAction → Prop
  | trying
      (response : Bytes)
      (family : tx.machineKind = .invite)
      (state : tx.state = .proceeding)
      (unanswered : tx.lastResponse = none)
      (automatic : tx.automaticTrying = some response) :
      TimerStep tx .trying
        { tx with automaticTrying := none, lastResponse := some response }
        [.sendResponse response]
  | retransmit
      (response : Bytes) (current next : Duration)
      (state : tx.state = .completed)
      (answered : tx.lastResponse = some response)
      (pending : tx.nextRetransmit = some current)
      (following : tx.profile.nextInviteServerRetransmit current = some next) :
      TimerStep tx .retransmit { tx with nextRetransmit := some next }
        [.sendResponse response, .schedule .retransmit next]
  | finalResponseLifetime
      (state : tx.state = .completed ∨ tx.state = .accepted) :
      TimerStep tx .finalResponseLifetime
        { tx with machine := ⟨tx.kind, .terminated⟩ }
        [.cancel .retransmit, .terminate]
  | termination (state : tx.state = .completed ∨ tx.state = .confirmed) : TimerStep tx .termination
        { tx with machine := ⟨tx.kind, .terminated⟩ } [.terminate]

/-- A final state ends by its timer. -/
theorem onTermination_eq
    {tx : ServerTransaction}
    (final : tx.state = .completed ∨ tx.state = .confirmed ∨ tx.state = .accepted)
    (actions : List ServerAction) :
    tx.onTermination actions = ({ tx with machine := ⟨tx.kind, .terminated⟩ }, .ok actions) := by
  unfold onTermination onTerminationTimeout
  rcases final with state | state | state <;>
    rw [show tx.machine.state = _ from state] <;> rfl

/-- The automatic response leaves the proceeding state as it is. -/
theorem onResponse_trying
    {machine : ServerMachine} (state : machine.state = .proceeding) :
    machine.onResponse .trying = .ok machine := by
  obtain ⟨kind, current⟩ := machine
  obtain rfl : current = .proceeding := state
  cases kind <;> rfl

/-- A timer that is due is taken. -/
theorem TimerStep.onTimer_eq
    {tx after : ServerTransaction} {timer : ServerTimer}
    {actions : List ServerAction} (step : TimerStep tx timer after actions)
    (started : tx.started = true) :
    tx.onTimer timer = (after, .ok actions) := by
  unfold onTimer
  rw [if_neg (not_not.mpr started)]
  cases step with
  | trying response family state unanswered automatic =>
    have next : tx.machine.onResponse .trying = .ok tx.machine := onResponse_trying state
    simp only [family, state, unanswered, and_self, ↓reduceIte, onTrying, automatic, next]
  | retransmit response current next state answered pending following =>
    simp only [state, ↓reduceIte, onRetransmit, answered, pending, following]
  | finalResponseLifetime state =>
    simp only [if_pos state]
    exact onTermination_eq (state.imp_right .inr) _
  | termination state =>
    simp only [if_pos state]
    exact onTermination_eq (state.imp_right .inl) _

end ServerTransaction

/-- The actions of an answer. -/
def ServerOutput.actions : ServerOutput → List ServerAction
  | .outcome (.ok actions) => actions
  | .outcome (.error _) => []
  | .duplicate _ => []

@[simp] theorem ServerOutput.actions_ok (actions : List ServerAction) :
    ServerOutput.actions (.outcome (.ok actions)) = actions := rfl

@[simp] theorem ServerOutput.actions_error (error : ServerError) :
    actions (.outcome (.error error)) = [] := rfl

/-- A server transaction with its outstanding timers. -/
structure SupervisedServer where
  transaction : ServerTransaction
  outstanding : Finset ServerTimer

namespace SupervisedServer

variable {server : SupervisedServer} {buildTrying : ValidatedRequest → Option Bytes}
  {request : ValidatedRequest} {reliable : Bool} {timers : TimerConfig}

/-- The outstanding timers after one action. -/
def interpret (outstanding : Finset ServerTimer) : ServerAction → Finset ServerTimer
  | .schedule timer _ => insert timer outstanding
  | .cancel timer => outstanding.erase timer
  | _ => outstanding

/-- The outstanding timers after a list of actions. -/
def interpretAll
    (outstanding : Finset ServerTimer) (actions : List ServerAction) : Finset ServerTimer :=
  actions.foldl interpret outstanding

/-- A transaction without outstanding timers. -/
def idle (tx : ServerTransaction) : SupervisedServer := ⟨tx, ∅⟩

/-- The server after a step with the given result. -/
def settle
    (outstanding : Finset ServerTimer) (result : ServerTransaction × ServerOutput) :
    SupervisedServer × ServerOutput :=
  (⟨result.1, interpretAll outstanding result.2.actions⟩, result.2)

/-- Apply one input; a timer that is not outstanding does not fire. -/
def supervise (server : SupervisedServer) : ServerInput → SupervisedServer × ServerOutput
  | .timer timer =>
    if timer ∈ server.outstanding then
      settle (server.outstanding.erase timer) (server.transaction.step (.timer timer))
    else
      (server, .outcome (.ok []))
  | input => settle server.outstanding (server.transaction.step input)

/-- The current state of the transaction. -/
def state (server : SupervisedServer) : ServerState := server.transaction.state

/-- The supervised server after a run of inputs. -/
def serverAfter (tx : ServerTransaction) (inputs : List ServerInput) : SupervisedServer :=
  Run.after supervise (idle tx) inputs

/-- The invariant of a supervised server. -/
structure Disciplined (server : SupervisedServer) : Prop where
  matched : server.transaction.machineKind = server.transaction.kind
  lifetime : .finalResponseLifetime ∈ server.outstanding ↔ server.transaction.kind = .invite ∧
      (server.state = .completed ∨ server.state = .accepted)
  termination : .termination ∈ server.outstanding ↔ server.state = .confirmed ∨
      (server.transaction.kind = .nonInvite ∧ server.state = .completed)
  retransmit : .retransmit ∈ server.outstanding →
    server.transaction.kind = .invite ∧ server.state = .completed ∧
      server.transaction.reliable = false ∧
      server.transaction.nextRetransmit.isSome
  pending : server.transaction.nextRetransmit.isSome →
    server.transaction.profile.retransmitMaximum.isSome
  trying : .trying ∈ server.outstanding →
    server.transaction.kind = .invite ∧ server.state = .proceeding ∧
      server.transaction.lastResponse = none ∧
      server.transaction.automaticTrying.isSome
  answered : server.state = .completed → server.transaction.lastResponse.isSome
  unstarted : server.transaction.started = false →
    server.outstanding = ∅ ∧ server.state = .proceeding ∧ server.transaction.lastResponse = none ∧
      (server.transaction.kind = .invite → server.transaction.automaticTrying.isSome)

@[simp] theorem interpretAll_nil (outstanding : Finset ServerTimer) :
    interpretAll outstanding [] = outstanding := rfl

@[simp] theorem interpretAll_cons
    (outstanding : Finset ServerTimer) (action : ServerAction) (actions : List ServerAction) :
    interpretAll outstanding (action :: actions) =
      interpretAll (interpret outstanding action) actions := rfl

theorem Disciplined.started (disciplined : server.Disciplined)
    {timer : ServerTimer} (outstanding : timer ∈ server.outstanding) :
    server.transaction.started = true := by
  by_contra unstarted
  have empty := (disciplined.unstarted (Bool.eq_false_iff.mpr unstarted)).1
  simp [empty] at outstanding

/-- A transmission makes the automatic response obsolete. -/
theorem Disciplined.interpretAll_transmission (disciplined : server.Disciplined)
    (bytes : Bytes) (actions : List ServerAction) :
    interpretAll server.outstanding (server.transaction.transmission bytes ++ actions) =
      interpretAll (server.outstanding.erase .trying) actions := by
  unfold ServerTransaction.transmission
  cases family : server.transaction.machineKind with
  | invite => rfl
  | nonInvite =>
    have absent : .trying ∉ server.outstanding := by
      intro member
      have invite := (disciplined.trying member).1
      rw [← disciplined.matched, family] at invite
      cases invite
    simp [interpret, erase_eq_of_notMem absent]

/-- The state in which a timer can be outstanding. -/
def Fits (server : SupervisedServer) : ServerTimer → Prop
  | .trying => server.state = .proceeding
  | .retransmit =>
    server.transaction.kind = .invite ∧ server.state = .completed
  | .finalResponseLifetime =>
    server.transaction.kind = .invite ∧ (server.state = .completed ∨ server.state = .accepted)
  | .termination =>
    server.state = .confirmed ∨ (server.transaction.kind = .nonInvite ∧ server.state = .completed)

theorem Disciplined.fits (disciplined : server.Disciplined)
    {timer : ServerTimer} (outstanding : timer ∈ server.outstanding) :
    server.Fits timer := by
  cases timer with
  | trying => exact (disciplined.trying outstanding).2.1
  | retransmit =>
    obtain ⟨invite, completed, -⟩ := disciplined.retransmit outstanding
    exact ⟨invite, completed⟩
  | finalResponseLifetime => exact disciplined.lifetime.mp outstanding
  | termination => exact disciplined.termination.mp outstanding

/-- A proceeding transaction waits for its automatic response at most. -/
theorem Disciplined.erase_proceeding (disciplined : server.Disciplined)
    (state : server.state = .proceeding) :
    server.outstanding.erase .trying = ∅ := by
  refine eq_empty_of_forall_notMem fun timer member => ?_
  obtain ⟨other, outstanding⟩ := mem_erase.mp member
  have fits := disciplined.fits outstanding
  cases timer <;> simp_all [Fits]

/-- An answered INVITE waits for its retransmission and its lifetime at most. -/
theorem Disciplined.erase_answered (disciplined : server.Disciplined)
    (fits : server.Fits .finalResponseLifetime) :
    (server.outstanding.erase .retransmit).erase .finalResponseLifetime = ∅ := by
  refine eq_empty_of_forall_notMem fun timer member => ?_
  obtain ⟨notLifetime, member⟩ := mem_erase.mp member
  obtain ⟨notRetransmit, outstanding⟩ := mem_erase.mp member
  have fitsOther := disciplined.fits outstanding
  obtain ⟨invite, state | state⟩ := fits <;> cases timer <;> simp_all [Fits]

/-- A lingering transaction waits for its termination at most. -/
theorem Disciplined.erase_lingering (disciplined : server.Disciplined)
    (fits : server.Fits .termination) :
    server.outstanding.erase .termination = ∅ := by
  refine eq_empty_of_forall_notMem fun timer member => ?_
  obtain ⟨other, outstanding⟩ := mem_erase.mp member
  have fitsOther := disciplined.fits outstanding
  rcases fits with state | ⟨kind, state⟩ <;> cases timer <;> simp_all [Fits]

section States

variable {tx : ServerTransaction}

/-- An answered proceeding transaction and a terminated one wait for nothing. -/
theorem disciplined_quiet
    (matched : tx.machineKind = tx.kind) (started : tx.started = true)
    (pending : tx.nextRetransmit.isSome → tx.profile.retransmitMaximum.isSome)
    (state : tx.state = .proceeding ∨ tx.state = .terminated) :
    Disciplined ⟨tx, ∅⟩ := by
  refine ⟨matched, ?_, ?_, by simp, pending, by simp, ?_, by simp [started]⟩
  · rcases state with state | state <;> simp [SupervisedServer.state, state]
  · rcases state with state | state <;> simp [SupervisedServer.state, state]
  · rcases state with state | state <;> simp [SupervisedServer.state, state]

/-- A lingering transaction waits for its termination. -/
theorem disciplined_lingering
    (matched : tx.machineKind = tx.kind) (started : tx.started = true)
    (pending : tx.nextRetransmit.isSome → tx.profile.retransmitMaximum.isSome)
    (state : tx.state = .confirmed ∨
      (tx.kind = .nonInvite ∧ tx.state = .completed ∧ tx.lastResponse.isSome)) :
    Disciplined ⟨tx, {.termination}⟩ := by
  refine ⟨matched, ?_, ?_, by simp, pending, by simp, ?_, by simp [started]⟩
  · rcases state with state | ⟨kind, state, -⟩
    · simp [SupervisedServer.state, state]
    · simp [kind]
  · rcases state with state | ⟨kind, state, -⟩
    · simp [SupervisedServer.state, state]
    · simp [SupervisedServer.state, kind, state]
  · rcases state with state | ⟨-, -, answered⟩
    · simp [SupervisedServer.state, state]
    · exact fun _ => answered

/-- An accepted INVITE waits for its lifetime. -/
theorem disciplined_accepted
    (matched : tx.machineKind = tx.kind) (started : tx.started = true)
    (pending : tx.nextRetransmit.isSome → tx.profile.retransmitMaximum.isSome)
    (invite : tx.kind = .invite) (state : tx.state = .accepted) :
    Disciplined ⟨tx, {.finalResponseLifetime}⟩ := by
  refine ⟨matched, ?_, ?_, by simp, pending, by simp, ?_, by simp [started]⟩
  · simp [SupervisedServer.state, invite, state]
  · simp [SupervisedServer.state, state]
  · simp [SupervisedServer.state, state]

/-- A completed INVITE waits for its lifetime, and for a retransmission where it
has one. -/
theorem disciplined_completed
    {outstanding : Finset ServerTimer} (matched : tx.machineKind = tx.kind)
    (started : tx.started = true)
    (pending : tx.nextRetransmit.isSome → tx.profile.retransmitMaximum.isSome)
    (invite : tx.kind = .invite) (state : tx.state = .completed) (answered : tx.lastResponse.isSome)
    (waits : outstanding = {.finalResponseLifetime} ∨
      (outstanding = {.retransmit, .finalResponseLifetime} ∧
        tx.reliable = false ∧ tx.nextRetransmit.isSome)) :
    Disciplined ⟨tx, outstanding⟩ := by
  refine ⟨matched, ?_, ?_, ?_, pending, ?_, fun _ => answered, by simp [started]⟩
  · rcases waits with rfl | ⟨rfl, -, -⟩ <;>
      simp [SupervisedServer.state, invite, state]
  · rcases waits with rfl | ⟨rfl, -, -⟩ <;>
      simp [SupervisedServer.state, invite, state]
  · rcases waits with rfl | ⟨rfl, unreliable, scheduled⟩
    · simp
    · exact fun _ => ⟨invite, state, unreliable, scheduled⟩
  · rcases waits with rfl | ⟨rfl, -, -⟩ <;> simp

end States

/-- Starting a transaction keeps the invariant. -/
theorem Disciplined.start (disciplined : server.Disciplined) :
    (server.supervise .start).1.Disciplined := by
  obtain ⟨tx, outstanding⟩ := server
  simp only [supervise, settle, ServerTransaction.step,
    ServerTransaction.answered, ServerTransaction.start]
  by_cases started : tx.started = true
  · simpa [started] using disciplined
  · obtain ⟨rfl, state, unanswered, automatic⟩ :=
      disciplined.unstarted (Bool.eq_false_iff.mpr started)
    have matched := disciplined.matched
    have pending := disciplined.pending
    have state : tx.machine.state = .proceeding := state
    rw [if_neg started]
    cases kind : tx.machine.kind with
    | invite =>
      have family : tx.machineKind = .invite := disciplined.matched.trans kind
      constructor <;>
        simp_all [interpret, SupervisedServer.state, ServerTransaction.state,
          ServerTransaction.kind, ServerTransaction.machineKind]
    | nonInvite =>
      have family : tx.machineKind = .nonInvite := disciplined.matched.trans kind
      constructor <;>
        simp_all [interpret, SupervisedServer.state, ServerTransaction.state,
          ServerTransaction.kind, ServerTransaction.machineKind]

/-- A response keeps the invariant. -/
theorem Disciplined.sendResponse (disciplined : server.Disciplined)
    (status : StatusCode) (bytes : Bytes) :
    (server.supervise (.sendResponse status bytes)).1.Disciplined := by
  simp only [supervise, settle, ServerTransaction.step, ServerTransaction.answered]
  rcases ServerTransaction.sendResponse_cases disciplined.matched status bytes with
    ⟨error, refused⟩ | ⟨after, actions, taken, started, step⟩
  · rw [refused]
    exact disciplined
  · rw [taken, actions_ok, disciplined.interpretAll_transmission]
    cases step with
    | stays state =>
      have kept {timer : ServerTimer} (other : timer ≠ .trying) :
          timer ∈ server.outstanding.erase .trying ↔ timer ∈ server.outstanding := by
        simp [other]
      refine ⟨disciplined.matched, ?_, ?_, ?_, disciplined.pending, by simp,
        by simp, by simp [started]⟩
      · rw [interpretAll_nil, kept (by decide)]
        exact disciplined.lifetime
      · rw [interpretAll_nil, kept (by decide)]
        exact disciplined.termination
      · rw [interpretAll_nil, kept (by decide)]
        exact disciplined.retransmit
    | accepts kind state =>
      rw [disciplined.erase_proceeding state]
      exact disciplined_accepted disciplined.matched started disciplined.pending kind rfl
    | completes kind state =>
      rw [disciplined.erase_proceeding state]
      refine disciplined_completed disciplined.matched started disciplined.pending kind rfl rfl ?_
      cases unreliable : server.transaction.reliable with
      | true => exact .inl rfl
      | false =>
        cases delay : server.transaction.nextRetransmit with
        | none => exact .inl rfl
        | some delay =>
          exact .inr ⟨pair_comm _ _, rfl, rfl⟩
    | lingers kind state delay =>
      rw [disciplined.erase_proceeding state]
      exact disciplined_lingering disciplined.matched started
        disciplined.pending (.inr ⟨kind, rfl, rfl⟩)
    | ends kind state =>
      rw [disciplined.erase_proceeding state]
      exact disciplined_quiet disciplined.matched started disciplined.pending (.inr rfl)

/-- An ACK keeps the invariant. -/
theorem Disciplined.ack (disciplined : server.Disciplined) :
    (server.supervise .ack).1.Disciplined := by
  simp only [supervise, settle, ServerTransaction.step, ServerTransaction.answered]
  rcases server.transaction.onAck_cases with
    ⟨error, refused⟩ | ⟨after, actions, taken, started, kind, state, step⟩
  · rw [refused]
    exact disciplined
  · rw [taken, actions_ok]
    have cleared := disciplined.erase_answered ⟨kind, .inl state⟩
    cases step with
    | confirms delay =>
      simp only [List.cons_append, List.nil_append, interpretAll_cons,
        interpretAll_nil, interpret, cleared]
      exact disciplined_lingering disciplined.matched started disciplined.pending (.inl rfl)
    | ends =>
      simp only [List.cons_append, List.nil_append, interpretAll_cons,
        interpretAll_nil, interpret, cleared]
      exact disciplined_quiet disciplined.matched started disciplined.pending (.inr rfl)

/-- Every outstanding timer is due. -/
theorem Disciplined.fires (disciplined : server.Disciplined)
    {timer : ServerTimer} (outstanding : timer ∈ server.outstanding) :
    ∃ after actions, ServerTransaction.TimerStep server.transaction timer after actions := by
  cases timer with
  | trying =>
    obtain ⟨kind, state, unanswered, automatic⟩ := disciplined.trying outstanding
    obtain ⟨response, automatic⟩ := Option.isSome_iff_exists.mp automatic
    exact ⟨_, _, .trying response (disciplined.matched.trans kind) state unanswered automatic⟩
  | retransmit =>
    obtain ⟨-, state, -, pending⟩ := disciplined.retransmit outstanding
    obtain ⟨current, current_eq⟩ := Option.isSome_iff_exists.mp pending
    obtain ⟨maximum, maximum_eq⟩ := Option.isSome_iff_exists.mp (disciplined.pending pending)
    obtain ⟨response, answered⟩ := Option.isSome_iff_exists.mp (disciplined.answered state)
    refine ⟨_, _, .retransmit response current
      (TimerProfile.doubledUpTo maximum current) state answered current_eq ?_⟩
    simp only [TimerProfile.nextInviteServerRetransmit, maximum_eq]
  | finalResponseLifetime =>
    exact ⟨_, _, .finalResponseLifetime (disciplined.lifetime.mp outstanding).2⟩
  | termination =>
    refine ⟨_, _, .termination ?_⟩
    rcases disciplined.termination.mp outstanding with state | ⟨-, state⟩
    · exact .inr state
    · exact .inl state

/-- An outstanding timer that fires keeps the invariant. -/
theorem Disciplined.timer (disciplined : server.Disciplined)
    {timer : ServerTimer} (outstanding : timer ∈ server.outstanding) :
    (settle (server.outstanding.erase timer)
      (server.transaction.step (.timer timer))).1.Disciplined := by
  have started := disciplined.started outstanding
  obtain ⟨after, actions, step⟩ := disciplined.fires outstanding
  simp only [settle, ServerTransaction.step, ServerTransaction.answered,
    step.onTimer_eq started, actions_ok]
  have fits := disciplined.fits outstanding
  cases step with
  | trying response family state unanswered automatic =>
    simp only [interpretAll_cons, interpretAll_nil, interpret, disciplined.erase_proceeding state]
    exact disciplined_quiet disciplined.matched started disciplined.pending (.inl state)
  | retransmit response current next state answered current_eq following =>
    obtain ⟨invite, -, unreliable, scheduled⟩ := disciplined.retransmit outstanding
    refine disciplined_completed disciplined.matched started
      (fun _ => disciplined.pending scheduled) invite state (by simp [answered])
      (.inr ⟨?_, unreliable, rfl⟩)
    have lifetime := disciplined.lifetime.mpr ⟨invite, .inl state⟩
    have remaining : server.outstanding.erase .retransmit = {.finalResponseLifetime} := by
      rw [← insert_erase (mem_erase.mpr ⟨by decide, lifetime⟩),
        disciplined.erase_answered ⟨invite, .inl state⟩]
      rfl
    simp only [interpretAll_cons, interpretAll_nil, interpret, remaining]
  | finalResponseLifetime state =>
    have cleared := disciplined.erase_answered fits
    rw [erase_right_comm] at cleared
    simp only [interpretAll_cons, interpretAll_nil, interpret, cleared]
    exact disciplined_quiet disciplined.matched started disciplined.pending (.inr rfl)
  | termination state =>
    simp only [interpretAll_cons, interpretAll_nil, interpret, disciplined.erase_lingering fits]
    exact disciplined_quiet disciplined.matched started disciplined.pending (.inr rfl)

/-- Every input keeps the invariant. -/
theorem Disciplined.supervise (disciplined : server.Disciplined) (input : ServerInput) :
    (server.supervise input).1.Disciplined := by
  cases input with
  | start => exact disciplined.start
  | sendResponse status bytes => exact disciplined.sendResponse status bytes
  | duplicateRequest => exact disciplined
  | ack => exact disciplined.ack
  | timer timer =>
    simp only [SupervisedServer.supervise]
    split_ifs with outstanding
    · exact disciplined.timer outstanding
    · exact disciplined

/-- What a new transaction is. -/
theorem new_eq_ok {tx : ServerTransaction}
    (created : ServerTransaction.new buildTrying request reliable timers = .ok tx) :
    ∃ key trying, forServerRequest request = .ok key ∧
      ServerTransaction.tryingFor buildTrying request = .ok trying ∧
      tx = ⟨key, .new (fromMethod request.method),
        timers.profile reliable, reliable, none, trying,
        (timers.profile reliable).retransmitInitial, false⟩ := by
  unfold ServerTransaction.new at created
  cases keyed : forServerRequest request with
  | error error => simp [keyed] at created
  | ok key =>
    cases trying : ServerTransaction.tryingFor buildTrying request with
    | error error => simp [keyed, trying] at created
    | ok bytes =>
      simp only [keyed, trying, Except.ok.injEq] at created
      exact ⟨key, bytes, rfl, rfl, created.symm⟩

theorem identity_new {tx : ServerTransaction}
    (created : ServerTransaction.new buildTrying request reliable timers = .ok tx) :
    tx.kind = fromMethod request.method ∧ tx.reliable = reliable ∧ tx.started = false := by
  obtain ⟨key, trying, -, -, rfl⟩ := new_eq_ok created
  exact ⟨rfl, rfl, rfl⟩

/-- The key of a request that is no ACK has the family of its method. -/
theorem isInvite_of_forServerRequest {key : TransactionKey}
    (keyed : forServerRequest request = .ok key) (notAck : request.method ≠ .ack) :
    (if key.isInvite then TransactionKind.invite else .nonInvite) = fromMethod request.method := by
  have method := method_of_fromParts keyed
  rw [request.cseq_method] at method
  rw [isInvite, method]
  cases named : request.method <;> simp_all [normalizeAck, fromMethod]

/-- An INVITE has its automatic response. -/
theorem isSome_of_tryingFor
    {trying : Option Bytes} (built : ServerTransaction.tryingFor buildTrying request = .ok trying)
    (kind : fromMethod request.method = .invite) :
    trying.isSome := by
  unfold ServerTransaction.tryingFor at built
  rw [kind] at built
  cases bytes : buildTrying request with
  | none => simp [bytes] at built
  | some bytes' =>
    simp only [bytes, Except.ok.injEq] at built
    rw [← built]
    rfl

/-- A new transaction for a request that is no ACK satisfies the invariant. -/
theorem disciplined_new {tx : ServerTransaction}
    (created : ServerTransaction.new buildTrying request reliable timers = .ok tx)
    (notAck : request.method ≠ .ack) :
    (idle tx).Disciplined := by
  obtain ⟨key, trying, keyed, built, rfl⟩ := new_eq_ok created
  refine ⟨isInvite_of_forServerRequest keyed notAck, ?_, ?_, by simp [idle], ?_,
    by simp [idle], ?_, fun _ => ⟨rfl, rfl, rfl, ?_⟩⟩
  · simp [idle, SupervisedServer.state, ServerTransaction.state, ServerMachine.new]
  · simp [idle, SupervisedServer.state, ServerTransaction.state, ServerMachine.new]
  · cases reliable <;> simp [idle, TimerConfig.profile]
  · simp [idle, SupervisedServer.state, ServerTransaction.state, ServerMachine.new]
  · intro kind
    exact isSome_of_tryingFor built kind

/-- What one input emits: the request is delivered by the first start, and the
end is announced when it is entered. -/
structure EmitsOnce
    (before after : SupervisedServer) (input : ServerInput)
    (actions : List ServerAction) : Prop where
  delivered : actions.count .deliverRequest =
    if input = .start ∧ before.transaction.started = false then 1 else 0
  ended : actions.count .terminate =
    if before.state ≠ .terminated ∧ after.state = .terminated then 1 else 0
  absorbed : before.state = .terminated → after.state = .terminated
  started : after.transaction.started = true ↔ before.transaction.started = true ∨ input = .start
  unanswered : after.transaction.lastResponse = none → before.transaction.lastResponse = none ∧
      ∀ bytes, .sendResponse bytes ∉ actions
  same : after.transaction.kind = before.transaction.kind ∧
    after.transaction.reliable = before.transaction.reliable

theorem emitsOnce_quiet
    (server : SupervisedServer) {input : ServerInput} (notStart : input ≠ .start) :
    EmitsOnce server server input [] := by
  refine ⟨by simp [notStart], ?_, id, by simp [notStart], fun none => ⟨none, by simp⟩, rfl, rfl⟩
  by_cases ended : server.state = .terminated <;> simp [ended]

/-- A started transaction goes on, or it ends and announces its end. -/
theorem emitsOnce_of_step
    {before after : SupervisedServer} {input : ServerInput}
    {actions : List ServerAction} (notStart : input ≠ .start)
    (started : before.transaction.started = true) (kept : after.transaction.started = true)
    (running : before.state ≠ .terminated) (undelivered : actions.count .deliverRequest = 0)
    (ended : actions.count .terminate =
      if after.state = .terminated then 1 else 0)
    (unanswered : after.transaction.lastResponse = none → before.transaction.lastResponse = none ∧
        ∀ bytes, .sendResponse bytes ∉ actions)
    (same : after.transaction.kind = before.transaction.kind ∧
      after.transaction.reliable = before.transaction.reliable) :
    EmitsOnce before after input actions :=
  ⟨by simp [undelivered, notStart], by simp [ended, running],
    fun terminated => absurd terminated running, by simp [started, kept], unanswered, same⟩

theorem emitsOnce_start (server : SupervisedServer) :
    EmitsOnce server (server.supervise .start).1 .start (server.supervise .start).2.actions := by
  obtain ⟨tx, outstanding⟩ := server
  simp only [supervise, settle, ServerTransaction.step,
    ServerTransaction.answered, ServerTransaction.start]
  by_cases started : tx.started = true
  · simp only [started, ↓reduceIte, actions_error]
    refine ⟨by simp [started], ?_, id, by simp [started], fun none => ⟨none, by simp⟩, rfl, rfl⟩
    by_cases ended : tx.state = .terminated <;>
      simp [SupervisedServer.state, ended]
  · rw [if_neg started]
    refine ⟨?_, ?_, id, by simp, fun none => ⟨none, ?_⟩, rfl, rfl⟩
    · cases tx.machineKind <;> simp [started]
    · by_cases ended : tx.machine.state = .terminated <;>
        cases tx.machineKind <;>
        simp [SupervisedServer.state, ServerTransaction.state, ended]
    · cases tx.machineKind <;> simp

theorem count_transmission
    (tx : ServerTransaction) (bytes : Bytes) (actions : List ServerAction) :
    (tx.transmission bytes ++ actions).count .deliverRequest = actions.count .deliverRequest ∧
      (tx.transmission bytes ++ actions).count .terminate = actions.count .terminate := by
  unfold ServerTransaction.transmission
  cases tx.machineKind <;> simp

theorem emitsOnce_sendResponse (disciplined : server.Disciplined)
    (status : StatusCode) (bytes : Bytes) :
    EmitsOnce server (server.supervise (.sendResponse status bytes)).1 (.sendResponse status bytes)
      (server.supervise (.sendResponse status bytes)).2.actions := by
  simp only [supervise, settle, ServerTransaction.step, ServerTransaction.answered]
  rcases ServerTransaction.sendResponse_cases disciplined.matched status bytes with
    ⟨error, refused⟩ | ⟨after, actions, taken, started, step⟩
  · rw [refused]
    exact emitsOnce_quiet server (by simp)
  · rw [taken, actions_ok]
    obtain ⟨delivered, ended⟩ := count_transmission server.transaction bytes actions
    obtain ⟨tx, outstanding⟩ := server
    cases step with
    | stays state =>
      have running : tx.state ≠ .terminated := by
        rcases state with state | state | state <;> simp [state]
      refine emitsOnce_of_step (by simp) started started running delivered ?_ (by simp) ⟨rfl, rfl⟩
      rw [ended]
      exact (if_neg running).symm
    | accepts kind state =>
      exact emitsOnce_of_step (by simp) started started
        (by simp [SupervisedServer.state, state]) delivered (ended.trans rfl)
        (by simp) ⟨rfl, rfl⟩
    | completes kind state =>
      refine emitsOnce_of_step (by simp) started started
        (by simp [SupervisedServer.state, state]) ?_ ?_ (by simp) ⟨rfl, rfl⟩
      · rw [delivered]
        cases tx.reliable <;> cases tx.nextRetransmit <;> simp
      · rw [ended]
        cases tx.reliable <;> cases tx.nextRetransmit <;> rfl
    | lingers kind state delay | ends kind state =>
      exact emitsOnce_of_step (by simp) started started
        (by simp [SupervisedServer.state, state]) delivered (ended.trans rfl)
        (by simp) ⟨rfl, rfl⟩

theorem emitsOnce_ack (server : SupervisedServer) : EmitsOnce server (server.supervise .ack).1 .ack
      (server.supervise .ack).2.actions := by
  simp only [supervise, settle, ServerTransaction.step, ServerTransaction.answered]
  rcases server.transaction.onAck_cases with
    ⟨error, refused⟩ | ⟨after, actions, taken, started, kind, state, step⟩
  · rw [refused]
    exact emitsOnce_quiet server (by simp)
  · rw [taken, actions_ok]
    have running : server.state ≠ .terminated := by
      simp [SupervisedServer.state, state]
    cases step with
    | confirms delay | ends =>
      exact emitsOnce_of_step (by simp) started started running rfl rfl
        (fun none => ⟨none, by simp⟩) ⟨rfl, rfl⟩

theorem emitsOnce_timer (disciplined : server.Disciplined) (timer : ServerTimer) :
    EmitsOnce server (server.supervise (.timer timer)).1 (.timer timer)
      (server.supervise (.timer timer)).2.actions := by
  simp only [supervise]
  split_ifs with outstanding
  swap
  · exact emitsOnce_quiet server (by simp)
  have started := disciplined.started outstanding
  obtain ⟨after, actions, step⟩ := disciplined.fires outstanding
  simp only [settle, ServerTransaction.step, ServerTransaction.answered,
    step.onTimer_eq started, actions_ok]
  obtain ⟨tx, timers⟩ := server
  cases step with
  | trying response family state unanswered automatic =>
    have running : tx.state ≠ .terminated := by
      rw [show tx.state = .proceeding from state]
      decide
    exact emitsOnce_of_step (by simp) started started running rfl
      (if_neg running).symm (by simp) ⟨rfl, rfl⟩
  | retransmit response current next state answered pending following =>
    have running : tx.state ≠ .terminated := by
      rw [show tx.state = .completed from state]
      decide
    refine emitsOnce_of_step (by simp) started started running rfl
      (if_neg running).symm ?_ ⟨rfl, rfl⟩
    intro none
    rw [show tx.lastResponse = some response from answered] at none
    cases none
  | finalResponseLifetime state | termination state =>
    refine emitsOnce_of_step (by simp) started started ?_ rfl rfl
      (fun none => ⟨none, by simp⟩) ⟨rfl, rfl⟩
    rcases state with state | state <;> simp [SupervisedServer.state, state]

/-- Every input delivers the request with the first start, and announces the
end when it enters it. -/
theorem emitsOnce_supervise (disciplined : server.Disciplined) (input : ServerInput) :
    EmitsOnce server (server.supervise input).1 input (server.supervise input).2.actions := by
  cases input with
  | start => exact emitsOnce_start server
  | sendResponse status bytes =>
    exact emitsOnce_sendResponse disciplined status bytes
  | duplicateRequest => exact emitsOnce_quiet server (by simp)
  | ack => exact emitsOnce_ack server
  | timer timer => exact emitsOnce_timer disciplined timer

/-- The actions emitted by a supervised run. -/
def emittedBy (tx : ServerTransaction) (inputs : List ServerInput) : List ServerAction :=
  (Run.outputs supervise (idle tx) inputs).flatMap actions

theorem serverAfter_concat
    (tx : ServerTransaction) (inputs : List ServerInput) (last : ServerInput) :
    serverAfter tx (inputs ++ [last]) = ((serverAfter tx inputs).supervise last).1 := by
  simp [serverAfter]

theorem emittedBy_concat
    (tx : ServerTransaction) (inputs : List ServerInput) (last : ServerInput) :
    emittedBy tx (inputs ++ [last]) = emittedBy tx inputs ++
      ((serverAfter tx inputs).supervise last).2.actions := by
  simp [emittedBy, Run.outputs_concat, Run.output, serverAfter]

/-- A run keeps the invariant. -/
theorem disciplined_serverAfter
    {tx : ServerTransaction} (disciplined : (idle tx).Disciplined) (inputs : List ServerInput) :
    (serverAfter tx inputs).Disciplined :=
  Run.invariant Disciplined disciplined (fun _ input kept => kept.supervise input) inputs

/-- What a run of a new transaction has emitted. -/
structure Emitted (tx : ServerTransaction) (server : SupervisedServer)
    (inputs : List ServerInput) (actions : List ServerAction) : Prop where
  started : server.transaction.started = true ↔ .start ∈ inputs
  delivered : actions.count .deliverRequest = if .start ∈ inputs then 1 else 0
  ended : actions.count .terminate = if server.state = .terminated then 1 else 0
  unanswered : server.transaction.lastResponse = none → ∀ bytes, .sendResponse bytes ∉ actions
  same : server.transaction.kind = tx.kind ∧ server.transaction.reliable = tx.reliable

theorem emitted_serverAfter
    {tx : ServerTransaction} (disciplined : (idle tx).Disciplined)
    (unstarted : tx.started = false) (inputs : List ServerInput) :
    Emitted tx (serverAfter tx inputs) inputs (emittedBy tx inputs) := by
  induction inputs using List.reverseRecOn with
  | nil =>
    have proceeding := (disciplined.unstarted unstarted).2.1
    have proceeding : tx.state = .proceeding := proceeding
    exact ⟨by simp [serverAfter, idle, unstarted], rfl,
      by simp [emittedBy, serverAfter, idle, SupervisedServer.state, proceeding],
      by simp [emittedBy], rfl, rfl⟩
  | append_singleton earlier input ih =>
    have last := emitsOnce_supervise (disciplined_serverAfter disciplined earlier) input
    rw [serverAfter_concat, emittedBy_concat]
    obtain ⟨started, delivered, ended, unanswered, same⟩ := ih
    constructor
    · rw [last.started, started]
      simp [eq_comm]
    · have notStarted : (serverAfter tx earlier).transaction.started = false ↔
          .start ∉ earlier := by
        rw [← started, Bool.not_eq_true]
      rw [List.count_append, delivered, last.delivered]
      by_cases before : .start ∈ earlier <;> by_cases now : input = .start <;>
        simp [before, now, notStarted, eq_comm]
    · rw [List.count_append, ended, last.ended]
      by_cases before : (serverAfter tx earlier).state = .terminated
      · simp [before, last.absorbed before]
      · simp [before]
    · intro none bytes member
      obtain ⟨noneBefore, silent⟩ := last.unanswered none
      rcases List.mem_append.mp member with member | member
      · exact unanswered noneBefore bytes member
      · exact silent bytes member
    · exact ⟨last.same.1.trans same.1, last.same.2.trans same.2⟩

/-- In every run of a server transaction for a request that is no ACK, the
outstanding timers are those its state calls for, the request is delivered
once, termination is announced once, and an outstanding timer is taken. -/
theorem server_timers_disciplined
    (buildTrying : ValidatedRequest → Option Bytes) (request : ValidatedRequest)
    (reliable : Bool) (timers : TimerConfig) (tx : ServerTransaction)
    (created : ServerTransaction.new buildTrying request reliable timers = .ok tx)
    (notAck : request.method ≠ .ack) (inputs : List ServerInput) :
    let server := serverAfter tx inputs
    (.finalResponseLifetime ∈ server.outstanding ↔ request.method = .invite ∧
        (server.state = .completed ∨ server.state = .accepted)) ∧
    (.retransmit ∈ server.outstanding →
      request.method = .invite ∧ server.state = .completed ∧ reliable = false) ∧
    (.termination ∈ server.outstanding ↔ server.state = .confirmed ∨
        (request.method ≠ .invite ∧ server.state = .completed)) ∧
    (.trying ∈ server.outstanding → server.state = .proceeding ∧
        ∀ bytes, .sendResponse bytes ∉ emittedBy tx inputs) ∧
    (server.state = .terminated → server.outstanding = ∅) ∧
    (emittedBy tx inputs).count .terminate = (if server.state = .terminated then 1 else 0) ∧
    Run.AllSteps
      (fun earlier input =>
        .terminate ∈ ((serverAfter tx earlier).supervise input).2.actions ↔
          (serverAfter tx earlier).state ≠ .terminated ∧
            (serverAfter tx (earlier ++ [input])).state = .terminated) inputs ∧
    (emittedBy tx inputs).count .deliverRequest = (if .start ∈ inputs then 1 else 0) ∧
    (∀ timer ∈ server.outstanding,
      ∃ actions, (server.transaction.onTimer timer).2 = .ok actions) := by
  have new := disciplined_new created notAck
  have disciplined := disciplined_serverAfter new inputs
  obtain ⟨kind, reliable_eq, unstarted⟩ := identity_new created
  have emitted := emitted_serverAfter new unstarted inputs
  have kept := emitted.same.1.trans kind
  have isInvite : (serverAfter tx inputs).transaction.kind = .invite ↔
      request.method = .invite := by
    rw [kept]
    cases request.method <;> simp [fromMethod]
  have isNonInvite : (serverAfter tx inputs).transaction.kind = .nonInvite ↔
      request.method ≠ .invite := by
    rw [kept]
    cases request.method <;> simp [fromMethod]
  refine ⟨?_, ?_, ?_, ?_, ?_, emitted.ended, ?_, emitted.delivered, ?_⟩
  · rw [disciplined.lifetime, isInvite]
  · intro member
    obtain ⟨invite, state, unreliable, -⟩ := disciplined.retransmit member
    rw [emitted.same.2, reliable_eq] at unreliable
    exact ⟨isInvite.mp invite, state, unreliable⟩
  · rw [disciplined.termination, isNonInvite]
  · intro member
    obtain ⟨-, state, unanswered, -⟩ := disciplined.trying member
    exact ⟨state, emitted.unanswered unanswered⟩
  · intro ended
    refine eq_empty_of_forall_notMem fun timer member => ?_
    cases timer with
    | trying => simp [(disciplined.trying member).2.1] at ended
    | retransmit => simp [(disciplined.retransmit member).2.1] at ended
    | finalResponseLifetime =>
      rcases (disciplined.lifetime.mp member).2 with state | state <;>
        simp [state] at ended
    | termination =>
      rcases disciplined.termination.mp member with state | ⟨-, state⟩ <;>
        simp [state] at ended
  · intro earlier input later split
    have last := emitsOnce_supervise (disciplined_serverAfter new earlier) input
    rw [serverAfter_concat, ← List.count_pos_iff, last.ended]
    split_ifs with enters <;> simp [enters]
  · intro timer member
    obtain ⟨after, actions, step⟩ := disciplined.fires member
    exact ⟨actions, by rw [step.onTimer_eq (disciplined.started member)]⟩

/-- A rejected INVITE over an unreliable transport awaits its ACK. -/
theorem server_timers_disciplined_invite :
    ∃ tx, ServerTransaction.new (fun _ => some [49]) inviteRequest false .default = .ok tx ∧
      .finalResponseLifetime ∈ (serverAfter tx
        [.start, .sendResponse .busyHere [52]]).outstanding := by
  refine ⟨_, rfl, ?_⟩
  exact (server_timers_disciplined (fun _ => some [49]) inviteRequest false
    .default _ rfl (by decide) [.start, .sendResponse .busyHere [52]]).1.mpr
      ⟨rfl, .inl rfl⟩

end SupervisedServer

end Transaction
end LiveAISIP
