import LiveAISIP.Transaction.ManagerCompletion

/-!
# Which responses a registry routes

A response of the peer is refused by the registry for one of four reasons: its
topmost Via has no modern branch, its transaction was not started, the state
graph of the transaction has no edge for its status, or its ACK cannot be
built.  In every other case it is routed, and it never touches a transaction of
another key.
-/

namespace LiveAISIP
namespace Transaction

open Sip
open TransactionKey AList

/-- The state graph has an edge for a response of this status. -/
def ClientMachine.Takes (machine : ClientMachine) (status : StatusCode) : Prop :=
  match machine.kind, machine.state with
  | .invite, .calling | .invite, .proceeding => True
  | .nonInvite, .trying | .nonInvite, .proceeding => True
  | .invite, .accepted => status.Success
  | .invite, .completed | .nonInvite, .completed => status.Final
  | _, _ => False

/-- The state machine takes a response exactly along the edges of its graph. -/
theorem ClientMachine.takes_iff (machine : ClientMachine) (status : StatusCode) :
    machine.Takes status ↔ ∃ after, machine.onResponse status = .ok after := by
  obtain ⟨kind, state⟩ := machine
  have final : status.Final ↔ ¬status.Provisional :=
    ⟨fun final provisional => StatusCode.Provisional.not_final provisional final,
      StatusCode.final_of_not_provisional⟩
  by_cases provisional : status.Provisional <;> by_cases success : status.Success <;>
    cases kind <;> cases state <;>
    simp [Takes, onResponse, next, final, provisional, success]

/-- The bytes that an action sends. -/
def Action.bytes : Action → Option Bytes
  | .send bytes | .sendAck bytes => some bytes
  | _ => none

namespace ClientTransaction

/-- The ACK of the response can be built, if the response calls for one that was
not built before. -/
def CanAcknowledge (tx : ClientTransaction) (response : ValidatedResponse) : Prop :=
  tx.IsNon2xxInvite response.status → tx.non2xxAck = none →
    ∃ template bytes, tx.non2xxAckTemplate = some template ∧
      template.build response.toHeader = .ok bytes

theorem canAcknowledge_iff (tx : ClientTransaction) (response : ValidatedResponse) :
    tx.CanAcknowledge response ↔ ∃ ack, tx.ackFor response = .ok ack := by
  unfold CanAcknowledge ackFor
  split_ifs with failed
  · cases tx.non2xxAck with
    | some bytes => simp
    | none =>
      cases tx.non2xxAckTemplate with
      | none => simp [failed]
      | some template =>
        cases built : template.build response.toHeader <;>
          simp [built, failed]
  · simp [failed]

/-- The transaction hands the response to its user, once it has taken it. -/
def PassesUp (tx : ClientTransaction) (response : ValidatedResponse) : Prop :=
  ¬(tx.IsNon2xxInvite response.status ∧ tx.state = .completed)

/-- A started transaction can take the response. -/
structure CanTake (tx : ClientTransaction) (response : ValidatedResponse) : Prop where
  started : tx.started = true
  takes : tx.machine.Takes response.status
  acknowledges : tx.CanAcknowledge response

/-- A response of its key is taken by a transaction exactly when it can be. -/
theorem canTake_iff
    {tx : ClientTransaction} {response : ValidatedResponse} (matched : tx.Matches response) :
    tx.CanTake response ↔ ∃ actions, (tx.onResponse response).2 = .ok actions := by
  constructor
  · intro can
    obtain ⟨machine, next⟩ := (tx.machine.takes_iff response.status).mp can.takes
    obtain ⟨ack, acked⟩ := (tx.canAcknowledge_iff response).mp can.acknowledges
    obtain ⟨after, actions, applied, -⟩ := applyResponse_step next acked
    refine ⟨actions, ?_⟩
    rw [Matches] at matched
    simp [onResponse, can.started, matched, next, acked, applied]
  · rintro ⟨actions, taken⟩
    rw [Matches] at matched
    by_cases started : tx.started = true
    · simp only [onResponse, started, matched, not_true_eq_false, ↓reduceIte, ne_eq] at taken
      cases next : tx.machine.onResponse response.status with
      | error error => simp [next] at taken
      | ok machine =>
        simp only [next] at taken
        cases acked : tx.ackFor response with
        | error error => simp [acked] at taken
        | ok ack =>
          exact ⟨started, (tx.machine.takes_iff _).mpr ⟨machine, next⟩,
            (tx.canAcknowledge_iff response).mpr ⟨ack, acked⟩⟩
    · simp [onResponse, started] at taken

/-- A response that is taken is acknowledged first, and is passed up unless it
repeats a failure. -/
theorem onResponse_actions
    {tx : ClientTransaction} {response : ValidatedResponse} {actions : List Action}
    (taken : (tx.onResponse response).2 = .ok actions) :
    ∃ ack rest, tx.ackFor response = .ok ack ∧ actions = ackActions ack ++ rest ∧
      (∀ action ∈ rest, action.bytes = none) ∧
      (.deliverResponse ∈ rest ↔ tx.PassesUp response) := by
  rcases tx.onResponse_cases response with ⟨error, refused⟩ | ⟨after, done, taken', -, -, step⟩
  · simp [refused] at taken
  · obtain rfl : done = actions := by simpa [taken'] using taken
    have unacknowledged (other : ¬tx.IsNon2xxInvite response.status) :
        tx.ackFor response = .ok none := if_neg other
    cases step with
    | firstProvisional kind state status | provisional state status =>
      have other : ¬tx.IsNon2xxInvite response.status :=
        fun failed => status.not_failure failed.2
      exact ⟨none, _, unacknowledged other, rfl, by simp [Action.bytes], by simp [PassesUp, other]⟩
    | lingers ack delay acked state status lingering | ends ack acked state status lingering =>
      have fresh : tx.state ≠ .completed := fun done => by simp [done] at state
      exact ⟨ack, _, acked, rfl, by simp [Action.bytes], by simp [PassesUp, fresh]⟩
    | repeatedSuccess kind state status | lateSuccess kind state status =>
      have other : ¬tx.IsNon2xxInvite response.status :=
        fun failed => status.not_failure failed.2
      exact ⟨none, _, unacknowledged other, rfl, by simp [Action.bytes], by simp [PassesUp, other]⟩
    | repeatedFailure bytes acked kind state status =>
      exact ⟨some bytes, [], acked, rfl, by simp,
        by simp [PassesUp, IsNon2xxInvite, kind, state, status]⟩
    | repeatedFinal kind state status =>
      have other : ¬tx.IsNon2xxInvite response.status := by simp [IsNon2xxInvite, kind]
      exact ⟨none, _, unacknowledged other, rfl, by simp [Action.bytes], by simp [PassesUp, other]⟩

end ClientTransaction

namespace TransactionManager

variable {manager next : TransactionManager}

/-- Every live client is registered under its own key. -/
def Keyed (manager : TransactionManager) : Prop :=
  ∀ key entry, manager.clients.lookup key = some entry → entry.transaction.key = key

theorem keyed_insert (keyed : manager.Keyed)
    {transaction : ClientTransaction} {generation : Nat}
    (inserted : next.clients = manager.clients.insert transaction.key ⟨generation, transaction⟩) :
    next.Keyed := by
  intro key entry found
  rw [inserted] at found
  obtain ⟨rfl, rfl⟩ | ⟨-, before⟩ := KeyMap.lookup_insert_cases found
  · rfl
  · exact keyed key entry before

theorem keyed_erase (keyed : manager.Keyed)
    {key : TransactionKey} (erased : next.clients = manager.clients.erase key) :
    next.Keyed := by
  intro other entry found
  rw [erased] at found
  exact keyed other entry (KeyMap.lookup_of_erase found).2

theorem keyed_of_clients (keyed : manager.Keyed)
    (same : next.clients = manager.clients) :
    next.Keyed := by
  intro key entry found
  rw [same] at found
  exact keyed key entry found

theorem keyed_new
    {maximum : Nat} (created : new maximum = .ok manager) :
    manager.Keyed := by
  obtain ⟨completions, rfl⟩ := new_eq_ok created
  intro key entry found
  simp at found

theorem Keyed.changes (keyed : manager.Keyed) {operation : ManagerOperation}
    {issued : Option Token} (changes : Changes manager operation next issued) :
    next.Keyed := by
  cases changes with
  | servers changes => exact keyed_of_clients keyed changes.clients
  | registered key transaction named =>
    subst named
    exact keyed_insert keyed rfl
  | updated key entry found input =>
    obtain rfl : (entry.transaction.step input).1.key = key :=
      (entry.transaction.sameIdentity_step input).key.trans (keyed key entry found)
    exact keyed_insert keyed rfl
  | erased key => exact keyed_erase keyed rfl
  | closed => exact keyed_of_clients keyed rfl

theorem Keyed.apply (keyed : manager.Keyed) (operation : ManagerOperation) :
    (manager.apply operation).Keyed := by
  obtain ⟨between, store, changes, applied⟩ := manager.apply_changes operation
  have kept := keyed.changes changes
  rw [applied]
  exact kept

/-- The live clients of a reachable manager are under their own keys. -/
theorem keyed_of_reachable (reachable : manager.Reachable) :
    manager.Keyed := by
  obtain ⟨maximum, initial, operations, created, rfl⟩ := reachable
  exact Run.invariant Keyed (keyed_new created)
    (fun _ operation keyed => keyed.apply operation) operations

/-- Nothing but the transaction of the response's key differs. -/
structure SameBut
    (manager : TransactionManager) (response : ValidatedResponse)
    (next : TransactionManager) : Prop where
  maximum : next.maximum = manager.maximum
  nextGeneration : next.nextGeneration = manager.nextGeneration
  shuttingDown : next.shuttingDown = manager.shuttingDown
  servers : next.servers = manager.servers
  clients : ∀ key, forClientResponse response ≠ .ok key →
    next.clients.lookup key = manager.clients.lookup key
  completions : ∀ key, forClientResponse response ≠ .ok key →
    next.completions.entries.lookup key = manager.completions.entries.lookup key

theorem SameBut.refl (manager : TransactionManager) (response : ValidatedResponse) :
    manager.SameBut response manager :=
  ⟨rfl, rfl, rfl, rfl, fun _ _ => rfl, fun _ _ => rfl⟩

/-- Routing a response leaves the other transactions alone, also when it
fails. -/
theorem sameBut_routeResponseAt
    (manager : TransactionManager) (response : ValidatedResponse) (now : Duration) :
    manager.SameBut response (manager.routeResponseAt response now).1 := by
  cases keyed : forClientResponse response with
  | error error =>
    simp only [routeResponseAt, keyed]
    exact .refl manager response
  | ok key =>
    simp only [routeResponseAt, routeResponse, keyed]
    split_ifs with live
    · obtain ⟨entry, found⟩ := Option.isSome_iff_exists.mp (lookup_isSome.mpr live)
      simp only [found]
      have moved (next : ClientTransaction) :
          manager.SameBut response (manager.updateClient key entry next) := by
        refine ⟨rfl, rfl, rfl, rfl, fun other distinct => ?_, fun _ _ => rfl⟩
        refine lookup_insert_ne fun same => distinct ?_
        rw [keyed, same]
      rcases entry.transaction.onResponse response with
        ⟨next, error | actions⟩ <;> exact moved next
    · have dropped : manager.SameBut response
          { manager with completions := manager.completions.drop key } := by
        refine ⟨rfl, rfl, rfl, rfl, fun _ _ => rfl, fun other distinct => ?_⟩
        refine lookup_erase_ne fun same => distinct ?_
        rw [keyed, same]
      simp only [CompletionStore.route, keyed]
      cases manager.completions.entries.lookup key with
      | none => exact .refl manager response
      | some entry =>
        simp only
        split_ifs
        · exact dropped
        · exact .refl manager response

/-- The response names a modern branch, and the live client of its key, if there
is one, can take it. -/
def CanRoute (manager : TransactionManager) (response : ValidatedResponse) : Prop :=
  ∃ key, forClientResponse response = .ok key ∧
    ∀ entry, manager.clients.lookup key = some entry → entry.transaction.CanTake response

/-- A registry routes exactly the responses that it can route. -/
theorem canRoute_iff (keyed : manager.Keyed)
    (response : ValidatedResponse) (now : Duration) :
    manager.CanRoute response ↔ ∃ route, (manager.routeResponseAt response now).2 = .ok route := by
  cases named : forClientResponse response with
  | error error => simp [CanRoute, routeResponseAt, named]
  | ok key =>
    simp only [CanRoute, routeResponseAt, routeResponse, named]
    split_ifs with live
    · obtain ⟨entry, found⟩ := Option.isSome_iff_exists.mp (lookup_isSome.mpr live)
      have matched : entry.transaction.Matches response := by
        rw [ClientTransaction.Matches, named, keyed key entry found]
      have taken := ClientTransaction.canTake_iff matched
      simp only [found, Except.ok.injEq, exists_eq_left', Option.some.injEq, forall_eq', taken]
      rcases entry.transaction.onResponse response with
        ⟨next, error | actions⟩ <;> simp
    · have absent : manager.clients.lookup key = none := lookup_eq_none.mpr live
      simp only [Except.ok.injEq, exists_eq_left', absent, CompletionStore.route, named]
      cases manager.completions.entries.lookup key with
      | none => simp
      | some entry =>
        simp only
        split_ifs <;> simp

/-- The completed transaction that a response belongs to, while it is retained. -/
def retained
    (manager : TransactionManager) (key : TransactionKey) (now : Duration) : Option Tombstone :=
  (manager.completions.entries.lookup key).filter fun entry =>
    now.asNanos < entry.expiresAt.asNanos

/-- The ACK that a response is answered with: that of its live client, or the one
that was retained for a completed one. -/
def ackOf
    (manager : TransactionManager) (response : ValidatedResponse) (now : Duration) :
    Option Bytes :=
  match forClientResponse response with
  | .error _ => none
  | .ok key =>
    match manager.clients.lookup key with
    | some entry => (entry.transaction.ackFor response).toOption.join
    | none =>
      if response.status.Failure then (manager.retained key now).bind Tombstone.failureAck
      else none

/-- A response is passed up by its live client, or is a 2xx of a retained one. -/
def PassesUp
    (manager : TransactionManager) (response : ValidatedResponse) (now : Duration) : Prop :=
  ∃ key, forClientResponse response = .ok key ∧
    match manager.clients.lookup key with
    | some entry => entry.transaction.PassesUp response
    | none => response.status.Success ∧ (manager.retained key now).isSome

/-- What the engine carries out for a response that was routed. -/
inductive Handling (manager : TransactionManager) (response : ValidatedResponse) (now : Duration) :
    ClientResponseRoute → Prop
  | live
      (token : Token)
      (ack : Option Bytes)
      (rest : List Action)
      (acked : manager.ackOf response now = ack)
      (silent : ∀ action ∈ rest, action.bytes = none)
      (delivers : .deliverResponse ∈ rest ↔ manager.PassesUp response now) :
      Handling manager response now (.live ⟨token, ClientTransaction.ackActions ack ++ rest⟩)
  | resends
      (generation : Nat)
      (ack : Bytes)
      (acked : manager.ackOf response now = some ack)
      (passed : ¬manager.PassesUp response now) :
      Handling manager response now (.retained (.resendFailureAck generation ack))
  | delivers
      (generation : Nat)
      (acked : manager.ackOf response now = none)
      (passed : manager.PassesUp response now) :
      Handling manager response now (.retained (.deliverLateSuccess generation))
  | absorbs
      (route : ClientResponseRoute)
      (absorbed : route = .unknown ∨ ∃ generation, route = .retained (.absorb generation))
      (acked : manager.ackOf response now = none)
      (passed : ¬manager.PassesUp response now) :
      Handling manager response now route

/-- A response that is routed is handled as its transaction says. -/
theorem handling_of_routed
    {response : ValidatedResponse} {now : Duration} {route : ClientResponseRoute}
    (routed : (manager.routeResponseAt response now).2 = .ok route) :
    manager.Handling response now route := by
  cases named : forClientResponse response with
  | error error => simp [routeResponseAt, named] at routed
  | ok key =>
    simp only [routeResponseAt, routeResponse, named] at routed
    split_ifs at routed with live
    · obtain ⟨entry, found⟩ := Option.isSome_iff_exists.mp (lookup_isSome.mpr live)
      simp only [found] at routed
      rcases taken : entry.transaction.onResponse response with ⟨next, error | actions⟩
      · simp [taken] at routed
      · simp only [taken, Except.ok.injEq] at routed
        obtain ⟨ack, rest, acked, rfl, silent, delivers⟩ :=
          ClientTransaction.onResponse_actions (congrArg Prod.snd taken)
        subst routed
        exact .live _ ack rest (by simp [ackOf, named, found, acked, Except.toOption])
          silent (delivers.trans (by simp [PassesUp, named, found]))
    · have absent : manager.clients.lookup key = none := lookup_eq_none.mpr live
      simp only [CompletionStore.route, named] at routed
      cases known : manager.completions.entries.lookup key with
      | none =>
        simp only [known, Except.ok.injEq] at routed
        exact .absorbs _ (.inl routed.symm) (by simp [ackOf, named, absent, retained, known])
          (by simp [PassesUp, named, absent, retained, known])
      | some entry =>
        simp only [known] at routed
        split_ifs at routed with expired
        · have gone : manager.retained key now = none := by
            simp [retained, known, expired]
          simp only [Except.ok.injEq] at routed
          exact .absorbs _ (.inl routed.symm) (by simp [ackOf, named, absent, gone])
            (by simp [PassesUp, named, absent, gone])
        · have kept : manager.retained key now = some entry := by
            simpa [retained, known] using expired
          simp only [Except.ok.injEq] at routed
          subst routed
          have unsuccessful (provisional : response.status.Provisional) :
              ¬response.status.Success := fun success => provisional.not_final success.final
          unfold CompletionStore.disposition
          split_ifs with provisional success
          · exact .absorbs _ (.inr ⟨_, rfl⟩)
              (by simp [ackOf, named, absent, provisional.not_failure])
              (by simp [PassesUp, named, absent, unsuccessful provisional])
          · exact .delivers _ (by simp [ackOf, named, absent, success.not_failure])
              ⟨key, named, by simp [absent, success, kept]⟩
          · have failure : response.status.Failure :=
              (response.status.classes.resolve_left provisional).resolve_left success
            cases acked : entry.failureAck with
            | some ack =>
              exact .resends _ ack (by simp [ackOf, named, absent, failure, kept, acked])
                (by simp [PassesUp, named, absent, success])
            | none =>
              exact .absorbs _ (.inr ⟨_, rfl⟩)
                (by simp [ackOf, named, absent, kept, acked])
                (by simp [PassesUp, named, absent, success])

end TransactionManager

end Transaction
end LiveAISIP
