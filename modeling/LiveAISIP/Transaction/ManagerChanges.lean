import LiveAISIP.Transaction.Manager

/-!
# Changes of the transaction registry

Every operation of the manager does one of a few things to its live entries.
This module says once which operation does which, so that the invariants of the
registry are proved about the few changes.
-/

namespace LiveAISIP
namespace Transaction

open Sip
open TransactionKey ClientTransaction

namespace ManagerOperation

/-- What an operation has for the client of a token: a timer with that token, or a
response with its key. -/
def clientInput : ManagerOperation → Token → Option ClientInput
  | .clientTimer fence timer, token => if fence = token then some (.timer timer) else none
  | .routeResponse response, token | .routeResponseAt response _, token =>
    if (forClientResponse response).toOption = some token.key then some (.response response)
    else none
  | _, _ => none

/-- The client that an operation registers. -/
def registers : ManagerOperation → Option ClientTransaction
  | .insertClient transaction _ => some transaction
  | .startClient transaction _ => some transaction.start.1
  | _ => none

end ManagerOperation

namespace TransactionManager

variable {manager : TransactionManager} {operation : ManagerOperation} {token : Token}
  {entry : Entry ClientTransaction}

/-- A registry starts with no transaction and the first generation. -/
theorem new_eq_ok {maximum : Nat} (created : new maximum = .ok manager) :
    ∃ completions, manager = ⟨maximum, 1, false, ∅, ∅, completions⟩ := by
  unfold new at created
  split_ifs at created
  split at created <;> cases created
  exact ⟨_, rfl⟩

theorem token_cases
    (manager : TransactionManager) (key : TransactionKey) (role : Role) :
    manager.token key role = ({ manager with nextGeneration := manager.nextGeneration + 1 },
          .ok ⟨key, manager.nextGeneration, role⟩) ∨
      manager.token key role = (manager, .error .generationExhausted) := by
  unfold token
  split_ifs
  · exact .inl rfl
  · exact .inr rfl

/-- The token names this live client. -/
structure IsLive
    (manager : TransactionManager) (token : Token) (entry : Entry ClientTransaction) : Prop where
  role : token.role = .client
  found : manager.clients.lookup token.key = some entry
  generation : entry.generation = token.generation

theorem isLive_of_fencedClient (fenced : manager.fencedClient token = .ok entry) :
    manager.IsLive token entry := by
  unfold fencedClient at fenced
  split_ifs at fenced with role
  cases found : manager.clients.lookup token.key with
  | none => simp [found] at fenced
  | some other =>
    simp only [found] at fenced
    split_ifs at fenced with generation
    cases fenced
    exact ⟨not_not.mp role, found, not_not.mp generation⟩

theorem fencedClient_of_isLive (live : manager.IsLive token entry) :
    manager.fencedClient token = .ok entry := by
  simp [fencedClient, live.role, live.found, live.generation]

/-- A key has one live client. -/
theorem IsLive.token_eq {other : Token} {found : Entry ClientTransaction}
    (live : manager.IsLive token entry) (also : manager.IsLive other found)
    (same : other.key = token.key) : token = other := by
  obtain ⟨key, generation, role⟩ := token
  obtain ⟨_, _, _⟩ := other
  cases same
  cases live.found.symm.trans also.found
  cases live.role.trans also.role.symm
  cases live.generation.symm.trans also.generation
  rfl

/-- What an operation has for the live clients, by their keys. -/
def Gives (manager : TransactionManager) (operation : ManagerOperation)
    (given : TransactionKey → Option ClientInput) : Prop :=
  ∀ token entry, manager.IsLive token entry → operation.clientInput token = given token.key

theorem fencedServer_eq_ok {entry : Entry ServerTransaction}
    (fenced : manager.fencedServer token = .ok entry) :
    manager.servers.lookup token.key = some entry := by
  unfold fencedServer at fenced
  split_ifs at fenced
  cases found : manager.servers.lookup token.key with
  | none => simp [found] at fenced
  | some other =>
    simp only [found] at fenced
    split_ifs at fenced
    cases fenced
    rfl

/-- What an operation on servers does to the registry, with the token that it
issues. -/
inductive ServerChanges (manager : TransactionManager) :
    TransactionManager → Option Token → Prop
  | same : ServerChanges manager manager none
  | drawn : ServerChanges manager { manager with nextGeneration := manager.nextGeneration + 1 } none
  | registered (key : TransactionKey) (transaction : ServerTransaction)
      (admitted : manager.admission key .server = .ok ()) :
      ServerChanges manager
        { manager with
          nextGeneration := manager.nextGeneration + 1
          servers := manager.servers.insert key ⟨manager.nextGeneration, transaction⟩ }
        (some ⟨key, manager.nextGeneration, .server⟩)
  | updated (key : TransactionKey) (entry : Entry ServerTransaction)
      (found : manager.servers.lookup key = some entry) (next : ServerTransaction) :
      ServerChanges manager (manager.updateServer key entry next) none
  | erased (key : TransactionKey) :
      ServerChanges manager { manager with servers := manager.servers.erase key } none

/-- What an operation does to the registry, with the token that it issues. -/
inductive Changes (manager : TransactionManager) (operation : ManagerOperation) :
    TransactionManager → Option Token → Prop
  | servers {next : TransactionManager} {issued : Option Token}
      (changes : ServerChanges manager next issued) (idle : manager.Gives operation fun _ => none) :
      Changes manager operation next issued
  | registered (key : TransactionKey) (transaction : ClientTransaction)
      (named : transaction.key = key) (admitted : manager.admission key .client = .ok ())
      (registers : operation.registers = some transaction)
      (idle : manager.Gives operation fun _ => none) :
      Changes manager operation
        { manager with
          nextGeneration := manager.nextGeneration + 1
          clients := manager.clients.insert key ⟨manager.nextGeneration, transaction⟩ }
        (some ⟨key, manager.nextGeneration, .client⟩)
  | updated (key : TransactionKey) (entry : Entry ClientTransaction)
      (found : manager.clients.lookup key = some entry) (input : ClientInput)
      (gives : manager.Gives operation fun other => if other = key then some input else none) :
      Changes manager operation
        (manager.updateClient key entry (entry.transaction.step input).1) none
  | erased (key : TransactionKey) (idle : manager.Gives operation fun _ => none) :
      Changes manager operation { manager with clients := manager.clients.erase key } none
  | closed (idle : manager.Gives operation fun _ => none) :
      Changes manager operation manager.beginShutdown none

theorem Changes.same (idle : manager.Gives operation fun _ => none) :
    Changes manager operation manager none := .servers .same idle

theorem ServerChanges.clients {next : TransactionManager} {issued : Option Token}
    (changes : ServerChanges manager next issued) : next.clients = manager.clients := by
  cases changes <;> rfl

/-- The token that an operation issues. -/
def issuedBy (manager : TransactionManager) : ManagerOperation → Option Token
  | .insertClient transaction allocated =>
    (manager.insertClient transaction allocated).2.toOption
  | .startClient transaction allocated =>
    (manager.startClient transaction allocated).2.toOption.map RoutedActions.token
  | .insertServer transaction allocated =>
    (manager.insertServer transaction allocated).2.toOption
  | .startServer transaction allocated =>
    (manager.startServer transaction allocated).2.toOption.map RoutedActions.token
  | _ => none

theorem changes_insertClient
    (manager : TransactionManager) (transaction : ClientTransaction) (allocated : Bool) :
    Changes manager (.insertClient transaction allocated)
      (manager.insertClient transaction allocated).1
      (manager.insertClient transaction allocated).2.toOption := by
  have idle : manager.Gives (.insertClient transaction allocated) fun _ => none :=
    fun _ _ _ => rfl
  unfold insertClient
  cases admitted : manager.admission transaction.key .client with
  | error error => exact .same idle
  | ok _ =>
    rcases manager.token_cases transaction.key .client with drawn | drawn <;>
      simp only [drawn]
    · cases allocated with
      | false => exact .servers .drawn idle
      | true => exact .registered _ transaction rfl admitted rfl idle
    · exact .same idle

theorem changes_startClient
    (manager : TransactionManager) (transaction : ClientTransaction) (allocated : Bool) :
    Changes manager (.startClient transaction allocated)
      (manager.startClient transaction allocated).1
      ((manager.startClient transaction allocated).2.toOption.map RoutedActions.token) := by
  have idle : manager.Gives (.startClient transaction allocated) fun _ => none :=
    fun _ _ _ => rfl
  unfold startClient
  cases admitted : manager.admission transaction.key .client with
  | error error => exact .same idle
  | ok _ =>
    cases allocated with
    | false => exact .same idle
    | true =>
      rcases manager.token_cases transaction.key .client with drawn | drawn <;>
        simp only [drawn, ↓reduceIte]
      · rcases started : transaction.start with ⟨next, error | actions⟩
        · exact .servers .drawn idle
        · have named := (transaction.sameIdentity_step .start).key
          rw [step, started] at named
          refine .registered _ next named admitted ?_ idle
          rw [ManagerOperation.registers, started]
      · exact .same idle

theorem changes_insertServer
    (manager : TransactionManager) (transaction : ServerTransaction) (allocated : Bool) :
    ServerChanges manager (manager.insertServer transaction allocated).1
      (manager.insertServer transaction allocated).2.toOption := by
  unfold insertServer
  cases admitted : manager.admission transaction.key .server with
  | error error => exact .same
  | ok _ =>
    rcases manager.token_cases transaction.key .server with drawn | drawn <;>
      simp only [drawn]
    · cases allocated with
      | false => exact .drawn
      | true => exact .registered _ transaction admitted
    · exact .same

theorem changes_startServer
    (manager : TransactionManager) (transaction : ServerTransaction) (allocated : Bool) :
    ServerChanges manager (manager.startServer transaction allocated).1
      ((manager.startServer transaction allocated).2.toOption.map RoutedActions.token) := by
  unfold startServer
  cases admitted : manager.admission transaction.key .server with
  | error error => exact .same
  | ok _ =>
    cases allocated with
    | false => exact .same
    | true =>
      rcases manager.token_cases transaction.key .server with drawn | drawn <;>
        simp only [drawn, ↓reduceIte]
      · rcases transaction.start with ⟨started, error | actions⟩
        · exact .drawn
        · exact .registered _ started admitted
      · exact .same

theorem changes_respondServer
    (manager : TransactionManager) (token : Token) (status : StatusCode) (bytes : Bytes) :
    ServerChanges manager (manager.respondServer token status bytes).1 none := by
  unfold respondServer
  cases fenced : manager.fencedServer token with
  | error error => exact .same
  | ok entry =>
    simp only
    rcases entry.transaction.sendResponse status bytes with
      ⟨next, error | actions⟩ <;>
      exact .updated _ entry (fencedServer_eq_ok fenced) next

theorem changes_serverTimer
    (manager : TransactionManager) (token : Token) (timer : ServerTimer) :
    ServerChanges manager (manager.serverTimer token timer).1 none := by
  unfold serverTimer
  cases fenced : manager.fencedServer token with
  | error error => exact .same
  | ok entry =>
    simp only
    rcases entry.transaction.onTimer timer with ⟨next, error | actions⟩ <;>
      exact .updated _ entry (fencedServer_eq_ok fenced) next

theorem changes_clientTimer
    (manager : TransactionManager) (token : Token) (timer : Timer) :
    Changes manager (.clientTimer token timer) (manager.clientTimer token timer).1 none := by
  cases fenced : manager.fencedClient token with
  | error error =>
    rw [clientTimer, fenced]
    refine .same fun other entry live => if_neg ?_
    rintro rfl
    cases fenced.symm.trans (fencedClient_of_isLive live)
  | ok entry =>
    have live := isLive_of_fencedClient fenced
    have gives : manager.Gives (.clientTimer token timer) fun key =>
        if key = token.key then some (.timer timer) else none :=
      fun _ _ also => if_congr ⟨fun same => same ▸ rfl, live.token_eq also⟩ rfl rfl
    have updated := Changes.updated _ entry live.found _ gives
    rw [step] at updated
    simp only [clientTimer, fenced]
    rcases taken : entry.transaction.onTimer timer with ⟨next, error | actions⟩ <;>
      rwa [taken] at updated

theorem changes_routeResponse
    (manager : TransactionManager) (response : ValidatedResponse)
    (heard : operation.clientInput = (ManagerOperation.routeResponse response).clientInput) :
    Changes manager operation (manager.routeResponse response).1 none := by
  unfold routeResponse
  cases keyed : forClientResponse response with
  | error error =>
    exact .same fun _ _ _ => by rw [heard, ManagerOperation.clientInput, keyed]; rfl
  | ok key =>
    have given (token : Token) : operation.clientInput token =
        if token.key = key then some (.response response) else none := by
      rw [heard, ManagerOperation.clientInput, keyed]
      exact if_congr (by simp [Except.toOption, eq_comm]) rfl rfl
    cases found : manager.clients.lookup key with
    | none =>
      simp only [found]
      refine .same fun token entry live => (given token).trans (if_neg ?_)
      rintro rfl
      cases found.symm.trans live.found
    | some entry =>
      have updated := Changes.updated key entry found _ fun token _ _ => given token
      rw [step] at updated
      simp only [found]
      rcases taken : entry.transaction.onResponse response with
        ⟨next, error | actions⟩ <;>
        rwa [taken] at updated

theorem changes_routeRequest
    (manager : TransactionManager) (request : ValidatedRequest) :
    ServerChanges manager (manager.routeRequest request).1 none := by
  unfold routeRequest
  split_ifs
  · exact .same
  · cases forServerRequest request with
    | error error => exact .same
    | ok key =>
      simp only
      cases manager.servers.lookup key <;> exact .same

theorem changes_routeAck
    (manager : TransactionManager) (request : ValidatedRequest) :
    ServerChanges manager (manager.routeAck request).1 none := by
  unfold routeAck
  split_ifs
  · exact .same
  · cases forServerRequest request with
    | error error => exact .same
    | ok key =>
      simp only
      cases found : manager.servers.lookup key with
      | none => exact .same
      | some entry =>
        simp only
        cases entry.transaction.state with
        | completed =>
          simp only
          rcases entry.transaction.onAck with ⟨next, error | actions⟩ <;>
            exact .updated key entry found next
        | proceeding | confirmed | accepted | terminated => exact .same

theorem removeGeneration_cases
    (map : KeyMap TransactionKey (Entry τ)) (token : Token) :
    (removeGeneration map token).1 = map ∨
      (removeGeneration map token).1 = map.erase token.key := by
  unfold removeGeneration
  cases map.lookup token.key with
  | none => exact .inl rfl
  | some entry =>
    simp only
    split_ifs
    · exact .inr rfl
    · exact .inl rfl

theorem changes_removeServer (manager : TransactionManager) (token : Token) :
    ServerChanges manager
      { manager with servers := (removeGeneration manager.servers token).1 } none := by
  rcases removeGeneration_cases manager.servers token with kept | erased
  · rw [kept]
    exact .same
  · rw [erased]
    exact .erased token.key

theorem changes_remove (manager : TransactionManager) (token : Token) :
    Changes manager (.remove token) (manager.remove token).1 none := by
  have idle : manager.Gives (.remove token) fun _ => none := fun _ _ _ => rfl
  unfold remove
  cases token.role with
  | server => exact .servers (manager.changes_removeServer token) idle
  | client =>
    simp only
    rcases removeGeneration_cases manager.clients token with kept | erased
    · rw [kept]
      exact .same idle
    · rw [erased]
      exact .erased token.key idle

theorem changes_routeResponseAt
    (manager : TransactionManager) (response : ValidatedResponse) (now : Duration) :
    ∃ between store, Changes manager (.routeResponseAt response now) between none ∧
      (manager.routeResponseAt response now).1 = { between with completions := store } := by
  have heard : Changes manager (.routeResponseAt response now)
      (manager.routeResponse response).1 none := manager.changes_routeResponse response rfl
  unfold routeResponseAt
  cases keyed : forClientResponse response with
  | error error =>
    rw [routeResponse, keyed] at heard
    exact ⟨_, _, heard, rfl⟩
  | ok key =>
    simp only
    split_ifs with live
    · refine ⟨_, (manager.routeResponse response).1.completions, heard, ?_⟩
      rcases manager.routeResponse response with ⟨next, error | actions⟩ <;> rfl
    · rw [routeResponse, keyed] at heard
      simp only [AList.lookup_eq_none.mpr live] at heard
      rcases manager.completions.route response now with
        ⟨store, error | - | disposition⟩ <;>
        exact ⟨_, store, heard, rfl⟩

end TransactionManager

end Transaction
end LiveAISIP
