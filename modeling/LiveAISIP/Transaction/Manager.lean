import LiveAISIP.Library.Run
import LiveAISIP.Transaction.Client
import LiveAISIP.Transaction.Completion
import LiveAISIP.Transaction.Server
import Mathlib.Algebra.Group.Nat.Defs

/-!
# Transaction manager

The bounded registry of live transactions and completed INVITE identities of
`sip/transaction/manager.rs`.  Every operation returns the next manager with
its result.  Where the source reserves memory, the outcome of the allocation
is an argument.
-/

namespace LiveAISIP
namespace Transaction

open Sip
open TransactionKey

/-- Hard maximum of transactions in one registry. -/
def maxTransactions : Nat := 1048576

/-- Transaction owner role. -/
inductive Role
  | client
  | server
  deriving DecidableEq

/-- Generation-fenced handle used by timer callbacks. -/
structure Token where
  key : TransactionKey
  generation : Nat
  role : Role
  deriving DecidableEq

/-- Generation-fenced actions emitted by one routed transaction event. -/
structure RoutedActions (α : Type) where
  token : Token
  actions : List α

/-- Routing result for an inbound non-ACK request. -/
inductive ServerRequestRoute
  | new
  | existing (routed : RoutedActions ServerAction)

/-- Routing result for an inbound ACK request. -/
inductive AckRoute
  | transaction (routed : RoutedActions ServerAction)
  | dialog

/-- Routing result including compact completed-INVITE state. -/
inductive ClientResponseRoute
  | live (routed : RoutedActions Action)
  | retained (disposition : CompletionDisposition)
  | unknown

/-- Transaction registry failure. -/
inductive ManagerError
  | invalidCapacity (value maximum : Nat)
  | shuttingDown
  | capacity (maximum : Nat)
  | duplicate
  | wrongRole
  | unknown
  | staleGeneration
  | key (error : KeyError)
  | unexpectedAck
  | expectedAck
  | generationExhausted
  | client (error : ClientError)
  | server (error : ServerError)
  | completion (error : CompletionError)
  | timeOverflow
  | allocationFailed

/-- One live transaction with its generation. -/
structure Entry (τ : Type) where
  generation : Nat
  transaction : τ

/-- Bounded transaction manager. -/
structure TransactionManager where
  maximum : Nat
  nextGeneration : Nat
  shuttingDown : Bool
  clients : KeyMap TransactionKey (Entry ClientTransaction)
  servers : KeyMap TransactionKey (Entry ServerTransaction)
  completions : CompletionStore

namespace TransactionManager

/-- Create an empty registry with a validated capacity. -/
def new (maximum : Nat) : Except ManagerError TransactionManager :=
  if maximum = 0 ∨ maximum > maxTransactions then
    .error (.invalidCapacity maximum maxTransactions)
  else
    match CompletionStore.new maximum with
    | .error error => .error (.completion error)
    | .ok completions =>
      .ok
        { maximum := maximum
          nextGeneration := 1
          shuttingDown := false
          clients := ∅
          servers := ∅
          completions := completions }

/-- Total transaction count. -/
def len (manager : TransactionManager) : Nat := manager.clients.size + manager.servers.size

/-- Admission of a new transaction. -/
def admission (manager : TransactionManager) (key : TransactionKey) (role : Role) :
    Except ManagerError Unit :=
  if manager.shuttingDown then
    .error .shuttingDown
  else if manager.len ≥ manager.maximum then
    .error (.capacity manager.maximum)
  else
    match role with
    | .client =>
      if key ∈ manager.clients then .error .duplicate else .ok ()
    | .server =>
      if key ∈ manager.servers then .error .duplicate else .ok ()

/-- Draw the next generation. -/
def token (manager : TransactionManager) (key : TransactionKey) (role : Role) :
    TransactionManager × Except ManagerError Token :=
  if manager.nextGeneration + 1 < 2 ^ 64 then
    ({ manager with nextGeneration := manager.nextGeneration + 1 },
      .ok ⟨key, manager.nextGeneration, role⟩)
  else
    (manager, .error .generationExhausted)

/-- Register a client transaction. -/
def insertClient
    (manager : TransactionManager) (transaction : ClientTransaction)
    (allocated : Bool) : TransactionManager × Except ManagerError Token :=
  match manager.admission transaction.key .client with
  | .error error => (manager, .error error)
  | .ok () =>
    match manager.token transaction.key .client with
    | (drawn, .error error) => (drawn, .error error)
    | (drawn, .ok token) =>
      if allocated then
        ({ drawn with
            clients := drawn.clients.insert token.key ⟨token.generation, transaction⟩ }, .ok token)
      else
        (drawn, .error .allocationFailed)

/-- Start and register one client transaction. -/
def startClient
    (manager : TransactionManager) (transaction : ClientTransaction) (allocated : Bool) :
    TransactionManager × Except ManagerError (RoutedActions Action) :=
  match manager.admission transaction.key .client with
  | .error error => (manager, .error error)
  | .ok () =>
    if allocated then
      match manager.token transaction.key .client with
      | (drawn, .error error) => (drawn, .error error)
      | (drawn, .ok token) =>
        match transaction.start with
        | (_, .error error) => (drawn, .error (.client error))
        | (started, .ok actions) =>
          ({ drawn with
              clients := drawn.clients.insert token.key
                ⟨token.generation, started⟩ }, .ok ⟨token, actions⟩)
    else
      (manager, .error .allocationFailed)

/-- Register a server transaction. -/
def insertServer
    (manager : TransactionManager) (transaction : ServerTransaction)
    (allocated : Bool) : TransactionManager × Except ManagerError Token :=
  match manager.admission transaction.key .server with
  | .error error => (manager, .error error)
  | .ok () =>
    match manager.token transaction.key .server with
    | (drawn, .error error) => (drawn, .error error)
    | (drawn, .ok token) =>
      if allocated then
        ({ drawn with
            servers := drawn.servers.insert token.key ⟨token.generation, transaction⟩ }, .ok token)
      else
        (drawn, .error .allocationFailed)

/-- Start and register one server transaction. -/
def startServer
    (manager : TransactionManager) (transaction : ServerTransaction) (allocated : Bool) :
    TransactionManager × Except ManagerError (RoutedActions ServerAction) :=
  match manager.admission transaction.key .server with
  | .error error => (manager, .error error)
  | .ok () =>
    if allocated then
      match manager.token transaction.key .server with
      | (drawn, .error error) => (drawn, .error error)
      | (drawn, .ok token) =>
        match transaction.start with
        | (_, .error error) => (drawn, .error (.server error))
        | (started, .ok actions) =>
          ({ drawn with
              servers := drawn.servers.insert token.key
                ⟨token.generation, started⟩ }, .ok ⟨token, actions⟩)
    else
      (manager, .error .allocationFailed)

/-- Store the next state of one live client. -/
def updateClient
    (manager : TransactionManager) (key : TransactionKey) (entry : Entry ClientTransaction)
    (next : ClientTransaction) : TransactionManager :=
  { manager with
    clients := manager.clients.insert key { entry with transaction := next } }

/-- Store the next state of one live server. -/
def updateServer
    (manager : TransactionManager) (key : TransactionKey) (entry : Entry ServerTransaction)
    (next : ServerTransaction) : TransactionManager :=
  { manager with
    servers := manager.servers.insert key { entry with transaction := next } }

/-- The live client of a token. -/
def fencedClient (manager : TransactionManager) (token : Token) :
    Except ManagerError (Entry ClientTransaction) :=
  if token.role ≠ .client then
    .error .wrongRole
  else
    match manager.clients.lookup token.key with
    | none => .error .unknown
    | some entry =>
      if entry.generation ≠ token.generation then .error .staleGeneration
      else .ok entry

/-- The live server of a token. -/
def fencedServer (manager : TransactionManager) (token : Token) :
    Except ManagerError (Entry ServerTransaction) :=
  if token.role ≠ .server then
    .error .wrongRole
  else
    match manager.servers.lookup token.key with
    | none => .error .unknown
    | some entry =>
      if entry.generation ≠ token.generation then .error .staleGeneration
      else .ok entry

/-- Record a serialized response in one exact server transaction. -/
def respondServer
    (manager : TransactionManager) (token : Token) (status : StatusCode) (bytes : Bytes) :
    TransactionManager × Except ManagerError (RoutedActions ServerAction) :=
  match manager.fencedServer token with
  | .error error => (manager, .error error)
  | .ok entry =>
    match entry.transaction.sendResponse status bytes with
    | (next, .error error) =>
      (manager.updateServer token.key entry next, .error (.server error))
    | (next, .ok actions) =>
      (manager.updateServer token.key entry next, .ok ⟨token, actions⟩)

/-- Route a validated response to its client transaction. -/
def routeResponse
    (manager : TransactionManager) (response : ValidatedResponse) :
    TransactionManager × Except ManagerError (RoutedActions Action) :=
  match forClientResponse response with
  | .error error => (manager, .error (.key error))
  | .ok key =>
    match manager.clients.lookup key with
    | none => (manager, .error .unknown)
    | some entry =>
      match entry.transaction.onResponse response with
      | (next, .error error) =>
        (manager.updateClient key entry next, .error (.client error))
      | (next, .ok actions) =>
        (manager.updateClient key entry next, .ok ⟨⟨key, entry.generation, .client⟩, actions⟩)

/-- Route through live state first, then compact completed-INVITE state. -/
def routeResponseAt
    (manager : TransactionManager) (response : ValidatedResponse) (now : Duration) :
    TransactionManager × Except ManagerError ClientResponseRoute :=
  match forClientResponse response with
  | .error error => (manager, .error (.key error))
  | .ok key =>
    if key ∈ manager.clients then
      match manager.routeResponse response with
      | (next, .error error) => (next, .error error)
      | (next, .ok routed) => (next, .ok (.live routed))
    else
      match manager.completions.route response now with
      | (store, .error error) =>
        ({ manager with completions := store }, .error (.completion error))
      | (store, .ok none) =>
        ({ manager with completions := store }, .ok .unknown)
      | (store, .ok (some disposition)) =>
        ({ manager with completions := store }, .ok (.retained disposition))

/-- Route a validated non-ACK request to existing server transaction state. -/
def routeRequest
    (manager : TransactionManager) (request : ValidatedRequest) :
    TransactionManager × Except ManagerError ServerRequestRoute :=
  if request.method = .ack then
    (manager, .error .unexpectedAck)
  else
    match forServerRequest request with
    | .error error => (manager, .error (.key error))
    | .ok key =>
      match manager.servers.lookup key with
      | none => (manager, .ok .new)
      | some entry =>
        (manager, .ok (.existing
          { token := ⟨key, entry.generation, .server⟩
            actions :=
              match entry.transaction.onDuplicateRequest with
              | .replayResponse bytes => [.sendResponse bytes]
              | .absorb => [] }))

/-- Route a validated ACK. -/
def routeAck
    (manager : TransactionManager) (request : ValidatedRequest) :
    TransactionManager × Except ManagerError AckRoute :=
  if request.method ≠ .ack then
    (manager, .error .expectedAck)
  else
    match forServerRequest request with
    | .error error => (manager, .error (.key error))
    | .ok key =>
      match manager.servers.lookup key with
      | none => (manager, .ok .dialog)
      | some entry =>
        let token : Token := ⟨key, entry.generation, .server⟩
        match entry.transaction.state with
        | .completed =>
          match entry.transaction.onAck with
          | (next, .error error) =>
            (manager.updateServer key entry next, .error (.server error))
          | (next, .ok actions) =>
            (manager.updateServer key entry next, .ok (.transaction ⟨token, actions⟩))
        | .confirmed => (manager, .ok (.transaction ⟨token, []⟩))
        | _ => (manager, .ok .dialog)

/-- Route a generation-fenced client timer. -/
def clientTimer
    (manager : TransactionManager) (token : Token)
    (timer : Timer) : TransactionManager × Except ManagerError (List Action) :=
  match manager.fencedClient token with
  | .error error => (manager, .error error)
  | .ok entry =>
    match entry.transaction.onTimer timer with
    | (next, .error error) =>
      (manager.updateClient token.key entry next, .error (.client error))
    | (next, .ok actions) =>
      (manager.updateClient token.key entry next, .ok actions)

/-- Route a generation-fenced server timer. -/
def serverTimer
    (manager : TransactionManager) (token : Token) (timer : ServerTimer) :
    TransactionManager × Except ManagerError (List ServerAction) :=
  match manager.fencedServer token with
  | .error error => (manager, .error error)
  | .ok entry =>
    match entry.transaction.onTimer timer with
    | (next, .error error) =>
      (manager.updateServer token.key entry next, .error (.server error))
    | (next, .ok actions) =>
      (manager.updateServer token.key entry next, .ok actions)

/-- The map without the exact generation of a token, when it holds it. -/
def removeGeneration
    (map : KeyMap TransactionKey (Entry τ))
    (token : Token) : KeyMap TransactionKey (Entry τ) × Bool :=
  match map.lookup token.key with
  | none => (map, false)
  | some entry =>
    if entry.generation = token.generation then (map.erase token.key, true)
    else (map, false)

/-- Remove the exact generation represented by a token. -/
def remove (manager : TransactionManager) (token : Token) : TransactionManager × Bool :=
  match token.role with
  | .client =>
    let (clients, removed) := removeGeneration manager.clients token
    ({ manager with clients := clients }, removed)
  | .server =>
    let (servers, removed) := removeGeneration manager.servers token
    ({ manager with servers := servers }, removed)

/-- The transaction leaves compact completion state behind. -/
def NeedsRetention (transaction : ClientTransaction) : Prop := transaction.kind = .invite ∧
    ((transaction.state = .completed ∨ transaction.state = .accepted) ∨
      transaction.retainedFailureAck.isSome)

instance (transaction : ClientTransaction) : Decidable (NeedsRetention transaction) :=
  inferInstanceAs (Decidable (_ ∧ _))

/-- Remove exact live state and retain compact INVITE completion authority. -/
def completeAt
    (manager : TransactionManager) (token : Token) (now : Duration)
    (allocated : Bool) : TransactionManager × Except ManagerError Bool :=
  if token.role ≠ .client then
    let (servers, removed) := removeGeneration manager.servers token
    ({ manager with servers := servers }, .ok removed)
  else
    match manager.clients.lookup token.key with
    | none => (manager, .ok false)
    | some entry =>
      if entry.generation ≠ token.generation then
        (manager, .ok false)
      else
        -- The live entry is gone before the fallible steps below.
        let removed := { manager with clients := manager.clients.erase token.key }
        if NeedsRetention entry.transaction then
          match now.checkedAdd entry.transaction.completionRetention with
          | none => (removed, .error .timeOverflow)
          | some expiresAt =>
            match manager.completions.retain token.key
                { generation := token.generation
                  expiresAt := expiresAt
                  failureAck := entry.transaction.retainedFailureAck }
                allocated with
            | (store, .error error) =>
              ({ removed with completions := store }, .error (.completion error))
            | (store, .ok ()) =>
              ({ removed with completions := store }, .ok true)
        else
          (removed, .ok true)

/-- Reclaim expired compact completion state. -/
def sweepCompletions (manager : TransactionManager) (now : Duration) : TransactionManager × Nat :=
  let (store, reclaimed) := manager.completions.sweep now
  ({ manager with completions := store }, reclaimed)

/-- Permanently fence new transaction admission. -/
def beginShutdown (manager : TransactionManager) : TransactionManager :=
  { manager with shuttingDown := true }

end TransactionManager

/-- One use of a manager by its owner. -/
inductive ManagerOperation
  | insertClient (transaction : ClientTransaction) (allocated : Bool)
  | startClient (transaction : ClientTransaction) (allocated : Bool)
  | insertServer (transaction : ServerTransaction) (allocated : Bool)
  | startServer (transaction : ServerTransaction) (allocated : Bool)
  | respondServer (token : Token) (status : StatusCode) (bytes : Bytes)
  | routeResponse (response : ValidatedResponse)
  | routeResponseAt (response : ValidatedResponse) (now : Duration)
  | routeRequest (request : ValidatedRequest)
  | routeAck (request : ValidatedRequest)
  | clientTimer (token : Token) (timer : Timer)
  | serverTimer (token : Token) (timer : ServerTimer)
  | remove (token : Token)
  | completeAt (token : Token) (now : Duration) (allocated : Bool)
  | sweepCompletions (now : Duration)
  | beginShutdown

/-- The manager after one operation. -/
def TransactionManager.apply (manager : TransactionManager) : ManagerOperation → TransactionManager
  | .insertClient transaction allocated =>
    (manager.insertClient transaction allocated).1
  | .startClient transaction allocated =>
    (manager.startClient transaction allocated).1
  | .insertServer transaction allocated =>
    (manager.insertServer transaction allocated).1
  | .startServer transaction allocated =>
    (manager.startServer transaction allocated).1
  | .respondServer token status bytes =>
    (manager.respondServer token status bytes).1
  | .routeResponse response => (manager.routeResponse response).1
  | .routeResponseAt response now => (manager.routeResponseAt response now).1
  | .routeRequest request => (manager.routeRequest request).1
  | .routeAck request => (manager.routeAck request).1
  | .clientTimer token timer => (manager.clientTimer token timer).1
  | .serverTimer token timer => (manager.serverTimer token timer).1
  | .remove token => (manager.remove token).1
  | .completeAt token now allocated => (manager.completeAt token now allocated).1
  | .sweepCompletions now => (manager.sweepCompletions now).1
  | .beginShutdown => manager.beginShutdown

/-- The manager after a run of operations. -/
def TransactionManager.after
    (manager : TransactionManager) (operations : List ManagerOperation) : TransactionManager :=
  Run.after (fun manager operation => (manager.apply operation, ())) manager operations

/-- A manager that some owner can hold. -/
def TransactionManager.Reachable (manager : TransactionManager) : Prop :=
  ∃ maximum initial operations, TransactionManager.new maximum = .ok initial ∧
      manager = initial.after operations

end Transaction
end LiveAISIP
