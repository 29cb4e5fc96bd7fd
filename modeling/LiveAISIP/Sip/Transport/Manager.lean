import LiveAISIP.Library.KeyMap
import LiveAISIP.Library.Run
import LiveAISIP.Sip.Transport.Connection

/-!
# The reliable connection registry

`sip/transport/manager.rs`: connections by identity and identities by destination.  The
two maps are changed together, so that each is the inverse of the other in every state
that a run of calls can reach.
-/

namespace LiveAISIP
namespace Sip
namespace Transport

open KeyMap AList Run

/-- Hard maximum reliable connections owned by one manager. -/
def maxReliableConnections : Nat := 65536

/-- Reliable transport registry failure. -/
inductive ManagerError
  | invalidConnectionLimit (value maximum : Nat)
  | shuttingDown
  | capacity (maximum : Nat)
  | connectionIdExhausted
  | allocationFailed
  | unknownConnection
  | connection (error : ConnectionError)

/-- Reliable transport manager configuration. -/
structure ManagerConfig where
  maxConnections : Nat
  queueLimits : QueueLimits

/-- Validate hard manager and queue ceilings. -/
def ManagerConfig.validate (config : ManagerConfig) : Except ManagerError Unit :=
  if config.maxConnections = 0 ∨ maxReliableConnections < config.maxConnections then
    .error (.invalidConnectionLimit config.maxConnections maxReliableConnections)
  else
    config.queueLimits.validate.mapError .connection

/-- Result of registering a destination. -/
structure Registration where
  id : ConnectionId
  created : Bool

/-- Bounded reliable connection registry. -/
structure TransportManager where
  config : ManagerConfig
  nextId : UInt64
  shuttingDown : Bool
  connections : KeyMap ConnectionId Connection
  destinations : KeyMap Destination ConnectionId

namespace TransportManager

/-- An empty validated registry. -/
def new (config : ManagerConfig) : Except ManagerError TransportManager :=
  match config.validate with
  | .error error => .error error
  | .ok () => .ok ⟨config, 1, false, ∅, ∅⟩

/-- The candidate after another; zero is no identity. -/
def followingId (candidate : UInt64) : UInt64 :=
  if candidate + 1 = 0 then 1 else candidate + 1

/-- Try a number of candidates: the next one and, unless all are taken, the identity. -/
def allocateFrom (connections : KeyMap ConnectionId Connection) :
    Nat → UInt64 → UInt64 × Except ManagerError ConnectionId
  | 0, nextId => (nextId, .error .connectionIdExhausted)
  | attempts + 1, nextId =>
    match ConnectionId.new nextId with
    | .ok id =>
      if id ∈ connections then allocateFrom connections attempts (followingId nextId)
      else (followingId nextId, .ok id)
    | .error _ => allocateFrom connections attempts (followingId nextId)

/-- Allocate an identity that no connection has. -/
def allocateId (manager : TransportManager) : TransportManager × Except ManagerError ConnectionId :=
  let (nextId, result) :=
    allocateFrom manager.connections (manager.connections.size + 1) manager.nextId
  ({ manager with nextId := nextId }, result)

/-- An existing registration, or connecting state; both maps reserve room for a new one. -/
def register
    (manager : TransportManager) (destination : Destination)
    (connectionGranted destinationGranted : Bool) :
    TransportManager × Except ManagerError Registration :=
  if manager.shuttingDown then
    (manager, .error .shuttingDown)
  else
    match manager.destinations.lookup destination with
    | some id => (manager, .ok ⟨id, false⟩)
    | none =>
      if manager.config.maxConnections ≤ manager.connections.size then
        (manager, .error (.capacity manager.config.maxConnections))
      else
        match manager.allocateId with
        | (manager, .error error) => (manager, .error error)
        | (manager, .ok id) =>
          match Connection.new id destination manager.config.queueLimits with
          | .error error => (manager, .error (.connection error))
          | .ok connection =>
            if ¬connectionGranted then (manager, .error .allocationFailed)
            else if ¬destinationGranted then (manager, .error .allocationFailed)
            else
              ({ manager with
                  connections := manager.connections.insert id connection
                  destinations := manager.destinations.insert destination id },
                .ok ⟨id, true⟩)

/-- Replace a known connection. -/
def put (manager : TransportManager) (id : ConnectionId) (connection : Connection) :
    TransportManager :=
  { manager with connections := manager.connections.insert id connection }

/-- Mark a connecting socket as established. -/
def establish (manager : TransportManager) (id : ConnectionId) :
    TransportManager × Except ManagerError Unit :=
  match manager.connections.lookup id with
  | none => (manager, .error .unknownConnection)
  | some connection =>
    match connection.transition .established with
    | .error error => (manager, .error (.connection error))
    | .ok moved => (manager.put id moved, .ok ())

/-- Enqueue a complete immutable SIP message. -/
def enqueue
    (manager : TransportManager) (id : ConnectionId) (message : Bytes) (granted : Bool) :
    TransportManager × Except ManagerError Unit :=
  if manager.shuttingDown then
    (manager, .error .shuttingDown)
  else
    match manager.connections.lookup id with
    | none => (manager, .error .unknownConnection)
    | some connection =>
      match connection.enqueue message granted with
      | .error error => (manager, .error (.connection error))
      | .ok queued => (manager.put id queued, .ok ())

/-- Remove the oldest queued message for socket-layer ownership. -/
def popFront (manager : TransportManager) (id : ConnectionId) :
    TransportManager × Except ManagerError (Option Bytes) :=
  match manager.connections.lookup id with
  | none => (manager, .error .unknownConnection)
  | some connection =>
    (manager.put id connection.popFront.1, .ok connection.popFront.2)

/-- Remove one registration; what is returned of it is closed. -/
def take (manager : TransportManager) (id : ConnectionId) : TransportManager × Option Connection :=
  match manager.connections.lookup id with
  | none => (manager, none)
  | some connection =>
    ({ manager with
        connections := manager.connections.erase id
        destinations := manager.destinations.erase connection.destination },
      some { connection with state := .closed })

/-- Remove and close one registration. -/
def remove (manager : TransportManager) (id : ConnectionId) : TransportManager × Bool :=
  let (manager, taken) := manager.take id
  (manager, taken.isSome)

/-- Permanently fence new work and begin the drain. -/
def beginShutdown (manager : TransportManager) : TransportManager :=
  let connections := (manager.connections.mapValues Connection.beginShutdown).keepIf
    fun connection => connection.state ≠ .closed
  { manager with
    shuttingDown := true
    connections := connections
    destinations := manager.destinations.keepIf fun id => id ∈ connections }

end TransportManager

/-- A call on a registry. -/
inductive ManagerCall
  | register (destination : Destination) (connectionGranted destinationGranted : Bool)
  | establish (id : ConnectionId)
  | enqueue (id : ConnectionId) (message : Bytes) (granted : Bool)
  | popFront (id : ConnectionId)
  | take (id : ConnectionId)
  | remove (id : ConnectionId)
  | beginShutdown

/-- What a call on a registry returned. -/
inductive ManagerResult
  | register (result : Except ManagerError Registration)
  | establish (result : Except ManagerError Unit)
  | enqueue (result : Except ManagerError Unit)
  | popFront (result : Except ManagerError (Option Bytes))
  | take (result : Option Connection)
  | remove (result : Bool)
  | beginShutdown

/-- A call that failed. -/
def ManagerResult.Failed : ManagerResult → Prop
  | register (.error _) | establish (.error _) | enqueue (.error _) | popFront (.error _)
  | take none | remove false => True
  | _ => False

/-- The identity of a connection that a call created. -/
def ManagerResult.createdId : ManagerResult → Option ConnectionId
  | register (.ok ⟨id, true⟩) => some id
  | _ => none

namespace TransportManager

variable {manager : TransportManager} {id : ConnectionId} {created : List ConnectionId}

variable {config : ManagerConfig}

/-- One call on a registry. -/
def step (manager : TransportManager) : ManagerCall → TransportManager × ManagerResult
  | .register destination connectionGranted destinationGranted =>
    ((manager.register destination connectionGranted destinationGranted).1,
      .register (manager.register destination connectionGranted destinationGranted).2)
  | .establish id => ((manager.establish id).1, .establish (manager.establish id).2)
  | .enqueue id message granted =>
    ((manager.enqueue id message granted).1, .enqueue (manager.enqueue id message granted).2)
  | .popFront id => ((manager.popFront id).1, .popFront (manager.popFront id).2)
  | .take id => ((manager.take id).1, .take (manager.take id).2)
  | .remove id => ((manager.remove id).1, .remove (manager.remove id).2)
  | .beginShutdown => (manager.beginShutdown, .beginShutdown)

/-- Each connection is indexed under its destination and nothing else is, and there are
not too many. -/
structure Consistent (manager : TransportManager) : Prop where
  ids : ∀ id connection, manager.connections.lookup id = some connection → connection.id = id
  indexed : ∀ id connection, manager.connections.lookup id = some connection →
    manager.destinations.lookup connection.destination = some id
  registered : ∀ destination id, manager.destinations.lookup destination = some id →
    ∃ connection, manager.connections.lookup id = some connection ∧
      connection.destination = destination
  bounded : manager.connections.size ≤ manager.config.maxConnections
  alive : ∀ id connection, manager.connections.lookup id = some connection →
    connection.state ≠ .closed

theorem consistent_of_new (created : new config = .ok manager) :
    Consistent manager := by
  unfold new at created
  split at created
  · cases created
  · cases created
    exact ⟨by simp, by simp, by simp, Nat.zero_le _, by simp⟩

/-- Only the two maps and the limit on them matter. -/
theorem Consistent.of_same
    {other : TransportManager} (consistent : Consistent manager)
    (config : other.config = manager.config) (connections : other.connections = manager.connections)
    (destinations : other.destinations = manager.destinations) : Consistent other := by
  obtain ⟨ids, indexed, registered, bounded, alive⟩ := consistent
  constructor <;> rw [connections]
  · exact ids
  · rw [destinations]
    exact indexed
  · rw [destinations]
    exact registered
  · rw [config]
    exact bounded
  · exact alive

/-- A known connection is replaced by one of the same identity and destination. -/
theorem Consistent.put (consistent : Consistent manager) {before after : Connection}
    (found : manager.connections.lookup id = some before)
    (sameId : after.id = before.id) (sameDestination : after.destination = before.destination)
    (open_ : after.state ≠ .closed) : Consistent (manager.put id after) := by
  have known : id ∈ manager.connections := lookup_isSome.mp (by rw [found]; rfl)
  refine ⟨?_, ?_, ?_, ?_, ?_⟩
  · intro other connection stands
    obtain ⟨rfl, rfl⟩ | ⟨-, old⟩ := lookup_insert_cases stands
    · exact sameId.trans (consistent.ids _ _ found)
    · exact consistent.ids _ _ old
  · intro other connection stands
    obtain ⟨rfl, rfl⟩ | ⟨-, old⟩ := lookup_insert_cases stands
    · rw [sameDestination]
      exact consistent.indexed _ _ found
    · exact consistent.indexed _ _ old
  · intro destination other stands
    obtain ⟨connection, old, rfl⟩ := consistent.registered destination other stands
    by_cases same : other = id
    · subst same
      cases old.symm.trans found
      exact ⟨after, lookup_insert _, sameDestination⟩
    · exact ⟨connection, (lookup_insert_ne same).trans old, rfl⟩
  · have size := size_insert_of_mem known after
    exact size ▸ consistent.bounded
  · intro other connection stands
    obtain ⟨rfl, rfl⟩ | ⟨-, old⟩ := lookup_insert_cases stands
    · exact open_
    · exact consistent.alive _ _ old

/-- A connection to a new destination is entered under a new identity. -/
theorem Consistent.enter
    (consistent : Consistent manager)
    {connection : Connection}
    (fresh : id ∉ manager.connections)
    (unknown : manager.destinations.lookup connection.destination = none)
    (room : manager.connections.size < manager.config.maxConnections)
    (sameId : connection.id = id) (open_ : connection.state ≠ .closed) :
    Consistent { manager with
      connections := manager.connections.insert id connection
      destinations := manager.destinations.insert connection.destination id } := by
  have known : ∀ other old, manager.connections.lookup other = some old → other ≠ id := by
    rintro other old found rfl
    exact fresh (lookup_isSome.mp (by rw [found]; rfl))
  have others : ∀ other old, manager.connections.lookup other = some old →
      old.destination ≠ connection.destination := by
    intro other old found same
    have indexed := consistent.indexed other old found
    rw [same, unknown] at indexed
    cases indexed
  refine ⟨?_, ?_, ?_, ?_, ?_⟩
  · intro other old stands
    obtain ⟨rfl, rfl⟩ | ⟨-, before⟩ := lookup_insert_cases stands
    · exact sameId
    · exact consistent.ids _ _ before
  · intro other old stands
    obtain ⟨rfl, rfl⟩ | ⟨-, before⟩ := lookup_insert_cases stands
    · exact lookup_insert _
    · rw [lookup_insert_ne (others other old before)]
      exact consistent.indexed _ _ before
  · intro destination other stands
    obtain ⟨rfl, rfl⟩ | ⟨-, before⟩ := lookup_insert_cases stands
    · exact ⟨connection, lookup_insert _, rfl⟩
    · obtain ⟨old, found, sameDestination⟩ := consistent.registered destination other before
      exact ⟨old, (lookup_insert_ne (known other old found)).trans found, sameDestination⟩
  · have size := size_insert_of_not_mem fresh connection
    dsimp only
    omega
  · intro other old stands
    obtain ⟨rfl, rfl⟩ | ⟨-, before⟩ := lookup_insert_cases stands
    · exact open_
    · exact consistent.alive _ _ before

/-- A connection is removed together with its destination. -/
theorem Consistent.take (consistent : Consistent manager) (id : ConnectionId) :
    Consistent (manager.take id).1 := by
  unfold TransportManager.take
  split
  · exact consistent
  · next connection found =>
    refine ⟨?_, ?_, ?_, ?_, ?_⟩
    · intro other old stands
      exact consistent.ids _ _ (lookup_of_erase stands).2
    · intro other old stands
      obtain ⟨different, before⟩ := lookup_of_erase stands
      have indexed := consistent.indexed other old before
      have apart : old.destination ≠ connection.destination := by
        intro same
        rw [same, consistent.indexed id connection found, Option.some.injEq] at indexed
        exact different indexed.symm
      exact (lookup_erase_ne apart).trans indexed
    · intro destination other stands
      obtain ⟨apart, stands⟩ := lookup_of_erase stands
      obtain ⟨old, before, sameDestination⟩ := consistent.registered destination other stands
      have different : other ≠ id := by
        rintro rfl
        cases before.symm.trans found
        exact apart sameDestination.symm
      exact ⟨old, (lookup_erase_ne different).trans before, sameDestination⟩
    · exact Nat.le_trans (size_erase_le _ _) consistent.bounded
    · intro other old stands
      exact consistent.alive _ _ (lookup_of_erase stands).2

/-- The connections that survive the beginning of a shutdown. -/
theorem lookup_beginShutdown {connection : Connection} :
    manager.beginShutdown.connections.lookup id = some connection ↔
      ∃ before, manager.connections.lookup id = some before ∧
        before.beginShutdown = connection ∧ connection.state ≠ .closed := by
  simp only [beginShutdown, lookup_keepIf, lookup_mapValues, decide_eq_true_eq]
  constructor
  · rintro ⟨⟨before, found, same⟩, open_⟩
    exact ⟨before, found, same, open_⟩
  · rintro ⟨before, found, same, open_⟩
    exact ⟨⟨before, found, same⟩, open_⟩

theorem Consistent.beginShutdown (consistent : Consistent manager) :
    Consistent manager.beginShutdown := by
  have indexedIff : ∀ destination id,
      manager.beginShutdown.destinations.lookup destination = some id ↔
        manager.destinations.lookup destination = some id ∧
          ∃ connection, manager.beginShutdown.connections.lookup id = some connection := by
    intro destination id
    simp only [TransportManager.beginShutdown, lookup_keepIf, decide_eq_true_eq]
    rw [← lookup_isSome, Option.isSome_iff_exists]
    simp only [lookup_keepIf, decide_eq_true_eq]
  refine ⟨?_, ?_, ?_, ?_, ?_⟩
  · intro id connection stands
    obtain ⟨before, found, rfl, -⟩ := lookup_beginShutdown.mp stands
    rw [before.beginShutdown_spec.1]
    exact consistent.ids id before found
  · intro id connection stands
    refine (indexedIff _ _).mpr ⟨?_, connection, stands⟩
    obtain ⟨before, found, rfl, -⟩ := lookup_beginShutdown.mp stands
    rw [before.beginShutdown_spec.2.1]
    exact consistent.indexed id before found
  · intro destination id stands
    obtain ⟨old, connection, alive⟩ := (indexedIff _ _).mp stands
    obtain ⟨before, found, rfl, -⟩ := lookup_beginShutdown.mp alive
    obtain ⟨same, sameFound, sameDestination⟩ := consistent.registered destination id old
    cases sameFound.symm.trans found
    exact ⟨_, alive, before.beginShutdown_spec.2.1.trans sameDestination⟩
  · refine Nat.le_trans (size_keepIf_le _ _) ?_
    rw [size_mapValues]
    exact consistent.bounded
  · intro id connection stands
    obtain ⟨before, found, rfl, open_⟩ := lookup_beginShutdown.mp stands
    exact open_

/-- An allocated identity is of no connection. -/
theorem allocateFrom_fresh
    {connections : KeyMap ConnectionId Connection}
    {attempts : Nat}
    {nextId : UInt64}
    (allocated : (allocateFrom connections attempts nextId).2 = .ok id) :
    id ∉ connections := by
  induction attempts generalizing nextId with
  | zero => cases allocated
  | succ attempts ih =>
    unfold allocateFrom at allocated
    split at allocated
    · split_ifs at allocated with taken
      · exact ih allocated
      · cases allocated
        exact taken
    · exact ih allocated

/-- A registration gets as far as a new identity. -/
def Allocates (manager : TransportManager) (destination : Destination) : Prop :=
  manager.shuttingDown = false ∧ manager.destinations.lookup destination = none ∧
    manager.connections.size < manager.config.maxConnections

instance (manager : TransportManager) (destination : Destination) :
    Decidable (manager.Allocates destination) :=
  inferInstanceAs (Decidable (_ ∧ _ ∧ _))

/-- What a registration leaves and returns. -/
inductive Registered (manager : TransportManager) (destination : Destination) :
    TransportManager × Except ManagerError Registration → Prop
  | kept
      (idle : ¬manager.Allocates destination) {result : Except ManagerError Registration}
      (notCreated : (ManagerResult.register result).createdId = none) :
      Registered manager destination (manager, result)
  /-- The new identity is not used. -/
  | refused (allocates : manager.Allocates destination) (error : ManagerError) :
      Registered manager destination (manager.allocateId.1, .error error)
  | entered
      (allocates : manager.Allocates destination) {id : ConnectionId}
      (allocated : manager.allocateId.2 = .ok id) :
      Registered manager destination
        ({ manager.allocateId.1 with
            connections := manager.connections.insert id
              ⟨id, destination, .connecting, manager.config.queueLimits, 0, []⟩
            destinations := manager.destinations.insert destination id }, .ok ⟨id, true⟩)

theorem registered_register
    (manager : TransportManager) (destination : Destination)
    (connectionGranted destinationGranted : Bool) :
    Registered manager destination
      (manager.register destination connectionGranted destinationGranted) := by
  unfold register
  by_cases fenced : manager.shuttingDown = true
  · rw [if_pos fenced]
    exact .kept (fun allocates => by simp [allocates.1] at fenced) rfl
  rw [if_neg fenced]
  cases unknown : manager.destinations.lookup destination with
  | some known => exact .kept (fun allocates => by cases unknown.symm.trans allocates.2.1) rfl
  | none =>
    dsimp only
    by_cases full : manager.config.maxConnections ≤ manager.connections.size
    · rw [if_pos full]
      exact .kept (fun allocates => Nat.not_lt.mpr full allocates.2.2) rfl
    rw [if_neg full]
    have allocates : manager.Allocates destination :=
      ⟨by simpa using fenced, unknown, Nat.lt_of_not_le full⟩
    have refused := Registered.refused allocates
    have same : manager.allocateId.1 = { manager with nextId := manager.allocateId.1.nextId } :=
      rfl
    rcases allocation : manager.allocateId with ⟨next, error | id⟩
    · rw [allocation] at refused
      exact refused error
    · have entered := @Registered.entered manager destination allocates id (by rw [allocation])
      rw [allocation] at refused entered same
      dsimp only at same ⊢
      cases created : Connection.new id destination next.config.queueLimits with
      | error error => exact refused _
      | ok connection =>
        dsimp only
        split_ifs
        · rw [Connection.new_eq_ok created]
          rw [same] at entered ⊢
          exact entered
        · exact refused _
        · exact refused _

theorem Consistent.register
    (consistent : Consistent manager) (destination : Destination)
    (connectionGranted destinationGranted : Bool) :
    Consistent (manager.register destination connectionGranted destinationGranted).1 := by
  have registered :=
    registered_register manager destination connectionGranted destinationGranted
  generalize manager.register destination connectionGranted destinationGranted = result
    at registered ⊢
  cases registered with
  | kept => exact consistent
  | refused => exact consistent.of_same rfl rfl rfl
  | @entered allocates id allocated =>
    have fresh : id ∉ manager.connections :=
      allocateFrom_fresh (show (allocateFrom manager.connections
        (manager.connections.size + 1) manager.nextId).2 = .ok id from allocated)
    have entered := @Consistent.enter manager id consistent
      ⟨id, destination, .connecting, manager.config.queueLimits, 0, []⟩ fresh
      allocates.2.1 allocates.2.2 rfl (by simp)
    exact entered.of_same rfl rfl rfl

/-- The registry has the connection of every identity that it returns. -/
theorem Consistent.registered_known
    {after : TransportManager} (consistent : Consistent manager)
    {destination : Destination} {registration : Registration}
    {connectionGranted destinationGranted : Bool}
    (registered : manager.register destination connectionGranted destinationGranted =
      (after, .ok registration)) :
    ∃ connection, after.connections.lookup registration.id = some connection := by
  unfold TransportManager.register at registered
  by_cases fenced : manager.shuttingDown = true
  · rw [if_pos fenced] at registered
    cases registered
  rw [if_neg fenced] at registered
  split at registered
  · next id known =>
    cases registered
    obtain ⟨connection, found, -⟩ := consistent.registered destination id known
    exact ⟨connection, found⟩
  · by_cases full : manager.config.maxConnections ≤ manager.connections.size
    · rw [if_pos full] at registered
      cases registered
    rw [if_neg full] at registered
    split at registered
    · cases registered
    · split at registered
      · cases registered
      · next connection _ =>
        split_ifs at registered
        · cases registered
          exact ⟨connection, lookup_insert _⟩
        · cases registered
        · cases registered

/-- Every call keeps the indexes consistent. -/
theorem consistent_step
    (manager : TransportManager) (call : ManagerCall) (consistent : Consistent manager) :
    Consistent (manager.step call).1 := by
  cases call with
  | register destination connectionGranted destinationGranted =>
    exact consistent.register destination connectionGranted destinationGranted
  | establish id =>
    simp only [step, establish]
    split
    · exact consistent
    · next connection found =>
      split
      · exact consistent
      · next moved transitioned =>
        rw [Connection.transition_eq_ok transitioned]
        exact consistent.put found rfl rfl (by simp)
  | enqueue id message granted =>
    simp only [step, enqueue]
    split_ifs
    · exact consistent
    · split
      · exact consistent
      · next connection found =>
        split
        · exact consistent
        · next queued admitted =>
          obtain ⟨state, rfl⟩ := Connection.enqueue_eq_ok admitted
          exact consistent.put found rfl rfl (by simp [state])
  | popFront id =>
    simp only [step, popFront]
    split
    · exact consistent
    · next connection found =>
      obtain ⟨sameId, sameDestination, sameState, -⟩ := connection.popFront_spec
      exact consistent.put found sameId sameDestination (sameState ▸ consistent.alive _ _ found)
  | take id => exact consistent.take id
  | remove id => exact consistent.take id
  | beginShutdown => exact consistent.beginShutdown

/-- A call that fails leaves both indexes and with them all queues. -/
theorem unchanged_of_failed
    (manager : TransportManager) (call : ManagerCall) (failed : (manager.step call).2.Failed) :
    (manager.step call).1.connections = manager.connections ∧
      (manager.step call).1.destinations = manager.destinations := by
  cases call with
  | register destination connectionGranted destinationGranted =>
    have registered :=
      registered_register manager destination connectionGranted destinationGranted
    simp only [step] at failed ⊢
    generalize manager.register destination connectionGranted destinationGranted = result
      at registered failed ⊢
    cases registered with
    | kept | refused => exact ⟨rfl, rfl⟩
    | entered => exact failed.elim
  | establish id =>
    simp only [step, establish] at failed ⊢
    split at failed
    · exact ⟨rfl, rfl⟩
    · split at failed
      · exact ⟨rfl, rfl⟩
      · exact failed.elim
  | enqueue id message granted =>
    simp only [step, enqueue] at failed ⊢
    split_ifs at failed ⊢
    · exact ⟨rfl, rfl⟩
    · split at failed
      · exact ⟨rfl, rfl⟩
      · split at failed
        · exact ⟨rfl, rfl⟩
        · exact failed.elim
  | popFront id =>
    simp only [step, popFront] at failed ⊢
    split at failed
    · exact ⟨rfl, rfl⟩
    · exact failed.elim
  | take id =>
    simp only [step, take] at failed ⊢
    split at failed
    · exact ⟨rfl, rfl⟩
    · exact failed.elim
  | remove id =>
    simp only [step, remove, take] at failed ⊢
    split at failed
    · exact ⟨rfl, rfl⟩
    · exact failed.elim
  | beginShutdown => exact failed.elim

/-- Nothing takes a shutdown back. -/
theorem shuttingDown_step
    (manager : TransportManager) (call : ManagerCall) (fenced : manager.shuttingDown = true) :
    (manager.step call).1.shuttingDown = true := by
  cases call with
  | register destination connectionGranted destinationGranted =>
    simp [step, register, fenced]
  | establish id =>
    simp only [step, establish]
    split
    · exact fenced
    · split <;> exact fenced
  | enqueue id message granted => simp [step, enqueue, fenced]
  | popFront id =>
    simp only [step, popFront]
    split <;> exact fenced
  | take id =>
    simp only [step, take]
    split <;> exact fenced
  | remove id =>
    simp only [step, remove, take]
    split <;> exact fenced
  | beginShutdown => rfl

theorem shuttingDown_of_mem
    (manager : TransportManager) {calls : List ManagerCall} (begun : .beginShutdown ∈ calls) :
    (after step manager calls).shuttingDown = true := by
  obtain ⟨earlier, later, rfl⟩ := List.append_of_mem begun
  rw [after_append, after_cons]
  apply invariant (fun manager : TransportManager => manager.shuttingDown = true)
  · rfl
  · exact shuttingDown_step

/-- While the counter has not come round, the next candidate is beyond every identity
that was handed out, and so beyond every connection. -/
structure Unwrapped (used : Nat) (created : List ConnectionId) (manager : TransportManager) :
    Prop where
  created_le : ∀ id ∈ created, id.get.toNat ≤ used
  live : ∀ id ∈ manager.connections, id ∈ created
  distinct : created.Nodup
  next : used < 2 ^ 64 - 1 → manager.nextId.toNat = used + 1

/-- The number of identities that a call allocates. -/
def allocated (manager : TransportManager) : ManagerCall → Nat
  | .register destination _ _ => if manager.Allocates destination then 1 else 0
  | _ => 0

/-- The number of identities that a run allocates. -/
def allocations (manager : TransportManager) (calls : List ManagerCall) : Nat :=
  tally allocated step manager calls

/-- The identities of the connections that a run created. -/
def createdIds (manager : TransportManager) (calls : List ManagerCall) : List ConnectionId :=
  (outputs step manager calls).filterMap ManagerResult.createdId

/-- Before the counter comes round, the first candidate is free. -/
theorem Unwrapped.allocateId
    {used : Nat} (unwrapped : Unwrapped used created manager) (left : used < 2 ^ 64 - 1) :
    ∃ id : ConnectionId, manager.allocateId.2 = .ok id ∧ id.get.toNat = used + 1 ∧
      (used + 1 < 2 ^ 64 - 1 → manager.allocateId.1.nextId.toNat = used + 2) := by
  have next := unwrapped.next left
  have nonzero : manager.nextId ≠ 0 := by
    intro zero
    rw [zero] at next
    simp at next
  have free : (⟨manager.nextId, nonzero⟩ : ConnectionId) ∉ manager.connections := by
    intro taken
    have := unwrapped.created_le _ (unwrapped.live _ taken)
    dsimp only at this
    omega
  have allocated : allocateFrom manager.connections (manager.connections.size + 1)
      manager.nextId = (followingId manager.nextId, .ok ⟨manager.nextId, nonzero⟩) := by
    rw [allocateFrom, ConnectionId.new, dif_pos nonzero]
    dsimp only
    rw [if_neg free]
  refine ⟨⟨manager.nextId, nonzero⟩, ?_, next, ?_⟩
  · rw [TransportManager.allocateId, allocated]
  · intro more
    have sum : (manager.nextId + 1).toNat = used + 2 := by
      rw [UInt64.toNat_add, next]
      simp only [UInt64.toNat_one]
      omega
    rw [TransportManager.allocateId, allocated]
    dsimp only
    rw [followingId, if_neg, sum]
    intro zero
    rw [zero] at sum
    simp at sum

/-- A call that enters no connection and keeps the counter. -/
theorem Unwrapped.of_subset
    {used : Nat} {other : TransportManager} (unwrapped : Unwrapped used created manager)
    (live : ∀ id ∈ other.connections, id ∈ manager.connections)
    (next : other.nextId = manager.nextId) : Unwrapped used created other :=
  ⟨unwrapped.created_le, fun id known => unwrapped.live id (live id known),
    unwrapped.distinct, next ▸ unwrapped.next⟩

theorem Unwrapped.register
    {used : Nat} (unwrapped : Unwrapped used created manager) (destination : Destination)
    (connectionGranted destinationGranted : Bool)
    (left : used + manager.allocated
      (.register destination connectionGranted destinationGranted) ≤ 2 ^ 64 - 1) :
    Unwrapped
      (used + manager.allocated (.register destination connectionGranted destinationGranted))
      (created ++ (ManagerResult.register
        (manager.register destination connectionGranted destinationGranted).2).createdId.toList)
      (manager.register destination connectionGranted destinationGranted).1 := by
  have registered :=
    registered_register manager destination connectionGranted destinationGranted
  generalize manager.register destination connectionGranted destinationGranted = result
    at registered ⊢
  rw [allocated] at left ⊢
  cases registered with
  | kept idle notCreated =>
    rw [if_neg idle, notCreated, Option.toList_none, List.append_nil]
    exact unwrapped
  | refused allocates error =>
    rw [if_pos allocates] at left ⊢
    obtain ⟨fresh, -, -, following⟩ := unwrapped.allocateId (by omega)
    refine ⟨?_, ?_, ?_, following⟩
    · intro id member
      exact Nat.le_succ_of_le (unwrapped.created_le id
        (by simpa [ManagerResult.createdId] using member))
    · intro id known
      exact List.mem_append_left _ (unwrapped.live id known)
    · simpa [ManagerResult.createdId] using unwrapped.distinct
  | @entered allocates id sameAllocated =>
    rw [if_pos allocates] at left ⊢
    obtain ⟨fresh, allocated, value, following⟩ := unwrapped.allocateId (by omega)
    cases sameAllocated.symm.trans allocated
    refine ⟨?_, ?_, ?_, following⟩
    · intro other member
      simp only [ManagerResult.createdId, Option.toList_some, List.mem_append,
        List.mem_singleton] at member
      rcases member with old | rfl
      · exact Nat.le_succ_of_le (unwrapped.created_le other old)
      · exact Nat.le_of_eq value
    · intro other known
      simp only [ManagerResult.createdId, Option.toList_some, List.mem_append, List.mem_singleton]
      rcases (mem_insert _).mp known with rfl | old
      · exact .inr rfl
      · exact .inl (unwrapped.live other old)
    · simp only [ManagerResult.createdId, Option.toList_some]
      rw [List.nodup_append]
      refine ⟨unwrapped.distinct, by simp, ?_⟩
      intro old member fresh freshMember same
      have bound := unwrapped.created_le old member
      rw [same, List.mem_singleton.mp freshMember] at bound
      omega

/-- A call that is no registration enters no connection and keeps the counter. -/
theorem subset_step
    (manager : TransportManager) (call : ManagerCall)
    (other : ∀ destination connectionGranted destinationGranted,
      call ≠ .register destination connectionGranted destinationGranted) :
    (∀ id ∈ (manager.step call).1.connections, id ∈ manager.connections) ∧
      (manager.step call).1.nextId = manager.nextId ∧
      (manager.step call).2.createdId = none ∧ manager.allocated call = 0 := by
  have put : ∀ id before after, manager.connections.lookup id = some before →
      ∀ known ∈ (manager.put id after).connections, known ∈ manager.connections := by
    intro id before after found known member
    rcases (mem_insert _).mp member with rfl | old
    · exact lookup_isSome.mp (by rw [found]; rfl)
    · exact old
  have same : ∀ known ∈ manager.connections, known ∈ manager.connections := fun _ known => known
  cases call with
  | register destination connectionGranted destinationGranted =>
    exact absurd rfl (other destination connectionGranted destinationGranted)
  | establish id =>
    simp only [step, establish]
    split
    · exact ⟨same, rfl, rfl, rfl⟩
    · next connection found =>
      split
      · exact ⟨same, rfl, rfl, rfl⟩
      · exact ⟨put _ _ _ found, rfl, rfl, rfl⟩
  | enqueue id message granted =>
    simp only [step, enqueue]
    split_ifs
    · exact ⟨same, rfl, rfl, rfl⟩
    · split
      · exact ⟨same, rfl, rfl, rfl⟩
      · next connection found =>
        split
        · exact ⟨same, rfl, rfl, rfl⟩
        · exact ⟨put _ _ _ found, rfl, rfl, rfl⟩
  | popFront id =>
    simp only [step, popFront]
    split
    · exact ⟨same, rfl, rfl, rfl⟩
    · next connection found => exact ⟨put _ _ _ found, rfl, rfl, rfl⟩
  | take id =>
    simp only [step, take]
    split
    · exact ⟨same, rfl, rfl, rfl⟩
    · exact ⟨fun known member => (mem_erase.mp member).2, rfl, rfl, rfl⟩
  | remove id =>
    simp only [step, remove, take]
    split
    · exact ⟨same, rfl, rfl, rfl⟩
    · exact ⟨fun known member => (mem_erase.mp member).2, rfl, rfl, rfl⟩
  | beginShutdown =>
    refine ⟨?_, rfl, rfl, rfl⟩
    intro known member
    rw [← lookup_isSome, Option.isSome_iff_exists] at member ⊢
    obtain ⟨connection, stands⟩ := member
    obtain ⟨before, found, -⟩ := lookup_beginShutdown.mp stands
    exact ⟨before, found⟩

theorem createdIds_append
    (manager : TransportManager) (first second : List ManagerCall) :
    createdIds manager (first ++ second) =
      createdIds manager first ++ createdIds (after step manager first) second := by
  rw [createdIds, outputs_append, List.filterMap_append]
  rfl

/-- As many allocations as the counter has values hand out distinct identities. -/
theorem unwrapped_reached (created : new config = .ok manager)
    (calls : List ManagerCall) (few : allocations manager calls ≤ 2 ^ 64 - 1) :
    Unwrapped (allocations manager calls) (createdIds manager calls)
      (after step manager calls) := by
  induction calls using List.reverseRecOn with
  | nil =>
    unfold new at created
    split at created
    · cases created
    · cases created
      exact ⟨by simp [createdIds], by simp, by simp [createdIds], fun _ => rfl⟩
  | append_singleton earlier call ih =>
    have count : allocations manager (earlier ++ [call]) = allocations manager earlier +
        (after step manager earlier).allocated call := tally_concat ..
    have unwrapped := ih (by omega)
    have ids : createdIds manager (earlier ++ [call]) = createdIds manager earlier ++
        ((after step manager earlier).step call).2.createdId.toList := by
      rw [createdIds_append]
      simp only [createdIds, outputs, List.filterMap_cons, List.filterMap_nil]
      cases ((after step manager earlier).step call).2.createdId <;> rfl
    rw [count] at few ⊢
    rw [ids, after_append]
    by_cases register : ∃ destination connectionGranted destinationGranted,
        call = .register destination connectionGranted destinationGranted
    · obtain ⟨destination, connectionGranted, destinationGranted, rfl⟩ := register
      exact unwrapped.register destination connectionGranted destinationGranted few
    · obtain ⟨live, next, none_, idle⟩ := subset_step (after step manager earlier)
        call (fun destination first second same =>
          register ⟨destination, first, second, same⟩)
      rw [none_, idle, Option.toList_none, List.append_nil]
      exact unwrapped.of_subset live next

/-- What holds after some calls on a registry, and of the call that follows. -/
structure KeepsIndexes
    (manager : TransportManager) (calls : List ManagerCall) (call : ManagerCall) : Prop where
  consistent : Consistent (after step manager calls)
  unchanged : (output step manager calls call).Failed →
    (after step manager (calls ++ [call])).connections =
        (after step manager calls).connections ∧
      (after step manager (calls ++ [call])).destinations = (after step manager calls).destinations
  fenced : .beginShutdown ∈ calls →
    (∀ destination connectionGranted destinationGranted registration,
      ((after step manager calls).register destination connectionGranted
        destinationGranted).2 ≠ .ok registration) ∧
    ∀ id message granted, ((after step manager calls).enqueue id message granted).2 ≠ .ok ()
  /-- No identity is handed out twice before the counter comes round. -/
  distinct : allocations manager calls ≤ 2 ^ 64 - 1 → (createdIds manager calls).Nodup

theorem keepsIndexes (created : new config = .ok manager)
    (calls : List ManagerCall) (call : ManagerCall) : KeepsIndexes manager calls call := by
  refine ⟨?_, ?_, ?_, ?_⟩
  · exact invariant Consistent (consistent_of_new created) consistent_step calls
  · intro failed
    rw [after_append]
    exact unchanged_of_failed _ call failed
  · intro begun
    have fenced := shuttingDown_of_mem manager begun
    constructor
    · intro destination connectionGranted destinationGranted registration
      simp [register, fenced]
    · intro id message granted
      simp [enqueue, fenced]
  · exact fun few => (unwrapped_reached created calls few).distinct

/-- A connection that can carry a flow. -/
def Carries (manager : TransportManager) (id : ConnectionId) : Prop :=
  ∃ connection, manager.connections.lookup id = some connection ∧
    (connection.state = .established ∨ connection.state = .draining)

theorem Carries.put {other : ConnectionId} {before after : Connection}
    (carries : Carries manager id) (found : manager.connections.lookup other = some before)
    (state : before.state = .established ∨ before.state = .draining →
      after.state = .established ∨ after.state = .draining) :
    Carries (manager.put other after) id := by
  obtain ⟨connection, stands, carrying⟩ := carries
  by_cases same : id = other
  · subst same
    cases stands.symm.trans found
    exact ⟨after, lookup_insert _, state carrying⟩
  · exact ⟨connection, (lookup_insert_ne same).trans stands, carrying⟩

theorem Carries.erase {other : ConnectionId} (carries : Carries manager id)
    (different : id ≠ other) : Carries (manager.take other).1 id := by
  unfold TransportManager.take
  split
  · exact carries
  · obtain ⟨connection, stands, carrying⟩ := carries
    exact ⟨connection, (lookup_erase_ne different).trans stands, carrying⟩

/-- Only its removal stops a connection from carrying its flow. -/
theorem carries_step (carries : Carries manager id)
    (call : ManagerCall) (notTaken : call ≠ .take id) (notRemoved : call ≠ .remove id) :
    Carries (manager.step call).1 id := by
  cases call with
  | register destination connectionGranted destinationGranted =>
    have registered :=
      registered_register manager destination connectionGranted destinationGranted
    simp only [step]
    generalize manager.register destination connectionGranted destinationGranted = result
      at registered ⊢
    cases registered with
    | kept | refused => exact carries
    | @entered allocates fresh allocated =>
      obtain ⟨connection, stands, carrying⟩ := carries
      have unknown : fresh ∉ manager.connections :=
        allocateFrom_fresh (show (allocateFrom manager.connections
          (manager.connections.size + 1) manager.nextId).2 = .ok fresh from allocated)
      have different : id ≠ fresh := by
        rintro rfl
        exact unknown (lookup_isSome.mp (by rw [stands]; rfl))
      exact ⟨connection, (lookup_insert_ne different).trans stands, carrying⟩
  | establish other =>
    simp only [step, establish]
    split
    · exact carries
    · next connection found =>
      split
      · exact carries
      · next moved transitioned =>
        rw [Connection.transition_eq_ok transitioned]
        exact carries.put found fun _ => .inl rfl
  | enqueue other message granted =>
    simp only [step, enqueue]
    split_ifs
    · exact carries
    · split
      · exact carries
      · next connection found =>
        split
        · exact carries
        · next queued admitted =>
          obtain ⟨-, rfl⟩ := Connection.enqueue_eq_ok admitted
          exact carries.put found fun carrying => carrying
  | popFront other =>
    simp only [step, popFront]
    split
    · exact carries
    · next connection found =>
      exact carries.put found fun carrying => connection.popFront_spec.2.2.1 ▸ carrying
  | take other => exact carries.erase fun same => notTaken (same ▸ rfl)
  | remove other => exact carries.erase fun same => notRemoved (same ▸ rfl)
  | beginShutdown =>
    obtain ⟨connection, stands, carrying⟩ := carries
    have draining : connection.beginShutdown.state = .draining := by
      unfold Connection.beginShutdown
      rcases carrying with state | state <;> simp [state]
    exact ⟨connection.beginShutdown,
      lookup_beginShutdown.mpr ⟨connection, stands, rfl, by simp [draining]⟩, .inr draining⟩

/-- The same over a run. -/
theorem carries_after (carries : Carries manager id)
    (calls : List ManagerCall) (notTaken : .take id ∉ calls) (notRemoved : .remove id ∉ calls) :
    Carries (after step manager calls) id := by
  induction calls generalizing manager with
  | nil => exact carries
  | cons call calls ih =>
    rw [List.mem_cons, not_or] at notTaken notRemoved
    exact ih (carries_step carries call (Ne.symm notTaken.1) (Ne.symm notRemoved.1))
      notTaken.2 notRemoved.2

end TransportManager
end Transport
end Sip
end LiveAISIP
