import LiveAISIP.Sip.Transport.Driver
import LiveAISIP.Sip.Transport.Manager

/-!
# The reliable side of the transport service

`sip/transport/service/mod.rs` keeps the drivers of attached flows beside the connection
registry.  A call of the service is a few calls of the registry and a change of the
drivers; what the registry keeps over its runs it therefore keeps over runs of the
service, and each driver stands beside a connection that can carry it.
-/

namespace LiveAISIP
namespace Sip
namespace Transport

open Run AList

/-- Hard upper bound for messages committed during one poll. -/
def maxWriteCommitsPerPoll : Nat := 64

/-- Bounded transport-service policy. -/
structure ServiceConfig where
  manager : ManagerConfig
  writeCommitsPerPoll : Nat

/-- Transport planning, attachment, queue, socket, or shutdown failure. -/
inductive ServiceError
  | manager (error : ManagerError)
  | invalidWriteCommitBudget (value maximum : Nat)
  | datagramReliablePlan
  | allocationFailed
  | connectionNotPlanned
  | connectionNotAttached
  | connectionAlreadyAttached
  | connectionNotConnecting (state : ConnectionState)
  | driverProtocolMismatch (expected actual : Protocol)
  | driverPeerMismatch
  | driverFlowMismatch
  | driverIdentityMismatch
  | internalWriteInvariant
  | internalConnectionInvariant
  | driver (error : DriverError)
  | drainIncomplete (queuedMessages : Nat) (inflight : Bool)

/-- An attached driver and the message it has not reported complete. -/
structure ActiveFlow where
  driver : ReliableDriver
  inflight : Option Bytes

/-- Nonblocking plan for one deduplicated reliable destination. -/
structure ReliableConnectionPlan where
  id : ConnectionId
  flowId : FlowId
  destination : Destination
  created : Bool
  state : ConnectionState

/-- Messages proven fully committed during one poll. -/
structure WriteBatch where
  committed : List Bytes
  writePending : Bool
  queuedMessages : Nat
  queuedBytes : Nat

/-- Reliable messages retired because their connection failed. -/
structure FailedConnection where
  id : ConnectionId
  inflight : Option Bytes
  queued : List Bytes

/-- What a poll did to the driver and to the kernel, and what it returned. -/
structure Polled where
  /-- The messages given to the driver. -/
  handed : List Bytes
  /-- The bytes that reached the kernel. -/
  sent : Bytes
  result : Except ServiceError WriteBatch

/-- The actor-owned service, without its UDP socket. -/
structure TransportService where
  config : ServiceConfig
  manager : TransportManager
  active : KeyMap ConnectionId ActiveFlow

/-- The loop of a poll: the state it leaves, what it did, and how it ended. -/
structure WriteLoop where
  manager : TransportManager
  flow : ActiveFlow
  committed : List Bytes
  handed : List Bytes
  sent : Bytes
  result : Except ServiceError Unit

/-- What one turn of the loop did comes before what the later turns do. -/
def WriteLoop.after (committed handed : List Bytes) (sent : Bytes) (later : WriteLoop) :
    WriteLoop :=
  { later with
    committed := committed ++ later.committed
    handed := handed ++ later.handed
    sent := sent ++ later.sent }

namespace TransportService

/-- An empty reliable registry. -/
def new (config : ServiceConfig) : Except ServiceError TransportService :=
  match config.manager.validate with
  | .error error => .error (.manager error)
  | .ok () =>
    if config.writeCommitsPerPoll = 0 ∨ maxWriteCommitsPerPoll < config.writeCommitsPerPoll then
      .error (.invalidWriteCommitBudget config.writeCommitsPerPoll maxWriteCommitsPerPoll)
    else
      match TransportManager.new config.manager with
      | .error error => .error (.manager error)
      | .ok manager => .ok ⟨config, manager, ∅⟩

/-- Plan or reuse a concrete reliable destination. -/
def planReliable
    (service : TransportService) (destination : Destination)
    (connectionGranted destinationGranted : Bool) :
    TransportService × Except ServiceError ReliableConnectionPlan :=
  if destination.protocol = .udp then
    (service, .error .datagramReliablePlan)
  else
    match service.manager.register destination connectionGranted destinationGranted with
    | (manager, .error error) => ({ service with manager := manager }, .error (.manager error))
    | (manager, .ok registration) =>
      ({ service with manager := manager },
        match manager.connections.lookup registration.id with
        | none => .error .internalConnectionInvariant
        | some connection =>
          .ok ⟨registration.id, Transport.flowId registration.id, destination,
            registration.created, connection.state⟩)

/-- Attach an established driver to connecting state. -/
def attach
    (service : TransportService) (id : ConnectionId) (driver : ReliableDriver) (granted : Bool) :
    TransportService × Except ServiceError Unit :=
  if id ∈ service.active then
    (service, .error .connectionAlreadyAttached)
  else
    match service.manager.connections.lookup id with
    | none => (service, .error .connectionNotPlanned)
    | some connection =>
      if connection.state ≠ .connecting then
        (service, .error (.connectionNotConnecting connection.state))
      else if connection.destination.protocol ≠ driver.protocol then
        (service, .error (.driverProtocolMismatch connection.destination.protocol driver.protocol))
      else if connection.destination.remote ≠ driver.peerAddr then
        (service, .error .driverPeerMismatch)
      else if Transport.flowId id ≠ driver.flowId then
        (service, .error .driverFlowMismatch)
      else if ¬granted then
        (service, .error .allocationFailed)
      else
        match service.manager.establish id with
        | (manager, .error error) =>
          ({ service with manager := manager }, .error (.manager error))
        | (manager, .ok ()) =>
          ({ service with
              manager := manager
              active := service.active.insert id ⟨driver, none⟩ }, .ok ())

/-- Attach a verified established TCP driver, once it is boxed. -/
def attachTcp
    (service : TransportService) (id : ConnectionId) (driver : TcpDriver)
    (boxGranted granted : Bool) : TransportService × Except ServiceError Unit :=
  if ¬boxGranted then (service, .error .allocationFailed)
  else service.attach id (.tcp driver) granted

/-- Attach a TLS driver whose authenticated identity is the planned one. -/
def attachTls
    (service : TransportService) (id : ConnectionId) (driver : TlsDriver)
    (boxGranted granted : Bool) : TransportService × Except ServiceError Unit :=
  match service.manager.connections.lookup id with
  | none => (service, .error .connectionNotPlanned)
  | some connection =>
    if connection.destination.tlsIdentity ≠ some driver.verifiedPeerIdentity then
      (service, .error .driverIdentityMismatch)
    else if ¬boxGranted then
      (service, .error .allocationFailed)
    else
      service.attach id (.tls driver) granted

/-- Admit one immutable message to an established reliable flow. -/
def enqueueReliable
    (service : TransportService) (id : ConnectionId) (message : Bytes) (granted : Bool) :
    TransportService × Except ServiceError Unit :=
  if id ∉ service.active then
    (service, .error .connectionNotAttached)
  else
    let (manager, result) := service.manager.enqueue id message granted
    ({ service with manager := manager }, result.mapError .manager)

/-- The loop of a poll, with the number of messages it may still commit. -/
def writeLoop (id : ConnectionId) :
    Nat → List WriteAttempt → TransportManager → ActiveFlow → WriteLoop
  | 0, _, manager, flow => ⟨manager, flow, [], [], [], .ok ()⟩
  | budget + 1, attempts, manager, flow =>
    if flow.driver.hasPendingWrite then
      match flow.driver.flushSend (attempts.headD (.short 0)) with
      | (driver, sent, .error error) =>
        ⟨manager, { flow with driver := driver }, [], [], sent, .error (.driver error)⟩
      | (driver, sent, .ok false) =>
        ⟨manager, { flow with driver := driver }, [], [], sent, .ok ()⟩
      | (driver, sent, .ok true) =>
        match flow.inflight with
        | none =>
          ⟨manager, { flow with driver := driver }, [], [], sent, .error .internalWriteInvariant⟩
        | some message =>
          (writeLoop id budget attempts.tail manager ⟨driver, none⟩).after [message] [] sent
    else if flow.inflight.isSome then
      ⟨manager, flow, [], [], [], .error .internalWriteInvariant⟩
    else
      match manager.popFront id with
      | (manager, .error error) => ⟨manager, flow, [], [], [], .error (.manager error)⟩
      | (manager, .ok none) => ⟨manager, flow, [], [], [], .ok ()⟩
      | (manager, .ok (some message)) =>
        match flow.driver.startSend message (attempts.headD (.short 0)) with
        | (driver, sent, .error error) =>
          ⟨manager, ⟨driver, some message⟩, [], [message], sent, .error (.driver error)⟩
        | (driver, sent, .ok false) =>
          ⟨manager, ⟨driver, some message⟩, [], [message], sent, .ok ()⟩
        | (driver, sent, .ok true) =>
          (writeLoop id budget attempts.tail manager ⟨driver, none⟩).after [message] [message] sent

/-- Advance one reliable flow under the configured fairness budget. -/
def pollWrite
    (service : TransportService) (id : ConnectionId) (granted : Bool) (flush : Attempt)
    (attempts : List WriteAttempt) : TransportService × Polled :=
  if ¬granted then (service, ⟨[], [], .error .allocationFailed⟩) else
  match service.active.lookup id with
  | none => (service, ⟨[], [], .error .connectionNotAttached⟩)
  | some flow =>
    let ready :=
      if flow.driver.hasPendingWrite then .ok true else flow.driver.flushTransport flush
    match ready with
    | .error error => (service, ⟨[], [], .error (.driver error)⟩)
    | .ok ready =>
      let loop := writeLoop id (if ready then service.config.writeCommitsPerPoll else 0)
        attempts service.manager flow
      ({ service with
          manager := loop.manager
          active := service.active.insert id loop.flow }, ⟨loop.handed, loop.sent,
          -- a failure drops the messages that this poll had committed
          match loop.result with
          | .error error => .error error
          | .ok () =>
            match loop.manager.connections.lookup id with
            | none => .error .internalConnectionInvariant
            | some connection =>
              .ok ⟨loop.committed, loop.flow.inflight.isSome, connection.queue.length,
                connection.queuedBytes⟩⟩)

/-- Retire a failed or abandoned reliable connection and recover its work. -/
def failConnection (service : TransportService) (id : ConnectionId) :
    TransportService × Except ServiceError FailedConnection :=
  let flow := service.active.lookup id
  let (manager, connection) := service.manager.take id
  let service := { service with manager := manager, active := service.active.erase id }
  if flow.isNone ∧ connection.isNone then (service, .error .connectionNotPlanned)
  else (service, .ok ⟨id, flow.bind ActiveFlow.inflight, (connection.map Connection.queue).getD []⟩)

/-- Fence new work and let established connections drain. -/
def beginShutdown (service : TransportService) : TransportService :=
  { service with manager := service.manager.beginShutdown }

/-- Gracefully close one fully drained reliable flow. -/
def shutdownConnection (service : TransportService) (id : ConnectionId) (attempt : Attempt) :
    TransportService × Except ServiceError ServiceShutdownProgress :=
  match service.manager.connections.lookup id with
  | none => (service, .error .connectionNotPlanned)
  | some connection =>
    match service.active.lookup id with
    | none => (service, .error .connectionNotAttached)
    | some flow =>
      if connection.queue.length ≠ 0 ∨ flow.inflight.isSome then
        (service, .error (.drainIncomplete connection.queue.length flow.inflight.isSome))
      else
        match flow.driver.shutdown attempt with
        | (driver, .error error) =>
          ({ service with active := service.active.insert id { flow with driver := driver } },
            .error (.driver error))
        | (driver, .ok .pending) =>
          ({ service with active := service.active.insert id { flow with driver := driver } },
            .ok .pending)
        | (_, .ok .complete) =>
          ({ service with
              manager := (service.manager.remove id).1
              active := service.active.erase id }, .ok .complete)

end TransportService

/-- A call on the service. -/
inductive ServiceCall
  | planReliable (destination : Destination) (connectionGranted destinationGranted : Bool)
  | attachTcp (id : ConnectionId) (driver : TcpDriver) (boxGranted granted : Bool)
  | attachTls (id : ConnectionId) (driver : TlsDriver) (boxGranted granted : Bool)
  | enqueueReliable (id : ConnectionId) (message : Bytes) (granted : Bool)
  | pollWrite
      (id : ConnectionId) (granted : Bool) (flush : Attempt) (attempts : List WriteAttempt)
  | failConnection (id : ConnectionId)
  | shutdownConnection (id : ConnectionId) (attempt : Attempt)
  | beginShutdown

/-- What a call on the service returned. -/
inductive ServiceResult
  | planReliable (result : Except ServiceError ReliableConnectionPlan)
  | attach (result : Except ServiceError Unit)
  | enqueueReliable (result : Except ServiceError Unit)
  | pollWrite (polled : Polled)
  | failConnection (result : Except ServiceError FailedConnection)
  | shutdownConnection (result : Except ServiceError ServiceShutdownProgress)
  | beginShutdown

namespace ServiceResult

/-- A call other than a poll that failed. -/
def Failed : ServiceResult → Prop
  | planReliable (.error _) | attach (.error _) | enqueueReliable (.error _)
  | failConnection (.error _) | shutdownConnection (.error _) => True
  | _ => False

/-- The identity of a connection that a call created. -/
def createdId : ServiceResult → Option ConnectionId
  | planReliable (.ok plan) => if plan.created then some plan.id else none
  | _ => none

end ServiceResult

namespace TransportService

variable {service : TransportService} {error : ServiceError}

/-- One call on the service. -/
def step (service : TransportService) : ServiceCall → TransportService × ServiceResult
  | .planReliable destination connectionGranted destinationGranted =>
    let (after, result) :=
      service.planReliable destination connectionGranted destinationGranted
    (after, .planReliable result)
  | .attachTcp id driver boxGranted granted =>
    let (after, result) := service.attachTcp id driver boxGranted granted
    (after, .attach result)
  | .attachTls id driver boxGranted granted =>
    let (after, result) := service.attachTls id driver boxGranted granted
    (after, .attach result)
  | .enqueueReliable id message granted =>
    let (after, result) := service.enqueueReliable id message granted
    (after, .enqueueReliable result)
  | .pollWrite id granted flush attempts =>
    let (after, polled) := service.pollWrite id granted flush attempts
    (after, .pollWrite polled)
  | .failConnection id =>
    let (after, result) := service.failConnection id
    (after, .failConnection result)
  | .shutdownConnection id attempt =>
    let (after, result) := service.shutdownConnection id attempt
    (after, .shutdownConnection result)
  | .beginShutdown => (service.beginShutdown, .beginShutdown)

open TransportManager (Carries createdIds)

/-- How a change of the service goes through calls of the registry: which of them there
are, and what becomes of the attached flows. -/
structure Through
    (service after : TransportService) (created : Option ConnectionId)
    (calls : List ManagerCall) : Prop where
  manager : after.manager = Run.after TransportManager.step service.manager calls
  createdIds : createdIds service.manager calls = created.toList
  /-- A connection is removed together with its driver. -/
  removed : ∀ id, .take id ∈ calls ∨ .remove id ∈ calls → after.active.lookup id = none
  /-- A driver keeps its flow, or is that of a connection just established. -/
  flows : ∀ id flow, after.active.lookup id = some flow →
    (∃ before, service.active.lookup id = some before ∧ flow.driver.flowId = before.driver.flowId) ∨
    flow.driver.flowId = Transport.flowId id ∧ Carries after.manager id

/-- Nothing happens. -/
theorem Through.refl (service : TransportService) : Through service service none [] :=
  ⟨rfl, rfl, by simp, fun _ flow found => .inl ⟨flow, found, rfl⟩⟩

/-- One call that removes nothing, while the drivers stay. -/
theorem Through.call
    (service : TransportService) (call : ManagerCall)
    (keeps : ∀ id, call ≠ .take id ∧ call ≠ .remove id) :
    Through service { service with manager := (service.manager.step call).1 }
      (service.manager.step call).2.createdId [call] := by
  refine ⟨rfl, ?_, ?_, fun _ flow found => .inl ⟨flow, found, rfl⟩⟩
  · simp only [TransportManager.createdIds, outputs, List.filterMap_cons, List.filterMap_nil]
    cases (service.manager.step call).2.createdId <;> rfl
  · intro id taken
    simp only [List.mem_singleton] at taken
    rcases taken with same | same
    · exact absurd same.symm (keeps id).1
    · exact absurd same.symm (keeps id).2

/-- The number of identities that a call allocates. -/
def allocated (service : TransportService) : ServiceCall → Nat
  | .planReliable destination _ _ =>
    if destination.protocol ≠ .udp ∧ service.manager.Allocates destination then 1 else 0
  | _ => 0

/-- A planned connection is one that the registry created. -/
theorem through_planReliable
    (service : TransportService) (destination : Destination)
    (connectionGranted destinationGranted : Bool) :
    ∃ calls, service.manager.allocations calls =
        service.allocated (.planReliable destination connectionGranted destinationGranted) ∧
      Through service
        (service.planReliable destination connectionGranted destinationGranted).1
        (ServiceResult.planReliable
          (service.planReliable destination connectionGranted destinationGranted).2).createdId
        calls := by
  simp only [planReliable, allocated]
  by_cases datagram : destination.protocol = .udp
  · rw [if_pos datagram, if_neg (fun allocates => allocates.1 datagram)]
    exact ⟨[], rfl, .refl service⟩
  rw [if_neg datagram]
  refine ⟨[.register destination connectionGranted destinationGranted], ?_, ?_⟩
  · simp [TransportManager.allocations, TransportManager.allocated, tally, datagram]
  have through := Through.call service
    (.register destination connectionGranted destinationGranted) (by simp)
  have known := TransportManager.registered_register service.manager destination
    connectionGranted destinationGranted
  simp only [TransportManager.step] at through
  rcases registered : service.manager.register destination connectionGranted
    destinationGranted with ⟨manager, error | registration⟩
  · rw [registered] at through
    exact through
  · rw [registered] at through known
    dsimp only at through ⊢
    obtain ⟨id, created⟩ := registration
    cases created with
    | false => split <;> exact through
    | true =>
      -- a connection that the registry has just created can be looked up
      cases known with
      | kept idle notCreated => cases notCreated
      | entered allocates allocated =>
        rw [lookup_insert]
        exact through

theorem through_attach
    (service : TransportService) (id : ConnectionId) (driver : ReliableDriver)
    (granted : Bool) :
    ∃ calls, service.manager.allocations calls = 0 ∧
      Through service (service.attach id driver granted).1 none calls := by
  unfold attach
  by_cases attached : id ∈ service.active
  · rw [if_pos attached]
    exact ⟨[], rfl, .refl service⟩
  · rw [if_neg attached]
    split
    · exact ⟨[], rfl, .refl service⟩
    · next connection found =>
      split_ifs with state protocol peer flow memory
      · exact ⟨[], rfl, .refl service⟩
      · exact ⟨[], rfl, .refl service⟩
      · exact ⟨[], rfl, .refl service⟩
      · exact ⟨[], rfl, .refl service⟩
      · have through := Through.call service (.establish id) (by simp)
        refine ⟨[.establish id], rfl, ?_⟩
        rcases established : service.manager.establish id with ⟨manager, error | _⟩
        · simp only [TransportManager.step, established] at through
          exact through
        · simp only [TransportManager.step, established] at through
          dsimp only
          refine ⟨through.manager, through.createdIds, by simp, ?_⟩
          intro other attachedFlow stands
          obtain ⟨rfl, rfl⟩ | ⟨-, before⟩ := KeyMap.lookup_insert_cases stands
          · refine .inr ⟨(not_not.mp flow).symm, ?_⟩
            -- the transition out of the connecting state
            unfold TransportManager.establish at established
            rw [found] at established
            dsimp only at established
            split at established
            · cases established
            · next moved transitioned =>
              cases established
              rw [Connection.transition_eq_ok transitioned]
              exact ⟨_, lookup_insert _, .inl rfl⟩
          · exact .inl ⟨attachedFlow, before, rfl⟩
      · exact ⟨[], rfl, .refl service⟩

theorem through_enqueueReliable
    (service : TransportService) (id : ConnectionId) (message : Bytes) (granted : Bool) :
    ∃ calls, service.manager.allocations calls = 0 ∧
      Through service (service.enqueueReliable id message granted).1 none calls := by
  unfold enqueueReliable
  by_cases attached : id ∉ service.active
  · rw [if_pos attached]
    exact ⟨[], rfl, .refl service⟩
  · rw [if_neg attached]
    exact ⟨[.enqueue id message granted], rfl,
      .call service (.enqueue id message granted) (by simp)⟩

/-- A poll takes messages off one queue and keeps the identity of the driver. -/
theorem writeLoop_through
    (id : ConnectionId) (budget : Nat) (attempts : List WriteAttempt)
    (manager : TransportManager) (flow : ActiveFlow) :
    (∃ count, (writeLoop id budget attempts manager flow).manager =
        Run.after TransportManager.step manager (List.replicate count (.popFront id))) ∧
      (writeLoop id budget attempts manager flow).flow.driver.flowId = flow.driver.flowId := by
  induction budget generalizing attempts manager flow with
  | zero => exact ⟨⟨0, rfl⟩, rfl⟩
  | succ budget ih =>
    unfold writeLoop
    by_cases pending : flow.driver.hasPendingWrite = true
    · rw [if_pos pending]
      have same := flow.driver.flowId_flushSend (attempts.headD (.short 0))
      rcases flushed : flow.driver.flushSend (attempts.headD (.short 0)) with
        ⟨driver, sent, error | complete⟩
      · rw [flushed] at same
        exact ⟨⟨0, rfl⟩, same⟩
      · rw [flushed] at same
        cases complete with
        | false => exact ⟨⟨0, rfl⟩, same⟩
        | true =>
          dsimp only
          split
          · exact ⟨⟨0, rfl⟩, same⟩
          · obtain ⟨popped, flowIds⟩ := ih attempts.tail manager ⟨driver, none⟩
            exact ⟨popped, flowIds.trans same⟩
    · rw [if_neg pending]
      by_cases inflight : flow.inflight.isSome = true
      · rw [if_pos inflight]
        exact ⟨⟨0, rfl⟩, rfl⟩
      rw [if_neg inflight]
      rcases popped : manager.popFront id with ⟨after, error | message⟩
      · refine ⟨⟨1, ?_⟩, rfl⟩
        simp [TransportManager.step, popped]
      · cases message with
        | none =>
          refine ⟨⟨1, ?_⟩, rfl⟩
          simp [TransportManager.step, popped]
        | some message =>
          have same := flow.driver.flowId_startSend message (attempts.headD (.short 0))
          have once : after = Run.after TransportManager.step manager
              (List.replicate 1 (.popFront id)) := by
            simp [TransportManager.step, popped]
          dsimp only
          rcases started : flow.driver.startSend message (attempts.headD (.short 0)) with
            ⟨driver, sent, error | complete⟩
          · rw [started] at same
            exact ⟨⟨1, once⟩, same⟩
          · rw [started] at same
            cases complete with
            | false => exact ⟨⟨1, once⟩, same⟩
            | true =>
              obtain ⟨⟨count, later⟩, flowIds⟩ := ih attempts.tail after ⟨driver, none⟩
              refine ⟨⟨1 + count, ?_⟩, flowIds.trans same⟩
              rw [List.replicate_add, after_append, ← once]
              exact later

theorem createdIds_popFront (manager : TransportManager) (id : ConnectionId) (count : Nat) :
    createdIds manager (List.replicate count (.popFront id)) = [] ∧
      manager.allocations (List.replicate count (.popFront id)) = 0 := by
  induction count generalizing manager with
  | zero => exact ⟨rfl, rfl⟩
  | succ count ih =>
    obtain ⟨none_, idle⟩ := ih (manager.step (.popFront id)).1
    exact ⟨none_, (Nat.zero_add _).trans idle⟩

theorem through_pollWrite
    (service : TransportService) (id : ConnectionId) (granted : Bool) (flush : Attempt)
    (attempts : List WriteAttempt) :
    ∃ calls, service.manager.allocations calls = 0 ∧
      Through service (service.pollWrite id granted flush attempts).1 none calls := by
  unfold pollWrite
  by_cases refused : ¬granted
  · rw [if_pos refused]
    exact ⟨[], rfl, .refl service⟩
  rw [if_neg refused]
  split
  · exact ⟨[], rfl, .refl service⟩
  · next flow found =>
    dsimp only
    split
    · exact ⟨[], rfl, .refl service⟩
    · next ready _ =>
      obtain ⟨⟨count, manager⟩, flowIds⟩ := writeLoop_through id
        (if ready then service.config.writeCommitsPerPoll else 0) attempts service.manager flow
      obtain ⟨none_, idle⟩ := createdIds_popFront service.manager id count
      refine ⟨List.replicate count (.popFront id), idle, manager, none_, ?_, ?_⟩
      · intro other taken
        simp [List.mem_replicate] at taken
      · intro other attached stands
        obtain ⟨rfl, rfl⟩ | ⟨-, before⟩ := KeyMap.lookup_insert_cases stands
        · exact .inl ⟨flow, found, flowIds⟩
        · exact .inl ⟨attached, before, rfl⟩

theorem through_failConnection (service : TransportService) (id : ConnectionId) :
    ∃ calls, service.manager.allocations calls = 0 ∧
      Through service (service.failConnection id).1 none calls := by
  refine ⟨[.take id], rfl, ?_⟩
  have state : (service.failConnection id).1 =
      { service with
        manager := (service.manager.take id).1
        active := service.active.erase id } := by
    unfold failConnection
    dsimp only
    split_ifs <;> rfl
  rw [state]
  refine ⟨rfl, rfl, ?_, ?_⟩
  · intro other taken
    obtain rfl : other = id := by simpa using taken
    exact lookup_erase _ _
  · intro other flow stands
    exact .inl ⟨flow, (KeyMap.lookup_of_erase stands).2, rfl⟩

/-- A new state of the driver of one flow. -/
theorem Through.driver {id : ConnectionId} {flow : ActiveFlow}
    (found : service.active.lookup id = some flow) {driver : ReliableDriver}
    (same : driver.flowId = flow.driver.flowId) :
    Through service
      { service with active := service.active.insert id { flow with driver := driver } }
      none [] := by
  refine ⟨rfl, rfl, by simp, ?_⟩
  intro other attached stands
  obtain ⟨rfl, rfl⟩ | ⟨-, before⟩ := KeyMap.lookup_insert_cases stands
  · exact .inl ⟨flow, found, same⟩
  · exact .inl ⟨attached, before, rfl⟩

theorem through_shutdownConnection
    (service : TransportService) (id : ConnectionId) (attempt : Attempt) :
    ∃ calls, service.manager.allocations calls = 0 ∧
      Through service (service.shutdownConnection id attempt).1 none calls := by
  unfold shutdownConnection
  split
  · exact ⟨[], rfl, .refl service⟩
  · split
    · exact ⟨[], rfl, .refl service⟩
    · next flow found =>
      split_ifs
      · exact ⟨[], rfl, .refl service⟩
      · have same := flow.driver.flowId_shutdown attempt
        rcases closed : flow.driver.shutdown attempt with ⟨driver, error | progress⟩
        · rw [closed] at same
          exact ⟨[], rfl, .driver found same⟩
        · rw [closed] at same
          cases progress with
          | pending => exact ⟨[], rfl, .driver found same⟩
          | complete =>
            refine ⟨[.remove id], rfl, rfl, rfl, ?_, ?_⟩
            · intro other taken
              obtain rfl : other = id := by simpa using taken
              exact lookup_erase _ _
            · intro other attached stands
              exact .inl ⟨attached, (KeyMap.lookup_of_erase stands).2, rfl⟩

/-- Every call of the service goes through calls of the registry. -/
theorem through_step (service : TransportService) (call : ServiceCall) :
    ∃ calls, service.manager.allocations calls = service.allocated call ∧
      (call = .beginShutdown → .beginShutdown ∈ calls) ∧
      Through service (service.step call).1 (service.step call).2.createdId calls := by
  have silent : ∀ {after : TransportService}, call ≠ .beginShutdown →
      (∃ calls, service.manager.allocations calls = 0 ∧ Through service after none calls) →
      ∃ calls, service.manager.allocations calls = 0 ∧
        (call = .beginShutdown → .beginShutdown ∈ calls) ∧
        Through service after none calls := by
    rintro after other ⟨calls, none_, through⟩
    exact ⟨calls, none_, fun same => absurd same other, through⟩
  cases call with
  | planReliable destination connectionGranted destinationGranted =>
    obtain ⟨calls, few, through⟩ := through_planReliable service destination
      connectionGranted destinationGranted
    exact ⟨calls, few, by simp, through⟩
  | attachTcp id driver boxGranted granted =>
    apply silent (by simp)
    simp only [step, attachTcp]
    by_cases refused : ¬boxGranted
    · rw [if_pos refused]
      exact ⟨[], rfl, .refl service⟩
    · rw [if_neg refused]
      exact through_attach service id (.tcp driver) granted
  | attachTls id driver boxGranted granted =>
    apply silent (by simp)
    simp only [step, attachTls]
    split
    · exact ⟨[], rfl, .refl service⟩
    · split_ifs
      · exact ⟨[], rfl, .refl service⟩
      · exact through_attach service id (.tls driver) granted
      · exact ⟨[], rfl, .refl service⟩
  | enqueueReliable id message granted =>
    exact silent (by simp) (through_enqueueReliable service id message granted)
  | pollWrite id granted flush attempts =>
    exact silent (by simp) (through_pollWrite service id granted flush attempts)
  | failConnection id => exact silent (by simp) (through_failConnection service id)
  | shutdownConnection id attempt =>
    exact silent (by simp) (through_shutdownConnection service id attempt)
  | beginShutdown => exact ⟨[.beginShutdown], rfl, by simp, .call service .beginShutdown (by simp)⟩

/-- Each driver carries the flow of a connection that is established or draining. -/
def Attached (service : TransportService) : Prop :=
  ∀ id flow, service.active.lookup id = some flow →
    flow.driver.flowId = Transport.flowId id ∧ Carries service.manager id

theorem Through.attached
    {after : TransportService} {created : Option ConnectionId}
    {calls : List ManagerCall} (through : Through service after created calls)
    (attached : Attached service) : Attached after := by
  intro id flow found
  rcases through.flows id flow found with ⟨before, stood, same⟩ | fresh
  · obtain ⟨flowIds, carries⟩ := attached id before stood
    refine ⟨same.trans flowIds, ?_⟩
    have kept : .take id ∉ calls ∧ .remove id ∉ calls := by
      rw [← not_or]
      intro removed
      cases found.symm.trans (through.removed id removed)
    rw [through.manager]
    exact TransportManager.carries_after carries calls kept.1 kept.2
  · exact fresh

theorem attached_after (attached : Attached service)
    (calls : List ServiceCall) : Attached (after step service calls) := by
  apply invariant Attached attached
  intro service call attached
  obtain ⟨calls, -, -, through⟩ := through_step service call
  exact through.attached attached

/-- The identities of the connections that a run created. -/
def createdIds (service : TransportService) (calls : List ServiceCall) : List ConnectionId :=
  (outputs step service calls).filterMap ServiceResult.createdId

/-- The number of identities that a run allocates. -/
def allocations (service : TransportService) (calls : List ServiceCall) : Nat :=
  tally allocated step service calls

/-- A run of the service is a run of its registry. -/
theorem through_run (service : TransportService) (calls : List ServiceCall) :
    ∃ trace, (after step service calls).manager =
        after TransportManager.step service.manager trace ∧
      TransportManager.createdIds service.manager trace = createdIds service calls ∧
      service.manager.allocations trace = allocations service calls ∧
      (.beginShutdown ∈ calls → .beginShutdown ∈ trace) := by
  induction calls generalizing service with
  | nil => exact ⟨[], rfl, rfl, rfl, by simp⟩
  | cons call calls ih =>
    obtain ⟨now, fewNow, fenceNow, through⟩ := through_step service call
    obtain ⟨later, manager, created, fewLater, fenceLater⟩ := ih (service.step call).1
    rw [through.manager] at manager created fewLater
    refine ⟨now ++ later, ?_, ?_, ?_, ?_⟩
    · rw [after_cons, manager, after_append]
    · rw [TransportManager.createdIds_append, created, through.createdIds]
      simp only [createdIds, outputs, List.filterMap_cons]
      cases (service.step call).2.createdId <;> rfl
    · rw [TransportManager.allocations, tally_append]
      exact congrArg₂ (· + ·) fewNow fewLater
    · intro begun
      rcases List.mem_cons.mp begun with same | begunLater
      · exact List.mem_append_left _ (fenceNow same.symm)
      · exact List.mem_append_right _ (fenceLater begunLater)

theorem new_eq_ok
    {config : ServiceConfig} (created : new config = .ok service) :
    TransportManager.new config.manager = .ok service.manager ∧ service.active = ∅ := by
  unfold new at created
  split at created
  · cases created
  · split_ifs at created
    split at created
    · cases created
    · next manager registry =>
      cases created
      exact ⟨registry, rfl⟩

/-- Both indexes with all queues are as before, and so are the attached flows with what
they have in flight. -/
structure Unchanged (service after : TransportService) : Prop where
  connections : after.manager.connections = service.manager.connections
  destinations : after.manager.destinations = service.manager.destinations
  flows : ∀ id, (after.active.lookup id).map ActiveFlow.inflight =
    (service.active.lookup id).map ActiveFlow.inflight

theorem Unchanged.refl (service : TransportService) : Unchanged service service :=
  ⟨rfl, rfl, fun _ => rfl⟩

/-- A registry call that failed changes nothing. -/
theorem Unchanged.call
    (service : TransportService) (call : ManagerCall)
    (failed : (service.manager.step call).2.Failed) :
    Unchanged service { service with manager := (service.manager.step call).1 } := by
  obtain ⟨connections, destinations⟩ := service.manager.unchanged_of_failed call failed
  exact ⟨connections, destinations, fun _ => rfl⟩

theorem unchanged_planReliable (consistent : service.manager.Consistent)
    {destination : Destination} {connectionGranted destinationGranted : Bool}
    (failed : (service.planReliable destination connectionGranted destinationGranted).2 =
      .error error) :
    Unchanged service
      (service.planReliable destination connectionGranted destinationGranted).1 := by
  unfold planReliable at failed ⊢
  by_cases datagram : destination.protocol = .udp
  · rw [if_pos datagram]
    exact .refl service
  rw [if_neg datagram] at failed ⊢
  rcases registered : service.manager.register destination connectionGranted
    destinationGranted with ⟨manager, reason | registration⟩
  · have failedCall : (service.manager.step
        (.register destination connectionGranted destinationGranted)).2.Failed := by
      simp [TransportManager.step, registered, ManagerResult.Failed]
    have unchanged := Unchanged.call service
      (.register destination connectionGranted destinationGranted) failedCall
    simp only [TransportManager.step, registered] at unchanged
    exact unchanged
  · rw [registered] at failed
    dsimp only at failed
    split at failed
    · next missing =>
      obtain ⟨connection, found⟩ := consistent.registered_known registered
      cases missing.symm.trans found
    · cases failed

theorem unchanged_attach
    {id : ConnectionId} {driver : ReliableDriver} {granted : Bool}
    (failed : (service.attach id driver granted).2 = .error error) :
    Unchanged service (service.attach id driver granted).1 := by
  unfold attach at failed ⊢
  by_cases attached : id ∈ service.active
  · rw [if_pos attached]
    exact .refl service
  rw [if_neg attached] at failed ⊢
  split at failed
  · exact .refl service
  · split_ifs at failed ⊢ with state protocol peer flow memory
    · exact .refl service
    · exact .refl service
    · exact .refl service
    · exact .refl service
    · rcases established : service.manager.establish id with ⟨manager, reason | _⟩
      · have failedCall : (service.manager.step (.establish id)).2.Failed := by
          simp [TransportManager.step, established, ManagerResult.Failed]
        have unchanged := Unchanged.call service (.establish id) failedCall
        simp only [TransportManager.step, established] at unchanged
        exact unchanged
      · rw [established] at failed
        cases failed
    · exact .refl service

theorem unchanged_failConnection
    (service : TransportService) (id : ConnectionId)
    (failed : (service.failConnection id).2 = .error error) :
    Unchanged service (service.failConnection id).1 := by
  unfold failConnection at failed ⊢
  dsimp only at failed ⊢
  split_ifs at failed ⊢ with unknown
  obtain ⟨noFlow, noConnection⟩ := unknown
  rw [Option.isNone_iff_eq_none] at noFlow
  have failedCall : (service.manager.step (.take id)).2.Failed := by
    simp only [TransportManager.step]
    rw [Option.isNone_iff_eq_none.mp noConnection]
    trivial
  obtain ⟨connections, destinations, -⟩ := Unchanged.call service (.take id) failedCall
  refine ⟨connections, destinations, ?_⟩
  intro other
  by_cases same : other = id
  · subst same
    rw [noFlow]
    exact congrArg (Option.map ActiveFlow.inflight) (lookup_erase _ _)
  · exact congrArg (Option.map ActiveFlow.inflight) (lookup_erase_ne same)

theorem unchanged_shutdownConnection
    (service : TransportService) (id : ConnectionId) (attempt : Attempt)
    (failed : (service.shutdownConnection id attempt).2 = .error error) :
    Unchanged service (service.shutdownConnection id attempt).1 := by
  unfold shutdownConnection at failed ⊢
  split at failed
  · exact .refl service
  · split at failed
    · exact .refl service
    · next flow found =>
      split_ifs at failed ⊢
      · exact .refl service
      · rcases closed : flow.driver.shutdown attempt with ⟨driver, reason | progress⟩
        · refine ⟨rfl, rfl, ?_⟩
          intro other
          dsimp only
          by_cases same : other = id
          · subst same
            rw [found, lookup_insert]
            rfl
          · exact congrArg (Option.map ActiveFlow.inflight) (lookup_insert_ne same)
        · rw [closed] at failed
          cases progress <;> cases failed

/-- A call other than a poll that fails changes nothing. -/
theorem unchanged_of_failed (consistent : service.manager.Consistent)
    (call : ServiceCall) (failed : (service.step call).2.Failed) :
    Unchanged service (service.step call).1 := by
  cases call with
  | planReliable destination connectionGranted destinationGranted =>
    rcases result : (service.planReliable destination connectionGranted
      destinationGranted).2 with error | plan
    · exact unchanged_planReliable consistent result
    · simp only [step, result, ServiceResult.Failed] at failed
  | attachTcp id driver boxGranted granted =>
    rcases result : (service.attachTcp id driver boxGranted granted).2 with error | _
    · simp only [step]
      unfold attachTcp at result ⊢
      split_ifs at result ⊢
      · exact unchanged_attach result
      · exact .refl service
    · simp only [step, result, ServiceResult.Failed] at failed
  | attachTls id driver boxGranted granted =>
    rcases result : (service.attachTls id driver boxGranted granted).2 with error | _
    · simp only [step]
      unfold attachTls at result ⊢
      split at result
      · exact .refl service
      · split_ifs at result ⊢
        · exact .refl service
        · exact unchanged_attach result
        · exact .refl service
    · simp only [step, result, ServiceResult.Failed] at failed
  | enqueueReliable id message granted =>
    simp only [step, enqueueReliable] at failed ⊢
    by_cases attached : id ∉ service.active
    · rw [if_pos attached]
      exact .refl service
    · rw [if_neg attached] at failed ⊢
      apply Unchanged.call service (.enqueue id message granted)
      simp only [TransportManager.step]
      rcases result : (service.manager.enqueue id message granted).2 with error | _
      · trivial
      · simp only [result, Except.mapError, ServiceResult.Failed] at failed
  | pollWrite id granted flush attempts => exact failed.elim
  | failConnection id =>
    rcases result : (service.failConnection id).2 with error | failedConnection
    · exact unchanged_failConnection service id result
    · simp only [step, result, ServiceResult.Failed] at failed
  | shutdownConnection id attempt =>
    rcases result : (service.shutdownConnection id attempt).2 with error | progress
    · exact unchanged_shutdownConnection service id attempt result
    · simp only [step, result, ServiceResult.Failed] at failed
  | beginShutdown => exact failed.elim

/-- What holds after some calls on the service, and of the call that follows. -/
structure KeepsIndexes
    (service : TransportService) (calls : List ServiceCall) (call : ServiceCall) : Prop where
  consistent : (after step service calls).manager.Consistent
  attached : Attached (after step service calls)
  unchanged : (output step service calls call).Failed →
    Unchanged (after step service calls) (after step service (calls ++ [call]))
  fenced : .beginShutdown ∈ calls →
    (∀ destination connectionGranted destinationGranted plan,
      ((after step service calls).planReliable destination connectionGranted
        destinationGranted).2 ≠ .ok plan) ∧
    ∀ id message granted, ((after step service calls).enqueueReliable id message granted).2 ≠ .ok ()
  /-- No identity is handed out twice before the counter comes round. -/
  distinct : allocations service calls ≤ 2 ^ 64 - 1 → (createdIds service calls).Nodup

theorem planReliable_fenced (fenced : service.manager.shuttingDown = true)
    (destination : Destination) (connectionGranted destinationGranted : Bool)
    (plan : ReliableConnectionPlan) :
    (service.planReliable destination connectionGranted destinationGranted).2 ≠ .ok plan := by
  unfold planReliable
  by_cases datagram : destination.protocol = .udp
  · simp [datagram]
  · simp [datagram, TransportManager.register, fenced]

theorem enqueueReliable_fenced (fenced : service.manager.shuttingDown = true)
    (id : ConnectionId) (message : Bytes) (granted : Bool) :
    (service.enqueueReliable id message granted).2 ≠ .ok () := by
  unfold enqueueReliable
  by_cases attached : id ∉ service.active
  · simp [attached]
  · rw [if_neg attached]
    simp [TransportManager.enqueue, fenced, Except.mapError]

theorem keepsIndexes
    {config : ServiceConfig} (created : new config = .ok service)
    (calls : List ServiceCall) (call : ServiceCall) : KeepsIndexes service calls call := by
  obtain ⟨registry, empty⟩ := new_eq_ok created
  obtain ⟨trace, manager, ids, count, fence⟩ := through_run service calls
  -- the last call plays no part in what holds of the registry after the trace
  have kept := TransportManager.keepsIndexes registry trace .beginShutdown
  have consistent : (after step service calls).manager.Consistent := manager ▸ kept.consistent
  refine ⟨consistent, ?_, ?_, ?_, ?_⟩
  · apply attached_after
    intro id flow found
    simp [empty] at found
  · intro failed
    rw [after_append]
    exact unchanged_of_failed consistent call failed
  · intro begun
    have fenced : (after step service calls).manager.shuttingDown = true :=
      manager ▸ service.manager.shuttingDown_of_mem (fence begun)
    exact ⟨planReliable_fenced fenced, enqueueReliable_fenced fenced⟩
  · intro bounded
    rw [← ids]
    exact kept.distinct (count ▸ bounded)

/-- The registry stays consistent over its own runs and over those of the service. -/
theorem registry_consistent
    {managerConfig : ManagerConfig} {manager : TransportManager}
    (managerCreated : TransportManager.new managerConfig = .ok manager)
    {config : ServiceConfig} {service : TransportService} (created : new config = .ok service) :
    (∀ calls call, manager.KeepsIndexes calls call) ∧
      ∀ calls call, service.KeepsIndexes calls call :=
  ⟨TransportManager.keepsIndexes managerCreated, keepsIndexes created⟩

/-- A small registry. -/
def sampleManagerConfig : ManagerConfig := ⟨8, ⟨8, 16384⟩⟩

theorem registry_consistent_sampleManagerConfig :
    (∀ calls call, TransportManager.KeepsIndexes ⟨sampleManagerConfig, 1, false, ∅, ∅⟩ calls call) ∧
      ∀ calls call,
        KeepsIndexes ⟨⟨sampleManagerConfig, 16⟩, ⟨sampleManagerConfig, 1, false, ∅, ∅⟩, ∅⟩
          calls call :=
  registry_consistent (show TransportManager.new sampleManagerConfig = .ok _ from rfl)
    (show new ⟨sampleManagerConfig, 16⟩ = .ok _ from rfl)

end TransportService
end Transport
end Sip
end LiveAISIP
