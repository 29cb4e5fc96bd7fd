import LiveAISIP.Transaction.Key
import LiveAISIP.Transaction.State
import LiveAISIP.Transaction.Timer

/-!
# Server transactions

The deterministic server transaction engine of `sip/transaction/server.rs`.
The machine is built for the method of the request, while the timers follow
the method of the key, in which an ACK counts as an INVITE.  Serializing the
automatic `100 Trying` is a function of the request that can fail.
-/

namespace LiveAISIP
namespace Transaction

open Sip

/-- Server transaction timer. -/
inductive ServerTimer
  | trying
  | retransmit
  | finalResponseLifetime
  | termination
  deriving DecidableEq

/-- Side effect requested from the transaction owner. -/
inductive ServerAction
  | deliverRequest
  | sendResponse (bytes : Bytes)
  | schedule (timer : ServerTimer) (delay : Duration)
  | cancel (timer : ServerTimer)
  | terminate
  deriving DecidableEq

/-- Handling of a retransmitted request. -/
inductive DuplicateRequestDisposition
  | replayResponse (bytes : Bytes)
  | absorb

/-- Server transaction processing failure. -/
inductive ServerError
  | key (error : KeyError)
  | state (error : StateError)
  | alreadyStarted
  | notStarted
  | emptyResponse
  | tryingBuild
  | invalidTimer

/-- Server transaction state. -/
structure ServerTransaction where
  key : TransactionKey
  machine : ServerMachine
  profile : TimerProfile
  reliable : Bool
  lastResponse : Option Bytes
  automaticTrying : Option Bytes
  nextRetransmit : Option Duration
  started : Bool

namespace ServerTransaction

/-- The actions of one operation, or its error. -/
abbrev Outcome := Except ServerError (List ServerAction)

/-- The automatic `100 Trying`: only an INVITE has one. -/
def tryingFor
    (buildTrying : ValidatedRequest → Option Bytes)
    (request : ValidatedRequest) : Except ServerError (Option Bytes) :=
  match TransactionKind.fromMethod request.method with
  | .nonInvite => .ok none
  | .invite =>
    match buildTrying request with
    | none => .error .tryingBuild
    | some bytes => .ok (some bytes)

/-- Create state for a validated inbound request. -/
def new
    (buildTrying : ValidatedRequest → Option Bytes) (request : ValidatedRequest) (reliable : Bool)
    (timers : TimerConfig) : Except ServerError ServerTransaction :=
  match TransactionKey.forServerRequest request with
  | .error error => .error (.key error)
  | .ok key =>
    match tryingFor buildTrying request with
    | .error error => .error error
    | .ok trying =>
      .ok
        { key := key
          machine := .new (TransactionKind.fromMethod request.method)
          profile := timers.profile reliable
          reliable := reliable
          lastResponse := none
          automaticTrying := trying
          nextRetransmit := (timers.profile reliable).retransmitInitial
          started := false }

/-- The method family of the key. -/
def machineKind (tx : ServerTransaction) : TransactionKind :=
  if tx.key.isInvite then .invite else .nonInvite

/-- The method family of the state machine. -/
def kind (tx : ServerTransaction) : TransactionKind := tx.machine.kind

/-- Current server state. -/
def state (tx : ServerTransaction) : ServerState := tx.machine.state

/-- A created transaction proceeds. -/
theorem state_new
    {buildTrying : ValidatedRequest → Option Bytes} {request : ValidatedRequest}
    {reliable : Bool} {timers : TimerConfig} {tx : ServerTransaction}
    (created : new buildTrying request reliable timers = .ok tx) :
    tx.state = .proceeding := by
  unfold new at created
  cases keyed : TransactionKey.forServerRequest request with
  | error error => simp [keyed] at created
  | ok key =>
    cases trying : tryingFor buildTrying request with
    | error error => simp [keyed, trying] at created
    | ok bytes =>
      simp only [keyed, trying, Except.ok.injEq] at created
      rw [← created]
      rfl

/-- Deliver the request exactly once. -/
def start (tx : ServerTransaction) : ServerTransaction × Outcome :=
  if tx.started then
    (tx, .error .alreadyStarted)
  else
    ({ tx with started := true },
      .ok (.deliverRequest ::
        match tx.machineKind with
        | .invite => [.schedule .trying (.fromMillis 200)]
        | .nonInvite => []))

/-- The timers of a final state that was just entered; a non-INVITE without a
lifetime terminates at once. -/
def enterFinal (tx : ServerTransaction) : ServerTransaction × Outcome :=
  match tx.machineKind, tx.state with
  | .invite, .completed =>
    (tx, .ok
      ((match tx.reliable, tx.nextRetransmit with
        | false, some delay => [.schedule .retransmit delay]
        | _, _ => []) ++
        [.schedule .finalResponseLifetime tx.profile.inviteTimeout]))
  | .invite, .accepted =>
    (tx, .ok [.schedule .finalResponseLifetime tx.profile.inviteTimeout])
  | .nonInvite, .completed =>
    match tx.profile.serverNonInviteLifetime with
    | some delay => (tx, .ok [.schedule .termination delay])
    | none =>
      match tx.machine.onTerminationTimeout with
      | .error error => (tx, .error (.state error))
      | .ok machine => ({ tx with machine := machine }, .ok [.terminate])
  | _, _ => (tx, .ok [])

/-- The transmission of a response; it makes the automatic one obsolete. -/
def transmission (tx : ServerTransaction) (bytes : Bytes) : List ServerAction :=
  .sendResponse bytes ::
    match tx.machineKind with
    | .invite => [.cancel .trying]
    | .nonInvite => []

/-- Record and transmit a fully serialized response. -/
def sendResponse
    (tx : ServerTransaction) (status : StatusCode) (bytes : Bytes) : ServerTransaction × Outcome :=
  if ¬tx.started then
    (tx, .error .notStarted)
  else if bytes = [] then
    (tx, .error .emptyResponse)
  else
    match tx.machine.onResponse status with
    | .error error => (tx, .error (.state error))
    | .ok machine =>
      let noted :=
        { tx with
          machine := machine
          lastResponse := some bytes }
      if machine.state ≠ tx.state ∧ (machine.state = .completed ∨ machine.state = .accepted) then
        match noted.enterFinal with
        | (settled, .ok actions) =>
          (settled, .ok (tx.transmission bytes ++ actions))
        | (settled, .error error) => (settled, .error error)
      else
        (noted, .ok (tx.transmission bytes))

/-- Classify a duplicate request. -/
def onDuplicateRequest (tx : ServerTransaction) : DuplicateRequestDisposition :=
  match tx.state with
  | .accepted | .confirmed | .terminated => .absorb
  | .proceeding | .completed =>
    match tx.lastResponse with
    | some bytes => .replayResponse bytes
    | none => .absorb

/-- Apply an ACK to a non-2xx INVITE final response. -/
def onAck (tx : ServerTransaction) : ServerTransaction × Outcome :=
  if ¬tx.started then
    (tx, .error .notStarted)
  else
    match tx.machine.onAck with
    | .error error => (tx, .error (.state error))
    | .ok machine =>
      let confirmed := { tx with machine := machine }
      let cancelled := [.cancel .retransmit, .cancel .finalResponseLifetime]
      match tx.profile.confirmedInviteLinger with
      | some delay =>
        (confirmed, .ok (cancelled ++ [.schedule .termination delay]))
      | none =>
        match machine.onTerminationTimeout with
        | .error error => (confirmed, .error (.state error))
        | .ok ended =>
          ({ tx with machine := ended }, .ok (cancelled ++ [.terminate]))

/-- Send the automatic `100 Trying`. -/
def onTrying (tx : ServerTransaction) : ServerTransaction × Outcome :=
  match tx.automaticTrying with
  | none => (tx, .error .invalidTimer)
  | some response =>
    let taken := { tx with automaticTrying := none }
    match tx.machine.onResponse .trying with
    | .error error => (taken, .error (.state error))
    | .ok machine =>
      ({ taken with machine := machine, lastResponse := some response },
        .ok [.sendResponse response])

/-- Retransmit the final response. -/
def onRetransmit (tx : ServerTransaction) : ServerTransaction × Outcome :=
  match tx.lastResponse, tx.nextRetransmit with
  | some response, some current =>
    match tx.profile.nextInviteServerRetransmit current with
    | none => (tx, .error .invalidTimer)
    | some next =>
      ({ tx with nextRetransmit := some next },
        .ok [.sendResponse response, .schedule .retransmit next])
  | _, _ => (tx, .error .invalidTimer)

/-- End the transaction, emitting the given actions. -/
def onTermination (tx : ServerTransaction) (actions : List ServerAction) :
    ServerTransaction × Outcome :=
  match tx.machine.onTerminationTimeout with
  | .error error => (tx, .error (.state error))
  | .ok machine => ({ tx with machine := machine }, .ok actions)

/-- Apply a scheduled timer event. -/
def onTimer (tx : ServerTransaction) (timer : ServerTimer) : ServerTransaction × Outcome :=
  if ¬tx.started then
    (tx, .error .notStarted)
  else
    match timer with
    | .trying =>
      if tx.machineKind = .invite ∧ tx.state = .proceeding ∧ tx.lastResponse = none then tx.onTrying
      else (tx, .error .invalidTimer)
    | .retransmit =>
      if tx.state = .completed then tx.onRetransmit
      else (tx, .error .invalidTimer)
    | .finalResponseLifetime =>
      if tx.state = .completed ∨ tx.state = .accepted then
        tx.onTermination [.cancel .retransmit, .terminate]
      else
        (tx, .error .invalidTimer)
    | .termination =>
      if tx.state = .completed ∨ tx.state = .confirmed then tx.onTermination [.terminate]
      else (tx, .error .invalidTimer)

end ServerTransaction

/-- One use of a server transaction by its owner. -/
inductive ServerInput
  | start
  | sendResponse (status : StatusCode) (bytes : Bytes)
  | duplicateRequest
  | ack
  | timer (timer : ServerTimer)
  deriving DecidableEq

/-- The answer to one use. -/
inductive ServerOutput
  | outcome (outcome : ServerTransaction.Outcome)
  | duplicate (disposition : DuplicateRequestDisposition)

namespace ServerTransaction

/-- The result of an operation as a step. -/
def answered (result : ServerTransaction × Outcome) : ServerTransaction × ServerOutput :=
  (result.1, .outcome result.2)

/-- Apply one input. -/
def step (tx : ServerTransaction) : ServerInput → ServerTransaction × ServerOutput
  | .start => answered tx.start
  | .sendResponse status bytes => answered (tx.sendResponse status bytes)
  | .duplicateRequest => (tx, .duplicate tx.onDuplicateRequest)
  | .ack => answered tx.onAck
  | .timer timer => answered (tx.onTimer timer)

end ServerTransaction

/-- The response bytes that an action puts on the wire. -/
def ServerAction.carried : ServerAction → Option Bytes
  | .sendResponse bytes => some bytes
  | _ => none

/-- The response bytes that an answer sends or replays. -/
def ServerOutput.carried : ServerOutput → List Bytes
  | .outcome (.ok actions) => actions.filterMap ServerAction.carried
  | .outcome (.error _) => []
  | .duplicate (.replayResponse bytes) => [bytes]
  | .duplicate .absorb => []

end Transaction
end LiveAISIP
