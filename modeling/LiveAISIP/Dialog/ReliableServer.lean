import LiveAISIP.Dialog.Prack
import LiveAISIP.Transaction.Timer

/-!
# Retransmitting reliable provisional responses

The server side of `sip/dialog/reliable.rs`: one response at a time is retransmitted until
it is acknowledged or fenced off by a final response.  Timers carry the generation of the
response they were set for.
-/

namespace LiveAISIP
namespace Dialog

open Sip
open Transaction (Duration)
open Run

/-- Exact identity carried by one `RAck` value. -/
structure RackIdentity where
  rseq : UInt32
  cseq : UInt32
  method : Method
  rseq_ne_zero : rseq ≠ 0
  deriving DecidableEq

/-- Create a complete acknowledgement identity. -/
def RackIdentity.new (rseq cseq : UInt32) (method : Method) : Except ReliableError RackIdentity :=
  if nonzero : rseq ≠ 0 then .ok ⟨rseq, cseq, method, nonzero⟩ else .error .zeroSequence

/-- Side effects emitted by reliable provisional server state. -/
inductive ReliableServerAction
  | send (bytes : Bytes)
  | schedule (generation : UInt64) (after : Duration)
  | cancel (generation : UInt64)

/-- Reliable provisional server lifecycle failure. -/
inductive ReliableServerError
  | invalidTimerProfile
  | alreadyPending
  | emptyResponse
  | noPending
  | staleGeneration
  | rackMismatch
  | generationExhausted

/-- A response that awaits its PRACK. -/
structure PendingReliable where
  identity : RackIdentity
  bytes : Bytes
  generation : UInt64
  nextInterval : Duration

/-- Retransmission state and final-response fence. -/
structure ReliableProvisionalServer where
  pending : Option PendingReliable
  nextGeneration : UInt64
  initialInterval : Duration
  maximumInterval : Duration

namespace ReliableProvisionalServer

/-- The actions of one call, or its error. -/
abbrev Outcome := Except ReliableServerError (List ReliableServerAction)

/-- Create state from retransmission bounds. -/
def new (initialInterval maximumInterval : Duration) :
    Except ReliableServerError ReliableProvisionalServer :=
  if initialInterval.asNanos = 0 ∨ maximumInterval.asNanos < initialInterval.asNanos then
    .error .invalidTimerProfile
  else
    .ok ⟨none, 1, initialInterval, maximumInterval⟩

/-- Start one reliable provisional response. -/
def start (server : ReliableProvisionalServer) (identity : RackIdentity) (bytes : Bytes) :
    ReliableProvisionalServer × Outcome :=
  if server.pending.isSome then
    (server, .error .alreadyPending)
  else if bytes = [] then
    (server, .error .emptyResponse)
  else if server.nextGeneration.toNat + 1 < 2 ^ 64 then
    ({ server with
        nextGeneration := server.nextGeneration + 1
        pending := some ⟨identity, bytes, server.nextGeneration, server.initialInterval⟩ },
      .ok [.send bytes, .schedule server.nextGeneration server.initialInterval])
  else
    (server, .error .generationExhausted)

/-- Twice an interval, at most the maximum. -/
def nextInterval (server : ReliableProvisionalServer) (current : Duration) : Duration :=
  ((current.checkedMul 2).getD server.maximumInterval).min server.maximumInterval

/-- Retransmit only when the timer's generation still owns the pending state. -/
def onTimer (server : ReliableProvisionalServer) (generation : UInt64) :
    ReliableProvisionalServer × Outcome :=
  match server.pending with
  | none => (server, .error .noPending)
  | some pending =>
    if pending.generation ≠ generation then
      (server, .error .staleGeneration)
    else
      let interval := server.nextInterval pending.nextInterval
      ({ server with pending := some { pending with nextInterval := interval } },
        .ok [.send pending.bytes, .schedule generation interval])

/-- Accept a PRACK only when all three `RAck` fields match exactly. -/
def onPrack (server : ReliableProvisionalServer) (identity : RackIdentity) :
    ReliableProvisionalServer × Outcome :=
  match server.pending with
  | none => (server, .error .noPending)
  | some pending =>
    if pending.identity ≠ identity then (server, .error .rackMismatch)
    else ({ server with pending := none }, .ok [.cancel pending.generation])

/-- A final response may cross the wire. -/
def finalResponseAllowed (server : ReliableProvisionalServer) : Bool := server.pending.isNone

/-- Cancel pending state before an externally mandated final. -/
def fenceFinal (server : ReliableProvisionalServer) :
    ReliableProvisionalServer × List ReliableServerAction :=
  match server.pending with
  | none => (server, [])
  | some pending => ({ server with pending := none }, [.cancel pending.generation])

end ReliableProvisionalServer

/-- A call on the server state. -/
inductive ReliableCall
  | start (identity : RackIdentity) (bytes : Bytes)
  | onTimer (generation : UInt64)
  | onPrack (identity : RackIdentity)
  | fenceFinal

namespace ReliableProvisionalServer

variable {server : ReliableProvisionalServer}

/-- One call. -/
def step (server : ReliableProvisionalServer) : ReliableCall → ReliableProvisionalServer × Outcome
  | .start identity bytes => server.start identity bytes
  | .onTimer generation => server.onTimer generation
  | .onPrack identity => server.onPrack identity
  | .fenceFinal => (server.fenceFinal.1, .ok server.fenceFinal.2)

/-- What a call can do: nothing, or one of the four changes of the pending response. -/
theorem step_cases (server : ReliableProvisionalServer) (call : ReliableCall) :
    (∃ error, server.step call = (server, .error error)) ∨
    (call = .fenceFinal ∧ server.pending = none ∧ server.step call = (server, .ok [])) ∨
    (∃ identity bytes, call = .start identity bytes ∧ server.pending = none ∧
      server.nextGeneration.toNat + 1 < 2 ^ 64 ∧
      server.step call =
        ({ server with
            nextGeneration := server.nextGeneration + 1
            pending := some ⟨identity, bytes, server.nextGeneration, server.initialInterval⟩ },
          .ok [.send bytes, .schedule server.nextGeneration server.initialInterval])) ∨
    (∃ pending, server.pending = some pending ∧ call = .onTimer pending.generation ∧
      server.step call =
        ({ server with
            pending := some { pending with
              nextInterval := server.nextInterval pending.nextInterval } },
          .ok [.send pending.bytes,
            .schedule pending.generation (server.nextInterval pending.nextInterval)])) ∨
    ∃ pending, server.pending = some pending ∧
      (call = .onPrack pending.identity ∨ call = .fenceFinal) ∧
      server.step call = ({ server with pending := none }, .ok [.cancel pending.generation]) := by
  cases call with
  | start identity bytes =>
    simp only [step, start]
    by_cases occupied : server.pending.isSome = true
    · rw [if_pos occupied]
      exact .inl ⟨_, rfl⟩
    rw [if_neg occupied]
    by_cases empty : bytes = []
    · rw [if_pos empty]
      exact .inl ⟨_, rfl⟩
    rw [if_neg empty]
    by_cases room : server.nextGeneration.toNat + 1 < 2 ^ 64
    · rw [if_pos room]
      exact .inr (.inr (.inl ⟨identity, bytes, rfl, by simpa using occupied, room, rfl⟩))
    · rw [if_neg room]
      exact .inl ⟨_, rfl⟩
  | onTimer generation =>
    simp only [step, onTimer]
    rcases stands : server.pending with _ | pending
    · exact .inl ⟨_, rfl⟩
    · by_cases stale : pending.generation ≠ generation
      · simp only [if_pos stale]
        exact .inl ⟨_, rfl⟩
      · obtain rfl := not_not.mp stale
        simp only [if_neg stale]
        exact .inr (.inr (.inr (.inl ⟨pending, rfl, rfl, rfl⟩)))
  | onPrack identity =>
    simp only [step, onPrack]
    rcases stands : server.pending with _ | pending
    · exact .inl ⟨_, rfl⟩
    · by_cases other : pending.identity ≠ identity
      · simp only [if_pos other]
        exact .inl ⟨_, rfl⟩
      · obtain rfl := not_not.mp other
        simp only [if_neg other]
        exact .inr (.inr (.inr (.inr ⟨pending, rfl, .inl rfl, rfl⟩)))
  | fenceFinal =>
    simp only [step, fenceFinal]
    rcases stands : server.pending with _ | pending
    · exact .inr (.inl ⟨trivial, rfl, rfl⟩)
    · exact .inr (.inr (.inr (.inr ⟨pending, rfl, .inr trivial, rfl⟩)))

/-- A response that was started, with the generation of its timers. -/
structure Started where
  generation : UInt64
  identity : RackIdentity
  bytes : Bytes
  deriving DecidableEq

/-- The timers that an outcome sets. -/
def scheduledBy : Outcome → List (UInt64 × Duration)
  | .ok actions => actions.filterMap fun
      | .schedule generation after => some (generation, after)
      | _ => none
  | .error _ => []

/-- The generations that an outcome cancels. -/
def cancelledBy : Outcome → List UInt64
  | .ok actions => actions.filterMap fun
      | .cancel generation => some generation
      | _ => none
  | .error _ => []

/-- The response that a call started. -/
def startedBy : ReliableCall → Outcome → List Started
  | .start identity bytes, outcome =>
    (scheduledBy outcome).map fun timer => ⟨timer.1, identity, bytes⟩
  | _, _ => []

/-- The generations that a PRACK acknowledged. -/
def acknowledgedBy : ReliableCall → Outcome → List UInt64
  | .onPrack _, outcome => cancelledBy outcome
  | _, _ => []

/-- The calls of a run with their outcomes. -/
def history (server : ReliableProvisionalServer) (calls : List ReliableCall) :
    List (ReliableCall × Outcome) :=
  calls.zip (outputs step server calls)

/-- The responses that a run started. -/
def started (server : ReliableProvisionalServer) (calls : List ReliableCall) : List Started :=
  (server.history calls).flatMap fun entry => startedBy entry.1 entry.2

/-- The generations that a run retired, by a PRACK or by the fence of a final response. -/
def retired (server : ReliableProvisionalServer) (calls : List ReliableCall) : List UInt64 :=
  (server.history calls).flatMap fun entry => cancelledBy entry.2

/-- The generations that a PRACK of the run acknowledged. -/
def acknowledged (server : ReliableProvisionalServer) (calls : List ReliableCall) : List UInt64 :=
  (server.history calls).flatMap fun entry => acknowledgedBy entry.1 entry.2

/-- The timers that a run set. -/
def scheduled (server : ReliableProvisionalServer) (calls : List ReliableCall) :
    List (UInt64 × Duration) :=
  (server.history calls).flatMap fun entry => scheduledBy entry.2

theorem history_concat
    (server : ReliableProvisionalServer) (calls : List ReliableCall) (last : ReliableCall) :
    server.history (calls ++ [last]) =
      server.history calls ++ [(last, ((after step server calls).step last).2)] :=
  Run.history_concat step server calls last

/-- The response that is pending. -/
def PendingReliable.response (pending : PendingReliable) : Started :=
  ⟨pending.generation, pending.identity, pending.bytes⟩

/-- The intervals of one generation. -/
def intervals (timers : List (UInt64 × Duration)) (generation : UInt64) : List Duration :=
  (timers.filter fun timer => timer.1 = generation).map Prod.snd

/-- How the state of a server stands to what the run has done. -/
structure Ledger
    (server : ReliableProvisionalServer) (started : List Started) (retired : List UInt64)
    (scheduled : List (UInt64 × Duration)) : Prop where
  /-- All responses but the pending one are retired. -/
  settled : ∀ response ∈ started, response.generation ∈ retired ∨
    server.pending.map PendingReliable.response = some response
  pending : ∀ pending, server.pending = some pending →
    PendingReliable.response pending ∈ started ∧ pending.generation ∉ retired ∧
      pending.nextInterval.asNanos ≤ server.maximumInterval.asNanos ∧
      ∀ interval ∈ intervals scheduled pending.generation,
        interval.asNanos ≤ pending.nextInterval.asNanos
  startedBefore : ∀ response ∈ started, response.generation < server.nextGeneration
  retiredBefore : ∀ generation ∈ retired, generation < server.nextGeneration
  scheduledBefore : ∀ timer ∈ scheduled, timer.1 < server.nextGeneration
  distinct : (started.map Started.generation).Nodup
  intervals : ∀ generation, (intervals scheduled generation).Pairwise
        (fun first second => first.asNanos ≤ second.asNanos) ∧
      ∀ interval ∈ intervals scheduled generation, interval.asNanos ≤ server.maximumInterval.asNanos
  initial_le : server.initialInterval.asNanos ≤ server.maximumInterval.asNanos

theorem nextInterval_spec {current : Duration}
    (bounded : current.asNanos ≤ server.maximumInterval.asNanos) :
    current.asNanos ≤ (server.nextInterval current).asNanos ∧
      (server.nextInterval current).asNanos ≤ server.maximumInterval.asNanos := by
  unfold nextInterval Duration.min
  rcases doubled : current.checkedMul 2 with _ | twice
  · simp [bounded]
  · have value : twice.asNanos = current.asNanos * 2 := by
      unfold Duration.checkedMul Duration.ofNanos at doubled
      split_ifs at doubled
      cases doubled
      rfl
    rw [Option.getD_some]
    split_ifs <;> omega

theorem intervals_append (first second : List (UInt64 × Duration)) (generation : UInt64) :
    intervals (first ++ second) generation =
      intervals first generation ++ intervals second generation := by
  simp [intervals]

theorem lt_add_one {generation : UInt64} (room : generation.toNat + 1 < 2 ^ 64) :
    generation < generation + 1 := by
  rw [UInt64.lt_iff_toNat_lt, UInt64.toNat_add, UInt64.toNat_one, Nat.mod_eq_of_lt room]
  omega

/-- A response is started under a generation of its own. -/
theorem Ledger.start {started : List Started} {retired : List UInt64}
    {scheduled : List (UInt64 × Duration)}
    (ledger : Ledger server started retired scheduled) (free : server.pending = none)
    (room : server.nextGeneration.toNat + 1 < 2 ^ 64) (identity : RackIdentity) (bytes : Bytes) :
    Ledger
      { server with
        nextGeneration := server.nextGeneration + 1
        pending := some ⟨identity, bytes, server.nextGeneration, server.initialInterval⟩ }
      (started ++ [⟨server.nextGeneration, identity, bytes⟩]) retired
      (scheduled ++ [(server.nextGeneration, server.initialInterval)]) := by
  have above : ∀ {generation : UInt64}, generation < server.nextGeneration →
      generation < server.nextGeneration + 1 := fun below =>
    UInt64.lt_trans below (lt_add_one room)
  have unscheduled : ReliableProvisionalServer.intervals scheduled server.nextGeneration = [] := by
    simp only [ReliableProvisionalServer.intervals, List.map_eq_nil_iff, List.filter_eq_nil_iff]
    intro timer member same
    rw [decide_eq_true_eq] at same
    have below := ledger.scheduledBefore timer member
    rw [same] at below
    exact UInt64.lt_irrefl _ below
  refine ⟨?_, ?_, ?_, ?_, ?_, ?_, ?_, ledger.initial_le⟩
  · intro response member
    rcases List.mem_append.mp member with old | new
    · rcases ledger.settled response old with gone | stands
      · exact .inl gone
      · rw [free] at stands
        cases stands
    · exact .inr (by rw [List.mem_singleton.mp new]; rfl)
  · rintro pending stands
    cases stands
    refine ⟨by simp [PendingReliable.response], ?_, ledger.initial_le, ?_⟩
    · intro gone
      exact UInt64.lt_irrefl _ (ledger.retiredBefore _ gone)
    · intro interval member
      rw [intervals_append, unscheduled] at member
      obtain rfl : interval = server.initialInterval := by
        simpa [ReliableProvisionalServer.intervals] using member
      exact Nat.le_refl _
  · intro response member
    rcases List.mem_append.mp member with old | new
    · exact above (ledger.startedBefore response old)
    · rw [List.mem_singleton.mp new]
      exact lt_add_one room
  · intro generation member
    exact above (ledger.retiredBefore generation member)
  · intro timer member
    rcases List.mem_append.mp member with old | new
    · exact above (ledger.scheduledBefore timer old)
    · rw [List.mem_singleton.mp new]
      exact lt_add_one room
  · rw [List.map_append, List.nodup_append]
    refine ⟨ledger.distinct, by simp, ?_⟩
    intro old member new newMember same
    obtain ⟨response, stands, rfl⟩ := List.mem_map.mp member
    have below := ledger.startedBefore response stands
    rw [same, show new = server.nextGeneration by simpa using newMember] at below
    exact UInt64.lt_irrefl _ below
  · intro generation
    rw [intervals_append]
    by_cases same : generation = server.nextGeneration
    · subst same
      rw [unscheduled]
      simp [ReliableProvisionalServer.intervals, ledger.initial_le]
    · have other : ReliableProvisionalServer.intervals
          [(server.nextGeneration, server.initialInterval)] generation = [] := by
        simp [ReliableProvisionalServer.intervals, Ne.symm same]
      rw [other, List.append_nil]
      exact ledger.intervals generation

/-- The pending response is sent once more, after an interval that is not shorter. -/
theorem Ledger.retransmit {started : List Started} {retired : List UInt64}
    {scheduled : List (UInt64 × Duration)}
    (ledger : Ledger server started retired scheduled) {pending : PendingReliable}
    (stands : server.pending = some pending) :
    Ledger
      { server with
        pending := some { pending with
          nextInterval := server.nextInterval pending.nextInterval } }
      started retired
      (scheduled ++ [(pending.generation, server.nextInterval pending.nextInterval)]) := by
  obtain ⟨known, unretired, bounded, below⟩ := ledger.pending pending stands
  obtain ⟨longer, atMost⟩ := nextInterval_spec bounded
  refine ⟨?_, ?_, ledger.startedBefore, ledger.retiredBefore, ?_, ledger.distinct, ?_,
    ledger.initial_le⟩
  · intro response member
    rcases ledger.settled response member with gone | same
    · exact .inl gone
    · rw [stands] at same
      exact .inr same
  · rintro again stands
    cases stands
    refine ⟨known, unretired, atMost, ?_⟩
    intro interval member
    rw [intervals_append, List.mem_append] at member
    rcases member with old | new
    · exact Nat.le_trans (below interval old) longer
    · obtain rfl : interval = server.nextInterval pending.nextInterval := by
        simpa [ReliableProvisionalServer.intervals] using new
      exact Nat.le_refl _
  · intro timer member
    rcases List.mem_append.mp member with old | new
    · exact ledger.scheduledBefore timer old
    · rw [List.mem_singleton.mp new]
      exact ledger.startedBefore _ known
  · intro generation
    rw [intervals_append]
    obtain ⟨sorted, capped⟩ := ledger.intervals generation
    by_cases same : generation = pending.generation
    · subst same
      have own : ReliableProvisionalServer.intervals
          [(pending.generation, server.nextInterval pending.nextInterval)] pending.generation =
          [server.nextInterval pending.nextInterval] := by
        simp [ReliableProvisionalServer.intervals]
      rw [own]
      constructor
      · rw [List.pairwise_append]
        refine ⟨sorted, List.pairwise_singleton _ _, ?_⟩
        intro old member new newMember
        rw [List.mem_singleton.mp newMember]
        exact Nat.le_trans (below old member) longer
      · intro interval member
        rcases List.mem_append.mp member with old | new
        · exact capped interval old
        · rw [List.mem_singleton.mp new]
          exact atMost
    · have other : ReliableProvisionalServer.intervals
          [(pending.generation, server.nextInterval pending.nextInterval)] generation = [] := by
        simp [ReliableProvisionalServer.intervals, Ne.symm same]
      rw [other, List.append_nil]
      exact ⟨sorted, capped⟩

/-- The pending response is retired. -/
theorem Ledger.retire {started : List Started} {retired : List UInt64}
    {scheduled : List (UInt64 × Duration)}
    (ledger : Ledger server started retired scheduled) {pending : PendingReliable}
    (stands : server.pending = some pending) :
    Ledger { server with pending := none } started (retired ++ [pending.generation]) scheduled := by
  obtain ⟨known, -, -, -⟩ := ledger.pending pending stands
  refine ⟨?_, by simp, ledger.startedBefore, ?_, ledger.scheduledBefore, ledger.distinct,
    ledger.intervals, ledger.initial_le⟩
  · intro response member
    rcases ledger.settled response member with gone | same
    · exact .inl (List.mem_append_left _ gone)
    · rw [stands, Option.map_some, Option.some.injEq] at same
      rw [← same]
      exact .inl (by simp [PendingReliable.response])
  · intro generation member
    rcases List.mem_append.mp member with old | new
    · exact ledger.retiredBefore generation old
    · rw [List.mem_singleton.mp new]
      exact ledger.startedBefore _ known

/-- Every call keeps the ledger. -/
theorem ledger_step {started : List Started} {retired : List UInt64}
    {scheduled : List (UInt64 × Duration)}
    (ledger : Ledger server started retired scheduled) (call : ReliableCall) :
    Ledger (server.step call).1 (started ++ startedBy call (server.step call).2)
      (retired ++ cancelledBy (server.step call).2)
      (scheduled ++ scheduledBy (server.step call).2) := by
  rcases server.step_cases call with ⟨error, result⟩ | ⟨rfl, -, result⟩ |
    ⟨identity, bytes, rfl, free, room, result⟩ | ⟨pending, stands, rfl, result⟩ |
    ⟨pending, stands, rfl | rfl, result⟩
  · rw [result]
    cases call <;> simpa [startedBy, cancelledBy, scheduledBy] using ledger
  · rw [result]
    simpa [startedBy, cancelledBy, scheduledBy] using ledger
  · rw [result]
    simpa [startedBy, cancelledBy, scheduledBy] using ledger.start free room identity bytes
  · rw [result]
    simpa [startedBy, cancelledBy, scheduledBy] using ledger.retransmit stands
  · rw [result]
    simpa [startedBy, cancelledBy, scheduledBy] using ledger.retire stands
  · rw [result]
    simpa [startedBy, cancelledBy, scheduledBy] using ledger.retire stands

theorem ledger_of_new
    {initialInterval maximumInterval : Duration}
    (created : new initialInterval maximumInterval = .ok server) (calls : List ReliableCall) :
    Ledger (after step server calls) (server.started calls) (server.retired calls)
      (server.scheduled calls) := by
  induction calls using List.reverseRecOn with
  | nil =>
    unfold new at created
    split_ifs at created with invalid
    cases created
    refine ⟨?_, ?_, ?_, ?_, ?_, .nil, ?_, ?_⟩
    · intro response member
      cases member
    · rintro pending stands
      cases stands
    · intro response member
      cases member
    · intro generation member
      cases member
    · intro timer member
      cases member
    · intro generation
      exact ⟨.nil, fun interval member => by cases member⟩
    · exact Nat.le_of_not_lt fun below => invalid (.inr below)
  | append_singleton calls call ih =>
    have next := ledger_step ih call
    rw [after_append]
    simpa [started, retired, scheduled, history_concat] using next

/-- While nothing is pending, no generation handed out so far comes back. -/
theorem later_generation (free : server.pending = none)
    (calls : List ReliableCall) {pending : PendingReliable}
    (stands : (after step server calls).pending = some pending) :
    server.nextGeneration ≤ pending.generation := by
  have kept : (∀ pending, (after step server calls).pending = some pending →
      server.nextGeneration ≤ pending.generation) ∧
      server.nextGeneration ≤ (after step server calls).nextGeneration := by
    apply invariant (fun state : ReliableProvisionalServer =>
      (∀ pending, state.pending = some pending → server.nextGeneration ≤ pending.generation) ∧
        server.nextGeneration ≤ state.nextGeneration)
    · refine ⟨?_, UInt64.le_refl _⟩
      intro pending found
      rw [free] at found
      cases found
    · rintro state call ⟨later, reached⟩
      rcases state.step_cases call with ⟨error, result⟩ | ⟨-, -, result⟩ |
        ⟨identity, bytes, -, -, room, result⟩ | ⟨old, found, -, result⟩ | ⟨old, -, -, result⟩
      · rw [result]
        exact ⟨later, reached⟩
      · rw [result]
        exact ⟨later, reached⟩
      · rw [result]
        refine ⟨?_, UInt64.le_trans reached (UInt64.le_of_lt (lt_add_one room))⟩
        rintro pending found
        cases found
        exact reached
      · rw [result]
        refine ⟨?_, reached⟩
        rintro pending again
        cases again
        exact later old found
      · rw [result]
        refine ⟨?_, reached⟩
        rintro pending found
        cases found
  exact kept.1 pending stands

/-- A timer sends the bytes of the pending response. -/
theorem onTimer_sends_iff
    (server : ReliableProvisionalServer) (generation : UInt64) (bytes : Bytes) :
    (∃ actions, (server.onTimer generation).2 = .ok actions ∧ .send bytes ∈ actions) ↔
      ∃ pending, server.pending = some pending ∧ pending.generation = generation ∧
        pending.bytes = bytes := by
  unfold onTimer
  rcases stands : server.pending with _ | pending
  · simp
  · by_cases stale : pending.generation ≠ generation
    · simp [stale]
    · rw [not_not] at stale
      simp [stale, eq_comm]

/-- What holds after some calls on the server state, and of the call that follows. -/
structure Fences
    (server : ReliableProvisionalServer) (calls : List ReliableCall) (call : ReliableCall) :
    Prop where
  /-- A timer sends exactly the response of its generation, while that is not retired. -/
  resends : ∀ generation bytes,
    (∃ actions, ((after step server calls).onTimer generation).2 = .ok actions ∧
      .send bytes ∈ actions) ↔
    ∃ response ∈ server.started calls, response.generation = generation ∧
      response.bytes = bytes ∧ generation ∉ server.retired calls
  /-- The end of a response ends all timers set before. -/
  fenced : ∀ earlier ending later, calls = earlier ++ ending :: later →
    (ending = .fenceFinal ∨ ∃ identity actions, ending = .onPrack identity ∧
      output step server earlier ending = .ok actions) →
    ∀ generation < (after step server (earlier ++ [ending])).nextGeneration,
      ∀ bytes actions, ((after step server calls).onTimer generation).2 = .ok actions →
        .send bytes ∉ actions
  allowed : (after step server calls).finalResponseAllowed = true ↔
    ∀ response ∈ server.started calls, response.generation ∈ server.retired calls
  /-- The intervals of one response do not decrease and stay below the maximum. -/
  intervals : ∀ generation, (intervals (server.scheduled calls) generation).Pairwise
        (fun first second => first.asNanos ≤ second.asNanos) ∧
      ∀ interval ∈ intervals (server.scheduled calls) generation,
        interval.asNanos ≤ server.maximumInterval.asNanos
  unchanged : ∀ error, output step server calls call = .error error →
    after step server (calls ++ [call]) = after step server calls

theorem maximumInterval_after
    (server : ReliableProvisionalServer) (calls : List ReliableCall) :
    (after step server calls).maximumInterval = server.maximumInterval := by
  apply invariant (fun state : ReliableProvisionalServer =>
    state.maximumInterval = server.maximumInterval)
  · rfl
  · intro state call same
    rcases state.step_cases call with ⟨error, result⟩ | ⟨-, -, result⟩ |
      ⟨identity, bytes, -, -, -, result⟩ | ⟨pending, -, -, result⟩ | ⟨pending, -, -, result⟩ <;>
    · rw [result]
      exact same

/-- Retransmissions never outlive the response they were set for. -/
theorem provisional_fenced
    {initialInterval maximumInterval : Duration} {server : ReliableProvisionalServer}
    (created : new initialInterval maximumInterval = .ok server)
    (calls : List ReliableCall) (call : ReliableCall) : Fences server calls call := by
  have ledger := ledger_of_new created calls
  refine ⟨?_, ?_, ?_, ?_, ?_⟩
  · intro generation bytes
    rw [onTimer_sends_iff]
    constructor
    · rintro ⟨pending, stands, rfl, rfl⟩
      obtain ⟨known, unretired, -, -⟩ := ledger.pending pending stands
      exact ⟨_, known, rfl, rfl, unretired⟩
    · rintro ⟨response, known, rfl, rfl, unretired⟩
      rcases ledger.settled response known with gone | stands
      · exact absurd gone unretired
      · obtain ⟨pending, found, rfl⟩ := Option.map_eq_some_iff.mp stands
        exact ⟨pending, found, rfl, rfl⟩
  · rintro earlier ending later rfl ended generation below bytes actions sent member
    obtain ⟨pending, stands, rfl, -⟩ :=
      (onTimer_sends_iff _ generation bytes).mp ⟨actions, sent, member⟩
    have free : (after step server (earlier ++ [ending])).pending = none := by
      rw [after_append]
      simp only [after_cons, after_nil]
      rcases ended with rfl | ⟨identity, actions, rfl, accepted⟩
      · simp only [step, fenceFinal]
        split
        · assumption
        · rfl
      · simp only [output, step, onPrack] at accepted ⊢
        split at accepted
        · cases accepted
        · split_ifs at accepted ⊢
          rfl
    rw [show earlier ++ ending :: later = (earlier ++ [ending]) ++ later by simp,
      after_append] at stands
    have reached := later_generation free later stands
    rw [UInt64.le_iff_toNat_le] at reached
    rw [UInt64.lt_iff_toNat_lt] at below
    omega
  · unfold finalResponseAllowed
    rw [Option.isNone_iff_eq_none]
    constructor
    · intro free response member
      rcases ledger.settled response member with gone | stands
      · exact gone
      · rw [free] at stands
        cases stands
    · intro all
      rcases stands : (after step server calls).pending with _ | pending
      · rfl
      · obtain ⟨known, unretired, -, -⟩ := ledger.pending pending stands
        exact absurd (all _ known) unretired
  · intro generation
    rw [← server.maximumInterval_after calls]
    exact ledger.intervals generation
  · intro error failed
    rw [after_append]
    rcases (after step server calls).step_cases call with ⟨reason, result⟩ |
      ⟨-, -, result⟩ | ⟨identity, bytes, -, -, -, result⟩ | ⟨pending, -, -, result⟩ |
      ⟨pending, -, -, result⟩
    · simp only [after_cons, after_nil, result]
    all_goals
      rw [output, result] at failed
      cases failed

/-- Retransmissions after half a second, at most every four seconds. -/
def sampleServer : ReliableProvisionalServer := ⟨none, 1, .fromMillis 500, .fromSecs 4⟩

theorem provisional_fenced_sampleServer :
    new (.fromMillis 500) (.fromSecs 4) = .ok sampleServer ∧ Fences sampleServer
        [.start ⟨1, 7, .invite, by decide⟩ [49], .onTimer 1, .fenceFinal] (.onTimer 1) := by
  have created : new (.fromMillis 500) (.fromSecs 4) = .ok sampleServer := rfl
  exact ⟨created, provisional_fenced created _ _⟩

/-- A provisional response that is fenced off by a final one. -/
def fencedCalls : List ReliableCall := [.start ⟨1, 7, .invite, by decide⟩ [49], .fenceFinal]

/-- A final response is allowed after the fence although nobody acknowledged the
provisional one. -/
theorem fenced_without_acknowledgement :
    (after step sampleServer fencedCalls).finalResponseAllowed = true ∧
      ∃ response ∈ sampleServer.started fencedCalls,
        response.generation ∉ sampleServer.acknowledged fencedCalls := by
  refine ⟨rfl, ⟨1, ⟨1, 7, .invite, by decide⟩, [49]⟩, ?_, ?_⟩
  · decide
  · decide

end ReliableProvisionalServer
end Dialog
end LiveAISIP
