import LiveAISIP.Library.Effect
import LiveAISIP.Library.KeyMap
import LiveAISIP.Library.Run
import Mathlib.Data.Nat.ModEq

/-!
# Reports of finished calls

The registry of `call/execution/manager.rs` and the join of call threads.  A thread is
joined once, by any of the clones of its handle, and its report goes to whoever joined
it.  The registry joins calls one by one or in batches; a batch in which one call cannot
be joined returns an error in place of the reports that it has collected.

Threads are shared by the clones of their handles, so they stand in one table by token.
What a thread will end with is given when it is spawned; joining waits for that end.  The
order in which the registry is iterated and the reservations of memory are inputs.
-/

namespace LiveAISIP
namespace Call
namespace Execution

open Effect
open List

/-- The bit that marks an identifier. -/
def opaqueBit : Nat := 2 ^ 63

/-- The largest counter, and the mask of the other bits. -/
def counterMask : Nat := opaqueBit - 1

/-- The allocator of identifiers; the counter 0 stands for exhaustion. -/
structure IdGenerator where
  next : Nat
  multiplier : Nat
  offset : Nat
  odd : multiplier % 2 = 1

namespace IdGenerator

/-- A generator with an odd multiplier. -/
def fromParts (next multiplier offset : UInt64) : IdGenerator where
  next := next.toNat
  multiplier := multiplier.toNat ||| 1
  offset := offset.toNat &&& counterMask
  odd := Nat.or_mod_two_eq_one.mpr (.inr rfl)

/-- The identifier of a counter, in 64 bits. -/
def identifier (generator : IdGenerator) (counter : Nat) : Nat :=
  let permuted :=
    (counter * generator.multiplier % 2 ^ 64 + generator.offset) % 2 ^ 64 &&& counterMask
  opaqueBit ||| permuted

/-- The counter after one that is not exhausted. -/
def successor (counter : Nat) : Nat := if counter = counterMask then 0 else counter + 1

/-- Allocate an identifier. -/
def allocate (generator : IdGenerator) : Option (Nat × IdGenerator) :=
  if generator.next = 0 then none
  else
    some (generator.identifier generator.next, { generator with next := successor generator.next })

theorem identifier_eq (generator : IdGenerator) (counter : Nat) : generator.identifier counter =
      2 ^ 63 + (counter * generator.multiplier + generator.offset) % 2 ^ 63 := by
  have masked (value : Nat) : value &&& counterMask = value % 2 ^ 63 :=
    Nat.and_two_pow_sub_one_eq_mod value 63
  have small (value : Nat) : opaqueBit ||| value % 2 ^ 63 = 2 ^ 63 + value % 2 ^ 63 :=
    (Nat.two_pow_add_eq_or_of_lt (Nat.mod_lt value (Nat.two_pow_pos 63)) 1).symm
  rw [identifier, masked, small]
  generalize counter * generator.multiplier = product
  omega

/-- Different counters have different identifiers. -/
theorem identifier_injective
    {generator : IdGenerator} {first second : Nat}
    (first_le : first ≤ counterMask) (second_le : second ≤ counterMask)
    (same : generator.identifier first = generator.identifier second) : first = second := by
  rw [identifier_eq, identifier_eq] at same
  have sums : first * generator.multiplier + generator.offset ≡
      second * generator.multiplier + generator.offset [MOD 2 ^ 63] := Nat.add_left_cancel same
  have coprime : Nat.Coprime (2 ^ 63) generator.multiplier :=
    Nat.Coprime.pow_left 63 (by rw [Nat.coprime_iff_gcd_eq_one, Nat.gcd_rec, generator.odd]; rfl)
  have congruent := (Nat.ModEq.add_right_cancel' _ sums).cancel_right_of_coprime coprime
  have mask : counterMask = 2 ^ 63 - 1 := rfl
  exact congruent.eq_of_lt_of_lt (by omega) (by omega)

/-- The identifiers allocated so far. -/
def Issued (generator : IdGenerator) (identifier : Nat) : Prop :=
  ∃ counter, counter ≤ counterMask ∧ (generator.next = 0 ∨ counter < generator.next) ∧
    generator.identifier counter = identifier

/-- An allocated identifier is a new one. -/
theorem issued_of_allocate
    {generator after : IdGenerator} {identifier : Nat} (small : generator.next ≤ counterMask)
    (allocated : generator.allocate = some (identifier, after)) :
    ¬generator.Issued identifier ∧ after.next ≤ counterMask ∧ after.Issued identifier ∧
      ∀ other, generator.Issued other → after.Issued other := by
  rw [allocate] at allocated
  split_ifs at allocated with exhausted
  cases allocated
  refine ⟨?_, ?_, ?_, ?_⟩
  · rintro ⟨counter, counter_le, earlier, same⟩
    obtain rfl := identifier_injective counter_le small same
    omega
  · dsimp only
    rw [successor]
    split_ifs <;> omega
  · refine ⟨generator.next, small, ?_, rfl⟩
    dsimp only
    rw [successor]
    split_ifs <;> omega
  · rintro other ⟨counter, counter_le, earlier, same⟩
    refine ⟨counter, counter_le, ?_, same⟩
    dsimp only
    rw [successor]
    split_ifs <;> omega

end IdGenerator

/-- A generation of a call. -/
structure CallToken where
  callId : UInt64
  generation : Nat
  deriving DecidableEq

/-- Terminal outcome of a call thread. -/
inductive CallExitKind
  | completed
  | failed
  | panicked
  deriving DecidableEq

/-- The final report of a call thread. -/
structure CallExit where
  kind : CallExitKind
  deriving DecidableEq

/-- A call thread: the report with which it ends, if no panic escapes it, whether the
native handle is still there, and whether its status is terminal. -/
structure CallThread where
  outcome : Option CallExit
  joinPending : Bool
  terminal : Bool
  deriving DecidableEq

/-- A thread after its join, which has waited for its end. -/
def CallThread.joined (thread : CallThread) : CallThread :=
  { thread with joinPending := false, terminal := thread.terminal || thread.outcome.isSome }

/-- Failure to start or to join a thread. -/
inductive CallThreadError
  | spawn
  | alreadyJoined
  | uncontainedPanic

/-- A report with the call that it is of. -/
structure ManagedCallExit where
  token : CallToken
  exit : CallExit
  deriving DecidableEq

/-- Failure of the registry. -/
inductive CallManagerError
  | invalidCapacity
  | allocationFailed
  | shuttingDown
  | duplicateCall
  | atCapacity
  | generationExhausted
  | unknownCall
  | staleToken
  | thread (error : CallThreadError)

/-- Maximum capacity of a registry. -/
def maxCallManagerCapacity : Nat := 1000000

/-- The registry of active calls. -/
structure CallManager where
  calls : KeyMap UInt64 CallToken
  capacity : Nat
  generations : IdGenerator
  accepting : Bool

/-- The registry with the threads of all calls. -/
structure CallSystem where
  manager : CallManager
  threads : CallToken → Option CallThread

/-- An order in which a map is iterated. -/
abbrev IterationOrder := {order : List UInt64 → List UInt64 // ∀ keys, (order keys).Perm keys}

namespace CallSystem

/-- A computation on the registry. -/
abbrev Managing (α : Type) := Effect CallSystem CallManagerError α

/-- Change one thread. -/
def setThread (system : CallSystem) (token : CallToken) (thread : CallThread) : CallSystem :=
  { system with
    threads := fun other => if other = token then some thread else system.threads other }

/-- Join a thread by a handle of it; there is no handle of a thread that was not
spawned. -/
def join (token : CallToken) : Effect CallSystem CallThreadError CallExit := fun system =>
  match system.threads token with
  | none => (system, .error .alreadyJoined)
  | some thread =>
    if thread.joinPending then
      (system.setThread token thread.joined,
        match thread.outcome with
        | some exit => .ok exit
        | none => .error .uncontainedPanic)
    else (system, .error .alreadyJoined)

/-- Change the registered calls. -/
def setCalls (system : CallSystem) (calls : KeyMap UInt64 CallToken) : CallSystem :=
  { system with manager := { system.manager with calls := calls } }

/-- Start a call.  The thread starts where the system allows it, and will end with
`outcome`. -/
def spawn (granted started : Bool) (callId : UInt64) (outcome : Option CallExit) :
    Managing CallToken := fun system =>
  let manager := system.manager
  if ¬manager.accepting then (system, .error .shuttingDown)
  else if callId ∈ manager.calls then (system, .error .duplicateCall)
  else if manager.capacity ≤ manager.calls.size then (system, .error .atCapacity)
  else if ¬granted then (system, .error .allocationFailed)
  else
    match manager.generations.allocate with
    | none => (system, .error .generationExhausted)
    | some (generation, generations) =>
      let token : CallToken := ⟨callId, generation⟩
      let system := { system with manager := { manager with generations := generations } }
      if ¬started then (system, .error (.thread .spawn))
      else
        ((system.setCalls (manager.calls.insert callId token)).setThread token
          ⟨outcome, true, false⟩, .ok token)

/-- The registered generation of a call must be that of a token. -/
def verify (token : CallToken) : Managing CallToken := fun system =>
  match system.manager.calls.lookup token.callId with
  | none => (system, .error .unknownCall)
  | some handle =>
    if handle.generation ≠ token.generation then (system, .error .staleToken)
    else (system, .ok handle)

/-- Take a call out of the registry. -/
def takeCall (callId : UInt64) : Managing CallToken := fun system =>
  match system.manager.calls.lookup callId with
  | none => (system, .error .unknownCall)
  | some handle => (system.setCalls (system.manager.calls.erase callId), .ok handle)

/-- Join one call and remove it. -/
def remove (token : CallToken) : Managing CallExit := do
  let _ ← verify token
  let handle ← takeCall token.callId
  .mapError .thread (join handle)

/-- Whether the status of a call is terminal. -/
def isTerminal (system : CallSystem) (token : CallToken) : Bool :=
  (system.threads token).any CallThread.terminal

/-- The registered calls, in an order. -/
def handles (system : CallSystem) (order : IterationOrder) : List CallToken :=
  (order.val system.manager.calls.keys).filterMap system.manager.calls.lookup

/-- Remove and join calls one after the other, up to the first that fails. -/
def reapEach : List UInt64 → List ManagedCallExit → Managing (List ManagedCallExit)
  | [], exits => pure exits
  | callId :: completed, exits => do
    let handle ← takeCall callId
    let exit ← .mapError .thread (join handle)
    reapEach completed (exits ++ [⟨handle, exit⟩])

/-- The terminal calls, in an order. -/
def terminalHandles (system : CallSystem) (order : IterationOrder) : List CallToken :=
  (system.handles order).filter system.isTerminal

/-- Join every terminal call. -/
def reapFinishedReports (granted : Bool) (order : IterationOrder) :
    Managing (List ManagedCallExit) := do
  if ¬granted then .fail .allocationFailed
  else
    let completed ← .read fun system =>
      (system.terminalHandles order).map CallToken.callId
    reapEach completed []

/-- Join calls one after the other, keeping the reports and the first error. -/
def joinEach : List CallToken → List ManagedCallExit → Option CallThreadError →
    Managing (List ManagedCallExit × Option CallThreadError)
  | [], exits, firstError => pure (exits, firstError)
  | handle :: handles, exits, firstError => fun system =>
    match join handle system with
    | (next, .ok exit) => joinEach handles (exits ++ [⟨handle, exit⟩]) firstError next
    | (next, .error error) => joinEach handles exits (firstError.or (some error)) next

/-- Refuse new calls, clear the registry and join all calls. -/
def shutdownAll (granted : Bool) (order : IterationOrder) :
    Managing (List ManagedCallExit) := do
  if ¬granted then .fail .allocationFailed
  else
    .modify fun system => { system with manager := { system.manager with accepting := false } }
    let drained ← .read fun system => system.handles order
    .modify fun system => system.setCalls ∅
    let (exits, firstError) ← joinEach drained [] none
    match firstError with
    | some error => .fail (.thread error)
    | none => pure exits

end CallSystem

/-- A call of a method, or the end of a thread. -/
inductive ManagerCall
  | spawn (granted started : Bool) (callId : UInt64) (outcome : Option CallExit)
  | threadEnds (token : CallToken)
  | join (token : CallToken)
  | remove (token : CallToken)
  | reapFinishedReports (granted : Bool) (order : IterationOrder)
  | shutdownAll (granted : Bool) (order : IterationOrder)

namespace CallSystem

variable {system before after : CallSystem} {token : CallToken} {tokens : List CallToken}
  {reports : List ManagedCallExit}

/-- The status of a thread becomes terminal. -/
def threadEnds (system : CallSystem) (token : CallToken) : CallSystem :=
  match system.threads token with
  | none => system
  | some thread => system.setThread token { thread with terminal := true }

/-- One call, with the reports that it returns. -/
def step (system : CallSystem) : ManagerCall → CallSystem × List ManagedCallExit
  | .spawn granted started callId outcome => ((spawn granted started callId outcome system).1, [])
  | .threadEnds token => (system.threadEnds token, [])
  | .join token =>
    let (next, result) := join token system
    (next, (result.toOption.map (ManagedCallExit.mk token)).toList)
  | .remove token =>
    let (next, result) := remove token system
    (next, (result.toOption.map (ManagedCallExit.mk token)).toList)
  | .reapFinishedReports granted order =>
    let (next, result) := reapFinishedReports granted order system
    (next, result.toOption.getD [])
  | .shutdownAll granted order =>
    let (next, result) := shutdownAll granted order system
    (next, result.toOption.getD [])

/-- A registry without calls. -/
def new (granted : Bool) (capacity : Nat) (multiplier offset : UInt64) :
    Except CallManagerError CallSystem :=
  if capacity = 0 ∨ maxCallManagerCapacity < capacity then .error .invalidCapacity
  else if ¬granted then .error .allocationFailed
  else
    .ok
      { manager := ⟨∅, capacity, .fromParts 1 multiplier offset, true⟩
        threads := fun _ => none }

/-- The report that joining a call returns. -/
def exitOf (system : CallSystem) (token : CallToken) : Option ManagedCallExit :=
  match system.threads token with
  | some ⟨some exit, true, _⟩ => some ⟨token, exit⟩
  | _ => none

/-- Every report of a joined call was returned once, no other one was, and a call that
was not joined is registered. -/
def Accounted (system : CallSystem) (reports : List ManagedCallExit) : Prop :=
  ∀ token thread, system.threads token = some thread →
    reports.filter (·.token = token) = (if thread.joinPending then []
          else (thread.outcome.map (ManagedCallExit.mk token)).toList) ∧
      (thread.joinPending = true → system.manager.calls.lookup token.callId = some token)

/-- The threads of a list are joined, and no others. -/
structure JoinsThreads
    (before after : CallToken → Option CallThread) (tokens : List CallToken) : Prop where
  others : ∀ token, token ∉ tokens → after token = before token
  joined : ∀ token ∈ tokens, ∀ thread, after token = some thread → thread.joinPending = false ∧
      ∃ earlier, before token = some earlier ∧ thread.outcome = earlier.outcome
  known : ∀ token, (after token).isSome = (before token).isSome

/-- The calls of a list are joined, and no others leave the registry. -/
structure JoinsAll (before after : CallSystem) (tokens : List CallToken) : Prop where
  threads : JoinsThreads before.threads after.threads tokens
  kept : ∀ token, token ∉ tokens → before.manager.calls.lookup token.callId = some token →
      after.manager.calls.lookup token.callId = some token
  registered : ∀ callId token, after.manager.calls.lookup callId = some token →
    before.manager.calls.lookup callId = some token
  generations : after.manager.generations = before.manager.generations

theorem exitOf_eq_some {report : ManagedCallExit} : system.exitOf token = some report ↔
      ∃ exit terminal, system.threads token = some ⟨some exit, true, terminal⟩ ∧
        report = ⟨token, exit⟩ := by
  rw [exitOf]
  split
  · rename_i exit terminal found
    simp [found, eq_comm]
  · rename_i other
    refine iff_of_false nofun ?_
    rintro ⟨exit, terminal, found, -⟩
    exact other exit terminal found

/-- The reports of one call among those of different calls. -/
theorem filter_reports
    (system : CallSystem) (distinct : tokens.Nodup) (token : CallToken) :
    (tokens.filterMap system.exitOf).filter (·.token = token) =
      if token ∈ tokens then (system.exitOf token).toList else [] := by
  induction tokens with
  | nil => rfl
  | cons first tokens ih =>
    obtain ⟨fresh, distinct⟩ := nodup_cons.mp distinct
    have rest := ih distinct
    have own (report : ManagedCallExit) (returned : system.exitOf first = some report) :
        report.token = first := by
      obtain ⟨exit, terminal, -, rfl⟩ := exitOf_eq_some.mp returned
      rfl
    by_cases same : token = first
    · subst same
      rw [if_neg fresh] at rest
      rw [if_pos (mem_cons_self ..), filterMap_cons]
      cases returned : system.exitOf token with
      | none => exact rest
      | some report =>
        dsimp only
        rw [filter_cons_of_pos (by simpa using own report returned), rest]
        rfl
    · have member : token ∈ first :: tokens ↔ token ∈ tokens := by simp [same]
      rw [filterMap_cons, if_congr member rfl rfl]
      cases returned : system.exitOf first with
      | none => exact rest
      | some report =>
        dsimp only
        rw [filter_cons_of_neg ?_, rest]
        simpa [own report returned] using fun equal => same equal.symm

theorem exitOf_congr
    {first second : CallSystem} (same : first.threads token = second.threads token) :
    first.exitOf token = second.exitOf token := by
  simp only [exitOf, same]

/-- Where calls are joined, everything stays accounted for exactly if all their reports
are returned. -/
theorem accounted_iff_of_joinsAll {returned : List ManagedCallExit}
    (accounted : before.Accounted reports) (distinct : tokens.Nodup)
    (joins : JoinsAll before after tokens)
    (either : returned = tokens.filterMap before.exitOf ∨ returned = []) :
    after.Accounted (reports ++ returned) ↔ returned = tokens.filterMap before.exitOf := by
  constructor
  · intro complete
    rcases either with all | none
    · exact all
    · rw [none, eq_comm, filterMap_eq_nil_iff]
      intro token member
      by_contra returns
      obtain ⟨report, returns⟩ := Option.ne_none_iff_exists'.mp returns
      obtain ⟨exit, terminal, found, -⟩ := exitOf_eq_some.mp returns
      have known := joins.threads.known token
      rw [found] at known
      obtain ⟨thread, present⟩ := Option.isSome_iff_exists.mp known
      obtain ⟨done, earlier, found', outcome⟩ := joins.threads.joined token member thread present
      obtain rfl := Option.some.inj (found.symm.trans found')
      have unreported := (accounted token _ found).1
      have reported := (complete token thread present).1
      rw [none, append_nil, unreported, done, outcome] at reported
      cases reported
  · rintro rfl token thread present
    rw [filter_append, filter_reports before distinct]
    by_cases member : token ∈ tokens
    · obtain ⟨done, ⟨outcome, pending, terminal⟩, found, same⟩ :=
        joins.threads.joined token member thread present
      rw [if_pos member, (accounted token _ found).1, done]
      refine ⟨?_, nofun⟩
      cases pending with
      | false => simp [exitOf, found, same]
      | true => cases outcome <;> simp [exitOf, found, same]
    · have found := (joins.threads.others token member).symm.trans present
      obtain ⟨reported, registered⟩ := accounted token thread found
      rw [if_neg member, append_nil]
      exact ⟨reported, fun pending => joins.kept token member (registered pending)⟩

/-- What a join does. -/
theorem join_spec (system : CallSystem) (token : CallToken) :
    JoinsThreads system.threads (join token system).1.threads [token] ∧
      (join token system).1.manager = system.manager ∧
      (join token system).2.toOption.map (ManagedCallExit.mk token) = system.exitOf token := by
  have unchanged (joined : ∀ thread, system.threads token = some thread →
      thread.joinPending = false) : JoinsThreads system.threads system.threads [token] := by
    refine ⟨fun _ _ => rfl, ?_, fun _ => rfl⟩
    intro other member thread found
    obtain rfl := mem_singleton.mp member
    exact ⟨joined thread found, thread, found, rfl⟩
  rw [join, exitOf]
  cases found : system.threads token with
  | none => exact ⟨unchanged (by simp [found]), rfl, rfl⟩
  | some thread =>
    obtain ⟨outcome, pending, terminal⟩ := thread
    cases pending with
    | false => exact ⟨unchanged (by simp [found]), rfl, by cases outcome <;> rfl⟩
    | true =>
      refine ⟨⟨?_, ?_, ?_⟩, rfl, by cases outcome <;> rfl⟩
      · intro other distinct
        exact if_neg (mem_singleton.not.mp distinct)
      · intro other member after present
        obtain rfl := mem_singleton.mp member
        obtain rfl := Option.some.inj ((if_pos rfl).symm.trans present)
        exact ⟨rfl, _, found, rfl⟩
      · intro other
        by_cases same : other = token
        · subst same
          simp [setThread, found]
        · simp [setThread, same]

/-- Joins of different threads one after the other. -/
theorem JoinsThreads.cons
    {before middle after : CallToken → Option CallThread}
    (first : JoinsThreads before middle [token])
    (fresh : token ∉ tokens)
    (rest : JoinsThreads middle after tokens) : JoinsThreads before after (token :: tokens) := by
  refine ⟨?_, ?_, fun other => (rest.known other).trans (first.known other)⟩
  · intro other member
    rw [mem_cons, not_or] at member
    obtain ⟨different, member⟩ := member
    exact (rest.others other member).trans (first.others other (by simpa using different))
  · intro other member thread present
    rcases mem_cons.mp member with rfl | member
    · exact first.joined other (by simp) thread ((rest.others other fresh).symm.trans present)
    · obtain ⟨done, earlier, found, same⟩ := rest.joined other member thread present
      have different : other ∉ [token] := by
        rintro equal
        exact fresh (mem_singleton.mp equal ▸ member)
      exact ⟨done, earlier, (first.others other different).symm.trans found, same⟩

/-- A registered call that is taken out and joined. -/
theorem joinsAll_take
    (found : system.manager.calls.lookup token.callId = some token) :
    JoinsAll system
      (join token (system.setCalls (system.manager.calls.erase token.callId))).1 [token] := by
  obtain ⟨threads, manager, -⟩ :=
    join_spec (system.setCalls (system.manager.calls.erase token.callId)) token
  refine ⟨threads, ?_, ?_, by rw [manager]; rfl⟩
  · intro other different registered
    rw [manager]
    refine (AList.lookup_erase_ne ?_).trans registered
    intro same
    rw [same, found] at registered
    exact different (by simp [Option.some.inj registered])
  · intro callId other registered
    rw [manager] at registered
    exact (KeyMap.lookup_of_erase registered).2

theorem takeCall_of_lookup
    (found : system.manager.calls.lookup token.callId = some token) :
    takeCall token.callId system =
      (system.setCalls (system.manager.calls.erase token.callId), .ok token) := by
  rw [takeCall, found]

/-- The calls of a batch: different registered ones. -/
structure Batch (system : CallSystem) (tokens : List CallToken) : Prop where
  distinct : tokens.Nodup
  registered : ∀ token ∈ tokens, system.manager.calls.lookup token.callId = some token

/-- The batch after its first call was joined. -/
theorem Batch.tail
    (batch : Batch before (token :: tokens)) (joins : JoinsAll before after [token]) :
    Batch after tokens ∧ tokens.filterMap after.exitOf = tokens.filterMap before.exitOf ∧
      ∀ other ∈ tokens, after.exitOf other = before.exitOf other := by
  obtain ⟨fresh, distinct⟩ := nodup_cons.mp batch.distinct
  have different (other : CallToken) (member : other ∈ tokens) : other ∉ [token] := by
    intro equal
    exact fresh (mem_singleton.mp equal ▸ member)
  have same (other : CallToken) (member : other ∈ tokens) :
      after.exitOf other = before.exitOf other :=
    exitOf_congr (joins.threads.others other (different other member))
  refine ⟨⟨distinct, ?_⟩, filterMap_congr same, same⟩
  intro other member
  exact joins.kept other (different other member)
    (batch.registered other (mem_cons_of_mem token member))

/-- Batches joined one after the other. -/
theorem JoinsAll.cons
    {middle : CallSystem} (first : JoinsAll before middle [token]) (fresh : token ∉ tokens)
    (rest : JoinsAll middle after tokens) : JoinsAll before after (token :: tokens) := by
  refine ⟨first.threads.cons fresh rest.threads, ?_, ?_, rest.generations.trans first.generations⟩
  · intro other different registered
    rw [mem_cons, not_or] at different
    exact rest.kept other different.2 (first.kept other (by simpa using different.1) registered)
  · intro callId other registered
    exact first.registered callId other (rest.registered callId other registered)

/-- Whether joining a call now returns its report. -/
def Returns (system : CallSystem) (token : CallToken) : Prop := (system.exitOf token).isSome

instance (system : CallSystem) : DecidablePred system.Returns :=
  fun token => inferInstanceAs (Decidable (system.exitOf token).isSome)

/-- A batch stops at the first call that returns no report. -/
theorem reapEach_spec (batch : Batch system tokens)
    (exits : List ManagedCallExit) :
    ∃ done, done.Nodup ∧ (∀ token ∈ done, token ∈ tokens) ∧
      JoinsAll system (reapEach (tokens.map CallToken.callId) exits system).1 done ∧
      ((∀ token ∈ tokens, system.Returns token) ∧ done = tokens ∧
          (reapEach (tokens.map CallToken.callId) exits system).2 =
            .ok (exits ++ tokens.filterMap system.exitOf) ∨
        (¬∀ token ∈ tokens, system.Returns token) ∧
          (done.filterMap system.exitOf = [] ↔ ∀ token ∈ tokens.head?, ¬system.Returns token) ∧
          ∃ error, (reapEach (tokens.map CallToken.callId) exits system).2 = .error error) := by
  induction tokens generalizing system exits with
  | nil => exact ⟨[], nodup_nil, nofun, ⟨⟨fun _ _ => rfl, nofun, fun _ => rfl⟩,
      fun _ _ found => found, fun _ _ found => found, rfl⟩,
      .inl ⟨nofun, rfl, by simp [reapEach, pure_apply]⟩⟩
  | cons token tokens ih =>
    have found := batch.registered token (mem_cons_self ..)
    have joins := joinsAll_take found
    have returned :=
      (join_spec (system.setCalls (system.manager.calls.erase token.callId)) token).2.2
    rw [map_cons, reapEach, bind_of_ok (takeCall_of_lookup found), bind_apply, mapError_apply]
    generalize join token (system.setCalls (system.manager.calls.erase token.callId)) =
      joining at joins returned ⊢
    obtain ⟨middle, error | exit⟩ := joining
    · have unreported : system.exitOf token = none := returned.symm
      refine ⟨[token], nodup_singleton token, by simp, joins, .inr ⟨?_, ?_, _, rfl⟩⟩
      · simp [Returns, unreported]
      · simp [Returns, unreported]
    · have reported : system.exitOf token = some ⟨token, exit⟩ := returned.symm
      obtain ⟨rest, same, each⟩ := batch.tail joins
      obtain ⟨done, distinct, part, more, cases⟩ := ih rest (exits ++ [⟨token, exit⟩])
      have fresh : token ∉ done := fun member =>
        (nodup_cons.mp batch.distinct).1 (part token member)
      have returns (other : CallToken) (member : other ∈ tokens) :
          middle.Returns other ↔ system.Returns other := by
        rw [Returns, Returns, each other member]
      refine ⟨token :: done, nodup_cons.mpr ⟨fresh, distinct⟩, ?_, joins.cons fresh more, ?_⟩
      · intro other member
        exact mem_cons.mpr ((mem_cons.mp member).imp_right (part other))
      · rcases cases with ⟨all, rfl, outcome⟩ | ⟨some, -, outcome⟩
        · refine .inl ⟨?_, rfl, ?_⟩
          · intro other member
            rcases mem_cons.mp member with rfl | member
            · simp [Returns, reported]
            · exact (returns other member).mp (all other member)
          · rw [filterMap_cons_some reported, ← same, append_cons]
            exact outcome
        · refine .inr ⟨fun all => some fun other member => ?_, ?_, outcome⟩
          · exact (returns other member).mpr (all other (mem_cons_of_mem token member))
          · simp [filterMap_cons_some reported, Returns, reported]

/-- Joining calls of a cleared registry. -/
theorem joinEach_spec
    (system : CallSystem) (distinct : tokens.Nodup)
    (exits : List ManagedCallExit) (firstError : Option CallThreadError) :
    JoinsThreads system.threads (joinEach tokens exits firstError system).1.threads tokens ∧
      (joinEach tokens exits firstError system).1.manager = system.manager ∧
      ∃ error, (joinEach tokens exits firstError system).2 =
          .ok (exits ++ tokens.filterMap system.exitOf, error) ∧
        (error = none ↔ firstError = none ∧ ∀ token ∈ tokens, system.Returns token) := by
  induction tokens generalizing system exits firstError with
  | nil => exact ⟨⟨fun _ _ => rfl, nofun, fun _ => rfl⟩, rfl, firstError, by
      simp [joinEach, pure_apply]⟩
  | cons token tokens ih =>
    obtain ⟨fresh, distinct⟩ := nodup_cons.mp distinct
    obtain ⟨joins, manager, returned⟩ := join_spec system token
    rw [joinEach]
    beta_reduce
    generalize join token system = joining at joins manager returned ⊢
    obtain ⟨middle, outcome⟩ := joining
    have each (other : CallToken) (member : other ∈ tokens) :
        middle.exitOf other = system.exitOf other := by
      refine exitOf_congr (joins.others other ?_)
      rintro equal
      exact fresh (mem_singleton.mp equal ▸ member)
    have same := filterMap_congr each
    have returns : (∀ other ∈ tokens, middle.Returns other) ↔
        ∀ other ∈ tokens, system.Returns other :=
      forall₂_congr fun other member => by rw [Returns, Returns, each other member]
    rcases outcome with error | exit
    · have unreported : system.exitOf token = none := returned.symm
      obtain ⟨more, kept, last, result, empty⟩ :=
        ih middle distinct exits (firstError.or (some error))
      refine ⟨joins.cons fresh more, kept.trans manager, last, ?_, ?_⟩
      · rw [filterMap_cons_none unreported, ← same]
        exact result
      · rw [empty]
        simp [Returns, unreported]
    · have reported : system.exitOf token = some ⟨token, exit⟩ := returned.symm
      obtain ⟨more, kept, last, result, empty⟩ :=
        ih middle distinct (exits ++ [⟨token, exit⟩]) firstError
      refine ⟨joins.cons fresh more, kept.trans manager, last, ?_, ?_⟩
      · rw [filterMap_cons_some reported, ← same]
        simpa using result
      · rw [empty, returns]
        simp [Returns, reported]

/-- The registry knows the threads of its calls, and no generation comes twice. -/
structure Sound (system : CallSystem) (reports : List ManagedCallExit) : Prop where
  small : system.manager.generations.next ≤ counterMask
  registered : ∀ callId token, system.manager.calls.lookup callId = some token →
    token.callId = callId ∧ (system.threads token).isSome
  issued : ∀ token, (system.threads token).isSome →
    system.manager.generations.Issued token.generation
  reported : ∀ report ∈ reports, (system.threads report.token).isSome

/-- The registered calls are a batch. -/
theorem Sound.batch_handles
    (sound : Sound system reports) (order : IterationOrder) :
    Batch system (system.handles order) ∧
      ∀ token, system.manager.calls.lookup token.callId = some token →
        token ∈ system.handles order := by
  have keys := order.property system.manager.calls.keys
  refine ⟨⟨?_, ?_⟩, ?_⟩
  · refine List.Nodup.filterMap ?_ (keys.nodup_iff.mpr system.manager.calls.keys_nodup)
    intro first second token left right
    exact (sound.registered first token left).1.symm.trans (sound.registered second token right).1
  · intro token member
    obtain ⟨callId, -, found⟩ := mem_filterMap.mp member
    rw [(sound.registered callId token found).1]
    exact found
  · intro token found
    refine mem_filterMap.mpr ⟨token.callId, keys.mem_iff.mpr ?_, found⟩
    exact AList.mem_keys.mp (AList.lookup_isSome.mp (by rw [found]; rfl))

/-- A call after which all reports are still accounted for: either every call of its
batch returns its report, or no report is lost with the error. -/
def KeepsReports (system : CallSystem) : ManagerCall → Prop
  | .reapFinishedReports granted order =>
    granted → (∀ token ∈ system.terminalHandles order, system.Returns token) ∨
        ∀ token ∈ (system.terminalHandles order).head?, ¬system.Returns token
  | .shutdownAll granted order =>
    granted → (∀ token ∈ system.handles order, system.Returns token) ∨
        ∀ token ∈ system.handles order, ¬system.Returns token
  | _ => True

/-- What one call keeps, and when. -/
def StepKeeps (system next : CallSystem) (reports returned : List ManagedCallExit)
    (keeps : Prop) : Prop :=
  Sound next (reports ++ returned) ∧
    (system.Accounted reports → (next.Accounted (reports ++ returned) ↔ keeps))

theorem Sound.stepKeeps_self (sound : Sound system reports) :
    StepKeeps system system reports [] True := by
  rw [StepKeeps, append_nil]
  exact ⟨sound, fun accounted => iff_true_intro accounted⟩

theorem Sound.stepKeeps_of_joinsAll {returned : List ManagedCallExit} {keeps : Prop}
    (sound : Sound before reports) (distinct : tokens.Nodup) (joins : JoinsAll before after tokens)
    (either : returned = tokens.filterMap before.exitOf ∨ returned = [])
    (complete : returned = tokens.filterMap before.exitOf ↔ keeps) :
    StepKeeps before after reports returned keeps := by
  refine ⟨⟨?_, ?_, ?_, ?_⟩, fun accounted =>
    (accounted_iff_of_joinsAll accounted distinct joins either).trans complete⟩
  · rw [joins.generations]
    exact sound.small
  · intro callId token found
    rw [joins.threads.known]
    exact sound.registered callId token (joins.registered callId token found)
  · intro token found
    rw [joins.threads.known] at found
    rw [joins.generations]
    exact sound.issued token found
  · intro report member
    rw [joins.threads.known]
    rcases mem_append.mp member with member | member
    · exact sound.reported report member
    · rcases either with rfl | rfl
      · obtain ⟨token, -, returns⟩ := mem_filterMap.mp member
        obtain ⟨exit, terminal, found, rfl⟩ := exitOf_eq_some.mp returns
        rw [found]
        rfl
      · cases member

theorem Sound.stepKeeps_spawn (sound : Sound system reports)
    (granted started : Bool) (callId : UInt64) (outcome : Option CallExit) :
    StepKeeps system (spawn granted started callId outcome system).1 reports [] True := by
  rw [spawn]
  cases allocated : system.manager.generations.allocate with
  | none => split_ifs <;> exact sound.stepKeeps_self
  | some pair =>
    obtain ⟨generation, generations⟩ := pair
    obtain ⟨fresh, small, issued, earlier⟩ := IdGenerator.issued_of_allocate sound.small allocated
    have old (token : CallToken) (known : (system.threads token).isSome) :
        generations.Issued token.generation ∧ token ≠ ⟨callId, generation⟩ := by
      refine ⟨earlier _ (sound.issued token known), ?_⟩
      rintro rfl
      exact fresh (sound.issued _ known)
    dsimp only
    iterate 4
      split
      · exact sound.stepKeeps_self
    rename_i duplicate _ _
    rw [StepKeeps, append_nil]
    split
    · exact ⟨⟨small, sound.registered, fun token known => (old token known).1, sound.reported⟩,
        fun accounted => iff_true_intro accounted⟩
    · have absent (other : CallToken)
          (found : system.manager.calls.lookup other.callId = some other) :
          other.callId ≠ callId := by
        rintro rfl
        exact duplicate (AList.lookup_isSome.mp (by rw [found]; rfl))
      refine ⟨⟨small, ?_, ?_, ?_⟩, fun accounted => iff_true_intro ?_⟩
      · intro other token found
        obtain ⟨rfl, rfl⟩ | ⟨-, before⟩ := KeyMap.lookup_insert_cases found
        · exact ⟨rfl, by simp [setThread]⟩
        · obtain ⟨named, known⟩ := sound.registered other token before
          exact ⟨named, by simpa [setThread, setCalls, (old token known).2] using known⟩
      · intro token known
        by_cases same : token = ⟨callId, generation⟩
        · rw [same]
          exact issued
        · exact (old token (by simpa [setThread, setCalls, same] using known)).1
      · intro report member
        have known := sound.reported report member
        simpa [setThread, setCalls, (old _ known).2] using known
      · intro token thread found
        by_cases same : token = ⟨callId, generation⟩
        · subst same
          obtain rfl : _ = thread := Option.some.inj ((if_pos rfl).symm.trans found)
          refine ⟨filter_eq_nil_iff.mpr fun report member => ?_,
            fun _ => AList.lookup_insert _⟩
          simpa using (old _ (sound.reported report member)).2
        · obtain ⟨reported, registered⟩ := accounted token thread ((if_neg same).symm.trans found)
          refine ⟨reported, fun pending => ?_⟩
          exact (AList.lookup_insert_ne (absent token (registered pending))).trans
            (registered pending)

theorem Sound.stepKeeps_threadEnds (sound : Sound system reports)
    (token : CallToken) : StepKeeps system (system.threadEnds token) reports [] True := by
  rw [threadEnds]
  cases found : system.threads token with
  | none => exact sound.stepKeeps_self
  | some thread =>
    have known (other : CallToken) :
        ((system.setThread token { thread with terminal := true }).threads other).isSome =
          (system.threads other).isSome := by
      by_cases same : other = token
      · simp [setThread, same, found]
      · simp [setThread, same]
    rw [StepKeeps, append_nil]
    refine ⟨⟨sound.small, ?_, ?_, ?_⟩, fun accounted => iff_true_intro ?_⟩
    · intro callId other registered
      rw [known]
      exact sound.registered callId other registered
    · intro other present
      exact sound.issued other (known other ▸ present)
    · intro report member
      rw [known]
      exact sound.reported report member
    · intro other after present
      by_cases same : other = token
      · subst same
        obtain rfl : _ = after := Option.some.inj ((if_pos rfl).symm.trans present)
        exact accounted other thread found
      · exact accounted other after ((if_neg same).symm.trans present)

theorem toOption_mapError (convert : ε → δ) (outcome : Except ε α) :
    (outcome.mapError convert).toOption = outcome.toOption := by
  cases outcome <;> rfl

theorem toList_exitOf (system : CallSystem) (token : CallToken) :
    (system.exitOf token).toList = [token].filterMap system.exitOf := by
  cases reported : system.exitOf token <;> simp [reported]

theorem Sound.stepKeeps_join (sound : Sound system reports)
    (token : CallToken) :
    StepKeeps system (join token system).1 reports
      ((join token system).2.toOption.map (ManagedCallExit.mk token)).toList True := by
  obtain ⟨threads, manager, returned⟩ := join_spec system token
  rw [returned, toList_exitOf]
  refine sound.stepKeeps_of_joinsAll (nodup_singleton token)
    ⟨threads, ?_, ?_, by rw [manager]⟩ (.inl rfl) (by simp)
  · intro other _ registered
    rw [manager]
    exact registered
  · intro callId other registered
    rw [manager] at registered
    exact registered

theorem Sound.stepKeeps_remove (sound : Sound system reports)
    (token : CallToken) :
    StepKeeps system (remove token system).1 reports
      ((remove token system).2.toOption.map (ManagedCallExit.mk token)).toList True := by
  rw [remove, bind_apply, verify]
  cases found : system.manager.calls.lookup token.callId with
  | none => exact sound.stepKeeps_self
  | some handle =>
    dsimp only
    split_ifs with stale
    · exact sound.stepKeeps_self
    · obtain ⟨named, -⟩ := sound.registered _ _ found
      obtain rfl : handle = token := by
        cases handle
        cases token
        simp_all
      have returned :=
        (join_spec (system.setCalls (system.manager.calls.erase handle.callId)) handle).2.2
      dsimp only
      rw [bind_of_ok (takeCall_of_lookup found), mapError_apply,
        toOption_mapError, returned, toList_exitOf]
      exact sound.stepKeeps_of_joinsAll (nodup_singleton handle) (joinsAll_take found)
        (.inl rfl) (by simp; rfl)

theorem Sound.stepKeeps_reapFinishedReports (sound : Sound system reports)
    (granted : Bool) (order : IterationOrder) :
    StepKeeps system (reapFinishedReports granted order system).1 reports
      ((reapFinishedReports granted order system).2.toOption.getD [])
      (system.KeepsReports (.reapFinishedReports granted order)) := by
  rw [reapFinishedReports, KeepsReports]
  cases granted with
  | false => simpa [Except.toOption] using sound.stepKeeps_self
  | true =>
    have batch : Batch system (system.terminalHandles order) :=
      ⟨(sound.batch_handles order).1.distinct.filter _, fun token member =>
        (sound.batch_handles order).1.registered token (mem_of_mem_filter member)⟩
    obtain ⟨done, distinct, -, joins, outcome⟩ := reapEach_spec batch []
    rw [if_neg nofun, bind_apply, read_apply]
    dsimp only
    rcases outcome with ⟨all, rfl, returned⟩ | ⟨some, lost, error, failed⟩
    · rw [returned]
      exact sound.stepKeeps_of_joinsAll distinct joins (.inl rfl)
        (iff_of_true rfl fun _ => .inl all)
    · rw [failed]
      refine sound.stepKeeps_of_joinsAll distinct joins (.inr rfl) ?_
      rw [Except.toOption, Option.getD_none, eq_comm, lost]
      exact ⟨fun first _ => .inr first, fun keeps => (keeps rfl).resolve_left some⟩

theorem Sound.stepKeeps_shutdownAll (sound : Sound system reports)
    (granted : Bool) (order : IterationOrder) :
    StepKeeps system (shutdownAll granted order system).1 reports
      ((shutdownAll granted order system).2.toOption.getD [])
      (system.KeepsReports (.shutdownAll granted order)) := by
  rw [KeepsReports]
  cases granted with
  | false => simpa [shutdownAll, Except.toOption] using sound.stepKeeps_self
  | true =>
    obtain ⟨batch, all⟩ := sound.batch_handles order
    let cleared : CallSystem :=
      { system with manager := { system.manager with calls := ∅, accepting := false } }
    obtain ⟨threads, manager, firstError, returned, complete⟩ :=
      joinEach_spec cleared batch.distinct [] none
    have joining : joinEach (system.handles order) [] none cleared =
        ((joinEach (system.handles order) [] none cleared).1,
          .ok ((system.handles order).filterMap system.exitOf, firstError)) :=
      Prod.ext rfl returned
    have joins : JoinsAll system (joinEach (system.handles order) [] none cleared).1
        (system.handles order) := by
      refine ⟨threads, fun token outside found => absurd (all token found) outside, ?_, ?_⟩
      · intro callId token found
        rw [manager] at found
        cases found
      · rw [manager]
    have run : shutdownAll true order system =
        ((joinEach (system.handles order) [] none cleared).1,
          match firstError with
          | some error => .error (.thread error)
          | none => .ok ((system.handles order).filterMap system.exitOf)) := by
      rw [shutdownAll, if_neg nofun, modify_bind, bind_apply, read_apply]
      dsimp only
      rw [modify_bind]
      refine (bind_of_ok joining _).trans ?_
      cases firstError <;> rfl
    rw [run]
    cases firstError with
    | none =>
      exact sound.stepKeeps_of_joinsAll batch.distinct joins (.inl rfl)
        (iff_of_true rfl fun _ => .inl (complete.mp rfl).2)
    | some error =>
      have some : ¬∀ token ∈ system.handles order, system.Returns token := fun every =>
        absurd (complete.mpr ⟨rfl, every⟩) nofun
      refine sound.stepKeeps_of_joinsAll batch.distinct joins (.inr rfl) ?_
      rw [Except.toOption, Option.getD_none, eq_comm, filterMap_eq_nil_iff]
      have lost (token : CallToken) : system.exitOf token = none ↔ ¬system.Returns token :=
        Option.not_isSome_iff_eq_none.symm
      rw [forall₂_congr fun token _ => lost token]
      exact ⟨fun lost _ => .inr lost, fun keeps => (keeps rfl).resolve_left some⟩

/-- One call keeps everything accounted for exactly where it keeps the reports. -/
theorem Sound.stepKeeps_step (sound : Sound system reports)
    (call : ManagerCall) :
    StepKeeps system (system.step call).1 reports (system.step call).2
      (system.KeepsReports call) := by
  cases call with
  | spawn granted started callId outcome =>
    exact sound.stepKeeps_spawn granted started callId outcome
  | threadEnds token => exact sound.stepKeeps_threadEnds token
  | join token => exact sound.stepKeeps_join token
  | remove token => exact sound.stepKeeps_remove token
  | reapFinishedReports granted order => exact sound.stepKeeps_reapFinishedReports granted order
  | shutdownAll granted order => exact sound.stepKeeps_shutdownAll granted order

/-- The reports returned in a run. -/
def reportsOf (fresh : CallSystem) (calls : List ManagerCall) : List ManagedCallExit :=
  (Run.outputs step fresh calls).flatten

/-- After a step of a run, everything is accounted for. -/
def AccountedAfter (fresh : CallSystem) (earlier : List ManagerCall) (call : ManagerCall) : Prop :=
  (Run.after step fresh (earlier ++ [call])).Accounted (fresh.reportsOf (earlier ++ [call]))

/-- The state reached in a run. -/
theorem sound_after
    {granted : Bool} {capacity : Nat} {multiplier offset : UInt64} {fresh : CallSystem}
    (created : new granted capacity multiplier offset = .ok fresh) (calls : List ManagerCall) :
    Sound (Run.after step fresh calls) (fresh.reportsOf calls) := by
  induction calls using reverseRecOn with
  | nil =>
    rw [new] at created
    split_ifs at created
    cases created
    exact ⟨(by decide : 1 ≤ counterMask), nofun, nofun, nofun⟩
  | append_singleton earlier call ih =>
    rw [reportsOf, Run.outputs_concat, flatten_append, Run.after_append]
    simpa [Run.output, reportsOf] using (ih.stepKeeps_step call).1

/-- In every run, everything is accounted for after each step exactly if each step keeps
the reports of its batch. -/
theorem accountedAfter_iff
    {granted : Bool} {capacity : Nat} {multiplier offset : UInt64} {fresh : CallSystem}
    (created : new granted capacity multiplier offset = .ok fresh) (calls : List ManagerCall) :
    Run.AllSteps fresh.AccountedAfter calls ↔ Run.AllSteps
        (fun earlier call => (Run.after step fresh earlier).KeepsReports call) calls := by
  refine Run.allSteps_congr_of_prior (fun earlier call prior => ?_) calls
  have accounted : (Run.after step fresh earlier).Accounted (fresh.reportsOf earlier) := by
    rcases eq_nil_or_concat' earlier with rfl | ⟨before, last, rfl⟩
    · rw [new] at created
      split_ifs at created
      cases created
      exact nofun
    · exact prior before last [] rfl
  have keeps := ((sound_after created earlier).stepKeeps_step call).2 accounted
  rw [AccountedAfter, reportsOf, Run.outputs_concat, flatten_append, Run.after_append]
  simpa [Run.output, reportsOf] using keeps

/-- The call with a counter, in a registry whose generations are not permuted. -/
def numberedCall (counter : Nat) : CallToken := ⟨.ofNat counter, 2 ^ 63 + counter⟩

/-- Two calls end.  The holder of a handle joins the first one, and then both are
reaped. -/
def joinedElsewhere : List ManagerCall :=
  [.spawn true true 1 (some ⟨.completed⟩), .spawn true true 2 (some ⟨.completed⟩),
    .threadEnds (numberedCall 1), .threadEnds (numberedCall 2), .join (numberedCall 1),
    .reapFinishedReports true ⟨id, fun _ => .rfl⟩]

theorem accountedAfter_iff_joinedElsewhere :
    ∃ fresh, new true 2 1 0 = .ok fresh ∧ (Run.AllSteps fresh.AccountedAfter joinedElsewhere ↔
        Run.AllSteps (fun earlier call => (Run.after step fresh earlier).KeepsReports call)
          joinedElsewhere) := by
  refine ⟨_, rfl, ?_⟩
  exact accountedAfter_iff (rfl : new true 2 1 0 = .ok _) joinedElsewhere

/-- The report of the second call is lost with the error of the first. -/
theorem not_accountedAfter_joinedElsewhere :
    ¬∀ fresh, new true 2 1 0 = .ok fresh → Run.AllSteps fresh.AccountedAfter joinedElsewhere := by
  intro always
  have lost := (always _ rfl (joinedElsewhere.take 5) _ [] rfl (numberedCall 2)
    ⟨some ⟨.completed⟩, false, true⟩ (by decide)).1
  revert lost
  decide

end CallSystem

end Execution
end Call
end LiveAISIP
